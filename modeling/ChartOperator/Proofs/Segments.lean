import ChartOperator.Duration.Parser
import ChartOperator.Proofs.Text

/-!
# The segments of a duration

A text is cut into segments in one way only.  A unit ends where a digit or the end follows, so the
decision whether a text is a sequence of segments and the search for its segments agree: what is
found is the whole text, no character less and none twice.  A text is refused for nothing but its
size if it is such a sequence in ASCII digits or a bare zero, and every other text is no duration.
-/

namespace ChartOperator.Duration

/-! ## Segments as they are written -/

/-- A run of one or more digits. -/
def IsRun (isDigit : Char → Bool) (cs : List Char) : Prop :=
  cs ≠ [] ∧ ∀ c ∈ cs, isDigit c = true

-- The characters of the run are tried one by one, and not all characters that there are.
instance (isDigit : Char → Bool) (cs : List Char) : Decidable (IsRun isDigit cs) :=
  @instDecidableAnd _ _ _ (List.decidableBAll _ cs)

/-- The text of an optional fraction. -/
def pointed : Option (List Char) → List Char
  | none => []
  | some digits => '.' :: digits

namespace Segment

/-- The text of a segment. -/
def text (segment : Segment) : List Char :=
  segment.whole ++ pointed segment.fraction ++ segment.unit

/-- Whether a segment is a run of digits, with a point and another run or without, and a unit. -/
structure IsProper (isDigit : Char → Bool) (segment : Segment) : Prop where
  whole : IsRun isDigit segment.whole
  fraction : ∀ digits ∈ segment.fraction, IsRun isDigit digits
  unit : segment.unit ∈ ["ns", "us", "µs", "ms", "s", "m", "h"].map String.toList

end Segment

/-- Whether a text is made of one or more segments with digits of the given kind. -/
structure MadeOf (isDigit : Char → Bool) (cs : List Char) (parts : List Segment) : Prop where
  nonempty : parts ≠ []
  proper : ∀ segment ∈ parts, segment.IsProper isDigit
  text : parts.flatMap Segment.text = cs

theorem unitNames_eq :
    unitNames = ["ns", "us", "µs", "ms", "s", "m", "h"].map String.toList := by
  decide +kernel

theorem Segment.IsProper.named {isDigit : Char → Bool} {segment : Segment}
    (proper : segment.IsProper isDigit) : segment.unit ∈ unitNames := by
  rw [unitNames_eq]
  exact proper.unit

/-! ## Reading a unit -/

/-- Whether what follows would make a longer unit out of minutes. -/
def IsCutShort (unit rest : List Char) : Prop :=
  unit = ['m'] ∧ rest.head? = some 's'

/-- A unit starts with a letter that is part of no number. -/
theorem head?_unit {unit : List Char} (mem : unit ∈ unitNames) :
    ∃ c rest, unit = c :: rest ∧ Text.isDecimalDigit c = false ∧ c ≠ '.' := by
  have starts : ∀ name ∈ unitNames,
      name.head?.any (fun c => !Text.isDecimalDigit c && c != '.') = true := by
    decide +kernel
  have first := starts unit mem
  cases unit with
  | nil => cases first
  | cons c rest => exact ⟨c, rest, rfl, by simpa using first⟩

theorem readUnit?_append {unit rest : List Char} (mem : unit ∈ unitNames)
    (whole : ¬ IsCutShort unit rest) : readUnit? (unit ++ rest) = some (unit, rest) := by
  have noSecond : unit = ['m'] → ['s'].isPrefixOf rest = false := by
    intro minutes
    cases rest with
    | nil => rfl
    | cons c rest =>
        have other : 's' ≠ c := fun same => whole ⟨minutes, by rw [← same]; rfl⟩
        simp [List.isPrefixOf, other]
  simp only [unitNames, List.mem_cons, List.not_mem_nil, or_false] at mem
  rcases mem with rfl | rfl | rfl | rfl | rfl | rfl | rfl
  all_goals simp_all [readUnit?, unitNames, List.find?, List.isPrefixOf]

theorem readUnit?_eq_some_iff {cs unit rest : List Char} :
    readUnit? cs = some (unit, rest) ↔
      unit ∈ unitNames ∧ cs = unit ++ rest ∧ ¬ IsCutShort unit rest := by
  constructor
  · intro read
    obtain ⟨found, isFound, same⟩ := Option.map_eq_some_iff.mp read
    obtain ⟨rfl, rfl⟩ := Prod.mk.inj same
    have starts : found <+: cs :=
      List.isPrefixOf_iff_prefix.mp (by simpa using List.find?_some isFound)
    obtain ⟨rest, rfl⟩ := starts
    rw [List.drop_left]
    refine ⟨List.mem_of_find?_eq_some isFound, rfl, ?_⟩
    rintro ⟨rfl, second⟩
    obtain ⟨after, rfl⟩ := List.head?_eq_some_iff.mp second
    -- Milliseconds are tried before minutes.
    simp [unitNames, List.find?, List.isPrefixOf] at isFound
  · rintro ⟨mem, rfl, whole⟩
    exact readUnit?_append mem whole

theorem unit_eq_of_milliseconds {unit rest : List Char} (mem : unit ∈ unitNames)
    (whole : ¬ IsCutShort unit rest) (starts : ['m', 's'] <+: unit ++ rest) :
    unit = ['m', 's'] := by
  simp only [unitNames, List.mem_cons, List.not_mem_nil, or_false] at mem
  rcases mem with rfl | rfl | rfl | rfl | rfl | rfl | rfl
  case inr.inr.inr.inl => rfl
  case inr.inr.inr.inr.inr.inl =>
    obtain ⟨after, same⟩ := starts
    obtain rfl : 's' :: after = rest := by simpa using same
    exact absurd ⟨rfl, rfl⟩ whole
  all_goals simp at starts

/-! ## Reading a segment -/

/-- Neither a digit nor a point follows the number of a segment. -/
theorem ends_of_unit {unit : List Char} (mem : unit ∈ unitNames) (rest : List Char) :
    ∀ c ∈ (unit ++ rest).head?, Text.isDecimalDigit c = false ∧ c ≠ '.' := by
  obtain ⟨first, others, rfl, noDigit, noPoint⟩ := head?_unit mem
  intro c isFirst
  obtain rfl : first = c := by simpa using isFirst
  exact ⟨noDigit, noPoint⟩

theorem readFraction_append {fraction : Option (List Char)} {rest : List Char}
    (proper : ∀ digits ∈ fraction, IsRun Text.isDecimalDigit digits)
    (ends : ∀ c ∈ rest.head?, Text.isDecimalDigit c = false ∧ c ≠ '.') :
    readFraction (pointed fraction ++ rest) = (fraction, rest) := by
  cases fraction with
  | none =>
      rw [pointed, List.nil_append]
      unfold readFraction
      split
      · exact absurd rfl (ends '.' rfl).2
      · rfl
  | some digits =>
      obtain ⟨nonempty, inRun⟩ := proper digits rfl
      obtain ⟨taken, left⟩ := Text.span_append rest inRun fun c first => (ends c first).1
      rw [pointed, List.cons_append, readFraction, taken, left]
      simp [nonempty]

/-- What is read as a fraction, with its point, and what is left are the whole text. -/
theorem readFraction_spec (cs : List Char) :
    pointed (readFraction cs).1 ++ (readFraction cs).2 = cs ∧
      ∀ digits ∈ (readFraction cs).1, IsRun Text.isDecimalDigit digits := by
  unfold readFraction
  split
  · rename_i rest
    dsimp only
    split
    · exact ⟨rfl, by simp⟩
    · rename_i nonempty
      refine ⟨by simp [pointed], ?_⟩
      rintro digits ⟨⟩
      exact ⟨by simpa using nonempty, fun c mem => List.mem_takeWhile_imp mem⟩
  · exact ⟨rfl, by simp⟩

namespace Segment

theorem read?_append {segment : Segment} {rest : List Char}
    (proper : segment.IsProper Text.isDecimalDigit) (whole : ¬ IsCutShort segment.unit rest) :
    read? (segment.text ++ rest) = some (segment, rest) := by
  have ends := ends_of_unit proper.named rest
  have fraction := readFraction_append proper.fraction ends
  have noDigit : ∀ c ∈ (pointed segment.fraction ++ (segment.unit ++ rest)).head?,
      Text.isDecimalDigit c = false := by
    cases segment.fraction with
    | none => exact fun c first => (ends c first).1
    | some digits =>
        rintro c ⟨⟩
        decide +kernel
  obtain ⟨taken, left⟩ := Text.span_append _ proper.whole.2 noDigit
  have unit := readUnit?_append proper.named whole
  rw [text, List.append_assoc, List.append_assoc, read?, taken, left, fraction]
  simp [proper.whole.1, unit]

/-- What is read at the head of a text is a segment that stands there, with the longest unit. -/
theorem read?_eq_some_iff {cs rest : List Char} {segment : Segment} :
    read? cs = some (segment, rest) ↔
      segment.IsProper Text.isDecimalDigit ∧ cs = segment.text ++ rest ∧
        ¬ IsCutShort segment.unit rest := by
  constructor
  · intro read
    unfold read? at read
    dsimp only at read
    split at read
    · cases read
    · rename_i nonempty
      obtain ⟨⟨unit, left⟩, unitRead, same⟩ := Option.map_eq_some_iff.mp read
      obtain ⟨rfl, rfl⟩ := Prod.mk.inj same
      obtain ⟨named, split, whole⟩ := readUnit?_eq_some_iff.mp unitRead
      obtain ⟨fractionSplit, fractionProper⟩ :=
        readFraction_spec (cs.dropWhile Text.isDecimalDigit)
      refine ⟨⟨⟨by simpa using nonempty, fun c mem => List.mem_takeWhile_imp mem⟩,
        fractionProper, ?_⟩, ?_, whole⟩
      · rw [← unitNames_eq]
        exact named
      · rw [text, List.append_assoc, List.append_assoc, ← split, fractionSplit,
          List.takeWhile_append_dropWhile]
  · rintro ⟨proper, rfl, whole⟩
    exact read?_append proper whole

/-- A segment starts with a digit, so it makes no unit before it longer. -/
theorem exists_text_eq_cons {segment : Segment} (proper : segment.IsProper Text.isDecimalDigit) :
    ∃ c rest, segment.text = c :: rest ∧ Text.isDecimalDigit c = true := by
  obtain ⟨c, others, split⟩ := List.exists_cons_of_ne_nil proper.whole.1
  refine ⟨c, others ++ pointed segment.fraction ++ segment.unit, by simp [text, split], ?_⟩
  exact proper.whole.2 c (by simp [split])

end Segment

/-! ## Reading all segments -/

section Parts

variable {cs : List Char} {parts : List Segment}

theorem not_isCutShort {unit : List Char}
    (proper : ∀ segment ∈ parts, segment.IsProper Text.isDecimalDigit) :
    ¬ IsCutShort unit (parts.flatMap Segment.text) := by
  rintro ⟨-, second⟩
  cases parts with
  | nil => cases second
  | cons segment others =>
      obtain ⟨c, rest, split, digit⟩ := Segment.exists_text_eq_cons (proper segment (by simp))
      rw [List.flatMap_cons, split] at second
      obtain rfl : c = 's' := by simpa using second
      exact absurd digit (by decide +kernel)

/-- The first of some segments is read from their text, and the text of the others is left. -/
theorem read?_flatMap {segment : Segment} {others : List Segment}
    (proper : ∀ part ∈ segment :: others, part.IsProper Text.isDecimalDigit) :
    Segment.read? ((segment :: others).flatMap Segment.text) =
      some (segment, others.flatMap Segment.text) := by
  obtain ⟨first, rest⟩ := List.forall_mem_cons.mp proper
  rw [List.flatMap_cons]
  exact Segment.read?_append first (not_isCutShort rest)

theorem flatMap_text_eq_nil_iff (proper : ∀ part ∈ parts, part.IsProper Text.isDecimalDigit) :
    parts.flatMap Segment.text = [] ↔ parts = [] := by
  constructor
  · intro nothing
    cases parts with
    | nil => rfl
    | cons segment others =>
        obtain ⟨c, rest, split, -⟩ := Segment.exists_text_eq_cons (proper segment (by simp))
        simp [split] at nothing
  · rintro rfl
    rfl

/-- The search finds the segments of which a text is made, without passing over a character. -/
theorem segments_flatMap (proper : ∀ part ∈ parts, part.IsProper Text.isDecimalDigit) :
    segments (parts.flatMap Segment.text) = parts := by
  induction parts with
  | nil => rw [List.flatMap_nil, segments]
  | cons segment others ih =>
      have read := read?_flatMap proper
      cases whole : (segment :: others).flatMap Segment.text with
      | nil => cases (flatMap_text_eq_nil_iff proper).mp whole
      | cons c rest =>
          rw [whole] at read
          rw [segments]
          split
          · rename_i found left again
            rw [read] at again
            cases again
            rw [ih (List.forall_mem_cons.mp proper).2]
          · rename_i unread
            rw [read] at unread
            cases unread

theorem isSequence_of_read? {segment : Segment} {rest : List Char}
    (read : Segment.read? cs = some (segment, rest)) :
    isSequence cs = (rest.isEmpty || isSequence rest) := by
  rw [isSequence]
  split
  · rename_i unread
    rw [read] at unread
    cases unread
  · rename_i again
    rw [read] at again
    cases again
    rfl

theorem isSequence_flatMap (nonempty : parts ≠ [])
    (proper : ∀ part ∈ parts, part.IsProper Text.isDecimalDigit) :
    isSequence (parts.flatMap Segment.text) = true := by
  induction parts with
  | nil => contradiction
  | cons segment others ih =>
      rw [isSequence_of_read? (read?_flatMap proper)]
      cases others with
      | nil => rfl
      | cons next more =>
          rw [ih (List.cons_ne_nil _ _) (List.forall_mem_cons.mp proper).2, Bool.or_true]

/-- A text that is taken for a sequence is made of segments.  By induction on the reading. -/
theorem exists_madeOf_of_isSequence (sequence : isSequence cs = true) :
    ∃ parts, MadeOf Text.isDecimalDigit cs parts := by
  induction cs using isSequence.induct with
  | case1 cs unread =>
      rw [isSequence] at sequence
      split at sequence
      · cases sequence
      · rename_i read
        rw [unread] at read
        cases read
  | case2 cs segment rest read ih =>
      obtain ⟨proper, rfl, -⟩ := Segment.read?_eq_some_iff.mp read
      rw [isSequence_of_read? read, Bool.or_eq_true, List.isEmpty_iff] at sequence
      rcases sequence with rfl | sequence
      · exact ⟨[segment], List.cons_ne_nil _ _, by simpa using proper, by simp⟩
      · obtain ⟨others, made⟩ := ih sequence
        refine ⟨segment :: others, List.cons_ne_nil _ _, ?_, ?_⟩
        · exact List.forall_mem_cons.mpr ⟨proper, made.proper⟩
        · rw [List.flatMap_cons, made.text]

/-- The decision about a text and the search for its segments agree. -/
theorem isSequence_iff :
    isSequence cs = true ↔ MadeOf Text.isDecimalDigit cs (segments cs) := by
  constructor
  · intro sequence
    obtain ⟨parts, made⟩ := exists_madeOf_of_isSequence sequence
    rw [← made.text, segments_flatMap made.proper, made.text]
    exact made
  · intro made
    rw [← made.text]
    exact isSequence_flatMap made.nonempty made.proper

theorem eq_segments_of_madeOf (made : MadeOf Text.isDecimalDigit cs parts) :
    parts = segments cs := by
  rw [← made.text, segments_flatMap made.proper]

/-! ## The values of segments -/

theorem Segment.IsProper.decimal {segment : Segment} (proper : segment.IsProper Char.isDigit) :
    segment.IsProper Text.isDecimalDigit where
  whole := ⟨proper.whole.1, fun c mem => Text.isDecimalDigit_of_isDigit (proper.whole.2 c mem)⟩
  fraction digits some :=
    ⟨(proper.fraction digits some).1,
      fun c mem => Text.isDecimalDigit_of_isDigit ((proper.fraction digits some).2 c mem)⟩
  unit := proper.unit

theorem MadeOf.decimal (made : MadeOf Char.isDigit cs parts) :
    MadeOf Text.isDecimalDigit cs parts where
  nonempty := made.nonempty
  proper segment mem := (made.proper segment mem).decimal
  text := made.text

/-- A segment has a number exactly if all its digits are ASCII digits. -/
theorem Segment.exists_number?_iff {segment : Segment}
    (proper : segment.IsProper Text.isDecimalDigit) :
    (∃ number, segment.number? = some number) ↔ segment.IsProper Char.isDigit := by
  obtain ⟨⟨nonempty, -⟩, fraction, named⟩ := proper
  have ascii : (∃ number, segment.number? = some number) ↔
      ∀ c ∈ segment.whole ++ segment.fraction.getD [], c.isDigit = true := by
    simp [number?, or_imp, forall_and]
  rw [ascii, List.forall_mem_append]
  constructor
  · rintro ⟨wholeAscii, fractionAscii⟩
    refine ⟨⟨nonempty, wholeAscii⟩, fun digits some => ⟨(fraction digits some).1, ?_⟩, named⟩
    rw [Option.mem_def.mp some] at fractionAscii
    exact fractionAscii
  · intro proper
    refine ⟨proper.whole.2, ?_⟩
    cases written : segment.fraction with
    | none => simp
    | some digits => exact (proper.fraction digits written).2

theorem exists_ofName? {unit : List Char} (mem : unit ∈ unitNames) :
    ∃ timeUnit, TimeUnit.ofName? unit = some timeUnit := by
  have known : ∀ name ∈ unitNames, (TimeUnit.ofName? name).isSome = true := by
    decide +kernel
  exact Option.isSome_iff_exists.mp (known unit mem)

/-- A segment has a value exactly if it is written in ASCII digits; its unit is always known. -/
theorem Segment.seconds_of_isProper {segment : Segment}
    (proper : segment.IsProper Text.isDecimalDigit) :
    (segment.IsProper Char.isDigit ∧ ∃ seconds, segment.seconds = .ok seconds) ∨
      (¬ segment.IsProper Char.isDigit ∧ segment.seconds = .error .badNumber) := by
  obtain ⟨timeUnit, known⟩ := exists_ofName? proper.named
  rw [← exists_number?_iff proper, seconds]
  cases segment.number? with
  | none => simp
  | some number => simp [known]

/-- All digits in a segment in ASCII digits are ASCII digits, those of the unit included, as there
are none. -/
theorem Segment.isDigit_of_mem_text {segment : Segment} (proper : segment.IsProper Char.isDigit)
    {c : Char} (mem : c ∈ segment.text) (decimal : Text.isDecimalDigit c = true) :
    c.isDigit = true := by
  have noDigit : ∀ name ∈ unitNames, name.all (fun d => !Text.isDecimalDigit d) = true := by
    decide +kernel
  rw [text, List.append_assoc, List.mem_append, List.mem_append] at mem
  rcases mem with inWhole | inFraction | inUnit
  · exact proper.whole.2 c inWhole
  · cases written : segment.fraction with
    | none =>
        rw [written] at inFraction
        cases inFraction
    | some digits =>
        rw [written, pointed, List.mem_cons] at inFraction
        rcases inFraction with rfl | inDigits
        · exact absurd decimal (by decide +kernel)
        · exact (proper.fraction digits written).2 c inDigits
  · have letter := List.all_eq_true.mp (noDigit _ proper.named) c inUnit
    rw [decimal] at letter
    cases letter

/-- Segments have a sum exactly if all of them are written in ASCII digits. -/
theorem sumSeconds_of_isProper (proper : ∀ part ∈ parts, part.IsProper Text.isDecimalDigit)
    (sum : Magnitude) :
    ((∀ part ∈ parts, part.IsProper Char.isDigit) ∧ ∃ total, sumSeconds sum parts = .ok total) ∨
      (¬ (∀ part ∈ parts, part.IsProper Char.isDigit) ∧
        sumSeconds sum parts = .error .badNumber) := by
  induction parts generalizing sum with
  | nil => exact Or.inl ⟨by simp, sum, rfl⟩
  | cons segment others ih =>
      obtain ⟨first, rest⟩ := List.forall_mem_cons.mp proper
      rw [List.forall_mem_cons, sumSeconds]
      rcases Segment.seconds_of_isProper first with ⟨ascii, seconds, valued⟩ | ⟨notAscii, failed⟩
      · rw [valued]
        rcases ih rest (sum.add seconds) with ⟨othersAscii, summed⟩ | ⟨notAll, failed⟩
        · exact Or.inl ⟨⟨ascii, othersAscii⟩, summed⟩
        · exact Or.inr ⟨fun all => notAll all.2, failed⟩
      · rw [failed]
        exact Or.inr ⟨fun all => notAscii all.1, rfl⟩

theorem ofSegments_of_sum {sum : Magnitude} {d : Duration}
    (summed : sumSeconds (.finite 0) parts = .ok sum) (rounded : ofMagnitude? sum = some d) :
    ofSegments parts = .ok d := by
  rw [ofSegments, summed]
  dsimp only
  rw [rounded]

/-- Segments in ASCII digits have a duration, unless it is too long. -/
theorem ofSegments_of_ascii (proper : ∀ part ∈ parts, part.IsProper Char.isDigit) :
    (∃ d, ofSegments parts = .ok d) ∨ ofSegments parts = .error .outOfRange := by
  rcases sumSeconds_of_isProper (fun part mem => (proper part mem).decimal) (.finite 0) with
    ⟨-, total, summed⟩ | ⟨notAscii, -⟩
  · cases rounded : ofMagnitude? total with
    | none => exact Or.inr (by simp [ofSegments, summed, rounded])
    | some d => exact Or.inl ⟨d, ofSegments_of_sum summed rounded⟩
  · exact absurd proper notAscii

theorem ofSegments_of_not_ascii (proper : ∀ part ∈ parts, part.IsProper Text.isDecimalDigit)
    (notAscii : ¬ ∀ part ∈ parts, part.IsProper Char.isDigit) :
    ofSegments parts = .error .badNumber := by
  rcases sumSeconds_of_isProper proper (.finite 0) with ⟨ascii, -⟩ | ⟨-, failed⟩
  · exact absurd ascii notAscii
  · rw [ofSegments, failed]

/-! ## Reading a text without surrounding blanks -/

theorem parseTrimmed_of_madeOf (made : MadeOf Text.isDecimalDigit cs parts) :
    parseTrimmed cs = ofSegments parts := by
  have found := eq_segments_of_madeOf made
  have sequence : isSequence cs = true := by
    rw [isSequence_iff, ← found]
    exact made
  have notZero : cs ≠ ['0'] := by
    rintro rfl
    exact absurd sequence (by decide +kernel)
  obtain ⟨segment, others, rfl⟩ := List.exists_cons_of_ne_nil made.nonempty
  obtain ⟨c, rest, first, digit⟩ :=
    Segment.exists_text_eq_cons (made.proper segment List.mem_cons_self)
  have start : cs = c :: (rest ++ others.flatMap Segment.text) := by
    rw [← made.text, List.flatMap_cons, first, List.cons_append]
  have notMinus : cs.head? ≠ some '-' := by
    rw [start]
    rintro ⟨⟩
    exact absurd digit (by decide +kernel)
  have nonempty : cs.isEmpty = false := by rw [start]; rfl
  rw [parseTrimmed, if_neg (by simp [nonempty]), if_neg notZero, if_neg notMinus,
    if_neg (by simp [sequence]), ← found]

/-- The faults of a text that is no duration, however large. -/
def grammarFaults : List ParseFault :=
  [.empty, .negative, .malformed, .badNumber]

theorem parseTrimmed_of_not_madeOf (notZero : cs ≠ ['0'])
    (notMade : ∀ parts, ¬ MadeOf Char.isDigit cs parts) :
    ∃ fault ∈ grammarFaults, parseTrimmed cs = .error fault := by
  by_cases sequence : isSequence cs = true
  · have made := isSequence_iff.mp sequence
    refine ⟨.badNumber, by decide, ?_⟩
    rw [parseTrimmed_of_madeOf made]
    exact ofSegments_of_not_ascii made.proper
      fun ascii => notMade _ ⟨made.nonempty, ascii, made.text⟩
  · have malformed : (!isSequence cs) = true := by simpa using sequence
    simp only [parseTrimmed, if_neg notZero, if_pos malformed]
    split
    · exact ⟨.empty, by decide, rfl⟩
    · split
      · exact ⟨.negative, by decide, rfl⟩
      · exact ⟨.malformed, by decide, rfl⟩

/-- A text is accepted, or refused for its size, exactly if it is zero or made of segments in ASCII
digits. -/
theorem parseTrimmed_accepts_iff :
    (∃ d, parseTrimmed cs = .ok d) ∨ parseTrimmed cs = .error .outOfRange ↔
      cs = ['0'] ∨ ∃ parts, MadeOf Char.isDigit cs parts := by
  constructor
  · intro sound
    by_contra other
    obtain ⟨notZero, notMade⟩ := not_or.mp other
    obtain ⟨fault, isGrammar, refused⟩ :=
      parseTrimmed_of_not_madeOf notZero (not_exists.mp notMade)
    rw [refused] at sound
    rcases sound with ⟨d, isOk⟩ | tooLarge
    · cases isOk
    · cases tooLarge
      exact absurd isGrammar (by decide)
  · rintro (rfl | ⟨parts, made⟩)
    · exact Or.inl ⟨Duration.zero, rfl⟩
    · rw [parseTrimmed_of_madeOf made.decimal]
      exact ofSegments_of_ascii made.proper

theorem parseTrimmed_ne_unknownUnit (name : String) :
    parseTrimmed cs ≠ .error (.unknownUnit name) := by
  intro unknown
  have refused : ¬ ((∃ d, parseTrimmed cs = .ok d) ∨ parseTrimmed cs = .error .outOfRange) := by
    simp [unknown]
  obtain ⟨notZero, notMade⟩ := not_or.mp (mt parseTrimmed_accepts_iff.mpr refused)
  obtain ⟨fault, isGrammar, same⟩ := parseTrimmed_of_not_madeOf notZero (not_exists.mp notMade)
  rw [unknown] at same
  cases same
  simp [grammarFaults] at isGrammar

/-- A digit outside ASCII is part of no duration. -/
theorem parseTrimmed_of_foreign_digit {c : Char} (mem : c ∈ cs)
    (decimal : Text.isDecimalDigit c = true) (notAscii : c.isDigit = false) :
    ∃ fault ∈ grammarFaults, parseTrimmed cs = .error fault := by
  refine parseTrimmed_of_not_madeOf ?_ ?_
  · rintro rfl
    obtain rfl : c = '0' := by simpa using mem
    cases notAscii
  · intro parts made
    rw [← made.text] at mem
    obtain ⟨segment, segmentMem, inText⟩ := List.mem_flatMap.mp mem
    rw [Segment.isDigit_of_mem_text (made.proper segment segmentMem) inText decimal] at notAscii
    cases notAscii

end Parts

/-! ## Reading a text -/

theorem parse_eq_ok_iff {input : String} {d : Duration} :
    parse input = .ok d ↔ parseTrimmed (Text.trimChars input.toList) = .ok d := by
  unfold parse
  cases parseTrimmed (Text.trimChars input.toList) with
  | error fault => simp
  | ok found => simp

theorem parse_eq_error_iff {input : String} {fault : ParseFault} :
    parse input = .error ⟨input, fault⟩ ↔
      parseTrimmed (Text.trimChars input.toList) = .error fault := by
  unfold parse
  cases parseTrimmed (Text.trimChars input.toList) with
  | error found => simp
  | ok d => simp

/-- Blanks around a text change nothing but the text that an error shows. -/
theorem trimChars_between_blanks {lead trail : String} (leadBlank : Text.isBlankText lead = true)
    (trailBlank : Text.isBlankText trail = true) (input : String) :
    Text.trimChars (lead ++ input ++ trail).toList = Text.trimChars input.toList := by
  rw [String.toList_append, String.toList_append,
    Text.trimChars_append_of_blank (List.all_eq_true.mp trailBlank),
    Text.trimChars_blank_append (List.all_eq_true.mp leadBlank)]

/-- A text is accepted, or refused for its size only, exactly if it is a bare zero or made of
segments in ASCII digits when its blanks are trimmed; all others have some other fault, and so has
every text with a digit outside ASCII, even one that is taken for a sequence of segments.  A text is
made of segments in one way only; the search finds just these, so it skips no character and takes
none twice, and where `ms` stands it takes no minutes.  A unit is never unknown, and blanks around a
text make no difference to its duration. -/
theorem parse_outcome (input : String) :
    (((∃ d, parse input = .ok d) ∨ parse input = .error ⟨input, .outOfRange⟩) ↔
      Text.trimChars input.toList = ['0'] ∨
        ∃ parts, MadeOf Char.isDigit (Text.trimChars input.toList) parts) ∧
    (∀ parts, MadeOf Char.isDigit (Text.trimChars input.toList) parts →
      (∀ other, MadeOf Char.isDigit (Text.trimChars input.toList) other → other = parts) ∧
      segments (Text.trimChars input.toList) = parts ∧
      (segments (Text.trimChars input.toList)).flatMap Segment.text =
        Text.trimChars input.toList ∧
      ∀ before segment after, parts = before ++ segment :: after →
        ['m', 's'] <+: segment.unit ++ after.flatMap Segment.text → segment.unit = ['m', 's']) ∧
    (∀ parts, MadeOf Text.isDecimalDigit (Text.trimChars input.toList) parts →
      isSequence (Text.trimChars input.toList) = true) ∧
    (∀ c ∈ Text.trimChars input.toList, Text.isDecimalDigit c = true → c.isDigit = false →
      ∃ fault ∈ grammarFaults, parse input = .error ⟨input, fault⟩) ∧
    (∀ name, parse input ≠ .error ⟨input, .unknownUnit name⟩) ∧
    ∀ lead trail, Text.isBlankText lead = true → Text.isBlankText trail = true →
      ∀ d, parse (lead ++ input ++ trail) = .ok d ↔ parse input = .ok d := by
  simp only [parse_eq_ok_iff, parse_eq_error_iff, ne_eq]
  generalize trimmed : Text.trimChars input.toList = cs
  refine ⟨parseTrimmed_accepts_iff, ?_, ?_, fun _ => parseTrimmed_of_foreign_digit,
    parseTrimmed_ne_unknownUnit, ?_⟩
  · intro parts made
    have found := eq_segments_of_madeOf made.decimal
    refine ⟨?_, found.symm, ?_, ?_⟩
    · intro other otherMade
      rw [eq_segments_of_madeOf otherMade.decimal, found]
    · rw [← found, made.text]
    · rintro before segment after rfl milliseconds
      have proper := made.decimal.proper
      rw [List.forall_mem_append, List.forall_mem_cons] at proper
      exact unit_eq_of_milliseconds proper.2.1.named (not_isCutShort proper.2.2) milliseconds
  · intro parts made
    rw [isSequence_iff, ← eq_segments_of_madeOf made]
    exact made
  · intro lead trail leadBlank trailBlank d
    rw [trimChars_between_blanks leadBlank trailBlank, trimmed]

/-- A text with minutes before milliseconds and with blanks around it. -/
def exampleText : String := " 1h1.5m2ms\n"

/-- The example is made of its segments, and of no others; with a digit outside ASCII it is
refused. -/
theorem parse_outcome_exampleText :
    (∃ parts, MadeOf Char.isDigit (Text.trimChars exampleText.toList) parts ∧
      segments (Text.trimChars exampleText.toList) = parts ∧
      ∀ other, MadeOf Char.isDigit (Text.trimChars exampleText.toList) other → other = parts) ∧
    ∃ fault ∈ grammarFaults, parse "1h١m2ms" = .error ⟨"1h١m2ms", fault⟩ := by
  constructor
  · obtain ⟨accepted, unique, -⟩ := parse_outcome exampleText
    have isOk : ∃ d, parse exampleText = .ok d := ⟨⟨3690002000000⟩, by decide +kernel⟩
    rcases accepted.mp (Or.inl isOk) with isZero | ⟨parts, made⟩
    · exact absurd isZero (by decide +kernel)
    · exact ⟨parts, made, (unique parts made).2.1, (unique parts made).1⟩
  · obtain ⟨-, -, -, refused, -⟩ := parse_outcome "1h١m2ms"
    exact refused '١' (by decide +kernel) (by decide +kernel) (by decide +kernel)

end ChartOperator.Duration
