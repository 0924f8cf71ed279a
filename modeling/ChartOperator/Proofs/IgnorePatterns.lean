import ChartOperator.Proofs.IgnoreFiles

/-!
# What a pattern leaves out

The rule on a line is about exactly those paths whose last name, or which as a whole, can be cut
into pieces for the signs of the pattern.  A pattern whose brackets hold no class is meant to stand
for itself; it does so unless one of its brackets is closed at once, as the closing bracket is lost.
-/

namespace ChartOperator

/-! ## The last name of a path -/

section LastName

variable {path name : List Char}

theorem ne_slash_of_mem_reverse (noSlash : '/' ∉ name) :
    ∀ c ∈ name.reverse, decide (c ≠ '/') = true := by
  intro c mem
  simpa using fun same : c = '/' => noSlash (same ▸ List.mem_reverse.mp mem)

theorem lastName_of_not_mem (noSlash : '/' ∉ name) : lastName name = name := by
  rw [lastName, List.takeWhile_eq_self_iff.mpr (ne_slash_of_mem_reverse noSlash),
    List.reverse_reverse]

theorem lastName_append (noSlash : '/' ∉ name) (directories : List Char) :
    lastName (directories ++ '/' :: name) = name := by
  rw [lastName, List.reverse_append, List.reverse_cons, List.append_assoc,
    List.takeWhile_append_of_pos (ne_slash_of_mem_reverse noSlash)]
  simp

/-- The last name of a path is what stands behind its last slash, as if there were one in front. -/
theorem lastName_eq_iff :
    lastName path = name ↔ '/' ∉ name ∧ '/' :: name <:+ '/' :: path := by
  constructor
  · rintro rfl
    by_cases slash : '/' ∈ path
    · obtain ⟨last, before, turned, noSlash⟩ :=
        List.eq_append_cons_of_mem (List.mem_reverse.mpr slash)
      obtain rfl : path = before.reverse ++ '/' :: last.reverse := by
        rw [← List.reverse_reverse path, turned]
        simp
      rw [lastName_append (mt List.mem_reverse.mp noSlash)]
      exact ⟨mt List.mem_reverse.mp noSlash, '/' :: before.reverse, rfl⟩
    · rw [lastName_of_not_mem slash]
      exact ⟨slash, List.suffix_refl _⟩
  · rintro ⟨noSlash, start, whole⟩
    cases start with
    | nil =>
        obtain rfl : name = path := by simpa using whole
        exact lastName_of_not_mem noSlash
    | cons c directories =>
        obtain ⟨-, rfl⟩ := List.cons.inj whole
        exact lastName_append noSlash directories

end LastName

namespace PatternLine

variable {line : PatternLine} {tokens : List Glob.Token} {text path : List Char}

/-- Whether a text is what the pattern of a line is matched against: the last name of a path, or the
whole of it if the pattern is rooted or has a slash inside. -/
def IsSubject (line : PatternLine) (path subject : List Char) : Prop :=
  if line.lastNameOnly then '/' ∉ subject ∧ '/' :: subject <:+ '/' :: path else subject = path

theorem isSubject_iff {subject : List Char} :
    line.IsSubject path subject ↔
      subject = if line.lastNameOnly then lastName path else path := by
  rw [IsSubject]
  split
  · rw [← lastName_eq_iff, eq_comm]
  · rfl

/-- A rule is about the paths that its pattern matches, and about directories only if the line says
so. -/
theorem appliesTo_rule_iff {isDirectory : Bool} :
    (line.rule tokens).appliesTo path isDirectory = true ↔
      (line.directoriesOnly = true → isDirectory = true) ∧
        ∃ subject, line.IsSubject path subject ∧ Glob.Cuts Glob.Token.Takes tokens subject := by
  simp only [isSubject_iff, exists_eq_left, ← Glob.isMatch_iff]
  rw [IgnoreRule.appliesTo, Bool.and_eq_true]
  refine and_congr ?_ Iff.rfl
  rw [rule]
  cases line.directoriesOnly <;> simp

/-- A file that consists of one line with a pattern holds one rule. -/
theorem parse_of_readPattern? (proper : line.IsProper)
    (single : ¬ ['*', '*'] <:+: line.pattern)
    (read : Glob.readPattern? line.pattern = some tokens)
    (trimmed : Text.trimChars text = line.text) (oneLine : '\n' ∉ text) :
    IgnoreRules.parse (String.ofList text) = .ok [line.rule tokens] := by
  rw [IgnoreRules.parse_line oneLine, trimmed, read_of_readPattern? proper single read]
  rfl

/-- The rule on a line is about the paths whose subjects can be cut into pieces for the signs of the
pattern, wherever the line stands in an ignore file.  Without classes the pieces hold the slashes of
the pattern and no others. -/
theorem parse_matches {signs : List Glob.Sign} (proper : line.IsProper)
    (isWritten : line.pattern = Glob.written signs)
    (signsProper : ∀ sign ∈ signs, sign.IsProper)
    (single : ¬ ['*', '*'] <:+: line.text)
    (trimmed : Text.trimChars text = line.text) (oneLine : '\n' ∉ text) :
    ∃ rule : IgnoreRule,
      IgnoreRules.parse (String.ofList text) = .ok [rule] ∧
      (∀ first second before after, IgnoreRules.parse first = .ok before →
        IgnoreRules.parse second = .ok after →
          IgnoreRules.parse (first ++ "\n" ++ String.ofList text ++ "\n" ++ second) =
            .ok (before ++ [rule] ++ after)) ∧
      rule.negated = line.negated ∧
      (∀ path isDirectory, rule.appliesTo path isDirectory = true ↔
        (line.directoriesOnly = true → isDirectory = true) ∧
          ∃ subject, line.IsSubject path subject ∧ Glob.Cuts Glob.Sign.Takes signs subject) ∧
      ((∀ sign ∈ signs, sign.IsClassFree) → line.lastNameOnly = false →
        ∀ path isDirectory, rule.appliesTo path isDirectory = true →
          path.count '/' = line.pattern.count '/') := by
  have read : Glob.readPattern? line.pattern = some (signs.map Glob.Sign.token) := by
    rw [isWritten, Glob.readPattern?_written signsProper]
  have parsed := parse_of_readPattern? proper (mt doubleStar_infix_text_iff.mpr single) read
    trimmed oneLine
  have applies : ∀ path isDirectory,
      (line.rule (signs.map Glob.Sign.token)).appliesTo path isDirectory = true ↔
        (line.directoriesOnly = true → isDirectory = true) ∧
          ∃ subject, line.IsSubject path subject ∧ Glob.Cuts Glob.Sign.Takes signs subject := by
    intro path isDirectory
    simp only [appliesTo_rule_iff, Glob.cuts_map_iff Glob.Sign.takes_token_iff]
  refine ⟨line.rule (signs.map Glob.Sign.token), parsed, ?_, rfl, applies, ?_⟩
  · intro first second before after firstParsed secondParsed
    rw [IgnoreRules.parse_append_eq_ok_iff]
    refine ⟨_, after, ?_, secondParsed, rfl⟩
    rw [IgnoreRules.parse_append_eq_ok_iff]
    exact ⟨before, _, firstParsed, parsed, rfl⟩
  · intro classFree wholePath path isDirectory applied
    obtain ⟨-, subject, isSubject, cuts⟩ := (applies path isDirectory).mp applied
    obtain rfl : subject = path := by simpa [IsSubject, wholePath] using isSubject
    rw [isWritten]
    exact Glob.count_of_cuts (fun sign mem _ => Glob.Sign.count_slash_of_takes (classFree sign mem))
      cuts

/-- A line with each kind of mark. -/
def exampleLine : PatternLine where
  negated := true
  slashes := 1
  pattern := ['a', '/', '[', '!', 'x', '-', 'z', ']', '*', '.', 't', '?']
  directoriesOnly := true

/-- The signs of the pattern in the example. -/
def exampleSigns : List Glob.Sign :=
  [.plain 'a', .plain '/', .brackets true [.range 'x' 'z'], .star, .plain '.', .plain 't',
    .questionMark]

theorem parse_matches_exampleLine :
    exampleLine.IsProper ∧ exampleLine.pattern = Glob.written exampleSigns ∧
      (∀ sign ∈ exampleSigns, sign.IsProper) ∧ ¬ ['*', '*'] <:+: exampleLine.text ∧
      ∃ rule : IgnoreRule,
        IgnoreRules.parse " !/a/[!x-z]*.t?/\r" = .ok [rule] ∧ rule.negated = true ∧
        ∀ path isDirectory, rule.appliesTo path isDirectory = true ↔
          (exampleLine.directoriesOnly = true → isDirectory = true) ∧
            ∃ subject, exampleLine.IsSubject path subject ∧
              Glob.Cuts Glob.Sign.Takes exampleSigns subject := by
  have proper : exampleLine.IsProper := by
    constructor <;> decide
  have signsProper : ∀ sign ∈ exampleSigns, sign.IsProper := by
    simp [exampleSigns, Glob.Sign.IsProper, Glob.ClassItem.IsProper]
  have single : ¬ ['*', '*'] <:+: exampleLine.text := by
    decide
  have trimmed : Text.trimChars " !/a/[!x-z]*.t?/\r".toList = exampleLine.text := by
    decide
  obtain ⟨rule, parsed, -, negated, applies, -⟩ :=
    parse_matches proper rfl signsProper single trimmed (by decide)
  exact ⟨proper, rfl, signsProper, single, rule, by simpa using parsed, negated, applies⟩

/-- The line that is nothing but its pattern. -/
def ofPattern (pattern : List Char) : PatternLine where
  negated := false
  slashes := 0
  pattern := pattern
  directoriesOnly := false

theorem text_ofPattern (pattern : List Char) : (ofPattern pattern).text = pattern := by
  simp [text, lead, trail, ofPattern]

end PatternLine

/-! ## Brackets without a class -/

/-- Whether a text is a line without marks and wildcards in whose brackets there is no class. -/
structure IsClassless (text : List Char) : Prop where
  nonempty : text ≠ []
  oneLine : '\n' ∉ text
  trimmed : Text.trimChars text = text
  unmarked : text.head? ≠ some '!' ∧ text.head? ≠ some '#'
  noSlash : '/' ∉ text
  noStar : '*' ∉ text
  noQuestionMark : '?' ∉ text
  noClass : Glob.HoldsNoClass text

namespace IsClassless

variable {text : List Char}

/-- The rule on a line without marks, wildcards and classes. -/
def rule (text : List Char) : IgnoreRule :=
  (PatternLine.ofPattern text).rule ((Glob.withoutClosings text).map .literal)

theorem isProper (classless : IsClassless text) : (PatternLine.ofPattern text).IsProper := by
  constructor
  case nonempty => exact classless.nonempty
  case start =>
    intro slash
    exact classless.noSlash (List.mem_of_mem_head? slash)
  case ending =>
    intro _ slash
    exact classless.noSlash (List.mem_of_getLast? slash)
  case unmarked =>
    intro _ _
    exact classless.unmarked

theorem parse_eq (classless : IsClassless text) :
    IgnoreRules.parse (String.ofList text) = .ok [rule text] := by
  have single : ¬ ['*', '*'] <:+: text := fun doubled =>
    classless.noStar (doubled.subset (by simp))
  refine PatternLine.parse_of_readPattern? classless.isProper single ?_ ?_ classless.oneLine
  · exact Glob.readPattern?_of_holdsNoClass classless.noStar classless.noQuestionMark
      classless.noClass
  · rw [PatternLine.text_ofPattern, classless.trimmed]

theorem ignores_iff (classless : IsClassless text) {name : List Char} (noSlash : '/' ∉ name)
    (isDirectory : Bool) :
    IgnoreRules.ignores [rule text] name isDirectory = true ↔
      name = Glob.withoutClosings text := by
  have only : IgnoreRules.ignores [rule text] name isDirectory =
      (rule text).appliesTo name isDirectory := by
    simp [IgnoreRules.ignores, rule, PatternLine.rule, PatternLine.ofPattern]
  have lastNameOnly : (PatternLine.ofPattern text).lastNameOnly = true := by
    simp [PatternLine.lastNameOnly, PatternLine.ofPattern, classless.noSlash]
  rw [only, rule, PatternLine.appliesTo_rule_iff]
  simp only [PatternLine.isSubject_iff, lastNameOnly, if_true, lastName_of_not_mem noSlash,
    exists_eq_left, Glob.cuts_literal_iff]
  simp [PatternLine.ofPattern]

/-- A line without marks, wildcards and classes holds a rule that leaves out exactly the files whose
name is the line without the closing brackets right behind opening ones.  So it stands for itself
exactly if there are none of these. -/
theorem parse_ignores (classless : IsClassless text) :
    ∃ rule : IgnoreRule,
      IgnoreRules.parse (String.ofList text) = .ok [rule] ∧
      (∀ name isDirectory, '/' ∉ name →
        (IgnoreRules.ignores [rule] name isDirectory = true ↔
          name = Glob.withoutClosings text)) ∧
      ((∀ name isDirectory, '/' ∉ name →
        (IgnoreRules.ignores [rule] name isDirectory = true ↔ name = text)) ↔
          ¬ ['[', ']'] <:+: text) := by
  refine ⟨rule text, classless.parse_eq, fun name isDirectory noSlash =>
    classless.ignores_iff noSlash isDirectory, ?_⟩
  rw [← Glob.withoutClosings_eq_self_iff]
  constructor
  · intro literal
    have noSlash : '/' ∉ Glob.withoutClosings text :=
      mt (Glob.withoutClosings_sublist text).mem classless.noSlash
    exact (literal _ false noSlash).mp ((classless.ignores_iff noSlash false).mpr rfl)
  · intro same name isDirectory noSlash
    rw [classless.ignores_iff noSlash, same]

/-- A text with a bracket that is closed at once, and one that is never closed. -/
def exampleText : List Char := ['a', '[', ']', 'b', '[', 'c']

theorem parse_ignores_exampleText :
    IsClassless exampleText ∧
      ∃ rule : IgnoreRule,
        IgnoreRules.parse (String.ofList exampleText) = .ok [rule] ∧
        ∀ name isDirectory, '/' ∉ name →
          (IgnoreRules.ignores [rule] name isDirectory = true ↔
            name = ['a', '[', 'b', '[', 'c']) := by
  have classless : IsClassless exampleText := by
    constructor <;> decide
  obtain ⟨rule, parsed, leavesOut, -⟩ := parse_ignores classless
  exact ⟨classless, rule, parsed, leavesOut⟩

/-- An empty class does not stand for itself: an opening bracket alone is left out instead. -/
theorem emptyClass_not_literal :
    IsClassless ['[', ']'] ∧
      ∃ rule : IgnoreRule,
        IgnoreRules.parse "[]" = .ok [rule] ∧
        IgnoreRules.ignores [rule] ['[', ']'] false = false ∧
        IgnoreRules.ignores [rule] ['['] false = true := by
  have classless : IsClassless ['[', ']'] := by
    constructor <;> decide
  exact ⟨classless, rule ['[', ']'], classless.parse_eq, by decide, by decide⟩

end IsClassless

end ChartOperator
