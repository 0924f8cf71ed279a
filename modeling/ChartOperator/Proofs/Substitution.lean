import ChartOperator.Environment.Expansion
import ChartOperator.Proofs.Text
import Mathlib.Data.List.Forall2

/-!
# The references in a text

A text is made of pieces in one way only: text without dollar signs, references with and without
braces, and dollar signs that start no reference.  Expansion replaces each reference by the value of
its name and leaves all else as it is.  What it inserts is not read again, so that only the values
of the names that stand in the text make a difference.
-/

namespace ChartOperator.Environment

/-! ## Pieces as they are written -/

/-- The characters with which a name without braces starts: `[A-Za-z_]`. -/
def StartsName (c : Char) : Prop :=
  ('A' ≤ c ∧ c ≤ 'Z') ∨ ('a' ≤ c ∧ c ≤ 'z') ∨ c = '_'

/-- The characters with which such a name goes on: `[A-Za-z0-9_]`. -/
def ContinuesName (c : Char) : Prop :=
  StartsName c ∨ ('0' ≤ c ∧ c ≤ '9')

theorem isNameStart_iff {c : Char} : isNameStart c = true ↔ StartsName c := by
  have upper : c.isUpper = true ↔ 'A' ≤ c ∧ c ≤ 'Z' := decide_eq_true_iff
  have lower : c.isLower = true ↔ 'a' ≤ c ∧ c ≤ 'z' :=
    Bool.and_eq_true_iff.trans (and_congr decide_eq_true_iff decide_eq_true_iff)
  have letter : c.isAlpha = true ↔ c.isUpper = true ∨ c.isLower = true := Bool.or_eq_true_iff
  rw [isNameStart, Bool.or_eq_true, letter, upper, lower, beq_iff_eq, or_assoc, StartsName]

theorem isNamePart_iff {c : Char} : isNamePart c = true ↔ ContinuesName c := by
  have digit : c.isDigit = true ↔ '0' ≤ c ∧ c ≤ '9' := by
    simp [Char.isDigit, Char.le_def]
  rw [ContinuesName, ← isNameStart_iff, ← digit, isNamePart, isNameStart, Char.isAlphanum,
    Bool.or_eq_true, Bool.or_eq_true, Bool.or_eq_true, or_right_comm]

namespace Piece

/-- The text of a piece. -/
def written : Piece → List Char
  | text content => content
  | braced name => '$' :: '{' :: (name ++ ['}'])
  | named name => '$' :: name
  | dollar => ['$']

/-- The name to which a piece refers. -/
def name? : Piece → Option (List Char)
  | braced name | named name => some name
  | text _ | dollar => none

/-- Whether a piece can be what a text with the given rest starts with: text up to a dollar sign or
the end, a reference in braces, a reference with the longest name that stands there, or a dollar
sign followed neither by a name nor by a brace that is closed later. -/
def Stands (rest : List Char) : Piece → Prop
  | text content => content ≠ [] ∧ '$' ∉ content ∧ ∀ c ∈ rest.head?, c = '$'
  | braced name => '}' ∉ name
  | named name =>
      (∃ first others, name = first :: others ∧ StartsName first ∧
        ∀ c ∈ others, ContinuesName c) ∧ ∀ c ∈ rest.head?, ¬ ContinuesName c
  | dollar => (∀ c ∈ rest.head?, ¬ StartsName c) ∧ ∀ after, rest = '{' :: after → '}' ∉ after

end Piece

/-- Whether a text is made of some pieces, each of which can stand where it does. -/
inductive MadeOf : List Char → List Piece → Prop
  | nil : MadeOf [] []
  | cons {piece : Piece} {rest : List Char} {others : List Piece}
      (stands : piece.Stands rest) (made : MadeOf rest others) :
      MadeOf (piece.written ++ rest) (piece :: others)

/-! ## Reading pieces -/

theorem ne_of_not_mem {c : Char} {cs : List Char} (notMem : c ∉ cs) :
    ∀ d ∈ cs, (d != c) = true := by
  intro d mem
  rw [bne_iff_ne]
  rintro rfl
  exact notMem mem

theorem readBraced?_of_closed {name : List Char} (noBrace : '}' ∉ name) (rest : List Char) :
    readBraced? (name ++ '}' :: rest) = some (name, rest) := by
  obtain ⟨taken, left⟩ := Text.span_append ('}' :: rest) (ne_of_not_mem noBrace) (by simp)
  rw [readBraced?, left, taken]

theorem readBraced?_of_not_closed {cs : List Char} (noBrace : '}' ∉ cs) :
    readBraced? cs = none := by
  rw [readBraced?, List.dropWhile_eq_nil_iff.mpr (ne_of_not_mem noBrace)]

theorem readBraced?_eq_some_iff {cs name rest : List Char} :
    readBraced? cs = some (name, rest) ↔ '}' ∉ name ∧ cs = name ++ '}' :: rest := by
  constructor
  · intro read
    by_cases brace : '}' ∈ cs
    · obtain ⟨before, after, rfl, notBefore⟩ := List.eq_append_cons_of_mem brace
      rw [readBraced?_of_closed notBefore] at read
      cases read
      exact ⟨notBefore, rfl⟩
    · rw [readBraced?_of_not_closed brace] at read
      cases read
  · rintro ⟨noBrace, rfl⟩
    exact readBraced?_of_closed noBrace rest

theorem ne_brace_of_startsName {c : Char} (starts : StartsName c) : c ≠ '{' := by
  rintro rfl
  unfold StartsName at starts
  exact absurd starts (by decide)

theorem readReference_of_startsName {first : Char} (starts : StartsName first)
    (others : List Char) :
    readReference (first :: others) =
      (.named (first :: others.takeWhile isNamePart), others.dropWhile isNamePart) := by
  rw [readReference, if_pos (isNameStart_iff.mpr starts)]
  exact ne_brace_of_startsName starts

/-- A dollar sign stands for itself if neither alternative of a reference follows. -/
theorem readReference_of_dollar {cs : List Char} (stands : Piece.dollar.Stands cs) :
    readReference cs = (.dollar, cs) := by
  obtain ⟨noName, noBrace⟩ := stands
  unfold readReference
  split
  · rename_i rest
    rw [readBraced?_of_not_closed (noBrace rest rfl)]
  · rename_i c rest _
    rw [if_neg fun starts => noName c rfl (isNameStart_iff.mp starts)]
  · rfl

/-- What is read behind a dollar sign makes, with this sign, a piece that can stand there. -/
theorem stands_readReference (cs : List Char) :
    (readReference cs).1.written ++ (readReference cs).2 = '$' :: cs ∧
      (readReference cs).1.Stands (readReference cs).2 := by
  unfold readReference
  split
  · rename_i rest
    split
    · rename_i name rest' read
      obtain ⟨noBrace, rfl⟩ := readBraced?_eq_some_iff.mp read
      exact ⟨by simp [Piece.written], noBrace⟩
    · rename_i unread
      refine ⟨rfl, by simp [StartsName], ?_⟩
      rintro after same closed
      cases same
      obtain ⟨before, behind, rfl, notBefore⟩ := List.eq_append_cons_of_mem closed
      rw [readBraced?_of_closed notBefore] at unread
      cases unread
  · rename_i c rest notBrace
    split
    · rename_i starts
      refine ⟨by simp [Piece.written], ⟨c, _, rfl, isNameStart_iff.mp starts, ?_⟩, ?_⟩
      · intro d mem
        exact isNamePart_iff.mp (List.mem_takeWhile_imp mem)
      · intro d first
        rw [← isNamePart_iff, Bool.not_eq_true]
        have stops := List.head?_dropWhile_not isNamePart rest
        rw [Option.mem_def.mp first] at stops
        simpa using stops
    · rename_i noStart
      refine ⟨rfl, ?_, ?_⟩
      · rintro d first starts
        obtain rfl : c = d := by simpa using first
        exact noStart (isNameStart_iff.mpr starts)
      · rintro after same -
        cases same
        exact notBrace rfl
  · exact ⟨rfl, by simp, by simp⟩

theorem pieces_dollar (cs : List Char) :
    pieces ('$' :: cs) = (readReference cs).1 :: pieces (readReference cs).2 := by
  rw [pieces, if_pos rfl]

/-- A piece that can stand at the start of a text is the first one that is read. -/
theorem pieces_of_stands {piece : Piece} {rest : List Char} (stands : piece.Stands rest) :
    pieces (piece.written ++ rest) = piece :: pieces rest := by
  cases piece with
  | text content =>
      obtain ⟨nonempty, noDollar, ends⟩ := stands
      obtain ⟨c, cs, rfl⟩ := List.exists_cons_of_ne_nil nonempty
      rw [List.mem_cons, not_or] at noDollar
      obtain ⟨taken, left⟩ := Text.span_append rest (ne_of_not_mem noDollar.2)
        (by simpa using ends)
      rw [Piece.written, List.cons_append, pieces, if_neg (Ne.symm noDollar.1), taken, left]
  | braced name =>
      have read : readReference ('{' :: (name ++ '}' :: rest)) = (.braced name, rest) := by
        rw [readReference, readBraced?_of_closed stands]
      simp only [Piece.written, List.cons_append, List.append_assoc, List.nil_append,
        pieces_dollar, read]
  | named name =>
      obtain ⟨⟨first, others, rfl, starts, continues⟩, ends⟩ := stands
      obtain ⟨taken, left⟩ := Text.span_append (p := isNamePart) rest
        (fun c mem => isNamePart_iff.mpr (continues c mem))
        (fun c mem => by rw [← Bool.not_eq_true, isNamePart_iff]; exact ends c mem)
      rw [Piece.written, List.cons_append, List.cons_append, pieces_dollar,
        readReference_of_startsName starts, taken, left]
  | dollar =>
      rw [Piece.written, List.singleton_append, pieces_dollar, readReference_of_dollar stands]

/-- A text is made of the pieces that are read from it.  By induction on the reading. -/
theorem madeOf_pieces (cs : List Char) : MadeOf cs (pieces cs) := by
  induction cs using pieces.induct with
  | case1 =>
      rw [pieces]
      exact MadeOf.nil
  | case2 rest ih =>
      obtain ⟨same, stands⟩ := stands_readReference rest
      rw [pieces_dollar, ← same]
      exact MadeOf.cons stands ih
  | case3 c rest notDollar ih =>
      rw [pieces, if_neg notDollar]
      have split : c :: rest =
          (Piece.text (c :: rest.takeWhile (· != '$'))).written ++ rest.dropWhile (· != '$') := by
        simp [Piece.written]
      nth_rewrite 1 [split]
      refine MadeOf.cons ⟨List.cons_ne_nil _ _, ?_, ?_⟩ ih
      · rw [List.mem_cons, not_or]
        refine ⟨Ne.symm notDollar, fun mem => ?_⟩
        simpa using List.mem_takeWhile_imp mem
      · intro d first
        have stops := List.head?_dropWhile_not (· != '$') rest
        rw [Option.mem_def.mp first] at stops
        simpa using stops

/-- A text is made of pieces in exactly one way. -/
theorem madeOf_iff {cs : List Char} {parts : List Piece} :
    MadeOf cs parts ↔ parts = pieces cs := by
  constructor
  · intro made
    induction made with
    | nil => rw [pieces]
    | cons stands _ ih => rw [pieces_of_stands stands, ih]
  · rintro rfl
    exact madeOf_pieces cs

/-! ## Replacing references -/

/-- What becomes of a piece: a reference becomes the value of its name, or nothing if the name is
not set, and all else stays as it is written. -/
inductive Becomes (env : Environment) : Piece → List Char → Prop
  | kept {piece : Piece} (plain : piece.name? = none) : Becomes env piece piece.written
  | value {piece : Piece} {name : List Char} {value : String} (refers : piece.name? = some name)
      (set : env (String.ofList name) = some value) : Becomes env piece value.toList
  | unset {piece : Piece} {name : List Char} (refers : piece.name? = some name)
      (unset : env (String.ofList name) = none) : Becomes env piece []

theorem becomes_expand (env : Environment) (piece : Piece) :
    Becomes env piece (piece.expand env) := by
  have reference : ∀ name, piece.name? = some name → Becomes env piece (valueOf env name) := by
    intro name refers
    unfold valueOf
    cases found : env (String.ofList name) with
    | none => exact Becomes.unset refers found
    | some value => exact Becomes.value refers found
  cases piece with
  | text content => exact Becomes.kept rfl
  | braced name => exact reference name rfl
  | named name => exact reference name rfl
  | dollar => exact Becomes.kept rfl

/-- The names to which a text refers. -/
def namesOf (parts : List Piece) : List String :=
  (parts.filterMap Piece.name?).map String.ofList

theorem expand_congr {env other : Environment} {piece : Piece}
    (same : ∀ name, piece.name? = some name →
      env (String.ofList name) = other (String.ofList name)) :
    piece.expand env = piece.expand other := by
  cases piece with
  | text content => rfl
  | braced name => rw [Piece.expand, Piece.expand, valueOf, valueOf, same name rfl]
  | named name => rw [Piece.expand, Piece.expand, valueOf, valueOf, same name rfl]
  | dollar => rfl

/-- A text is made of pieces in exactly one way, and in every environment it expands to what becomes
of these pieces, in their order.  What is inserted for a reference is not read again, whatever it
is: the expansion depends on nothing but the values of the names to which the text refers. -/
theorem expand_outcome (value : String) :
    ∃ parts, (∀ other, MadeOf value.toList other ↔ other = parts) ∧
      (∀ env, ∃ texts, List.Forall₂ (Becomes env) parts texts ∧
        expand env value = String.ofList texts.flatten) ∧
      ∀ env other, (∀ name ∈ namesOf parts, env name = other name) →
        expand env value = expand other value := by
  refine ⟨pieces value.toList, fun _ => madeOf_iff, fun env => ?_, fun env other same => ?_⟩
  · refine ⟨(pieces value.toList).map (Piece.expand env), ?_, ?_⟩
    · rw [List.forall₂_map_right_iff, List.forall₂_same]
      exact fun piece _ => becomes_expand env piece
    · rw [expand, List.flatMap_def]
  · have each : ∀ piece ∈ pieces value.toList, piece.expand env = piece.expand other := by
      intro piece mem
      refine expand_congr fun name refers => same _ ?_
      exact List.mem_map_of_mem (List.mem_filterMap.mpr ⟨piece, mem, refers⟩)
    rw [expand, expand, List.flatMap_def, List.flatMap_def, List.map_congr_left each]

/-- A text with a name that ends at a hyphen, a name over two lines, and two dollar signs that start
no reference. -/
def exampleValue : String := "$A1-$\x7bB\n\x7d$5$\x7bC"

/-- The example refers to two names, and nothing but their values makes a difference. -/
theorem expand_outcome_exampleValue :
    ∃ parts, MadeOf exampleValue.toList parts ∧ namesOf parts = ["A1", "B\n"] ∧
      ∀ env other : Environment, env "A1" = other "A1" → env "B\n" = other "B\n" →
        expand env exampleValue = expand other exampleValue := by
  obtain ⟨parts, unique, -, depends⟩ := expand_outcome exampleValue
  have made : MadeOf exampleValue.toList parts := (unique parts).mpr rfl
  have names : namesOf parts = ["A1", "B\n"] := by
    rw [madeOf_iff.mp made]
    decide +kernel
  refine ⟨parts, made, names, fun env other first second => depends env other ?_⟩
  rw [names]
  simpa using ⟨first, second⟩

end ChartOperator.Environment
