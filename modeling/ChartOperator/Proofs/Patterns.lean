import ChartOperator.Proofs.Matching
import Mathlib.Data.List.TakeWhile

/-!
# Patterns as they are written

A pattern is written as a row of signs: a star, a question mark, a class in brackets, and any other
character for itself.  It is read as one token for each sign, which takes the pieces that the sign
is to take.  A bracket without a class stands for itself, but if it is closed at once its closing
bracket is lost.
-/

namespace ChartOperator.Glob

/-! ## Classes -/

/-- What stands in the brackets of a class: characters, and ranges from one to another. -/
inductive ClassItem where
  | single (c : Char)
  | range (first last : Char)

namespace ClassItem

/-- The text of an item. -/
def text : ClassItem → List Char
  | single c => [c]
  | range first last => [first, '-', last]

/-- Whether an item is made of ASCII letters and digits, in ascending order if there are two. -/
def IsProper : ClassItem → Prop
  | single c => c.isAlphanum = true
  | range first last => first.isAlphanum = true ∧ last.isAlphanum = true ∧ first ≤ last

/-- Whether a character is among those of an item. -/
def Contains : ClassItem → Char → Prop
  | single c, character => character = c
  | range first last, character => first ≤ character ∧ character ≤ last

/-- The range of an item. -/
def charRange : ClassItem → CharRange
  | single c => .single c
  | range first last => ⟨first, last⟩

theorem contains_charRange_iff {item : ClassItem} {c : Char} :
    item.charRange.contains c = true ↔ item.Contains c := by
  have within : item.charRange.contains c = true ↔
      item.charRange.first ≤ c ∧ c ≤ item.charRange.last := by
    rw [CharRange.contains, Bool.and_eq_true, decide_eq_true_iff, decide_eq_true_iff]
  rw [within]
  cases item with
  | single d =>
      constructor
      · rintro ⟨atLeast, atMost⟩
        exact Char.le_antisymm atMost atLeast
      · rintro rfl
        exact ⟨Char.le_refl _, Char.le_refl _⟩
  | range first last => exact Iff.rfl

/-- An item starts with a letter or digit. -/
theorem exists_text_eq_cons {item : ClassItem} (proper : item.IsProper) :
    ∃ c rest, item.text = c :: rest ∧ c.isAlphanum = true := by
  cases item with
  | single c => exact ⟨c, [], rfl, proper⟩
  | range first last => exact ⟨first, ['-', last], rfl, proper.1⟩

end ClassItem

theorem ne_of_isAlphanum {c d : Char} (alphanumeric : c.isAlphanum = true)
    (sign : d.isAlphanum = false) : c ≠ d := by
  rintro rfl
  rw [alphanumeric] at sign
  cases sign

section Items

variable {items : List ClassItem}

theorem head?_items (proper : ∀ item ∈ items, item.IsProper) {c : Char}
    (first : (items.flatMap ClassItem.text).head? = some c) : c.isAlphanum = true := by
  cases items with
  | nil => cases first
  | cons item items =>
      obtain ⟨d, rest, written, alphanumeric⟩ :=
        ClassItem.exists_text_eq_cons (proper item List.mem_cons_self)
      rw [List.flatMap_cons, written] at first
      obtain rfl : d = c := by simpa using first
      exact alphanumeric

theorem readSet_single {c : Char} {rest : List Char} (alphanumeric : c.isAlphanum = true)
    (noRange : rest.head? ≠ some '-') (pending : Option Pending) (ranges : List CharRange) :
    readSet pending ranges (c :: rest) = readSet pending (ranges ++ [.single c]) rest := by
  rw [readSet]
  · rintro _ rfl
    cases alphanumeric
  · rintro _ rfl
    cases alphanumeric
  · rintro _ rfl
    cases alphanumeric
  · rintro rfl
    cases alphanumeric
  · rintro _ rfl
    exact noRange rfl
  · rintro _ _ rfl
    exact noRange rfl

theorem readSet_range {first last : Char} (firstAlphanumeric : first.isAlphanum = true)
    (lastAlphanumeric : last.isAlphanum = true) (ascending : first ≤ last) (rest : List Char)
    (pending : Option Pending) (ranges : List CharRange) :
    readSet pending ranges (first :: '-' :: last :: rest) =
      readSet pending (ranges ++ [⟨first, last⟩]) rest := by
  rw [readSet, if_pos ascending]
  · rintro rfl
    cases firstAlphanumeric
  · rintro rfl
    cases firstAlphanumeric
  · rintro rfl
    cases lastAlphanumeric

/-- The items of a class are read as their ranges. -/
theorem readSet_items (proper : ∀ item ∈ items, item.IsProper) (ranges : List CharRange) :
    readSet none ranges (items.flatMap ClassItem.text) =
      some (.union (ranges ++ items.map ClassItem.charRange)) := by
  induction items generalizing ranges with
  | nil => simp [readSet, Pending.close]
  | cons item items ih =>
      obtain ⟨first, others⟩ := List.forall_mem_cons.mp proper
      have noRange : (items.flatMap ClassItem.text).head? ≠ some '-' := by
        intro dash
        cases head?_items others dash
      cases item with
      | single c =>
          change readSet none ranges (c :: items.flatMap ClassItem.text) = _
          rw [readSet_single first noRange, ih others]
          simp [ClassItem.charRange]
      | range a b =>
          change readSet none ranges (a :: '-' :: b :: items.flatMap ClassItem.text) = _
          rw [readSet_range first.1 first.2.1 first.2.2, ih others]
          simp [ClassItem.charRange]

end Items

/-! ## Signs -/

/-- One sign of a pattern as it is written. -/
inductive Sign where
  /-- A character that stands for itself. -/
  | plain (c : Char)
  | star
  | questionMark
  /-- A class in brackets, which may be turned around by an exclamation mark. -/
  | brackets (negated : Bool) (items : List ClassItem)

namespace Sign

/-- The text of a sign. -/
def text : Sign → List Char
  | plain c => [c]
  | star => ['*']
  | questionMark => ['?']
  | brackets negated items =>
      '[' :: (if negated then ['!'] else []) ++ items.flatMap ClassItem.text ++ [']']

/-- Whether a sign is what a reader takes it for. -/
def IsProper : Sign → Prop
  | plain c => c ≠ '*' ∧ c ≠ '?' ∧ c ≠ '['
  | star | questionMark => True
  | brackets _ items => items ≠ [] ∧ ∀ item ∈ items, item.IsProper

/-- Whether a text is a piece for a sign: any run without slashes for a star, one character but a
slash for a question mark, one member of a class, or one other character if it is turned around. -/
def Takes : Sign → List Char → Prop
  | plain c, piece => piece = [c]
  | star, piece => '/' ∉ piece
  | questionMark, piece => ∃ c, c ≠ '/' ∧ piece = [c]
  | brackets false items, piece => ∃ c, (∃ item ∈ items, item.Contains c) ∧ piece = [c]
  | brackets true items, piece => ∃ c, (∀ item ∈ items, ¬ item.Contains c) ∧ piece = [c]

/-- Whether a sign is not a class. -/
def IsClassFree : Sign → Prop
  | brackets _ _ => False
  | plain _ | star | questionMark => True

/-- The token of a sign. -/
def token : Sign → Token
  | plain c => .literal c
  | star => .anyRun
  | questionMark => .anyOne
  | brackets negated items => .oneOf ⟨negated, .union (items.map ClassItem.charRange)⟩

theorem takes_token_iff (sign : Sign) (piece : List Char) :
    sign.token.Takes piece ↔ sign.Takes piece := by
  cases sign with
  | plain c => simp [token, Token.Takes, Token.accepts, Takes]
  | star => rfl
  | questionMark => simp [token, Token.Takes, Token.accepts, Takes]
  | brackets negated items =>
      have inSet : ∀ c, (CharSet.union (items.map ClassItem.charRange)).contains c = true ↔
          ∃ item ∈ items, item.Contains c := by
        simp [CharSet.contains, ClassItem.contains_charRange_iff]
      cases negated with
      | false => simp [token, Token.Takes, Token.accepts, CharClass.contains, Takes, inSet]
      | true =>
          simp [token, Token.Takes, Token.accepts, CharClass.contains, Takes, inSet,
            ← Bool.not_eq_true]

/-- Neither a star nor a question mark takes a slash. -/
theorem count_slash_of_takes {sign : Sign} (classFree : sign.IsClassFree) {piece : List Char}
    (taken : sign.Takes piece) : piece.count '/' = sign.text.count '/' := by
  cases sign with
  | plain c => rw [taken, text]
  | star => rw [List.count_eq_zero_of_not_mem taken, text, List.count_eq_zero_of_not_mem (by simp)]
  | questionMark =>
      obtain ⟨c, notSlash, rfl⟩ := taken
      rw [text, List.count_eq_zero_of_not_mem (by simpa using notSlash.symm),
        List.count_eq_zero_of_not_mem (by simp)]
  | brackets negated items => cases classFree

end Sign

/-- The text of a pattern. -/
def written (signs : List Sign) : List Char := signs.flatMap Sign.text

/-! ## Reading -/

theorem splitClass?_of_not_mem {cs : List Char} (unclosed : ']' ∉ cs) : splitClass? cs = none := by
  have all : cs.dropWhile (· ≠ ']') = [] := by
    rw [List.dropWhile_eq_nil_iff]
    intro c mem
    simpa using fun same : c = ']' => unclosed (same ▸ mem)
  rw [splitClass?, all]

theorem splitClass?_append {content : List Char} (noClosing : ']' ∉ content) (rest : List Char) :
    splitClass? (content ++ ']' :: rest) = some (content, rest) := by
  have inside : ∀ c ∈ content, decide (c ≠ ']') = true := by
    intro c mem
    simpa using fun same : c = ']' => noClosing (same ▸ mem)
  have after : (content ++ ']' :: rest).dropWhile (· ≠ ']') = ']' :: rest := by
    rw [List.dropWhile_append_of_pos inside]
    simp
  rw [splitClass?, after, List.takeWhile_append_of_pos inside]
  simp

theorem readPattern?_plain {c : Char} (notStar : c ≠ '*') (notQuestionMark : c ≠ '?')
    (notBracket : c ≠ '[') (rest : List Char) :
    readPattern? (c :: rest) = (readPattern? rest).map (.literal c :: ·) := by
  rw [readPattern?]
  · exact notStar
  · exact notQuestionMark
  · exact notBracket

theorem readPattern?_unclosed {rest : List Char} (unclosed : ']' ∉ rest) :
    readPattern? ('[' :: rest) = some (('[' :: rest).map .literal) := by
  rw [readPattern?, splitClass?_of_not_mem unclosed]
  rfl

theorem readPattern?_empty (rest : List Char) :
    readPattern? ('[' :: ']' :: rest) = (readPattern? rest).map (.literal '[' :: ·) := by
  have split : splitClass? ([] ++ ']' :: rest) = some ([], rest) :=
    splitClass?_append List.not_mem_nil rest
  rw [readPattern?, ← List.nil_append (']' :: rest), split]

theorem readPattern?_class {content : List Char} {characters : CharClass}
    (noClosing : ']' ∉ content) (nonempty : content ≠ [])
    (readClass : CharClass.read? content = some characters) (rest : List Char) :
    readPattern? ('[' :: (content ++ ']' :: rest)) =
      (readPattern? rest).map (.oneOf characters :: ·) := by
  rw [readPattern?, splitClass?_append noClosing]
  split
  · contradiction
  · rename_i split
    cases split
    contradiction
  · rename_i split
    cases split
    rw [readClass]
    cases readPattern? rest <;> rfl

/-- The content of a class is read as its items, turned around by an exclamation mark. -/
theorem read?_items {items : List ClassItem} (nonempty : items ≠ [])
    (proper : ∀ item ∈ items, item.IsProper) (negated : Bool) :
    CharClass.read? ((if negated then ['!'] else []) ++ items.flatMap ClassItem.text) =
      some ⟨negated, .union (items.map ClassItem.charRange)⟩ := by
  obtain ⟨c, rest, content, alphanumeric⟩ :
      ∃ c rest, items.flatMap ClassItem.text = c :: rest ∧ c.isAlphanum = true := by
    cases written : items.flatMap ClassItem.text with
    | nil =>
        obtain ⟨item, others, rfl⟩ := List.exists_cons_of_ne_nil nonempty
        obtain ⟨c, rest, text, -⟩ := ClassItem.exists_text_eq_cons (proper item List.mem_cons_self)
        simp [text] at written
    | cons c rest => exact ⟨c, rest, rfl, head?_items proper (by rw [written]; rfl)⟩
  have split : splitNegation ((if negated then ['!'] else []) ++ c :: rest) =
      (negated, c :: rest) := by
    cases negated with
    | true => rfl
    | false =>
        change splitNegation (c :: rest) = _
        unfold splitNegation
        split
        · rename_i first
          cases first
          cases alphanumeric
        · rename_i first
          cases first
          cases alphanumeric
        · rfl
  have notDash : decide (c = '-') = false := by
    simpa using ne_of_isAlphanum alphanumeric (d := '-') rfl
  rw [content, CharClass.read?, split]
  simp only [List.isEmpty_cons, Bool.false_eq_true, if_false, List.takeWhile_cons, notDash,
    List.dropWhile_cons, List.map_nil]
  rw [← content, readSet_items proper]
  rfl

theorem not_mem_content {items : List ClassItem} (proper : ∀ item ∈ items, item.IsProper)
    (negated : Bool) :
    ']' ∉ (if negated then ['!'] else []) ++ items.flatMap ClassItem.text := by
  rw [List.mem_append, not_or, List.mem_flatMap]
  constructor
  · cases negated <;> simp
  · rintro ⟨item, mem, closing⟩
    have itemProper := proper item mem
    cases item with
    | single c =>
        obtain rfl : ']' = c := by simpa [ClassItem.text] using closing
        cases itemProper
    | range first last =>
        obtain rfl | rfl : ']' = first ∨ ']' = last := by simpa [ClassItem.text] using closing
        · cases itemProper.1
        · cases itemProper.2.1

/-- A written pattern is read as the tokens of its signs. -/
theorem readPattern?_written {signs : List Sign} (proper : ∀ sign ∈ signs, sign.IsProper) :
    readPattern? (written signs) = some (signs.map Sign.token) := by
  induction signs with
  | nil => rw [written, List.flatMap_nil, readPattern?, List.map_nil]
  | cons sign signs ih =>
      obtain ⟨first, others⟩ := List.forall_mem_cons.mp proper
      have rest := ih others
      rw [written, List.flatMap_cons, ← written]
      cases sign with
      | plain c =>
          change readPattern? (c :: written signs) = _
          rw [readPattern?_plain first.1 first.2.1 first.2.2, rest]
          rfl
      | star =>
          change readPattern? ('*' :: written signs) = _
          rw [readPattern?, rest]
          rfl
      | questionMark =>
          change readPattern? ('?' :: written signs) = _
          rw [readPattern?, rest]
          rfl
      | brackets negated items =>
          have content : (Sign.brackets negated items).text ++ written signs =
              '[' :: (((if negated then ['!'] else []) ++ items.flatMap ClassItem.text) ++
                ']' :: written signs) := by
            simp [Sign.text]
          rw [content, readPattern?_class (not_mem_content first.2 negated) ?_
            (read?_items first.1 first.2 negated), rest]
          · rfl
          · intro empty
            have readEmpty := read?_items first.1 first.2 negated
            rw [empty] at readEmpty
            cases readEmpty

/-- Without brackets every pattern can be read. -/
theorem exists_readPattern?_of_not_mem {cs : List Char} (noBracket : '[' ∉ cs) :
    ∃ tokens, readPattern? cs = some tokens := by
  induction cs with
  | nil => exact ⟨[], by rw [readPattern?]⟩
  | cons c cs ih =>
      obtain ⟨notBracket, noneLeft⟩ := List.ne_and_not_mem_of_not_mem_cons noBracket
      obtain ⟨tokens, rest⟩ := ih noneLeft
      by_cases star : c = '*'
      · exact ⟨.anyRun :: tokens, by rw [star, readPattern?, rest]; rfl⟩
      · by_cases questionMark : c = '?'
        · exact ⟨.anyOne :: tokens, by rw [questionMark, readPattern?, rest]; rfl⟩
        · exact ⟨.literal c :: tokens, by
            rw [readPattern?_plain star questionMark (Ne.symm notBracket), rest]; rfl⟩

/-! ## Brackets without a class -/

/-- Whether every opening bracket of a text is never closed, or closed at once. -/
def HoldsNoClass (text : List Char) : Prop :=
  ∀ before after, text = before ++ '[' :: after → ']' ∉ after ∨ after.head? = some ']'

/-- A text without the closing brackets that stand right behind opening ones. -/
def withoutClosings : List Char → List Char
  | '[' :: ']' :: rest => '[' :: withoutClosings rest
  | c :: rest => c :: withoutClosings rest
  | [] => []

theorem holdsNoClass_nil : HoldsNoClass [] := by
  intro before after whole
  simp at whole

theorem holdsNoClass_cons_iff {c : Char} {text : List Char} :
    HoldsNoClass (c :: text) ↔
      (c = '[' → ']' ∉ text ∨ text.head? = some ']') ∧ HoldsNoClass text := by
  constructor
  · intro noClass
    constructor
    · rintro rfl
      exact noClass [] text rfl
    · rintro before after rfl
      exact noClass (c :: before) after rfl
  · rintro ⟨first, others⟩ before after whole
    cases before with
    | nil =>
        obtain ⟨isBracket, rfl⟩ := List.cons.inj whole
        exact first isBracket
    | cons _ before =>
        obtain ⟨-, rest⟩ := List.cons.inj whole
        exact others before after rest

instance decidableHoldsNoClass : DecidablePred HoldsNoClass
  | [] => isTrue holdsNoClass_nil
  | c :: text =>
      have := decidableHoldsNoClass text
      decidable_of_iff ((c = '[' → ']' ∉ text ∨ text.head? = some ']') ∧ HoldsNoClass text)
        holdsNoClass_cons_iff.symm

theorem not_pair_prefix {a b c : Char} {rest : List Char}
    (other : ∀ after, c = a → rest = b :: after → False) : ¬ [a, b] <+: c :: rest := by
  rintro ⟨after, whole⟩
  cases whole
  exact other after rfl rfl

theorem withoutClosings_of_not_mem {text : List Char} (noClosing : ']' ∉ text) :
    withoutClosings text = text := by
  induction text using withoutClosings.induct with
  | case1 rest => simp at noClosing
  | case2 c rest other ih =>
      rw [withoutClosings, ih (mt (List.mem_cons_of_mem c) noClosing)]
      exact other
  | case3 => rfl

theorem withoutClosings_sublist (text : List Char) : (withoutClosings text).Sublist text := by
  induction text using withoutClosings.induct with
  | case1 rest ih =>
      rw [withoutClosings]
      exact (ih.cons _).cons_cons _
  | case2 c rest other ih =>
      rw [withoutClosings]
      · exact ih.cons_cons _
      · exact other
  | case3 => exact List.Sublist.slnil

/-- Nothing is lost of a text exactly if no bracket in it is closed at once. -/
theorem withoutClosings_eq_self_iff {text : List Char} :
    withoutClosings text = text ↔ ¬ ['[', ']'] <:+: text := by
  induction text using withoutClosings.induct with
  | case1 rest =>
      have closed : ['[', ']'] <:+: '[' :: ']' :: rest := ⟨[], rest, rfl⟩
      simp only [withoutClosings, List.cons.injEq, true_and, closed, not_true_eq_false, iff_false]
      intro same
      have shorter := (withoutClosings_sublist rest).length_le
      rw [same] at shorter
      exact Nat.not_succ_le_self _ shorter
  | case2 c rest other ih =>
      have notHere : ¬ ['[', ']'] <+: c :: rest := not_pair_prefix other
      rw [withoutClosings, List.cons.injEq, List.infix_cons_iff, not_or, ih]
      · simp [notHere]
      · exact other
  | case3 => simp [withoutClosings]

/-- A text without wildcards in whose brackets there is no class is read as its characters, but for
the lost closing brackets. -/
theorem readPattern?_of_holdsNoClass {text : List Char} (noStar : '*' ∉ text)
    (noQuestionMark : '?' ∉ text) (noClass : HoldsNoClass text) :
    readPattern? text = some ((withoutClosings text).map .literal) := by
  induction text using withoutClosings.induct with
  | case1 rest ih =>
      have others := (holdsNoClass_cons_iff.mp (holdsNoClass_cons_iff.mp noClass).2).2
      have starless : '*' ∉ rest := fun mem => noStar (by simp [mem])
      have markless : '?' ∉ rest := fun mem => noQuestionMark (by simp [mem])
      rw [readPattern?_empty, withoutClosings, ih starless markless others]
      rfl
  | case2 c rest other ih =>
      obtain ⟨notStar, starless⟩ := List.ne_and_not_mem_of_not_mem_cons noStar
      obtain ⟨notMark, markless⟩ := List.ne_and_not_mem_of_not_mem_cons noQuestionMark
      obtain ⟨atBracket, others⟩ := holdsNoClass_cons_iff.mp noClass
      by_cases bracket : c = '['
      · subst bracket
        have unclosed : ']' ∉ rest := by
          rcases atBracket rfl with unclosed | atOnce
          · exact unclosed
          · obtain ⟨after, rfl⟩ := List.head?_eq_some_iff.mp atOnce
            exact absurd rfl (other after rfl)
        rw [readPattern?_unclosed unclosed, withoutClosings_of_not_mem (by simp [unclosed])]
      · rw [readPattern?_plain (Ne.symm notStar) (Ne.symm notMark) bracket,
          ih starless markless others, withoutClosings]
        · rfl
        · exact other
  | case3 => rw [readPattern?]; rfl

end ChartOperator.Glob
