import ChartOperator.Proofs.Segments
import ChartOperator.Proofs.WholeNumbers
import Mathlib.Algebra.BigOperators.Group.List.Basic

/-!
# Whole seconds

A text made of whole numbers of hours, minutes and seconds is a duration of exactly their sum, up to
`2^53` seconds: every number that occurs on the way is a whole number of the floating-point format.
So neither the order of the segments nor the division of the sum among them makes a difference.
-/

namespace ChartOperator.Duration

/-! ## Amounts of whole seconds -/

/-- The units that are whole numbers of seconds. -/
inductive WholeUnit where
  | second
  | minute
  | hour

namespace WholeUnit

def letter : WholeUnit → Char
  | second => 's'
  | minute => 'm'
  | hour => 'h'

/-- The seconds in one unit. -/
def size : WholeUnit → Nat
  | second => 1
  | minute => 60
  | hour => 3600

end WholeUnit

/-- A natural number of units, with any number of digits and of zeros before it. -/
structure Amount where
  digits : List Char
  isRun : IsRun Char.isDigit digits
  unit : WholeUnit

namespace Amount

/-- The text of an amount. -/
def text (amount : Amount) : List Char :=
  amount.digits ++ [amount.unit.letter]

/-- The seconds in an amount. -/
def seconds (amount : Amount) : Nat :=
  Nat.ofDigitChars 10 amount.digits 0 * amount.unit.size

/-- The segment that an amount is read as. -/
def segment (amount : Amount) : Segment :=
  ⟨amount.digits, none, [amount.unit.letter]⟩

theorem text_segment (amount : Amount) : amount.segment.text = amount.text := by
  simp [segment, Segment.text, pointed, text]

theorem isProper_segment (amount : Amount) : amount.segment.IsProper Char.isDigit where
  whole := amount.isRun
  fraction _ none := by cases none
  unit := by cases h : amount.unit <;> simp [segment, WholeUnit.letter, h]

end Amount

/-- The text of some amounts. -/
def amountsText (amounts : List Amount) : List Char :=
  amounts.flatMap Amount.text

/-- The seconds in some amounts together. -/
def amountsSeconds (amounts : List Amount) : Nat :=
  (amounts.map Amount.seconds).sum

theorem madeOf_amountsText {amounts : List Amount} (nonempty : amounts ≠ []) :
    MadeOf Char.isDigit (amountsText amounts) (amounts.map Amount.segment) where
  nonempty := by simpa using nonempty
  proper := by
    intro part mem
    obtain ⟨amount, -, rfl⟩ := List.mem_map.mp mem
    exact amount.isProper_segment
  text := by
    rw [List.flatMap_map, amountsText]
    exact List.flatMap_congr fun amount _ => amount.text_segment

/-! ## Their sum -/

theorem inSeconds_letter (unit : WholeUnit) :
    ∃ timeUnit, TimeUnit.ofName? [unit.letter] = some timeUnit ∧
      timeUnit.inSeconds = .whole unit.size := by
  cases unit with
  | second => exact ⟨.second, rfl, Magnitude.ofRatio_whole (by decide)⟩
  | minute => exact ⟨.minute, rfl, Magnitude.ofRatio_whole (by decide)⟩
  | hour => exact ⟨.hour, rfl, Magnitude.ofRatio_whole (by decide)⟩

theorem digitsValue_eq (value : Nat) (digits : List Char) :
    Text.digitsValue value digits = Nat.ofDigitChars 10 digits value := by
  simp [Text.digitsValue, Nat.ofDigitChars_eq_foldl, Nat.mul_comm]

theorem seconds_segment {amount : Amount} (bound : amount.seconds ≤ 2 ^ 53) :
    amount.segment.seconds = .ok (.whole amount.seconds) := by
  obtain ⟨timeUnit, named, size⟩ := inSeconds_letter amount.unit
  have small : Nat.ofDigitChars 10 amount.digits 0 ≤ 2 ^ 53 := by
    refine Nat.le_trans (Nat.le_mul_of_pos_right _ ?_) bound
    cases amount.unit <;> decide
  have number : amount.segment.number? = some (.whole (Nat.ofDigitChars 10 amount.digits 0)) := by
    have ascii : amount.digits.all (·.isDigit) = true := List.all_eq_true.mpr amount.isRun.2
    rw [← Magnitude.ofRatio_whole small, ← digitsValue_eq]
    simp [Segment.number?, Amount.segment, ascii]
  rw [Segment.seconds, number, Amount.segment, named]
  dsimp only
  rw [size, Magnitude.mul_whole bound, Amount.seconds]

theorem sumSeconds_segments {amounts : List Amount} {sum : Nat}
    (bound : sum + amountsSeconds amounts ≤ 2 ^ 53) :
    sumSeconds (.whole sum) (amounts.map Amount.segment) =
      .ok (.whole (sum + amountsSeconds amounts)) := by
  induction amounts generalizing sum with
  | nil => rfl
  | cons amount amounts ih =>
      have split : sum + amountsSeconds (amount :: amounts) =
          sum + amount.seconds + amountsSeconds amounts := by
        simp [amountsSeconds, Nat.add_assoc]
      rw [split] at bound ⊢
      rw [List.map_cons, sumSeconds, seconds_segment (by omega)]
      dsimp only
      rw [Magnitude.add_whole (by omega), ih bound]

theorem ofMagnitude?_whole {n : Nat} (bound : n ≤ 2 ^ 53) :
    ofMagnitude? (.whole n) = some (ofSeconds n) := by
  have rounded : roundHalfEven (n * Magnitude.one * nanosPerSecond) Magnitude.one =
      n * nanosPerSecond := by
    rw [Nat.mul_right_comm]
    exact roundHalfEven_mul Magnitude.one_pos _
  have limit : n < secondsLimit := Nat.lt_of_le_of_lt bound (by decide)
  have within : n * nanosPerSecond < secondsLimit * nanosPerSecond :=
    Nat.mul_lt_mul_of_pos_right limit (by decide)
  rw [Magnitude.whole, ofMagnitude?, rounded]
  exact if_pos within

theorem ofSegments_segments {amounts : List Amount} (bound : amountsSeconds amounts ≤ 2 ^ 53) :
    ofSegments (amounts.map Amount.segment) = .ok (ofSeconds (amountsSeconds amounts)) := by
  have summed : sumSeconds (.finite 0) (amounts.map Amount.segment) =
      .ok (.whole (amountsSeconds amounts)) := by
    rw [← Magnitude.whole_zero, sumSeconds_segments (by omega), Nat.zero_add]
  exact ofSegments_of_sum summed (ofMagnitude?_whole bound)

/-! ## Their text -/

theorem trimChars_amountsText (amounts : List Amount) :
    Text.trimChars (amountsText amounts) = amountsText amounts := by
  refine Text.trimChars_of_visible fun c mem => ?_
  obtain ⟨amount, -, inText⟩ := List.mem_flatMap.mp mem
  rw [Amount.text, List.mem_append, List.mem_singleton] at inText
  rcases inText with inDigits | rfl
  · exact Text.isBlank_of_isDigit (amount.isRun.2 c inDigits)
  · cases amount.unit <;> decide

theorem parse_amountsText {amounts : List Amount} (nonempty : amounts ≠ [])
    (bound : amountsSeconds amounts ≤ 2 ^ 53) :
    parse (String.ofList (amountsText amounts)) = .ok (ofSeconds (amountsSeconds amounts)) := by
  rw [parse_eq_ok_iff, String.toList_ofList, trimChars_amountsText,
    parseTrimmed_of_madeOf (madeOf_amountsText nonempty).decimal, ofSegments_segments bound]

/-- Amounts of up to `2^53` seconds in all are a duration of just so many seconds and of no part of
a second more; and so are all other amounts that come to the same number of seconds. -/
theorem parse_wholeSeconds (amounts : List Amount) (nonempty : amounts ≠ [])
    (bound : amountsSeconds amounts ≤ 2 ^ 53) :
    (∃ d, parse (String.ofList (amountsText amounts)) = .ok d ∧
      d.seconds = amountsSeconds amounts ∧ d.subsecond = 0) ∧
    ∀ others, others ≠ [] → amountsSeconds others = amountsSeconds amounts →
      parse (String.ofList (amountsText others)) =
        parse (String.ofList (amountsText amounts)) := by
  constructor
  · exact ⟨_, parse_amountsText nonempty bound, seconds_ofSeconds _, subsecond_ofSeconds _⟩
  · intro others othersNonempty same
    rw [parse_amountsText nonempty bound,
      parse_amountsText othersNonempty (same.trans_le bound), same]

/-- The largest sum that is covered, in two ways. -/
def exampleAmounts : List Amount :=
  [⟨"0002501999792983".toList, by decide +kernel, .hour⟩, ⟨"36".toList, by decide +kernel, .minute⟩,
    ⟨"32".toList, by decide +kernel, .second⟩]

/-- The same sum in seconds. -/
def exampleOthers : List Amount :=
  [⟨"9007199254740992".toList, by decide +kernel, .second⟩]

/-- Both texts of the example are the duration of `2^53` seconds. -/
theorem parse_wholeSeconds_exampleAmounts :
    (∃ d, parse (String.ofList (amountsText exampleAmounts)) = .ok d ∧
      d.seconds = 9007199254740992 ∧ d.subsecond = 0) ∧
    parse (String.ofList (amountsText exampleOthers)) =
      parse (String.ofList (amountsText exampleAmounts)) := by
  have sum : amountsSeconds exampleAmounts = 9007199254740992 := by decide +kernel
  have same : amountsSeconds exampleOthers = amountsSeconds exampleAmounts := by decide +kernel
  obtain ⟨exact, independent⟩ :=
    parse_wholeSeconds exampleAmounts (List.cons_ne_nil _ _) (by rw [sum]; decide)
  rw [sum] at exact
  exact ⟨exact, independent exampleOthers (List.cons_ne_nil _ _) same⟩

end ChartOperator.Duration
