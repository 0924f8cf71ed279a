import ChartOperator.Number.Binary64
import Mathlib.Algebra.Ring.Nat

/-!
# Exact whole numbers

The whole numbers up to `2^53` are numbers of the format.  A quotient, a sum or a product that is
one of them is computed without rounding.
-/

namespace ChartOperator

theorem roundHalfEven_mul {den : Nat} (positive : 0 < den) (n : Nat) :
    roundHalfEven (n * den) den = n := by
  simp [roundHalfEven, Nat.mul_div_cancel n positive, positive]

namespace Magnitude

/-- A whole number. -/
def whole (n : Nat) : Magnitude := finite (n * one)

theorem whole_zero : whole 0 = finite 0 := by
  rw [whole, Nat.zero_mul]

theorem two_pow_eq (p : Nat) : Nat.pow 2 p = 2 ^ p := rfl

/-- The exponents of one and of the end of the finite numbers.  Their powers of two are too large to
be written out. -/
theorem exists_exponents :
    ∃ p q, one = Nat.pow 2 p ∧ overflow = Nat.pow 2 q ∧ 53 + p < q := by
  unfold one overflow
  exact ⟨_, _, rfl, rfl, by decide⟩

theorem one_pos : 0 < one := by
  obtain ⟨p, -, isPower, -⟩ := exists_exponents
  rw [isPower]
  exact Nat.two_pow_pos p

/-- The distance of the numbers around a multiple of a power of two divides this multiple, up to
`2^53` times the power. -/
theorem step_dvd {n : Nat} (bound : n ≤ 2 ^ 53) (p : Nat) :
    2 ^ ((n * 2 ^ p).log2 - 52) ∣ n * 2 ^ p := by
  by_cases zero : n = 0
  · rw [zero, Nat.zero_mul]
    exact Nat.dvd_zero _
  · rcases Nat.lt_or_eq_of_le bound with less | rfl
    · have small : n * 2 ^ p < 2 ^ (53 + p) := by
        rw [Nat.pow_add]
        exact Nat.mul_lt_mul_of_pos_right less (Nat.two_pow_pos p)
      have nonzero : n * 2 ^ p ≠ 0 := Nat.mul_ne_zero zero (Nat.ne_of_gt (Nat.two_pow_pos p))
      have digits := (Nat.log2_lt nonzero).mpr small
      exact Nat.dvd_mul_left_of_dvd (Nat.pow_dvd_pow 2 (by omega)) n
    · rw [← Nat.pow_add, Nat.log2_two_pow]
      exact Nat.pow_dvd_pow 2 (by omega)

variable {m n den : Nat}

theorem mul_one_lt_overflow (bound : n ≤ 2 ^ 53) : n * one < overflow := by
  obtain ⟨p, q, isPower, isLimit, smaller⟩ := exists_exponents
  rw [isPower, isLimit, two_pow_eq, two_pow_eq]
  calc
    n * 2 ^ p ≤ 2 ^ 53 * 2 ^ p := Nat.mul_le_mul_right _ bound
    _ = 2 ^ (53 + p) := (Nat.pow_add 2 53 p).symm
    _ < 2 ^ q := Nat.pow_lt_pow_right (by decide) smaller

/-- A quotient that is a whole number is not rounded. -/
theorem nearestQuanta_whole (positive : 0 < den) (bound : n ≤ 2 ^ 53) :
    nearestQuanta (n * one * den) den = whole n := by
  have quotient : n * one * den / den = n * one := Nat.mul_div_cancel _ positive
  have exact : Nat.pow 2 ((n * one).log2 - 52) ∣ n * one := by
    obtain ⟨p, -, isPower, -⟩ := exists_exponents
    rw [isPower]
    exact step_dvd bound p
  have distance : 0 < Nat.pow 2 ((n * one).log2 - 52) := Nat.two_pow_pos _
  simp only [nearestQuanta, quotient]
  generalize Nat.pow 2 ((n * one).log2 - 52) = step at exact distance
  obtain ⟨times, multiple⟩ := exact
  have rounded : roundHalfEven (n * one * den) (den * step) = times := by
    have same : n * one * den = times * (den * step) := by
      rw [multiple, Nat.mul_comm step, Nat.mul_assoc, Nat.mul_comm step]
    rw [same]
    exact roundHalfEven_mul (Nat.mul_pos positive distance) times
  rw [rounded, Nat.mul_comm times, ← multiple,
    if_neg (Nat.not_le_of_lt (mul_one_lt_overflow bound)), whole]

theorem ofRatio_whole (bound : n ≤ 2 ^ 53) : ofRatio n 1 = whole n := by
  rw [ofRatio, ← nearestQuanta_whole Nat.one_pos bound, Nat.mul_one]

theorem add_whole (bound : m + n ≤ 2 ^ 53) : (whole m).add (whole n) = whole (m + n) := by
  rw [whole, whole, add, ← Nat.add_mul, ← nearestQuanta_whole Nat.one_pos bound, Nat.mul_one]

theorem mul_whole (bound : m * n ≤ 2 ^ 53) : (whole m).mul (whole n) = whole (m * n) := by
  have product : m * one * (n * one) = m * n * one * one := by
    rw [Nat.mul_mul_mul_comm, Nat.mul_assoc (m * n)]
  rw [whole, whole, mul, product, nearestQuanta_whole one_pos bound]

end Magnitude

end ChartOperator
