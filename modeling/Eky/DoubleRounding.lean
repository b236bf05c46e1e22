import Mathlib.Algebra.Order.Floor.Ring
import Mathlib.Data.Int.Log
import Mathlib.Data.Rat.Floor
import Mathlib.Tactic.FieldSimp
import Mathlib.Tactic.Linarith

/-! # Division of doubles

    The quotient of two doubles is the double nearest to the exact quotient, with 53 binary
    digits, and of two equally near the one whose last digit is even.

    - `toDouble_error`: it is at most half a unit in the last place away;
    - `toDouble_intCast`: integers of at most 53 digits are doubles;
    - `floor_divide`: dividing a safe integer by 100 and rounding down is exact, since the
      fraction of the quotient is coarser than the rounding. -/

namespace DoubleRounding

/-- The nearest integer, the even one of two. -/
def nearestEven (x : ℚ) : ℤ :=
  if x - ⌊x⌋ < 1 / 2 then ⌊x⌋
  else if 1 / 2 < x - ⌊x⌋ then ⌊x⌋ + 1
  else if ⌊x⌋ % 2 = 0 then ⌊x⌋ else ⌊x⌋ + 1

/-- The value of the last of 53 binary digits. -/
def unitInLastPlace (x : ℚ) : ℚ := 2 ^ (Int.log 2 x - 52)

/-- The double nearest to a positive number that is neither too large nor too small for its
    exponent. -/
def toDouble (x : ℚ) : ℚ := nearestEven (x / unitInLastPlace x) * unitInLastPlace x

/-- `a / b` -/
def divide (a b : ℤ) : ℚ := toDouble (a / b)

theorem nearestEven_intCast (n : ℤ) : nearestEven n = n := by
  rw [nearestEven, if_pos]
  · exact Int.floor_intCast n
  · rw [Int.floor_intCast, sub_self]
    norm_num

theorem nearestEven_error (x : ℚ) : |(nearestEven x : ℚ) - x| ≤ 1 / 2 := by
  have hlow := Int.floor_le x
  have hhigh := Int.lt_floor_add_one x
  rw [abs_le]
  unfold nearestEven
  split
  · constructor <;> linarith
  · split
    · push_cast
      constructor <;> linarith
    · split
      · constructor <;> linarith
      · push_cast
        constructor <;> linarith

theorem unitInLastPlace_pos (x : ℚ) : 0 < unitInLastPlace x := zpow_pos (by norm_num) _

/-- **ROUNDING ERROR** -/
theorem toDouble_error (x : ℚ) : |toDouble x - x| ≤ unitInLastPlace x / 2 := by
  have hpos := unitInLastPlace_pos x
  have hscaled : toDouble x - x
      = (nearestEven (x / unitInLastPlace x) - x / unitInLastPlace x) * unitInLastPlace x := by
    rw [toDouble, sub_mul, div_mul_cancel₀ x hpos.ne']
  rw [hscaled, abs_mul, abs_of_pos hpos]
  have herror := nearestEven_error (x / unitInLastPlace x)
  nlinarith

theorem unitInLastPlace_le {x : ℚ} (hx : 0 < x) {digits : ℕ} (h : x < 2 ^ digits) :
    unitInLastPlace x ≤ 2 ^ ((digits : ℤ) - 53) := by
  have hlog : Int.log 2 x < digits := by
    refine (Int.lt_zpow_iff_log_lt (by norm_num) hx).mp ?_
    rw [zpow_natCast]
    exact_mod_cast h
  exact zpow_le_zpow_right₀ (by norm_num) (by omega)

/-- An integer with at most 53 digits is a double. -/
theorem toDouble_intCast {n : ℤ} (hn : 0 < n) (h : n < 2 ^ 53) : toDouble n = n := by
  have hpos := unitInLastPlace_pos (n : ℚ)
  have hlog : Int.log 2 (n : ℚ) < 53 := by
    refine (Int.lt_zpow_iff_log_lt (by norm_num) (by exact_mod_cast hn)).mp ?_
    exact_mod_cast h
  -- the unit divides 1, so the number of units is an integer
  obtain ⟨k, hk⟩ : ∃ k : ℕ, (k : ℤ) = 52 - Int.log 2 (n : ℚ) :=
    ⟨(52 - Int.log 2 (n : ℚ)).toNat, Int.toNat_of_nonneg (by omega)⟩
  have hunit : unitInLastPlace (n : ℚ) = (2 ^ k)⁻¹ := by
    rw [unitInLastPlace, show Int.log 2 (n : ℚ) - 52 = -(k : ℤ) by omega, zpow_neg, zpow_natCast]
  have hquotient : (n : ℚ) / unitInLastPlace n = ((n * 2 ^ k : ℤ) : ℚ) := by
    rw [hunit, div_inv_eq_mul]
    push_cast
    rfl
  rw [toDouble, hquotient, nearestEven_intCast, ← hquotient, div_mul_cancel₀ _ hpos.ne']

/-- **EXACT DIVISION**: hundredths of a safe integer, rounded down. -/
theorem floor_divide {n : ℤ} (hn : 0 ≤ n) (h : n < 2 ^ 53) : ⌊divide n 100⌋ = n / 100 := by
  have hsplit := Int.mul_ediv_add_emod n 100
  have hmod := Int.emod_nonneg n (by norm_num : (100 : ℤ) ≠ 0)
  have hlt := Int.emod_lt_of_pos n (by norm_num : (0 : ℤ) < 100)
  have hexact : (n : ℚ) / ((100 : ℤ) : ℚ) = (n / 100 : ℤ) + (n % 100 : ℤ) / 100 := by
    have hcast : (n : ℚ) = 100 * ((n / 100 : ℤ) : ℚ) + ((n % 100 : ℤ) : ℚ) := by
      exact_mod_cast hsplit.symm
    rw [hcast]
    push_cast
    field_simp
  rw [divide, hexact]
  by_cases hzero : n % 100 = 0
  · rw [hzero, Int.cast_zero, zero_div, add_zero]
    by_cases hq : n / 100 = 0
    · rw [hq]
      decide +kernel
    · rw [toDouble_intCast (by omega) (by omega), Int.floor_intCast]
  · -- the fraction is at least a hundredth away from both integers
    have hlow : (1 : ℚ) ≤ ((n % 100 : ℤ) : ℚ) := by exact_mod_cast (by omega : 1 ≤ n % 100)
    have hhigh : ((n % 100 : ℤ) : ℚ) ≤ 99 := by exact_mod_cast (by omega : n % 100 ≤ 99)
    have hq : (0 : ℚ) ≤ ((n / 100 : ℤ) : ℚ) := by exact_mod_cast (by omega : 0 ≤ n / 100)
    have hqmax : ((n / 100 : ℤ) : ℚ) + 1 ≤ 2 ^ 47 := by
      exact_mod_cast (by omega : n / 100 + 1 ≤ 2 ^ 47)
    have herror := toDouble_error (((n / 100 : ℤ) : ℚ) + ((n % 100 : ℤ) : ℚ) / 100)
    have hunit := @unitInLastPlace_le (((n / 100 : ℤ) : ℚ) + ((n % 100 : ℤ) : ℚ) / 100)
      (by linarith) 47 (by linarith)
    norm_num at hunit
    rw [abs_le] at herror
    rw [Int.floor_eq_iff]
    constructor <;> linarith

end DoubleRounding
