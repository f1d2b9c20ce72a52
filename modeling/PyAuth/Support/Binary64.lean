import Mathlib.Algebra.Order.Round
import Mathlib.Data.Int.Log
import Mathlib.Data.Rat.Floor
import Mathlib.Tactic.Linarith
import Mathlib.Tactic.Positivity

/-!
# Rounding to doubles

The two ways of rounding to an integer, and the double which is nearest to a
rational number.  Numbers of 53 bits are doubles already, and what is rounded
is off by less than the last bit.
-/

namespace Support

/-! ## Integers -/

/-- The nearest integer, ties to even. -/
def roundHalfEven (q : ℚ) : ℤ :=
  if q - ⌊q⌋ < 1 / 2 then ⌊q⌋
  else if 1 / 2 < q - ⌊q⌋ then ⌊q⌋ + 1
  else ⌊q⌋ + ⌊q⌋ % 2

section

variable {q : ℚ} {k n : ℤ}

theorem abs_roundHalfEven_sub_le (q : ℚ) :
    |(roundHalfEven q : ℚ) - q| ≤ 1 / 2 := by
  have hlow := Int.floor_le q
  have hhigh := Int.lt_floor_add_one q
  rw [roundHalfEven, abs_le]
  split
  · constructor <;> linarith
  · split
    · push_cast
      constructor <;> linarith
    · rcases Int.emod_two_eq_zero_or_one ⌊q⌋ with hparity | hparity <;>
        rw [hparity] <;> push_cast <;> constructor <;> linarith

/-- There is one integer near a number that is not halfway. -/
theorem eq_of_abs_sub_lt (hk : |(k : ℚ) - q| ≤ 1 / 2) (hn : |q - n| < 1 / 2) :
    k = n := by
  have hsum : |((k - n : ℤ) : ℚ)| < 1 := by
    have := abs_add_le ((k : ℚ) - q) (q - n)
    rw [sub_add_sub_cancel] at this
    push_cast
    linarith
  rw [← Int.cast_abs] at hsum
  have hzero : |k - n| < 1 := by exact_mod_cast hsum
  exact sub_eq_zero.mp (Int.abs_lt_one_iff.mp hzero)

theorem roundHalfEven_eq (h : |q - n| < 1 / 2) : roundHalfEven q = n :=
  eq_of_abs_sub_lt (abs_roundHalfEven_sub_le q) h

theorem round_eq_of_abs_sub_lt (h : |q - n| < 1 / 2) : round q = n := by
  refine eq_of_abs_sub_lt ?_ h
  rw [abs_sub_comm]
  exact abs_sub_round q

theorem roundHalfEven_intCast (n : ℤ) : roundHalfEven n = n := by
  apply roundHalfEven_eq
  rw [sub_self, abs_zero]
  norm_num

/-- The two ways of rounding differ halfway above an even integer. -/
theorem roundHalfEven_eq_round_iff :
    roundHalfEven q = round q ↔ ¬(q = ⌊q⌋ + 1 / 2 ∧ ⌊q⌋ % 2 = 0) := by
  rw [round_eq, roundHalfEven]
  have hlow := Int.floor_le q
  have hhigh := Int.lt_floor_add_one q
  by_cases hbelow : q - ⌊q⌋ < 1 / 2
  · have hfloor : ⌊q + 1 / 2⌋ = ⌊q⌋ := by
      rw [Int.floor_eq_iff]
      constructor <;> linarith
    rw [if_pos hbelow, hfloor]
    exact iff_of_true rfl fun h => by linarith [h.1]
  · have hfloor : ⌊q + 1 / 2⌋ = ⌊q⌋ + 1 := by
      rw [Int.floor_eq_iff]
      push_cast
      constructor <;> linarith
    rw [if_neg hbelow, hfloor]
    by_cases habove : 1 / 2 < q - ⌊q⌋
    · rw [if_pos habove]
      exact iff_of_true rfl fun h => by linarith [h.1]
    · have htie : q = ⌊q⌋ + 1 / 2 := by linarith
      rw [if_neg habove]
      constructor
      · rintro hodd ⟨-, heven⟩
        omega
      · intro h
        have : ⌊q⌋ % 2 ≠ 0 := fun heven => h ⟨htie, heven⟩
        omega

end

/-! ## Doubles -/

namespace Binary64

/-- The exponent of the last bit of the doubles around `q`. -/
def ulpExponent (q : ℚ) : ℤ := max (Int.log 2 |q| - 52) (-1074)

/-- The double nearest to `q`, for `q` which do not overflow. -/
def nearest (q : ℚ) : ℚ :=
  roundHalfEven (q / 2 ^ ulpExponent q) * 2 ^ ulpExponent q

section

variable {q : ℚ} {m e : ℤ}

/-- A multiple of the last bit is not rounded. -/
theorem nearest_of_mul (h : ulpExponent q ≤ e) (hq : q = m * 2 ^ e) :
    nearest q = q := by
  obtain ⟨k, hk⟩ := Int.le.dest h
  have hpow : (2 : ℚ) ^ e = 2 ^ k * 2 ^ ulpExponent q := by
    rw [← hk, zpow_add₀ two_ne_zero, zpow_natCast, mul_comm]
  have hscaled : q / 2 ^ ulpExponent q = ((m * 2 ^ k : ℤ) : ℚ) := by
    rw [div_eq_iff (zpow_ne_zero _ two_ne_zero)]
    push_cast
    rw [mul_assoc, ← hpow]
    exact hq
  rw [nearest, hscaled, roundHalfEven_intCast, ← hscaled,
    div_mul_cancel₀ _ (zpow_ne_zero _ two_ne_zero)]

/-- Numbers of 53 bits are doubles. -/
theorem nearest_of_dyadic (hm : |m| < 2 ^ 53) (he : -1074 ≤ e)
    (hq : q = m * 2 ^ e) : nearest q = q := by
  rcases eq_or_ne m 0 with rfl | hne
  · rw [Int.cast_zero, zero_mul] at hq
    subst hq
    rw [nearest, zero_div, ← Int.cast_zero, roundHalfEven_intCast,
      Int.cast_zero, zero_mul]
  · refine nearest_of_mul (max_le ?_ he) hq
    have habs : |q| = |(m : ℚ)| * 2 ^ e := by
      rw [hq, abs_mul, abs_of_pos (zpow_pos (two_pos (α := ℚ)) e)]
    have hpos : 0 < |q| := by
      rw [habs]
      have hm' : (0 : ℚ) < |(m : ℚ)| := abs_pos.mpr (by exact_mod_cast hne)
      exact mul_pos hm' (zpow_pos two_pos e)
    have hlt : |q| < ((2 : ℕ) : ℚ) ^ (53 + e) := by
      have hm' : |(m : ℚ)| < 2 ^ 53 := by exact_mod_cast hm
      rw [habs, Nat.cast_ofNat, zpow_add₀ two_ne_zero]
      exact mul_lt_mul_of_pos_right hm' (zpow_pos two_pos e)
    have := (Int.lt_zpow_iff_log_lt one_lt_two hpos).mp hlt
    omega

/-- The error is at most half of the last bit. -/
theorem abs_nearest_sub_le (hq : 2 ^ (-1022 : ℤ) ≤ |q|) :
    |nearest q - q| ≤ |q| / 2 ^ 53 := by
  have hpos : 0 < |q| := lt_of_lt_of_le (zpow_pos two_pos _) hq
  have hlog : (-1022 : ℤ) ≤ Int.log 2 |q| := by
    apply (Int.zpow_le_iff_le_log one_lt_two hpos).mp
    exact_mod_cast hq
  have hulp : ulpExponent q = Int.log 2 |q| - 52 := max_eq_left (by omega)
  have hunit : (2 : ℚ) ^ ulpExponent q ≤ |q| / 2 ^ 52 := by
    have hle : ((2 : ℕ) : ℚ) ^ Int.log 2 |q| ≤ |q| :=
      Int.zpow_log_le_self one_lt_two hpos
    rw [Nat.cast_ofNat] at hle
    rw [hulp, zpow_sub₀ two_ne_zero, le_div_iff₀ (by positivity)]
    calc (2 : ℚ) ^ Int.log 2 |q| / 2 ^ (52 : ℤ) * 2 ^ 52
        = 2 ^ Int.log 2 |q| := by
          rw [← zpow_natCast, Nat.cast_ofNat]
          exact div_mul_cancel₀ _ (zpow_ne_zero _ two_ne_zero)
      _ ≤ |q| := hle
  have hupos : (0 : ℚ) < 2 ^ ulpExponent q := zpow_pos two_pos _
  have herror := abs_roundHalfEven_sub_le (q / 2 ^ ulpExponent q)
  have hsplit : nearest q - q =
      (roundHalfEven (q / 2 ^ ulpExponent q) - q / 2 ^ ulpExponent q) *
        2 ^ ulpExponent q := by
    rw [nearest, sub_mul, div_mul_cancel₀ _ hupos.ne']
  calc |nearest q - q|
      ≤ 1 / 2 * 2 ^ ulpExponent q := by
        rw [hsplit, abs_mul, abs_of_pos hupos]
        exact mul_le_mul_of_nonneg_right herror hupos.le
    _ ≤ 1 / 2 * (|q| / 2 ^ 52) := by linarith
    _ = |q| / 2 ^ 53 := by ring

/-- The error of a positive number which is not tiny. -/
theorem abs_nearest_sub_le_of_le (hq : 2 ^ (-256 : ℤ) ≤ q) :
    |nearest q - q| ≤ q / 2 ^ 53 := by
  have hpos : 0 < q := lt_of_lt_of_le (zpow_pos two_pos _) hq
  have hnormal : (2 : ℚ) ^ (-1022 : ℤ) ≤ |q| := by
    rw [abs_of_pos hpos]
    exact (zpow_le_zpow_right₀ one_le_two (by norm_num)).trans hq
  have herror := abs_nearest_sub_le hnormal
  rwa [abs_of_pos hpos] at herror

end

end Binary64

end Support
