import Mathlib.Data.List.Basic
import PyAuth.Support.Binary64

/-!
# Decimal texts of doubles

The shortest decimal that is read back as a given double, and its texts.  A text
with a decimal point determines the decimal.
-/

namespace Support

/-- The number `digits * 10 ^ exponent`. -/
structure Decimal where
  digits : ℕ
  exponent : ℤ

namespace Decimal

def value (d : Decimal) : ℚ := d.digits * 10 ^ d.exponent

/-! ## The shortest decimal -/

/-- The multiples of a power of ten next to `x`, the closest one first. -/
def around (x : ℚ) (exponent : ℤ) : List Decimal :=
  let scaled := x / 10 ^ exponent
  [⟨(roundHalfEven scaled).toNat, exponent⟩, ⟨⌊scaled⌋₊, exponent⟩,
    ⟨⌊scaled⌋₊ + 1, exponent⟩]

/-- The decimals next to `x`, from one digit to 17. -/
def candidates (x : ℚ) : List Decimal :=
  (List.range 18).flatMap fun (k : ℕ) => around x (Int.log 10 x + 1 - k)

/-- The decimal with the fewest digits that is read as `x`. -/
def shortest (x : ℚ) : Decimal :=
  ((candidates x).find? fun d => Binary64.nearest d.value = x).getD ⟨0, 0⟩

/-! ## Texts -/

/-- The position of the decimal point, counted from the first digit. -/
def point (d : Decimal) : ℤ := (Nat.toDigits 10 d.digits).length + d.exponent

/-- The last digits of a number, with zeros in front. -/
def lastDigits : ℕ → ℕ → List Char
  | 0, _ => []
  | width + 1, n => lastDigits width (n / 10) ++ [Nat.digitChar (n % 10)]

/-- The text without an exponent. -/
def fixed (d : Decimal) : String :=
  if 0 ≤ d.exponent then Nat.repr (d.digits * 10 ^ d.exponent.toNat)
  else
    let width := (-d.exponent).toNat
    Nat.repr (d.digits / 10 ^ width) ++ "." ++
      .ofList (lastDigits width d.digits)

/-- The text with an exponent of at least `width` digits. -/
def scientific (width : ℕ) (d : Decimal) : String :=
  let digits := Nat.toDigits 10 d.digits
  let exponent := d.point - 1
  .ofList (digits.take 1 ++
    (if digits.length = 1 then [] else '.' :: digits.drop 1) ++
    'e' :: (if exponent < 0 then '-' else '+') ::
      (Nat.toDigits 10 exponent.natAbs).leftpad width '0')

/-- The text without an exponent, always with a decimal point. -/
def pointed (d : Decimal) : String :=
  if 0 ≤ d.exponent then d.fixed ++ ".0" else d.fixed

/-! ## Size -/

section

variable {x : ℚ} {d : Decimal}

theorem value_lt_zpow_point (d : Decimal) : d.value < 10 ^ d.point := by
  have hdigits : d.digits < 10 ^ (Nat.toDigits 10 d.digits).length :=
    (Nat.length_toDigits_le_iff (by decide) Nat.length_toDigits_pos).mp le_rfl
  rw [value, point, zpow_add₀ (by norm_num), zpow_natCast]
  exact mul_lt_mul_of_pos_right (by exact_mod_cast hdigits)
    (zpow_pos (by norm_num) _)

theorem zpow_point_le_value (h : d.digits ≠ 0) : 10 ^ (d.point - 1) ≤ d.value := by
  have hpos : 0 < (Nat.toDigits 10 d.digits).length := Nat.length_toDigits_pos
  have hdigits : 10 ^ ((Nat.toDigits 10 d.digits).length - 1) ≤ d.digits := by
    rcases Nat.eq_zero_or_pos ((Nat.toDigits 10 d.digits).length - 1) with
      hone | hmore
    · rw [hone, Nat.pow_zero]
      exact Nat.pos_of_ne_zero h
    · rw [← not_lt, ← Nat.length_toDigits_le_iff (by decide) hmore]
      omega
  have hpoint : d.point - 1 =
      ((Nat.toDigits 10 d.digits).length - 1 : ℕ) + d.exponent := by
    rw [point]
    omega
  rw [value, hpoint, zpow_add₀ (by norm_num), zpow_natCast]
  exact mul_le_mul_of_nonneg_right (by exact_mod_cast hdigits)
    (zpow_nonneg (by norm_num) _)

theorem exponent_of_mem_candidates (h : d ∈ candidates x) :
    Int.log 10 x - 16 ≤ d.exponent := by
  obtain ⟨k, hk, hd⟩ := List.mem_flatMap.mp h
  have hexponent : d.exponent = Int.log 10 x + 1 - k := by
    rw [around] at hd
    simp only [List.mem_cons, List.not_mem_nil, or_false] at hd
    rcases hd with rfl | rfl | rfl <;> rfl
  have := List.mem_range.mp hk
  omega

/-- A decimal that is read as `x` is close to `x`. -/
theorem value_bounds (hx : 0 < x) (hlog : -50 ≤ Int.log 10 x)
    (hd : d ∈ candidates x) (hread : Binary64.nearest d.value = x) :
    d.digits ≠ 0 ∧ x / 2 ≤ d.value ∧ d.value ≤ 2 * x := by
  have hdigits : d.digits ≠ 0 := by
    intro hzero
    have hvalue : d.value = ((0 : ℤ) : ℚ) * 2 ^ (0 : ℤ) := by
      rw [value, hzero, Nat.cast_zero, Int.cast_zero, zero_mul, zero_mul]
    rw [Binary64.nearest_of_dyadic (by norm_num) (by norm_num) hvalue, hvalue,
      Int.cast_zero, zero_mul] at hread
    exact hx.ne hread
  have hexponent := exponent_of_mem_candidates hd
  have hlow : (10 : ℚ) ^ (-66 : ℤ) ≤ d.value := by
    have hone : (1 : ℚ) ≤ d.digits := by
      exact_mod_cast Nat.pos_of_ne_zero hdigits
    calc (10 : ℚ) ^ (-66 : ℤ) ≤ 10 ^ d.exponent :=
          zpow_le_zpow_right₀ (by norm_num) (by omega)
      _ ≤ d.digits * 10 ^ d.exponent :=
          le_mul_of_one_le_left (zpow_nonneg (by norm_num) _) hone
  have hpos : 0 < d.value := lt_of_lt_of_le (zpow_pos (by norm_num) _) hlow
  have htiny : (2 : ℚ) ^ (-256 : ℤ) ≤ 10 ^ (-66 : ℤ) := by norm_num
  have herror := Binary64.abs_nearest_sub_le_of_le (htiny.trans hlow)
  rw [hread, abs_le] at herror
  refine ⟨hdigits, ?_, ?_⟩ <;> linarith [herror.1, herror.2]

end

/-! ## Reading back -/

section

variable {x : ℚ} {d d' : Decimal} {width n n' : ℕ}

theorem nearest_value_shortest {k : ℕ} (hk : k < 18)
    (hd : d ∈ around x (Int.log 10 x + 1 - k))
    (hread : Binary64.nearest d.value = x) :
    shortest x ∈ candidates x ∧ Binary64.nearest (shortest x).value = x := by
  have hmem : d ∈ candidates x :=
    List.mem_flatMap.mpr ⟨k, List.mem_range.mpr hk, hd⟩
  rw [shortest]
  rcases hfind : (candidates x).find? fun d => Binary64.nearest d.value = x with
    _ | found
  · have hnone := List.find?_eq_none.mp hfind d hmem
    exact absurd hread (by simpa using hnone)
  · have hfound := List.find?_some hfind
    rw [hfind, Option.getD_some]
    exact ⟨List.mem_of_find?_eq_some hfind, by simpa using hfound⟩

/-- A double which is read from a short decimal has a shortest one. -/
theorem shortest_of_read (n : ℕ) {k : ℕ} {exponent : ℤ} (hk : k < 18)
    (hexponent : exponent = Int.log 10 x + 1 - k)
    (hclose : |x / 10 ^ exponent - n| < 1 / 2)
    (hread : Binary64.nearest (n * 10 ^ exponent) = x) :
    shortest x ∈ candidates x ∧ Binary64.nearest (shortest x).value = x := by
  have hround : roundHalfEven (x / 10 ^ exponent) = (n : ℤ) :=
    roundHalfEven_eq (by exact_mod_cast hclose)
  have hmem : (⟨n, exponent⟩ : Decimal) ∈ around x exponent := by
    rw [around, hround, Int.toNat_natCast]
    exact List.mem_cons_self
  rw [hexponent] at hmem
  exact nearest_value_shortest hk hmem (by rw [value, ← hexponent]; exact hread)

/-- The decimal point of a number of moderate size. -/
theorem point_shortest_bounds (hlow : 1 / 1000 ≤ x) (hhigh : x ≤ 10 ^ 15)
    (hmem : shortest x ∈ candidates x)
    (hread : Binary64.nearest (shortest x).value = x) :
    -4 < (shortest x).point ∧ (shortest x).point ≤ 16 := by
  have hx : 0 < x := lt_of_lt_of_le (by norm_num) hlow
  have hlog : (-3 : ℤ) ≤ Int.log 10 x := by
    apply (Int.zpow_le_iff_le_log (by norm_num) hx).mp
    exact le_trans (by norm_num) hlow
  obtain ⟨hdigits, hle, hge⟩ := value_bounds hx (by omega) hmem hread
  constructor
  · apply (zpow_lt_zpow_iff_right₀ (a := (10 : ℚ)) (by norm_num)).mp
    refine lt_of_le_of_lt ?_ (value_lt_zpow_point _)
    exact le_trans (by norm_num) (le_trans (div_le_div_of_nonneg_right hlow
      (by norm_num)) hle)
  · have hlt : (shortest x).point - 1 < 16 := by
      apply (zpow_lt_zpow_iff_right₀ (a := (10 : ℚ)) (by norm_num)).mp
      refine lt_of_le_of_lt (zpow_point_le_value hdigits) ?_
      refine lt_of_le_of_lt hge ?_
      refine lt_of_le_of_lt (mul_le_mul_of_nonneg_left hhigh (by norm_num)) ?_
      norm_num
    omega

theorem length_lastDigits (width n : ℕ) : (lastDigits width n).length = width := by
  induction width generalizing n with
  | zero => rfl
  | succ width ih => rw [lastDigits, List.length_append, ih, List.length_singleton]

theorem isDigit_of_mem_lastDigits {c : Char} (h : c ∈ lastDigits width n) :
    c.isDigit := by
  induction width generalizing n with
  | zero => cases h
  | succ width ih =>
      rw [lastDigits, List.mem_append, List.mem_singleton] at h
      rcases h with h | rfl
      · exact ih h
      · rw [Nat.isDigit_digitChar, decide_eq_true_iff]
        exact Nat.mod_lt _ (by decide)

theorem lastDigits_inj (h : lastDigits width n = lastDigits width n') :
    n % 10 ^ width = n' % 10 ^ width := by
  induction width generalizing n n' with
  | zero => rw [Nat.pow_zero, Nat.mod_one, Nat.mod_one]
  | succ width ih =>
      obtain ⟨hfront, hlast⟩ := List.append_inj' h rfl
      have hlast := congrArg Char.toNat (List.singleton_inj.mp hlast)
      rw [Nat.toNat_digitChar_of_lt_ten (Nat.mod_lt _ (by decide)),
        Nat.toNat_digitChar_of_lt_ten (Nat.mod_lt _ (by decide))] at hlast
      rw [Nat.pow_succ', Nat.mod_mul, Nat.mod_mul, ih hfront]
      omega

/-- The integer part and the fraction of a text. -/
theorem exists_parts (d : Decimal) :
    ∃ whole width fraction : ℕ,
      d.pointed.toList =
        Nat.toDigits 10 whole ++ '.' :: lastDigits width fraction ∧
      d.value = whole + (fraction % 10 ^ width : ℕ) / 10 ^ width := by
  rw [pointed, fixed]
  split
  · next hexponent =>
      refine ⟨d.digits * 10 ^ d.exponent.toNat, 1, 0, ?_, ?_⟩
      · rw [String.toList_append, Nat.toList_repr]
        rfl
      · have hpow : (10 : ℚ) ^ d.exponent = 10 ^ d.exponent.toNat := by
          rw [← zpow_natCast, Int.toNat_of_nonneg hexponent]
        rw [value, hpow, Nat.zero_mod, Nat.cast_zero, zero_div, add_zero]
        push_cast
        rfl
  · next hexponent =>
      refine ⟨d.digits / 10 ^ (-d.exponent).toNat, (-d.exponent).toNat, d.digits,
        ?_, ?_⟩
      · rw [String.toList_append, String.toList_append, Nat.toList_repr,
          List.append_assoc, String.toList_ofList, String.toList_ofList]
        rfl
      · have hneg : d.exponent = -((-d.exponent).toNat : ℤ) := by omega
        have hpow : (10 : ℚ) ^ d.exponent = (10 ^ (-d.exponent).toNat)⁻¹ := by
          rw [← zpow_natCast, ← zpow_neg, ← hneg]
        have hne : (10 : ℚ) ^ (-d.exponent).toNat ≠ 0 :=
          pow_ne_zero _ (by norm_num)
        have hdiv : (d.digits : ℚ) =
            10 ^ (-d.exponent).toNat * (d.digits / 10 ^ (-d.exponent).toNat : ℕ) +
              (d.digits % 10 ^ (-d.exponent).toNat : ℕ) := by
          exact_mod_cast (Nat.div_add_mod _ _).symm
        rw [value, hpow, ← div_eq_mul_inv, div_eq_iff hne, add_mul,
          div_mul_cancel₀ _ hne, mul_comm]
        exact hdiv

/-- Texts of different numbers differ. -/
theorem value_eq_of_pointed_eq (h : d.pointed = d'.pointed) :
    d.value = d'.value := by
  obtain ⟨whole, width, fraction, htext, hvalue⟩ := exists_parts d
  obtain ⟨whole', width', fraction', htext', hvalue'⟩ := exists_parts d'
  have hpoint : ∀ n, '.' ∉ Nat.toDigits 10 n := fun n hmem =>
    absurd (Nat.isDigit_of_mem_toDigits (by decide) (by decide) hmem) (by decide)
  have hpoint' : ∀ width n, '.' ∉ lastDigits width n := fun width n hmem =>
    absurd (isDigit_of_mem_lastDigits hmem) (by decide)
  rw [h, htext', List.append_cons_inj_of_notMem (hpoint _) (hpoint' _ _)] at htext
  obtain ⟨hwhole, -, hfraction⟩ := htext
  have hwidth := congrArg List.length hfraction
  rw [length_lastDigits, length_lastDigits] at hwidth
  subst hwidth
  have hread := congrArg (Nat.ofDigitChars 10 · 0) hwhole
  rw [Nat.ofDigitChars_ten_toDigits, Nat.ofDigitChars_ten_toDigits] at hread
  rw [hvalue, hvalue', hread, lastDigits_inj hfraction]

/-- The characters of a text. -/
theorem not_mem_pointed {c : Char} (hdigit : c.isDigit = false) (hpoint : c ≠ '.') :
    c ∉ d.pointed.toList := by
  obtain ⟨whole, width, fraction, htext, -⟩ := exists_parts d
  have hne : ¬c.isDigit = true := by
    rw [hdigit]
    exact Bool.false_ne_true
  rw [htext, List.mem_append, List.mem_cons]
  rintro (hmem | hmem | hmem)
  · exact hne (Nat.isDigit_of_mem_toDigits (by decide) (by decide) hmem)
  · exact hpoint hmem
  · exact hne (isDigit_of_mem_lastDigits hmem)

theorem pointed_ne_empty (d : Decimal) : d.pointed ≠ "" := by
  obtain ⟨whole, width, fraction, htext, -⟩ := exists_parts d
  intro hempty
  rw [hempty] at htext
  exact List.append_ne_nil_of_right_ne_nil _ (List.cons_ne_nil _ _) htext.symm

theorem isDigit_of_mem_fixed {c : Char} (hexponent : 0 ≤ d.exponent)
    (h : c ∈ d.fixed.toList) : c.isDigit := by
  rw [fixed, if_pos hexponent, Nat.toList_repr] at h
  exact Nat.isDigit_of_mem_toDigits (by decide) (by decide) h

/-- When the text without an exponent has a decimal point. -/
theorem point_mem_fixed_iff : '.' ∈ d.fixed.toList ↔ d.exponent < 0 := by
  by_cases hexponent : 0 ≤ d.exponent
  · refine iff_of_false (fun hmem => ?_) (not_lt.mpr hexponent)
    exact absurd (isDigit_of_mem_fixed hexponent hmem) (by decide)
  · refine iff_of_true ?_ (not_le.mp hexponent)
    rw [fixed, if_neg hexponent, String.toList_append, String.toList_append]
    exact List.mem_append_left _ (List.mem_append_right _ List.mem_cons_self)

end

end Decimal

end Support
