import PyAuth.Support.Decimal

/-!
# Sizes in GB

Every SDK turns the bytes of the memory and of the disk into GB with two
decimals and writes them as Python does.  Python rounds halves of a hundredth to
the even one, and the others round them up.
-/

namespace PyAuth.Hardware

open Support Support.Binary64

/-! ## The code -/

namespace Python

/-- `round(x, 2)`, which rounds the exact value. -/
def round2 (x : ℚ) : ℚ := nearest (roundHalfEven (x * 100) / 100)

/-- `str(x)` for a float. -/
def str (x : ℚ) : String :=
  let d := Decimal.shortest x
  if -4 < d.point ∧ d.point ≤ 16 then d.pointed else d.scientific 2

/-- `_facts_psutil_memory`, and the total of `_facts_psutil_root_disk_usage`. -/
def totalGb (total : Option ℕ) : Option ℚ :=
  total.map fun (total : ℕ) => round2 (nearest (total / 1024 ^ 3))

/-- `str(x or "")`. -/
def strOr (x : Option ℚ) : String :=
  match x with
  | some x => if x = 0 then "" else str x
  | none => ""

end Python

/-- `.0` is added to what looks like an integer. -/
def addPoint (s : String) : String :=
  if '.' ∉ s.toList ∧ 'e' ∉ s.toList.map Char.toLower then s ++ ".0" else s

namespace Go

/-- `math.Round`, which rounds halves away from zero. -/
def mathRound (x : ℚ) : ℤ := if x < 0 then -⌊-x + 1 / 2⌋ else ⌊x + 1 / 2⌋

def round2 (v : ℚ) : ℚ := nearest (mathRound (nearest (v * 100)) / 100)

/-- `strconv.FormatFloat(v, 'f', -1, 64)`. -/
def formatFloat (v : ℚ) : String := (Decimal.shortest v).fixed

def pyStyleFloatStr (v : ℚ) : String := addPoint (formatFloat v)

/-- `MemoryTotalGB` and `DiskTotalGB` in `CollectDeviceFacts`. -/
def totalGB (total : Option ℕ) : ℚ :=
  match total with
  | some b => if 0 < b then round2 (nearest (nearest b / 1024 ^ 3)) else 0
  | none => 0

end Go

namespace TypeScript

/-- `Math.round(v * 100) / 100`; halves are rounded up. -/
def round2 (v : ℚ) : ℚ := nearest (round (nearest (v * 100)) / 100)

/-- `String(v)`. -/
def string (v : ℚ) : String :=
  let d := Decimal.shortest v
  if -6 < d.point ∧ d.point ≤ 21 then d.fixed else d.scientific 1

def pyStyleFloatStr (v : ℚ) : String := addPoint (string (round2 v))

/-- `physicalMemoryTotalGB` and `rootDiskTotalGB`. -/
def totalGB (total : Option ℕ) : ℚ :=
  match total with
  | some b => round2 (nearest (nearest b / 1024 ^ 3))
  | none => 0

end TypeScript

/-! ## Hundredths -/

/-- The double nearest to some hundredths. -/
def hundredths (n : ℤ) : ℚ := nearest (n / 100)

section

variable {n n' : ℤ}

theorem hundredths_zero : hundredths 0 = 0 := by
  refine (nearest_of_dyadic (m := 0) (e := 0) (by decide) (by decide) ?_).trans ?_
  · rw [Int.cast_zero, zero_div, zero_mul]
  · rw [Int.cast_zero, zero_div]

theorem abs_hundredths_sub_le (hpos : 0 < n) :
    |hundredths n * 100 - n| ≤ n / 2 ^ 53 := by
  have hone : (1 : ℚ) ≤ n := by exact_mod_cast hpos
  have htiny : (2 : ℚ) ^ (-256 : ℤ) ≤ 1 / 100 := by norm_num
  have herror := abs_nearest_sub_le_of_le
    (htiny.trans (div_le_div_of_nonneg_right hone (by norm_num)))
  have hscale : hundredths n * 100 - n = (nearest (n / 100) - n / 100) * 100 := by
    rw [hundredths]
    ring
  rw [hscale, abs_mul, abs_of_pos (by norm_num : (0 : ℚ) < 100)]
  linarith

/-- Up to 2 ^ 20 the error is tiny. -/
theorem abs_hundredths_sub_lt (hpos : 0 < n) (hle : n ≤ 2 ^ 20) :
    |hundredths n * 100 - n| ≤ 1 / 2 ^ 33 := by
  have hn : (n : ℚ) ≤ 2 ^ 20 := by exact_mod_cast hle
  refine (abs_hundredths_sub_le hpos).trans ?_
  rw [div_le_div_iff₀ (by norm_num) (by norm_num)]
  linarith

theorem hundredths_bounds (hpos : 0 < n) (hle : n ≤ 2 ^ 20) :
    1 / 1000 ≤ hundredths n ∧ hundredths n ≤ 10 ^ 6 := by
  have herror := abs_le.mp (abs_hundredths_sub_lt hpos hle)
  have hone : (1 : ℚ) ≤ n := by exact_mod_cast hpos
  have hn : (n : ℚ) ≤ 2 ^ 20 := by exact_mod_cast hle
  constructor <;> linarith [herror.1, herror.2]

/-- Different hundredths are different doubles. -/
theorem hundredths_inj (hpos : 0 < n) (hle : n ≤ 2 ^ 20) (hpos' : 0 < n')
    (hle' : n' ≤ 2 ^ 20) (h : hundredths n = hundredths n') : n = n' := by
  have herror := abs_hundredths_sub_lt hpos hle
  have herror' := abs_hundredths_sub_lt hpos' hle'
  rw [h] at herror
  refine eq_of_abs_sub_lt (q := hundredths n' * 100) ?_ ?_
  · rw [abs_sub_comm]
    exact herror.trans (by norm_num)
  · exact lt_of_le_of_lt herror' (by norm_num)

/-- What is multiplied by 100 again is near the same integer. -/
theorem abs_nearest_hundredths_sub_lt (hpos : 0 < n) (hle : n ≤ 2 ^ 20) :
    |nearest (hundredths n * 100) - n| < 1 / 2 := by
  have herror := abs_hundredths_sub_lt hpos hle
  have hone : (1 : ℚ) ≤ n := by exact_mod_cast hpos
  have hn : (n : ℚ) ≤ 2 ^ 20 := by exact_mod_cast hle
  have hbounds := abs_le.mp herror
  have htiny : (2 : ℚ) ^ (-256 : ℤ) ≤ 1 / 2 := by norm_num
  have hnearest := abs_nearest_sub_le_of_le
    (htiny.trans (by linarith [hbounds.1] : 1 / 2 ≤ hundredths n * 100))
  have hsmall : hundredths n * 100 / 2 ^ 53 ≤ 1 / 2 ^ 32 := by
    rw [div_le_div_iff₀ (by norm_num) (by norm_num)]
    linarith [hbounds.2]
  have hsum := abs_add_le (nearest (hundredths n * 100) - hundredths n * 100)
    (hundredths n * 100 - n)
  rw [sub_add_sub_cancel] at hsum
  refine lt_of_le_of_lt (hsum.trans (add_le_add (hnearest.trans hsmall) herror)) ?_
  norm_num

theorem Go.mathRound_eq {x : ℚ} (h : 0 ≤ x) : mathRound x = round x := by
  rw [mathRound, if_neg (not_lt.mpr h), round_eq]

/-- Rounding to hundredths again changes nothing. -/
theorem round2_hundredths (hpos : 0 < n) (hle : n ≤ 2 ^ 20) :
    Go.round2 (hundredths n) = hundredths n ∧
      TypeScript.round2 (hundredths n) = hundredths n := by
  have hclose := abs_nearest_hundredths_sub_lt hpos hle
  have hround := round_eq_of_abs_sub_lt hclose
  have hone : (1 : ℚ) ≤ n := by exact_mod_cast hpos
  constructor
  · rw [Go.round2, Go.mathRound_eq (by linarith [(abs_lt.mp hclose).1]), hround,
      hundredths]
  · rw [TypeScript.round2, hround, hundredths]

end

/-! ## Texts of sizes -/

/-- The text of some hundredths, which nothing is written for if there are
none. -/
def sizeText (n : ℤ) : List String :=
  if n = 0 then [] else [(Decimal.shortest (hundredths n)).pointed]

section

variable {n n' : ℤ}

theorem sizeText_of_ne (h : n ≠ 0) :
    sizeText n = [(Decimal.shortest (hundredths n)).pointed] := if_neg h

/-- A double of some hundredths is read from its text. -/
theorem shortest_hundredths (hpos : 0 < n) (hle : n ≤ 2 ^ 20) :
    Decimal.shortest (hundredths n) ∈ Decimal.candidates (hundredths n) ∧
      nearest (Decimal.shortest (hundredths n)).value = hundredths n := by
  obtain ⟨hlow, hhigh⟩ := hundredths_bounds hpos hle
  have hx : 0 < hundredths n := lt_of_lt_of_le (by norm_num) hlow
  have hlog : (-3 : ℤ) ≤ Int.log 10 (hundredths n) := by
    apply (Int.zpow_le_iff_le_log (by norm_num) hx).mp
    exact le_trans (by norm_num) hlow
  have hlog' : Int.log 10 (hundredths n) < 7 := by
    apply (Int.lt_zpow_iff_log_lt (by norm_num) hx).mp
    exact lt_of_le_of_lt hhigh (by norm_num)
  have hn : ((n.toNat : ℕ) : ℚ) = n := by
    exact_mod_cast Int.toNat_of_nonneg hpos.le
  have hcent : (10 : ℚ) ^ (-2 : ℤ) = 1 / 100 := by norm_num
  have hk : (Int.log 10 (hundredths n) + 3).toNat < 18 := by omega
  have hexponent : (-2 : ℤ) = Int.log 10 (hundredths n) + 1 -
      (Int.log 10 (hundredths n) + 3).toNat := by omega
  refine Decimal.shortest_of_read n.toNat hk hexponent ?_ ?_
  · rw [hcent, hn, div_div_eq_mul_div, div_one]
    exact lt_of_le_of_lt (abs_hundredths_sub_lt hpos hle) (by norm_num)
  · rw [hcent, hn, mul_one_div]
    rfl

theorem point_hundredths (hpos : 0 < n) (hle : n ≤ 2 ^ 20) :
    -4 < (Decimal.shortest (hundredths n)).point ∧
      (Decimal.shortest (hundredths n)).point ≤ 16 := by
  obtain ⟨hlow, hhigh⟩ := hundredths_bounds hpos hle
  obtain ⟨hmem, hread⟩ := shortest_hundredths hpos hle
  exact Decimal.point_shortest_bounds hlow (hhigh.trans (by norm_num)) hmem hread

/-- Different sizes have different texts. -/
theorem pointed_hundredths_inj (hpos : 0 < n) (hle : n ≤ 2 ^ 20) (hpos' : 0 < n')
    (hle' : n' ≤ 2 ^ 20)
    (h : (Decimal.shortest (hundredths n)).pointed =
      (Decimal.shortest (hundredths n')).pointed) : n = n' := by
  have hvalue := Decimal.value_eq_of_pointed_eq h
  refine hundredths_inj hpos hle hpos' hle' ?_
  rw [← (shortest_hundredths hpos hle).2, hvalue,
    (shortest_hundredths hpos' hle').2]

theorem toLower_of_isDigit {c : Char} (h : c.isDigit = true) : c.toLower = c := by
  have hle : c.val ≤ '9'.val := by
    rw [Char.isDigit, Bool.and_eq_true, decide_eq_true_iff, decide_eq_true_iff] at h
    exact h.2
  exact dif_neg fun hupper =>
    absurd (UInt32.le_trans hupper.1 hle) (by decide)

/-- The decimal point that Go and TypeScript add is that of Python. -/
theorem addPoint_fixed (d : Decimal) : addPoint d.fixed = d.pointed := by
  rw [addPoint, Decimal.pointed]
  by_cases hexponent : 0 ≤ d.exponent
  · rw [if_pos hexponent, if_pos]
    refine ⟨fun hpoint => ?_, fun hmem => ?_⟩
    · exact absurd (Decimal.point_mem_fixed_iff.mp hpoint) (not_lt.mpr hexponent)
    · obtain ⟨c, hc, he⟩ := List.mem_map.mp hmem
      have hdigit := Decimal.isDigit_of_mem_fixed hexponent hc
      rw [toLower_of_isDigit hdigit] at he
      rw [he] at hdigit
      exact absurd hdigit (by decide)
  · rw [if_neg hexponent, if_neg]
    exact fun h => h.1 (Decimal.point_mem_fixed_iff.mpr (not_le.mp hexponent))

/-- All three write a size alike. -/
theorem text_hundredths (hpos : 0 < n) (hle : n ≤ 2 ^ 20) :
    Python.str (hundredths n) = (Decimal.shortest (hundredths n)).pointed ∧
      Go.pyStyleFloatStr (Go.round2 (hundredths n)) =
        (Decimal.shortest (hundredths n)).pointed ∧
      TypeScript.pyStyleFloatStr (TypeScript.round2 (hundredths n)) =
        (Decimal.shortest (hundredths n)).pointed := by
  have hpoint := point_hundredths hpos hle
  obtain ⟨hgo, hts⟩ := round2_hundredths hpos hle
  refine ⟨if_pos hpoint, ?_, ?_⟩
  · rw [hgo, Go.pyStyleFloatStr, Go.formatFloat, addPoint_fixed]
  · have hfixed : TypeScript.string (hundredths n) =
        (Decimal.shortest (hundredths n)).fixed := if_pos (by omega)
    rw [TypeScript.pyStyleFloatStr, hts, hts, hfixed, addPoint_fixed]

theorem hundredths_ne_zero_iff (hnonneg : 0 ≤ n) (hle : n ≤ 2 ^ 20) :
    hundredths n ≠ 0 ↔ n ≠ 0 := by
  refine ⟨fun h hn => h (hn ▸ hundredths_zero), fun hn h => ?_⟩
  have hlow := (hundredths_bounds (hnonneg.lt_of_ne' hn) hle).1
  rw [h] at hlow
  norm_num at hlow

/-- A size is written unless it is zero. -/
theorem ite_hundredths {text : ℚ → String} (hnonneg : 0 ≤ n) (hle : n ≤ 2 ^ 20)
    (htext : 0 < n →
      text (hundredths n) = (Decimal.shortest (hundredths n)).pointed) :
    (if hundredths n ≠ 0 then [text (hundredths n)] else []) = sizeText n := by
  rw [sizeText]
  by_cases hn : n = 0
  · rw [if_pos hn, if_neg]
    exact fun h => (hundredths_ne_zero_iff hnonneg hle).mp h hn
  · rw [if_neg hn, if_pos ((hundredths_ne_zero_iff hnonneg hle).mpr hn),
      htext (hnonneg.lt_of_ne' hn)]

end

/-! ## Sizes in bytes -/

/-- A size in hundredths of a GB, not yet rounded. -/
def scaled (b : ℕ) : ℚ := b / 1024 ^ 3 * 100

def hundredthsEven (total : Option ℕ) : ℤ :=
  total.elim 0 fun b => roundHalfEven (scaled b)

def hundredthsUp (total : Option ℕ) : ℤ := total.elim 0 fun b => round (scaled b)

/-- A size of less than 8 TiB. -/
def Below8TiB (total : Option ℕ) : Prop := ∀ b ∈ total, b < 2 ^ 43

/-- A size 128 MiB above a multiple of 512 MiB, whose hundredth Python rounds
down. -/
def RoundedDown (total : Option ℕ) : Prop := ∃ b ∈ total, b % 2 ^ 29 = 2 ^ 27

section

variable {b : ℕ} {total : Option ℕ}

/-- The arithmetic is exact. -/
theorem nearest_sizes (hb : b < 2 ^ 43) :
    nearest b = b ∧ nearest (b / 1024 ^ 3 : ℚ) = b / 1024 ^ 3 ∧
      nearest (b / 1024 ^ 3 * 100 : ℚ) = scaled b := by
  have hcast : ((b : ℤ) : ℚ) = b := Int.cast_natCast b
  have hpow : (2 : ℚ) ^ (-30 : ℤ) = 1 / 1024 ^ 3 := by norm_num
  refine ⟨nearest_of_dyadic (m := b) (e := 0) ?_ (by decide) ?_,
    nearest_of_dyadic (m := b) (e := -30) ?_ (by decide) ?_,
    nearest_of_dyadic (m := b * 100) (e := -30) ?_ (by decide) ?_⟩
  · rw [abs_lt]
    omega
  · rw [hcast, zpow_zero, mul_one]
  · rw [abs_lt]
    omega
  · rw [hcast, hpow, mul_one_div]
  · rw [abs_lt]
    omega
  · rw [hpow]
    push_cast
    ring

theorem scaled_bounds (hb : b < 2 ^ 43) : 0 ≤ scaled b ∧ scaled b ≤ 819200 := by
  have hb' : (b : ℚ) ≤ 2 ^ 43 := by exact_mod_cast hb.le
  have hb'' : (0 : ℚ) ≤ b := Nat.cast_nonneg b
  rw [scaled]
  constructor <;> linarith

theorem hundredths_of_rounded {q : ℚ} {k : ℤ} (hq : 0 ≤ q ∧ q ≤ 819200)
    (hk : |(k : ℚ) - q| ≤ 1 / 2) : 0 ≤ k ∧ k ≤ 2 ^ 20 := by
  obtain ⟨hlow, hhigh⟩ := abs_le.mp hk
  constructor
  · have : (-1 : ℚ) < k := by linarith [hq.1]
    have : -1 < k := by exact_mod_cast this
    omega
  · have : (k : ℚ) < 819201 := by linarith [hq.2]
    have : k < 819201 := by exact_mod_cast this
    omega

theorem abs_round_sub_le (q : ℚ) : |(round q : ℚ) - q| ≤ 1 / 2 := by
  rw [abs_sub_comm]
  exact abs_sub_round q

theorem rounded_bounds (h : Below8TiB total) :
    (0 ≤ hundredthsEven total ∧ hundredthsEven total ≤ 2 ^ 20) ∧
      0 ≤ hundredthsUp total ∧ hundredthsUp total ≤ 2 ^ 20 := by
  rcases total with _ | b
  · decide
  · have hscaled := scaled_bounds (h b rfl)
    exact ⟨hundredths_of_rounded hscaled (abs_roundHalfEven_sub_le _),
      hundredths_of_rounded hscaled (abs_round_sub_le _)⟩

/-- What is a double in Python, and where the others have zero. -/
theorem totals_eq (h : Below8TiB total) :
    (Python.totalGb total).getD 0 = hundredths (hundredthsEven total) ∧
      Go.totalGB total = hundredths (hundredthsUp total) ∧
      TypeScript.totalGB total = hundredths (hundredthsUp total) := by
  rcases total with _ | b
  · exact ⟨hundredths_zero.symm, hundredths_zero.symm, hundredths_zero.symm⟩
  · obtain ⟨hfloat, hgb, hmul⟩ := nearest_sizes (h b rfl)
    have hscaled := scaled_bounds (h b rfl)
    refine ⟨?_, ?_, ?_⟩
    · rw [Python.totalGb, Option.map_some, Option.getD_some, Python.round2, hgb]
      rfl
    · rcases Nat.eq_zero_or_pos b with rfl | hpos
      · have hzero : hundredthsUp (some 0) = 0 := by decide +kernel
        rw [hzero, hundredths_zero, Go.totalGB, if_neg (Nat.lt_irrefl 0)]
      · rw [Go.totalGB, if_pos hpos, hfloat, hgb, Go.round2, hmul,
          Go.mathRound_eq hscaled.1]
        rfl
    · rw [TypeScript.totalGB, hfloat, hgb, TypeScript.round2, hmul]
      rfl

theorem floor_scaled (b : ℕ) : ⌊scaled b⌋ = (25 * b / 2 ^ 28 : ℕ) := by
  have hscaled : scaled b = ((25 * b : ℕ) : ℚ) / (2 ^ 28 : ℕ) := by
    rw [scaled]
    push_cast
    ring
  rw [hscaled]
  exact Rat.floor_natCast_div_natCast _ _

theorem scaled_eq_half_iff {n : ℕ} :
    scaled b = n + 1 / 2 ↔ 50 * b = 2 ^ 28 * (2 * n + 1) := by
  rw [scaled]
  constructor
  · intro h
    have hcast : (50 * b : ℚ) = 2 ^ 28 * (2 * n + 1) := by linarith
    exact_mod_cast hcast
  · intro h
    have hcast : (50 * b : ℚ) = 2 ^ 28 * (2 * n + 1) := by exact_mod_cast h
    linarith

theorem rounded_pos (h : RoundedDown total) :
    0 < hundredthsEven total ∧ 0 < hundredthsUp total := by
  obtain ⟨b, hb, hmod⟩ := h
  obtain rfl := Option.mem_def.mp hb
  have hle : 2 ^ 27 ≤ b := by omega
  have hcast : (2 ^ 27 : ℚ) ≤ b := by exact_mod_cast hle
  have hscaled : 1 < scaled b := by
    rw [scaled]
    linarith
  have hpos {k : ℤ} (hk : |(k : ℚ) - scaled b| ≤ 1 / 2) : 0 < k := by
    have hlow := (abs_le.mp hk).1
    have : (0 : ℚ) < k := by linarith
    exact_mod_cast this
  exact ⟨hpos (abs_roundHalfEven_sub_le _), hpos (abs_round_sub_le _)⟩

theorem mod_of_half {n : ℕ} (hhalf : 50 * b = 2 ^ 28 * (2 * n + 1))
    (heven : n % 2 = 0) : b % 2 ^ 29 = 2 ^ 27 := by
  have hdvd : 2 ^ 27 ∣ b := by
    have hmul : 2 ^ 27 ∣ 25 * b := ⟨2 * n + 1, by omega⟩
    exact Nat.Coprime.dvd_of_dvd_mul_left (by decide) hmul
  obtain ⟨c, rfl⟩ := hdvd
  have hodd : 25 * c = 2 * n + 1 := by omega
  omega

/-- The two ways of rounding, in bytes. -/
theorem hundredthsEven_eq_hundredthsUp_iff :
    hundredthsEven total = hundredthsUp total ↔ ¬RoundedDown total := by
  rcases total with _ | b
  · exact iff_of_true rfl fun ⟨b, hb, _⟩ => nomatch hb
  · refine roundHalfEven_eq_round_iff.trans (not_congr ?_)
    rw [floor_scaled, Int.cast_natCast, scaled_eq_half_iff]
    constructor
    · rintro ⟨hhalf, heven⟩
      exact ⟨b, rfl, mod_of_half hhalf (by exact_mod_cast heven)⟩
    · rintro ⟨b', hb', hmod⟩
      obtain rfl := Option.some.inj hb'
      constructor <;> omega

end

end PyAuth.Hardware
