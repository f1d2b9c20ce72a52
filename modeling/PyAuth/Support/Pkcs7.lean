import Mathlib.Data.List.Basic

/-!
# PKCS #7 padding

The last block is filled with bytes which tell how many there are; a full block
is added where nothing is missing.
-/

namespace Support.Pkcs7

variable {size n : ℕ} {data text : List UInt8}

/-- The number of bytes that are added. -/
def padLength (size n : ℕ) : ℕ := if n % size = 0 then size else size - n % size

def pad (size : ℕ) (data : List UInt8) : List UInt8 :=
  data ++ List.replicate (padLength size data.length)
    (UInt8.ofNat (padLength size data.length))

/-- The text without its padding, `none` if it is not padded. -/
def unpad (size : ℕ) (data : List UInt8) : Option (List UInt8) :=
  if data.length % size ≠ 0 then none
  else
    match data.getLast? with
    | none => none
    | some last =>
        if last.toNat = 0 ∨ size < last.toNat then none
        else if data.drop (data.length - last.toNat) =
            List.replicate last.toNat last then
          some (data.take (data.length - last.toNat))
        else none

theorem padLength_pos (hsize : 0 < size) : 0 < padLength size n := by
  rw [padLength]
  have := Nat.mod_lt n hsize
  split <;> omega

theorem padLength_le : padLength size n ≤ size := by
  rw [padLength]
  split <;> omega

/-- Padded data consists of whole blocks. -/
theorem dvd_add_padLength (hsize : 0 < size) : size ∣ n + padLength size n := by
  rw [padLength]
  have hmod := Nat.mod_lt n hsize
  have hdiv := Nat.div_add_mod n size
  split
  · next h => exact Nat.dvd_add (Nat.dvd_of_mod_eq_zero h) (Nat.dvd_refl _)
  · refine ⟨n / size + 1, ?_⟩
    rw [Nat.mul_add, Nat.mul_one]
    omega

/-- There is one number of bytes that fills the last block. -/
theorem eq_padLength {k : ℕ} (hpos : 0 < k) (hle : k ≤ size)
    (hdvd : size ∣ n + k) : k = padLength size n := by
  obtain ⟨q, hq⟩ := hdvd
  have hmod := Nat.mod_lt n (Nat.lt_of_lt_of_le hpos hle)
  have hdiv := Nat.div_add_mod n size
  have hlt : size * (n / size) < size * q := by omega
  have hlt' : size * q < size * (n / size + 2) := by
    rw [Nat.mul_add]
    omega
  have hone : q = n / size + 1 := by
    have := Nat.lt_of_mul_lt_mul_left hlt
    have := Nat.lt_of_mul_lt_mul_left hlt'
    omega
  rw [hone, Nat.mul_add, Nat.mul_one] at hq
  rw [padLength]
  split <;> omega

theorem length_pad_mod (hsize : 0 < size) (data : List UInt8) :
    (pad size data).length % size = 0 := by
  rw [pad, List.length_append, List.length_replicate]
  exact Nat.mod_eq_zero_of_dvd (dvd_add_padLength hsize)

/-- What has to be found at the end of padded data. -/
theorem exists_last_of_unpad (h : unpad size data = some text) :
    ∃ last, data.getLast? = some last ∧ data.length % size = 0 ∧
      0 < last.toNat ∧ last.toNat ≤ size ∧
      data.drop (data.length - last.toNat) = List.replicate last.toNat last ∧
      text = data.take (data.length - last.toNat) := by
  rw [unpad] at h
  split at h
  · cases h
  · next hblocks =>
      split at h
      · cases h
      · next last hlast =>
          split at h
          · cases h
          · next hrange =>
              split at h
              · next hfill =>
                  exact ⟨last, hlast, by omega, by omega, by omega, hfill,
                    (Option.some.inj h).symm⟩
              · cases h

/-- **Padding can be undone**, and nothing else counts as padded. -/
theorem unpad_eq_some_iff (hsize : 0 < size) (hbyte : size < 256) :
    unpad size data = some text ↔ data = pad size text := by
  constructor
  · intro h
    obtain ⟨last, hlast, hblocks, hpos, hle, hfill, rfl⟩ :=
      exists_last_of_unpad h
    have hne : data ≠ [] := by
      rintro rfl
      cases hlast
    have hlong : size ≤ data.length := Nat.le_of_dvd
      (List.length_pos_iff.mpr hne) (Nat.dvd_of_mod_eq_zero hblocks)
    have hlength : (data.take (data.length - last.toNat)).length +
        last.toNat = data.length := by
      rw [List.length_take]
      omega
    have hpad := eq_padLength hpos hle
      (hlength ▸ Nat.dvd_of_mod_eq_zero hblocks)
    rw [pad, ← hpad, UInt8.ofNat_toNat, ← hfill, List.take_append_drop]
  · rintro rfl
    have hpos := padLength_pos (n := text.length) hsize
    have hle : padLength size text.length ≤ size := padLength_le
    have hlast : (pad size text).getLast? =
        some (UInt8.ofNat (padLength size text.length)) := by
      rw [pad, List.getLast?_append, List.getLast?_replicate,
        if_neg (by omega), Option.some_or]
    have hbyte : (UInt8.ofNat (padLength size text.length)).toNat =
        padLength size text.length := by
      rw [UInt8.toNat_ofNat']
      exact Nat.mod_eq_of_lt (by omega)
    have hlength : (pad size text).length - padLength size text.length =
        text.length := by
      rw [pad, List.length_append, List.length_replicate, Nat.add_sub_cancel]
    rw [unpad, if_neg (by rw [length_pad_mod hsize]; exact fun h => h rfl), hlast]
    dsimp only
    rw [hbyte, hlength, if_neg (by omega), pad, List.drop_left, if_pos rfl,
      List.take_left]

end Support.Pkcs7
