import Mathlib.Algebra.GroupWithZero.Nat
import Mathlib.Data.String.Basic

/-!
# Lengths and encodings of texts

The bytes and UTF-16 units of a text, and the decoder which replaces everything
that is not UTF-8 by U+FFFD.  A text survives its encoding.
-/

namespace Support

/-! ## Lengths -/

/-- The number of bytes in UTF-8. -/
def utf8Length (s : String) : ℕ := (s.toList.map Char.utf8Size).sum

/-- The number of UTF-16 units. -/
def utf16Length (s : String) : ℕ :=
  (s.toList.map fun c => if c.toNat < 0x10000 then 1 else 2).sum

theorem length_le_sum_map {size : Char → ℕ} (hsize : ∀ c, 1 ≤ size c)
    (s : String) : s.length ≤ (s.toList.map size).sum := by
  rw [← String.length_toList]
  induction s.toList with
  | nil => exact Nat.zero_le _
  | cons c cs ih =>
      rw [List.map_cons, List.sum_cons, List.length_cons]
      have := hsize c
      omega

theorem length_le_utf8Length (s : String) : s.length ≤ utf8Length s :=
  length_le_sum_map Char.utf8Size_pos s

theorem length_le_utf16Length (s : String) : s.length ≤ utf16Length s :=
  length_le_sum_map (fun c => by split <;> decide) s

/-! ## The decoder -/

namespace Utf8

def encode (s : String) : List UInt8 := s.toList.flatMap String.utf8EncodeChar

/-- Between two characters, or inside one: the number of bytes owed, the value
read so far, and the least and the greatest byte that may come next. -/
inductive State
  | start
  | tail (owed acc low high : ℕ)

/-- U+FFFD. -/
def replacement : Char := Char.ofNat 0xFFFD

/-- The first byte of a character: what it completes, and what follows. -/
def first (b : ℕ) : List Char × State :=
  if b < 0x80 then ([Char.ofNat b], .start)
  else if 0xC2 ≤ b ∧ b ≤ 0xDF then ([], .tail 1 (b - 0xC0) 0x80 0xBF)
  else if 0xE0 ≤ b ∧ b ≤ 0xEF then
    ([], .tail 2 (b - 0xE0) (if b = 0xE0 then 0xA0 else 0x80)
      (if b = 0xED then 0x9F else 0xBF))
  else if 0xF0 ≤ b ∧ b ≤ 0xF4 then
    ([], .tail 3 (b - 0xF0) (if b = 0xF0 then 0x90 else 0x80)
      (if b = 0xF4 then 0x8F else 0xBF))
  else ([replacement], .start)

/-- A byte that cannot continue a character is read as a first byte again. -/
def step : State → ℕ → List Char × State
  | .start, b => first b
  | .tail owed acc low high, b =>
      if low ≤ b ∧ b ≤ high then
        if owed = 1 then ([Char.ofNat (64 * acc + (b - 0x80))], .start)
        else ([], .tail (owed - 1) (64 * acc + (b - 0x80)) 0x80 0xBF)
      else (replacement :: (first b).1, (first b).2)

def decodeFrom : State → List UInt8 → List Char
  | .start, [] => []
  | .tail _ _ _ _, [] => [replacement]
  | s, b :: bs => (step s b.toNat).1 ++ decodeFrom (step s b.toNat).2 bs

/-- The text of some bytes. -/
def decode (bytes : List UInt8) : String := .ofList (decodeFrom .start bytes)

/-! ## Round trip -/

section

variable {bs : List UInt8} {n owed acc low high : ℕ}

theorem decodeFrom_cons (s : State) (hn : n < 256) (bs : List UInt8) :
    decodeFrom s (UInt8.ofNat n :: bs) =
      (step s n).1 ++ decodeFrom (step s n).2 bs := by
  have hbyte : (UInt8.ofNat n).toNat = n := by
    rw [UInt8.toNat_ofNat']
    exact Nat.mod_eq_of_lt hn
  cases s <;> rw [decodeFrom, hbyte]

/-- A byte in the middle of a character. -/
theorem decodeFrom_tail (howed : owed ≠ 0) (hlow : low ≤ n) (hhigh : n ≤ high)
    (hn : n < 256) :
    decodeFrom (.tail (owed + 1) acc low high) (UInt8.ofNat n :: bs) =
      decodeFrom (.tail owed (64 * acc + (n - 0x80)) 0x80 0xBF) bs := by
  rw [decodeFrom_cons _ hn, step, if_pos ⟨hlow, hhigh⟩, if_neg (by omega),
    Nat.add_sub_cancel]
  rfl

/-- The last byte of a character. -/
theorem decodeFrom_last (hlow : low ≤ n) (hhigh : n ≤ high) (hn : n < 256) :
    decodeFrom (.tail 1 acc low high) (UInt8.ofNat n :: bs) =
      Char.ofNat (64 * acc + (n - 0x80)) :: decodeFrom .start bs := by
  rw [decodeFrom_cons _ hn, step, if_pos ⟨hlow, hhigh⟩, if_pos rfl]
  rfl

theorem decodeFrom_two (hlow : 0xC2 ≤ n) (hhigh : n ≤ 0xDF) :
    decodeFrom .start (UInt8.ofNat n :: bs) =
      decodeFrom (.tail 1 (n - 0xC0) 0x80 0xBF) bs := by
  rw [decodeFrom_cons _ (by omega), step, first, if_neg (by omega),
    if_pos ⟨hlow, hhigh⟩]
  rfl

theorem decodeFrom_three (hlow : 0xE0 ≤ n) (hhigh : n ≤ 0xEF) :
    decodeFrom .start (UInt8.ofNat n :: bs) =
      decodeFrom (.tail 2 (n - 0xE0) (if n = 0xE0 then 0xA0 else 0x80)
        (if n = 0xED then 0x9F else 0xBF)) bs := by
  rw [decodeFrom_cons _ (by omega), step, first, if_neg (by omega),
    if_neg (by omega), if_pos ⟨hlow, hhigh⟩]
  rfl

theorem decodeFrom_four (hlow : 0xF0 ≤ n) (hhigh : n ≤ 0xF4) :
    decodeFrom .start (UInt8.ofNat n :: bs) =
      decodeFrom (.tail 3 (n - 0xF0) (if n = 0xF0 then 0x90 else 0x80)
        (if n = 0xF4 then 0x8F else 0xBF)) bs := by
  rw [decodeFrom_cons _ (by omega), step, first, if_neg (by omega),
    if_neg (by omega), if_neg (by omega), if_pos ⟨hlow, hhigh⟩]
  rfl

/-- A character is read back from its bytes. -/
theorem decodeFrom_encodeChar (c : Char) (bs : List UInt8) :
    decodeFrom .start (String.utf8EncodeChar c ++ bs) =
      c :: decodeFrom .start bs := by
  have hc : Char.ofNat c.val.toNat = c := Char.ofNat_toNat c
  have hvalid : c.val.toNat < 0xD800 ∨
      0xDFFF < c.val.toNat ∧ c.val.toNat < 0x110000 := c.valid
  rw [String.utf8EncodeChar]
  generalize c.val.toNat = v at hc hvalid
  split
  · rw [List.cons_append, List.nil_append, decodeFrom_cons _ (by omega), step,
      first, if_pos (by omega), hc]
    rfl
  · split
    · have hv : 64 * (v / 64 % 32 + 0xC0 - 0xC0) + (v % 64 + 0x80 - 0x80) = v := by
        omega
      rw [List.cons_append, List.cons_append, List.nil_append,
        decodeFrom_two (by omega) (by omega),
        decodeFrom_last (by omega) (by omega) (by omega), hv, hc]
    · split
      · have hv : 64 * (64 * (v / 4096 % 16 + 0xE0 - 0xE0) +
            (v / 64 % 64 + 0x80 - 0x80)) + (v % 64 + 0x80 - 0x80) = v := by
          omega
        rw [List.cons_append, List.cons_append, List.cons_append,
          List.nil_append, decodeFrom_three (by omega) (by omega),
          decodeFrom_tail (by decide) (by split <;> omega) (by split <;> omega)
            (by omega),
          decodeFrom_last (by omega) (by omega) (by omega), hv, hc]
      · have hv : 64 * (64 * (64 * (v / 262144 % 8 + 0xF0 - 0xF0) +
            (v / 4096 % 64 + 0x80 - 0x80)) + (v / 64 % 64 + 0x80 - 0x80)) +
              (v % 64 + 0x80 - 0x80) = v := by
          omega
        rw [List.cons_append, List.cons_append, List.cons_append,
          List.cons_append, List.nil_append,
          decodeFrom_four (by omega) (by omega),
          decodeFrom_tail (by decide) (by split <;> omega) (by split <;> omega)
            (by omega),
          decodeFrom_tail (by decide) (by omega) (by omega) (by omega),
          decodeFrom_last (by omega) (by omega) (by omega), hv, hc]

end

/-- A text survives its encoding. -/
theorem decode_encode (s : String) : decode (encode s) = s := by
  have hchars : ∀ cs : List Char,
      decodeFrom .start (cs.flatMap String.utf8EncodeChar) = cs := by
    intro cs
    induction cs with
    | nil => rfl
    | cons c cs ih => rw [List.flatMap_cons, decodeFrom_encodeChar, ih]
  rw [decode, encode, hchars, String.ofList_toList]

end Utf8

end Support
