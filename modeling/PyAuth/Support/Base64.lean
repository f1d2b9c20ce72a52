import PyAuth.Support.Utf8

/-!
# Base64

The encoding of bytes in the standard alphabet, with padding.  The decoder skips
what is not in the alphabet and stops at the padding.
-/

namespace Support.Base64

/-- The standard alphabet. -/
def alphabet : List Char :=
  "ABCDEFGHIJKLMNOPQRSTUVWXYZabcdefghijklmnopqrstuvwxyz0123456789+/".toList

def digit (n : ℕ) : Char := alphabet.getD n '='

/-- The value of a digit, also in the alphabet for URLs. -/
def sextet? (c : Char) : Option ℕ :=
  let c := if c = '-' then '+' else if c = '_' then '/' else c
  if c ∈ alphabet then some (alphabet.idxOf c) else none

def encodeBytes : List UInt8 → List Char
  | a :: b :: c :: bytes =>
      digit (a.toNat / 4) :: digit (a.toNat % 4 * 16 + b.toNat / 16) ::
        digit (b.toNat % 16 * 4 + c.toNat / 64) :: digit (c.toNat % 64) ::
          encodeBytes bytes
  | [a, b] =>
      [digit (a.toNat / 4), digit (a.toNat % 4 * 16 + b.toNat / 16),
        digit (b.toNat % 16 * 4), '=']
  | [a] => [digit (a.toNat / 4), digit (a.toNat % 4 * 16), '=', '=']
  | [] => []

def encode (bytes : List UInt8) : String := .ofList (encodeBytes bytes)

def decodeSextets : List ℕ → List UInt8
  | a :: b :: c :: d :: sextets =>
      UInt8.ofNat (a * 4 + b / 16) :: UInt8.ofNat (b % 16 * 16 + c / 4) ::
        UInt8.ofNat (c % 4 * 64 + d) :: decodeSextets sextets
  | [a, b, c] => [UInt8.ofNat (a * 4 + b / 16), UInt8.ofNat (b % 16 * 16 + c / 4)]
  | [a, b] => [UInt8.ofNat (a * 4 + b / 16)]
  | _ => []

/-- The digits before the padding. -/
def sextets (cs : List Char) : List ℕ :=
  (cs.takeWhile (· ≠ '=')).filterMap sextet?

def decode (s : String) : List UInt8 := decodeSextets (sextets s.toList)

/-! ## Digits -/

theorem digit_spec {n : ℕ} (h : n < 64) :
    sextet? (digit n) = some n ∧ digit n ≠ '=' ∧ digit n ≠ '-' ∧
      digit n ≠ '_' ∧ (digit n).toNat < 0x10000 := by
  have hall : ∀ n : Fin 64, sextet? (digit n) = some n.val ∧ digit n ≠ '=' ∧
      digit n ≠ '-' ∧ digit n ≠ '_' ∧ (digit n).toNat < 0x10000 := by
    decide +kernel
  exact hall ⟨n, h⟩

theorem sextets_digit {n : ℕ} (h : n < 64) (cs : List Char) :
    sextets (digit n :: cs) = n :: sextets cs := by
  obtain ⟨hsextet, hne, -⟩ := digit_spec h
  rw [sextets, List.takeWhile_cons_of_pos (by simpa using hne),
    List.filterMap_cons_some hsextet]
  rfl

theorem sextets_padding (cs : List Char) : sextets ('=' :: cs) = [] := rfl

/-! ## Round trip -/

theorem byte_eq {n : ℕ} {b : UInt8} (h : n = b.toNat) : UInt8.ofNat n = b := by
  rw [h, UInt8.ofNat_toNat]

theorem decodeSextets_encodeBytes (bytes : List UInt8) :
    decodeSextets (sextets (encodeBytes bytes)) = bytes := by
  induction bytes using encodeBytes.induct with
  | case1 a b c bytes ih =>
      have ha := a.toNat_lt
      have hb := b.toNat_lt
      have hc := c.toNat_lt
      rw [encodeBytes, sextets_digit (by omega), sextets_digit (by omega),
        sextets_digit (by omega), sextets_digit (by omega), decodeSextets, ih,
        byte_eq (b := a) (by omega), byte_eq (b := b) (by omega),
        byte_eq (b := c) (by omega)]
  | case2 a b =>
      have ha := a.toNat_lt
      have hb := b.toNat_lt
      rw [encodeBytes, sextets_digit (by omega), sextets_digit (by omega),
        sextets_digit (by omega), sextets_padding, decodeSextets,
        byte_eq (b := a) (by omega), byte_eq (b := b) (by omega)]
  | case3 a =>
      have ha := a.toNat_lt
      rw [encodeBytes, sextets_digit (by omega), sextets_digit (by omega),
        sextets_padding, decodeSextets, byte_eq (b := a) (by omega)]
  | case4 => rfl

/-- Bytes survive their encoding. -/
theorem decode_encode (bytes : List UInt8) : decode (encode bytes) = bytes := by
  rw [decode, encode, String.toList_ofList, decodeSextets_encodeBytes]

/-- The characters of an encoding. -/
theorem forall_mem_encodeBytes (bytes : List UInt8) :
    ∀ c ∈ encodeBytes bytes, c ≠ '-' ∧ c ≠ '_' ∧ c.toNat < 0x10000 := by
  have hdigit {n : ℕ} (hn : n < 64) :
      digit n ≠ '-' ∧ digit n ≠ '_' ∧ (digit n).toNat < 0x10000 :=
    (digit_spec hn).2.2
  have hpadding : '=' ≠ '-' ∧ '=' ≠ '_' ∧ '='.toNat < 0x10000 := by decide
  have hnil : ∀ c ∈ ([] : List Char), c ≠ '-' ∧ c ≠ '_' ∧ c.toNat < 0x10000 :=
    fun c hc => absurd hc List.not_mem_nil
  induction bytes using encodeBytes.induct with
  | case1 a b c bytes ih =>
      have ha := a.toNat_lt
      have hb := b.toNat_lt
      have hc := c.toNat_lt
      rw [encodeBytes]
      simp only [List.forall_mem_cons]
      exact ⟨hdigit (by omega), hdigit (by omega), hdigit (by omega),
        hdigit (by omega), ih⟩
  | case2 a b =>
      have ha := a.toNat_lt
      have hb := b.toNat_lt
      rw [encodeBytes]
      simp only [List.forall_mem_cons]
      exact ⟨hdigit (by omega), hdigit (by omega), hdigit (by omega), hpadding,
        hnil⟩
  | case3 a =>
      have ha := a.toNat_lt
      rw [encodeBytes]
      simp only [List.forall_mem_cons]
      exact ⟨hdigit (by omega), hdigit (by omega), hpadding, hpadding, hnil⟩
  | case4 => exact hnil

theorem length_encodeBytes_mod (bytes : List UInt8) :
    (encodeBytes bytes).length % 4 = 0 := by
  induction bytes using encodeBytes.induct with
  | case1 a b c bytes ih =>
      rw [encodeBytes]
      simp only [List.length_cons]
      omega
  | case2 a b => simp [encodeBytes]
  | case3 a => simp [encodeBytes]
  | case4 => rfl

end Support.Base64
