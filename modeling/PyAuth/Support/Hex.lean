import PyAuth.Support.Python

/-!
# Hexadecimal numerals in Python

`int(s, 16)` and `format(n, "02x")`.  The digits of a numeral may be separated
by single underscores, and a prefix `0x` is allowed.
-/

namespace Support.Python

/-- The value of a hexadecimal digit. -/
def hexDigit? (c : Char) : Option ℕ :=
  if c.isDigit then some (c.toNat - 48)
  else if 'a' ≤ c ∧ c ≤ 'f' then some (c.toNat - 87)
  else if 'A' ≤ c ∧ c ≤ 'F' then some (c.toNat - 55)
  else none

/-- Read digits; `afterDigit` tells whether an underscore or the end may come
next. -/
def scanHex : Bool → ℕ → List Char → Option ℕ
  | afterDigit, acc, [] => if afterDigit then some acc else none
  | afterDigit, acc, c :: cs =>
      if c = '_' then if afterDigit then scanHex false acc cs else none
      else
        match hexDigit? c with
        | some d => scanHex true (16 * acc + d) cs
        | none => none

/-- The text after a prefix `0x`, and an underscore behind it. -/
def dropHexPrefix : List Char → List Char
  | '0' :: 'x' :: '_' :: cs | '0' :: 'X' :: '_' :: cs
  | '0' :: 'x' :: cs | '0' :: 'X' :: cs => cs
  | cs => cs

/-- `int(s, 16)`. -/
def intOfHex (s : String) : Except Error ℤ :=
  let (sign, cs) := scanSign (strip s).toList
  match scanHex false 0 (dropHexPrefix cs) with
  | some n => .ok (sign * n)
  | none => .error .valueError

/-- `format(n, "02x")`. -/
def format02x (n : ℤ) : String :=
  let digits := Nat.toDigits 16 n.natAbs
  if n < 0 then String.ofList ('-' :: digits)
  else if digits.length < 2 then String.ofList ('0' :: digits)
  else String.ofList digits

/-! ## The numerals of a byte -/

theorem intOfHex_format02x {n : ℕ} (h : n < 256) :
    intOfHex (format02x n) = .ok n := by
  have hall : ∀ n : Fin 256, intOfHex (format02x n.val) = .ok n.val := by
    decide +kernel
  exact hall ⟨n, h⟩

/-- The characters of the numeral of a byte. -/
theorem mem_format02x {n : ℕ} (h : n < 256) {c : Char}
    (hc : c ∈ (format02x n).toList) :
    isSpace c = false ∧ c.toLower = c ∧ c ≠ '-' ∧ c ≠ ':' := by
  have hall : ∀ n : Fin 256, (format02x n.val).toList.all fun c =>
      isSpace c = false ∧ c.toLower = c ∧ c ≠ '-' ∧ c ≠ ':' := by
    decide +kernel
  simpa using List.all_eq_true.mp (hall ⟨n, h⟩) c hc

theorem format02x_ne_nil {n : ℕ} (h : n < 256) :
    (format02x n).toList ≠ [] := by
  have hall : ∀ n : Fin 256, (format02x n.val).toList ≠ [] := by
    decide +kernel
  exact hall ⟨n, h⟩

end Support.Python
