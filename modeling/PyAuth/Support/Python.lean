import Mathlib.Data.Rat.Floor
import PyAuth.Support.Binary64
import PyAuth.Support.Json
import PyAuth.Support.Strip

/-!
# Python built-ins

The conversions and comparisons of Python which the modelled code applies to
values read from JSON: truth testing, `float()`, `int()`, `str.strip()` and
`==`.  A numeral may be written in the decimal digits of any script, with single
underscores between them; a fraction is rounded to a double.
-/

namespace Support.Python

open Support

/-- The exceptions raised by numeric conversions. -/
inductive Error
  | typeError
  | valueError
  | overflowError
deriving DecidableEq

/-! ## Strings -/

/-- `str.isspace` on one character. -/
def isSpace (c : Char) : Bool :=
  let n := c.toNat
  (9 ≤ n && n ≤ 13) || (28 ≤ n && n ≤ 32) || n == 0x85 || n == 0xA0 ||
    n == 0x1680 || (0x2000 ≤ n && n ≤ 0x200A) || n == 0x2028 ||
    n == 0x2029 || n == 0x202F || n == 0x205F || n == 0x3000

/-- `s.strip()`. -/
def strip (s : String) : String := Support.strip isSpace s

@[simp] theorem strip_strip (s : String) : strip (strip s) = strip s :=
  Support.strip_strip s

/-! ## Numerals -/

/-- The double nearest to a rational number. -/
def nearestDouble (q : ℚ) : Double :=
  let r := Binary64.nearest q
  if 2 ^ 1024 ≤ r then .inf else if r ≤ -2 ^ 1024 then .negInf else .fin r

/-- The value of a digit among `0` to `9`. -/
def asciiDigit? (c : Char) : Option ℕ :=
  if c.isDigit then some (c.toNat - 48) else none

/-- The zeros of the decimal digits of Unicode 14; each is followed by the other
nine. -/
def decimalZeros : List ℕ :=
  [0x0030, 0x0660, 0x06F0, 0x07C0, 0x0966, 0x09E6, 0x0A66, 0x0AE6, 0x0B66,
    0x0BE6, 0x0C66, 0x0CE6, 0x0D66, 0x0DE6, 0x0E50, 0x0ED0, 0x0F20, 0x1040,
    0x1090, 0x17E0, 0x1810, 0x1946, 0x19D0, 0x1A80, 0x1A90, 0x1B50, 0x1BB0,
    0x1C40, 0x1C50, 0xA620, 0xA8D0, 0xA900, 0xA9D0, 0xA9F0, 0xAA50, 0xABF0,
    0xFF10, 0x104A0, 0x10D30, 0x11066, 0x110F0, 0x11136, 0x111D0, 0x112F0,
    0x11450, 0x114D0, 0x11650, 0x116C0, 0x11730, 0x118E0, 0x11950, 0x11C50,
    0x11D50, 0x11DA0, 0x16A60, 0x16AC0, 0x16B50, 0x1D7CE, 0x1D7D8, 0x1D7E2,
    0x1D7EC, 0x1D7F6, 0x1E140, 0x1E2F0, 0x1E950, 0x1FBF0]

/-- `Py_UNICODE_TODECIMAL`. -/
def decimal? (c : Char) : Option ℕ :=
  (decimalZeros.find? fun first => first ≤ c.toNat && c.toNat < first + 10).map
    (c.toNat - ·)

/-- What `float` and `int` skip around a numeral: `str.isspace` but for the four
separators of ASCII. -/
def isNumeralSpace (c : Char) : Bool :=
  isSpace c && !(28 ≤ c.toNat && c.toNat ≤ 31)

/-- Read a run of digits; with `sep`, single underscores may separate them.
Returns the value, the number of digits and the rest. -/
def scanDigits (digit? : Char → Option ℕ) (sep : Bool) :
    ℕ → ℕ → List Char → ℕ × ℕ × List Char
  | acc, n, [] => (acc, n, [])
  | acc, n, '_' :: c :: cs =>
      match (if sep && decide (0 < n) then digit? c else none) with
      | some d => scanDigits digit? sep (10 * acc + d) (n + 1) cs
      | none => (acc, n, '_' :: c :: cs)
  | acc, n, c :: cs =>
      match digit? c with
      | some d => scanDigits digit? sep (10 * acc + d) (n + 1) cs
      | none => (acc, n, c :: cs)

def scanSign : List Char → ℤ × List Char
  | '-' :: cs => (-1, cs)
  | '+' :: cs => (1, cs)
  | cs => (1, cs)

/-- A decimal numeral with optional sign, fraction and exponent. -/
def scanDecimal (digit? : Char → Option ℕ) (sep : Bool) (cs : List Char) :
    Option ℚ :=
  let (sign, cs) := scanSign cs
  let (whole, n, cs) := scanDigits digit? sep 0 0 cs
  let (frac, m, cs) :=
    match cs with
    | '.' :: cs => scanDigits digit? sep 0 0 cs
    | cs => (0, 0, cs)
  if n + m = 0 then none
  else
    let mantissa : ℚ := sign * (whole * 10 ^ m + frac : ℕ)
    match cs with
    | [] => some (mantissa / 10 ^ m)
    | c :: cs =>
        if c = 'e' ∨ c = 'E' then
          let (esign, cs) := scanSign cs
          let (exponent, k, cs) := scanDigits digit? sep 0 0 cs
          if k = 0 ∨ cs ≠ [] then none
          else some (mantissa * (10 : ℚ) ^ (esign * exponent - m : ℤ))
        else none

/-- `float(s)` on a string. -/
def floatOfStr (s : String) : Except Error Double :=
  let cs := (Support.strip isNumeralSpace s).toList
  let (sign, word) := scanSign cs
  let word := word.map Char.toLower
  if word = "inf".toList ∨ word = "infinity".toList then
    .ok (if sign = 1 then .inf else .negInf)
  else if word = "nan".toList then .ok .nan
  else
    match scanDecimal decimal? true cs with
    | some q => .ok (nearestDouble q)
    | none => .error .valueError

/-- The most digits of an integer that is read from a string. -/
def maxStrDigits : ℕ := 4300

/-- `int(s)` on a string. -/
def intOfStr (s : String) : Except Error ℤ :=
  let (sign, cs) := scanSign (Support.strip isNumeralSpace s).toList
  let (value, n, cs) := scanDigits decimal? true 0 0 cs
  if n = 0 ∨ cs ≠ [] ∨ maxStrDigits < n then .error .valueError
  else .ok (sign * value)

example : floatOfStr " 1_0.5e-1" = .ok (.fin (4728779608739021 / 2 ^ 52)) ∧
    floatOfStr "-1e400" = .ok .negInf ∧ intOfStr "４2" = .ok 42 := by
  decide +kernel

/-! ## Conversions -/

/-- `bool(v)`. -/
def truthy : Json → Bool
  | .null => false
  | .bool b => b
  | .int n => decide (n ≠ 0)
  | .float x => decide (x ≠ .fin 0)
  | .str s => decide (s ≠ "")
  | .arr items => !items.isEmpty
  | .obj members => !members.isEmpty

/-- `float(v)`. -/
def float : Json → Except Error Double
  | .bool b => .ok (.fin (if b then 1 else 0))
  | .int n =>
      match Double.ofInt n with
      | .fin q => .ok (.fin q)
      | _ => .error .overflowError
  | .float x => .ok x
  | .str s => floatOfStr s
  | .null | .arr _ | .obj _ => .error .typeError

/-- `int(v)`. -/
def int : Json → Except Error ℤ
  | .bool b => .ok (if b then 1 else 0)
  | .int n => .ok n
  | .float (.fin q) => .ok (q.num.tdiv q.den)
  | .float .inf | .float .negInf => .error .overflowError
  | .float .nan => .error .valueError
  | .str s => intOfStr s
  | .null | .arr _ | .obj _ => .error .typeError

@[simp] theorem float_float (x : Double) : float (.float x) = .ok x := rfl

/-- An integer which a double represents. -/
theorem float_int {n : ℤ} {q : ℚ} (h : Double.ofInt n = .fin q) :
    float (.int n) = .ok (.fin q) := by
  unfold float
  split
  next heq => cases heq
  next m heq =>
    obtain rfl := Json.int.inj heq
    generalize Double.ofInt n = x at h
    subst h
    rfl
  all_goals next heq => cases heq

@[simp] theorem int_int (n : ℤ) : int (.int n) = .ok n := rfl

/-! ## Equality -/

/-- The number a value compares as. -/
def number? : Json → Option Double
  | .bool b => some (.fin (if b then 1 else 0))
  | .int n => some (.fin n)
  | .float x => some x
  | _ => none

def numberEq : Double → Double → Bool
  | .nan, _ | _, .nan => false
  | a, b => decide (a = b)

/-- `a is b` for two values which are not equal: there is one NaN. -/
def sameNan (a b : Json) : Bool := decide (a = .float .nan ∧ b = .float .nan)

mutual

/-- `a == b`: numbers by value, objects regardless of order, and inside a list
or a dictionary a value is also equal to itself. -/
def eq : Json → Json → Bool
  | .null, .null => true
  | .str a, .str b => decide (a = b)
  | .arr a, .arr b => eqItems a b
  | .obj a, .obj b => decide (a.length = b.length) && eqMembers a b
  | a, b =>
      match number? a, number? b with
      | some x, some y => numberEq x y
      | _, _ => false

def eqItems : List Json → List Json → Bool
  | [], [] => true
  | a :: as, b :: bs => (sameNan a b || eq a b) && eqItems as bs
  | _, _ => false

def eqMembers : List (String × Json) → List (String × Json) → Bool
  | [], _ => true
  | (k, a) :: as, bs =>
      (match bs.lookup k with
        | some b => sameNan a b || eq a b
        | none => false) && eqMembers as bs

end

/-- How values inside a list or a dictionary compare: `a is b or a == b`. -/
def itemEq (a b : Json) : Bool := sameNan a b || eq a b

end Support.Python
