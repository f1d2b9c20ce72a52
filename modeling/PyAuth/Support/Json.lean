import Mathlib.Algebra.Order.Field.Rat
import PyAuth.Support.Dict

/-!
# JSON values

The value of a JSON text after it has been read: integers are exact,
numbers with a fraction or an exponent are IEEE doubles, and the members of an
object keep the order of the text.  `Json.dict?` reads an object as a
dictionary, where a repeated key takes its last value.
-/

namespace Support

/-! ## Doubles -/

/-- The value of an IEEE double. -/
inductive Double
  | fin (q : ℚ)
  | inf
  | negInf
  | nan
deriving DecidableEq, Inhabited

namespace Double

/-- Round a natural number to 53 significant bits, ties to even. -/
def roundNat (n : ℕ) : ℕ :=
  let unit := 2 ^ (n.log2 + 1 - 53)
  let q := n / unit
  let r := n % unit
  if 2 * r > unit ∨ (2 * r = unit ∧ q % 2 = 1) then (q + 1) * unit
  else q * unit

/-- The first magnitude which rounds to infinity. -/
def overflowBound : ℕ := 2 ^ 1024 - 2 ^ 970

/-- The double nearest to an integer. -/
def ofInt (n : ℤ) : Double :=
  if overflowBound ≤ n.natAbs then (if 0 < n then .inf else .negInf)
  else .fin (n.sign * roundNat n.natAbs : ℤ)

/-- `0 < x`; a NaN is not positive. -/
def isPos : Double → Bool
  | .fin q => decide (0 < q)
  | .inf => true
  | .negInf => false
  | .nan => false

theorem roundNat_of_lt {n : ℕ} (h : n < 2 ^ 53) : roundNat n = n := by
  have hlog : n.log2 + 1 - 53 = 0 := by
    rcases Nat.eq_zero_or_pos n with rfl | hpos
    · simp
    · have := (Nat.log2_lt hpos.ne').mpr h
      omega
  rw [roundNat, hlog]
  simp [Nat.mod_one]

theorem ofInt_of_natAbs_lt {n : ℤ} (h : n.natAbs < 2 ^ 53) :
    ofInt n = .fin n := by
  have hbound : ¬overflowBound ≤ n.natAbs := by
    have : (2 : ℕ) ^ 53 ≤ overflowBound := by decide +kernel
    omega
  rw [ofInt, if_neg hbound, roundNat_of_lt h, Int.sign_mul_natAbs]

end Double

/-! ## Values -/

inductive Json
  | null
  | bool (b : Bool)
  | int (n : ℤ)
  | float (x : Double)
  | str (s : String)
  | arr (items : List Json)
  | obj (members : List (String × Json))
deriving Inhabited

namespace Json

mutual

def decEq : (a b : Json) → Decidable (a = b)
  | .null, .null => isTrue rfl
  | .bool a, .bool b => decidable_of_iff (a = b) (by simp)
  | .int a, .int b => decidable_of_iff (a = b) (by simp)
  | .float a, .float b => decidable_of_iff (a = b) (by simp)
  | .str a, .str b => decidable_of_iff (a = b) (by simp)
  | .arr a, .arr b =>
      have := decEqItems a b
      decidable_of_iff (a = b) (by simp)
  | .obj a, .obj b =>
      have := decEqMembers a b
      decidable_of_iff (a = b) (by simp)
  | .null, .bool _ | .null, .int _ | .null, .float _ | .null, .str _
  | .null, .arr _ | .null, .obj _ | .bool _, .null | .bool _, .int _
  | .bool _, .float _ | .bool _, .str _ | .bool _, .arr _ | .bool _, .obj _
  | .int _, .null | .int _, .bool _ | .int _, .float _ | .int _, .str _
  | .int _, .arr _ | .int _, .obj _ | .float _, .null | .float _, .bool _
  | .float _, .int _ | .float _, .str _ | .float _, .arr _ | .float _, .obj _
  | .str _, .null | .str _, .bool _ | .str _, .int _ | .str _, .float _
  | .str _, .arr _ | .str _, .obj _ | .arr _, .null | .arr _, .bool _
  | .arr _, .int _ | .arr _, .float _ | .arr _, .str _ | .arr _, .obj _
  | .obj _, .null | .obj _, .bool _ | .obj _, .int _ | .obj _, .float _
  | .obj _, .str _ | .obj _, .arr _ => isFalse (by simp)

def decEqItems : (a b : List Json) → Decidable (a = b)
  | [], [] => isTrue rfl
  | [], _ :: _ | _ :: _, [] => isFalse (by simp)
  | a :: as, b :: bs =>
      have := decEq a b
      have := decEqItems as bs
      decidable_of_iff (a = b ∧ as = bs) (by simp)

def decEqMembers : (a b : List (String × Json)) → Decidable (a = b)
  | [], [] => isTrue rfl
  | [], _ :: _ | _ :: _, [] => isFalse (by simp)
  | (k, a) :: as, (l, b) :: bs =>
      have := decEq a b
      have := decEqMembers as bs
      decidable_of_iff (k = l ∧ a = b ∧ as = bs) (by simp [and_assoc])

end

instance : DecidableEq Json := decEq

/-- The object with the given members. -/
def ofDict (d : Dict String Json) : Json := .obj d.entries

/-- The dictionary an object denotes. -/
def dict? : Json → Option (Dict String Json)
  | .obj members => some (Dict.ofList members)
  | _ => none

@[simp] theorem dict?_ofDict (d : Dict String Json) :
    (ofDict d).dict? = some d := by
  simp [ofDict, dict?]

/-- `isinstance(v, dict)`. -/
def isDict (v : Json) : Bool := v.dict?.isSome

@[simp] theorem isDict_ofDict (d : Dict String Json) :
    (ofDict d).isDict = true := by
  simp [isDict]

end Json

end Support
