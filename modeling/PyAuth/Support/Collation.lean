import Mathlib.Data.String.Basic

/-!
# Collations

Databases and programming languages sort strings in orders of their own.  A
collation is a total order of strings in which different strings may count as
equal.
-/

namespace Support

structure Collation where
  le : String → String → Bool
  total : ∀ a b, le a b = true ∨ le b a = true
  trans : ∀ a b c, le a b = true → le b c = true → le a c = true

/-- The order of the code points, which is that of the bytes in UTF-8. -/
def Collation.codePoint : Collation where
  le a b := decide (a ≤ b)
  total a b := by simpa using le_total a b
  trans a b c hab hbc := by
    simp only [decide_eq_true_eq] at hab hbc ⊢
    exact hab.trans hbc

end Support
