import PyAuth.Support.Python

/-!
# White space in the three languages

`str.strip`, `strings.TrimSpace` and `trim` do not remove the same characters:
Python counts the separators U+001C to U+001F, Python and Go the control
character U+0085, and JavaScript the byte order mark U+FEFF.  `core` removes
what any of them removes.
-/

namespace PyAuth

open Support

/-- `unicode.IsSpace`. -/
def Go.isSpace (c : Char) : Bool :=
  let n := c.toNat
  (9 ≤ n && n ≤ 13) || n == 32 || n == 0x85 || n == 0xA0 || n == 0x1680 ||
    (0x2000 ≤ n && n ≤ 0x200A) || n == 0x2028 || n == 0x2029 || n == 0x202F ||
    n == 0x205F || n == 0x3000

/-- Go has no white space of its own. -/
theorem Go.isSpace_of_python {c : Char} (h : Python.isSpace c = false) :
    Go.isSpace c = false := by
  simp only [Python.isSpace, Go.isSpace, Bool.or_eq_false_iff,
    Bool.and_eq_false_iff, decide_eq_false_iff_not, beq_eq_false_iff_ne] at h ⊢
  omega

/-- `strings.TrimSpace`. -/
def Go.trimSpace (s : String) : String := strip Go.isSpace s

/-- The white space of `String.prototype.trim`. -/
def TypeScript.isSpace (c : Char) : Bool :=
  let n := c.toNat
  (9 ≤ n && n ≤ 13) || n == 32 || n == 0xA0 || n == 0x1680 ||
    (0x2000 ≤ n && n ≤ 0x200A) || n == 0x2028 || n == 0x2029 || n == 0x202F ||
    n == 0x205F || n == 0x3000 || n == 0xFEFF

/-- `s.trim()`. -/
def TypeScript.trim (s : String) : String := strip TypeScript.isSpace s

namespace Sdk

/-! ## Texts that are trimmed alike -/

/-- All three languages trim the text alike. -/
def TrimsAlike (s : String) : Prop :=
  Go.trimSpace s = Python.strip s ∧ TypeScript.trim s = Python.strip s

instance : DecidablePred TrimsAlike := fun _ =>
  inferInstanceAs (Decidable (_ ∧ _))

theorem trimsAlike_strip {s : String} (h : TrimsAlike s) :
    TrimsAlike (Python.strip s) := by
  have hstrip {isSpace : Char → Bool} (h : strip isSpace s = Python.strip s) :
      strip isSpace (Python.strip s) = Python.strip (Python.strip s) :=
    calc strip isSpace (Python.strip s)
        = strip isSpace (strip isSpace s) := by rw [h]
      _ = strip isSpace s := strip_strip s
      _ = Python.strip s := h
      _ = Python.strip (Python.strip s) := (Python.strip_strip s).symm
  exact ⟨hstrip h.1, hstrip h.2⟩

/-! ## What all languages leave -/

/-- White space in one of the languages. -/
def coreSpace (c : Char) : Bool :=
  Python.isSpace c || Go.isSpace c || TypeScript.isSpace c

/-- The text without what any of the languages trims. -/
def core (s : String) : String := strip coreSpace s

/-- The white space of one of the languages. -/
class WhiteSpace (isSpace : Char → Bool) : Prop where
  coreSpace : ∀ c, isSpace c = true → coreSpace c = true

instance : WhiteSpace Python.isSpace := ⟨fun c hc => by simp [coreSpace, hc]⟩

instance : WhiteSpace Go.isSpace := ⟨fun c hc => by simp [coreSpace, hc]⟩

instance : WhiteSpace TypeScript.isSpace :=
  ⟨fun c hc => by simp [coreSpace, hc]⟩

/-- Trimming in one language leaves what is left in all of them. -/
theorem core_strip (isSpace : Char → Bool) [WhiteSpace isSpace] (s : String) :
    core (strip isSpace s) = core s :=
  strip_strip_of_imp WhiteSpace.coreSpace s

end Sdk

end PyAuth
