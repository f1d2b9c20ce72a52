import Mathlib.Algebra.Order.Ring.Nat
import Mathlib.Data.Finset.Card
import Mathlib.Logic.Function.Iterate
import Mathlib.Data.Nat.Find

/-!
# Loops without a bound

`loop test step turns s` runs `while test s: s = step s` and gives up after
`turns` tests.  The loop ends as soon as one of the states `step^[n] s` fails
the test, and then more turns change nothing.  A search through different
candidates ends for every finite set of candidates to avoid.
-/

namespace Support

universe u

section Loop

variable {σ : Type u} {test : σ → Bool} {step : σ → σ} {s : σ} {n : ℕ}

def loop (test : σ → Bool) (step : σ → σ) : ℕ → σ → Option σ
  | 0, _ => none
  | turns + 1, s => if test s then loop test step turns (step s) else some s

/-- A loop which passes `n` tests and fails the next one. -/
theorem loop_eq_some (hbefore : ∀ m < n, test (step^[m] s) = true)
    (hend : test (step^[n] s) = false) {turns : ℕ} (hturns : n < turns) :
    loop test step turns s = some (step^[n] s) := by
  induction n generalizing s turns with
  | zero =>
      obtain ⟨turns, rfl⟩ := Nat.exists_eq_succ_of_ne_zero hturns.ne'
      have hs : test s = false := hend
      simp [loop, hs]
  | succ n ih =>
      obtain ⟨turns, rfl⟩ := Nat.exists_eq_succ_of_ne_zero
        (Nat.ne_zero_of_lt hturns)
      have hs : test s = true := hbefore 0 n.succ_pos
      rw [loop, if_pos hs, Function.iterate_succ_apply]
      apply ih
      · intro m hm
        rw [← Function.iterate_succ_apply]
        exact hbefore (m + 1) (by omega)
      · rw [← Function.iterate_succ_apply]
        exact hend
      · omega

/-- A loop ends at the first state that fails the test. -/
theorem exists_loop_eq_some (test : σ → Bool)
    (hend : test (step^[n] s) = false) :
    ∃ m ≤ n, test (step^[m] s) = false ∧
      ∀ turns, m < turns → loop test step turns s = some (step^[m] s) := by
  classical
  have hex : ∃ m, test (step^[m] s) = false := ⟨n, hend⟩
  refine ⟨Nat.find hex, Nat.find_min' hex hend, Nat.find_spec hex, ?_⟩
  intro turns hturns
  refine loop_eq_some (fun m hm => ?_) (Nat.find_spec hex) hturns
  simpa using Nat.find_min hex hm

end Loop

/-- Among more different candidates than there are elements of a set, one is
not in the set. -/
theorem exists_notMem_of_injective {κ : Type u} [DecidableEq κ]
    {candidate : ℕ → κ} (hinj : Function.Injective candidate)
    (used : Finset κ) : ∃ n ≤ used.card, candidate n ∉ used := by
  have hcard : used.card <
      ((Finset.range (used.card + 1)).image candidate).card := by
    rw [Finset.card_image_of_injective _ hinj, Finset.card_range]
    omega
  obtain ⟨k, hk, hnot⟩ := Finset.exists_mem_notMem_of_card_lt_card hcard
  obtain ⟨n, hn, rfl⟩ := Finset.mem_image.mp hk
  exact ⟨n, by simpa [Nat.lt_succ_iff] using hn, hnot⟩

end Support
