import Mathlib.Order.MinMax
import PyAuth.Support.Run

/-!
# Leases and their renewals

Whoever holds a lease may use it for some time after its last renewal.  Which
events of a system renew which leases, and when, is `renewals`; what the
system stores about the leases is known through a bound on the times which can
be found there.  If every step keeps such a bound once it is raised to the
renewals of the step, then after a run nothing later than the last renewal can
be found.
-/

namespace Support

variable {σ ε κ T : Type*} [LinearOrder T] {renewals : ε → κ → List T}
  {τ τ' : κ → T} {e : ε} {es : List ε} {k : κ} {t : T}

theorem le_foldl_max (ts : List T) (t : T) : t ≤ ts.foldl max t := by
  induction ts generalizing t with
  | nil => exact le_rfl
  | cons u ts ih => exact (le_max_left t u).trans (ih (max t u))

theorem le_foldl_max_of_mem {ts : List T} {u : T} (hu : u ∈ ts) (t : T) :
    u ≤ ts.foldl max t := by
  induction ts generalizing t with
  | nil => contradiction
  | cons v ts ih =>
      rcases List.mem_cons.mp hu with rfl | hu
      · exact (le_max_right t u).trans (le_foldl_max ts _)
      · exact ih hu _

theorem foldl_max_eq (ts : List T) (t : T) :
    ts.foldl max t = t ∨ ts.foldl max t ∈ ts := by
  induction ts generalizing t with
  | nil => exact .inl rfl
  | cons u ts ih =>
      rw [List.foldl_cons]
      rcases ih (max t u) with h | h
      · rcases max_choice t u with hmax | hmax
        · exact .inl (h.trans hmax)
        · refine .inr (List.mem_cons.mpr (.inl (h.trans hmax)))
      · exact .inr (List.mem_cons_of_mem u h)

/-- Times, raised to those at which the event renews the leases. -/
def renewed (renewals : ε → κ → List T) (τ : κ → T) (e : ε) : κ → T :=
  fun k => (renewals e k).foldl max (τ k)

/-- The time of the last renewal of each lease, `τ` where there was none later. -/
def lastRenewal (renewals : ε → κ → List T) (τ : κ → T) (es : List ε) :
    κ → T :=
  es.foldl (renewed renewals) τ

theorem le_renewed : τ ≤ renewed renewals τ e :=
  fun k => le_foldl_max (renewals e k) (τ k)

theorem renewal_le_renewed (ht : t ∈ renewals e k) :
    t ≤ renewed renewals τ e k :=
  le_foldl_max_of_mem ht (τ k)

theorem lastRenewal_append (es es' : List ε) :
    lastRenewal renewals τ (es ++ es') =
      lastRenewal renewals (lastRenewal renewals τ es) es' :=
  List.foldl_append

theorem lastRenewal_concat (es : List ε) (e : ε) :
    lastRenewal renewals τ (es ++ [e]) =
      renewed renewals (lastRenewal renewals τ es) e :=
  lastRenewal_append es [e]

/-- The last renewal is one of the renewals. -/
theorem lastRenewal_eq (es : List ε) (k : κ) :
    lastRenewal renewals τ es k = τ k ∨
      ∃ e ∈ es, lastRenewal renewals τ es k ∈ renewals e k := by
  induction es using List.reverseRecOn with
  | nil => exact .inl rfl
  | append_singleton es e ih =>
      rw [lastRenewal_concat, renewed]
      rcases foldl_max_eq (renewals e k) (lastRenewal renewals τ es k) with
        h | h
      · rw [h]
        refine ih.imp_right ?_
        rintro ⟨e', he', hmem⟩
        exact ⟨e', List.mem_append_left _ he', hmem⟩
      · exact .inr ⟨e, List.mem_append_right _ (List.mem_singleton_self e), h⟩

/-- `B τ s` bounds the times which can be found in the state `s` by `τ`. -/
structure Bounds (step : σ → ε → σ → Prop) (renewals : ε → κ → List T)
    (B : (κ → T) → σ → Prop) : Prop where
  mono : ∀ {τ τ' : κ → T} {s : σ}, τ ≤ τ' → B τ s → B τ' s
  keep : ∀ {τ : κ → T} {s : σ} {e : ε} {s' : σ}, B τ s → step s e s' →
    (∀ k, ∀ t ∈ renewals e k, t ≤ τ k) → B τ s'

/-- **Nothing is later than the last renewal.** -/
theorem Bounds.run {step : σ → ε → σ → Prop} {B : (κ → T) → σ → Prop}
    {s s' : σ} (hB : Bounds step renewals B) (h : B τ s)
    (hrun : Run step s es s') : B (lastRenewal renewals τ es) s' := by
  induction hrun with
  | nil => exact h
  | snoc _ hlast ih =>
      rw [lastRenewal_concat]
      exact hB.keep (hB.mono le_renewed ih) hlast
        fun _ _ ht => renewal_le_renewed ht

end Support
