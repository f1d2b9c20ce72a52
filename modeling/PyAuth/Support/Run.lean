import Mathlib.Data.List.Induction

/-!
# Runs of a labelled transition relation

`Run step s es s'` says that the events `es`, taken one after another, lead
from `s` to `s'`.  Safety properties of a system are proved through
`Run.invariant`.  Where a property speaks about the states at several times, a
run is given as a trace.
-/

namespace Support

variable {σ ε : Type*} {step step' : σ → ε → σ → Prop} {s s' s'' : σ}
  {es : List ε} {e : ε}

/-- The events `es` lead from `s` to `s'`. -/
inductive Run (step : σ → ε → σ → Prop) (s : σ) : List ε → σ → Prop
  | nil : Run step s [] s
  | snoc {es : List ε} {e : ε} {s' s'' : σ} :
      Run step s es s' → step s' e s'' → Run step s (es ++ [e]) s''

namespace Run

/-- What holds at first and is kept by every step holds after every run. -/
theorem invariant {I : σ → Prop} (h : Run step s es s') (hinit : I s)
    (hstep : ∀ s e s', I s → step s e s' → I s') : I s' := by
  induction h with
  | nil => exact hinit
  | snoc _ hlast ih => exact hstep _ _ _ ih hlast

theorem trans {es' : List ε} (h : Run step s es s')
    (h' : Run step s' es' s'') : Run step s (es ++ es') s'' := by
  induction h' with
  | nil => rwa [List.append_nil]
  | snoc _ hlast ih =>
      rw [← List.append_assoc]
      exact .snoc ih hlast

theorem mono (hsub : ∀ s e s', step s e s' → step' s e s')
    (h : Run step s es s') : Run step' s es s' := by
  induction h with
  | nil => exact .nil
  | snoc _ hlast ih => exact .snoc ih (hsub _ _ _ hlast)

/-- The steps of a run may be restricted by what its events are. -/
theorem of_mem (h : Run step s es s')
    (hsub : ∀ s e s', e ∈ es → step s e s' → step' s e s') :
    Run step' s es s' := by
  induction h with
  | nil => exact .nil
  | snoc _ hlast ih =>
      refine .snoc (ih fun s e s' he => hsub s e s' (List.mem_append_left _ he))
        (hsub _ _ _ ?_ hlast)
      exact List.mem_append_right _ (List.mem_singleton_self _)

/-- The steps of a run may be described by the runs before and after them. -/
theorem of_split (h : Run step s es s')
    (hsub : ∀ es₁ e es₂ s₁ s₂, es = es₁ ++ e :: es₂ → Run step s es₁ s₁ →
      step s₁ e s₂ → Run step s₂ es₂ s' → step' s₁ e s₂) :
    Run step' s es s' := by
  induction h with
  | nil => exact .nil
  | @snoc es e s' s'' hrun hlast ih =>
      refine .snoc (ih fun es₁ e' es₂ s₁ s₂ hsplit hbefore hstep hafter => ?_)
        (hsub es e [] s' s'' rfl hrun hlast .nil)
      exact hsub es₁ e' (es₂ ++ [e]) s₁ s₂ (by rw [hsplit]; simp) hbefore hstep
        (.snoc hafter hlast)

/-- A computed run. -/
theorem of_foldlM {f : σ → ε → Option σ} (h : es.foldlM f s = some s') :
    Run (fun s e s' => f s e = some s') s es s' := by
  induction es using List.reverseRecOn generalizing s' with
  | nil =>
      obtain rfl : s = s' := by simpa using h
      exact .nil
  | append_singleton es e ih =>
      rw [List.foldlM_append] at h
      obtain ⟨s₁, hs₁, hlast⟩ := Option.bind_eq_some_iff.mp h
      exact .snoc (ih hs₁) (by simpa using hlast)

end Run

/-! ## Traces -/

/-- Up to `s n`, the states `s 0, s 1, …` follow one another under the events
`e 0, e 1, …`. -/
def IsTrace (step : σ → ε → σ → Prop) (s : ℕ → σ) (e : ℕ → ε) (n : ℕ) :
    Prop :=
  ∀ k < n, step (s k) (e k) (s (k + 1))

/-- What holds at time `i` and is kept by every later step holds from `i` on. -/
theorem IsTrace.invariant {s : ℕ → σ} {e : ℕ → ε} {n i : ℕ}
    (h : IsTrace step s e n) (Inv : ℕ → σ → Prop) (hinit : Inv i (s i))
    (hstep : ∀ k, i ≤ k → k < n → Inv k (s k) →
      step (s k) (e k) (s (k + 1)) → Inv (k + 1) (s (k + 1)))
    {k : ℕ} (hik : i ≤ k) (hkn : k ≤ n) : Inv k (s k) := by
  induction hik with
  | refl => exact hinit
  | step hik ih => exact hstep _ hik hkn (ih (by omega)) (h _ hkn)

/-- The states which the events `e 0, e 1, …` lead through one after another. -/
def statesAt (next : σ → ε → σ) (e : ℕ → ε) (s : σ) : ℕ → σ
  | 0 => s
  | k + 1 => next (statesAt next e s k) (e k)

/-- States which one step carries over are carried over at every time. -/
theorem statesAt_map {σ' ε' : Type*} {next : σ → ε → σ} {next' : σ' → ε' → σ'}
    {e : ℕ → ε} {e' : ℕ → ε'} {f : σ → σ'}
    (hstep : ∀ s k, next' (f s) (e' k) = f (next s (e k))) (s : σ) (k : ℕ) :
    statesAt next' e' (f s) k = f (statesAt next e s k) := by
  induction k with
  | zero => rfl
  | succ k ih => rw [statesAt, ih, hstep, statesAt]

/-! ## The last write -/

section LastWrite

variable {β : Type*} {w : ℕ → Option β} {i k : ℕ} {b₀ : β}

/-- What was written last from `i` on and before `k`, where `w j` is what is
written at time `j`; it is `b₀` when nothing was written. -/
inductive LastWrite (w : ℕ → Option β) (i k : ℕ) (b₀ : β) : β → Prop
  | initial : (∀ j, i ≤ j → j < k → w j = none) → LastWrite w i k b₀ b₀
  | written {j : ℕ} {b : β} : i ≤ j → j < k → w j = some b →
      (∀ m, j < m → m < k → w m = none) → LastWrite w i k b₀ b

theorem LastWrite.succ {b : β} (hik : i ≤ k) (h : LastWrite w i k b₀ b) :
    LastWrite w i (k + 1) b₀ ((w k).getD b) := by
  cases hk : w k with
  | some c => exact .written hik (Nat.lt_succ_self k) hk (by omega)
  | none =>
      rw [Option.getD_none]
      cases h with
      | initial hnone =>
          refine .initial fun j hij hj => ?_
          rcases Nat.lt_succ_iff_lt_or_eq.mp hj with hj | rfl
          · exact hnone j hij hj
          · exact hk
      | written hij hjk hw hnone =>
          refine .written hij (by omega) hw fun m hjm hm => ?_
          rcases Nat.lt_succ_iff_lt_or_eq.mp hm with hm | rfl
          · exact hnone m hjm hm
          · exact hk

/-- A value that every step overwrites or keeps is the one written last. -/
theorem LastWrite.of_steps {x : ℕ → β} (hik : i ≤ k)
    (hstep : ∀ j, i ≤ j → j < k → x (j + 1) = (w j).getD (x j)) :
    LastWrite w i k (x i) (x k) := by
  induction hik with
  | refl => exact .initial (by omega)
  | step hik ih =>
      rw [hstep _ hik (Nat.lt_succ_self _)]
      exact (ih fun j hij hj => hstep j hij (Nat.lt_succ_of_lt hj)).succ hik

/-- So it is where the value may be absent at first. -/
theorem LastWrite.of_or_steps {x : ℕ → Option β} (hik : i ≤ k)
    (hinit : x i = some b₀)
    (hstep : ∀ j, i ≤ j → j < k → x (j + 1) = (w j).or (x j)) :
    ∃ b, x k = some b ∧ LastWrite w i k b₀ b := by
  induction hik with
  | refl => exact ⟨b₀, hinit, .initial (by omega)⟩
  | @step k hik ih =>
      obtain ⟨b, hb, hwrite⟩ := ih fun j hij hj => hstep j hij (by omega)
      refine ⟨(w k).getD b, ?_, hwrite.succ hik⟩
      rw [hstep k hik (Nat.lt_succ_self k), hb]
      cases w k <;> rfl

/-- Where nothing else is written, the first value stays. -/
theorem LastWrite.eq_initial {b : β} (h : LastWrite w i k b₀ b)
    (hw : ∀ j, i ≤ j → j < k → ∀ c ∈ w j, c = b₀) : b = b₀ := by
  cases h with
  | initial _ => rfl
  | written hij hjk hb _ => exact hw _ hij hjk b hb

end LastWrite

/-! ## Histories -/

/-- Every event of the history stands in the relation `legal` to the events
before it. -/
def Along (legal : List ε → ε → Prop) (es : List ε) : Prop :=
  ∀ pre e post, es = pre ++ e :: post → legal pre e

namespace Along

variable {legal : List ε → ε → Prop}

theorem nil : Along legal ([] : List ε) := by
  intro pre e post h
  simp at h

theorem snoc (hes : Along legal es) (he : legal es e) :
    Along legal (es ++ [e]) := by
  intro pre e' post h
  rcases List.eq_nil_or_concat post with rfl | ⟨post', e'', rfl⟩
  · obtain ⟨rfl, heq⟩ := List.append_inj' h rfl
    obtain rfl := List.singleton_inj.mp heq
    exact he
  · rw [List.concat_eq_append, ← List.cons_append, ← List.append_assoc] at h
    exact hes pre e' post' (List.append_inj' h rfl).1

theorem append_left {es' : List ε} (h : Along legal (es ++ es')) :
    Along legal es := by
  intro pre e post hes
  exact h pre e (post ++ es') (by rw [hes, List.append_assoc, List.cons_append])

/-- What is legal for an event of the history. -/
theorem of_mem (h : Along legal es) (he : e ∈ es) :
    ∃ pre post, es = pre ++ e :: post ∧ legal pre e := by
  obtain ⟨pre, post, hes⟩ := List.append_of_mem he
  exact ⟨pre, post, hes, h pre e post hes⟩

end Along

end Support
