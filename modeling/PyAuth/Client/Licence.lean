import PyAuth.Client.CacheSpec

/-!
# The licence a run has earned

What the cache is for: a client which cannot reach the server may go on as
long as the last answer it got was an authorisation, and that answer is not
too old.  `licence` says which authorisation a history of heartbeats and
clearings leaves in force; `Backed` relates a storage to it.
-/

namespace PyAuth.Client

open Support

/-- What happened to one client, in the order in which it happened. -/
inductive Event
  | heartbeat (h : Heartbeat)
  | cleared

/-- A heartbeat to which no reply was accepted. -/
def Event.Unanswered (e : Event) : Prop :=
  ∃ h, e = .heartbeat h ∧ h.answer = none

/-- The effect of one event on the licence in force, given by the timestamp
saved for it. -/
def Event.apply (licence : Option ℚ) : Event → Option ℚ
  | .heartbeat h =>
      match h.answer with
      | none => licence
      | some true => h.savedAt
      | some false => none
  | .cleared => none

/-- The licence after a history that starts from `licence`. -/
def licenceFrom (licence : Option ℚ) (history : List Event) : Option ℚ :=
  history.foldl Event.apply licence

/-- The licence a history leaves in force. -/
def licence (history : List Event) : Option ℚ := licenceFrom none history

@[simp] theorem licenceFrom_nil (l : Option ℚ) : licenceFrom l [] = l := rfl

@[simp] theorem licenceFrom_cons (l : Option ℚ) (e : Event)
    (es : List Event) :
    licenceFrom l (e :: es) = licenceFrom (e.apply l) es := rfl

theorem licence_append (history es : List Event) :
    licence (history ++ es) = licenceFrom (licence history) es :=
  List.foldl_append

/-- Unanswered heartbeats change nothing. -/
theorem licenceFrom_of_unanswered {es : List Event}
    (h : ∀ e ∈ es, e.Unanswered) (l : Option ℚ) : licenceFrom l es = l := by
  induction es with
  | nil => rfl
  | cons e es ih =>
      obtain ⟨hb, rfl, hnone⟩ := h e List.mem_cons_self
      rw [licenceFrom_cons, Event.apply, hnone]
      exact ih fun e' he' => h e' (List.mem_cons_of_mem _ he')

/-- A licence in force was granted by the last heartbeat that was answered,
and nothing but unanswered heartbeats came after it. -/
theorem exists_grant_of_licence {history : List Event} {ts : ℚ}
    (h : licence history = some ts) :
    ∃ pre hb post, history = pre ++ Event.heartbeat hb :: post ∧
      hb.answer = some true ∧ hb.savedAt = some ts ∧
      ∀ e ∈ post, e.Unanswered := by
  induction history using List.reverseRecOn with
  | nil => simp [licence] at h
  | append_singleton history e ih =>
      rw [licence_append, licenceFrom_cons, licenceFrom_nil] at h
      cases e with
      | cleared => simp [Event.apply] at h
      | heartbeat hb =>
          cases hans : hb.answer with
          | none =>
              rw [Event.apply, hans] at h
              obtain ⟨pre, hb', post, rfl, hgrant, hts, hpost⟩ := ih h
              refine ⟨pre, hb', post ++ [.heartbeat hb], by simp, hgrant, hts,
                ?_⟩
              intro e he
              rcases List.mem_append.mp he with he | he
              · exact hpost e he
              · exact ⟨hb, List.mem_singleton.mp he, hans⟩
          | some granted =>
              cases granted with
              | false => simp [Event.apply, hans] at h
              | true =>
                  rw [Event.apply, hans] at h
                  exact ⟨history, hb, [], rfl, hans, h, by simp⟩

/-! ## Storages backed by a licence -/

section Backed

variable {β : Type} {P : Primitives β} {c : AuthCache} {st st' : Storage β}
  {l : Option ℚ}

/-- Every timestamp that can be read from the storage is that of the
licence. -/
def Backed (P : Primitives β) (c : AuthCache) (st : Storage β)
    (l : Option ℚ) : Prop :=
  ∀ x, c.currentTs P st = some x → ∃ ts, l = some ts ∧ x = .fin ts

theorem Backed.of_currentTs_none (h : c.currentTs P st = none) :
    Backed P c st l := by
  intro x hx
  rw [h] at hx
  contradiction

theorem Backed.of_currentRow_eq (h : Backed P c st l)
    (hrow : c.currentRow P st' = c.currentRow P st) : Backed P c st' l := by
  intro x hx
  rw [AuthCache.currentTs, hrow] at hx
  exact h x hx

/-- Saving an answer grants or revokes the licence. -/
theorem backed_writeCheckCacheRetries (cl : AuthClient) (authorized : Bool)
    (times : ℤ) (now : ℚ) (st : Storage β) :
    Backed P cl.cache
      (cl.writeCheckCacheRetries P authorized times (.success now) st).1
      (if authorized then some now else none) := by
  rw [writeCheckCacheRetries_success]
  cases authorized with
  | true =>
      intro x hx
      simp only [if_true] at hx
      rw [AuthCache.currentTs_saveCache_true] at hx
      split at hx
      · exact ⟨now, rfl, (Option.some.inj hx).symm⟩
      · contradiction
  | false => exact .of_currentTs_none AuthCache.currentTs_saveCache_false

/-- A snapshot keeps the storage backed, and the entry it returns carries the
timestamp of the licence. -/
theorem Backed.checkSnapshot (cl : AuthClient) (h : Backed P cl.cache st l) :
    Backed P cl.cache (cl.checkSnapshot P .success st).1 l ∧
      ∀ cache, (cl.checkSnapshot P .success st).2.1 = some cache →
        ∃ ts, l = some ts ∧ cache.cachedAt = .fin ts := by
  have hspec := AuthCache.snapshotAuthRow_success (P := P) cl.cache st
  rw [AuthClient.checkSnapshot]
  rcases hsnap : cl.cache.snapshotAuthRow P .success st with ⟨st', r⟩
  rw [hsnap] at hspec
  rcases hspec with ⟨hrow, hcache⟩ | ⟨hnone, hr⟩
  · cases r with
    | error e => exact ⟨h.of_currentRow_eq hrow, by simp⟩
    | ok r =>
        obtain ⟨cache', n⟩ := r
        refine ⟨h.of_currentRow_eq hrow, ?_⟩
        intro cache hsome
        rcases hcache cache' n rfl with hnone | hdict
        · rw [hnone] at hsome
          contradiction
        · rw [hdict] at hsome
          exact h _ (AuthCache.cacheDictFromRow_eq_some_iff.mp hsome).1
  · dsimp only at hr
    subst hr
    exact ⟨.of_currentTs_none hnone, by simp⟩

end Backed

end PyAuth.Client
