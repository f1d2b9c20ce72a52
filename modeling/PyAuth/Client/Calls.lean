import PyAuth.Client.Licence

/-!
# One call of a client

The public calls of one client on a disk which does not fail, and what each
of them does to the licence: the storage stays backed by the licence which
the heartbeats of the call leave in force, and an answer taken from the cache
rests on a licence which is still fresh.
-/

namespace PyAuth.Client

open Support

/-- A call of the client, with everything its environment decides. -/
inductive Call
  | check (testAt : ℚ) (online : Online) (saveAt : ℚ)
  | progressive (testAt : ℚ) (light : Answer) (saveLightAt : ℚ)
      (full : Online) (saveFullAt retestAt : ℚ)
  | clear
  | softLaunch (testAt : ℚ)

/-- What a call returns. -/
inductive Reply
  | checked (result : AuthResult)
  | cleared (ok : Bool)
  | softLaunch (ok : Bool)
deriving DecidableEq

/-- The reply lets the program go on without an answer of the server. -/
def Reply.Offline : Reply → Prop
  | .checked result => result.authorized = true ∧ result.fromCache = true
  | .cleared _ => False
  | .softLaunch ok => ok = true

/-- What a call leaves behind. -/
structure Outcome (β : Type) where
  client : AuthClient
  storage : Storage β
  reply : Reply
  events : List Event

def Checked.toOutcome {β : Type} (out : Checked β) : Outcome β :=
  ⟨out.client, out.storage, .checked out.result,
    out.heartbeats.map .heartbeat⟩

def CheckEnv.success (testAt : ℚ) (online : Online) (saveAt : ℚ) : CheckEnv :=
  ⟨.success, testAt, online, .success saveAt⟩

def ProgressiveEnv.success (testAt : ℚ) (light : Answer) (saveLightAt : ℚ)
    (full : Online) (saveFullAt retestAt : ℚ) : ProgressiveEnv :=
  { snapshot := .success
    testAt := testAt
    light := light
    saveLight := .success saveLightAt
    full := full
    saveFull := .success saveFullAt
    retest := .success
    retestValid := .success
    retestAt := retestAt }

/-- Perform a call when every file operation succeeds. -/
def Call.perform {β : Type} (P : Primitives β) (cl : AuthClient)
    (st : Storage β) : Call → Outcome β
  | .check testAt online saveAt =>
      (cl.checkAuthorization P (.success testAt online saveAt) st).toOutcome
  | .progressive testAt light saveLightAt full saveFullAt retestAt =>
      (cl.checkAuthorizationProgressive P
        (.success testAt light saveLightAt full saveFullAt retestAt)
        st).toOutcome
  | .clear =>
      let (st, ok) := cl.clearCache P .success st
      ⟨cl, st, .cleared ok, [.cleared]⟩
  | .softLaunch testAt =>
      let (st, ok) := cl.canSoftLaunch P .success .success testAt st
      ⟨cl, st, .softLaunch ok, []⟩

/-- The clock reading at which a call tested the cache for the answer it took
from there.  A progressive check whose light heartbeat was answered tests
again after its full heartbeat. -/
def Call.testedAt : Call → ℚ
  | .check testAt _ _ => testAt
  | .progressive testAt light _ _ _ retestAt =>
      match light with
      | .failed _ => testAt
      | .answered _ _ => retestAt
  | .clear => 0
  | .softLaunch testAt => testAt

/-! ## The parts of a check -/

section Checks

variable {β : Type} {P : Primitives β} {cl : AuthClient} {st : Storage β}
  {l : Option ℚ}

/-- What a check owes when it starts from a storage backed by `l`. -/
structure Checked.Sound (P : Primitives β) (c : AuthCache) (l : Option ℚ)
    (testedAt : ℚ) (out : Checked β) : Prop where
  cache_eq : out.client.cache = c
  backed : Backed P c out.storage
    (licenceFrom l (out.heartbeats.map .heartbeat))
  fresh : out.result.fromCache = true →
    ∃ ts, licenceFrom l (out.heartbeats.map .heartbeat) = some ts ∧
      testedAt - ts < c.cacheValiditySeconds
  sender : ∀ hb ∈ out.heartbeats, hb.deviceId = c.deviceId

theorem licenceFrom_unanswered_heartbeats {sent : List Heartbeat}
    (h : ∀ hb ∈ sent, hb.answer = none) (l : Option ℚ) :
    licenceFrom l (sent.map .heartbeat) = l := by
  apply licenceFrom_of_unanswered
  intro e he
  obtain ⟨hb, hmem, rfl⟩ := List.mem_map.mp he
  exact ⟨hb, rfl, h hb hmem⟩

/-- An answered heartbeat, stored at `now`, decides the licence. -/
theorem licenceFrom_recordSave {hb : Heartbeat} {authorized : Bool}
    (h : hb.answer = some authorized) (l : Option ℚ) (now : ℚ) :
    licenceFrom l ((recordSave [hb] (some now)).map .heartbeat) =
      if authorized then some now else none := by
  cases authorized <;> simp [recordSave, Event.apply, h]

/-- Storing the answer of a full heartbeat. -/
theorem sound_of_answered {times : ℤ} {online : Online} {saveAt : ℚ}
    {testedAt : ℚ} (hok : (cl.checkOnline times online).2.2.success = true) :
    Checked.Sound P cl.cache l testedAt
      (let (cl', sent, result) := cl.checkOnline times online
       let (st', savedAt) := cl'.writeCheckCacheRetries P result.authorized
         times (.success saveAt) st
       ⟨cl', st', result, recordSave sent savedAt⟩) := by
  obtain ⟨hcache, hfrom, hsender, -, hanswer⟩ :=
    cl.checkOnline_spec times online
  obtain ⟨hb, hsent, hans⟩ := hanswer hok
  have hbacked := backed_writeCheckCacheRetries (P := P)
    (cl.checkOnline times online).1
    (cl.checkOnline times online).2.2.authorized times saveAt st
  rw [writeCheckCacheRetries_success] at hbacked
  simp only [writeCheckCacheRetries_success, hsent]
  refine ⟨hcache, ?_, fun hc => ?_, ?_⟩
  · rw [licenceFrom_recordSave hans, ← hcache]
    exact hbacked
  · rw [hfrom] at hc
    contradiction
  · simpa [recordSave, hsent] using hsender

theorem sound_onlineOrCached {times : ℤ} {cached : Option CacheData}
    {online : Online} {saveAt testedAt : ℚ} (hst : Backed P cl.cache st l)
    (hcached : ∀ cache, cached = some cache →
      ∃ ts, l = some ts ∧ testedAt - ts < cl.cache.cacheValiditySeconds) :
    (cl.onlineOrCached P times cached online (.success saveAt) st).Sound P
      cl.cache l testedAt := by
  rw [AuthClient.onlineOrCached]
  cases hok : (cl.checkOnline times online).2.2.success with
  | true =>
      simp only [hok, if_true]
      exact sound_of_answered hok
  | false =>
      obtain ⟨hcache, hfrom, hsender, hnone, -⟩ :=
        cl.checkOnline_spec times online
      have hl := licenceFrom_unanswered_heartbeats (hnone hok) l
      simp only [hok, Bool.false_eq_true, if_false]
      cases cached with
      | none =>
          refine ⟨hcache, ?_, fun hc => ?_, hsender⟩
          · rw [hl]
            exact hst
          · rw [hfrom] at hc
            contradiction
      | some cache =>
          refine ⟨hcache, ?_, fun _ => ?_, hsender⟩
          · rw [hl]
            exact hst
          · rw [hl]
            exact hcached cache rfl

/-- A cache entry read from a backed storage, and found valid, is fresh. -/
theorem fresh_of_isCacheValidDict {c : AuthCache} {cache : CacheData}
    {testedAt : ℚ} (hl : ∃ ts, l = some ts ∧ cache.cachedAt = .fin ts)
    (hvalid : c.isCacheValidDict testedAt (some cache) = true) :
    ∃ ts, l = some ts ∧ testedAt - ts < c.cacheValiditySeconds := by
  obtain ⟨ts, rfl, hts⟩ := hl
  exact ⟨ts, rfl, AuthCache.age_lt_of_isCacheValidDict hts hvalid⟩

theorem Backed.cachedAt_eq {c : AuthCache} {cache : CacheData}
    (hst : Backed P c st l)
    (h : AuthCache.cacheDictFromRow (c.currentRow P st) = some cache) :
    ∃ ts, l = some ts ∧ cache.cachedAt = .fin ts :=
  hst _ (AuthCache.cacheDictFromRow_eq_some_iff.mp h).1

theorem sound_completeLight (times : ℤ) (io : ProgressiveEnv) {saveAt : ℚ}
    (hst : Backed P cl.cache st l) (hsave : io.saveFull = .success saveAt)
    (hretest : io.retest = .success)
    (hretestValid : io.retestValid = .success) :
    (cl.completeLight P times io st).Sound P cl.cache l io.retestAt := by
  rw [AuthClient.completeLight, hsave, hretest, hretestValid]
  cases hok : (cl.checkOnline times io.full).2.2.success with
  | true =>
      simp only [hok, if_true]
      exact sound_of_answered hok
  | false =>
      obtain ⟨hcache, hfrom, hsender, hnone, -⟩ :=
        cl.checkOnline_spec times io.full
      have hl := licenceFrom_unanswered_heartbeats (hnone hok) l
      simp only [hok, Bool.false_eq_true, if_false, hcache]
      have hget : (cl.cache.getCache P .success st).2 =
          AuthCache.cacheDictFromRow (cl.cache.currentRow P st) :=
        AuthCache.getCache_success
      have hst₁ : Backed P cl.cache (cl.cache.getCache P .success st).1 l :=
        hst.of_currentRow_eq (AuthCache.currentRow_getCache _)
      rcases hread : cl.cache.getCache P .success st with ⟨st₁, cached⟩
      rw [hread] at hget hst₁
      cases cached with
      | none =>
          refine ⟨hcache, ?_, fun hc => ?_, hsender⟩
          · rw [hl]
            exact hst₁
          · rw [hfrom] at hc
            contradiction
      | some cache =>
          have hts := hst.cachedAt_eq hget.symm
          have hrow : cl.cache.currentRow P st₁ = cl.cache.currentRow P st := by
            rw [show st₁ = (cl.cache.getCache P .success st).1 by rw [hread]]
            exact AuthCache.currentRow_getCache _
          have hvalid : (cl.cache.isCacheValid P .success io.retestAt st₁).2 =
              cl.cache.isCacheValidDict io.retestAt (some cache) := by
            rw [AuthCache.isCacheValid_success, hrow, ← hget]
          have hst₂ : Backed P cl.cache
              (cl.cache.isCacheValid P .success io.retestAt st₁).1 l :=
            hst₁.of_currentRow_eq (AuthCache.currentRow_isCacheValid _ _)
          dsimp only
          split
          next hv =>
            refine ⟨hcache, ?_, fun _ => ?_, hsender⟩
            · rw [hl]
              exact hst₂
            · rw [hl]
              exact fresh_of_isCacheValidDict hts (hvalid.symm.trans hv)
          next =>
            refine ⟨hcache, ?_, fun hc => ?_, hsender⟩
            · rw [hl]
              exact hst₂
            · rw [hfrom] at hc
              contradiction

/-! ## The checks -/

/-- What a check knows of the cache when it begins. -/
theorem Backed.cached_of_checkSnapshot (hst : Backed P cl.cache st l)
    (testAt : ℚ) (cache : CacheData)
    (h : (if cl.cache.isCacheValidDict testAt
        (cl.checkSnapshot P .success st).2.1 then
        (cl.checkSnapshot P .success st).2.1 else none) = some cache) :
    ∃ ts, l = some ts ∧ testAt - ts < cl.cache.cacheValiditySeconds := by
  split at h
  next hvalid =>
    rw [h] at hvalid
    exact fresh_of_isCacheValidDict ((hst.checkSnapshot cl).2 cache h) hvalid
  next => contradiction

theorem sound_checkAuthorization (testAt saveAt : ℚ) (online : Online)
    (hst : Backed P cl.cache st l) :
    (cl.checkAuthorization P (.success testAt online saveAt) st).Sound P
      cl.cache l testAt := by
  rw [AuthClient.checkAuthorization]
  exact sound_onlineOrCached (hst.checkSnapshot cl).1
    (hst.cached_of_checkSnapshot testAt)

/-- A heartbeat before the rest of a check only moves the licence it starts
from. -/
theorem Checked.Sound.cons {c : AuthCache} {testedAt : ℚ} {out : Checked β}
    {hb : Heartbeat} (hsender : hb.deviceId = c.deviceId)
    (h : out.Sound P c ((Event.heartbeat hb).apply l) testedAt) :
    Checked.Sound P c l testedAt
      { out with heartbeats := hb :: out.heartbeats } :=
  ⟨h.cache_eq, h.backed, h.fresh, List.forall_mem_cons.mpr
    ⟨hsender, h.sender⟩⟩

theorem sound_progressive_of_failed (message : String)
    (testAt saveLightAt saveFullAt retestAt : ℚ) (full : Online)
    (hst : Backed P cl.cache st l) :
    (cl.checkAuthorizationProgressive P
        (.success testAt (.failed message) saveLightAt full saveFullAt
          retestAt) st).Sound P cl.cache l testAt := by
  rw [AuthClient.checkAuthorizationProgressive]
  exact .cons rfl (sound_onlineOrCached (hst.checkSnapshot cl).1
    (hst.cached_of_checkSnapshot testAt))

theorem sound_progressive_of_answered (authorized : Bool) (message : String)
    (testAt saveLightAt saveFullAt retestAt : ℚ) (full : Online) :
    (cl.checkAuthorizationProgressive P
        (.success testAt (.answered authorized message) saveLightAt full
          saveFullAt retestAt) st).Sound P cl.cache l retestAt := by
  have hbacked := fun times st => backed_writeCheckCacheRetries (P := P)
    cl authorized times saveLightAt st
  rw [AuthClient.checkAuthorizationProgressive]
  simp only [ProgressiveEnv.success, AuthClient.checkOnlineFast,
    Answer.toResult, writeCheckCacheRetries_success] at hbacked ⊢
  cases authorized with
  | true =>
      refine .cons rfl ?_
      change Checked.Sound P cl.cache (some saveLightAt) retestAt _
      exact sound_completeLight _ (.success testAt (.answered true message)
        saveLightAt full saveFullAt retestAt) (hbacked _ _) rfl rfl rfl
  | false =>
      exact ⟨rfl, hbacked _ _, fun hc => by contradiction,
        List.forall_mem_singleton.mpr rfl⟩

theorem sound_checkAuthorizationProgressive
    (testAt saveLightAt saveFullAt retestAt : ℚ) (light : Answer)
    (full : Online) (hst : Backed P cl.cache st l) :
    (cl.checkAuthorizationProgressive P
        (.success testAt light saveLightAt full saveFullAt retestAt) st).Sound
      P cl.cache l
      (Call.progressive testAt light saveLightAt full saveFullAt
        retestAt).testedAt := by
  cases light with
  | failed message => exact sound_progressive_of_failed _ _ _ _ _ _ hst
  | answered authorized message =>
      exact sound_progressive_of_answered _ _ _ _ _ _ _

theorem Checked.Sound.toOutcome {c : AuthCache} {testedAt : ℚ}
    {out : Checked β} (h : out.Sound P c l testedAt) :
    out.toOutcome.client.cache = c ∧
      Backed P c out.toOutcome.storage (licenceFrom l out.toOutcome.events) ∧
      (out.toOutcome.reply.Offline →
        ∃ ts, licenceFrom l out.toOutcome.events = some ts ∧
          testedAt - ts < c.cacheValiditySeconds) ∧
      ∀ hb, .heartbeat hb ∈ out.toOutcome.events →
        hb.deviceId = c.deviceId := by
  refine ⟨h.cache_eq, h.backed, fun hoff => h.fresh hoff.2, ?_⟩
  intro hb hmem
  obtain ⟨hb', hmem', heq⟩ := List.mem_map.mp hmem
  cases heq
  exact h.sender hb hmem'

/-- One call keeps the storage backed, goes on without the server only under
a fresh licence, and sends heartbeats for its own device id. -/
theorem perform_spec (call : Call) (hst : Backed P cl.cache st l) :
    (call.perform P cl st).client.cache = cl.cache ∧
      Backed P cl.cache (call.perform P cl st).storage
        (licenceFrom l (call.perform P cl st).events) ∧
      ((call.perform P cl st).reply.Offline →
        ∃ ts, licenceFrom l (call.perform P cl st).events = some ts ∧
          call.testedAt - ts < cl.cache.cacheValiditySeconds) ∧
      ∀ hb, .heartbeat hb ∈ (call.perform P cl st).events →
        hb.deviceId = cl.cache.deviceId := by
  cases call with
  | check testAt online saveAt =>
      exact (sound_checkAuthorization testAt saveAt online hst).toOutcome
  | progressive testAt light saveLightAt full saveFullAt retestAt =>
      exact (sound_checkAuthorizationProgressive testAt saveLightAt
        saveFullAt retestAt light full hst).toOutcome
  | clear =>
      exact ⟨rfl, .of_currentTs_none AuthCache.currentTs_clearCache_success,
        False.elim, by simp [Call.perform]⟩
  | softLaunch testAt =>
      have hget : (cl.cache.getCache P .success st).2 =
          AuthCache.cacheDictFromRow (cl.cache.currentRow P st) :=
        AuthCache.getCache_success
      have hrow : cl.cache.currentRow P (cl.cache.getCache P .success st).1 =
          cl.cache.currentRow P st := AuthCache.currentRow_getCache _
      simp only [Call.perform, AuthClient.canSoftLaunch]
      rcases hread : cl.cache.getCache P .success st with ⟨st₁, cached⟩
      rw [hread] at hget hrow
      cases cached with
      | none =>
          exact ⟨trivial, hst.of_currentRow_eq hrow, by simp [Reply.Offline],
            by simp⟩
      | some cache =>
          have hts := hst.cachedAt_eq hget.symm
          have hauth := (AuthCache.cacheDictFromRow_eq_some_iff.mp
            hget.symm).2.1
          have hvalid : (cl.cache.isCacheValid P .success testAt st₁).2 =
              cl.cache.isCacheValidDict testAt (some cache) := by
            rw [AuthCache.isCacheValid_success, hrow, ← hget]
          simp only [hauth, if_true, licenceFrom_nil]
          refine ⟨trivial, hst.of_currentRow_eq
            ((AuthCache.currentRow_isCacheValid _ _).trans hrow), ?_, by simp⟩
          intro hoff
          exact fresh_of_isCacheValidDict hts (hvalid.symm.trans hoff)

end Checks

end PyAuth.Client
