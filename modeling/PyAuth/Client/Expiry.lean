import PyAuth.Client.Calls
import PyAuth.Client.DiskFailure

/-!
# How old a cached answer may be

A row carries the clock reading at which an authorisation was saved.  Whatever
the disk does, a call leaves a later timestamp only by saving an
authorisation, so that a client whose heartbeats are no longer granted goes on
from its cache at most until the validity has passed.
-/

namespace PyAuth.Client

open Support

variable {β : Type} {P : Primitives β} {c : AuthCache} {st st' : Storage β}
  {τ τ' : ℚ}

namespace AuthCache

/-- Every timestamp which can be read for the product is at most `τ`. -/
def StampedBy (P : Primitives β) (c : AuthCache) (τ : ℚ) (st : Storage β) :
    Prop :=
  ∀ x, c.currentTs P st = some x → ∃ ts, ts ≤ τ ∧ x = .fin ts

namespace StampedBy

theorem mono (h : c.StampedBy P τ st) (hle : τ ≤ τ') : c.StampedBy P τ' st := by
  intro x hx
  obtain ⟨ts, hts, rfl⟩ := h x hx
  exact ⟨ts, hts.trans hle, rfl⟩

theorem of_none (h : c.currentTs P st = none) : c.StampedBy P τ st := by
  intro x hx
  rw [h] at hx
  contradiction

theorem of_currentTs (h : c.StampedBy P τ st)
    (hts : c.currentTs P st' = c.currentTs P st) : c.StampedBy P τ st' := by
  intro x hx
  rw [hts] at hx
  exact h x hx

theorem of_stateRoot (h : c.StampedBy P τ st)
    (hroot : stateRoot P c.serverUrl st' = stateRoot P c.serverUrl st) :
    c.StampedBy P τ st' := by
  refine h.of_currentTs ?_
  rw [currentTs, currentTs, currentRow, currentRow, hroot]

/-- A bundle is written over and over. -/
theorem writeBundle {data : Root} {io : BundleEnv} (h : c.StampedBy P τ st)
    (hdata : ∀ x, (c.rowOf (some (data.erase "device_id"))).bind
      rowLastSuccessTs = some x → ∃ ts, ts ≤ τ ∧ x = .fin ts) :
    c.StampedBy P τ (c.writeBundleWithRetry P data io st).1 := by
  have hroot := (writeBundle_spec (P := P) (c := c) data io st).2
  intro x hx
  rw [currentTs, currentRow, hroot] at hx
  split at hx
  · exact hdata x hx
  · split at hx
    · contradiction
    · exact h x hx

theorem read {io : ReadEnv} (h : c.StampedBy P τ st) :
    c.StampedBy P τ (readStateDict P c.serverUrl io st).1 :=
  h.of_stateRoot (stateRoot_readStateDict io st)

/-- Only an authorisation is saved with its time. -/
theorem saveCache {authorized : Bool} {hb snap : Json} {io : SaveEnv}
    (h : c.StampedBy P τ st) (hnow : authorized = true → io.now ≤ τ) :
    c.StampedBy P τ (c.saveCache P authorized .null hb snap io st).1 := by
  rw [AuthCache.saveCache]
  dsimp only
  refine h.read.writeBundle fun x hx => ?_
  have hname : ((c.rowOf (readStateDict P c.serverUrl io.read st).2).getD
      .empty).get "software_name" = none := by
    rw [← ownRow_getD]
    exact ownRow_get_software_name _ _
  rw [if_pos rfl, saveRoot, rowOf_updateRow _ _ (by decide)
    (get_savedRow_software_name hname) isEmpty_savedRow] at hx
  split at hx
  · rw [Option.bind_some] at hx
    cases authorized with
    | false =>
        rw [savedRow_false, rowLastSuccessTs_clearedRow] at hx
        contradiction
    | true =>
        rw [rowLastSuccessTs_savedRow] at hx
        split at hx
        · exact ⟨io.now, hnow rfl, (Option.some.inj hx).symm⟩
        · contradiction
  · contradiction

theorem saveAttempts {authorized : Bool} {hb snap : Json} {ios : List SaveEnv}
    (h : c.StampedBy P τ st)
    (hnow : authorized = true → ∀ io ∈ ios, io.now ≤ τ) :
    c.StampedBy P τ (saveAttempts P c authorized hb snap ios st).1 := by
  induction ios generalizing st with
  | nil => exact h
  | cons io ios ih =>
      have hsave : c.StampedBy P τ
          (c.saveCache P authorized .null hb snap io st).1 :=
        h.saveCache fun hauth => hnow hauth io List.mem_cons_self
      rw [Client.saveAttempts]
      dsimp only
      split
      · exact hsave
      · exact ih hsave fun hauth io' hio' =>
          hnow hauth io' (List.mem_cons_of_mem _ hio')

theorem clearCache {io : ClearEnv} (h : c.StampedBy P τ st) :
    c.StampedBy P τ (c.clearCache P io st).1 := by
  rw [AuthCache.clearCache]
  dsimp only
  split
  · exact h.read
  · split
    · exact h.read
    · split
      · refine h.read.writeBundle fun x hx => ?_
        rw [ts_clearRoot] at hx
        contradiction
      · split
        · apply of_none
          rw [currentTs, currentRow, stateRoot_put_none]
          rfl
        · exact h.read

end StampedBy

/-- What is read is what can be read. -/
theorem currentTs_of_getCache (io : ReadEnv) {cache : CacheData}
    (h : (c.getCache P io st).2 = some cache) :
    c.currentTs P st = some cache.cachedAt := by
  change cacheDictFromRow (c.rowOf (readStateDict P c.serverUrl io st).2) =
    some cache at h
  rw [readStateDict_snd] at h
  cases hread : io.read with
  | false => simp [hread, rowOf, cacheDictFromRow] at h
  | true =>
      rw [hread, if_pos rfl] at h
      exact (cacheDictFromRow_eq_some_iff.mp h).1

/-- A snapshot keeps the bound, and the entry it returns obeys it. -/
theorem stampedBy_snapshotAuthRow (io : SnapshotEnv)
    (h : c.StampedBy P τ st) :
    c.StampedBy P τ (c.snapshotAuthRow P io st).1 ∧
      ∀ cache n, (c.snapshotAuthRow P io st).2 = .ok (some cache, n) →
        ∃ ts, ts ≤ τ ∧ cache.cachedAt = .fin ts := by
  have hread : c.StampedBy P τ (c.readRow P io.read st).1 := h.read
  rw [snapshotAuthRow]
  dsimp only
  cases hrow : (c.readRow P io.read st).2 with
  | none => exact ⟨hread, by simp⟩
  | some row =>
      dsimp only
      split
      · exact ⟨hread, by simp⟩
      · cases storedCount row with
        | error error =>
            cases error with
            | overflowError => exact ⟨hread, by simp⟩
            | typeError | valueError => exact ⟨hread.clearCache, by simp⟩
        | ok n =>
            dsimp only
            split
            · exact ⟨hread.clearCache, by simp⟩
            · refine ⟨hread, fun cache n' hcache => ?_⟩
              obtain ⟨hcache, -⟩ := Prod.mk.inj (Except.ok.inj hcache)
              apply h
              apply currentTs_of_getCache io.read
              rw [getCache]
              dsimp only
              rw [hrow]
              exact hcache

end AuthCache

/-! ## Calls on any disk -/

/-- A call of the client, with everything its environment decides; the disk may
fail at any point. -/
inductive AnyCall
  | check (io : CheckEnv)
  | progressive (io : ProgressiveEnv)
  | clear (io : ClearEnv)
  | softLaunch (io ioValid : ReadEnv) (now : ℚ)

namespace AnyCall

def perform (P : Primitives β) (cl : AuthClient) (st : Storage β) :
    AnyCall → Outcome β
  | .check io => (cl.checkAuthorization P io st).toOutcome
  | .progressive io => (cl.checkAuthorizationProgressive P io st).toOutcome
  | .clear io =>
      let (st, ok) := cl.clearCache P io st
      ⟨cl, st, .cleared ok, [.cleared]⟩
  | .softLaunch io ioValid now =>
      let (st, ok) := cl.canSoftLaunch P io ioValid now st
      ⟨cl, st, .softLaunch ok, []⟩

/-- The clock readings at which answers are saved. -/
def saveTimes : AnyCall → List ℚ
  | .check io => io.save.1.map SaveEnv.now
  | .progressive io => (io.saveLight.1 ++ io.saveFull.1).map SaveEnv.now
  | .clear _ | .softLaunch _ _ _ => []

/-- The clock reading at which the call tests the cache for an answer which it
takes from there. -/
def testedAt : AnyCall → ℚ
  | .check io => io.testAt
  | .progressive io =>
      match io.light with
      | .failed _ => io.testAt
      | .answered _ _ => io.retestAt
  | .clear _ => 0
  | .softLaunch _ _ now => now

end AnyCall

/-- The program may go on. -/
def Reply.Authorises : Reply → Prop
  | .checked result => result.authorized = true
  | .cleared _ => False
  | .softLaunch ok => ok = true

/-- One of the heartbeats was answered with an authorisation. -/
def Granted (events : List Event) : Prop :=
  ∃ hb, .heartbeat hb ∈ events ∧ hb.answer = some true

/-! ## The parts of a check -/

/-- What a check owes when all timestamps before it are at most `τ`. -/
structure Checked.Dated (P : Primitives β) (c : AuthCache) (τ testedAt : ℚ)
    (out : Checked β) : Prop where
  cache_eq : out.client.cache = c
  stamped : c.StampedBy P τ out.storage
  authorised : out.result.authorized = true →
    Granted (out.heartbeats.map .heartbeat) ∨
      testedAt < τ + c.cacheValiditySeconds
  sender : ∀ hb ∈ out.heartbeats, hb.deviceId = c.deviceId

section

variable {cl : AuthClient} {times : ℤ} {online : Online} {testedAt : ℚ}

theorem granted_map {sent : List Heartbeat} :
    Granted (sent.map .heartbeat) ↔ ∃ hb ∈ sent, hb.answer = some true := by
  constructor
  · rintro ⟨hb, hmem, hanswer⟩
    obtain ⟨hb', hmem', heq⟩ := List.mem_map.mp hmem
    obtain rfl := Event.heartbeat.inj heq
    exact ⟨hb', hmem', hanswer⟩
  · rintro ⟨hb, hmem, hanswer⟩
    exact ⟨hb, List.mem_map_of_mem hmem, hanswer⟩

/-- An entry that obeys the bound and is found valid was tested in time. -/
theorem lt_of_isCacheValidDict {cache : CacheData} {now : ℚ}
    (hts : ∃ ts, ts ≤ τ ∧ cache.cachedAt = .fin ts)
    (hvalid : c.isCacheValidDict now (some cache) = true) :
    now < τ + c.cacheValiditySeconds := by
  obtain ⟨ts, hle, hfin⟩ := hts
  have hage := AuthCache.age_lt_of_isCacheValidDict hfin hvalid
  linarith

/-- The answer of a full heartbeat is stored. -/
theorem dated_of_answered {save : Attempts} (hst : cl.cache.StampedBy P τ st)
    (hok : (cl.checkOnline times online).2.2.success = true)
    (hsave : Granted ((cl.checkOnline times online).2.1.map .heartbeat) →
      ∀ io ∈ save.1, io.now ≤ τ) :
    Checked.Dated P cl.cache τ testedAt
      (let (cl', sent, result) := cl.checkOnline times online
       let (st', savedAt) := cl'.writeCheckCacheRetries P result.authorized
         times save st
       ⟨cl', st', result, recordSave sent savedAt⟩) := by
  obtain ⟨hcache, -, hsender, -, hanswer⟩ := cl.checkOnline_spec times online
  obtain ⟨hb, hsent, hans⟩ := hanswer hok
  have hgranted : (cl.checkOnline times online).2.2.authorized = true →
      Granted ((cl.checkOnline times online).2.1.map .heartbeat) := by
    intro hauth
    rw [granted_map, hsent]
    exact ⟨hb, List.mem_singleton_self _, hauth ▸ hans⟩
  refine ⟨hcache, ?_, fun hauth => Or.inl ?_, fun hb' hb'mem => ?_⟩
  · dsimp only
    rw [AuthClient.writeCheckCacheRetries, hcache]
    exact hst.saveAttempts fun hauth => hsave (hgranted hauth)
  · rw [granted_map]
    dsimp only at hauth ⊢
    rw [hsent, recordSave]
    exact ⟨_, List.mem_map_of_mem (List.mem_singleton_self _), hauth ▸ hans⟩
  · dsimp only [recordSave] at hb'mem
    obtain ⟨hb'', hmem, rfl⟩ := List.mem_map.mp hb'mem
    exact hsender hb'' hmem

theorem granted_recordSave {sent : List Heartbeat} {savedAt : Option ℚ} :
    Granted ((recordSave sent savedAt).map .heartbeat) ↔
      Granted (sent.map .heartbeat) := by
  rw [granted_map, granted_map, recordSave]
  simp only [List.mem_map, exists_exists_and_eq_and]

theorem authorized_checkOnline_of_failed
    (h : (cl.checkOnline times online).2.2.success = false) :
    (cl.checkOnline times online).2.2.authorized = false := by
  cases online with
  | abandoned collected message => cases collected <;> rfl
  | posted collected publicIp answer => exact Answer.authorized_of_failed h

theorem dated_onlineOrCached {cached : Option CacheData} {save : Attempts}
    (hst : cl.cache.StampedBy P τ st)
    (hcached : ∀ cache, cached = some cache →
      testedAt < τ + cl.cache.cacheValiditySeconds)
    (hsave : Granted ((cl.onlineOrCached P times cached online save
      st).heartbeats.map .heartbeat) → ∀ io ∈ save.1, io.now ≤ τ) :
    (cl.onlineOrCached P times cached online save st).Dated P cl.cache τ
      testedAt := by
  rw [AuthClient.onlineOrCached] at hsave ⊢
  cases hok : (cl.checkOnline times online).2.2.success with
  | true =>
      simp only [hok, if_true] at hsave ⊢
      exact dated_of_answered hst hok fun hgranted =>
        hsave (granted_recordSave.mpr hgranted)
  | false =>
      obtain ⟨hcache, -, hsender, -, -⟩ := cl.checkOnline_spec times online
      simp only [hok, Bool.false_eq_true, if_false]
      cases cached with
      | some cache =>
          exact ⟨hcache, hst, fun _ => Or.inr (hcached cache rfl), hsender⟩
      | none =>
          refine ⟨hcache, hst, fun hauth => ?_, hsender⟩
          rw [authorized_checkOnline_of_failed hok] at hauth
          contradiction

/-! ## The checks -/

theorem dated_checkSnapshot (io : SnapshotEnv) (now : ℚ)
    (hst : cl.cache.StampedBy P τ st) :
    cl.cache.StampedBy P τ (cl.checkSnapshot P io st).1 ∧
      ∀ cache, (if cl.cache.isCacheValidDict now (cl.checkSnapshot P io st).2.1
        then (cl.checkSnapshot P io st).2.1 else none) = some cache →
          now < τ + cl.cache.cacheValiditySeconds := by
  obtain ⟨hstamped, hentry⟩ :=
    AuthCache.stampedBy_snapshotAuthRow io hst
  rw [AuthClient.checkSnapshot]
  rcases hsnapshot : cl.cache.snapshotAuthRow P io st with
    ⟨st', error | ⟨entry, n⟩⟩
  all_goals rw [hsnapshot] at hstamped hentry
  · exact ⟨hstamped, by simp⟩
  · refine ⟨hstamped, fun cache hcache => ?_⟩
    dsimp only at hcache
    split at hcache
    · next hvalid =>
        subst hcache
        exact lt_of_isCacheValidDict (hentry cache n rfl) hvalid
    · contradiction

theorem dated_checkAuthorization {io : CheckEnv}
    (hst : cl.cache.StampedBy P τ st)
    (hsave : Granted ((cl.checkAuthorization P io st).heartbeats.map
      .heartbeat) → ∀ io' ∈ io.save.1, io'.now ≤ τ) :
    (cl.checkAuthorization P io st).Dated P cl.cache τ io.testAt := by
  rw [AuthClient.checkAuthorization] at hsave ⊢
  obtain ⟨hstamped, hcached⟩ :=
    dated_checkSnapshot io.snapshot io.testAt hst
  exact dated_onlineOrCached hstamped hcached hsave

/-- A light heartbeat was granted, and the full one goes on from there. -/
theorem dated_completeLight {io : ProgressiveEnv}
    (hst : cl.cache.StampedBy P τ st)
    (hsave : ∀ io' ∈ io.saveFull.1, io'.now ≤ τ) :
    (cl.completeLight P times io st).Dated P cl.cache τ io.retestAt := by
  rw [AuthClient.completeLight]
  cases hok : (cl.checkOnline times io.full).2.2.success with
  | true =>
      simp only [hok, if_true]
      exact dated_of_answered hst hok fun _ => hsave
  | false =>
      obtain ⟨hcache, -, hsender, -, -⟩ := cl.checkOnline_spec times io.full
      have hnot (h : (cl.checkOnline times io.full).2.2.authorized = true) :
          Granted ((cl.checkOnline times io.full).2.1.map .heartbeat) ∨
            io.retestAt < τ + cl.cache.cacheValiditySeconds := by
        rw [authorized_checkOnline_of_failed hok] at h
        contradiction
      simp only [hok, Bool.false_eq_true, if_false, hcache]
      have hget : cl.cache.StampedBy P τ
          (cl.cache.getCache P io.retest st).1 := hst.read
      cases hread : cl.cache.getCache P io.retest st with
      | mk st₁ cached =>
          rw [hread] at hget
          cases cached with
          | none => exact ⟨hcache, hget, hnot, hsender⟩
          | some cache =>
              have hvalid : cl.cache.StampedBy P τ (cl.cache.isCacheValid P
                  io.retestValid io.retestAt st₁).1 := hget.read
              dsimp only
              split
              · next h =>
                  refine ⟨hcache, hvalid, fun _ => Or.inr ?_, hsender⟩
                  rw [AuthCache.isCacheValid] at h
                  dsimp only at h
                  cases hagain : (cl.cache.getCache P io.retestValid st₁).2 with
                  | none =>
                      rw [hagain] at h
                      contradiction
                  | some cache' =>
                      rw [hagain] at h
                      exact lt_of_isCacheValidDict
                        (hget _ (AuthCache.currentTs_of_getCache _ hagain)) h
              · exact ⟨hcache, hvalid, hnot, hsender⟩

theorem stampedBy_writeCheckCacheRetries {authorized : Bool} {ios : Attempts}
    (hst : cl.cache.StampedBy P τ st)
    (hnow : authorized = true → ∀ io ∈ ios.1, io.now ≤ τ) :
    cl.cache.StampedBy P τ
      (cl.writeCheckCacheRetries P authorized times ios st).1 :=
  hst.saveAttempts hnow

/-- A heartbeat before the rest of a check. -/
theorem Checked.Dated.cons {out : Checked β} {hb : Heartbeat}
    (hsender : hb.deviceId = c.deviceId) (h : out.Dated P c τ testedAt) :
    Checked.Dated P c τ testedAt
      { out with heartbeats := hb :: out.heartbeats } := by
  refine ⟨h.cache_eq, h.stamped, fun hauth => ?_,
    List.forall_mem_cons.mpr ⟨hsender, h.sender⟩⟩
  refine (h.authorised hauth).imp_left fun hgranted => ?_
  rw [granted_map] at hgranted ⊢
  obtain ⟨hb', hmem, hanswer⟩ := hgranted
  exact ⟨hb', List.mem_cons_of_mem _ hmem, hanswer⟩

theorem dated_checkAuthorizationProgressive {io : ProgressiveEnv}
    (hst : cl.cache.StampedBy P τ st)
    (hsave : Granted ((cl.checkAuthorizationProgressive P io st).heartbeats.map
      .heartbeat) → ∀ io' ∈ io.saveLight.1 ++ io.saveFull.1, io'.now ≤ τ) :
    (cl.checkAuthorizationProgressive P io st).Dated P cl.cache τ
      (AnyCall.progressive io).testedAt := by
  obtain ⟨hstamped, hcached⟩ :=
    dated_checkSnapshot io.snapshot io.testAt hst
  rw [AuthClient.checkAuthorizationProgressive] at hsave ⊢
  rw [AnyCall.testedAt]
  cases hlight : io.light with
  | failed message =>
      simp only [hlight, AuthClient.checkOnlineFast, Answer.toResult,
        Bool.false_eq_true, if_false] at hsave ⊢
      refine .cons rfl (dated_onlineOrCached hstamped hcached
        fun hgranted io' hio' => ?_)
      refine hsave ?_ io' (List.mem_append_right _ hio')
      rw [granted_map] at hgranted ⊢
      obtain ⟨hb, hmem, hanswer⟩ := hgranted
      exact ⟨hb, List.mem_cons_of_mem _ hmem, hanswer⟩
  | answered authorized message =>
      simp only [hlight, AuthClient.checkOnlineFast, Answer.toResult,
        if_true] at hsave ⊢
      cases authorized with
      | false =>
          refine ⟨rfl, ?_, fun hauth => by contradiction, fun hb hmem => ?_⟩
          · exact stampedBy_writeCheckCacheRetries hstamped fun hauth => by
              contradiction
          · obtain ⟨hb', hmem', rfl⟩ := List.mem_map.mp hmem
            obtain rfl := List.mem_singleton.mp hmem'
            rfl
      | true =>
          simp only [if_true] at hsave ⊢
          have hnow := hsave (by
            rw [granted_map]
            exact ⟨_, List.mem_append_left _ (List.mem_map_of_mem
              (List.mem_singleton_self _)), rfl⟩)
          refine .cons rfl (dated_completeLight ?_ fun io' hio' =>
            hnow io' (List.mem_append_right _ hio'))
          exact stampedBy_writeCheckCacheRetries hstamped fun _ io' hio' =>
            hnow io' (List.mem_append_left _ hio')

end

/-- **One call, whatever the disk does**: it leaves a timestamp later than `τ`
only if it was granted an authorisation and saved it later, and without a grant
it lets the program go on only before the validity has passed since `τ`. -/
theorem AnyCall.perform_spec {cl : AuthClient} (call : AnyCall)
    (hst : cl.cache.StampedBy P τ st)
    (hsave : Granted (call.perform P cl st).events →
      ∀ now ∈ call.saveTimes, now ≤ τ) :
    (call.perform P cl st).client.cache = cl.cache ∧
      cl.cache.StampedBy P τ (call.perform P cl st).storage ∧
      ((call.perform P cl st).reply.Authorises →
        Granted (call.perform P cl st).events ∨
          call.testedAt < τ + cl.cache.cacheValiditySeconds) ∧
      ∀ hb, .heartbeat hb ∈ (call.perform P cl st).events →
        hb.deviceId = cl.cache.deviceId := by
  have hchecked {out : Checked β} {testedAt : ℚ}
      (h : out.Dated P cl.cache τ testedAt) :
      out.toOutcome.client.cache = cl.cache ∧
        cl.cache.StampedBy P τ out.toOutcome.storage ∧
        (out.toOutcome.reply.Authorises → Granted out.toOutcome.events ∨
          testedAt < τ + cl.cache.cacheValiditySeconds) ∧
        ∀ hb, .heartbeat hb ∈ out.toOutcome.events →
          hb.deviceId = cl.cache.deviceId := by
    refine ⟨h.cache_eq, h.stamped, h.authorised, fun hb hmem => ?_⟩
    obtain ⟨hb', hmem', heq⟩ := List.mem_map.mp hmem
    obtain rfl := Event.heartbeat.inj heq
    exact h.sender hb' hmem'
  cases call with
  | check io =>
      refine hchecked (dated_checkAuthorization hst fun hgranted io' hio' => ?_)
      exact hsave hgranted io'.now (List.mem_map_of_mem hio')
  | progressive io =>
      refine hchecked (dated_checkAuthorizationProgressive hst
        fun hgranted io' hio' => ?_)
      exact hsave hgranted io'.now (List.mem_map_of_mem hio')
  | clear io => exact ⟨rfl, hst.clearCache, False.elim, by simp [perform]⟩
  | softLaunch io ioValid now =>
      have hget : cl.cache.StampedBy P τ (cl.cache.getCache P io st).1 :=
        hst.read
      simp only [perform, AuthClient.canSoftLaunch]
      cases hread : cl.cache.getCache P io st with
      | mk st₁ cached =>
          rw [hread] at hget
          cases cached with
          | none => exact ⟨trivial, hget, by simp [Reply.Authorises], by simp⟩
          | some cache =>
              dsimp only
              split
              · refine ⟨trivial, hget.read, fun hauth => Or.inr ?_, by simp⟩
                have hvalid : (cl.cache.isCacheValid P ioValid now st₁).2 =
                    true := hauth
                rw [AuthCache.isCacheValid] at hvalid
                dsimp only at hvalid
                cases hagain : (cl.cache.getCache P ioValid st₁).2 with
                | none =>
                    rw [hagain] at hvalid
                    contradiction
                | some cache' =>
                    rw [hagain] at hvalid
                    exact lt_of_isCacheValidDict
                      (hget _ (AuthCache.currentTs_of_getCache _ hagain)) hvalid
              · exact ⟨trivial, hget, by simp [Reply.Authorises], by simp⟩

end PyAuth.Client
