import PyAuth.Client.Counter
import PyAuth.Client.DiskFailure
import PyAuth.Client.Returns
import PyAuth.Support.Run

/-!
# The device id across restarts

A construction without a device id takes the one in the row of the product,
and every other operation of the SDK puts the id of its own client there.  The
row is read through a reader which trims, while an explicit id is written as
it is given: among trimmed ids, what a new client gets is what was put there
last.
-/

namespace PyAuth.Client

open Support

/-! ## Device ids -/

/-- A device id which is read back as it was written. -/
def IsDeviceId (id : String) : Prop := Python.strip id = id ∧ id ≠ ""

/-- The digits of `hashlib.sha256(s).hexdigest()`. -/
def isHexDigit (c : Char) : Bool :=
  let n := c.toNat
  (48 ≤ n && n ≤ 57) || (97 ≤ n && n ≤ 102)

/-- What `hashlib.sha256(s).hexdigest()` looks like. -/
def IsHexDigest (s : String) : Prop :=
  s.toList.length = 64 ∧ s.toList.all isHexDigit = true

instance (s : String) : Decidable (IsHexDigest s) :=
  inferInstanceAs (Decidable (_ ∧ _))

theorem rowDeviceIdStr_of_get {row : Row} {id : String} (hid : IsDeviceId id)
    (h : row.get "device_id" = some (.str id)) :
    rowDeviceIdStr row = some id := by
  rw [rowDeviceIdStr, h]
  simp [hid.1, hid.2]

theorem isDeviceId_of_rowDeviceIdStr {row : Row} {id : String}
    (h : rowDeviceIdStr row = some id) : IsDeviceId id := by
  rw [rowDeviceIdStr] at h
  split at h
  · rw [Option.ite_none_left_eq_some, Option.some.injEq] at h
    obtain ⟨hblank, rfl⟩ := h
    exact ⟨Python.strip_strip _, hblank⟩
  · contradiction

theorem isSpace_of_isHexDigit {c : Char} (h : isHexDigit c = true) :
    Python.isSpace c = false := by
  simp only [isHexDigit, Bool.or_eq_true, Bool.and_eq_true,
    decide_eq_true_eq] at h
  simp only [Python.isSpace, Bool.or_eq_false_iff, Bool.and_eq_false_iff,
    decide_eq_false_iff_not, beq_eq_false_iff_ne]
  omega

theorem IsHexDigest.isDeviceId {s : String} (h : IsHexDigest s) :
    IsDeviceId (String.ofList (s.toList.take 32)) := by
  refine ⟨Support.strip_eq_self fun c hc => isSpace_of_isHexDigit
    (List.all_eq_true.mp h.2 c (List.mem_of_mem_take hc)), ?_⟩
  intro hblank
  have hlength := congrArg (fun s : String => s.toList.length) hblank
  simp [h.1] at hlength

/-- The id derived from the hardware is one. -/
theorem isDeviceId_hardwareDeviceId {β : Type} {P : Primitives β}
    {softwareName : String} (hhex : ∀ s, IsHexDigest (P.hexdigest s))
    (hname : softwareName ≠ "") (hardware : List (Option String))
    (uuid4 : String) :
    IsDeviceId (hardwareDeviceId P softwareName hardware uuid4) := by
  rw [hardwareDeviceId]
  split
  next hempty =>
    simp [List.filterMap_append, hname] at hempty
  next => exact (hhex _).isDeviceId

/-! ## The stored id -/

/-- The id which a construction would load. -/
def storedDeviceId {β : Type} (P : Primitives β)
    (serverUrl softwareName : String) (st : Storage β) : Option String :=
  persistedDeviceId softwareName (stateRoot P serverUrl st)

variable {β : Type} {P : Primitives β} {st : Storage β}

theorem AuthCache.storedDeviceId_eq (c : AuthCache) :
    storedDeviceId P c.serverUrl c.softwareName st =
      (c.currentRow P st).bind rowDeviceIdStr := by
  rw [storedDeviceId, persistedDeviceId, currentRow, rowOf_eq]
  cases stateRoot P c.serverUrl st with
  | none => rfl
  | some d =>
      simp only [Option.bind_some]
      cases (loadAppsMap d).get c.softwareName with
      | none => rfl
      | some row =>
          cases hrow : row.isEmpty with
          | false => simp [Option.filter, hrow]
          | true =>
              have hempty : rowDeviceIdStr row = none := by
                rw [Dict.isEmpty_iff.mp hrow]
                rfl
              simp [Option.filter, hrow, hempty]

/-- The id which a row with this member holds. -/
theorem AuthCache.storedDeviceId_of_row {c : AuthCache} {row : Row}
    {id : String} (hid : IsDeviceId id) (hrow : c.currentRow P st = some row)
    (hget : row.get "device_id" = some (.str id)) :
    storedDeviceId P c.serverUrl c.softwareName st = some id := by
  rw [c.storedDeviceId_eq, hrow, Option.bind_some]
  exact rowDeviceIdStr_of_get hid hget

/-! ## A construction -/

/-- A construction whose file operations succeed; its device id, if any, is
trimmed. -/
structure ClientConfig.Regular (config : ClientConfig) (io : ConstructEnv) :
    Prop where
  trimmed : Python.strip config.deviceId = config.deviceId
  load : io.load = .success
  persist : io.persist = .success

theorem storedDeviceId_persistDeviceId {serverUrl softwareName id : String}
    (hname : IsProductKey softwareName) (hid : IsDeviceId id) :
    storedDeviceId P serverUrl softwareName
        (persistDeviceId P serverUrl softwareName id .success st).1 =
      some id := by
  rw [storedDeviceId, stateRoot_persistDeviceId]
  simp only [rootAfterPersist, PersistEnv.success, persistRoot,
    persistedDeviceId, Option.bind_some]
  rw [loadAppsMap_erase (by decide), get_loadAppsMap_updateRow_self,
    if_pos hname, Option.bind_some]
  apply rowDeviceIdStr_of_get hid
  simp [Dict.get_erase]

/-- **What a construction does with the device id.**  Its id, whether given,
loaded or derived, is the stored one afterwards; without an explicit id it is
the one which was stored before, if any. -/
theorem resolveDeviceId_stored (hhex : ∀ s, IsHexDigest (P.hexdigest s))
    {config : ClientConfig} {io : ConstructEnv}
    (hname : IsProductKey config.softwareName) (hregular : config.Regular io)
    (st : Storage β) :
    IsDeviceId (resolveDeviceId P config io st).2 ∧
      storedDeviceId P config.stateUrl config.softwareName
          (resolveDeviceId P config io st).1 =
        some (resolveDeviceId P config io st).2 ∧
      (config.deviceId = "" → ∀ d,
        storedDeviceId P config.stateUrl config.softwareName st = some d →
          (resolveDeviceId P config io st).2 = d) := by
  obtain ⟨htrim, hload, hpersist⟩ := hregular
  rcases h : resolveDeviceId P config io st with ⟨st', id⟩
  dsimp only
  have hkeep : ∀ io' : ReadEnv, stateRoot P config.stateUrl
      (loadPersistedDeviceId P config.stateUrl config.softwareName io'
        st).1 = stateRoot P config.stateUrl st := by
    intro io'
    simp [loadPersistedDeviceId]
  by_cases hid : config.deviceId = ""
  · have hloaded : (loadPersistedDeviceId P config.stateUrl
        config.softwareName io.load st).2 =
          storedDeviceId P config.stateUrl config.softwareName st := by
      rw [hload]
      rfl
    simp only [resolveDeviceId, buildDeviceId, hid, ne_eq,
      not_true_eq_false, if_false, hloaded, hpersist] at h
    cases hbefore : storedDeviceId P config.stateUrl config.softwareName
        st with
    | some d =>
        have hd : IsDeviceId d := by
          obtain ⟨row, -, hrow⟩ := Option.bind_eq_some_iff.mp hbefore
          exact isDeviceId_of_rowDeviceIdStr hrow
        simp only [hbefore, hd.1, Prod.mk.injEq] at h
        obtain ⟨rfl, rfl⟩ := h
        refine ⟨hd, ?_, fun _ d' hd' => Option.some.inj hd'⟩
        rw [storedDeviceId, hkeep]
        exact hbefore
    | none =>
        simp only [hbefore, Prod.mk.injEq] at h
        obtain ⟨rfl, rfl⟩ := h
        have hnew := isDeviceId_hardwareDeviceId hhex hname.2.2 io.hardware
          io.uuid4
        exact ⟨hnew, storedDeviceId_persistDeviceId hname hnew,
          fun _ d hd => (Option.some_ne_none d hd.symm).elim⟩
  · simp only [resolveDeviceId, buildDeviceId, hid, ne_eq,
      not_false_eq_true, if_true, hpersist, Prod.mk.injEq] at h
    obtain ⟨rfl, rfl⟩ := h
    exact ⟨⟨htrim, hid⟩, storedDeviceId_persistDeviceId hname ⟨htrim, hid⟩,
      fun hnone => (hid hnone).elim⟩

/-! ## The operations of the cache -/

section Cache

variable {c : AuthCache}

theorem storedDeviceId_saveCache {authorized : Bool} {hb snap : Json} {now : ℚ}
    (hname : IsProductKey c.softwareName) (hid : IsDeviceId c.deviceId) :
    storedDeviceId P c.serverUrl c.softwareName
        (c.saveCache P authorized .null hb snap (.success now) st).1 =
      some c.deviceId :=
  AuthCache.storedDeviceId_of_row hid
    ((AuthCache.currentRow_saveCache_success
      AuthCache.currentRow_software_name).trans (if_pos hname))
    AuthCache.get_savedRow_device_id

/-- Where there is a row, `clear_cache` keeps the file and puts the id into
the row. -/
theorem storedDeviceId_clearCache (hname : IsProductKey c.softwareName)
    (hid : IsDeviceId c.deviceId)
    (hsome : (storedDeviceId P c.serverUrl c.softwareName st).isSome = true) :
    storedDeviceId P c.serverUrl c.softwareName
        (c.clearCache P .success st).1 = some c.deviceId := by
  have hdev : Python.strip c.deviceId ≠ "" := by
    rw [hid.1]
    exact hid.2
  obtain ⟨d, hroot, hd⟩ : ∃ d, stateRoot P c.serverUrl st = some d ∧
      d.isEmpty = false := by
    rw [storedDeviceId, persistedDeviceId] at hsome
    cases hroot : stateRoot P c.serverUrl st with
    | none => simp [hroot] at hsome
    | some d =>
        refine ⟨d, rfl, Bool.eq_false_iff.mpr fun hempty => ?_⟩
        rw [hroot, Dict.isEmpty_iff.mp hempty] at hsome
        contradiction
  have hafter : stateRoot P c.serverUrl (c.clearCache P .success st).1 =
      some ((c.clearRoot d).erase "device_id") := by
    rw [(clearCache_spec c .success st).1, hroot, AuthCache.clearOutcome]
    simp [ClearEnv.success, ReadEnv.success, BundleEnv.success,
      BundleEnv.Completes, hd, anyAppDevice_clearApps hdev]
  have hnow : c.currentRow P (c.clearCache P .success st).1 =
      some (c.clearedRow ((c.rowOf (some d)).getD .empty)) := by
    rw [AuthCache.currentRow, hafter, AuthCache.rowOf_clearRoot, if_pos hname]
  apply AuthCache.storedDeviceId_of_row hid hnow
  rw [AuthCache.get_clearedRow, if_pos rfl]

/-- The reads leave the id as it is. -/
theorem storedDeviceId_of_currentRow {st' : Storage β}
    (h : c.currentRow P st' = c.currentRow P st) :
    storedDeviceId P c.serverUrl c.softwareName st' =
      storedDeviceId P c.serverUrl c.softwareName st := by
  rw [c.storedDeviceId_eq, c.storedDeviceId_eq, h]

end Cache

/-! ## One call -/

instance (c : AuthCache) (io : SnapshotEnv) :
    Decidable (c.Repairs P io st) :=
  match hrow : (c.readRow P io.read st).2 with
  | none => isFalse fun ⟨row, h, _⟩ => by simp [hrow] at h
  | some row =>
      match hn : AuthCache.storedCount row with
      | .error e =>
          decidable_of_iff (rowLastSuccessTs row ≠ none ∧ e ≠ .overflowError)
            (by simp [AuthCache.Repairs, hrow, hn])
      | .ok n =>
          decidable_of_iff (rowLastSuccessTs row ≠ none ∧ n < 1)
            (by simp [AuthCache.Repairs, hrow, hn])

/-- The call puts the id of its client into the row: it repairs the row, has a
heartbeat answered, or clears the cache. -/
def AuthClient.Stores (P : Primitives β) (cl : AuthClient) (st : Storage β) :
    Call → Prop
  | .check _ online _ =>
      cl.cache.Repairs P .success st ∨ online.toResult.success = true
  | .progressive _ light _ full _ _ =>
      cl.cache.Repairs P .success st ∨ light.toResult.success = true ∨
        full.toResult.success = true
  | .clear => True
  | .softLaunch _ => False

instance (cl : AuthClient) (call : Call) : Decidable (cl.Stores P st call) :=
  match call with
  | .check _ _ _ => inferInstanceAs (Decidable (_ ∨ _))
  | .progressive _ _ _ _ _ _ => inferInstanceAs (Decidable (_ ∨ _ ∨ _))
  | .clear => inferInstanceAs (Decidable True)
  | .softLaunch _ => inferInstanceAs (Decidable False)

section Calls

variable {cl : AuthClient}

theorem storedDeviceId_checkSnapshot
    (hname : IsProductKey cl.cache.softwareName)
    (hid : IsDeviceId cl.cache.deviceId)
    (hsome : (storedDeviceId P cl.cache.serverUrl cl.cache.softwareName
      st).isSome = true) :
    storedDeviceId P cl.cache.serverUrl cl.cache.softwareName
        (cl.checkSnapshot P .success st).1 =
      if cl.cache.Repairs P .success st then some cl.cache.deviceId
      else storedDeviceId P cl.cache.serverUrl cl.cache.softwareName st := by
  have hread : storedDeviceId P cl.cache.serverUrl cl.cache.softwareName
      (cl.cache.readRow P .success st).1 =
        storedDeviceId P cl.cache.serverUrl cl.cache.softwareName st :=
    storedDeviceId_of_currentRow (AuthCache.currentRow_readRow _)
  obtain ⟨hclear, hkeep⟩ := AuthCache.snapshotAuthRow_fst (P := P)
    (c := cl.cache) .success st
  rw [cl.checkSnapshot_fst]
  split
  next hrepairs =>
    rw [hclear hrepairs]
    rw [← hread] at hsome
    exact storedDeviceId_clearCache hname hid hsome
  next hrepairs =>
    rw [hkeep hrepairs]
    exact hread

theorem storedDeviceId_onlineOrCached
    (hname : IsProductKey cl.cache.softwareName)
    (hid : IsDeviceId cl.cache.deviceId) (times : ℤ) (cached : Option CacheData)
    (online : Online) (saveAt : ℚ) :
    storedDeviceId P cl.cache.serverUrl cl.cache.softwareName
        (cl.onlineOrCached P times cached online (.success saveAt)
          st).storage =
      if online.toResult.success = true then some cl.cache.deviceId
      else storedDeviceId P cl.cache.serverUrl cl.cache.softwareName st := by
  have hcache := (cl.checkOnline_spec times online).1
  rw [AuthClient.onlineOrCached]
  simp only [cl.checkOnline_result]
  split
  · rw [writeCheckCacheRetries_success, ← hcache]
    rw [← hcache] at hname hid
    exact storedDeviceId_saveCache hname hid
  · cases cached <;> rfl

theorem storedDeviceId_completeLight
    (hname : IsProductKey cl.cache.softwareName)
    (hid : IsDeviceId cl.cache.deviceId) (times : ℤ) {io : ProgressiveEnv}
    {saveAt : ℚ} (hsave : io.saveFull = .success saveAt) :
    storedDeviceId P cl.cache.serverUrl cl.cache.softwareName
        (cl.completeLight P times io st).storage =
      if io.full.toResult.success = true then some cl.cache.deviceId
      else storedDeviceId P cl.cache.serverUrl cl.cache.softwareName st := by
  have hcache := (cl.checkOnline_spec times io.full).1
  rw [AuthClient.completeLight, hsave]
  simp only [cl.checkOnline_result]
  split
  · rw [writeCheckCacheRetries_success, ← hcache]
    rw [← hcache] at hname hid
    exact storedDeviceId_saveCache hname hid
  · have hread : storedDeviceId P cl.cache.serverUrl cl.cache.softwareName
        (cl.cache.getCache P io.retest st).1 =
          storedDeviceId P cl.cache.serverUrl cl.cache.softwareName st :=
      storedDeviceId_of_currentRow (AuthCache.currentRow_getCache _)
    rw [hcache]
    rcases hget : cl.cache.getCache P io.retest st with ⟨st₁, _ | cache⟩
    · rw [hget] at hread
      exact hread
    · rw [hget] at hread
      have hretest : storedDeviceId P cl.cache.serverUrl
          cl.cache.softwareName
          (cl.cache.isCacheValid P io.retestValid io.retestAt st₁).1 =
            storedDeviceId P cl.cache.serverUrl cl.cache.softwareName st₁ :=
        storedDeviceId_of_currentRow (AuthCache.currentRow_isCacheValid _ _)
      dsimp only
      split
      · exact hretest.trans hread
      · exact hretest.trans hread

/-- **What one call does with the device id.** -/
theorem storedDeviceId_perform (hname : IsProductKey cl.cache.softwareName)
    (hid : IsDeviceId cl.cache.deviceId)
    (hsome : (storedDeviceId P cl.cache.serverUrl cl.cache.softwareName
      st).isSome = true) (call : Call) :
    storedDeviceId P cl.cache.serverUrl cl.cache.softwareName
        (call.perform P cl st).storage =
      if cl.Stores P st call then some cl.cache.deviceId
      else storedDeviceId P cl.cache.serverUrl cl.cache.softwareName st := by
  have hsnapshot := storedDeviceId_checkSnapshot hname hid hsome
  cases call with
  | check testAt online saveAt =>
      change storedDeviceId P _ _ (cl.checkAuthorization P
        (.success testAt online saveAt) st).storage = _
      rw [AuthClient.checkAuthorization]
      dsimp only [CheckEnv.success]
      rw [storedDeviceId_onlineOrCached hname hid, hsnapshot]
      simp only [AuthClient.Stores]
      by_cases honline : online.toResult.success = true <;> simp [honline]
  | progressive testAt light saveLightAt full saveFullAt retestAt =>
      change storedDeviceId P _ _ (cl.checkAuthorizationProgressive P
        (.success testAt light saveLightAt full saveFullAt retestAt)
        st).storage = _
      rw [AuthClient.checkAuthorizationProgressive]
      simp only [ProgressiveEnv.success, AuthClient.checkOnlineFast,
        AuthClient.Stores]
      cases light with
      | failed message =>
          simp only [Answer.toResult, Bool.false_eq_true, if_false, false_or]
          rw [storedDeviceId_onlineOrCached hname hid, hsnapshot]
          by_cases hfull : full.toResult.success = true <;> simp [hfull]
      | answered authorized message =>
          simp only [Answer.toResult, if_true, true_or, or_true,
            writeCheckCacheRetries_success]
          cases authorized with
          | false => exact storedDeviceId_saveCache hname hid
          | true =>
              simp only [if_true]
              rw [storedDeviceId_completeLight hname hid _ rfl,
                storedDeviceId_saveCache hname hid, ite_self]
  | clear =>
      exact storedDeviceId_clearCache hname hid hsome
  | softLaunch testAt =>
      have hread : storedDeviceId P cl.cache.serverUrl cl.cache.softwareName
          (cl.cache.getCache P .success st).1 =
            storedDeviceId P cl.cache.serverUrl cl.cache.softwareName st :=
        storedDeviceId_of_currentRow (AuthCache.currentRow_getCache _)
      simp only [Call.perform, AuthClient.canSoftLaunch, AuthClient.Stores]
      rcases hget : cl.cache.getCache P .success st with ⟨st₁, _ | cache⟩
      · rw [hget] at hread
        exact hread
      · rw [hget] at hread
        dsimp only
        split
        · exact (storedDeviceId_of_currentRow
            (AuthCache.currentRow_isCacheValid _ _)).trans hread
        · exact hread

theorem cache_onlineOrCached (times : ℤ) (cached : Option CacheData)
    (online : Online) (save : Attempts) :
    (cl.onlineOrCached P times cached online save st).client.cache =
      cl.cache := by
  have hcache := (cl.checkOnline_spec times online).1
  rw [AuthClient.onlineOrCached]
  dsimp only
  split
  · exact hcache
  · cases cached <;> exact hcache

theorem cache_completeLight (times : ℤ) (io : ProgressiveEnv) :
    (cl.completeLight P times io st).client.cache = cl.cache := by
  have hcache := (cl.checkOnline_spec times io.full).1
  rw [AuthClient.completeLight]
  dsimp only
  split
  · exact hcache
  · rcases (cl.checkOnline times io.full).1.cache.getCache P io.retest st with
      ⟨st₁, _ | cache⟩
    · exact hcache
    · dsimp only
      split <;> exact hcache

/-- A client keeps its settings. -/
theorem cache_perform (cl : AuthClient) (st : Storage β) (call : Call) :
    (call.perform P cl st).client.cache = cl.cache := by
  cases call with
  | check testAt online saveAt => exact cache_onlineOrCached _ _ _ _
  | progressive testAt light saveLightAt full saveFullAt retestAt =>
      change (cl.checkAuthorizationProgressive P _ st).client.cache = _
      rw [AuthClient.checkAuthorizationProgressive]
      cases light with
      | failed message => exact cache_onlineOrCached _ _ _ _
      | answered authorized message =>
          cases authorized with
          | false => rfl
          | true => exact cache_completeLight _ _
  | clear => rfl
  | softLaunch testAt => rfl

end Calls

/-! ## Whole runs -/

theorem newAuthClient_stored (hhex : ∀ s, IsHexDigest (P.hexdigest s))
    {config : ClientConfig} {io : ConstructEnv}
    (hname : IsProductKey config.softwareName) (h : config.Regular io)
    (st : Storage β) :
    IsDeviceId (resolveDeviceId P config io st).2 ∧
      storedDeviceId P config.stateUrl config.softwareName
        (newAuthClient P config io st).1 =
          some (resolveDeviceId P config io st).2 ∧
      ∀ cl, (newAuthClient P config io st).2 = some cl →
        cl.cache = ⟨config.stateUrl, config.softwareName,
          (resolveDeviceId P config io st).2, config.cacheValidityDays⟩ := by
  obtain ⟨hid, hstored, -⟩ := resolveDeviceId_stored hhex hname h st
  refine ⟨hid, ?_⟩
  rcases hres : resolveDeviceId P config io st with ⟨st', id⟩
  rw [hres] at hstored
  rw [newAuthClient, hres]
  by_cases hsecret : config.clientSecret = ""
  · simp only [hsecret, if_true]
    exact ⟨hstored, by simp⟩
  · simp only [hsecret, if_false, Option.some.injEq]
    refine ⟨?_, fun cl hcl => by rw [← hcl]⟩
    rw [storedDeviceId, stateRoot_initialDeviceInfo (c := ⟨config.stateUrl,
      config.softwareName, id, config.cacheValidityDays⟩)]
    exact hstored

def FleetStep.Regular : FleetStep → Prop
  | .construct config io => config.Regular io
  | .call _ _ => True

namespace Fleet

variable {serverUrl softwareName : String} {w : Fleet β}

/-- The device id which a step leaves in the row of the product: that of the
client it constructs, or of the client whose call stores. -/
def left (P : Primitives β) (w : Fleet β) : FleetStep → Option String
  | .construct config io => some (resolveDeviceId P config io w.storage).2
  | .call i call =>
      match w.clients[i]? with
      | none => none
      | some cl =>
          if cl.Stores P w.storage call then some cl.cache.deviceId else none

/-- The clients of a fleet have device ids, and so has their row. -/
structure Identified (P : Primitives β) (serverUrl softwareName : String)
    (w : Fleet β) : Prop where
  product : ∀ cl ∈ w.clients,
    cl.cache.serverUrl = serverUrl ∧ cl.cache.softwareName = softwareName
  deviceId : ∀ cl ∈ w.clients, IsDeviceId cl.cache.deviceId
  stored : w.clients ≠ [] →
    (storedDeviceId P serverUrl softwareName w.storage).isSome = true

theorem Identified.construct (hhex : ∀ s, IsHexDigest (P.hexdigest s))
    (hname : IsProductKey softwareName)
    (hw : w.Identified P serverUrl softwareName) {config : ClientConfig}
    {io : ConstructEnv} (hstays : config.stateUrl = serverUrl ∧
      config.softwareName = softwareName) (h : config.Regular io) :
    (w.step P (.construct config io)).Identified P serverUrl softwareName ∧
      storedDeviceId P serverUrl softwareName
          (w.step P (.construct config io)).storage =
        some (resolveDeviceId P config io w.storage).2 := by
  obtain ⟨rfl, rfl⟩ := hstays
  obtain ⟨hid, hstored, hbuilt⟩ :=
    newAuthClient_stored hhex hname h w.storage
  rcases hconstruct : newAuthClient P config io w.storage with ⟨st, built⟩
  rw [hconstruct] at hstored hbuilt
  cases built with
  | none =>
      simp only [step, hconstruct]
      refine ⟨⟨hw.product, hw.deviceId, fun _ => ?_⟩, hstored⟩
      simp only [hstored, Option.isSome_some]
  | some cl =>
      have hcache := hbuilt cl rfl
      simp only [step, hconstruct]
      refine ⟨⟨?_, ?_, fun _ => ?_⟩, hstored⟩
      · intro cl' hmem
        rcases List.mem_append.mp hmem with hmem | hmem
        · exact hw.product cl' hmem
        · rw [List.mem_singleton.mp hmem, hcache]
          exact ⟨rfl, rfl⟩
      · intro cl' hmem
        rcases List.mem_append.mp hmem with hmem | hmem
        · exact hw.deviceId cl' hmem
        · rw [List.mem_singleton.mp hmem, hcache]
          exact hid
      · simp only [hstored, Option.isSome_some]

theorem Identified.call (hname : IsProductKey softwareName)
    (hw : w.Identified P serverUrl softwareName) (i : ℕ) (call : Call) :
    (w.step P (.call i call)).Identified P serverUrl softwareName ∧
      storedDeviceId P serverUrl softwareName
          (w.step P (.call i call)).storage =
        (w.left P (.call i call)).or
          (storedDeviceId P serverUrl softwareName w.storage) := by
  cases hi : w.clients[i]? with
  | none =>
      simp only [step, left, hi]
      exact ⟨hw, rfl⟩
  | some cl =>
      have hmem : cl ∈ w.clients := List.mem_of_getElem? hi
      obtain ⟨rfl, rfl⟩ := hw.product cl hmem
      have hcache := cache_perform (P := P) cl w.storage call
      have hstored := storedDeviceId_perform hname (hw.deviceId cl hmem)
        (hw.stored (List.ne_nil_of_mem hmem)) call
      have hsome : (storedDeviceId P cl.cache.serverUrl cl.cache.softwareName
          (call.perform P cl w.storage).storage).isSome = true := by
        rw [hstored]
        split
        · rfl
        · exact hw.stored (List.ne_nil_of_mem hmem)
      simp only [step, left, hi]
      refine ⟨⟨?_, ?_, fun _ => hsome⟩, ?_⟩
      · intro cl' hcl'
        rcases List.mem_or_eq_of_mem_set hcl' with hcl' | rfl
        · exact hw.product cl' hcl'
        · rw [hcache]
          exact ⟨rfl, rfl⟩
      · intro cl' hcl'
        rcases List.mem_or_eq_of_mem_set hcl' with hcl' | rfl
        · exact hw.deviceId cl' hcl'
        · rw [hcache]
          exact hw.deviceId cl hmem
      · rw [hstored]
        split <;> simp

theorem Identified.step (hhex : ∀ s, IsHexDigest (P.hexdigest s))
    (hname : IsProductKey softwareName)
    (hw : w.Identified P serverUrl softwareName) {a : FleetStep}
    (hstays : a.StaysWith serverUrl softwareName) (ha : a.Regular) :
    (w.step P a).Identified P serverUrl softwareName ∧
      storedDeviceId P serverUrl softwareName (w.step P a).storage =
        (w.left P a).or (storedDeviceId P serverUrl softwareName w.storage) := by
  cases a with
  | construct config io => exact hw.construct hhex hname hstays ha
  | call i call => exact hw.call hname i call

theorem identified_statesAt (hhex : ∀ s, IsHexDigest (P.hexdigest s))
    (hname : IsProductKey softwareName) (st : Storage β)
    {steps : ℕ → FleetStep} {k : ℕ}
    (hsteps : ∀ j < k, (steps j).StaysWith serverUrl softwareName ∧
      (steps j).Regular) :
    (statesAt (Fleet.step P) steps ⟨[], st, []⟩ k).Identified P serverUrl
      softwareName := by
  induction k with
  | zero => exact ⟨by simp [statesAt], by simp [statesAt], by simp [statesAt]⟩
  | succ k ih =>
      obtain ⟨hstays, hregular⟩ := hsteps k (Nat.lt_succ_self k)
      exact ((ih fun j hj => hsteps j (Nat.lt_succ_of_lt hj)).step hhex hname
        hstays hregular).1

end Fleet

/-- **The device id left last.**  In a run over one storage root whose file
operations succeed and whose explicit device ids are trimmed, a client
constructed without a device id uses the id left in the row last since an
earlier construction: that client's own, unless another one has been left. -/
theorem device_id_left_last (hhex : ∀ s, IsHexDigest (P.hexdigest s))
    {serverUrl softwareName : String} (hname : IsProductKey softwareName)
    (st : Storage β) (steps : ℕ → FleetStep) {w : ℕ → Fleet β}
    (hw : w = statesAt (Fleet.step P) steps ⟨[], st, []⟩) {i k : ℕ}
    (hik : i < k) (hsteps : ∀ j ≤ k,
      (steps j).StaysWith serverUrl softwareName ∧ (steps j).Regular)
    {config₀ config : ClientConfig} {io₀ io : ConstructEnv}
    {cl₀ cl : AuthClient} (hfirst : steps i = .construct config₀ io₀)
    (hcl₀ : (newAuthClient P config₀ io₀ (w i).storage).2 = some cl₀)
    (hlast : steps k = .construct config io) (hnone : config.deviceId = "")
    (hcl : (newAuthClient P config io (w k).storage).2 = some cl) :
    LastWrite (fun j => (w j).left P (steps j)) (i + 1) k
        cl₀.cache.deviceId cl.cache.deviceId ∧
      ((∀ j, i < j → j < k → ∀ id ∈ (w j).left P (steps j),
          id = cl₀.cache.deviceId) →
        cl.cache.deviceId = cl₀.cache.deviceId) := by
  let stored := fun j => storedDeviceId P serverUrl softwareName (w j).storage
  have hident : ∀ j ≤ k, (w j).Identified P serverUrl softwareName := by
    intro j hj
    rw [hw]
    exact Fleet.identified_statesAt hhex hname st fun m hm =>
      hsteps m (by omega)
  have hstep : ∀ j ≤ k,
      stored (j + 1) = ((w j).left P (steps j)).or (stored j) := by
    intro j hj
    obtain ⟨hstays, hregular⟩ := hsteps j hj
    have hnext : w (j + 1) = (w j).step P (steps j) := by
      rw [hw]
      rfl
    simp only [stored, hnext]
    exact ((hident j hj).step hhex hname hstays hregular).2
  obtain ⟨⟨rfl, rfl⟩, hregular₀⟩ := hfirst ▸ hsteps i hik.le
  obtain ⟨⟨hurl, hsoftware⟩, hregular⟩ := hlast ▸ hsteps k le_rfl
  have hid₀ : stored (i + 1) = some cl₀.cache.deviceId := by
    obtain ⟨-, -, hbuilt⟩ :=
      newAuthClient_stored hhex hname hregular₀ (w i).storage
    rw [hstep i hik.le, hfirst, hbuilt cl₀ hcl₀]
    rfl
  obtain ⟨d, hd, hwrite⟩ := LastWrite.of_or_steps (x := stored)
    (Nat.succ_le_of_lt hik) hid₀ fun j _ hj => hstep j hj.le
  have hid : cl.cache.deviceId = d := by
    simp only [stored, ← hurl, ← hsoftware] at hd
    rw [← hsoftware] at hname
    obtain ⟨-, -, hbuilt⟩ :=
      newAuthClient_stored hhex hname hregular (w k).storage
    obtain ⟨-, -, hloaded⟩ :=
      resolveDeviceId_stored hhex hname hregular (w k).storage
    rw [hbuilt cl hcl]
    exact hloaded hnone d hd
  rw [hid]
  exact ⟨hwrite, fun hall => hwrite.eq_initial fun j hij hjk =>
    hall j hij hjk⟩

/-! ## Restarts -/

/-- The digests of the server URL and of the hardware components of
`exampleConstruct`; every other text gets that of the empty one. -/
def exampleHexdigest (s : String) : String :=
  if s = "https://auth.example" then
    "644d89f1ac9a1487c291e0772e4faa7a66f5afdfaba75ccccbc8323489b65ead"
  else if s = "02:42:ac:11:00:02-editor" then
    "50121d61f5860bb53617456a0936b27e2c0b60db33d30994910b4b147c0f8063"
  else "e3b0c44298fc1c149afbf4c8996fb92427ae41e4649b934ca495991b7852b855"

theorem isHexDigest_exampleHexdigest (s : String) :
    IsHexDigest (exampleHexdigest s) := by
  rw [exampleHexdigest]
  split
  · decide +kernel
  · split <;> decide +kernel

def Primitives.hexed : Primitives Symbol :=
  { Primitives.symbolic with hexdigest := exampleHexdigest }

/-- A client with a derived id, and restarts on other hardware. -/
def exampleRestarts : ℕ → FleetStep
  | 0 => .construct (exampleConfig "") exampleConstruct
  | _ => .construct (exampleConfig "") { exampleConstruct with hardware := [] }

theorem exampleRestarts_regular (j : ℕ) :
    (exampleRestarts j).StaysWith "https://auth.example" "editor" ∧
      (exampleRestarts j).Regular := by
  match j with
  | 0 => exact ⟨⟨by decide +kernel, rfl⟩, ⟨by decide, rfl, rfl⟩⟩
  | n + 1 => exact ⟨⟨by decide +kernel, rfl⟩, ⟨by decide, rfl, rfl⟩⟩

theorem device_id_left_last_other_hardware :
    let w := statesAt (Fleet.step .hexed) exampleRestarts ⟨[], .fresh, []⟩
    LastWrite (fun j => (w j).left .hexed (exampleRestarts j)) 1 1
        "50121d61f5860bb53617456a0936b27e"
        "50121d61f5860bb53617456a0936b27e" ∧
      ((∀ j, 0 < j → j < 1 → ∀ id ∈ (w j).left .hexed (exampleRestarts j),
          id = "50121d61f5860bb53617456a0936b27e") →
        "50121d61f5860bb53617456a0936b27e" =
          "50121d61f5860bb53617456a0936b27e") :=
  device_id_left_last isHexDigest_exampleHexdigest
    (by decide : IsProductKey "editor") .fresh exampleRestarts rfl
    (by decide : 0 < 1) (fun j _ => exampleRestarts_regular j) rfl
    (by decide +kernel :
      (newAuthClient .hexed (exampleConfig "") exampleConstruct .fresh).2 =
        some (exampleClient "50121d61f5860bb53617456a0936b27e"))
    rfl rfl
    (by decide +kernel :
      (newAuthClient .hexed (exampleConfig "")
        { exampleConstruct with hardware := [] }
        (newAuthClient .hexed (exampleConfig "") exampleConstruct
          .fresh).1).2 =
        some (exampleClient "50121d61f5860bb53617456a0936b27e"))

/-- The ids of the clients of a run, in the order of their construction. -/
def deviceIds (steps : List FleetStep) : List String :=
  (Fleet.run .symbolic .fresh steps).clients.map (·.cache.deviceId)

/-- A client built without an id gets another one than the client before it:
an older client has stored its own id since, or the explicit id is not
trimmed, or it is blank and a new one is derived. -/
theorem device_id_changes_on_restart :
    deviceIds
        [.construct (exampleConfig "A") exampleConstruct,
          .construct (exampleConfig "B") exampleConstruct,
          .call 0 (answeredCheck true 100),
          .construct (exampleConfig "") exampleConstruct] =
        ["A", "B", "A"] ∧
      deviceIds
        [.construct (exampleConfig " D ") exampleConstruct,
          .construct (exampleConfig "") exampleConstruct] = [" D ", "D"] ∧
      deviceIds
        [.construct (exampleConfig " ") exampleConstruct,
          .construct (exampleConfig "") exampleConstruct] =
        [" ", "02:42:ac:11:00:02-editor"] := by
  refine ⟨by decide +kernel, by decide +kernel, by decide +kernel⟩

end PyAuth.Client
