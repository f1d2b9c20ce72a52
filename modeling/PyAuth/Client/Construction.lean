import PyAuth.Client.CacheSpec

/-!
# What a construction leaves on the disk

Building a client may persist a device id.  The row of the product then
carries that id and is otherwise unchanged; in particular neither its
timestamp nor its heartbeat count is touched.
-/

namespace PyAuth.Client

open Support

variable {β : Type} {P : Primitives β} {st : Storage β}

/-! ## Persisting a device id -/

/-- The root that can be read after `persist_device_id`. -/
def rootAfterPersist (softwareName deviceId : String) (io : PersistEnv)
    (root : Option Root) : Option Root :=
  match io.write with
  | .done =>
      some (persistRoot softwareName deviceId
        ((if io.read.read then root else none).getD .empty))
  | .refused => root
  | .torn _ => none

theorem stateRoot_persistDeviceId {serverUrl softwareName deviceId : String}
    {io : PersistEnv} :
    stateRoot P serverUrl
        (persistDeviceId P serverUrl softwareName deviceId io st).1 =
      rootAfterPersist softwareName deviceId io
        (stateRoot P serverUrl st) := by
  simp only [persistDeviceId, rootAfterPersist, readStateDict_snd]
  cases io.write with
  | done => simp [persistRoot]
  | refused => simp
  | torn kept => simp

/-- The row written by `persist_device_id` is the one that was read, with the
new id. -/
theorem rowOf_persistRoot (c : AuthCache) (deviceId : String)
    (root : Option Root) :
    c.rowOf (some (persistRoot c.softwareName deviceId (root.getD .empty))) =
      if IsProductKey c.softwareName then
        some (((c.rowOf root).getD .empty).set "device_id" (.str deviceId))
      else none := by
  have hname : ((c.rowOf root).getD .empty).get "software_name" = none := by
    rw [← AuthCache.ownRow_getD]
    exact ownRow_get_software_name _ _
  exact AuthCache.rowOf_updateRow _ []
    (f := fun sub => sub.set "device_id" (.str deviceId))
    (by simp) (by simp [Dict.get_set, hname]) (by simp)

/-- The timestamp of a row, if any, outlives `persist_device_id`; none
appears. -/
theorem ts_rootAfterPersist {c : AuthCache} {deviceId : String}
    {io : PersistEnv} {root : Option Root} :
    (c.rowOf (rootAfterPersist c.softwareName deviceId io root)).bind
        rowLastSuccessTs = none ∨
      (c.rowOf (rootAfterPersist c.softwareName deviceId io root)).bind
        rowLastSuccessTs = (c.rowOf root).bind rowLastSuccessTs := by
  rw [rootAfterPersist]
  cases io.write with
  | refused => exact Or.inr rfl
  | torn kept => exact Or.inl rfl
  | done =>
      dsimp only
      rw [rowOf_persistRoot]
      split
      · have hset : ∀ row : Row,
            rowLastSuccessTs (row.set "device_id" (.str deviceId)) =
              rowLastSuccessTs row := by
          intro row
          simp [rowLastSuccessTs, Dict.get_set]
        rw [Option.bind_some, hset]
        cases io.read.read with
        | false => exact Or.inl rfl
        | true =>
            right
            rw [if_pos rfl]
            cases c.rowOf root <;> rfl
      · exact Or.inl rfl

/-! ## The constructor -/

/-- A new client either uses the stored device id, and leaves the state as it
is, or persists the id it was given or derived. -/
theorem resolveDeviceId_spec {config : ClientConfig} {io : ConstructEnv}
    {st' : Storage β} {id : String}
    (h : resolveDeviceId P config io st = (st', id)) :
    (config.deviceId ≠ "" → id = config.deviceId) ∧
      (stateRoot P config.stateUrl st' = stateRoot P config.stateUrl st ∨
        stateRoot P config.stateUrl st' =
          rootAfterPersist config.softwareName id io.persist
            (stateRoot P config.stateUrl st)) := by
  by_cases hid : config.deviceId = ""
  · refine ⟨fun hne => (hne hid).elim, ?_⟩
    have hload : stateRoot P config.stateUrl
        (loadPersistedDeviceId P config.stateUrl config.softwareName io.load
          st).1 = stateRoot P config.stateUrl st := by
      simp [loadPersistedDeviceId]
    simp only [resolveDeviceId, buildDeviceId, hid, ne_eq, not_true_eq_false,
      if_false] at h
    cases hpid : (loadPersistedDeviceId P config.stateUrl config.softwareName
        io.load st).2 with
    | some id' =>
        simp only [hpid, Prod.mk.injEq] at h
        obtain ⟨rfl, rfl⟩ := h
        exact Or.inl hload
    | none =>
        simp only [hpid, Prod.mk.injEq] at h
        obtain ⟨rfl, rfl⟩ := h
        right
        rw [stateRoot_persistDeviceId, hload]
  · simp only [resolveDeviceId, buildDeviceId, hid, ne_eq, not_false_eq_true,
      if_true, Prod.mk.injEq] at h
    obtain ⟨rfl, rfl⟩ := h
    exact ⟨fun _ => rfl, Or.inr stateRoot_persistDeviceId⟩

theorem stateRoot_initialDeviceInfo {config : ClientConfig} {c : AuthCache}
    {io : ReadEnv} :
    stateRoot P c.serverUrl (initialDeviceInfo P config c io st).1 =
      stateRoot P c.serverUrl st := by
  have hload : stateRoot P c.serverUrl
      (c.loadDeviceInfoSnapshot P io st).1 = stateRoot P c.serverUrl st := by
    simp [AuthCache.loadDeviceInfoSnapshot, AuthCache.readRow]
  rw [initialDeviceInfo]
  cases config.deviceInfo with
  | some info => rfl
  | none =>
      dsimp only
      split
      · split <;> exact hload
      · exact hload

/-- A construction leaves the state as it is, or with a device id persisted;
also when it raises in the end. -/
theorem stateRoot_newAuthClient (config : ClientConfig) (io : ConstructEnv)
    (st : Storage β) :
    ∃ id, (config.deviceId ≠ "" → id = config.deviceId) ∧
      (∀ cl, (newAuthClient P config io st).2 = some cl →
        cl.cache = ⟨config.stateUrl, config.softwareName, id,
          config.cacheValidityDays⟩) ∧
      (stateRoot P config.stateUrl (newAuthClient P config io st).1 =
          stateRoot P config.stateUrl st ∨
        stateRoot P config.stateUrl (newAuthClient P config io st).1 =
          rootAfterPersist config.softwareName id io.persist
            (stateRoot P config.stateUrl st)) := by
  rcases hres : resolveDeviceId P config io st with ⟨st₁, id⟩
  obtain ⟨hid, hroot⟩ := resolveDeviceId_spec hres
  rw [newAuthClient, hres]
  refine ⟨id, hid, ?_⟩
  by_cases hsecret : config.clientSecret = ""
  · simp only [hsecret, if_true]
    exact ⟨by simp, hroot⟩
  · simp only [hsecret, if_false, Option.some.injEq]
    rw [stateRoot_initialDeviceInfo (c := ⟨config.stateUrl,
      config.softwareName, id, config.cacheValidityDays⟩)]
    exact ⟨fun cl hcl => by rw [← hcl], hroot⟩

/-- The settings of a new client. -/
theorem cache_newAuthClient {config : ClientConfig} {io : ConstructEnv}
    {cl : AuthClient} (h : (newAuthClient P config io st).2 = some cl) :
    cl.cache = ⟨config.stateUrl, config.softwareName, cl.cache.deviceId,
        config.cacheValidityDays⟩ ∧
      (config.deviceId ≠ "" → cl.cache.deviceId = config.deviceId) := by
  obtain ⟨id, hid, hcache, -⟩ := stateRoot_newAuthClient (P := P) config io st
  rw [hcache cl h]
  exact ⟨rfl, hid⟩

/-- A construction never makes a timestamp appear. -/
theorem currentTs_newAuthClient {config : ClientConfig} {c : AuthCache}
    (io : ConstructEnv) (st : Storage β) (hurl : c.serverUrl = config.stateUrl)
    (hname : c.softwareName = config.softwareName) :
    c.currentTs P (newAuthClient P config io st).1 = none ∨
      c.currentTs P (newAuthClient P config io st).1 = c.currentTs P st := by
  obtain ⟨_, -, -, hroot⟩ := stateRoot_newAuthClient (P := P) config io st
  rw [AuthCache.currentTs, AuthCache.currentTs, AuthCache.currentRow,
    AuthCache.currentRow, hurl]
  rcases hroot with hroot | hroot
  · exact Or.inr (by rw [hroot])
  · rw [hroot, ← hname]
    exact ts_rootAfterPersist

end PyAuth.Client
