import PyAuth.Client.Storage

/-!
# The authorisation cache

`AuthCache` keeps one row of the state bundle for one product: the time of the
last authorised heartbeat, the number of heartbeats and a snapshot of the
device information.  The operations on the root are pure functions; around
them stand the reads and writes, each with the disk's answers as an argument.
-/

namespace PyAuth.Client

open Support

structure AuthCache where
  serverUrl : String
  softwareName : String
  deviceId : String
  cacheValidityDays : ℤ
deriving DecidableEq

/-- The dictionary returned by `get_cache`. -/
structure CacheData where
  authorized : Bool
  message : String
  cachedAt : Double
deriving DecidableEq

/-- How the disk answers `_write_bundle_with_retry`.  `unlink` tells whether
the file is removed between the two attempts, which is tried on Windows
only. -/
structure BundleEnv where
  first : WriteOutcome
  unlink : Bool
  second : WriteOutcome
deriving DecidableEq

def BundleEnv.success : BundleEnv := ⟨.done, false, .done⟩

/-- The clock reading and the disk's answers during one `save_cache`. -/
structure SaveEnv where
  now : ℚ
  read : ReadEnv
  write : BundleEnv
deriving DecidableEq

def SaveEnv.success (now : ℚ) : SaveEnv := ⟨now, .success, .success⟩

/-- The disk's answers during one `clear_cache`. -/
structure ClearEnv where
  read : ReadEnv
  write : BundleEnv
  unlink : Bool
deriving DecidableEq

def ClearEnv.success : ClearEnv := ⟨.success, .success, true⟩

/-- The disk's answers during one `_snapshot_auth_row`. -/
structure SnapshotEnv where
  read : ReadEnv
  clear : ClearEnv
deriving DecidableEq

def SnapshotEnv.success : SnapshotEnv := ⟨.success, .success⟩

namespace AuthCache

def cacheValiditySeconds (c : AuthCache) : ℤ := c.cacheValidityDays * 86400

/-! ## Rows -/

/-- `_read_row`, after the bundle was read. -/
def rowOf (c : AuthCache) : Option Root → Option Row
  | none => none
  | some d =>
      if d.isEmpty then none
      else
        match (loadAppsMap d).get c.softwareName with
        | none => none
        | some row => if row.isEmpty then none else some row

/-- `_cache_dict_from_row`. -/
def cacheDictFromRow (row : Option Row) : Option CacheData :=
  (row.bind rowLastSuccessTs).map fun ts => ⟨true, "设备已授权", ts⟩

/-- The heartbeat count `_snapshot_auth_row` reads from a row. -/
def storedCount (row : Row) : Except Python.Error ℤ :=
  match row.get "heartbeat_times" with
  | none | some .null => .ok 0
  | some raw => Python.int raw

/-- `_is_cache_valid_dict` at the clock reading `now`. -/
def isCacheValidDict (c : AuthCache) (now : ℚ) : Option CacheData → Bool
  | none => false
  | some cache =>
      match cache.cachedAt with
      | .fin ca =>
          if ca ≤ 0 then false
          else decide (now - ca < c.cacheValiditySeconds)
      | .inf => true
      | .negInf | .nan => false

/-- The row written by `save_cache`.  A JSON `null` stands for an argument
which was left out. -/
def savedRow (c : AuthCache) (authorized : Bool)
    (ts heartbeatTimes deviceInfoSnapshot : Json) (sub : Row) : Row :=
  if authorized then
    let sub := sub.set "device_id" (.str c.deviceId)
    let sub := sub.set "last_success_at" ts
    let sub :=
      if heartbeatTimes = .null then sub
      else sub.set "heartbeat_times" heartbeatTimes
    match deviceInfoSnapshot.dict? with
    | some snapshot =>
        if snapshot.isEmpty then sub
        else sub.set bundleProductDeviceInfoSnapshotKey deviceInfoSnapshot
    | none => sub
  else
    (sub.eraseAll bundleProductRevokeKeys).set "device_id" (.str c.deviceId)

/-- The row written by `clear_cache`. -/
def clearedRow (c : AuthCache) (sub : Row) : Row :=
  (sub.eraseAll bundleProductRevokeKeys).set "device_id" (.str c.deviceId)

def saveRoot (c : AuthCache) (authorized : Bool)
    (ts heartbeatTimes deviceInfoSnapshot : Json) (d : Root) : Root :=
  updateRow (d.eraseAll bundleRootStrayKeys) c.softwareName
    (c.savedRow authorized ts heartbeatTimes deviceInfoSnapshot)

def clearRoot (c : AuthCache) (d : Root) : Root :=
  updateRow (d.eraseAll bundleRootStrayKeys) c.softwareName c.clearedRow

/-- The rows `clear_cache` looks through for a device id. -/
def clearApps (c : AuthCache) (d : Root) : AppsMap :=
  let d := d.eraseAll bundleRootStrayKeys
  (loadAppsMap d).set c.softwareName
    (c.clearedRow (ownRow d c.softwareName))

def anyAppDevice (apps : AppsMap) : Bool :=
  apps.entries.any fun e => (rowDeviceIdStr e.2).isSome

/-! ## Operations on the disk -/

variable {β : Type} (P : Primitives β) (c : AuthCache)

/-- `_read_row`. -/
def readRow (io : ReadEnv) (st : Storage β) : Storage β × Option Row :=
  let (st, d) := readStateDict P c.serverUrl io st
  (st, c.rowOf d)

/-- `_write_bundle_with_retry`. -/
def writeBundleWithRetry (data : Root) (io : BundleEnv) (st : Storage β) :
    Storage β × Bool :=
  let (st, ok) := writeStateDict P c.serverUrl data io.first st
  if ok then (st, true)
  else
    let st := if io.unlink then st.put (bundlePath P c.serverUrl) none else st
    writeStateDict P c.serverUrl data io.second st

/-- `save_cache`. -/
def saveCache (authorized : Bool)
    (lastSuccessAt heartbeatTimes deviceInfoSnapshot : Json) (io : SaveEnv)
    (st : Storage β) : Storage β × Bool :=
  let ts := if lastSuccessAt = .null then .float (.fin io.now) else lastSuccessAt
  let (st, d) := readStateDict P c.serverUrl io.read st
  c.writeBundleWithRetry P
    (c.saveRoot authorized ts heartbeatTimes deviceInfoSnapshot
      (d.getD .empty)) io.write st

/-- `clear_cache`. -/
def clearCache (io : ClearEnv) (st : Storage β) : Storage β × Bool :=
  let (st, d) := readStateDict P c.serverUrl io.read st
  match d with
  | none => (st, true)
  | some d =>
      if d.isEmpty then (st, true)
      else if anyAppDevice (c.clearApps d) then
        c.writeBundleWithRetry P (c.clearRoot d) io.write st
      else if io.unlink then (st.put (bundlePath P c.serverUrl) none, true)
      else (st, false)

/-- `_snapshot_auth_row`: the cache entry and the stored heartbeat count.  A
row with a timestamp but without a positive count is cleared. -/
def snapshotAuthRow (io : SnapshotEnv) (st : Storage β) :
    Storage β × Except Python.Error (Option CacheData × ℤ) :=
  let (st, row) := c.readRow P io.read st
  match row with
  | none => (st, .ok (none, 0))
  | some row =>
      if rowLastSuccessTs row = none then (st, .ok (none, 0))
      else
        match storedCount row with
        | .error .overflowError => (st, .error .overflowError)
        | .error _ => ((c.clearCache P io.clear st).1, .ok (none, 0))
        | .ok n =>
            if n < 1 then ((c.clearCache P io.clear st).1, .ok (none, 0))
            else (st, .ok (cacheDictFromRow (some row), n))

/-- `get_stored_heartbeat_times`; an exception counts as zero. -/
def getStoredHeartbeatTimes (io : SnapshotEnv) (st : Storage β) : ℤ :=
  match (c.snapshotAuthRow P io st).2 with
  | .ok (_, n) => n
  | .error _ => 0

/-- `get_cache`. -/
def getCache (io : ReadEnv) (st : Storage β) : Storage β × Option CacheData :=
  let (st, row) := c.readRow P io st
  (st, cacheDictFromRow row)

/-- `is_cache_valid` at the clock reading `now`. -/
def isCacheValid (io : ReadEnv) (now : ℚ) (st : Storage β) :
    Storage β × Bool :=
  let (st, cache) := c.getCache P io st
  (st, c.isCacheValidDict now cache)

/-- `load_device_info_snapshot`. -/
def loadDeviceInfoSnapshot (io : ReadEnv) (st : Storage β) :
    Storage β × Option (Dict String Json) :=
  let (st, row) := c.readRow P io st
  let snapshot :=
    match row.bind (·.get bundleProductDeviceInfoSnapshotKey) with
    | some (.str s) =>
        if Python.strip s = "" then none
        else (P.loadsText s).bind Json.dict?
    | some v => v.dict?
    | none => none
  (st, snapshot)

/-! ## The row that can be read -/

/-- The row a read returns when the disk does not fail. -/
def currentRow (st : Storage β) : Option Row :=
  c.rowOf (stateRoot P c.serverUrl st)

variable {P c}

theorem rowOf_eq (root : Option Root) :
    c.rowOf root =
      (root.bind fun d => (loadAppsMap d).get c.softwareName).filter
        fun row => !row.isEmpty := by
  cases root with
  | none => rfl
  | some d =>
      rw [rowOf]
      by_cases hd : d = .empty
      · subst hd
        rfl
      · have hempty : d.isEmpty = false := by
          rw [Bool.eq_false_iff, ne_eq, Dict.isEmpty_iff]
          exact hd
        rw [if_neg (by simp [hempty]), Option.bind_some]
        cases (loadAppsMap d).get c.softwareName with
        | none => rfl
        | some row => cases h : row.isEmpty <;> simp [h, Option.filter]

theorem ownRow_eq (d : Root) :
    ownRow d c.softwareName = (c.rowOf (some d)).getD .empty := by
  rw [ownRow, rowOf_eq, Option.bind_some]
  cases hload : (loadAppsMap d).get c.softwareName with
  | none => rfl
  | some row =>
      rw [Option.getD_some, erase_software_name_of_get_loadAppsMap hload]
      cases hrow : row.isEmpty with
      | false => simp [hrow, Option.filter]
      | true => simp [Option.filter, Dict.isEmpty_iff.mp hrow]

theorem ownRow_getD (root : Option Root) :
    ownRow (root.getD .empty) c.softwareName =
      (c.rowOf root).getD .empty := by
  cases root with
  | none => rw [Option.getD_none, ownRow_eq]; rfl
  | some d => rw [Option.getD_some, ownRow_eq]

/-- Rewriting the row of the product and reading it back. -/
theorem rowOf_updateRow (root : Option Root) {f : Row → Row}
    (ks : List String) (hks : ∀ k ∈ ks, k ∈ reservedRootKeys)
    (hname : (f ((c.rowOf root).getD .empty)).get "software_name" = none)
    (hempty : (f ((c.rowOf root).getD .empty)).isEmpty = false) :
    c.rowOf (some ((updateRow ((root.getD .empty).eraseAll ks)
        c.softwareName f).erase "device_id")) =
      if IsProductKey c.softwareName then
        some (f ((c.rowOf root).getD .empty))
      else none := by
  have hown : ownRow ((root.getD .empty).eraseAll ks) c.softwareName =
      (c.rowOf root).getD .empty := by
    rw [← ownRow_getD, ownRow, ownRow, loadAppsMap_eraseAll hks]
  rw [rowOf_eq, Option.bind_some, loadAppsMap_erase (by decide),
    get_loadAppsMap_updateRow_self, hown, Dict.erase_eq_self hname]
  split
  · simp [Option.filter, hempty]
  · rfl

/-! ## The written rows -/

section Rows

variable {authorized : Bool} {ts hb snap : Json} {sub : Row}

theorem get_savedRow_device_id :
    (c.savedRow authorized ts hb snap sub).get "device_id" =
      some (.str c.deviceId) := by
  rw [savedRow]
  split
  · dsimp only
    repeat' split
    all_goals simp [Dict.get_set, bundleProductDeviceInfoSnapshotKey]
  · simp

theorem get_savedRow_software_name
    (h : sub.get "software_name" = none) :
    (c.savedRow authorized ts hb snap sub).get "software_name" = none := by
  rw [savedRow]
  split
  · dsimp only
    repeat' split
    all_goals simp [Dict.get_set, bundleProductDeviceInfoSnapshotKey, h]
  · simp [Dict.get_set, Dict.get_eraseAll, bundleProductRevokeKeys,
      bundleProductDeviceInfoSnapshotKey, h]

theorem get_savedRow_last_success_at :
    (c.savedRow true ts hb snap sub).get "last_success_at" = some ts := by
  rw [savedRow, if_pos rfl]
  dsimp only
  repeat' split
  all_goals simp [Dict.get_set, bundleProductDeviceInfoSnapshotKey]

theorem get_savedRow_heartbeat_times {n : ℤ} :
    (c.savedRow true ts (.int n) snap sub).get "heartbeat_times" =
      some (.int n) := by
  rw [savedRow, if_pos rfl]
  simp only [reduceCtorEq, if_false]
  repeat' split
  all_goals simp [Dict.get_set, bundleProductDeviceInfoSnapshotKey]

theorem get_savedRow_snapshot {info : Dict String Json}
    (h : info.isEmpty = false) :
    (c.savedRow true ts hb (Json.ofDict info) sub).get
        bundleProductDeviceInfoSnapshotKey = some (Json.ofDict info) := by
  rw [savedRow, if_pos rfl]
  simp [h]

theorem savedRow_false :
    c.savedRow false ts hb snap sub = c.clearedRow sub := rfl

theorem get_clearedRow (k : String) :
    (c.clearedRow sub).get k =
      if k = "device_id" then some (.str c.deviceId)
      else if k ∈ bundleProductRevokeKeys then none
      else sub.get k := by
  rw [clearedRow, Dict.get_set, Dict.get_eraseAll]

theorem get_clearedRow_software_name
    (h : sub.get "software_name" = none) :
    (c.clearedRow sub).get "software_name" = none := by
  rw [get_clearedRow]
  simp [bundleProductRevokeKeys, bundleProductDeviceInfoSnapshotKey, h]

theorem isEmpty_clearedRow : (c.clearedRow sub).isEmpty = false := by
  rw [clearedRow]
  exact Dict.isEmpty_set _ _ _

theorem isEmpty_savedRow :
    (c.savedRow authorized ts hb snap sub).isEmpty = false :=
  Dict.isEmpty_eq_false_of_get get_savedRow_device_id

theorem rowLastSuccessTs_savedRow {t : ℚ} :
    rowLastSuccessTs (c.savedRow true (.float (.fin t)) hb snap sub) =
      if 0 < t then some (.fin t) else none := by
  rw [rowLastSuccessTs, get_savedRow_last_success_at]
  by_cases h : 0 < t <;> simp [Double.isPos, h]

theorem rowLastSuccessTs_clearedRow :
    rowLastSuccessTs (c.clearedRow sub) = none := by
  rw [rowLastSuccessTs, get_clearedRow]
  simp [bundleProductRevokeKeys]

theorem storedCount_savedRow {n : ℤ} :
    storedCount (c.savedRow true ts (.int n) snap sub) = .ok n := by
  rw [storedCount, get_savedRow_heartbeat_times]
  rfl

end Rows

/-- The row of the product in the root which a clear writes. -/
theorem rowOf_clearRoot (c : AuthCache) (d : Root) :
    c.rowOf (some ((c.clearRoot d).erase "device_id")) =
      if IsProductKey c.softwareName then
        some (c.clearedRow ((c.rowOf (some d)).getD .empty))
      else none := by
  have hname : ((c.rowOf (some d)).getD .empty).get "software_name" = none := by
    rw [← ownRow_eq]
    exact ownRow_get_software_name _ _
  exact rowOf_updateRow (some d) bundleRootStrayKeys (by decide)
    (get_clearedRow_software_name hname) isEmpty_clearedRow

theorem ts_clearRoot (c : AuthCache) (d : Root) :
    (c.rowOf (some ((c.clearRoot d).erase "device_id"))).bind
      rowLastSuccessTs = none := by
  rw [rowOf_clearRoot]
  split
  · exact rowLastSuccessTs_clearedRow
  · rfl

end AuthCache

end PyAuth.Client
