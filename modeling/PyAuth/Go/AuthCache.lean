import Mathlib.Data.Rat.Floor
import PyAuth.Go.StateBundle

/-!
# The Go SDK: the authorisation cache

This file follows `cache.go` and the functions of `device_utils.go` which keep
the device id.  A `DeviceInfo` is a record of blocks; inside a block the
members stand as they are written.
-/

namespace PyAuth.Go

open Support Client Sdk

/-! ## Device information -/

/-- `DeviceInfo`; `none` is a nil pointer. -/
structure DeviceInfo where
  sys : Option (Dict String Json)
  network : Option (Dict String Json)
  memory : Option (Dict String Json)
  disk : Option (Dict String Json)
  cpu : Option (Dict String Json)
  softwareVersion : String
  sdk : Option (Dict String Json)
deriving DecidableEq

/-- `DeviceInfo{}`. -/
def DeviceInfo.zero : DeviceInfo := ⟨none, none, none, none, none, "", none⟩

/-- A block with the tag `omitempty`. -/
def blockMember (name : String) (block : Option (Dict String Json)) :
    List (String × Json) :=
  (block.map fun d => (name, Json.ofDict d)).toList

/-- `json.Marshal`, read as an object. -/
def DeviceInfo.marshal (info : DeviceInfo) : Dict String Json :=
  .ofList (blockMember "system" info.sys ++
    blockMember "network" info.network ++ blockMember "memory" info.memory ++
    blockMember "disk" info.disk ++ blockMember "cpu" info.cpu ++
    (if info.softwareVersion = "" then []
      else [("software_version", .str info.softwareVersion)]) ++
    blockMember "sdk" info.sdk)

/-- A pointer to a block; `none` when the member has another type. -/
def unmarshalBlock : Option Json → Option (Option (Dict String Json))
  | none | some .null => some none
  | some v => v.dict?.map some

def unmarshalString : Option Json → Option String
  | none | some .null => some ""
  | some (.str s) => some s
  | some _ => none

/-- `json.Unmarshal` into a `DeviceInfo`. -/
def unmarshalDeviceInfo (d : Dict String Json) : Option DeviceInfo := do
  let sys ← unmarshalBlock (d.get "system")
  let network ← unmarshalBlock (d.get "network")
  let memory ← unmarshalBlock (d.get "memory")
  let disk ← unmarshalBlock (d.get "disk")
  let cpu ← unmarshalBlock (d.get "cpu")
  let softwareVersion ← unmarshalString (d.get "software_version")
  let sdk ← unmarshalBlock (d.get "sdk")
  return ⟨sys, network, memory, disk, cpu, softwareVersion, sdk⟩

/-! ## The cache -/

structure AuthCache where
  softwareName : String
  deviceID : String
  cacheValidityDays : ℤ
deriving DecidableEq

/-- `NewAuthCache`. -/
def newAuthCache (softwareName deviceID : String) (cacheValidityDays : ℤ) :
    AuthCache :=
  ⟨softwareName, deviceID,
    if cacheValidityDays ≤ 0 then 7 else cacheValidityDays⟩

structure CacheData where
  message : String
  lastSuccessAt : ℚ
  heartbeatTimes : ℤ
deriving DecidableEq

/-- The clock reading and the disk's answers during one `SaveCache`. -/
structure SaveEnv where
  now : ℚ
  read : ReadEnv
  write : WriteEnv

/-- The disk's answers during one `ClearCache`. -/
structure ClearEnv where
  read : ReadEnv
  write : WriteEnv
  remove : Bool

structure SnapshotEnv where
  read : ReadEnv
  clear : ClearEnv

/-- The disk's answers during one `PersistDeviceID`. -/
structure PersistEnv where
  read : ReadEnv
  write : WriteEnv

def ReadEnv.success (range : Range) : ReadEnv := ⟨true, range⟩

def SaveEnv.success (now : ℚ) (range : Range) : SaveEnv :=
  ⟨now, .success range, .success⟩

def ClearEnv.success (range : Range) : ClearEnv :=
  ⟨.success range, .success, true⟩

def SnapshotEnv.success (range : Range) : SnapshotEnv :=
  ⟨.success range, .success range⟩

def PersistEnv.success (range : Range) : PersistEnv :=
  ⟨.success range, .success⟩

/-- `intFromJSON`. -/
def intFromJSON (range : Range) : Option Json → Option ℤ
  | some (.float (.fin x)) => if 0 ≤ x then some (range.toInt x) else none
  | some (.int n) => some n
  | _ => none

/-- `stateMapToCacheData`. -/
def stateMapToCacheData (range : Range) (m : Row) : Option CacheData :=
  (rowLastSuccessUnix m).map fun ts =>
    ⟨"设备已授权", ts,
      match intFromJSON range (m.get "heartbeat_times") with
      | some n => if 0 < n then n else 0
      | none => 0⟩

namespace AuthCache

variable (c : AuthCache)

def cacheValiditySeconds : ℤ := c.cacheValidityDays * 86400

/-- `cloneStringMap(apps[c.softwareName])` without its `software_name`. -/
def ownRow (apps : AppsMap) : Row :=
  ((apps.get c.softwareName).getD .empty).erase "software_name"

/-- The row written by `SaveCache`; `none` is a nil pointer.  What
`json.Marshal` writes of a snapshot can always be read back. -/
def savedRow (authorized : Bool) (now : ℚ) (nextHeartbeat : Option ℤ)
    (snapshot : Option (Dict String Json)) (sub : Row) : Row :=
  if authorized then
    let sub := sub.set "device_id" (.str c.deviceID)
    let sub := sub.set "last_success_at" (.float (.fin now))
    let sub :=
      match nextHeartbeat with
      | some n => sub.set "heartbeat_times" (.int n)
      | none => sub
    match snapshot with
    | some obj =>
        if obj.isEmpty then sub
        else sub.set bundleProductDeviceInfoSnapshotKey
          (.ofDict (obj.mapValues Json.asDoubles))
    | none => sub
  else
    (sub.eraseAll bundleProductRevokeKeys).set "device_id" (.str c.deviceID)

/-- The row written by `ClearCache`. -/
def clearedRow (sub : Row) : Row :=
  (sub.eraseAll bundleProductClearRowKeys).set "device_id" (.str c.deviceID)

/-- Load the rows, rewrite that of the product, commit. -/
def updateRow (range : Range) (m : Root) (f : Row → Row) : Root :=
  let apps := loadAppsMap range m
  commitAppsMap m (apps.set c.softwareName (f (c.ownRow apps)))

/-- `anyAppMapHasDeviceID`. -/
def anyAppMapHasDeviceID (apps : AppsMap) : Bool :=
  apps.entries.any fun e => rowDeviceIDString e.2 ≠ ""

/-- `SaveCache`; the flag tells whether the error is nil. -/
def saveCache (authorized : Bool) (nextHeartbeat : Option ℤ)
    (snapshot : Option (Dict String Json)) (env : SaveEnv)
    (file : StateFile) : StateFile × Bool :=
  let m := (readOrNil env.read file).getD .empty
  let m := m.eraseAll bundleRootStrayKeys
  file.writeWithRetry
    (c.updateRow env.read.range m
      (c.savedRow authorized env.now nextHeartbeat snapshot)) env.write

/-- `ClearCache`. -/
def clearCache (env : ClearEnv) (file : StateFile) : StateFile × Bool :=
  match readStateDict env.read file with
  | .error _ => (file, false)
  | .ok none => (file, true)
  | .ok (some m) =>
      let m := m.eraseAll bundleRootStrayKeys
      let apps := loadAppsMap env.read.range m
      let apps := apps.set c.softwareName (c.clearedRow (c.ownRow apps))
      if anyAppMapHasDeviceID apps then
        file.writeWithRetry (commitAppsMap m apps) env.write
      else (if env.remove then .absent else file, true)

/-- The row of the product in what a read returns. -/
def rowOf (range : Range) (m : Option Root) : Option Row :=
  m.bind fun m => (loadAppsMap range m).get c.softwareName

/-- `snapshotAuthRow`: the cache entry and the stored count. -/
def snapshotAuthRow (env : SnapshotEnv) (file : StateFile) :
    StateFile × Option CacheData × ℤ :=
  match c.rowOf env.read.range (readOrNil env.read file) with
  | none => (file, none, 0)
  | some row =>
      if rowLastSuccessUnix row = none then (file, none, 0)
      else
        match intFromJSON env.read.range (row.get "heartbeat_times") with
        | none => ((c.clearCache env.clear file).1, none, 0)
        | some n =>
            if n < 1 then ((c.clearCache env.clear file).1, none, 0)
            else
              match stateMapToCacheData env.read.range row with
              | none => (file, none, 0)
              | some cache => (file, some cache, n)

/-- `StoredHeartbeatTimes`. -/
def storedHeartbeatTimes (env : SnapshotEnv) (file : StateFile) : ℤ :=
  (c.snapshotAuthRow env file).2.2

/-- `GetCache`. -/
def getCache (env : ReadEnv) (file : StateFile) :
    Except ReadError (Option CacheData) :=
  (readStateDict env file).map fun m =>
    (c.rowOf env.range m).bind (stateMapToCacheData env.range)

/-- `IsCacheTTLValid` at the clock reading `now`. -/
def isCacheTTLValid (now : ℚ) : Option CacheData → Bool
  | none => false
  | some cache =>
      if cache.lastSuccessAt ≤ 0 then false
      else decide (now - cache.lastSuccessAt < c.cacheValiditySeconds)

/-- `IsCacheValid` at the clock reading `now`. -/
def isCacheValid (env : ReadEnv) (now : ℚ) (file : StateFile) : Bool :=
  match c.getCache env file with
  | .ok cache => c.isCacheTTLValid now cache
  | .error _ => false

/-- `LoadDeviceInfoSnapshot`, as far as the constructor uses it: an error
counts as no snapshot.  `parse` reads a snapshot stored as text. -/
def loadDeviceInfoSnapshot (parse : String → Option Json) (env : ReadEnv)
    (file : StateFile) : Option DeviceInfo :=
  match (c.rowOf env.range (readOrNil env file)).bind
      (·.get bundleProductDeviceInfoSnapshotKey) with
  | some (.str s) =>
      if s = "" then none
      else
        match parse s with
        | some .null => some .zero
        | some v => v.dict?.bind unmarshalDeviceInfo
        | none => none
  | some v => v.dict?.bind unmarshalDeviceInfo
  | none => none

/-! ## The device id -/

/-- `LoadPersistedDeviceID`; the empty string is an error or no id. -/
def loadPersistedDeviceID (env : ReadEnv) (file : StateFile) : String :=
  match c.rowOf env.range (readOrNil env file) with
  | some row => rowDeviceIDString row
  | none => ""

/-- `PersistDeviceID`. -/
def persistDeviceID (env : PersistEnv) (file : StateFile) :
    StateFile × Bool :=
  let m := (readOrNil env.read file).getD .empty
  let m := c.updateRow env.read.range m (·.set "device_id" (.str c.deviceID))
  file.writeWithRetry (m.erase "device_id") env.write

end AuthCache

end PyAuth.Go
