import Mathlib.Data.Rat.Floor
import PyAuth.TypeScript.StateBundle

/-!
# The TypeScript SDK: the authorisation cache

This file follows `cache.ts` and the functions of `device.ts` which keep the
device id.  All numbers are doubles, the heartbeat count among them.
-/

namespace PyAuth.TypeScript

open Support Client Sdk

structure AuthCache where
  softwareName : String
  deviceId : String
  cacheValidityDays : ℤ
deriving DecidableEq

/-- The constructor of `AuthCache`. -/
def newAuthCache (softwareName deviceId : String) (cacheValidityDays : ℤ) :
    AuthCache :=
  ⟨softwareName, deviceId,
    if 0 < cacheValidityDays then cacheValidityDays else 7⟩

structure CacheRecord where
  authorized : Bool
  message : String
  cachedAt : ℚ
deriving DecidableEq

/-- The clock reading and the disk's answers during one `saveCache`. -/
structure SaveEnv where
  now : ℚ
  read : Bool
  write : WriteEnv
deriving DecidableEq

/-- The disk's answers during one `clearCache`. -/
structure ClearEnv where
  read : Bool
  write : WriteEnv
  unlink : Bool
deriving DecidableEq

structure SnapshotEnv where
  read : Bool
  clear : ClearEnv
deriving DecidableEq

/-- The disk's answers during one `persistDeviceId`. -/
structure PersistEnv where
  read : Bool
  write : WriteEnv
deriving DecidableEq

def SaveEnv.success (now : ℚ) : SaveEnv := ⟨now, true, .success⟩

def ClearEnv.success : ClearEnv := ⟨true, .success, true⟩

def SnapshotEnv.success : SnapshotEnv := ⟨true, .success⟩

def PersistEnv.success : PersistEnv := ⟨true, .success⟩

/-- `JSON.parse(JSON.stringify(d))`. -/
def jsonCopy (d : Dict String Json) : Dict String Json :=
  d.mapValues fun v => (stringify v).asDoubles

/-- `x + 1` in doubles. -/
def plusOne : Double → Double
  | .fin q => if q.den = 1 then .ofInt (q.num + 1) else .fin (q + 1)
  | x => x

/-- The number `snapshotForAuthorizationCheck` makes of `heartbeat_times`. -/
def storedCount (raw : Option Json) : Option Double :=
  match raw with
  | some (.int n) => some (.ofInt n)
  | some (.float (.fin q)) => some (.fin ⌊q⌋)
  | raw => number raw

/-- `Number.isFinite(n) && n >= 1`. -/
def isCount : Double → Bool
  | .fin q => decide (1 ≤ q)
  | _ => false

namespace AuthCache

variable (c : AuthCache)

def cacheValiditySeconds : ℤ := c.cacheValidityDays * 86400

/-- `{ ...(apps[softwareName] ?? {}) }` without its `software_name`.  What is
no object is taken for empty: the members of a text or of an array have the
indices for names, and no row is read at those. -/
def ownRow (apps : Apps) : Row :=
  (((apps.lookup c.softwareName).bind Json.dict?).getD .empty).erase
    "software_name"

/-- The row of the product in what a read returns. -/
def rowOf (d : Option Root) : Option Row :=
  d.bind fun d => ((loadAppsMap d).lookup c.softwareName).bind Json.dict?

/-- `cacheRecordFromRow`. -/
def cacheRecordFromRow (row : Option Row) : Option CacheRecord :=
  (row.bind rowLastSuccessTs).map fun ts => ⟨true, "设备已授权", ts⟩

/-- The row written by `saveCache`; `none` is `undefined`. -/
def savedRow (authorized : Bool) (now : ℚ) (nextHeartbeat : Option Double)
    (deviceInfoSnapshot : Option (Dict String Json)) (sub : Row) : Row :=
  if authorized then
    let sub := sub.set "device_id" (.str c.deviceId)
    let sub := sub.set "last_success_at" (.float (.fin now))
    let sub :=
      match nextHeartbeat with
      | some n => sub.set "heartbeat_times" (.float n)
      | none => sub
    match deviceInfoSnapshot with
    | some snapshot =>
        sub.set bundleProductDeviceInfoSnapshotKey (.ofDict (jsonCopy snapshot))
    | none => sub
  else
    (sub.eraseAll bundleProductRevokeKeys).set "device_id" (.str c.deviceId)

/-- The row written by `clearCache`. -/
def clearedRow (sub : Row) : Row :=
  (sub.eraseAll bundleProductRevokeKeys).set "device_id" (.str c.deviceId)

/-- Load the rows and replace that of the product. -/
def updateApps (d : Root) (f : Row → Row) : Apps :=
  let apps := loadAppsMap d
  apps.assign c.softwareName (f (c.ownRow apps))

/-- `saveCache`. -/
def saveCache (authorized : Bool) (nextHeartbeat : Option Double)
    (deviceInfoSnapshot : Option (Dict String Json)) (env : SaveEnv)
    (file : StateFile) : StateFile × Bool :=
  let payload := ((readStateDict env.read file).getD .empty).eraseAll
    bundleRootStrayKeys
  writeStateDictWithRetry
    (commitAppsMap payload (c.updateApps payload
      (c.savedRow authorized env.now nextHeartbeat deviceInfoSnapshot)))
    env.write file

/-- `anyAppHasDevice`. -/
def anyAppHasDevice (apps : Apps) : Bool :=
  apps.own.entries.any fun e => (rowDeviceId e.2).isSome

/-- `clearCache`. -/
def clearCache (env : ClearEnv) (file : StateFile) : StateFile × Bool :=
  match readStateDict env.read file with
  | none => (file, true)
  | some d =>
      let next := d.eraseAll bundleRootStrayKeys
      let apps := c.updateApps next c.clearedRow
      if anyAppHasDevice apps then
        writeStateDictWithRetry (commitAppsMap next apps) env.write file
      else (if env.unlink then .absent else file, true)

/-- `snapshotForAuthorizationCheck`: the cache entry and the stored count.  An
error is caught. -/
def snapshotForAuthorizationCheck (env : SnapshotEnv) (file : StateFile) :
    StateFile × Option CacheRecord × Double :=
  match c.rowOf (readStateDict env.read file) with
  | none => (file, none, .fin 0)
  | some row =>
      if rowLastSuccessTs row = none then (file, none, .fin 0)
      else
        match storedCount (row.get "heartbeat_times") with
        | none => (file, none, .fin 0)
        | some n =>
            if isCount n then (file, cacheRecordFromRow (some row), n)
            else ((c.clearCache env.clear file).1, none, .fin 0)

/-- `isCacheTTLValid` at the clock reading `now`. -/
def isCacheTTLValid (now : ℚ) : Option CacheRecord → Bool
  | none => false
  | some cache =>
      if cache.cachedAt = 0 then false
      else decide (now - cache.cachedAt < c.cacheValiditySeconds)

/-- `getCache`. -/
def getCache (read : Bool) (file : StateFile) : Option CacheRecord :=
  cacheRecordFromRow (c.rowOf (readStateDict read file))

/-- `loadDeviceInfoSnapshot`; `parse` is `JSON.parse`. -/
def loadDeviceInfoSnapshot (parse : String → Option Json) (read : Bool)
    (file : StateFile) : Option (Dict String Json) :=
  match (c.rowOf (readStateDict read file)).bind
      (·.get bundleProductDeviceInfoSnapshotKey) with
  | some (.str s) =>
      if trim s = "" then none
      else ((parse s).bind Json.dict?).map jsonCopy
  | some v => v.dict?.map jsonCopy
  | none => none

/-! ## The device id -/

/-- `loadPersistedDeviceId`. -/
def loadPersistedDeviceId (read : Bool) (file : StateFile) : Option String :=
  (c.rowOf (readStateDict read file)).bind rowDeviceId

/-- `persistDeviceId`. -/
def persistDeviceId (env : PersistEnv) (file : StateFile) : StateFile × Bool :=
  let payload := ((readStateDict env.read file).getD .empty).eraseAll
    bundleRootStrayKeys
  writeStateDictWithRetry
    (commitAppsMap payload (c.updateApps payload
      (·.set "device_id" (.str c.deviceId)))) env.write file

end AuthCache

end PyAuth.TypeScript
