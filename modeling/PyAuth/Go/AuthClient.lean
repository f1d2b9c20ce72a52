import PyAuth.Client.AuthClient
import PyAuth.Go.AuthCache

/-!
# The Go SDK: construction and authorisation checks

This file follows `client.go`.  The heartbeats themselves are left out: a
check takes their answers as arguments, with the clock readings and the
disk's answers.  A full heartbeat waits for the collection of the device
information, however long it takes, so none is abandoned.
-/

namespace PyAuth.Go

open Support Client Sdk

/-- A full heartbeat: what `BuildDeviceInfo` makes of the collected facts, the
address `fetchPublicIP` yields, and the answer. -/
structure Online where
  collected : DeviceInfo
  publicIP : String
  answer : Answer
deriving DecidableEq

structure AuthClient where
  softwareVersion : String
  runtime : String
  cache : AuthCache
  deviceInfo : DeviceInfo
  deviceInfoDeferred : Bool
deriving DecidableEq

/-! ## Device information -/

/-- `SDKInfo` with its constants. -/
def sdkInfo (runtime : String) : Dict String Json :=
  .ofList
    [("language", .str "go"),
      ("sdk_name", .str "github.com/Paper-Dragon/py-auth/client/go"),
      ("sdk_version", .str "0.1.0"), ("runtime", .str runtime)]

/-- The two fields every client sets in its device information. -/
def DeviceInfo.label (info : DeviceInfo) (softwareVersion runtime : String) :
    DeviceInfo :=
  { info with
    softwareVersion := softwareVersion
    sdk := some (sdkInfo runtime) }

/-- `deviceInfoPublicIPUnset`. -/
def deviceInfoPublicIPUnset (info : DeviceInfo) : Bool :=
  match info.network with
  | none => true
  | some network =>
      match network.get "public_ip" with
      | some (.str ip) => decide (trimSpace ip = "")
      | _ => true

/-- The public address is kept in the client's own information. -/
def DeviceInfo.setPublicIP (info : DeviceInfo) (ip : String) : DeviceInfo :=
  { info with
    network := some ((info.network.getD .empty).set "public_ip" (.str ip)) }

namespace AuthClient

/-- `ensureFullDeviceInfo`. -/
def ensureFullDeviceInfo (cl : AuthClient) (collected : DeviceInfo) :
    AuthClient :=
  if cl.deviceInfoDeferred then
    { cl with
      deviceInfo := collected.label cl.softwareVersion cl.runtime
      deviceInfoDeferred := false }
  else cl

/-- `checkOnline`: the client after the collection, and the result. -/
def checkOnline (cl : AuthClient) (online : Online) : AuthClient × AuthResult :=
  let needPublicIP :=
    cl.deviceInfoDeferred || deviceInfoPublicIPUnset cl.deviceInfo
  let pub := if needPublicIP then online.publicIP else ""
  let cl := cl.ensureFullDeviceInfo online.collected
  let cl :=
    if pub = "" then cl
    else { cl with deviceInfo := cl.deviceInfo.setPublicIP pub }
  (cl, online.answer.toResult)

end AuthClient

/-! ## Checks -/

/-- The environment of the three attempts of `persistHeartbeatResult`. -/
abbrev Attempts := { envs : List SaveEnv // envs.length = 3 }

def Attempts.success (now : ℚ) (range : Range) : Attempts :=
  ⟨List.replicate 3 (.success now range), by simp⟩

/-- Save until an attempt succeeds. -/
def saveAttempts (c : AuthCache) (authorized : Bool)
    (nextHeartbeat : Option ℤ) (snapshot : Option (Dict String Json)) :
    List SaveEnv → StateFile → StateFile
  | [], file => file
  | env :: envs, file =>
      let (file, ok) :=
        c.saveCache authorized nextHeartbeat snapshot env file
      if ok then file
      else saveAttempts c authorized nextHeartbeat snapshot envs file

/-- What a check leaves behind and what it returns. -/
structure Checked where
  client : AuthClient
  file : StateFile
  result : AuthResult

structure CheckEnv where
  snapshot : SnapshotEnv
  testAt : ℚ
  online : Online
  save : Attempts

structure ProgressiveEnv where
  snapshot : SnapshotEnv
  testAt : ℚ
  light : Answer
  saveLight : Attempts
  full : Online
  saveFull : Attempts
  retestValid : ReadEnv
  retestAt : ℚ
  retest : ReadEnv

def CheckEnv.success (range : Range) (testAt : ℚ) (online : Online)
    (saveAt : ℚ) : CheckEnv :=
  ⟨.success range, testAt, online, .success saveAt range⟩

def ProgressiveEnv.success (range : Range) (testAt : ℚ) (light : Answer)
    (saveLightAt : ℚ) (full : Online) (saveFullAt retestAt : ℚ) :
    ProgressiveEnv :=
  { snapshot := .success range
    testAt := testAt
    light := light
    saveLight := .success saveLightAt range
    full := full
    saveFull := .success saveFullAt range
    retestValid := .success range
    retestAt := retestAt
    retest := .success range }

namespace AuthClient

variable (cl : AuthClient)

/-- `persistHeartbeatResult`. -/
def persistHeartbeatResult (authorized : Bool) (hb : Option ℤ)
    (envs : Attempts) (file : StateFile) : StateFile :=
  saveAttempts cl.cache authorized hb
    (if authorized then some cl.deviceInfo.marshal else none) envs.1 file

/-- A full heartbeat, and the storing of its answer. -/
def checkOnlineAndPersist (times : ℤ) (online : Online) (save : Attempts)
    (file : StateFile) : Checked :=
  let (cl, result) := cl.checkOnline online
  if result.success then
    ⟨cl, cl.persistHeartbeatResult result.authorized
      (if result.authorized then some times else none) save file, result⟩
  else ⟨cl, file, result⟩

/-- Without a reply a valid cache entry is the answer. -/
def orCached (cached : Option CacheData) (out : Checked) : Checked :=
  if out.result.success then out
  else
    match cached with
    | some cache => { out with result := ⟨true, cache.message, true, true⟩ }
    | none => out

/-- `CheckAuthorization`. -/
def checkAuthorization (env : CheckEnv) (file : StateFile) : Checked :=
  let (file, cacheData, storedHb) := cl.cache.snapshotAuthRow env.snapshot file
  let cached :=
    if cl.cache.isCacheTTLValid env.testAt cacheData then cacheData else none
  orCached cached
    (cl.checkOnlineAndPersist (storedHb + 1) env.online env.save file)

/-- The full heartbeat which follows an authorised light one. -/
def completeLight (times : ℤ) (env : ProgressiveEnv) (file : StateFile) :
    Checked :=
  let full := cl.checkOnlineAndPersist times env.full env.saveFull file
  if full.result.success then full
  else if full.client.cache.isCacheValid env.retestValid env.retestAt file then
    match full.client.cache.getCache env.retest file with
    | .ok (some cache) =>
        { full with result := ⟨true, cache.message, true, true⟩ }
    | _ => full
  else full

/-- `checkOnlineProgressive`. -/
def checkOnlineProgressive (nextHb : ℤ) (env : ProgressiveEnv)
    (file : StateFile) : Checked :=
  let light := env.light.toResult
  if light.success then
    if light.authorized then
      let file :=
        cl.persistHeartbeatResult true (some nextHb) env.saveLight file
      cl.completeLight (nextHb + 1) env file
    else
      ⟨cl, cl.persistHeartbeatResult false none env.saveLight file, light⟩
  else cl.checkOnlineAndPersist nextHb env.full env.saveFull file

/-- `CheckAuthorizationProgressive`. -/
def checkAuthorizationProgressive (env : ProgressiveEnv) (file : StateFile) :
    Checked :=
  let (file, cacheData, storedHb) := cl.cache.snapshotAuthRow env.snapshot file
  let cached :=
    if cl.cache.isCacheTTLValid env.testAt cacheData then cacheData else none
  orCached cached (cl.checkOnlineProgressive (storedHb + 1) env file)

end AuthClient

/-! ## Construction -/

/-- `AuthClientConfig`; an empty string stands for one which was left out. -/
structure AuthClientConfig where
  serverURL : String
  softwareName : String
  softwareVersion : String
  deviceID : String
  deviceInfo : Option DeviceInfo
  clientSecret : String
  cacheValidityDays : ℤ
  runtime : String

/-- What the environment decides during a construction: `newID` is the id
derived from the hardware, `collected` what `BuildDeviceInfo` makes of the
facts. -/
structure ConstructEnv where
  hint : ReadEnv
  load : ReadEnv
  newID : String
  persist : PersistEnv
  collected : DeviceInfo
  snapshot : ReadEnv

/-- `BuildDeviceID`; `none` when an id cannot be persisted. -/
def buildDeviceID (softwareName provided persistedIfKnown : String)
    (env : ConstructEnv) (file : StateFile) : StateFile × Option String :=
  let persist (id : String) : StateFile × Option String :=
    let (file, ok) :=
      (newAuthCache softwareName id 0).persistDeviceID env.persist file
    (file, if ok then some id else none)
  if provided ≠ "" then persist provided
  else if persistedIfKnown ≠ "" then (file, some persistedIfKnown)
  else
    let persisted :=
      (newAuthCache softwareName "" 0).loadPersistedDeviceID env.load file
    if persisted ≠ "" then (file, some persisted) else persist env.newID

/-- The device information of a new client before it is labelled, and whether
its collection is deferred. -/
def initialDeviceInfo (parse : String → Option Json)
    (config : AuthClientConfig) (needFactsForNewID : Bool) (cache : AuthCache)
    (env : ConstructEnv) (file : StateFile) : DeviceInfo × Bool :=
  match config.deviceInfo with
  | some info => (info, false)
  | none =>
      if needFactsForNewID then (env.collected, false)
      else
        match cache.loadDeviceInfoSnapshot parse env.snapshot file with
        | some snap => (snap, false)
        | none => (.zero, true)

/-- `NewAuthClient`; `none` is an error. -/
def newAuthClient (parse : String → Option Json) (config : AuthClientConfig)
    (env : ConstructEnv) (file : StateFile) : StateFile × Option AuthClient :=
  if config.serverURL = "" ∨ config.softwareName = "" ∨
      config.clientSecret = "" then (file, none)
  else
    let persistedHint :=
      if config.deviceID = "" then
        (newAuthCache config.softwareName "" 0).loadPersistedDeviceID env.hint
          file
      else ""
    let needFactsForNewID := config.deviceID == "" && persistedHint == ""
    match buildDeviceID config.softwareName config.deviceID persistedHint env
        file with
    | (file, none) => (file, none)
    | (file, some deviceID) =>
        let cache := newAuthCache config.softwareName deviceID
          (if config.cacheValidityDays = 0 then 7
            else config.cacheValidityDays)
        let (info, deferred) :=
          initialDeviceInfo parse config needFactsForNewID cache env file
        (file, some ⟨config.softwareVersion, config.runtime, cache,
          info.label config.softwareVersion config.runtime, deferred⟩)

end PyAuth.Go
