import PyAuth.Client.AuthClient
import PyAuth.TypeScript.AuthCache

/-!
# The TypeScript SDK: construction and authorisation checks

This file follows `client.ts`.  The heartbeats themselves are left out: a
check takes their answers as arguments, with the clock readings and the
disk's answers.  An answer is stored by one attempt only.
-/

namespace PyAuth.TypeScript

open Support Client Sdk

/-- A full heartbeat: the collection raised an exception, or yielded
`collected`; then the address `fetchPublicIp` yields, and the answer. -/
inductive Online
  | raised (message : String)
  | posted (collected : Dict String Json) (publicIp : String) (answer : Answer)
deriving DecidableEq

structure AuthClient where
  softwareVersion : String
  runtime : String
  cache : AuthCache
  deviceInfo : Dict String Json
  deviceInfoDeferred : Bool
deriving DecidableEq

/-! ## Device information -/

/-- `baseSdk`. -/
def baseSdk (runtime : String) : Dict String Json :=
  .ofList
    [("language", .str "typescript"), ("sdk_name", .str "py-auth-client"),
      ("sdk_version", .str "0.1.4"), ("runtime", .str runtime)]

/-- The two members every client sets in its device information. -/
def label (softwareVersion runtime : String) (info : Dict String Json) :
    Dict String Json :=
  (info.set "software_version" (.str softwareVersion)).set "sdk"
    (.ofDict (baseSdk runtime))

/-- `deviceInfo.network ?? {}`. -/
def networkOf (info : Dict String Json) : Dict String Json :=
  ((info.get "network").bind Json.dict?).getD .empty

def hasPublicIp (info : Dict String Json) : Bool :=
  match (networkOf info).get "public_ip" with
  | some (.str ip) => decide (trim ip ≠ "")
  | _ => false

namespace AuthClient

/-- `ensureFullDeviceInfo`. -/
def ensureFullDeviceInfo (cl : AuthClient) (collected : Dict String Json) :
    AuthClient :=
  if cl.deviceInfoDeferred then
    { cl with
      deviceInfo := label cl.softwareVersion cl.runtime collected
      deviceInfoDeferred := false }
  else cl

/-- `checkOnline`: the client after the collection, and the result. -/
def checkOnline (cl : AuthClient) : Online → AuthClient × AuthResult
  | .raised message => (cl, (Answer.failed message).toResult)
  | .posted collected publicIp answer =>
      let needPublicIp := cl.deviceInfoDeferred || !hasPublicIp cl.deviceInfo
      let pub := if needPublicIp then publicIp else ""
      let cl := cl.ensureFullDeviceInfo collected
      let cl :=
        if pub = "" then cl
        else
          { cl with
            deviceInfo := cl.deviceInfo.set "network"
              (.ofDict ((networkOf cl.deviceInfo).set "public_ip"
                (.str pub))) }
      (cl, answer.toResult)

end AuthClient

/-! ## Checks -/

/-- What a check leaves behind and what it returns. -/
structure Checked where
  client : AuthClient
  file : StateFile
  result : AuthResult

structure CheckEnv where
  snapshot : SnapshotEnv
  testAt : ℚ
  online : Online
  save : SaveEnv

structure ProgressiveEnv where
  snapshot : SnapshotEnv
  testAt : ℚ
  light : Answer
  saveLight : SaveEnv
  full : Online
  saveFull : SaveEnv
  retest : Bool
  retestAt : ℚ

def CheckEnv.success (testAt : ℚ) (online : Online) (saveAt : ℚ) : CheckEnv :=
  ⟨.success, testAt, online, .success saveAt⟩

def ProgressiveEnv.success (testAt : ℚ) (light : Answer) (saveLightAt : ℚ)
    (full : Online) (saveFullAt retestAt : ℚ) : ProgressiveEnv :=
  { snapshot := .success
    testAt := testAt
    light := light
    saveLight := .success saveLightAt
    full := full
    saveFull := .success saveFullAt
    retest := true
    retestAt := retestAt }

namespace AuthClient

variable (cl : AuthClient)

/-- `persistOnlineResult`. -/
def persistOnlineResult (authorized : Bool) (heartbeatIfAuthorized : Double)
    (env : SaveEnv) (file : StateFile) : StateFile :=
  (cl.cache.saveCache authorized
    (if authorized then some heartbeatIfAuthorized else none)
    (if authorized then some (jsonCopy cl.deviceInfo) else none) env file).1

/-- A full heartbeat, the storing of its answer, and the result of the check
when there is no answer. -/
def checkOnlineAndPersist (times : Double) (online : Online) (save : SaveEnv)
    (orElse : AuthResult → AuthResult) (file : StateFile) : Checked :=
  let (cl, result) := cl.checkOnline online
  if result.success then
    ⟨cl, cl.persistOnlineResult result.authorized times save file, result⟩
  else ⟨cl, file, orElse result⟩

/-- A cache entry is the answer when there is one. -/
def cachedResult (cached : Option CacheRecord) (result : AuthResult) :
    AuthResult :=
  match cached with
  | some cache => ⟨cache.authorized, cache.message, true, true⟩
  | none => result

/-- `checkAuthorization`. -/
def checkAuthorization (env : CheckEnv) (file : StateFile) : Checked :=
  let (file, cacheData, storedHb) :=
    cl.cache.snapshotForAuthorizationCheck env.snapshot file
  let cached :=
    if cl.cache.isCacheTTLValid env.testAt cacheData then cacheData else none
  cl.checkOnlineAndPersist (plusOne storedHb) env.online env.save
    (cachedResult cached) file

/-- `checkAuthorizationProgressive`. -/
def checkAuthorizationProgressive (env : ProgressiveEnv) (file : StateFile) :
    Checked :=
  let (file, cacheData, storedHb) :=
    cl.cache.snapshotForAuthorizationCheck env.snapshot file
  let cached :=
    if cl.cache.isCacheTTLValid env.testAt cacheData then cacheData else none
  let nextHb := plusOne storedHb
  let rFast := env.light.toResult
  if rFast.success then
    let file := cl.persistOnlineResult rFast.authorized nextHb env.saveLight file
    if rFast.authorized then
      let gc := cl.cache.getCache env.retest file
      let light := if cl.cache.isCacheTTLValid env.retestAt gc then gc else none
      cl.checkOnlineAndPersist (plusOne nextHb) env.full env.saveFull
        (cachedResult light) file
    else ⟨cl, file, rFast⟩
  else
    cl.checkOnlineAndPersist nextHb env.full env.saveFull (cachedResult cached)
      file

end AuthClient

/-! ## Construction -/

/-- `AuthClientConfig`; an empty string stands for one which was left out. -/
structure AuthClientConfig where
  serverUrl : String
  softwareName : String
  softwareVersion : String
  deviceId : String
  deviceInfo : Option (Dict String Json)
  clientSecret : String
  cacheValidityDays : ℤ
  runtime : String

/-- What the environment decides during a construction: `newId` is the id
derived from the hardware, `collected` what `collectDeviceInfo` yields, `none`
when it raises. -/
structure ConstructEnv where
  stable : Bool
  load : Bool
  newId : String
  persist : PersistEnv
  collected : Option (Dict String Json)
  snapshot : Bool

/-- `buildDeviceId`. -/
def buildDeviceId (softwareName provided : String) (env : ConstructEnv)
    (file : StateFile) : StateFile × String :=
  let persist (id : String) : StateFile × String :=
    (((newAuthCache softwareName id 0).persistDeviceId env.persist file).1, id)
  if provided ≠ "" then persist provided
  else
    match (newAuthCache softwareName "" 0).loadPersistedDeviceId env.load file
      with
    | some id => (file, id)
    | none => persist env.newId

/-- The device information of a new client before it is labelled, and whether
its collection is deferred; `none` when the collection raises. -/
def initialDeviceInfo (parse : String → Option Json)
    (config : AuthClientConfig) (hasStableDeviceId : Bool) (cache : AuthCache)
    (env : ConstructEnv) (file : StateFile) :
    Option (Dict String Json × Bool) :=
  match config.deviceInfo with
  | some info => some (info, false)
  | none =>
      if hasStableDeviceId then
        match cache.loadDeviceInfoSnapshot parse env.snapshot file with
        | some snap => some (snap, false)
        | none => some (.empty, true)
      else env.collected.map fun info => (info, false)

/-- The constructor; `none` when it throws. -/
def newAuthClient (parse : String → Option Json) (config : AuthClientConfig)
    (env : ConstructEnv) (file : StateFile) : StateFile × Option AuthClient :=
  if config.serverUrl = "" ∨ config.softwareName = "" ∨
      config.clientSecret = "" then (file, none)
  else
    let hasStableDeviceId := config.deviceId ≠ "" ||
      ((newAuthCache config.softwareName "" 0).loadPersistedDeviceId env.stable
        file).isSome
    let (file, deviceId) :=
      buildDeviceId config.softwareName config.deviceId env file
    let cache :=
      newAuthCache config.softwareName deviceId config.cacheValidityDays
    (file, (initialDeviceInfo parse config hasStableDeviceId cache env
      file).map fun (info, deferred) =>
        ⟨config.softwareVersion, config.runtime, cache,
          label config.softwareVersion config.runtime info, deferred⟩)

end PyAuth.TypeScript
