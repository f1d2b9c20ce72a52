import PyAuth.Client.DeviceId

/-!
# The client: construction and authorisation checks

`check_authorization` sends one full heartbeat.  The progressive check first
sends a light heartbeat with whatever device information is at hand, stores
its answer, and only then collects the full device information for a second
heartbeat.  Every check takes as arguments what its environment decides: the
answers of the server, the clock readings and the disk's answers.
-/

namespace PyAuth.Client

open Support

/-- The dictionary returned by a check. -/
structure AuthResult where
  authorized : Bool
  message : String
  success : Bool
  fromCache : Bool
deriving DecidableEq

/-- How one heartbeat ended for the client. -/
inductive Answer
  | failed (message : String)
  | answered (authorized : Bool) (message : String)
deriving DecidableEq

def Answer.toResult : Answer → AuthResult
  | .failed message => ⟨false, message, false, false⟩
  | .answered authorized message => ⟨authorized, message, true, false⟩

/-- A full heartbeat is abandoned when an exception or the time limit stops it
before it is sent; the device information may have been collected by then. -/
inductive Online
  | abandoned (collected : Option (Dict String Json)) (message : String)
  | posted (collected : Dict String Json) (publicIp : String) (answer : Answer)

/-- A heartbeat that was sent: `answer` is `none` when no reply was accepted,
`savedAt` the timestamp written for the reply. -/
structure Heartbeat where
  deviceId : String
  deviceInfo : Dict String Json
  times : ℤ
  answer : Option Bool
  savedAt : Option ℚ
deriving DecidableEq

/-- Facts of the running process which the client puts into its requests. -/
structure ClientEnv where
  softwareVersion : Json
  hostname : String
  platform : String
  sdkVersion : String
  runtime : String
deriving DecidableEq

structure AuthClient where
  env : ClientEnv
  cache : AuthCache
  deviceInfo : Dict String Json
  deviceInfoDeferred : Bool
deriving DecidableEq

/-! ## Device information -/

/-- `v or {}` for a value which is meant to be an object. -/
def dictOrEmpty (v : Option Json) : Dict String Json :=
  (v.bind Json.dict?).getD .empty

def ClientEnv.baseSdk (env : ClientEnv) : Dict String Json :=
  Dict.ofList
    [("language", .str "python"), ("sdk_name", .str "py_auth_client"),
      ("sdk_version", .str env.sdkVersion), ("runtime", .str env.runtime)]

/-- The two members every device information carries. -/
def ClientEnv.label (env : ClientEnv) (info : Dict String Json) :
    Dict String Json :=
  (info.set "software_version" env.softwareVersion).set "sdk"
    (Json.ofDict env.baseSdk)

/-- `_device_info_lacks_nonblank_public_ip`. -/
def lacksPublicIp (info : Dict String Json) : Bool :=
  match (info.get "network").bind Json.dict? with
  | none => true
  | some nw =>
      match nw.get "public_ip" with
      | some (.str p) => decide (Python.strip p = "")
      | _ => true

namespace AuthClient

/-- `_ensure_full_device_info`, when the collection yields `collected`. -/
def ensureFullDeviceInfo (cl : AuthClient) (collected : Dict String Json) :
    AuthClient :=
  if cl.deviceInfoDeferred then
    { cl with
      deviceInfo := cl.env.label collected
      deviceInfoDeferred := false }
  else cl

/-- The device information of a light heartbeat. -/
def lightDeviceInfo (cl : AuthClient) : Dict String Json :=
  let di := cl.deviceInfo.set "software_version" cl.env.softwareVersion
  let sk := dictOrEmpty (di.get "sdk")
  let sk := cl.env.baseSdk.entries.foldl
    (fun sk e => if sk.contains e.1 then sk else sk.set e.1 e.2) sk
  let di := di.set "sdk" (Json.ofDict sk)
  let di :=
    if Python.truthy ((di.get "hostname").getD .null) then di
    else di.set "hostname" (.str cl.env.hostname)
  if di.contains "platform" then di
  else di.set "platform" (.str cl.env.platform)

/-- The `network` block after the public address was added.  (When it is not an
object, Python raises here, and the heartbeat counts as abandoned.) -/
def networkWith (info : Dict String Json) (publicIp : String) :
    Dict String Json :=
  let nw := dictOrEmpty (info.get "network")
  if publicIp = "" then nw else nw.set "public_ip" (.str publicIp)

/-- The device information of a full heartbeat. -/
def fullDeviceInfo (cl : AuthClient) (publicIp : String) : Dict String Json :=
  let nw := networkWith cl.deviceInfo publicIp
  if nw.isEmpty then cl.deviceInfo
  else cl.deviceInfo.set "network" (Json.ofDict nw)

/-- A fetched public address is kept in the client's own information. -/
def rememberPublicIp (cl : AuthClient) (publicIp : String) : AuthClient :=
  if publicIp = "" then cl
  else
    { cl with
      deviceInfo := cl.deviceInfo.set "network"
        (Json.ofDict (networkWith cl.deviceInfo publicIp)) }

/-! ## Heartbeats -/

/-- The device information put into the request by `_post_heartbeat`. -/
def stampHeartbeat (info : Dict String Json) (times : ℤ) : Dict String Json :=
  info.set "sdk"
    (Json.ofDict ((dictOrEmpty (info.get "sdk")).set "heartbeat_times"
      (.int times)))

/-- The heartbeat sent by `_post_heartbeat`. -/
def postHeartbeat (cl : AuthClient) (info : Dict String Json) (times : ℤ)
    (answer : Answer) : Heartbeat :=
  { deviceId := cl.cache.deviceId
    deviceInfo := stampHeartbeat info times
    times := times
    answer :=
      match answer with
      | .failed _ => none
      | .answered authorized _ => some authorized
    savedAt := none }

/-- `_check_online_fast`. -/
def checkOnlineFast (cl : AuthClient) (times : ℤ) (answer : Answer) :
    Heartbeat × AuthResult :=
  (cl.postHeartbeat cl.lightDeviceInfo times answer, answer.toResult)

/-- `_check_online`: the client after the collection, the heartbeat if one
was sent, and the result. -/
def checkOnline (cl : AuthClient) (times : ℤ) :
    Online → AuthClient × List Heartbeat × AuthResult
  | .abandoned none message => (cl, [], (Answer.failed message).toResult)
  | .abandoned (some collected) message =>
      (cl.ensureFullDeviceInfo collected, [],
        (Answer.failed message).toResult)
  | .posted collected publicIp answer =>
      let needPub := cl.deviceInfoDeferred || lacksPublicIp cl.deviceInfo
      let pub := if needPub then publicIp else ""
      let cl := cl.ensureFullDeviceInfo collected
      let sent := cl.postHeartbeat (cl.fullDeviceInfo pub) times answer
      (cl.rememberPublicIp pub, [sent], answer.toResult)

end AuthClient

/-! ## Storing the answer -/

/-- The environment of the three attempts of `_write_check_cache_retries`. -/
abbrev Attempts := { ios : List SaveEnv // ios.length = 3 }

def Attempts.success (now : ℚ) : Attempts :=
  ⟨List.replicate 3 (.success now), by simp⟩

section

variable {β : Type} (P : Primitives β)

/-- Save until an attempt succeeds; returns the timestamp of that attempt. -/
def saveAttempts (c : AuthCache) (authorized : Bool)
    (heartbeatTimes deviceInfoSnapshot : Json) :
    List SaveEnv → Storage β → Storage β × Option ℚ
  | [], st => (st, none)
  | io :: ios, st =>
      let (st, ok) :=
        c.saveCache P authorized .null heartbeatTimes deviceInfoSnapshot io st
      if ok then (st, some io.now)
      else saveAttempts c authorized heartbeatTimes deviceInfoSnapshot ios st

namespace AuthClient

variable (cl : AuthClient)

/-- `_write_check_cache_retries`; the result is `none` when no attempt
succeeded. -/
def writeCheckCacheRetries (authorized : Bool) (times : ℤ) (ios : Attempts)
    (st : Storage β) : Storage β × Option ℚ :=
  saveAttempts P cl.cache authorized
    (if authorized then .int times else .null)
    (if authorized then Json.ofDict cl.deviceInfo else .null) ios.1 st

end AuthClient

/-- What a check leaves behind and what it returns. -/
structure Checked (β : Type) where
  client : AuthClient
  storage : Storage β
  result : AuthResult
  heartbeats : List Heartbeat

/-- The heartbeats of a check, with the timestamp saved for the last one. -/
def recordSave (sent : List Heartbeat) (savedAt : Option ℚ) : List Heartbeat :=
  sent.map fun h => { h with savedAt := savedAt }

/-- The environment of one `check_authorization`. -/
structure CheckEnv where
  snapshot : SnapshotEnv
  testAt : ℚ
  online : Online
  save : Attempts

/-- The environment of one `check_authorization_progressive`. -/
structure ProgressiveEnv where
  snapshot : SnapshotEnv
  testAt : ℚ
  light : Answer
  saveLight : Attempts
  full : Online
  saveFull : Attempts
  retest : ReadEnv
  retestValid : ReadEnv
  retestAt : ℚ

namespace AuthClient

/-- The cache entry and the count a check starts from; an exception counts as
an empty cache. -/
def checkSnapshot (cl : AuthClient) (io : SnapshotEnv) (st : Storage β) :
    Storage β × Option CacheData × ℤ :=
  match cl.cache.snapshotAuthRow P io st with
  | (st, .ok r) => (st, r)
  | (st, .error _) => (st, none, 0)

/-- A full heartbeat and what follows from it: a reply is stored and
returned, and without one a valid cache entry is the answer.  (The log of the
entry's remaining time, which can raise, is `formatRemainingTime`.) -/
def onlineOrCached (cl : AuthClient) (times : ℤ) (cached : Option CacheData)
    (online : Online) (save : Attempts) (st : Storage β) : Checked β :=
  let (cl, sent, result) := cl.checkOnline times online
  if result.success then
    let (st, savedAt) :=
      cl.writeCheckCacheRetries P result.authorized times save st
    ⟨cl, st, result, recordSave sent savedAt⟩
  else
    match cached with
    | some cache => ⟨cl, st, ⟨true, cache.message, true, true⟩, sent⟩
    | none => ⟨cl, st, result, sent⟩

/-- `check_authorization`. -/
def checkAuthorization (cl : AuthClient) (io : CheckEnv) (st : Storage β) :
    Checked β :=
  let (st, cacheData, storedHb) := cl.checkSnapshot P io.snapshot st
  let cached := if cl.cache.isCacheValidDict io.testAt cacheData
    then cacheData else none
  cl.onlineOrCached P (storedHb + 1) cached io.online io.save st

/-- The full heartbeat which follows an authorised light one. -/
def completeLight (cl : AuthClient) (times : ℤ) (io : ProgressiveEnv)
    (st : Storage β) : Checked β :=
  let (cl, sent, result) := cl.checkOnline times io.full
  if result.success then
    let (st, savedAt) :=
      cl.writeCheckCacheRetries P result.authorized times io.saveFull st
    ⟨cl, st, result, recordSave sent savedAt⟩
  else
    match cl.cache.getCache P io.retest st with
    | (st, none) => ⟨cl, st, result, sent⟩
    | (st, some cache) =>
        let (st, valid) :=
          cl.cache.isCacheValid P io.retestValid io.retestAt st
        if valid then ⟨cl, st, ⟨true, cache.message, true, true⟩, sent⟩
        else ⟨cl, st, result, sent⟩

/-- `check_authorization_progressive`. -/
def checkAuthorizationProgressive (cl : AuthClient) (io : ProgressiveEnv)
    (st : Storage β) : Checked β :=
  let (st, cacheData, storedHb) := cl.checkSnapshot P io.snapshot st
  let cached := if cl.cache.isCacheValidDict io.testAt cacheData
    then cacheData else none
  let nextHb := storedHb + 1
  let (light, result) := cl.checkOnlineFast nextHb io.light
  if result.success then
    let (st, savedAt) :=
      cl.writeCheckCacheRetries P result.authorized nextHb io.saveLight st
    let sent := recordSave [light] savedAt
    if result.authorized then
      let full := cl.completeLight P (nextHb + 1) io st
      { full with heartbeats := sent ++ full.heartbeats }
    else ⟨cl, st, result, sent⟩
  else
    let full := cl.onlineOrCached P nextHb cached io.full io.saveFull st
    { full with heartbeats := light :: full.heartbeats }

/-- `can_soft_launch` at the clock reading `now`. -/
def canSoftLaunch (cl : AuthClient) (io : ReadEnv) (ioValid : ReadEnv) (now : ℚ)
    (st : Storage β) : Storage β × Bool :=
  match cl.cache.getCache P io st with
  | (st, none) => (st, false)
  | (st, some cache) =>
      if cache.authorized then cl.cache.isCacheValid P ioValid now st
      else (st, false)

/-- `clear_cache`. -/
def clearCache (cl : AuthClient) (io : ClearEnv) (st : Storage β) :
    Storage β × Bool :=
  cl.cache.clearCache P io st

end AuthClient

/-! ## Construction -/

/-- The arguments of the constructor; an empty string stands for one which
was left out. -/
structure ClientConfig where
  serverUrl : String
  softwareName : String
  deviceId : String
  deviceInfo : Option (Dict String Json)
  clientSecret : String
  cacheValidityDays : ℤ
  env : ClientEnv

/-- What the environment decides during a construction: the hardware facts
and the disk's answers. -/
structure ConstructEnv where
  load : ReadEnv
  hardware : List (Option String)
  uuid4 : String
  persist : PersistEnv
  snapshot : ReadEnv

/-- The server URL a client works with.  `AuthCache` strips it once more,
which finds nothing left to strip. -/
def ClientConfig.stateUrl (config : ClientConfig) : String :=
  rstrip (· == '/') config.serverUrl

/-- The device id of a new client: the explicit one, else the stored one, else
a new one. -/
def resolveDeviceId (config : ClientConfig) (io : ConstructEnv)
    (st : Storage β) : Storage β × String :=
  let (st, loaded) :=
    if config.deviceId ≠ "" then (st, none)
    else loadPersistedDeviceId P config.stateUrl config.softwareName io.load st
  buildDeviceId P config.stateUrl config.softwareName config.deviceId loaded
    io.hardware io.uuid4 io.persist st

/-- The device information of a new client, and whether its collection is
deferred.  A stored snapshot counts as collected. -/
def initialDeviceInfo (config : ClientConfig) (cache : AuthCache)
    (io : ReadEnv) (st : Storage β) : Storage β × Dict String Json × Bool :=
  match config.deviceInfo with
  | some info => (st, info, false)
  | none =>
      let (st, snapshot) := cache.loadDeviceInfoSnapshot P io st
      match snapshot with
      | some snapshot =>
          if snapshot.isEmpty then (st, .empty, true) else (st, snapshot, false)
      | none => (st, .empty, true)

/-- `AuthClient.__init__`; `none` when it raises for want of a secret. -/
def newAuthClient (config : ClientConfig) (io : ConstructEnv)
    (st : Storage β) : Storage β × Option AuthClient :=
  let (st, deviceId) := resolveDeviceId P config io st
  if config.clientSecret = "" then (st, none)
  else
    let cache : AuthCache :=
      ⟨config.stateUrl, config.softwareName, deviceId,
        config.cacheValidityDays⟩
    let (st, info, deferred) :=
      initialDeviceInfo P config cache io.snapshot st
    (st, some ⟨config.env, cache, config.env.label info, deferred⟩)

end

end PyAuth.Client
