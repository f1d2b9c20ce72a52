import PyAuth.Sdk.GoSnapshots
import PyAuth.Sdk.Posts

/-!
# The heartbeats of the Go SDK

This file follows `checkOnlineLight`, `checkOnline` and `executeHeartbeat` of
`client.go`, as far as they build requests.  The numbers of a device
information are finite, so that marshalling and reading it back succeed.
-/

namespace PyAuth.Go

open Support Client Sdk

/-- A plain or a progressive check. -/
inductive Check
  | plain (env : CheckEnv)
  | progressive (env : ProgressiveEnv)

/-- The full heartbeat finds these facts and this public address. -/
def Check.Finds (facts : DeviceInfo) (ip : String) : Check → Prop
  | .plain env => env.online.collected = facts ∧ env.online.publicIP = ip
  | .progressive env => env.full.collected = facts ∧ env.full.publicIP = ip

/-! ## Requests -/

/-- `json.Marshal` and `json.Unmarshal` into a map. -/
def DeviceInfo.toMap (info : DeviceInfo) : Dict String Json :=
  info.marshal.mapValues Json.asDoubles

/-- `needSysHint`. -/
def needSysHint (info : DeviceInfo) : Bool :=
  match info.sys with
  | none => true
  | some sys =>
      match sys.get "hostname" with
      | some (.str hostname) => decide (trimSpace hostname = "")
      | _ => true

/-- `m[k] == nil || m[k] == ""`. -/
def isUnset (v : Option Json) : Bool :=
  v = none || v = some .null || v = some (.str "")

namespace AuthClient

/-- A heartbeat posted by `executeHeartbeat`. -/
def post (full : Bool) (di : Dict String Json) (nextHeartbeat : ℤ) : Post :=
  ⟨full, di, dictOrEmpty (di.get "sdk"), .int nextHeartbeat⟩

variable (cl : AuthClient)

/-- The map of a light heartbeat; `host` is what `os.Hostname` returns. -/
def lightDeviceInfo (host goos : String) : Dict String Json :=
  let di := cl.deviceInfo.toMap
  if needSysHint cl.deviceInfo then
    let sysObj := dictOrEmpty (di.get "system")
    let sysObj :=
      if isUnset (sysObj.get "hostname") then sysObj.set "hostname" (.str host)
      else sysObj
    let sysObj :=
      if isUnset (sysObj.get "os") then sysObj.set "os" (.str goos)
      else sysObj
    di.set "system" (.ofDict sysObj)
  else di

/-- The map of a full heartbeat. -/
def fullDeviceInfo (pub : String) : Dict String Json :=
  let di := cl.deviceInfo.toMap
  if pub = "" then di
  else
    di.set "network"
      (.ofDict ((dictOrEmpty (di.get "network")).set "public_ip" (.str pub)))

/-- The map of a full heartbeat which finds these facts and this address. -/
def foundDeviceInfo (facts : DeviceInfo) (ip : String) : Dict String Json :=
  let needPublicIP :=
    cl.deviceInfoDeferred || deviceInfoPublicIPUnset cl.deviceInfo
  let pub := if needPublicIP then ip else ""
  (cl.ensureFullDeviceInfo facts).fullDeviceInfo pub

/-- The heartbeat posted by `checkOnlineLight`. -/
def lightPosts (host goos : String) (nextHeartbeat : ℤ) : List Post :=
  [post false (cl.lightDeviceInfo host goos) nextHeartbeat]

/-- The heartbeat posted by `checkOnline`. -/
def fullPosts (online : Online) (nextHeartbeat : ℤ) : List Post :=
  [post true (cl.foundDeviceInfo online.collected online.publicIP)
    nextHeartbeat]

end AuthClient

namespace Check

variable (cl : AuthClient) (file : StateFile)

/-- Perform the check. -/
def perform : Check → Checked
  | .plain env => cl.checkAuthorization env file
  | .progressive env => cl.checkAuthorizationProgressive env file

/-- The heartbeats which the check posts. -/
def posts (host goos : String) : Check → List Post
  | .plain env =>
      cl.fullPosts env.online
        ((cl.cache.snapshotAuthRow env.snapshot file).2.2 + 1)
  | .progressive env =>
      progressivePosts (· + 1) (cl.lightPosts host goos)
        (cl.fullPosts env.full)
        ((cl.cache.snapshotAuthRow env.snapshot file).2.2 + 1) env.light

end Check

/-- The Go SDK. -/
def sender (host goos : String) : Sender where
  Client := AuthClient
  Check := Check
  File := StateFile
  Facts := DeviceInfo
  deviceId cl := cl.cache.deviceID
  softwareName cl := cl.cache.softwareName
  check cl check file :=
    let out := check.perform cl file
    (out.client, check.posts cl file host goos, out.result)
  Finds := Check.Finds

/-! ## Steady clients -/

section

variable {info : DeviceInfo} {ip : String}

theorem get_toMap_network :
    info.toMap.get "network" =
      info.network.map fun nw => .ofDict (nw.mapValues Json.asDoubles) := by
  rw [DeviceInfo.toMap, Dict.get_mapValues, get_marshal info (by decide)]
  cases info.network <;> simp [Json.asDoubles_ofDict]

theorem dictOrEmpty_network :
    dictOrEmpty (info.toMap.get "network") =
      (info.network.getD .empty).mapValues Json.asDoubles := by
  rw [get_toMap_network]
  cases info.network with
  | none => rfl
  | some nw => simp [dictOrEmpty]

variable (info ip) in
/-- The public address is the only thing that is added. -/
theorem get_toMap_setPublicIP (k : String) :
    (info.setPublicIP ip).toMap.get k =
      if k = "network" then
        some (.ofDict ((dictOrEmpty (info.toMap.get "network")).set
          "public_ip" (.str ip)))
      else info.toMap.get k := by
  split
  next hk =>
    rw [hk, dictOrEmpty_network, get_toMap_network]
    change some (Json.ofDict (Dict.mapValues _ (Dict.set _ _ _))) = _
    rw [Dict.mapValues_set]
    rfl
  next hk =>
    simp only [DeviceInfo.toMap, Dict.get_mapValues, DeviceInfo.marshal,
      Dict.get_ofList, List.reverse_append, List.lookup_append,
      lookup_blockMember, hk, if_false]
    rfl

end

namespace AuthClient

variable {cl : AuthClient} {facts : DeviceInfo} {ip pub : String}

/-- A remembered address is in the map, whether it is fetched again or not. -/
theorem fullDeviceInfo_setPublicIP (hip : ip ≠ "")
    (hpub : pub = "" ∨ pub = ip) :
    (AuthClient.fullDeviceInfo
      { cl with deviceInfo := cl.deviceInfo.setPublicIP ip } pub).get =
        (cl.fullDeviceInfo ip).get := by
  funext k
  have hget (k : String) := get_toMap_setPublicIP cl.deviceInfo ip k
  have hnetwork : dictOrEmpty ((cl.deviceInfo.setPublicIP ip).toMap.get
      "network") = (dictOrEmpty (cl.deviceInfo.toMap.get "network")).set
        "public_ip" (.str ip) := by
    simp [hget, dictOrEmpty]
  rw [fullDeviceInfo, fullDeviceInfo, if_neg hip, Dict.get_set]
  rcases hpub with rfl | rfl
  · rw [if_pos rfl, hget]
  · rw [if_neg hip, Dict.get_set, hnetwork,
      Dict.set_of_get (Dict.get_set_self ..), hget]
    split <;> rfl

theorem ensureFullDeviceInfo_of_not_deferred
    (h : cl.deviceInfoDeferred = false) :
    cl.ensureFullDeviceInfo facts = cl := by
  simp [ensureFullDeviceInfo, h]

theorem deviceInfoDeferred_ensureFullDeviceInfo (cl : AuthClient)
    (facts : DeviceInfo) :
    (cl.ensureFullDeviceInfo facts).deviceInfoDeferred = false := by
  rw [ensureFullDeviceInfo]
  split
  · rfl
  next h => exact Bool.eq_false_iff.mpr h

/-- A full heartbeat leaves a client whose next one carries the same
information. -/
theorem foundDeviceInfo_checkOnline (answer : Answer) :
    ((cl.checkOnline ⟨facts, ip, answer⟩).1.foundDeviceInfo facts ip).get =
      (cl.foundDeviceInfo facts ip).get := by
  have hensure := deviceInfoDeferred_ensureFullDeviceInfo cl facts
  simp only [checkOnline, foundDeviceInfo]
  by_cases hneed :
      (cl.deviceInfoDeferred || deviceInfoPublicIPUnset cl.deviceInfo) = true
  · simp only [hneed, if_true]
    by_cases hip : ip = ""
    · simp [hip, ensureFullDeviceInfo_of_not_deferred hensure]
    · rw [if_neg hip,
        ensureFullDeviceInfo_of_not_deferred (by exact hensure)]
      exact fullDeviceInfo_setPublicIP hip (ite_eq_or_eq ..).symm
  · rw [Bool.not_eq_true, Bool.or_eq_false_iff] at hneed
    simp [hneed, ensureFullDeviceInfo_of_not_deferred]

end AuthClient

section

variable {cl : AuthClient} {file : StateFile} {check : Check}
  {facts : DeviceInfo} {ip : String}

theorem client_checkOnlineAndPersist (times : ℤ) (online : Online)
    (save : Attempts) :
    (cl.checkOnlineAndPersist times online save file).client =
      (cl.checkOnline online).1 := by
  rw [AuthClient.checkOnlineAndPersist]
  dsimp only
  split <;> rfl

theorem client_orCached (cached : Option CacheData) (out : Checked) :
    (AuthClient.orCached cached out).client = out.client := by
  unfold AuthClient.orCached
  split
  · rfl
  · cases cached <;> rfl

theorem client_completeLight (times : ℤ) (env : ProgressiveEnv) :
    (cl.completeLight times env file).client = (cl.checkOnline env.full).1 := by
  have hfull :
      (cl.checkOnlineAndPersist times env.full env.saveFull file).client =
        (cl.checkOnline env.full).1 := client_checkOnlineAndPersist ..
  unfold AuthClient.completeLight
  dsimp only
  split_ifs
  · exact hfull
  · split <;> exact hfull
  · exact hfull

variable (cl file) in
/-- A check leaves the client as it was, or as its full heartbeat does. -/
theorem client_perform (h : check.Finds facts ip) :
    (check.perform cl file).client = cl ∨
      ∃ answer, (check.perform cl file).client =
        (cl.checkOnline ⟨facts, ip, answer⟩).1 := by
  cases check with
  | plain env =>
      obtain ⟨rfl, rfl⟩ := h
      right
      refine ⟨env.online.answer, ?_⟩
      rw [Check.perform, AuthClient.checkAuthorization]
      exact (client_orCached ..).trans (client_checkOnlineAndPersist ..)
  | progressive env =>
      obtain ⟨rfl, rfl⟩ := h
      rw [Check.perform, AuthClient.checkAuthorizationProgressive]
      dsimp only
      rw [client_orCached, AuthClient.checkOnlineProgressive]
      dsimp only
      split_ifs
      · exact Or.inr ⟨env.full.answer, client_completeLight ..⟩
      · exact Or.inl rfl
      · exact Or.inr ⟨env.full.answer, client_checkOnlineAndPersist ..⟩

variable (cl file) in
/-- What is found stays the same from check to check. -/
theorem foundDeviceInfo_perform (h : check.Finds facts ip) :
    ((check.perform cl file).client.foundDeviceInfo facts ip).get =
      (cl.foundDeviceInfo facts ip).get := by
  rcases client_perform cl file h with hclient | ⟨answer, hclient⟩
  · rw [hclient]
  · rw [hclient, AuthClient.foundDeviceInfo_checkOnline]

/-- The full heartbeats of a check carry the information that is found. -/
theorem posts_of_finds {host goos : String} (h : check.Finds facts ip)
    {p : Post} (hp : p ∈ check.posts cl file host goos)
    (hfull : p.full = true) :
    ∃ times, p = AuthClient.post true (cl.foundDeviceInfo facts ip) times := by
  cases check with
  | plain env =>
      obtain ⟨rfl, rfl⟩ := h
      exact ⟨_, List.mem_singleton.mp hp⟩
  | progressive env =>
      obtain ⟨rfl, rfl⟩ := h
      rw [Check.posts] at hp
      rcases mem_progressivePosts hp with hlight | ⟨times, hp⟩
      · obtain rfl := List.mem_singleton.mp hlight
        cases hfull
      · exact ⟨times, List.mem_singleton.mp hp⟩

end

/-- The Go SDK is steady. -/
def sender_steady (host goos : String) : (sender host goos).Steady where
  template facts ip cl := AuthClient.post true (cl.foundDeviceInfo facts ip) 0
  posts_matches := by
    intro facts ip cl check file h p hp hfull
    obtain ⟨times, rfl⟩ := posts_of_finds h hp hfull
    exact ⟨rfl, rfl⟩
  next_matches := by
    intro facts ip cl check file h
    have hinfo := foundDeviceInfo_perform cl file h
    exact ⟨hinfo, congrArg dictOrEmpty (congrFun hinfo "sdk")⟩

end PyAuth.Go
