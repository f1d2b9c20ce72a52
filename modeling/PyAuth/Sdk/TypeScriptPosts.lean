import PyAuth.Sdk.Posts
import PyAuth.TypeScript.AuthClient

/-!
# The heartbeats of the TypeScript SDK

This file follows `checkOnlineLight`, `checkOnline` and
`postHeartbeatDeviceInfo` of `client.ts`, as far as they build requests.  As
long as the collected facts and the public address stay, all full heartbeats
of a client carry the same device information.
-/

namespace PyAuth.TypeScript

open Support Client Sdk

/-- A plain or a progressive check. -/
inductive Check
  | plain (env : CheckEnv)
  | progressive (env : ProgressiveEnv)

/-- The heartbeat is posted with these facts and this public address. -/
def Online.Finds (facts : Dict String Json) (ip : String) (online : Online) :
    Prop :=
  ∃ answer, online = .posted facts ip answer

def Check.Finds (facts : Dict String Json) (ip : String) : Check → Prop
  | .plain env => env.online.Finds facts ip
  | .progressive env => env.full.Finds facts ip

/-! ## Requests -/

/-- `Boolean(v)`. -/
def truthy : Json → Bool
  | .null => false
  | .bool b => b
  | .int n => decide (n ≠ 0)
  | .float x => decide (x ≠ .fin 0 ∧ x ≠ .nan)
  | .str s => decide (s ≠ "")
  | .arr _ | .obj _ => true

/-- `hostname?.trim()`, where an absent name counts as an empty one; `none`
when it throws. -/
def trimmedHostname : Option Json → Option String
  | none | some .null => some ""
  | some (.str s) => some (trim s)
  | some _ => none

/-- `deviceInfoPayload.sdk ?? baseSdk(process.version)`. -/
def sdkOf (runtime : String) (info : Dict String Json) : Dict String Json :=
  match info.get "sdk" with
  | none | some .null => baseSdk runtime
  | some v => v.dict?.getD .empty

namespace AuthClient

/-- A heartbeat posted by `postHeartbeatDeviceInfo`.  A count is written
without a fraction, and compares as the integer. -/
def post (runtime : String) (full : Bool) (info : Dict String Json)
    (heartbeatTimes : Double) : Post :=
  ⟨full, info.mapValues stringify, (sdkOf runtime info).mapValues stringify,
    stringify (.float heartbeatTimes)⟩

variable (cl : AuthClient)

/-- The information of a light heartbeat, `none` when it throws; `hostname` is
what `os.hostname()` returns. -/
def lightDeviceInfo (hostname platform : String) :
    Option (Dict String Json) :=
  let system := dictOrEmpty (cl.deviceInfo.get "system")
  (trimmedHostname (system.get "hostname")).map fun trimmed =>
    let host := if trimmed = "" then hostname else trimmed
    let os := ((system.get "os").filter truthy).getD (.str platform)
    (cl.deviceInfo.set "software_version" (.str cl.softwareVersion)).set
      "system" (.ofDict ((system.set "hostname" (.str host)).set "os" os))

/-- The information of a full heartbeat. -/
def fullDeviceInfo (pub : String) : Dict String Json :=
  let nw := networkOf cl.deviceInfo
  let nw := if pub = "" then nw else nw.set "public_ip" (.str pub)
  if nw.isEmpty then cl.deviceInfo
  else cl.deviceInfo.set "network" (.ofDict nw)

/-- The information of a full heartbeat which finds these facts and this
address. -/
def foundDeviceInfo (facts : Dict String Json) (ip : String) :
    Dict String Json :=
  let needPublicIp := cl.deviceInfoDeferred || !hasPublicIp cl.deviceInfo
  let pub := if needPublicIp then ip else ""
  (cl.ensureFullDeviceInfo facts).fullDeviceInfo pub

/-- The heartbeat posted by `checkOnlineLight`. -/
def lightPosts (hostname platform : String) (heartbeatTimes : Double) :
    List Post :=
  match cl.lightDeviceInfo hostname platform with
  | some info => [post cl.runtime false info heartbeatTimes]
  | none => []

/-- The heartbeat posted by `checkOnline`. -/
def fullPosts (online : Online) (heartbeatTimes : Double) : List Post :=
  match online with
  | .raised _ => []
  | .posted facts ip _ =>
      [post cl.runtime true (cl.foundDeviceInfo facts ip) heartbeatTimes]

end AuthClient

namespace Check

variable (cl : AuthClient) (file : StateFile)

/-- Perform the check. -/
def perform : Check → Checked
  | .plain env => cl.checkAuthorization env file
  | .progressive env => cl.checkAuthorizationProgressive env file

/-- The heartbeats which the check posts. -/
def posts (hostname platform : String) : Check → List Post
  | .plain env =>
      cl.fullPosts env.online (plusOne
        (cl.cache.snapshotForAuthorizationCheck env.snapshot file).2.2)
  | .progressive env =>
      progressivePosts plusOne (cl.lightPosts hostname platform)
        (cl.fullPosts env.full)
        (plusOne
          (cl.cache.snapshotForAuthorizationCheck env.snapshot file).2.2)
        env.light

end Check

/-- The TypeScript SDK. -/
def sender (hostname platform : String) : Sender where
  Client := AuthClient
  Check := Check
  File := StateFile
  Facts := Dict String Json
  deviceId cl := cl.cache.deviceId
  softwareName cl := cl.cache.softwareName
  check cl check file :=
    let out := check.perform cl file
    (out.client, check.posts cl file hostname platform, out.result)
  Finds := Check.Finds

/-! ## Steady clients -/

namespace AuthClient

variable {cl : AuthClient} {facts : Dict String Json} {ip pub : String}

@[simp] theorem networkOf_set {info nw : Dict String Json} :
    networkOf (info.set "network" (.ofDict nw)) = nw := by
  simp [networkOf]

/-- A remembered address is in the information, whether it is fetched again or
not. -/
theorem fullDeviceInfo_remembered (hip : ip ≠ "")
    (hpub : pub = "" ∨ pub = ip) :
    AuthClient.fullDeviceInfo
      { cl with
        deviceInfo := cl.deviceInfo.set "network"
          (.ofDict ((networkOf cl.deviceInfo).set "public_ip" (.str ip))) }
        pub = cl.fullDeviceInfo ip := by
  simp only [fullDeviceInfo, networkOf_set, if_neg hip, Dict.isEmpty_set,
    Bool.false_eq_true, if_false]
  rcases hpub with rfl | rfl
  · rw [if_pos rfl, Dict.isEmpty_set, if_neg Bool.false_ne_true]
    exact Dict.set_of_get (Dict.get_set_self ..)
  · rw [if_neg hip, Dict.set_of_get (Dict.get_set_self ..), Dict.isEmpty_set,
      if_neg Bool.false_ne_true]
    exact Dict.set_of_get (Dict.get_set_self ..)

theorem ensureFullDeviceInfo_of_not_deferred
    (h : cl.deviceInfoDeferred = false) :
    cl.ensureFullDeviceInfo facts = cl := by
  simp [ensureFullDeviceInfo, h]

theorem deviceInfoDeferred_ensureFullDeviceInfo (cl : AuthClient)
    (facts : Dict String Json) :
    (cl.ensureFullDeviceInfo facts).deviceInfoDeferred = false := by
  rw [ensureFullDeviceInfo]
  split
  · rfl
  next h => exact Bool.eq_false_iff.mpr h

theorem runtime_checkOnline (online : Online) :
    (cl.checkOnline online).1.runtime = cl.runtime := by
  cases online with
  | raised message => rfl
  | posted collected publicIp answer =>
      have hensure : (cl.ensureFullDeviceInfo collected).runtime =
          cl.runtime := by
        rw [ensureFullDeviceInfo]
        split <;> rfl
      rw [← hensure]
      dsimp only [checkOnline]
      split_ifs <;> rfl

/-- A full heartbeat leaves a client whose next one carries the same
information. -/
theorem foundDeviceInfo_checkOnline (answer : Answer) :
    (cl.checkOnline (.posted facts ip answer)).1.foundDeviceInfo facts ip =
      cl.foundDeviceInfo facts ip := by
  have hensure := deviceInfoDeferred_ensureFullDeviceInfo cl facts
  simp only [checkOnline, foundDeviceInfo]
  by_cases hneed :
      (cl.deviceInfoDeferred || !hasPublicIp cl.deviceInfo) = true
  · simp only [hneed, if_true]
    by_cases hip : ip = ""
    · simp [hip, ensureFullDeviceInfo_of_not_deferred hensure]
    · rw [if_neg hip,
        ensureFullDeviceInfo_of_not_deferred (by exact hensure)]
      exact fullDeviceInfo_remembered hip (ite_eq_or_eq ..).symm
  · rw [Bool.not_eq_true, Bool.or_eq_false_iff] at hneed
    simp [hneed, ensureFullDeviceInfo_of_not_deferred]

end AuthClient

section

variable {cl : AuthClient} {file : StateFile} {check : Check}
  {facts : Dict String Json} {ip : String}

theorem client_checkOnlineAndPersist (times : Double) (online : Online)
    (save : SaveEnv) (orElse : AuthResult → AuthResult) :
    (cl.checkOnlineAndPersist times online save orElse file).client =
      (cl.checkOnline online).1 := by
  rw [AuthClient.checkOnlineAndPersist]
  dsimp only
  split <;> rfl

variable (cl file) in
/-- A check leaves the client as it was, or as its full heartbeat does. -/
theorem client_perform (h : check.Finds facts ip) :
    (check.perform cl file).client = cl ∨
      ∃ answer, (check.perform cl file).client =
        (cl.checkOnline (.posted facts ip answer)).1 := by
  cases check with
  | plain env =>
      obtain ⟨answer, honline⟩ := h
      right
      refine ⟨answer, ?_⟩
      rw [← honline]
      exact client_checkOnlineAndPersist ..
  | progressive env =>
      obtain ⟨answer, honline⟩ := h
      rw [Check.perform, AuthClient.checkAuthorizationProgressive]
      dsimp only
      cases env.light.toResult.success with
      | false =>
          right
          refine ⟨answer, ?_⟩
          rw [← honline]
          exact client_checkOnlineAndPersist ..
      | true =>
          cases env.light.toResult.authorized with
          | false => exact Or.inl rfl
          | true =>
              right
              refine ⟨answer, ?_⟩
              rw [← honline]
              exact client_checkOnlineAndPersist ..

variable (cl file) in
/-- What is found stays the same from check to check. -/
theorem foundDeviceInfo_perform (h : check.Finds facts ip) :
    (check.perform cl file).client.foundDeviceInfo facts ip =
        cl.foundDeviceInfo facts ip ∧
      (check.perform cl file).client.runtime = cl.runtime := by
  rcases client_perform cl file h with hclient | ⟨answer, hclient⟩
  · rw [hclient]
    exact ⟨rfl, rfl⟩
  · rw [hclient, AuthClient.foundDeviceInfo_checkOnline,
      AuthClient.runtime_checkOnline]
    exact ⟨rfl, rfl⟩

/-- The full heartbeats of a check carry the information that is found. -/
theorem posts_of_finds {hostname platform : String}
    (h : check.Finds facts ip) {p : Post}
    (hp : p ∈ check.posts cl file hostname platform) (hfull : p.full = true) :
    ∃ times, p =
      AuthClient.post cl.runtime true (cl.foundDeviceInfo facts ip) times := by
  cases check with
  | plain env =>
      obtain ⟨answer, honline⟩ := h
      rw [Check.posts, honline] at hp
      exact ⟨_, List.mem_singleton.mp hp⟩
  | progressive env =>
      obtain ⟨answer, honline⟩ := h
      rw [Check.posts, honline] at hp
      rcases mem_progressivePosts hp with hlight | ⟨times, hp⟩
      · rw [AuthClient.lightPosts] at hlight
        split at hlight
        · obtain rfl := List.mem_singleton.mp hlight
          cases hfull
        · cases hlight
      · exact ⟨times, List.mem_singleton.mp hp⟩

end

/-- The TypeScript SDK is steady. -/
def sender_steady (hostname platform : String) :
    (sender hostname platform).Steady where
  template facts ip cl :=
    AuthClient.post cl.runtime true (cl.foundDeviceInfo facts ip) (.fin 0)
  posts_matches := by
    intro facts ip cl check file h p hp hfull
    obtain ⟨times, rfl⟩ := posts_of_finds h hp hfull
    exact ⟨rfl, rfl⟩
  next_matches := by
    intro facts ip cl check file h
    obtain ⟨hinfo, hruntime⟩ := foundDeviceInfo_perform cl file h
    exact ⟨congrArg (fun info : Dict String Json =>
        (info.mapValues stringify).get) hinfo,
      congrArg₂ (fun runtime (info : Dict String Json) =>
        (sdkOf runtime info).mapValues stringify) hruntime hinfo⟩

end PyAuth.TypeScript
