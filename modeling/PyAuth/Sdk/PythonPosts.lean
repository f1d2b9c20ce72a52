import PyAuth.Sdk.Posts

/-!
# The heartbeats of the Python SDK

What the checks of one client post.  As long as the collected facts and the
public address stay, all its full heartbeats carry the same device
information.
-/

namespace PyAuth.Client

open Support Sdk

/-- A plain or a progressive check. -/
inductive Check
  | plain (env : CheckEnv)
  | progressive (env : ProgressiveEnv)

/-- The heartbeat is posted with these facts and this public address. -/
def Online.Finds (facts : Dict String Json) (ip : String) (online : Online) :
    Prop :=
  ∃ answer, online = .posted facts ip answer

def Check.Finds (facts : Dict String Json) (ip : String) : Check → Prop
  | .plain env => env.online.Finds facts ip
  | .progressive env => env.full.Finds facts ip

namespace AuthClient

/-- A heartbeat posted by `_post_heartbeat`. -/
def post (full : Bool) (info : Dict String Json) (times : ℤ) : Post :=
  ⟨full, info, dictOrEmpty (info.get "sdk"), .int times⟩

theorem deviceInfo_post {full : Bool} {info : Dict String Json} {times : ℤ} :
    (post full info times).deviceInfo = stampHeartbeat info times := rfl

/-- The information of a full heartbeat which finds these facts and this
address. -/
def foundDeviceInfo (cl : AuthClient) (facts : Dict String Json)
    (ip : String) : Dict String Json :=
  let pub :=
    if cl.deviceInfoDeferred || lacksPublicIp cl.deviceInfo then ip else ""
  (cl.ensureFullDeviceInfo facts).fullDeviceInfo pub

/-- The heartbeat posted by `_check_online_fast`. -/
def lightPosts (cl : AuthClient) (times : ℤ) : List Post :=
  [post false cl.lightDeviceInfo times]

/-- The heartbeat posted by `_check_online`. -/
def fullPosts (cl : AuthClient) (online : Online) (times : ℤ) : List Post :=
  match online with
  | .abandoned _ _ => []
  | .posted facts ip _ => [post true (cl.foundDeviceInfo facts ip) times]

end AuthClient

namespace Check

variable {β : Type} (P : Primitives β) (cl : AuthClient) (st : Storage β)

/-- Perform the check. -/
def perform : Check → Checked β
  | .plain env => cl.checkAuthorization P env st
  | .progressive env => cl.checkAuthorizationProgressive P env st

/-- The heartbeats which the check posts. -/
def posts : Check → List Post
  | .plain env =>
      cl.fullPosts env.online ((cl.checkSnapshot P env.snapshot st).2.2 + 1)
  | .progressive env =>
      progressivePosts (· + 1) cl.lightPosts (cl.fullPosts env.full)
        ((cl.checkSnapshot P env.snapshot st).2.2 + 1) env.light

end Check

/-- The Python SDK. -/
def sender {β : Type} (P : Primitives β) : Sender where
  Client := AuthClient
  Check := Check
  File := Storage β
  Facts := Dict String Json
  deviceId cl := cl.cache.deviceId
  softwareName cl := cl.cache.softwareName
  check cl check st :=
    let out := check.perform P cl st
    (out.client, check.posts P cl st, out.result)
  Finds := Check.Finds

/-! ## The heartbeats of a check -/

section

variable {β : Type} {P : Primitives β} {cl : AuthClient} {st : Storage β}

theorem heartbeats_checkOnline (times : ℤ) (online : Online) :
    (cl.checkOnline times online).2.1.map Heartbeat.deviceInfo =
      (cl.fullPosts online times).map Post.deviceInfo := by
  cases online with
  | abandoned collected message => cases collected <;> rfl
  | posted collected publicIp answer => rfl

theorem heartbeats_recordSave (sent : List Heartbeat) (savedAt : Option ℚ) :
    (recordSave sent savedAt).map Heartbeat.deviceInfo =
      sent.map Heartbeat.deviceInfo := by
  simp [recordSave, Function.comp_def]

/-- A full heartbeat, and what is left of the client. -/
theorem onlineOrCached_posts (times : ℤ) (cached : Option CacheData)
    (online : Online) (save : Attempts) :
    (cl.onlineOrCached P times cached online save st).client =
        (cl.checkOnline times online).1 ∧
      (cl.onlineOrCached P times cached online save st).heartbeats.map
          Heartbeat.deviceInfo =
        (cl.fullPosts online times).map Post.deviceInfo := by
  rw [← heartbeats_checkOnline, AuthClient.onlineOrCached]
  dsimp only
  split
  · exact ⟨rfl, heartbeats_recordSave ..⟩
  · cases cached <;> exact ⟨rfl, rfl⟩

theorem completeLight_posts (times : ℤ) (env : ProgressiveEnv) :
    (cl.completeLight P times env st).client =
        (cl.checkOnline times env.full).1 ∧
      (cl.completeLight P times env st).heartbeats.map Heartbeat.deviceInfo =
        (cl.fullPosts env.full times).map Post.deviceInfo := by
  rw [← heartbeats_checkOnline, AuthClient.completeLight]
  dsimp only
  split
  · exact ⟨rfl, heartbeats_recordSave ..⟩
  · split
    · exact ⟨rfl, rfl⟩
    · split <;> exact ⟨rfl, rfl⟩

/-- The heartbeats of a check are the ones it posts. -/
theorem heartbeats_perform (check : Check) :
    (check.perform P cl st).heartbeats.map Heartbeat.deviceInfo =
      (check.posts P cl st).map Post.deviceInfo := by
  cases check with
  | plain env =>
      rw [Check.perform, AuthClient.checkAuthorization]
      exact (onlineOrCached_posts ..).2
  | progressive env =>
      simp only [Check.perform, AuthClient.checkAuthorizationProgressive,
        Check.posts, AuthClient.checkOnlineFast]
      cases hlight : env.light with
      | failed message =>
          simp only [Answer.toResult, progressivePosts, List.map_append]
          exact congrArg _ (onlineOrCached_posts ..).2
      | answered authorized message =>
          cases authorized with
          | true =>
              simp only [Answer.toResult, progressivePosts, List.map_append,
                if_true, heartbeats_recordSave]
              exact congrArg _ (completeLight_posts ..).2
          | false => rfl

variable (P cl st) in
/-- A check leaves the client as it was, or as its full heartbeat does. -/
theorem client_perform {check : Check} {facts : Dict String Json}
    {ip : String} (h : check.Finds facts ip) :
    (check.perform P cl st).client = cl ∨
      ∃ times answer, (check.perform P cl st).client =
        (cl.checkOnline times (.posted facts ip answer)).1 := by
  cases check with
  | plain env =>
      obtain ⟨answer, honline⟩ := h
      rw [Check.perform, AuthClient.checkAuthorization]
      exact Or.inr ⟨_, answer, by rw [(onlineOrCached_posts ..).1, honline]⟩
  | progressive env =>
      obtain ⟨answer, honline⟩ := h
      simp only [Check.perform, AuthClient.checkAuthorizationProgressive,
        AuthClient.checkOnlineFast]
      cases hlight : env.light with
      | failed message =>
          right
          refine ⟨(cl.checkSnapshot P env.snapshot st).2.2 + 1, answer, ?_⟩
          simp only [Answer.toResult, Bool.false_eq_true, if_false]
          rw [(onlineOrCached_posts ..).1, honline]
      | answered authorized message =>
          cases authorized with
          | true =>
              right
              refine ⟨(cl.checkSnapshot P env.snapshot st).2.2 + 1 + 1, answer,
                ?_⟩
              simp only [Answer.toResult, if_true]
              rw [(completeLight_posts ..).1, honline]
          | false => exact Or.inl rfl

end

/-! ## Steady clients -/

@[simp] theorem dictOrEmpty_ofDict (d : Dict String Json) :
    dictOrEmpty (some (.ofDict d)) = d := by
  simp [dictOrEmpty]

namespace AuthClient

variable {cl : AuthClient} {facts : Dict String Json} {ip pub : String}

theorem networkWith_set {info nw : Dict String Json} :
    networkWith (info.set "network" (.ofDict nw)) pub =
      if pub = "" then nw else nw.set "public_ip" (.str pub) := by
  simp [networkWith]

/-- A remembered address is in the information, whether it is fetched again or
not. -/
theorem fullDeviceInfo_rememberPublicIp (hip : ip ≠ "")
    (hpub : pub = "" ∨ pub = ip) :
    (cl.rememberPublicIp ip).fullDeviceInfo pub = cl.fullDeviceInfo ip := by
  have hnw : networkWith (cl.deviceInfo.set "network"
      (.ofDict (networkWith cl.deviceInfo ip))) pub =
        networkWith cl.deviceInfo ip := by
    rw [networkWith_set]
    rcases hpub with rfl | rfl
    · rfl
    · rw [if_neg hip, Dict.set_of_get]
      simp [networkWith, hip]
  have hempty : (networkWith cl.deviceInfo ip).isEmpty = false := by
    simp [networkWith, hip]
  simp only [rememberPublicIp, if_neg hip, fullDeviceInfo, hnw, hempty,
    Bool.false_eq_true, if_false]
  exact Dict.set_of_get (Dict.get_set_self ..)

theorem ensureFullDeviceInfo_of_not_deferred
    (h : cl.deviceInfoDeferred = false) : cl.ensureFullDeviceInfo facts = cl := by
  simp [ensureFullDeviceInfo, h]

theorem deviceInfoDeferred_ensureFullDeviceInfo (cl : AuthClient)
    (facts : Dict String Json) :
    (cl.ensureFullDeviceInfo facts).deviceInfoDeferred = false := by
  rw [ensureFullDeviceInfo]
  split
  · rfl
  next h => exact Bool.eq_false_iff.mpr h

/-- A full heartbeat leaves a client whose next one carries the same
information. -/
theorem foundDeviceInfo_checkOnline (times : ℤ) (answer : Answer) :
    (cl.checkOnline times (.posted facts ip answer)).1.foundDeviceInfo facts
      ip = cl.foundDeviceInfo facts ip := by
  have hensure := deviceInfoDeferred_ensureFullDeviceInfo cl facts
  simp only [checkOnline, foundDeviceInfo]
  by_cases hneed : (cl.deviceInfoDeferred || lacksPublicIp cl.deviceInfo) = true
  · simp only [hneed, if_true]
    by_cases hip : ip = ""
    · simp [hip, rememberPublicIp, ensureFullDeviceInfo_of_not_deferred hensure]
    · rw [ensureFullDeviceInfo_of_not_deferred
        (by simpa [rememberPublicIp, hip] using hensure)]
      exact fullDeviceInfo_rememberPublicIp hip (ite_eq_or_eq ..).symm
  · rw [Bool.not_eq_true, Bool.or_eq_false_iff] at hneed
    simp [hneed, rememberPublicIp, ensureFullDeviceInfo_of_not_deferred]

end AuthClient

/-- The full heartbeats of a check carry the information that is found. -/
theorem posts_of_finds {β : Type} {P : Primitives β} {cl : AuthClient}
    {st : Storage β} {check : Check} {facts : Dict String Json} {ip : String}
    (h : check.Finds facts ip) {p : Post} (hp : p ∈ check.posts P cl st)
    (hfull : p.full = true) :
    ∃ times, p = AuthClient.post true (cl.foundDeviceInfo facts ip) times := by
  cases check with
  | plain env =>
      obtain ⟨answer, honline⟩ := h
      rw [Check.posts, honline] at hp
      exact ⟨_, List.mem_singleton.mp hp⟩
  | progressive env =>
      obtain ⟨answer, honline⟩ := h
      rw [Check.posts, honline] at hp
      rcases mem_progressivePosts hp with hlight | ⟨times, hp⟩
      · obtain rfl := List.mem_singleton.mp hlight
        cases hfull
      · exact ⟨times, List.mem_singleton.mp hp⟩

/-- What is found stays the same from check to check. -/
theorem foundDeviceInfo_perform {β : Type} (P : Primitives β)
    (cl : AuthClient) (st : Storage β) {check : Check}
    {facts : Dict String Json} {ip : String} (h : check.Finds facts ip) :
    (check.perform P cl st).client.foundDeviceInfo facts ip =
      cl.foundDeviceInfo facts ip := by
  rcases client_perform P cl st h with hclient | ⟨times, answer, hclient⟩
  · rw [hclient]
  · rw [hclient, AuthClient.foundDeviceInfo_checkOnline]

/-- The Python SDK is steady. -/
def sender_steady {β : Type} (P : Primitives β) : (sender P).Steady where
  template facts ip cl := AuthClient.post true (cl.foundDeviceInfo facts ip) 0
  posts_matches := by
    intro facts ip cl check st h p hp hfull
    obtain ⟨times, rfl⟩ := posts_of_finds h hp hfull
    exact ⟨rfl, rfl⟩
  next_matches := by
    intro facts ip cl check st h
    have hinfo := foundDeviceInfo_perform P cl st h
    exact ⟨congrArg Dict.get hinfo,
      congrArg (fun info : Dict String Json => dictOrEmpty (info.get "sdk"))
        hinfo⟩

end PyAuth.Client
