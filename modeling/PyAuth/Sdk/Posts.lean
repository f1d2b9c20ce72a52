import PyAuth.Client.AuthClient
import PyAuth.Support.Equality

/-!
# What the clients post

A heartbeat carries the device information of its client, and in the `sdk`
block of it the number of the heartbeat.  `Sender` is what the development
needs of an SDK: what a check posts, and what it leaves of the client.  For a
steady sender all full heartbeats of a run carry the same information.
-/

namespace PyAuth.Sdk

open Support Client

/-! ## Heartbeats in requests -/

/-- A light or full heartbeat: the device information, its `sdk` block, and
the number which is put into this block. -/
structure Post where
  full : Bool
  info : Dict String Json
  sdk : Dict String Json
  times : Json
deriving DecidableEq

namespace Post

variable {p q : Post}

/-- The `device_info` of the request. -/
def deviceInfo (p : Post) : Dict String Json :=
  p.info.set "sdk" (.ofDict (p.sdk.set "heartbeat_times" p.times))

/-- The `device_info` without the number. -/
def content (p : Post) : Json :=
  .ofDict (p.info.set "sdk" (.ofDict (p.sdk.erase "heartbeat_times")))

/-- The same information, with any numbers. -/
structure Matches (p q : Post) : Prop where
  info : p.info.get = q.info.get
  sdk : p.sdk = q.sdk

theorem Matches.symm (h : p.Matches q) : q.Matches p :=
  ⟨h.info.symm, h.sdk.symm⟩

theorem Matches.trans {r : Post} (h : p.Matches q) (h' : q.Matches r) :
    p.Matches r :=
  ⟨h.info.trans h'.info, h.sdk.trans h'.sdk⟩

/-- The information is equal when the numbers are and so is the rest. -/
theorem eq_deviceInfo_iff :
    Python.eq (.ofDict p.deviceInfo) (.ofDict q.deviceInfo) = true ↔
      Python.itemEq p.times q.times = true ∧
        Python.eq p.content q.content = true := by
  simp only [deviceInfo, content, Python.eq_ofDict_set_iff,
    Python.itemEq_ofDict, and_assoc]

theorem distinctKeys_content
    (h : (Json.ofDict p.deviceInfo).distinctKeys = true) :
    p.content.distinctKeys = true := by
  rw [deviceInfo, Json.distinctKeys_ofDict_iff] at h
  have hsdk := h "sdk" _ (Dict.get_set_self ..)
  rw [Json.distinctKeys_ofDict_iff] at hsdk
  rw [content, Json.distinctKeys_ofDict_iff]
  intro k v hk
  by_cases hkey : k = "sdk"
  · rw [hkey, Dict.get_set_self, Option.some.injEq] at hk
    rw [← hk, Json.distinctKeys_ofDict_iff]
    intro l w hl
    rw [Dict.get_erase] at hl
    split at hl
    · cases hl
    next hne => exact hsdk l w (by rw [Dict.get_set_of_ne hne, hl])
  · rw [Dict.get_set_of_ne hkey] at hk
    exact h k v (by rw [Dict.get_set_of_ne hkey, hk])

/-- Matching information is equal. -/
theorem Matches.eq_content (h : p.Matches q)
    (hp : p.content.distinctKeys = true) :
    Python.eq p.content q.content = true := by
  have hself := Python.eq_self hp (by simp [content, Json.ofDict])
  have hget : (p.info.set "sdk" (.ofDict (p.sdk.erase
      "heartbeat_times"))).get = (q.info.set "sdk" (.ofDict (q.sdk.erase
      "heartbeat_times"))).get := by
    funext x
    rw [Dict.get_set, Dict.get_set, h.info, h.sdk]
  rwa [content, Python.eq_ofDict_congr rfl hget] at hself

/-- The heartbeat says again what another one said: it carries the same
number, and the information which a light heartbeat shares with a full one
only by chance. -/
structure Repeats (q p : Post) : Prop where
  times : Python.itemEq q.times p.times = true
  content : (q.full && p.full) = false →
    Python.eq q.content p.content = true

/-- Of matching full heartbeats exactly those are equal which repeat. -/
theorem eq_deviceInfo_iff_repeats
    (hq : (Json.ofDict q.deviceInfo).distinctKeys = true)
    (hmatches : q.full = true → p.full = true → q.Matches p) :
    Python.eq (.ofDict q.deviceInfo) (.ofDict p.deviceInfo) = true ↔
      q.Repeats p := by
  rw [eq_deviceInfo_iff]
  constructor
  · rintro ⟨htimes, hcontent⟩
    exact ⟨htimes, fun _ => hcontent⟩
  · intro h
    refine ⟨h.times, ?_⟩
    cases hfull : q.full && p.full with
    | true =>
        rw [Bool.and_eq_true] at hfull
        exact (hmatches hfull.1 hfull.2).eq_content (distinctKeys_content hq)
    | false => exact h.content hfull

end Post

/-- The heartbeats of a progressive check; `n` is the number of the first. -/
def progressivePosts {ν : Type} (next : ν → ν) (light full : ν → List Post)
    (n : ν) : Answer → List Post
  | .failed _ => light n ++ full n
  | .answered true _ => light n ++ full (next n)
  | .answered false _ => light n

theorem mem_progressivePosts {ν : Type} {next : ν → ν}
    {light full : ν → List Post} {n : ν} {answer : Answer} {p : Post}
    (h : p ∈ progressivePosts next light full n answer) :
    p ∈ light n ∨ ∃ m, p ∈ full m := by
  cases answer with
  | failed message =>
      exact (List.mem_append.mp h).imp_right fun h => ⟨n, h⟩
  | answered authorized message =>
      cases authorized with
      | true => exact (List.mem_append.mp h).imp_right fun h => ⟨next n, h⟩
      | false => exact Or.inl h

/-! ## Runs of checks -/

/-- An SDK, as far as its heartbeats are concerned. -/
structure Sender where
  Client : Type
  Check : Type
  File : Type
  Facts : Type
  deviceId : Client → String
  softwareName : Client → String
  /-- The client after a check, what the check posted, and its result. -/
  check : Client → Check → File → Client × List Post × AuthResult
  /-- The full heartbeat of the check finds these facts and this public
  address. -/
  Finds : Facts → String → Check → Prop

namespace Sender

variable (S : Sender)

/-- What a client posts in a run of checks, each on the file it finds. -/
def posts (cl : S.Client) : List (S.Check × S.File) → List Post
  | [] => []
  | (check, file) :: checks =>
      (S.check cl check file).2.1 ++
        posts (S.check cl check file).1 checks

/-- The results of the checks. -/
def results (cl : S.Client) : List (S.Check × S.File) → List AuthResult
  | [] => []
  | (check, file) :: checks =>
      (S.check cl check file).2.2 ::
        results (S.check cl check file).1 checks

/-- As long as the facts and the public address stay, the full heartbeats of a
client carry the information of `template`. -/
structure Steady where
  template : S.Facts → String → S.Client → Post
  posts_matches : ∀ {facts ip cl check file}, S.Finds facts ip check →
    ∀ p ∈ (S.check cl check file).2.1, p.full = true →
      p.Matches (template facts ip cl)
  next_matches : ∀ {facts ip cl check file}, S.Finds facts ip check →
    (template facts ip (S.check cl check file).1).Matches
      (template facts ip cl)

variable {S}

/-- All full heartbeats of a run match. -/
theorem Steady.matches_template (hS : S.Steady) {facts : S.Facts}
    {ip : String} {cl : S.Client} {checks : List (S.Check × S.File)}
    (hfinds : ∀ c ∈ checks, S.Finds facts ip c.1) :
    ∀ p ∈ S.posts cl checks, p.full = true →
      p.Matches (hS.template facts ip cl) := by
  induction checks generalizing cl with
  | nil => simp [posts]
  | cons c checks ih =>
      obtain ⟨hc, hchecks⟩ := List.forall_mem_cons.mp hfinds
      intro p hp hfull
      rcases List.mem_append.mp hp with hp | hp
      · exact hS.posts_matches hc p hp hfull
      · exact (ih hchecks p hp hfull).trans (hS.next_matches hc)

end Sender

end PyAuth.Sdk
