import Mathlib.Tactic.IntervalCases
import PyAuth.Client.Post
import PyAuth.Sdk.GoPosts
import PyAuth.Sdk.PythonPosts
import PyAuth.Sdk.Snapshots
import PyAuth.Sdk.TypeScriptPosts
import PyAuth.Server.Comparison

/-!
# Steady heartbeats

A client whose facts, public address, software and version stay the same sends
the same information in every full heartbeat, but for the number of the
heartbeat.  The server compares the number too.  So a heartbeat goes unnoticed
exactly when it repeats the one before it, and the count of authorised
heartbeats makes every other one a change of the device.
-/

namespace PyAuth.Protocol

open Support Sdk Server

/-! ## Runs of the official clients -/

/-- The heartbeats of the official clients; `host` and `os` are what the light
ones ask the operating system for. -/
def officialSender {β : Type} (P : Client.Primitives β) (host os : String) :
    Language → Sender
  | .python => Client.sender P
  | .go => Go.sender host os
  | .typeScript => TypeScript.sender host os

def officialSender_steady {β : Type} (P : Client.Primitives β)
    (host os : String) : (lang : Language) →
    (officialSender P host os lang).Steady
  | .python => Client.sender_steady P
  | .go => Go.sender_steady host os
  | .typeScript => TypeScript.sender_steady host os

/-- A client and the checks it makes, each on the file it finds. -/
structure ClientRun (S : Sender) where
  client : S.Client
  checks : List (S.Check × S.File)

namespace ClientRun

variable {S : Sender} (r : ClientRun S)

def deviceId : String := S.deviceId r.client

def posts : List Post := S.posts r.client r.checks

def results : List Client.AuthResult := S.results r.client r.checks

/-- The request of a heartbeat, as the server reads it. -/
def request (p : Post) : DeviceAuthRequest :=
  ⟨r.deviceId, some (S.softwareName r.client), some p.deviceInfo⟩

/-- The data of the request, as it is sealed. -/
def requestData (p : Post) : Json :=
  Json.ofDict (.ofList
    [("device_id", .str r.deviceId),
      ("software_name", .str (S.softwareName r.client)),
      ("device_info", .ofDict p.deviceInfo)])

variable {κ α : Type} [DecidableEq α] (T : Transport κ) (clientSecret : String)
  (e : ℕ → ServerEvent κ α)

/-- Event `k` is the heartbeat `p` of the run. -/
def Received (k : ℕ) (p : Post) (env : ProcessEnv) : Prop :=
  p ∈ r.posts ∧
    (e k).heartbeatOf T clientSecret r.deviceId = some (r.request p, env)

/-- The Python client posts what `_post_heartbeat` makes of an information. -/
theorem requestData_post {β : Type} {P : Client.Primitives β}
    (r : ClientRun (Client.sender P)) (full : Bool) (info : Dict String Json)
    (times : ℤ) :
    r.requestData (Client.AuthClient.post full info times) =
      Client.requestData r.deviceId r.client.cache.softwareName info times :=
  rfl

variable {T clientSecret}

/-- The server reads every request as it was meant. -/
theorem heartbeatOf_requestData (hsecret : clientSecret ≠ "") (p : Post)
    (salt salt' : ℕ) (env : ProcessEnv) (broadcast : BroadcastEnv α) :
    (ServerEvent.heartbeat salt env broadcast (.encrypted
      (T.encrypt clientSecret salt' (r.requestData p)))).heartbeatOf T
        clientSecret r.deviceId = some (r.request p, env) := by
  have hrequest : deviceAuthRequest (r.requestData p) =
      some (r.request p) := by
    rw [deviceAuthRequest, requestData, Json.dict?_ofDict]
    simp [Dict.get_ofList, Dict.lookup_cons_eq, request]
  simp [ServerEvent.heartbeatOf, heartbeatRequest, decryptRequestData,
    hsecret, T.decrypt_encrypt, truthy_of_deviceAuthRequest hrequest,
    hrequest, request]

end ClientRun

/-! ## What the server notices -/

section

variable {S : Sender} {r : ClientRun S} {facts : S.Facts} {ip : String}
  {κ α : Type} [DecidableEq α] {T : Transport κ} {clientSecret : String}
  {B : Backend} {e : ℕ → ServerEvent κ α} {t₀ : Tables} {i j k n : ℕ}
  {row : ℕ → Device} {p q : Post} {env env' : ProcessEnv}

/-- Of two heartbeats in a row the second goes unnoticed if and only if it
repeats the first. -/
theorem unnoticed_iff_repeats (hS : S.Steady)
    (hfinds : ∀ c ∈ r.checks, S.Finds facts ip c.1)
    (hkeys : ∀ p ∈ r.posts, (Json.ofDict p.deviceInfo).distinctKeys = true)
    (hlife : Lifetime (tablesAt T clientSecret B e t₀) r.deviceId i n row)
    (hij : i ≤ j) (hjk : j < k) (hkn : k < n)
    (hp : r.Received T clientSecret e j p env)
    (hq : r.Received T clientSecret e k q env')
    (hlast : ∀ m, j < m → m < k →
      (e m).heartbeatOf T clientSecret r.deviceId = none) :
    Unnoticed (r.request q) env' (row k) (row (k + 1)) ↔ q.Repeats p := by
  obtain ⟨hmem, hheartbeat⟩ := hp
  obtain ⟨hmem', hheartbeat'⟩ := hq
  have hreflects : Reflects (r.request p) p.deviceInfo (row k) :=
    hlife.reflects hij hjk hkn.le hheartbeat rfl rfl hlast
  have hid := hlife.deviceId_row (by omega : i < k) hkn.le
  have hrow : row (k + 1) = (r.request q).refresh env' (row k) := by
    rw [hlife.row_succ (by omega) hkn, ServerEvent.evolve_of_heartbeatOf
      (by rw [hid]; exact hheartbeat')]
  have hmatches (hfull' : q.full = true) (hfull : p.full = true) :
      q.Matches p :=
    (hS.matches_template hfinds q hmem' hfull').trans
      (hS.matches_template hfinds p hmem hfull).symm
  have hcompared : Unnoticed (r.request q) env' (row k) (row (k + 1)) ↔
      Python.eq (.ofDict q.deviceInfo) (.ofDict p.deviceInfo) = true :=
    hreflects.unnoticed_iff (hkeys p hmem) rfl rfl hrow
  rw [hcompared, Post.eq_deviceInfo_iff_repeats (hkeys q hmem') hmatches]

end

/-- **Which steady heartbeats are no device change.**  An official client
collects the same facts and finds the same public address at all checks of a
run, and the server hears its device from no one else.  Then, whatever else
the server handles, every heartbeat after the registration leaves
`software_name`, `device_info` and `updated_at` alone and moves `last_check`
only, if and only if each of them carries the number of the heartbeat before
it and, where one of the two is a light heartbeat, otherwise the same
information. -/
theorem steady_heartbeats_unnoticed_iff {β κ α : Type} [DecidableEq α]
    (P : Client.Primitives β) (host os : String) (lang : Language)
    (r : ClientRun (officialSender P host os lang))
    (facts : (officialSender P host os lang).Facts) (ip : String)
    (T : Transport κ) (clientSecret : String) (B : Backend)
    (e : ℕ → ServerEvent κ α) (t₀ : Tables) (i n : ℕ) (row : ℕ → Device)
    (hfinds : ∀ c ∈ r.checks,
      (officialSender P host os lang).Finds facts ip c.1)
    (hkeys : ∀ p ∈ r.posts, (Json.ofDict p.deviceInfo).distinctKeys = true)
    (hlife : Lifetime (tablesAt T clientSecret B e t₀) r.deviceId i n row)
    (hsent : ∀ k request env, i ≤ k → k < n →
      (e k).heartbeatOf T clientSecret r.deviceId = some (request, env) →
      ∃ p ∈ r.posts, request = r.request p) :
    (∀ k request env, i < k → k < n →
      (e k).heartbeatOf T clientSecret r.deviceId = some (request, env) →
      Unnoticed request env (row k) (row (k + 1))) ↔
    ∀ j k p q env env', i ≤ j → j < k → k < n →
      r.Received T clientSecret e j p env →
      r.Received T clientSecret e k q env' →
      (∀ m, j < m → m < k →
        (e m).heartbeatOf T clientSecret r.deviceId = none) →
      q.Repeats p := by
  constructor
  · intro h j k p q env env' hij hjk hkn hp hq hlast
    exact (unnoticed_iff_repeats (officialSender_steady P host os lang)
      hfinds hkeys hlife hij hjk hkn hp hq hlast).mp
        (h k _ env' (by omega) hkn hq.2)
  · intro h k request env hik hkn hk
    obtain ⟨j, request', env', hij, hjk, hj, hlast⟩ :=
      hlife.exists_last_heartbeat hik
    obtain ⟨q, hq, rfl⟩ := hsent k request env hik.le hkn hk
    obtain ⟨p, hp, rfl⟩ := hsent j request' env' hij (by omega) hj
    exact (unnoticed_iff_repeats (officialSender_steady P host os lang)
      hfinds hkeys hlife hij hjk hkn ⟨hp, hj⟩ ⟨hq, hk⟩ hlast).mpr
        (h j k p q env' env hij hjk hkn ⟨hp, hj⟩ ⟨hq, hk⟩ hlast)

/-! ## Two checks of one client -/

section Examples

open Client (Storage Symbol Primitives)

/-- What is collected at every check. -/
def steadyInfo : Go.DeviceInfo :=
  { Go.DeviceInfo.zero with sys := some (.ofList [("hostname", .str "host")]) }

/-- Two plain checks of one client, both answered by the server; the second
finds the file which the first one leaves. -/
def twoChecks (authorized : Bool) : (lang : Language) →
    ClientRun (officialSender Primitives.symbolic "host" "linux" lang)
  | .python =>
      let cl : Client.AuthClient :=
        ⟨⟨.str "1.0.0", "host", "linux", "0.1.0", "python3"⟩,
          ⟨"https://auth.example", "editor", "D", 7⟩, .empty, true⟩
      let check (now : ℚ) : Client.Check := .plain (.success now
        (.posted steadyInfo.marshal "192.0.2.1" (.answered authorized "")) now)
      let st : Storage Symbol := .fresh
      ⟨cl, [(check 100, st), (check 200, ((check 100).perform .symbolic cl
        st).storage)]⟩
  | .go =>
      let cl : Go.AuthClient :=
        ⟨"1.0.0", "go1.21", Go.newAuthCache "editor" "D" 7, .zero, true⟩
      let check (now : ℚ) : Go.Check := .plain (.success .forward now
        ⟨steadyInfo, "192.0.2.1", .answered authorized ""⟩ now)
      ⟨cl, [(check 100, .absent),
        (check 200, ((check 100).perform cl .absent).file)]⟩
  | .typeScript =>
      let cl : TypeScript.AuthClient :=
        ⟨"1.0.0", "node18", TypeScript.newAuthCache "editor" "D" 7, .empty,
          true⟩
      let check (now : ℚ) : TypeScript.Check := .plain (.success now
        (.posted steadyInfo.marshal "192.0.2.1" (.answered authorized "")) now)
      ⟨cl, [(check 100, .absent),
        (check 200, ((check 100).perform cl .absent).file)]⟩

/-- The server handles the heartbeats of the run, one after another. -/
def ClientRun.events {S : Sender} (r : ClientRun S) (k : ℕ) :
    ServerEvent (String × ℕ × Json) String :=
  match r.posts[k]? with
  | some p =>
      .heartbeat k ⟨k, k, k, k⟩ quietBroadcast
        (.encrypted (Transport.symbolic.encrypt "secret" k (r.requestData p)))
  | none => .admin "admin" (.quiet quietBroadcast) none

/-- A new server whose new devices are authorised or not. -/
def newServer (authorized : Bool) : Tables :=
  { emptyTables with
    config := .ofList [("default_authorization", .bool authorized)] }

def exampleTables {S : Sender} (r : ClientRun S) (authorized : Bool) :
    ℕ → Tables :=
  tablesAt .symbolic "secret" .plain r.events (newServer authorized)

def exampleRow {S : Sender} (r : ClientRun S) (authorized : Bool) (k : ℕ) :
    Device :=
  ((exampleTables r authorized k).device? "D").getD (registeredDevice "D")

/-- The facts which the checks find. -/
def steadyFacts : (lang : Language) →
    (officialSender Primitives.symbolic "host" "linux" lang).Facts
  | .python => steadyInfo.marshal
  | .go => steadyInfo
  | .typeScript => steadyInfo.marshal

theorem finds_twoChecks (authorized : Bool) (lang : Language) :
    ∀ c ∈ (twoChecks authorized lang).checks,
      (officialSender Primitives.symbolic "host" "linux" lang).Finds
        (steadyFacts lang) "192.0.2.1" c.1 := by
  cases lang with
  | python =>
      simp only [twoChecks, List.forall_mem_cons]
      exact ⟨⟨_, rfl⟩, ⟨_, rfl⟩, by simp⟩
  | go =>
      simp only [twoChecks, List.forall_mem_cons]
      exact ⟨⟨rfl, rfl⟩, ⟨rfl, rfl⟩, by simp⟩
  | typeScript =>
      simp only [twoChecks, List.forall_mem_cons]
      exact ⟨⟨_, rfl⟩, ⟨_, rfl⟩, by simp⟩

theorem lifetime_twoChecks (authorized : Bool) (lang : Language) :
    Lifetime (exampleTables (twoChecks authorized lang) authorized) "D" 0 2
      (exampleRow (twoChecks authorized lang) authorized) := by
  refine ⟨by decide, rfl, fun k hk hk' => ?_⟩
  interval_cases k <;> cases authorized <;> cases lang <;> decide +kernel

theorem ClientRun.received_events {S : Sender} {r : ClientRun S} {k : ℕ}
    {p : Post} (h : r.posts[k]? = some p) :
    r.Received .symbolic "secret" r.events k p ⟨k, k, k, k⟩ := by
  refine ⟨List.mem_of_getElem? h, ?_⟩
  rw [events, h]
  exact r.heartbeatOf_requestData (by decide) p k k _ quietBroadcast

theorem ClientRun.request_of_events {S : Sender} {r : ClientRun S} {k : ℕ}
    {request : DeviceAuthRequest} {env : ProcessEnv}
    (h : (r.events k).heartbeatOf .symbolic "secret" r.deviceId =
      some (request, env)) : ∃ p ∈ r.posts, request = r.request p := by
  cases hp : r.posts[k]? with
  | none =>
      rw [events, hp] at h
      cases h
  | some p =>
      have hreceived := received_events hp
      rw [hreceived.2, Option.some.injEq, Prod.mk.injEq] at h
      exact ⟨p, hreceived.1, h.1.symm⟩

/-- A device which is not authorised keeps its number, and goes unnoticed. -/
theorem steady_heartbeats_unnoticed_refused :
    (exampleRow (twoChecks false .python) false 2).updatedAt =
        (exampleRow (twoChecks false .python) false 1).updatedAt ∧
      ∀ k request env, 0 < k → k < 2 →
        ((twoChecks false .python).events k).heartbeatOf .symbolic "secret"
          "D" = some (request, env) →
        Unnoticed request env (exampleRow (twoChecks false .python) false k)
          (exampleRow (twoChecks false .python) false (k + 1)) := by
  have hposts : ∀ p ∈ (twoChecks false .python).posts,
      ∀ q ∈ (twoChecks false .python).posts,
        Python.itemEq q.times p.times = true ∧
          (q.full && p.full) = true := by
    decide +kernel
  refine ⟨by decide +kernel, ?_⟩
  refine (steady_heartbeats_unnoticed_iff .symbolic "host" "linux" .python
    (twoChecks false .python) (steadyFacts .python) "192.0.2.1" .symbolic
    "secret" .plain (twoChecks false .python).events (newServer false) 0 2
    (exampleRow (twoChecks false .python) false)
    (finds_twoChecks false .python) (by decide +kernel)
    (lifetime_twoChecks false .python)
    (fun k request env _ _ h => ClientRun.request_of_events h)).mpr ?_
  intro j k p q env env' _ _ _ hp hq _
  obtain ⟨htimes, hfull⟩ := hposts p hp.1 q hq.1
  exact ⟨htimes, fun h => by simp [hfull] at h⟩

/-- The client finds the same at both checks and both succeed, but the second
heartbeat counts as a device change. -/
def NoticesSteady (lang : Language) : Prop :=
  let r := twoChecks true lang
  (∀ c ∈ r.checks,
    (officialSender Primitives.symbolic "host" "linux" lang).Finds
      (steadyFacts lang) "192.0.2.1" c.1) ∧
  (∀ result ∈ r.results, result = ⟨true, "", true, false⟩) ∧
  Lifetime (exampleTables r true) "D" 0 2 (exampleRow r true) ∧
  ∃ q env, r.Received .symbolic "secret" r.events 1 q env ∧ q.full = true ∧
    ¬Unnoticed (r.request q) env (exampleRow r true 1) (exampleRow r true 2) ∧
    (exampleRow r true 2).updatedAt ≠ (exampleRow r true 1).updatedAt

theorem noticesSteady (lang : Language) : NoticesSteady lang := by
  have hsecond : ((twoChecks true lang).posts[1]?).any (fun q => q.full &&
      ((twoChecks true lang).request q).changesInfo
        (exampleRow (twoChecks true lang) true 1)) = true := by
    cases lang <;> decide +kernel
  cases hq : (twoChecks true lang).posts[1]? with
  | none =>
      rw [hq] at hsecond
      cases hsecond
  | some q =>
      rw [hq, Option.any_some, Bool.and_eq_true] at hsecond
      refine ⟨finds_twoChecks true lang, ?_, lifetime_twoChecks true lang, q,
        _, ClientRun.received_events hq, hsecond.1, fun h => ?_, ?_⟩
      · cases lang <;> decide +kernel
      · exact Bool.false_ne_true (h.deviceInfo.symm.trans hsecond.2)
      · cases lang <;> decide +kernel

/-- In each SDK the second of two authorised checks changes the device. -/
theorem steady_heartbeats_noticed :
    NoticesSteady .python ∧ NoticesSteady .go ∧ NoticesSteady .typeScript :=
  ⟨noticesSteady .python, noticesSteady .go, noticesSteady .typeScript⟩

end Examples

end PyAuth.Protocol
