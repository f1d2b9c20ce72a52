import PyAuth.Client.Calls
import PyAuth.Client.Construction

/-!
# Offline authorisation is sound

Whole runs of one client.  The storage stays backed by the licence of the
history, so a call which goes on without the server does so under the last
answer the run got.
-/

namespace PyAuth.Client

open Support

/-- One client, its disk, and what has happened so far. -/
structure Session (β : Type) where
  client : AuthClient
  storage : Storage β
  history : List Event

namespace Session

variable {β : Type} (P : Primitives β)

def step (s : Session β) (call : Call) : Session β :=
  let out := call.perform P s.client s.storage
  ⟨out.client, out.storage, s.history ++ out.events⟩

/-- The session after a sequence of calls. -/
def run (s : Session β) (calls : List Call) : Session β :=
  calls.foldl (step P) s

variable {P}

/-- The storage of the session is backed by the licence of its history. -/
def Backed (P : Primitives β) (s : Session β) : Prop :=
  Client.Backed P s.client.cache s.storage (licence s.history)

theorem step_spec {s : Session β} (hs : s.Backed P) (call : Call) :
    (s.step P call).client.cache = s.client.cache ∧
      (s.step P call).Backed P := by
  obtain ⟨hcache, hbacked, -, -⟩ := perform_spec call hs
  refine ⟨hcache, ?_⟩
  simp only [Backed, step, hcache, licence_append]
  exact hbacked

theorem run_spec {s : Session β} (hs : s.Backed P) (calls : List Call) :
    (s.run P calls).client.cache = s.client.cache ∧
      (s.run P calls).Backed P := by
  apply List.foldlRecOn (motive := fun s' : Session β =>
    s'.client.cache = s.client.cache ∧ s'.Backed P)
  · exact ⟨rfl, hs⟩
  rintro s' ⟨hcache, hbacked⟩ call -
  obtain ⟨hcache', hbacked'⟩ := step_spec hbacked call
  exact ⟨hcache'.trans hcache, hbacked'⟩

end Session

/-- A client without a state file has nothing to go on. -/
theorem currentTs_of_no_file {β : Type} {P : Primitives β} {c : AuthCache}
    {st : Storage β} (h : st.files (bundlePath P c.serverUrl) = none) :
    c.currentTs P st = none := by
  rw [AuthCache.currentTs, AuthCache.currentRow, stateRoot_eq, h]
  rfl

/-- The session of a client constructed without a state file is backed. -/
theorem backed_newAuthClient {β : Type} {P : Primitives β}
    {config : ClientConfig} {io : ConstructEnv} {st st' : Storage β}
    {cl : AuthClient} (hnew : newAuthClient P config io st = (st', some cl))
    (hfile : st.files (bundlePath P config.stateUrl) = none) :
    Session.Backed P ⟨cl, st', []⟩ := by
  have hbuilt : (newAuthClient P config io st).2 = some cl := by rw [hnew]
  have hcache := (cache_newAuthClient hbuilt).1
  have hurl : cl.cache.serverUrl = config.stateUrl := by rw [hcache]
  have hname : cl.cache.softwareName = config.softwareName := by rw [hcache]
  apply Client.Backed.of_currentTs_none
  have hts := currentTs_newAuthClient (P := P) io st hurl hname
  rw [hnew] at hts
  rcases hts with h | h
  · exact h
  · exact h.trans (currentTs_of_no_file (by rw [hurl]; exact hfile))

/-- A call which goes on without the server does so under the last answer of
the history, which was an authorisation and is not too old. -/
theorem exists_grant_of_offline {β : Type} {P : Primitives β}
    {cl : AuthClient} {st : Storage β} {history : List Event}
    (hst : Backed P cl.cache st (licence history)) (call : Call)
    (hoffline : (call.perform P cl st).reply.Offline) :
    ∃ pre hb post ts,
      history ++ (call.perform P cl st).events =
          pre ++ Event.heartbeat hb :: post ∧
        hb.answer = some true ∧ (∀ e ∈ post, e.Unanswered) ∧
        hb.savedAt = some ts ∧
        call.testedAt - ts < cl.cache.cacheValiditySeconds := by
  obtain ⟨-, -, hfresh, -⟩ := perform_spec call hst
  obtain ⟨ts, hlicence, hage⟩ := hfresh hoffline
  rw [← licence_append] at hlicence
  obtain ⟨pre, hb, post, hsplit, hgrant, hts, hpost⟩ :=
    exists_grant_of_licence hlicence
  exact ⟨pre, hb, post, ts, hsplit, hgrant, hpost, hts, hage⟩

/-- **Offline authorisation is sound.**  In a run that starts without a state
file, an authorisation taken from the cache follows an authorised heartbeat:
no later heartbeat was answered, no clearing came after it, and it was stored
less than the validity before the cache was tested. -/
theorem offline_authorisation_sound {β : Type} {P : Primitives β}
    {config : ClientConfig} {io : ConstructEnv} {st st' : Storage β}
    {cl : AuthClient} (hnew : newAuthClient P config io st = (st', some cl))
    (hfile : st.files (bundlePath P config.stateUrl) = none)
    (calls : List Call) {s : Session β}
    (hs : Session.run P ⟨cl, st', []⟩ calls = s)
    (call : Call) (result : AuthResult)
    (hreply : (call.perform P s.client s.storage).reply = .checked result)
    (hauthorized : result.authorized = true)
    (hcache : result.fromCache = true) :
    ∃ pre hb post ts,
      (s.step P call).history = pre ++ Event.heartbeat hb :: post ∧
        hb.answer = some true ∧ (∀ e ∈ post, e.Unanswered) ∧
        hb.savedAt = some ts ∧
        call.testedAt - ts < cl.cache.cacheValiditySeconds := by
  obtain ⟨hclient, hbacked⟩ :=
    Session.run_spec (backed_newAuthClient hnew hfile) calls
  rw [hs] at hclient hbacked
  have hoffline : (call.perform P s.client s.storage).reply.Offline := by
    rw [hreply]
    exact ⟨hauthorized, hcache⟩
  have hgrant := exists_grant_of_offline hbacked call hoffline
  rwa [show s.client.cache = cl.cache from hclient] at hgrant

/-! ## A client that was authorised once -/

def exampleEnv : ClientEnv :=
  ⟨.str "1.0.0", "host", "Linux-6.1", "0.1.3", "3.12.0"⟩

/-- The arguments of a client whose device id may be given. -/
def exampleConfig (deviceId : String) : ClientConfig :=
  ⟨"https://auth.example", "editor", deviceId, none, "secret", 7, exampleEnv⟩

def exampleConstruct : ConstructEnv :=
  ⟨.success, [some "02:42:ac:11:00:02"], "", .success, .success⟩

/-- The client which `exampleConfig` yields on an empty disk. -/
def exampleClient (deviceId : String) : AuthClient :=
  ⟨exampleEnv, ⟨"https://auth.example", "editor", deviceId, 7⟩,
    exampleEnv.label .empty, true⟩

/-- A check that is answered, and one that is not. -/
def answeredCheck (authorized : Bool) (now : ℚ) : Call :=
  .check now (.posted .empty "" (.answered authorized "")) now

def unansweredCheck (now : ℚ) : Call :=
  .check now (.posted .empty "" (.failed "连接失败")) now

theorem newAuthClient_exampleConfig :
    (newAuthClient .symbolic (exampleConfig "D") exampleConstruct .fresh).2 =
      some (exampleClient "D") := by
  decide +kernel

theorem offline_authorisation_sound_after_one_check :
    ∃ pre hb post ts,
      ((Session.run .symbolic
          ⟨exampleClient "D", (newAuthClient .symbolic (exampleConfig "D")
            exampleConstruct .fresh).1, []⟩
          [answeredCheck true 100]).step .symbolic
            (unansweredCheck 200)).history =
          pre ++ Event.heartbeat hb :: post ∧
        hb.answer = some true ∧ (∀ e ∈ post, e.Unanswered) ∧
        hb.savedAt = some ts ∧
        (unansweredCheck 200).testedAt - ts <
          (exampleClient "D").cache.cacheValiditySeconds :=
  offline_authorisation_sound (Prod.ext rfl newAuthClient_exampleConfig) rfl
    [answeredCheck true 100] rfl (unansweredCheck 200)
    ⟨true, "设备已授权", true, true⟩ (by decide +kernel) rfl rfl

end PyAuth.Client
