import PyAuth.Sdk.GoProducts
import PyAuth.Sdk.PythonProducts
import PyAuth.Sdk.TypeScriptProducts

/-!
# The three SDKs on one file

A client of each SDK makes the same call on the same file: the clock readings
are shared, the heartbeats end alike and the information to be stored is the
same.  `Shared` says so, and `Regular` what else is needed for the three to
return the same verdict and to leave the same rows.  Each SDK refines the
table machine, and the agreement follows.
-/

namespace PyAuth.Sdk

open Support Client

/-! ## One call in every SDK -/

/-- A client of each SDK. -/
structure Clients where
  python : Client.AuthClient
  go : Go.AuthClient
  typeScript : TypeScript.AuthClient

/-- A call of each client.  The orders in which Go visits maps stand in its
environment, which repeats the clock readings. -/
inductive JointCall
  | check (testAt saveAt : ℚ) (python : Client.Online) (go : Go.CheckEnv)
      (typeScript : TypeScript.Online)
  | progressive (testAt saveLightAt saveFullAt retestAt : ℚ) (light : Answer)
      (python : Client.Online) (go : Go.ProgressiveEnv)
      (typeScript : TypeScript.Online)
  | clear (go : Go.ClearEnv)
  | persist (go : Go.PersistEnv)

/-- The file after a call, and the verdict of a check. -/
structure Effect where
  file : StateFile
  verdict : Option Verdict
deriving DecidableEq

/-- All calls return the same verdict and leave an object with the same
rows. -/
def Agree (effects : List Effect) : Prop :=
  ∃ T verdict, ∀ effect ∈ effects,
    effect.file.content.map tableOf = some T ∧ effect.verdict = verdict

namespace JointCall

/-- The call of the Python client. -/
def python {β : Type} (P : Primitives β) (cl : Client.AuthClient)
    (st : Storage β) (call : JointCall) : Effect :=
  let file := stateFile P cl.cache.serverUrl
  match call with
  | .check testAt saveAt online _ _ =>
      let out := cl.checkAuthorization P (.success testAt online saveAt) st
      ⟨file out.storage, some (verdictOf out.result)⟩
  | .progressive testAt saveLightAt saveFullAt retestAt light full _ _ =>
      let out := cl.checkAuthorizationProgressive P
        (.success testAt light saveLightAt full saveFullAt retestAt) st
      ⟨file out.storage, some (verdictOf out.result)⟩
  | .clear _ => ⟨file (cl.cache.clearCache P .success st).1, none⟩
  | .persist _ =>
      ⟨file (persistDeviceId P cl.cache.serverUrl cl.cache.softwareName
        cl.cache.deviceId .success st).1, none⟩

/-- The call of the Go client. -/
def go (cl : Go.AuthClient) (file : StateFile) : JointCall → Effect
  | .check _ _ _ env _ =>
      let out := cl.checkAuthorization env file
      ⟨out.file, some (verdictOf out.result)⟩
  | .progressive _ _ _ _ _ _ env _ =>
      let out := cl.checkAuthorizationProgressive env file
      ⟨out.file, some (verdictOf out.result)⟩
  | .clear env => ⟨(cl.cache.clearCache env file).1, none⟩
  | .persist env => ⟨(cl.cache.persistDeviceID env file).1, none⟩

/-- The call of the TypeScript client. -/
def typeScript (cl : TypeScript.AuthClient) (file : StateFile) :
    JointCall → Effect
  | .check testAt saveAt _ _ online =>
      let out := cl.checkAuthorization (.success testAt online saveAt) file
      ⟨out.file, some (verdictOf out.result)⟩
  | .progressive testAt saveLightAt saveFullAt retestAt light _ _ full =>
      let out := cl.checkAuthorizationProgressive
        (.success testAt light saveLightAt full saveFullAt retestAt) file
      ⟨out.file, some (verdictOf out.result)⟩
  | .clear _ => ⟨(cl.cache.clearCache .success file).1, none⟩
  | .persist _ => ⟨(cl.cache.persistDeviceId .success file).1, none⟩

/-! ## What the clients share -/

/-- The clock readings. -/
def readings : JointCall → List ℚ
  | .check testAt saveAt _ _ _ => [testAt, saveAt]
  | .progressive testAt saveLightAt saveFullAt retestAt _ _ _ _ =>
      [testAt, saveLightAt, saveFullAt, retestAt]
  | .clear _ | .persist _ => []

/-- In Go too no file operation fails and the clock is the shared one. -/
def Succeeds : JointCall → Prop
  | .check testAt saveAt _ env _ =>
      env.snapshot.Succeeds ∧ env.testAt = testAt ∧ env.save.SucceedsAt saveAt
  | .progressive testAt saveLightAt saveFullAt retestAt _ _ env _ =>
      (env.snapshot.Succeeds ∧ env.retestValid.ok = true ∧
        env.retest.ok = true) ∧
      (env.testAt = testAt ∧ env.retestAt = retestAt) ∧
      env.saveLight.SucceedsAt saveLightAt ∧
        env.saveFull.SucceedsAt saveFullAt
  | .clear env => env.Succeeds
  | .persist env => env.Succeeds

/-- The light heartbeat of the Python client; a plain check has none. -/
def light (w : Clients) : JointCall → Option Reply
  | .progressive _ _ _ _ light _ _ _ => some (w.python.lightReply light)
  | _ => none

/-- The full heartbeat of the Python client. -/
def full (w : Clients) : JointCall → Option Reply
  | .check _ _ online _ _ => some (w.python.reply online)
  | .progressive _ _ _ _ _ full _ _ => some (w.python.reply full)
  | .clear _ | .persist _ => none

/-- The heartbeats end alike and leave the same information. -/
def SameReplies (w : Clients) : JointCall → Prop
  | .check _ _ online env online' =>
      w.go.reply env.online = w.python.reply online ∧
        w.typeScript.reply online' = w.python.reply online
  | .progressive _ _ _ _ light full env full' =>
      (w.go.lightReply env.light = w.python.lightReply light ∧
        w.typeScript.lightReply light = w.python.lightReply light) ∧
      w.go.reply env.full = w.python.reply full ∧
        w.typeScript.reply full' = w.python.reply full
  | .clear _ | .persist _ => True

/-- What authorised heartbeats store is stored as it is. -/
def Stores (w : Clients) : JointCall → Prop
  | .check _ _ online env online' =>
      w.python.StorableReply online ∧ w.go.StorableReply env.online ∧
        w.typeScript.StorableReply online'
  | .progressive _ _ _ _ light full env full' =>
      ((w.python.lightReply light).answer = some true →
        Storable w.python.deviceInfo ∧
          Storable w.go.deviceInfo.marshal ∧
          Storable w.typeScript.deviceInfo) ∧
      w.python.StorableReply full ∧ w.go.StorableReply env.full ∧
        w.typeScript.StorableReply full'
  | .clear _ | .persist _ => True

/-- The answer to a light heartbeat is stored at a positive clock reading. -/
def SavesLate : JointCall → Prop
  | .progressive _ saveLightAt _ _ _ _ _ _ => 0 < saveLightAt
  | _ => True

/-- Both heartbeats of a progressive check are authorised. -/
def CountsTwice (w : Clients) (call : JointCall) : Prop :=
  (call.light w).map Reply.answer = some (some true) ∧
    (call.full w).map Reply.answer = some (some true)

end JointCall

/-- The clients of one product on one device, with the same settings. -/
structure Clients.Alike (w : Clients) (softwareName deviceId : String)
    (days : ℤ) : Prop where
  python : w.python.cache =
    ⟨w.python.cache.serverUrl, softwareName, deviceId, days⟩
  go : w.go.cache = Go.newAuthCache softwareName deviceId days
  typeScript : w.typeScript.cache =
    TypeScript.newAuthCache softwareName deviceId days

/-- What the three calls have in common. -/
structure Shared (root : Root) (softwareName deviceId : String) (days : ℤ)
    (w : Clients) (call : JointCall) : Prop where
  nonempty : (root.erase "device_id").isEmpty = false
  rows : ∀ e ∈ root.entries, ∀ r ∈ appRow? Python.isSpace e,
    (fieldsOf r.2).Proper
  key : IsProductKey softwareName
  trimmed : Go.trimSpace softwareName = softwareName ∧
    TypeScript.trim softwareName = softwareName
  noProto : softwareName ≠ "__proto__"
  device : Python.strip deviceId ≠ "" ∧ Go.trimSpace deviceId ≠ "" ∧
    TypeScript.trim deviceId ≠ ""
  validity : 1 ≤ days
  clients : w.Alike softwareName deviceId days
  succeeds : call.Succeeds
  replies : call.SameReplies w
  readings : ∀ a ∈ call.readings, ∀ b ∈ call.readings, b - a < days * 86400

/-- What else the agreement needs: every SDK reads the same rows, the stored
information and the heartbeat count are numbers in all of them, and the entry
of a light heartbeat counts as one. -/
structure Regular (root : Root) (softwareName : String) (w : Clients)
    (call : JointCall) : Prop where
  clean : Clean root
  stores : call.Stores w
  savesLate : call.SavesLate
  count : call.CountsTwice w →
    ((tableOf root).own softwareName).count + 2 ≤ 2 ^ 53

/-! ## Every SDK refines the machine -/

/-- The call of the table machine. -/
def JointCall.machine (p : Product) (w : Clients) (T : Table) :
    JointCall → Table × Option Verdict
  | .check testAt saveAt online _ _ =>
      let out := p.check T testAt (w.python.reply online) saveAt
      (out.1, some out.2)
  | .progressive testAt saveLightAt saveFullAt retestAt light full _ _ =>
      let out := p.progressive T testAt (w.python.lightReply light)
        saveLightAt (w.python.reply full) saveFullAt retestAt
      (out.1, some out.2)
  | .clear _ => (p.clear T, none)
  | .persist _ => (p.persist T, none)

/-- The call does what the machine does. -/
structure Effect.Refines (effect : Effect) (abstract : Table × Option Verdict) :
    Prop where
  file : Stands effect.file abstract.1
  verdict : effect.verdict = abstract.2

theorem agree_of_refines {effects : List Effect}
    {abstract : Table × Option Verdict}
    (h : ∀ effect ∈ effects, effect.Refines abstract) : Agree effects := by
  refine ⟨abstract.1, abstract.2, ?_⟩
  intro effect heffect
  obtain ⟨⟨root, hroot, -, htable⟩, hverdict⟩ := h effect heffect
  rw [hroot, Option.map_some, htable]
  exact ⟨rfl, hverdict⟩

section Refinement

variable {β : Type} {P : Primitives β} {st : Storage β} {root : Root}
  {softwareName deviceId : String} {days : ℤ} {w : Clients} {call : JointCall}

/-- The product of the clients. -/
def productOf (softwareName deviceId : String) (days : ℤ) : Product :=
  ⟨softwareName, deviceId, days * 86400⟩

theorem Clients.Alike.product (h : w.Alike softwareName deviceId days)
    (hdays : 1 ≤ days) :
    w.python.cache.product = productOf softwareName deviceId days ∧
      w.go.cache.product = productOf softwareName deviceId days ∧
      w.typeScript.cache.product = productOf softwareName deviceId days := by
  refine ⟨?_, ?_, ?_⟩
  · rw [h.python]
    rfl
  · have hpositive : ¬ days ≤ 0 := by omega
    rw [h.go, Go.newAuthCache, if_neg hpositive]
    rfl
  · have hpositive : 0 < days := by omega
    rw [h.typeScript, TypeScript.newAuthCache, if_pos hpositive]
    rfl

theorem Shared.ordinary (h : Shared root softwareName deviceId days w call) :
    (productOf softwareName deviceId days).Ordinary :=
  ⟨h.key, h.trimmed, h.noProto, h.device⟩

theorem Shared.proper (h : Shared root softwareName deviceId days w call) :
    ((tableOf root).own softwareName).Proper := by
  rw [Table.own, tableOf]
  cases hload : (Client.loadAppsMap root).get softwareName with
  | none =>
      rw [Option.map_none, Option.getD_none]
      constructor <;> rintro v ⟨⟩
  | some row =>
      obtain ⟨k, v, hk, happ⟩ := (loads_python root).sound hload
      exact h.rows (k, v) (Dict.get_eq_some_iff.mp hk) _ happ

theorem refines_python
    (hroot : stateFile P w.python.cache.serverUrl st = .root root)
    (hshared : Shared root softwareName deviceId days w call)
    (hregular : Regular root softwareName w call) :
    (call.python P w.python st).Refines (call.machine
      (productOf softwareName deviceId days) w (tableOf root)) := by
  have hproduct := (hshared.clients.product hshared.validity).1
  have hname : w.python.cache.softwareName = softwareName :=
    congrArg Product.name hproduct
  have hst : Stands (stateFile P w.python.cache.serverUrl st)
      (tableOf root) := ⟨root, by rw [hroot]; rfl, hregular.clean, rfl⟩
  have hp := hshared.ordinary
  have hproper := hshared.proper
  have hstores := hregular.stores
  have hcount := hregular.count
  rw [← hproduct] at hp ⊢
  rw [← hname] at hproper hcount
  cases call with
  | check testAt saveAt online env online' =>
      obtain ⟨hfile, hverdict⟩ := checkAuthorization_refines hp hst hproper
        testAt saveAt hstores.1
      exact ⟨hfile, congrArg some hverdict⟩
  | progressive testAt saveLightAt saveFullAt retestAt light full env full' =>
      obtain ⟨hfile, hverdict⟩ := checkAuthorizationProgressive_refines hp
        hst hproper testAt saveLightAt saveFullAt retestAt
        (fun h => (hstores.1 h).1) hstores.2.1
        fun h h' => hcount ⟨congrArg some h, congrArg some h'⟩
      exact ⟨hfile, congrArg some hverdict⟩
  | clear env =>
      exact ⟨AuthCache.stands_clearCache hp hroot hregular.clean
        hshared.nonempty, rfl⟩
  | persist env => exact ⟨AuthCache.stands_persistDeviceId hp hst, rfl⟩

theorem refines_go (hshared : Shared root softwareName deviceId days w call)
    (hregular : Regular root softwareName w call) :
    (call.go w.go (.root root)).Refines (call.machine
      (productOf softwareName deviceId days) w (tableOf root)) := by
  have hproduct := (hshared.clients.product hshared.validity).2.1
  have hname : w.go.cache.softwareName = softwareName :=
    congrArg Product.name hproduct
  have hfile : Stands (.root root) (tableOf root) :=
    ⟨root, rfl, hregular.clean, rfl⟩
  have hp := hshared.ordinary
  have hproper := hshared.proper
  have hsucceeds := hshared.succeeds
  have hreplies := hshared.replies
  have hstores := hregular.stores
  have hcount := hregular.count
  have hreadings := hshared.readings
  have hvalidity : ((productOf softwareName deviceId days).validity : ℚ) =
      days * 86400 := by
    rw [productOf]
    push_cast
    rfl
  rw [← hproduct] at hp hvalidity ⊢
  rw [← hname] at hproper hcount
  cases call with
  | check testAt saveAt online env online' =>
      obtain ⟨hsnapshot, rfl, hsave⟩ := hsucceeds
      obtain ⟨hfile, hverdict⟩ := Go.checkAuthorization_refines hp hfile
        hproper hsnapshot hsave hstores.2.1
      rw [hreplies.1] at hfile hverdict
      exact ⟨hfile, congrArg some hverdict⟩
  | progressive testAt saveLightAt saveFullAt retestAt light full env full' =>
      obtain ⟨⟨hsnapshot, hvalid, hread⟩, ⟨rfl, rfl⟩, hlight, hfull⟩ :=
        hsucceeds
      obtain ⟨⟨hlightReply, -⟩, hfullReply, -⟩ := hreplies
      have hretest : env.retestAt - saveLightAt <
          w.go.cache.product.validity := by
        rw [hvalidity]
        exact hreadings saveLightAt (by simp [JointCall.readings])
          env.retestAt (by simp [JointCall.readings])
      obtain ⟨hfile, hverdict⟩ := Go.checkAuthorizationProgressive_refines hp
        hfile hproper hsnapshot hlight hfull hvalid hread
        (fun h => (hstores.1 (hlightReply ▸ h)).2.1) hstores.2.2.1
        (fun h h' => hcount ⟨congrArg some (hlightReply ▸ h),
          congrArg some (hfullReply ▸ h')⟩)
        hregular.savesLate hretest
      rw [hlightReply, hfullReply] at hfile hverdict
      exact ⟨hfile, congrArg some hverdict⟩
  | clear env =>
      exact ⟨Go.AuthCache.stands_clearCache hp hfile hsucceeds, rfl⟩
  | persist env =>
      exact ⟨Go.AuthCache.stands_persistDeviceID hp hfile hsucceeds, rfl⟩

theorem refines_typeScript
    (hshared : Shared root softwareName deviceId days w call)
    (hregular : Regular root softwareName w call) :
    (call.typeScript w.typeScript (.root root)).Refines (call.machine
      (productOf softwareName deviceId days) w (tableOf root)) := by
  have hproduct := (hshared.clients.product hshared.validity).2.2
  have hname : w.typeScript.cache.softwareName = softwareName :=
    congrArg Product.name hproduct
  have hfile : Stands (.root root) (tableOf root) :=
    ⟨root, rfl, hregular.clean, rfl⟩
  have hp := hshared.ordinary
  have hproper := hshared.proper
  have hreplies := hshared.replies
  have hstores := hregular.stores
  have hcount := hregular.count
  rw [← hproduct] at hp ⊢
  rw [← hname] at hproper hcount
  cases call with
  | check testAt saveAt online env online' =>
      obtain ⟨hfile, hverdict⟩ := TypeScript.checkAuthorization_refines hp
        hfile hproper testAt saveAt hstores.2.2
      rw [hreplies.2] at hfile hverdict
      exact ⟨hfile, congrArg some hverdict⟩
  | progressive testAt saveLightAt saveFullAt retestAt light full env full' =>
      obtain ⟨⟨-, hlightReply⟩, -, hfullReply⟩ := hreplies
      obtain ⟨hfile, hverdict⟩ :=
        TypeScript.checkAuthorizationProgressive_refines hp hfile hproper
          testAt saveLightAt saveFullAt retestAt
          (fun h => (hstores.1 (hlightReply ▸ h)).2.2) hstores.2.2.2
          fun h h' => hcount ⟨congrArg some (hlightReply ▸ h),
            congrArg some (hfullReply ▸ h')⟩
      rw [hlightReply, hfullReply] at hfile hverdict
      exact ⟨hfile, congrArg some hverdict⟩
  | clear env =>
      exact ⟨TypeScript.AuthCache.stands_clearCache hp hfile, rfl⟩
  | persist env =>
      exact ⟨TypeScript.AuthCache.stands_persistDeviceId hp hfile, rfl⟩

end Refinement

/-! ## Examples -/

/-- Clients which hold the information `sys`. -/
def exampleClients (sys : Option (Dict String Json)) : Clients :=
  let info : Go.DeviceInfo := { Go.DeviceInfo.zero with sys := sys }
  { python := ⟨⟨.str "1.0.0", "host", "linux", "0.1.0", "python3"⟩,
      ⟨"https://auth.example", "editor", "device", 7⟩, info.marshal, false⟩
    go := ⟨"1.0.0", "go1.21", Go.newAuthCache "editor" "device" 7, info,
      false⟩
    typeScript := ⟨"1.0.0", "node18",
      TypeScript.newAuthCache "editor" "device" 7, info.marshal, false⟩ }

/-- A storage root whose state file holds `root`. -/
def exampleStorage (root : Root) : Storage Symbol :=
  (writeStateDict .symbolic "https://auth.example" root .done .fresh).1

theorem stateFile_exampleStorage (root : Root) :
    stateFile .symbolic "https://auth.example" (exampleStorage root) =
      .root root :=
  (stateFile_writeStateDict root .done).1

/-- What the call of each example client does. -/
def exampleEffects (root : Root) (sys : Option (Dict String Json))
    (call : JointCall) : List Effect :=
  let w := exampleClients sys
  [call.python .symbolic w.python (exampleStorage root),
    call.go w.go (.root root), call.typeScript w.typeScript (.root root)]

/-- A plain check at `now` whose heartbeat ends with `answer`. -/
def exampleCheck (sys : Option (Dict String Json)) (now : ℚ)
    (answer : Answer) : JointCall :=
  let info : Go.DeviceInfo := { Go.DeviceInfo.zero with sys := sys }
  .check now now (.posted info.marshal "" answer)
    (.success .backward now ⟨info, "", answer⟩ now)
    (.posted info.marshal "" answer)

/-- A progressive check at `now` whose light heartbeat is authorised. -/
def exampleProgressive (sys : Option (Dict String Json)) (now : ℚ)
    (answer : Answer) : JointCall :=
  let info : Go.DeviceInfo := { Go.DeviceInfo.zero with sys := sys }
  .progressive now now now now (.answered true "")
    (.posted info.marshal "" answer)
    (.success .backward now (.answered true "") now ⟨info, "", answer⟩ now
      now)
    (.posted info.marshal "" answer)

theorem succeeds_exampleCheck (sys : Option (Dict String Json)) (now : ℚ)
    (answer : Answer) : (exampleCheck sys now answer).Succeeds :=
  ⟨⟨rfl, rfl, rfl⟩, rfl, Go.Attempts.succeedsAt_success now .backward⟩

theorem succeeds_exampleProgressive (sys : Option (Dict String Json))
    (now : ℚ) (answer : Answer) :
    (exampleProgressive sys now answer).Succeeds :=
  have hsave := Go.Attempts.succeedsAt_success now .backward
  ⟨⟨⟨rfl, rfl, rfl⟩, rfl, rfl⟩, ⟨rfl, rfl⟩, hsave, hsave⟩

section Replies

variable (sys : Option (Dict String Json)) (answer : Answer)

/-- A full heartbeat of a client which holds its information already. -/
theorem reply_exampleClients :
    let info : Go.DeviceInfo := { Go.DeviceInfo.zero with sys := sys }
    let reply : Reply := ⟨answerOf answer.toResult, infoOf info.marshal⟩
    (exampleClients sys).python.reply (.posted info.marshal "" answer) =
        reply ∧
      (exampleClients sys).go.reply ⟨info, "", answer⟩ = reply ∧
      (exampleClients sys).typeScript.reply (.posted info.marshal "" answer) =
        reply := by
  refine ⟨?_, ?_, ?_⟩
  · simp [exampleClients, Client.AuthClient.reply,
      Client.AuthClient.checkOnline, Client.AuthClient.ensureFullDeviceInfo,
      Client.AuthClient.rememberPublicIp]
  · simp [exampleClients, Go.AuthClient.reply, Go.AuthClient.checkOnline,
      Go.AuthClient.ensureFullDeviceInfo]
  · simp [exampleClients, TypeScript.AuthClient.reply,
      TypeScript.AuthClient.checkOnline,
      TypeScript.AuthClient.ensureFullDeviceInfo]

theorem sameReplies_exampleCheck (now : ℚ) :
    (exampleCheck sys now answer).SameReplies (exampleClients sys) := by
  obtain ⟨hpython, hgo, htypeScript⟩ := reply_exampleClients sys answer
  exact ⟨hgo.trans hpython.symm, htypeScript.trans hpython.symm⟩

theorem sameReplies_exampleProgressive (now : ℚ) :
    (exampleProgressive sys now answer).SameReplies (exampleClients sys) := by
  obtain ⟨hpython, hgo, htypeScript⟩ := reply_exampleClients sys answer
  exact ⟨⟨rfl, rfl⟩, hgo.trans hpython.symm, htypeScript.trans hpython.symm⟩

end Replies

/-- A row with a time and a count. -/
def exampleRow (lastSuccessAt : ℚ) (heartbeatTimes : ℤ)
    (more : List (String × Json)) : Json :=
  .ofDict (.ofList ([("last_success_at", .float (.fin lastSuccessAt)),
    ("heartbeat_times", .int heartbeatTimes)] ++ more))

def osInfo : Option (Dict String Json) :=
  some (.ofList [("os", .str "linux")])

theorem shared_example {root : Root} {sys : Option (Dict String Json)}
    {call : JointCall} (hnonempty : (root.erase "device_id").isEmpty = false)
    (hrows : ∀ e ∈ root.entries, ∀ r ∈ appRow? Python.isSpace e,
      (fieldsOf r.2).Proper)
    (hsucceeds : call.Succeeds) (hreplies : call.SameReplies (exampleClients sys))
    (hreadings : ∀ a ∈ call.readings, ∀ b ∈ call.readings, b - a < 604800) :
    Shared root "editor" "device" 7 (exampleClients sys) call where
  nonempty := hnonempty
  rows := hrows
  key := by decide
  trimmed := by decide
  noProto := by decide
  device := by decide
  validity := by decide
  clients := ⟨rfl, rfl, rfl⟩
  succeeds := hsucceeds
  replies := hreplies
  readings := by
    norm_num
    exact hreadings

/-- The verdict, and one field of one row. -/
def Effect.view (effect : Effect) (t k : String) :
    Option Verdict × Option (Option Json) :=
  (effect.verdict, effect.file.content.map fun d => (tableOf d).own t k)

theorem Agree.view_eq {effects : List Effect} (h : Agree effects)
    (t k : String) : ∀ a ∈ effects, ∀ b ∈ effects, a.view t k = b.view t k := by
  obtain ⟨T, verdict, hall⟩ := h
  have hview : ∀ effect ∈ effects, effect.view t k =
      (verdict, some (T.own t k)) := by
    intro effect heffect
    obtain ⟨htable, rfl⟩ := hall effect heffect
    obtain ⟨root, hroot, rfl⟩ := Option.map_eq_some_iff.mp htable
    rw [Effect.view, hroot, Option.map_some]
  intro a ha b hb
  rw [hview a ha, hview b hb]

/-- The example clients share everything, and do not agree. -/
def Disagree (root : List (String × Json)) (sys : Option (Dict String Json))
    (call : JointCall) : Prop :=
  Shared (.ofList root) "editor" "device" 7 (exampleClients sys) call ∧
    ¬Agree (exampleEffects (.ofList root) sys call)

end PyAuth.Sdk
