import PyAuth.Client.Construction
import PyAuth.Client.Expiry
import PyAuth.Client.Post
import PyAuth.Server.History

/-!
# When a revocation takes effect

Programs on any number of machines check their licence with the server, which
meanwhile handles other heartbeats and the requests of the administrators.
Replies may be lost and late, disks may fail and programs may be restarted; but
a call gets only replies to its own heartbeats.  After the administrators have
revoked a device, no call of its program is granted, and from its cache the
program goes on at most until the validity has passed.
-/

namespace PyAuth.Protocol

open Support Client Server

/-! ## The system -/

/-- A call under way: when it began, and what came back for its heartbeats. -/
structure CallUnderWay where
  begunAt : ℚ
  replies : List Posted

/-- A program with its disk. -/
structure Machine (β : Type) where
  client : AuthClient
  storage : Storage β
  call : Option CallUnderWay

/-- The server and the machines, with a common clock. -/
structure World (μ β : Type) where
  clock : ℚ
  tables : Tables
  machines : μ → Machine β

/-- What happens: time passes; a call begins, has a heartbeat handled, and
returns; the program is started again; and the server handles anything else,
among it the heartbeats whose replies are lost. -/
inductive WorldStep (μ κ α : Type) [DecidableEq α]
  | tick (now : ℚ)
  | begin (m : μ)
  | heartbeat (m : μ) (salt : ℕ) (env : ProcessEnv)
      (broadcast : BroadcastEnv α) (body : Body κ)
  | finish (m : μ) (call : AnyCall)
  | restart (m : μ) (config : ClientConfig) (io : ConstructEnv)
  | server (e : ServerEvent κ α)

/-- The authorisation which a client reads from a reply. -/
def granted? : Posted → Option Bool
  | .accepted authorized _ => some (Python.truthy authorized)
  | .failed _ => none

/-- The answers which a call got to its heartbeats, in their order. -/
def answers (events : List Event) : List Bool :=
  events.filterMap fun
    | .heartbeat hb => hb.answer
    | .cleared => none

section

variable {μ κ α β : Type} [DecidableEq μ] [DecidableEq α] (P : Primitives β)
  (T : Transport κ) (clientSecret : String) (B : Backend)

namespace World

def setMachine (w : World μ β) (m : μ) (machine : Machine β) : World μ β :=
  { w with machines := Function.update w.machines m machine }

def step (w : World μ β) : WorldStep μ κ α → Option (World μ β)
  | .tick now => if w.clock ≤ now then some { w with clock := now } else none
  | .begin m =>
      match (w.machines m).call with
      | some _ => none
      | none => some (w.setMachine m { w.machines m with
          call := some ⟨w.clock, []⟩ })
  | .heartbeat m salt env broadcast body =>
      match (w.machines m).call with
      | none => none
      | some call =>
          if (heartbeatRequest T clientSecret body).map (·.deviceId) =
              some (w.machines m).client.cache.deviceId then
            let (tables, response) :=
              announcedHeartbeat T clientSecret salt env broadcast body w.tables
            some ({ w with tables := tables }.setMachine m { w.machines m with
              call := some { call with
                replies := call.replies ++
                  [readReply T clientSecret response] } })
          else none
  | .finish m call =>
      match (w.machines m).call with
      | none => none
      | some underWay =>
          let out := call.perform P (w.machines m).client (w.machines m).storage
          if (answers out.events).Sublist (underWay.replies.filterMap granted?) ∧
              ∀ now ∈ call.saveTimes, now ≤ w.clock then
            some (w.setMachine m ⟨out.client, out.storage, none⟩)
          else none
  | .restart m config io =>
      match (w.machines m).call with
      | some _ => none
      | none =>
          match newAuthClient P config io (w.machines m).storage with
          | (_, none) => none
          | (storage, some client) =>
              if client.cache = (w.machines m).client.cache then
                some (w.setMachine m ⟨client, storage, none⟩)
              else none
  | .server e => some { w with tables := e.handle T clientSecret B w.tables }

/-- No timestamp on a disk lies in the future. -/
def Dated (w : World μ β) : Prop :=
  ∀ m, (w.machines m).client.cache.StampedBy P w.clock (w.machines m).storage

/-- The step neither removes the device nor authorises it again. -/
def Stands (deviceId : String) (e : WorldStep μ κ α) (w' : World μ β) : Prop :=
  (w'.tables.device? deviceId).isSome ∧ ∀ event, e = .server event →
    (event.updateOf B deviceId).bind (·.isAuthorized) ≠ some true

/-- The device is known and not authorised. -/
def Revoked (deviceId : String) (w : World μ β) : Prop :=
  ∃ device, w.tables.device? deviceId = some device ∧
    device.isAuthorized = false

end World

end

/-! ## A revoked device is answered accordingly -/

section

variable {κ α : Type} [DecidableEq α] {T : Transport κ} {clientSecret : String}
  {B : Backend} {t : Tables} {deviceId : String} {device : Device}

/-- Without an update, an event leaves the device as it is authorised. -/
theorem isAuthorized_handle {e : ServerEvent κ α}
    (hdevice : t.device? deviceId = some device)
    (hstays : ((e.handle T clientSecret B t).device? deviceId).isSome)
    (hupdate : (e.updateOf B deviceId).bind (·.isAuthorized) ≠ some true)
    (hrevoked : device.isAuthorized = false) :
    ∃ device', (e.handle T clientSecret B t).device? deviceId = some device' ∧
      device'.isAuthorized = false := by
  have hcases : (e.handle T clientSecret B t).device? deviceId = none ∨ _ :=
    ServerEvent.device?_handle_of_some hdevice
  rcases hcases with hnone | hrow
  · rw [hnone] at hstays
    contradiction
  · refine ⟨_, hrow, ?_⟩
    rw [ServerEvent.isAuthorized_evolve, Database.deviceId_of_device? hdevice,
      hrevoked]
    cases hnamed : (e.updateOf B deviceId).bind (·.isAuthorized) with
    | none => rfl
    | some granted =>
        cases granted with
        | false => rfl
        | true => exact absurd hnamed hupdate

/-- The reply to a heartbeat tells the authorisation in the tables. -/
theorem granted?_readReply {salt : ℕ} {env : ProcessEnv}
    {broadcast : BroadcastEnv α} {body : Body κ} {granted : Bool}
    (hrequest : (heartbeatRequest T clientSecret body).map (·.deviceId) =
      some deviceId)
    (hgranted : granted? (readReply T clientSecret (announcedHeartbeat T
      clientSecret salt env broadcast body t).2) = some granted) :
    ∃ device, (announcedHeartbeat T clientSecret salt env broadcast body
        t).1.device? deviceId = some device ∧
      device.isAuthorized = granted := by
  have hreports : ReportsStored T clientSecret broadcast body
      (announcedHeartbeat T clientSecret salt env broadcast body t).1
      (announcedHeartbeat T clientSecret salt env broadcast body t).2 :=
    reportsStored
  cases hread : readReply T clientSecret (announcedHeartbeat T clientSecret salt
      env broadcast body t).2 with
  | failed message =>
      rw [hread] at hgranted
      contradiction
  | accepted authorized message =>
      obtain ⟨token, v, htoken, hdecrypt, haccepted⟩ := readReply_accepted hread
      obtain ⟨request, device, hrequest', hdevice, hdata⟩ :=
        hreports.reports token htoken
      rw [hdecrypt] at hdata
      obtain rfl := Option.some.inj hdata
      rw [readDecrypted_responseData] at haccepted
      obtain ⟨rfl, -⟩ := Posted.accepted.inj haccepted
      rw [hread] at hgranted
      rw [hrequest', Option.map_some] at hrequest
      rw [Option.some.inj hrequest] at hdevice
      exact ⟨device, hdevice, Option.some.inj hgranted⟩

end

/-! ## Steps -/

namespace World

variable {μ κ α β : Type} [DecidableEq μ] [DecidableEq α] {P : Primitives β}
  {T : Transport κ} {clientSecret : String} {B : Backend} {w w' : World μ β}
  {e : WorldStep μ κ α} {m m' : μ} {machine : Machine β} {τ : ℚ}
  {c : AuthCache} {deviceId : String}

@[simp] theorem clock_setMachine : (w.setMachine m machine).clock = w.clock :=
  rfl

@[simp] theorem tables_setMachine :
    (w.setMachine m machine).tables = w.tables := rfl

theorem machines_setMachine :
    (w.setMachine m machine).machines m' =
      if m' = m then machine else w.machines m' := by
  rw [setMachine]
  exact Function.update_apply _ _ _ _

/-- What a step is and when it can be taken. -/
inductive Stepped (P : Primitives β) (T : Transport κ) (clientSecret : String)
    (B : Backend) (w : World μ β) : WorldStep μ κ α → World μ β → Prop
  | tick {now : ℚ} (hle : w.clock ≤ now) :
      Stepped P T clientSecret B w (.tick now) { w with clock := now }
  | begin {m : μ} (hidle : (w.machines m).call = none) :
      Stepped P T clientSecret B w (.begin m)
        (w.setMachine m { w.machines m with call := some ⟨w.clock, []⟩ })
  | heartbeat {m : μ} {salt : ℕ} {env : ProcessEnv}
      {broadcast : BroadcastEnv α} {body : Body κ} {call : CallUnderWay}
      (hcall : (w.machines m).call = some call)
      (hrequest : (heartbeatRequest T clientSecret body).map (·.deviceId) =
        some (w.machines m).client.cache.deviceId) :
      Stepped P T clientSecret B w (.heartbeat m salt env broadcast body)
        ({ w with tables := (announcedHeartbeat T clientSecret salt env
            broadcast body w.tables).1 }.setMachine m
          { w.machines m with call := some { call with
              replies := call.replies ++ [readReply T clientSecret
                (announcedHeartbeat T clientSecret salt env broadcast body
                  w.tables).2] } })
  | finish {m : μ} {call : AnyCall} {underWay : CallUnderWay}
      (hcall : (w.machines m).call = some underWay)
      (hanswers : (answers (call.perform P (w.machines m).client
        (w.machines m).storage).events).Sublist
          (underWay.replies.filterMap granted?))
      (htimes : ∀ now ∈ call.saveTimes, now ≤ w.clock) :
      Stepped P T clientSecret B w (.finish m call)
        (w.setMachine m
          ⟨(call.perform P (w.machines m).client (w.machines m).storage).client,
            (call.perform P (w.machines m).client
              (w.machines m).storage).storage, none⟩)
  | restart {m : μ} {config : ClientConfig} {io : ConstructEnv}
      {client : AuthClient} (hidle : (w.machines m).call = none)
      (hnew : (newAuthClient P config io (w.machines m).storage).2 = some client)
      (hcache : client.cache = (w.machines m).client.cache) :
      Stepped P T clientSecret B w (.restart m config io)
        (w.setMachine m
          ⟨client, (newAuthClient P config io (w.machines m).storage).1, none⟩)
  | server (e : ServerEvent κ α) :
      Stepped P T clientSecret B w (.server e)
        { w with tables := e.handle T clientSecret B w.tables }

theorem stepped (hstep : w.step P T clientSecret B e = some w') :
    Stepped P T clientSecret B w e w' := by
  cases e with
  | tick now =>
      obtain ⟨hle, heq⟩ := Option.ite_none_right_eq_some.mp hstep
      obtain rfl := Option.some.inj heq
      exact .tick hle
  | begin m =>
      rw [step] at hstep
      cases hcall : (w.machines m).call with
      | some call => simp [hcall] at hstep
      | none =>
          simp only [hcall, Option.some.injEq] at hstep
          obtain rfl := hstep
          exact .begin hcall
  | heartbeat m salt env broadcast body =>
      rw [step] at hstep
      cases hcall : (w.machines m).call with
      | none => simp [hcall] at hstep
      | some call =>
          simp only [hcall] at hstep
          obtain ⟨hrequest, heq⟩ := Option.ite_none_right_eq_some.mp hstep
          obtain rfl := Option.some.inj heq
          exact .heartbeat hcall hrequest
  | finish m call =>
      rw [step] at hstep
      cases hcall : (w.machines m).call with
      | none => simp [hcall] at hstep
      | some underWay =>
          simp only [hcall] at hstep
          obtain ⟨h, heq⟩ := Option.ite_none_right_eq_some.mp hstep
          obtain rfl := Option.some.inj heq
          exact .finish hcall h.1 h.2
  | restart m config io =>
      rw [step] at hstep
      cases hcall : (w.machines m).call with
      | some call => simp [hcall] at hstep
      | none =>
          simp only [hcall] at hstep
          rcases hnew : newAuthClient P config io (w.machines m).storage with
            ⟨storage, _ | client⟩
          · simp [hnew] at hstep
          · simp only [hnew] at hstep
            obtain ⟨hcache, heq⟩ := Option.ite_none_right_eq_some.mp hstep
            obtain rfl := Option.some.inj heq
            have hstorage : (newAuthClient P config io
                (w.machines m).storage).1 = storage := congrArg Prod.fst hnew
            rw [← hstorage]
            exact .restart hcall (congrArg Prod.snd hnew) hcache
  | server e =>
      obtain rfl := Option.some.inj hstep
      exact .server e

/-! ## Disks are dated -/

theorem stampedBy_restart {config : ClientConfig} {io : ConstructEnv}
    {client : AuthClient} {st : Storage β} (h : c.StampedBy P τ st)
    (hnew : (newAuthClient P config io st).2 = some client)
    (hcache : client.cache = c) :
    c.StampedBy P τ (newAuthClient P config io st).1 := by
  have hbuilt := (cache_newAuthClient hnew).1
  rw [hcache] at hbuilt
  have hurl : c.serverUrl = config.stateUrl := by rw [hbuilt]
  have hname : c.softwareName = config.softwareName := by rw [hbuilt]
  rcases currentTs_newAuthClient (P := P) io st hurl hname with hnone | hsame
  · exact .of_none hnone
  · exact h.of_currentTs hsame

theorem Dated.setMachine (h : w.Dated P)
    (hmachine : machine.client.cache.StampedBy P w.clock machine.storage) :
    (w.setMachine m machine).Dated P := by
  intro m'
  rw [machines_setMachine]
  split
  · exact hmachine
  · exact h m'

theorem Dated.step (h : w.Dated P)
    (hstep : w.step P T clientSecret B e = some w') : w'.Dated P := by
  cases stepped hstep with
  | tick hle => exact fun m => (h m).mono hle
  | begin hidle => exact h.setMachine (h _)
  | heartbeat hcall hrequest =>
      refine Dated.setMachine ?_ (h _)
      exact h
  | @finish m call underWay hcall hanswers htimes =>
      obtain ⟨hcache, hstamped, -⟩ :=
        call.perform_spec (h m) fun _ => htimes
      refine h.setMachine ?_
      dsimp only
      rw [hcache]
      exact hstamped
  | @restart m config io client hidle hnew hcache =>
      refine h.setMachine ?_
      dsimp only
      rw [hcache]
      exact stampedBy_restart (h m) hnew hcache
  | server e => exact h

/-! ## After the revocation -/

theorem granted_iff {events : List Event} :
    Granted events ↔ true ∈ answers events := by
  rw [Granted, answers, List.mem_filterMap]
  constructor
  · rintro ⟨hb, hmem, hanswer⟩
    exact ⟨.heartbeat hb, hmem, hanswer⟩
  · rintro ⟨event, hmem, hanswer⟩
    cases event with
    | heartbeat hb => exact ⟨hb, hmem, hanswer⟩
    | cleared => contradiction

/-- The device of the machine is revoked since `τ`, and neither its disk nor a
reply under way says otherwise. -/
structure Revoking (P : Primitives β) (τ : ℚ) (c : AuthCache) (m : μ)
    (w : World μ β) : Prop where
  revoked : w.Revoked c.deviceId
  cache_eq : (w.machines m).client.cache = c
  stamped : c.StampedBy P τ (w.machines m).storage
  replies : ∀ call ∈ (w.machines m).call, ∀ reply ∈ call.replies,
    granted? reply ≠ some true

namespace Revoking

theorem setMachine (h : w.Revoking P τ c m)
    (hmachine : m' = m → machine.client.cache = c ∧
      c.StampedBy P τ machine.storage ∧
      ∀ call ∈ machine.call, ∀ reply ∈ call.replies,
        granted? reply ≠ some true) :
    (w.setMachine m' machine).Revoking P τ c m := by
  have hmachines : ((w.setMachine m' machine).machines m = machine ∧ m' = m) ∨
      (w.setMachine m' machine).machines m = w.machines m := by
    rw [machines_setMachine]
    split
    · next heq => exact Or.inl ⟨rfl, heq.symm⟩
    · exact Or.inr rfl
  rcases hmachines with ⟨hset, heq⟩ | hother
  · obtain ⟨hcache, hstamped, hreplies⟩ := hmachine heq
    refine ⟨h.revoked, ?_, ?_, ?_⟩
    all_goals rwa [hset]
  · refine ⟨h.revoked, ?_, ?_, ?_⟩
    all_goals rw [hother]
    · exact h.cache_eq
    · exact h.stamped
    · exact h.replies

omit [DecidableEq μ] in
/-- The server handles something, and the revocation stands. -/
theorem tables {t : Tables} (h : w.Revoking P τ c m)
    (hrevoked : ∃ device, t.device? c.deviceId = some device ∧
      device.isAuthorized = false) :
    { w with tables := t }.Revoking P τ c m :=
  ⟨hrevoked, h.cache_eq, h.stamped, h.replies⟩

omit [DecidableEq μ] in
/-- A call that returns was not granted anything. -/
theorem not_granted {call : AnyCall} {underWay : CallUnderWay}
    (h : w.Revoking P τ c m) (hcall : (w.machines m).call = some underWay)
    (hanswers : (answers (call.perform P (w.machines m).client
      (w.machines m).storage).events).Sublist
        (underWay.replies.filterMap granted?)) :
    ¬Granted (call.perform P (w.machines m).client
      (w.machines m).storage).events := by
  rw [granted_iff]
  intro hmem
  obtain ⟨reply, hreply, hgranted⟩ :=
    List.mem_filterMap.mp (hanswers.subset hmem)
  exact h.replies underWay hcall reply hreply hgranted

theorem step (h : w.Revoking P τ c m)
    (hstands : Stands B c.deviceId e w')
    (hstep : w.step P T clientSecret B e = some w') :
    w'.Revoking P τ c m := by
  obtain ⟨device, hdevice, hrevoked⟩ := h.revoked
  cases stepped hstep with
  | tick hle => exact ⟨h.revoked, h.cache_eq, h.stamped, h.replies⟩
  | begin hidle =>
      refine h.setMachine ?_
      rintro rfl
      refine ⟨h.cache_eq, h.stamped, ?_⟩
      rintro _ ⟨⟩ reply hreply
      contradiction
  | @heartbeat m' salt env broadcast body call hcall hrequest =>
      -- As an event of the server, the heartbeat is no update.
      have hrow : ∃ device', (announcedHeartbeat T clientSecret salt env
          broadcast body w.tables).1.device? c.deviceId = some device' ∧
            device'.isAuthorized = false :=
        isAuthorized_handle (T := T) (B := B)
          (e := .heartbeat salt env broadcast body) hdevice hstands.1
          (by simp [ServerEvent.updateOf]) hrevoked
      refine (h.tables hrow).setMachine ?_
      rintro rfl
      refine ⟨h.cache_eq, h.stamped, ?_⟩
      rintro _ ⟨⟩ reply hreply hgranted
      rcases List.mem_append.mp hreply with hreply | hreply
      · exact h.replies call hcall reply hreply hgranted
      · obtain rfl := List.mem_singleton.mp hreply
        rw [h.cache_eq] at hrequest
        obtain ⟨device', hdevice', hrevoked'⟩ := hrow
        obtain ⟨device'', hdevice'', hgranted'⟩ :=
          granted?_readReply hrequest hgranted
        obtain rfl := Option.some.inj (hdevice'.symm.trans hdevice'')
        rw [hrevoked'] at hgranted'
        contradiction
  | @finish m' call underWay hcall hanswers htimes =>
      refine h.setMachine ?_
      rintro rfl
      have hnot := h.not_granted hcall hanswers
      have hst := h.stamped
      rw [← h.cache_eq] at hst
      obtain ⟨hcache, hstamped, -⟩ :=
        call.perform_spec hst fun hgranted => absurd hgranted hnot
      rw [h.cache_eq] at hcache hstamped
      refine ⟨hcache, hstamped, ?_⟩
      rintro _ ⟨⟩
  | @restart m' config io client hidle hnew hcache =>
      refine h.setMachine ?_
      rintro rfl
      rw [h.cache_eq] at hcache
      refine ⟨hcache, stampedBy_restart h.stamped hnew hcache, ?_⟩
      rintro _ ⟨⟩
  | server e =>
      refine h.tables ?_
      exact isAuthorized_handle hdevice hstands.1 (hstands.2 e rfl) hrevoked

end Revoking

/-- **A revocation takes effect.**  Take any run of the server and any number
of machines, whatever the disks do and however many replies are lost.  From a
moment on at which the device of an idle machine is not authorised, and as long
as the administrators neither remove it nor authorise it again, no call on the
machine is granted an authorisation; and a call lets the program go on only
when it tested the cache before the validity had passed since that moment. -/
theorem revocation_takes_effect {w₀ w₁ w₂ w₃ : World μ β}
    {es es' : List (WorldStep μ κ α)} {call : AnyCall}
    (hdated : w₀.Dated P)
    (hrun : Run (fun w e w' => w.step P T clientSecret B e = some w') w₀ es w₁)
    (hidle : (w₁.machines m).call = none)
    (hrevoked : w₁.Revoked (w₁.machines m).client.cache.deviceId)
    (hrun' : Run (fun w (e : WorldStep μ κ α) w' =>
      w.step P T clientSecret B e = some w' ∧
      Stands B (w₁.machines m).client.cache.deviceId e w') w₁ es' w₂)
    (hfinish : w₂.step P T clientSecret B
      (.finish m call : WorldStep μ κ α) = some w₃) :
    ¬Granted (call.perform P (w₂.machines m).client
        (w₂.machines m).storage).events ∧
      ((call.perform P (w₂.machines m).client
          (w₂.machines m).storage).reply.Authorises →
        call.testedAt < w₁.clock +
          (w₁.machines m).client.cache.cacheValiditySeconds) := by
  have hdated₁ : w₁.Dated P :=
    hrun.invariant (I := fun w => w.Dated P) hdated
      fun _ _ _ h hstep => h.step hstep
  have hrevoking₁ : w₁.Revoking P w₁.clock (w₁.machines m).client.cache m := by
    refine ⟨hrevoked, rfl, hdated₁ m, fun call hcall => ?_⟩
    rw [hidle] at hcall
    contradiction
  have hrevoking₂ : w₂.Revoking P w₁.clock (w₁.machines m).client.cache m :=
    hrun'.invariant
      (I := fun w => w.Revoking P w₁.clock (w₁.machines m).client.cache m)
      hrevoking₁ fun _ _ _ h hstep => h.step hstep.2 hstep.1
  cases stepped hfinish with
  | finish hcall hanswers htimes =>
      have hnot := hrevoking₂.not_granted hcall hanswers
      refine ⟨hnot, fun hauth => ?_⟩
      have hst := hrevoking₂.stamped
      rw [← hrevoking₂.cache_eq] at hst
      obtain ⟨-, -, hauthorises, -⟩ :=
        call.perform_spec hst fun hgranted => absurd hgranted hnot
      rw [← hrevoking₂.cache_eq]
      exact (hauthorises hauth).resolve_left hnot

/-! ## A machine that lost its server -/

/-- A check at one moment; the disk does not fail. -/
def exampleCheck (now : ℚ) (answer : Answer) : AnyCall :=
  .check (.success now (.posted .empty "" answer) now)

def exampleWorld : World String Symbol :=
  ⟨100, emptyTables, fun _ => ⟨exampleClient "D",
    (newAuthClient .symbolic (exampleConfig "D") exampleConstruct .fresh).1,
    none⟩⟩

/-- A check is granted; then the device is revoked. -/
def exampleRevocation : List (WorldStep String (String × ℕ × Json) String) :=
  [.begin "m",
    .heartbeat "m" 7 ⟨100, 100, 100, 100⟩ quietBroadcast
      (.encrypted ("secret", 1, requestData "D" "editor" .empty 1)),
    .finish "m" (exampleCheck 100 (.answered true "设备已授权")),
    .server (.admin "admin" (.quiet quietBroadcast)
      (some (.ofDict (exampleUpdate "D"))))]

/-- Later a check gets no reply. -/
def exampleSilence : List (WorldStep String (String × ℕ × Json) String) :=
  [.tick 200, .begin "m"]

def silentCheck : AnyCall := exampleCheck 200 (.failed "连接失败")

def exampleRevoked : Option (World String Symbol) :=
  exampleRevocation.foldlM
    (fun w e => step .symbolic .symbolic "secret" .plain w e) exampleWorld

def exampleSilenced (w : World String Symbol) : Option (World String Symbol) :=
  exampleSilence.foldlM
    (fun w e => (step .symbolic .symbolic "secret" .plain w e).filter
      fun w' => (w'.tables.device? "D").isSome) w

theorem dated_exampleWorld : exampleWorld.Dated .symbolic := by
  have hnone : (exampleClient "D").cache.currentTs .symbolic
      (newAuthClient .symbolic (exampleConfig "D") exampleConstruct .fresh).1 =
        none := by
    decide +kernel
  exact fun _ => .of_none hnone

/-- The cache still lets the program go on. -/
theorem revocation_takes_effect_after_silence :
    ∃ w₁ w₂ : World String Symbol,
      (silentCheck.perform .symbolic (w₂.machines "m").client
        (w₂.machines "m").storage).reply.Authorises ∧
      ¬Granted (silentCheck.perform .symbolic (w₂.machines "m").client
        (w₂.machines "m").storage).events ∧
      silentCheck.testedAt < w₁.clock +
        (w₁.machines "m").client.cache.cacheValiditySeconds := by
  have hend : exampleRevoked.any (fun w₁ =>
      (w₁.machines "m").call.isNone &&
      decide ((w₁.machines "m").client.cache.deviceId = "D") &&
      (w₁.tables.device? "D").any (fun device => !device.isAuthorized) &&
      (exampleSilenced w₁).any fun w₂ =>
        (step .symbolic .symbolic "secret" .plain w₂
          (.finish "m" silentCheck :
            WorldStep String (String × ℕ × Json) String)).isSome &&
        decide ((silentCheck.perform .symbolic (w₂.machines "m").client
          (w₂.machines "m").storage).reply =
            .checked ⟨true, "设备已授权", true, true⟩)) = true := by
    decide +kernel
  obtain ⟨w₁, hw₁, hrest⟩ := (Option.any_eq_true _ _).mp hend
  simp only [Bool.and_eq_true, decide_eq_true_eq] at hrest
  obtain ⟨⟨⟨hidle, hid⟩, hdenied⟩, hlater⟩ := hrest
  obtain ⟨w₂, hw₂, hlast⟩ := (Option.any_eq_true _ _).mp hlater
  simp only [Bool.and_eq_true, decide_eq_true_eq] at hlast
  obtain ⟨hfinish, hreply⟩ := hlast
  obtain ⟨w₃, hw₃⟩ := Option.isSome_iff_exists.mp hfinish
  have hrevoked : w₁.Revoked (w₁.machines "m").client.cache.deviceId := by
    rw [hid]
    obtain ⟨device, hdevice, hnot⟩ := (Option.any_eq_true _ _).mp hdenied
    exact ⟨device, hdevice, by simpa using hnot⟩
  have hauth : (silentCheck.perform .symbolic (w₂.machines "m").client
      (w₂.machines "m").storage).reply.Authorises := by
    rw [hreply]
    rfl
  have hrun' : Run (fun w e w' => w.step .symbolic .symbolic "secret" .plain e =
      some w' ∧ Stands .plain (w₁.machines "m").client.cache.deviceId e w') w₁
        exampleSilence w₂ := by
    refine (Run.of_foldlM hw₂).of_mem fun w e w' he hstep => ?_
    obtain ⟨hstep, hstays⟩ := Option.filter_eq_some_iff.mp hstep
    refine ⟨hstep, ?_, fun event heq => ?_⟩
    · rw [hid]
      exact hstays
    · subst heq
      simp [exampleSilence] at he
  have hresult := revocation_takes_effect dated_exampleWorld
    (Run.of_foldlM hw₁) (by simpa using hidle) hrevoked hrun' hw₃
  exact ⟨w₁, w₂, hauth, hresult.1, hresult.2 hauth⟩

end World

end PyAuth.Protocol
