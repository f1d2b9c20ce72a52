import PyAuth.Server.Events

/-!
# Who hears of a change

Heartbeats and the requests that change devices are announced to the clients
after their commit.  A client which stays in its place while the set keeps its
size is told once, so that it hears of every event that changes the devices.
-/

namespace PyAuth.Server

open Support

variable {κ α : Type} [DecidableEq α]

/-! ## One broadcast -/

/-- The clients for which `send_json` was called. -/
def BroadcastEnv.sent (env : BroadcastEnv α) : List α :=
  (Broadcast.drive (Broadcast.start env.clients) env.resumptions).2.sent

/-- While the message is sent, the client stays where it is and the number of
clients is the same. -/
def BroadcastEnv.Keeps (env : BroadcastEnv α) (client : α) : Prop :=
  ∃ i, env.clients.HoldsAt i client ∧
    ∀ r ∈ env.resumptions, r.2.HoldsAt i client ∧
      r.2.size = env.clients.size

theorem Broadcast.count_sent_drive {client : α} {i used : ℕ}
    {resumptions : List (Bool × SlotTable α)}
    {s : SlotTable α × Broadcast α} (howes : s.2.Owes s.1 i client)
    (hraised : s.2.status ≠ .raised) (hused : s.2.iterator.used = used)
    (hkeep : ∀ r ∈ resumptions, r.2.HoldsAt i client ∧ r.2.size = used)
    (hends : ends s resumptions = true) :
    (drive s resumptions).2.sent.count client = 1 := by
  induction resumptions generalizing s with
  | nil =>
      rw [ends] at hends
      rw [Owes] at howes
      rw [drive]
      cases hstatus : s.2.status with
      | sending c => simp [hstatus] at hends
      | finished => simpa [hstatus] using howes
      | raised => exact absurd hstatus hraised
  | cons r resumptions ih =>
      obtain ⟨ok, table⟩ := r
      cases hstatus : s.2.status with
      | finished => simp [ends, hstatus] at hends
      | raised => exact absurd hstatus hraised
      | sending c =>
          simp only [ends, drive, hstatus] at hends ⊢
          obtain ⟨hat, hsize⟩ := hkeep _ List.mem_cons_self
          rw [Owes, hstatus] at howes
          have hnext : (s.2.resume table c ok).2.Owes
              (s.2.resume table c ok).1 i client := owes_advance hat howes.2
          refine ih hnext ?_ (used_advance.trans hused) ?_ hends
          · rw [ne_eq, status_resume_eq_raised_iff, hused]
            exact fun hne => hne hsize
          · intro r hr
            exact hkeep r (List.mem_cons_of_mem _ hr)

/-- A client which the set keeps is told once. -/
theorem BroadcastEnv.count_sent {env : BroadcastEnv α} {client : α}
    (h : env.Keeps client) : env.sent.count client = 1 := by
  obtain ⟨i, hat, hkeep⟩ := h
  exact Broadcast.count_sent_drive
    (Broadcast.owes_advance hat SetIterator.met_start)
    Broadcast.status_start_ne_raised Broadcast.used_advance hkeep env.ends

/-- A client which the set keeps is reached. -/
theorem BroadcastEnv.mem_sent_of_keeps {env : BroadcastEnv α} {client : α}
    (h : env.Keeps client) : client ∈ env.sent := by
  apply List.count_pos_iff.mp
  rw [count_sent h]
  exact Nat.one_pos

/-! ## The announcements of an event -/

/-- The message tells of a change, and an announcement follows it. -/
def AdminReply.isChange : AdminReply → Bool
  | .deviceUpdated _ _ | .deviceDeleted _ _ | .devicesDeleted _ _ _ => true
  | .devicesList _ _ _ | .error _ _ => false

/-- The announcement of the request sends to these clients. -/
def Handled.announced (env : RequestEnv α) (out : Handled) : List α :=
  if out.replies.any AdminReply.isChange then env.broadcast.sent else []

section

variable (T : Transport κ) (clientSecret : String) (B : Backend)

/-- The announcement of the event sends to these clients. -/
def ServerEvent.announced (t : Tables) : ServerEvent κ α → List α
  | .heartbeat _ _ broadcast body =>
      if (heartbeatRequest T clientSecret body).isSome then broadcast.sent
      else []
  | .admin actor env message =>
      (deviceEvents B actor env message t).announced env
  | .updateConfigs _ _ _ _ => []

end

/-- A change is reported to who asked for it, and its announcement reaches the
client. -/
structure RequestEnv.Reaches (env : RequestEnv α) (client : α) : Prop where
  sendError : ∀ reply, reply.isChange = true → env.sendError reply = none
  broadcast : client ∈ env.broadcast.sent

/-- If the event is announced, the announcement reaches the client. -/
def ServerEvent.Reaches (client : α) : ServerEvent κ α → Prop
  | .heartbeat _ _ broadcast _ => client ∈ broadcast.sent
  | .admin _ env _ => env.Reaches client
  | .updateConfigs _ _ _ _ => True

/-- All rows can be reported. -/
def Tables.Reportable (t : Tables) : Prop := ∀ d ∈ t.devices, d.Reportable

/-! ## What is reported -/

section

variable {T : Transport κ} {clientSecret : String} {B : Backend}
  {actor : String} {env : RequestEnv α} {data : Dict String Json}
  {t t' : Tables} {message : Option Json} {client : α}

/-- The devices are as before, or a change was reported. -/
def Reported (t t' : Tables) (replies : List AdminReply) : Prop :=
  t'.devices = t.devices ∨ replies.any AdminReply.isChange = true

theorem reported_guarded {attempt : Attempt} {fallback : String}
    (h : Reported t attempt.tables attempt.replies) :
    Reported t (attempt.guarded env data fallback).tables
      (attempt.guarded env data fallback).replies := by
  rw [tables_guarded]
  rcases h with h | h
  · exact Or.inl h
  · right
    rcases replies_guarded env data fallback attempt with heq | ⟨text, heq⟩
    · rw [heq, h]
    · rw [heq, List.any_append, h, Bool.true_or]

theorem reported_announce {payload : AdminReply}
    (hsend : ∀ reply, reply.isChange = true → env.sendError reply = none)
    (hpayload : payload.isChange = true) :
    Reported t (announce env t' payload).tables
      (announce env t' payload).replies := by
  right
  rw [announce, hsend payload hpayload]
  cases env.broadcast.status <;> simp [hpayload]

/-- Every committed change is reported to the client that asked for it. -/
theorem reported_deviceEvents
    (hsend : ∀ reply, reply.isChange = true → env.sendError reply = none)
    (hreport : t.Reportable) :
    Reported t (deviceEvents B actor env message t).tables
      (deviceEvents B actor env message t).replies := by
  cases message with
  | none => exact Or.inl rfl
  | some message =>
      rw [deviceEvents]
      cases message.dict? with
      | none => exact Or.inl rfl
      | some data =>
          dsimp only
          split
          · left
            rw [tables_getDevices]
          · split
            · apply reported_guarded
              rcases updateDevice_cases B actor env data t with ⟨_, h⟩ |
                ⟨_, _, device, _, _, hdevice, ⟨-, h⟩ | ⟨hrow, -⟩⟩
              · rw [h]
                exact Or.inl rfl
              · rw [h]
                exact reported_announce hsend rfl
              · exact absurd (hreport device
                  (Database.mem_of_device? hdevice)) hrow
            · split
              · apply reported_guarded
                rcases deleteDevice_cases B actor env data t with ⟨_, h⟩ | h
                · rw [h]
                  exact Or.inl rfl
                · rw [h]
                  exact reported_announce hsend rfl
              · split
                · apply reported_guarded
                  rcases deleteDevices_cases B actor env data t with
                    ⟨_, h⟩ | ⟨_, -, h⟩
                  · rw [h]
                    exact Or.inl rfl
                  · rw [h]
                    exact reported_announce hsend rfl
                · exact Or.inl rfl

/-- The reply is to the request, and tells of a change or an error. -/
def AdminReply.Tells (reply : AdminReply) (data : Dict String Json) : Prop :=
  reply.requestId = Server.requestId data ∧
    (reply.isChange = true ∨ reply.IsError)

theorem tells_guarded {attempt : Attempt} {fallback : String}
    (h : ∀ reply ∈ attempt.replies, reply.Tells data) :
    ∀ reply ∈ (attempt.guarded env data fallback).replies,
      reply.Tells data := by
  intro reply hreply
  rcases mem_replies_guarded hreply with hreply | ⟨text, rfl⟩
  · exact h reply hreply
  · exact ⟨rfl, Or.inr trivial⟩

theorem tells_announce {payload : AdminReply} (hpayload : payload.Tells data) :
    ∀ reply ∈ (announce env t' payload).replies, reply.Tells data := by
  intro reply hreply
  rw [announce_spec.2 reply hreply]
  exact hpayload

/-- Only `get_devices` is answered with a list. -/
theorem tells_deviceEvents {document : Json} (hdata : document.dict? = some data)
    (htype : data.get "type" ≠ some (.str "get_devices")) :
    ∀ reply ∈ (deviceEvents B actor env (some document) t).replies,
      reply.Tells data := by
  have hnone : ∀ reply ∈ ([] : List AdminReply), reply.Tells data := by
    simp
  rw [deviceEvents]
  simp only [hdata, if_neg htype]
  split
  · apply tells_guarded
    rcases updateDevice_cases B actor env data t with ⟨_, h⟩ |
      ⟨_, _, _, _, _, _, ⟨-, h⟩ | ⟨-, _, h⟩⟩
    · rwa [h]
    · rw [h]
      exact tells_announce ⟨rfl, Or.inl rfl⟩
    · rwa [h]
  · split
    · apply tells_guarded
      rcases deleteDevice_cases B actor env data t with ⟨_, h⟩ | h
      · rwa [h]
      · rw [h]
        exact tells_announce ⟨rfl, Or.inl rfl⟩
    · split
      · apply tells_guarded
        rcases deleteDevices_cases B actor env data t with ⟨_, h⟩ | ⟨_, -, h⟩
        · rwa [h]
        · rw [h]
          exact tells_announce ⟨rfl, Or.inl rfl⟩
      · exact hnone

/-- `get_devices` is answered with a list, or the connection ends. -/
theorem deviceEvents_getDevices {document : Json}
    (hdata : document.dict? = some data)
    (htype : data.get "type" = some (.str "get_devices")) :
    (deviceEvents B actor env (some document) t).isOpen = false ∨
      ∃ payload, getDevices B data t = some payload ∧
        deviceEvents B actor env (some document) t = ⟨t, [payload], true⟩ := by
  rw [deviceEvents]
  simp only [hdata, if_pos htype]
  cases getDevices B data t with
  | none => exact Or.inl rfl
  | some payload =>
      dsimp only
      cases env.sendError payload with
      | some message => exact Or.inl rfl
      | none => exact Or.inr ⟨payload, rfl, rfl⟩

/-! ## What is announced -/

theorem mem_announced_deviceEvents (henv : env.Reaches client)
    (hreport : t.Reportable)
    (hchange : (deviceEvents B actor env message t).tables.devices ≠
      t.devices) :
    client ∈ (deviceEvents B actor env message t).announced env := by
  have hreported := (reported_deviceEvents henv.sendError hreport).resolve_left
    hchange
  rw [Handled.announced, if_pos hreported]
  exact henv.broadcast

/-- **A client which the announcements reach hears of every event that changes
the devices.** -/
theorem ServerEvent.mem_announced {e : ServerEvent κ α}
    (he : e.Reaches client) (hreport : t.Reportable)
    (hchange : (e.handle T clientSecret B t).devices ≠ t.devices) :
    client ∈ e.announced T clientSecret B t := by
  cases e with
  | heartbeat salt env broadcast body =>
      cases hrequest : heartbeatRequest T clientSecret body with
      | none =>
          refine absurd ?_ hchange
          change (Server.heartbeat T clientSecret salt env body
            t.toDatabase).1.devices = t.devices
          rw [(heartbeat_of_refused hrequest).1]
      | some request =>
          rw [announced, hrequest, Option.isSome_some, if_pos rfl]
          exact he
  | admin actor env message =>
      exact mem_announced_deviceEvents he hreport hchange
  | updateConfigs username loggedAt commitFails configs =>
      refine absurd ?_ hchange
      rw [handle, Server.updateConfigs]
      split <;> rfl

/-! ## Rows can always be reported -/

theorem DeviceAuthRequest.reportable_refresh {request : DeviceAuthRequest}
    {env : ProcessEnv} {device : Device} (h : device.Reportable) :
    (request.refresh env device).Reportable := by
  rw [Device.Reportable, refresh]
  cases request.deviceInfo with
  | none => exact h
  | some info =>
      dsimp only
      split
      · exact Or.inr (Json.isDict_ofDict info)
      · exact h

theorem DeviceAuthRequest.reportable_register (request : DeviceAuthRequest)
    (env : ProcessEnv) (db : Database) :
    (request.register env db).Reportable := by
  rw [Device.Reportable, register]
  cases request.deviceInfo with
  | none => exact Or.inl rfl
  | some info => exact Or.inr (Json.isDict_ofDict info)

theorem ServerEvent.reportable_evolve {e : ServerEvent κ α} {device : Device}
    (h : device.Reportable) :
    (e.evolve T clientSecret B device).Reportable := by
  rw [evolve]
  cases e.updateOf B device.deviceId with
  | some update => exact Device.reportable_revise.mpr h
  | none =>
      cases e.heartbeatOf T clientSecret device.deviceId with
      | none => exact h
      | some heartbeat => exact DeviceAuthRequest.reportable_refresh h

/-- No event leaves a row that cannot be reported. -/
theorem ServerEvent.reportable_handle {e : ServerEvent κ α}
    (h : t.Reportable) : (e.handle T clientSecret B t).Reportable := by
  intro d hd
  have hrow := Database.device?_of_mem hd
  cases hbefore : t.device? d.deviceId with
  | some device =>
      have hdevice := h device (Database.mem_of_device? hbefore)
      have hcases : (e.handle T clientSecret B t).device? d.deviceId = none ∨
          _ := device?_handle_of_some hbefore
      rcases hcases with hgone | hrow'
      · exact absurd (hrow.symm.trans hgone) (Option.some_ne_none d)
      · obtain rfl := Option.some.inj (hrow.symm.trans hrow')
        exact reportable_evolve hdevice
  | none =>
      have hcases : (e.handle T clientSecret B t).device? d.deviceId = none ∨
          _ := device?_handle_of_none hbefore
      rcases hcases with hgone | ⟨request, env, -, hrow'⟩
      · exact absurd (hrow.symm.trans hgone) (Option.some_ne_none d)
      · obtain rfl := Option.some.inj (hrow.symm.trans hrow')
        exact DeviceAuthRequest.reportable_register request env t.toDatabase

theorem reportable_deviceEvents (h : t.Reportable) :
    (deviceEvents B actor env message t).tables.Reportable := by
  have hadmin : ((ServerEvent.admin actor env message :
      ServerEvent (String × ℕ × Json) α).handle .symbolic "" B t).Reportable :=
    ServerEvent.reportable_handle h
  exact hadmin

end

end PyAuth.Server
