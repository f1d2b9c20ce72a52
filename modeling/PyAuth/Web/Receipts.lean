import PyAuth.Server.Audit
import PyAuth.Web.Console

/-!
# What the page reports as done

A promise of the page is resolved only by the reply to its own request, and
the server sends that reply after its commit.  So what the page reports as done
stands in the log of the server: the entry was added when the request was
handled, under the name of the user of the connection which had brought it.
-/

namespace PyAuth.Web

open Support Server

/-! ## Records -/

/-- Which requests were handled: for which user, after which log, and the
entries that the commit added. -/
abbrev Handling : Type :=
  WsRequest → String → List OperationLog → List OperationLog → Prop

/-- The handling of the request has added an entry about a device, under the
name of its user, and the entry still stands in the log. -/
def LogsAbout (handled : Handling) (logs : List OperationLog)
    (request : WsRequest) (action deviceId : String) (detail : Json) : Prop :=
  ∃ actor before new, handled request actor before new ∧
    before ++ new <+: logs ∧
    ∃ log ∈ new, log.username = actor ∧ log.action = action ∧
      log.targetId = some deviceId ∧ log.detail = detail

/-- The reply has the form that the request calls for, and the change which it
tells of is in the log. -/
def WsRequest.Recorded (handled : Handling) (logs : List OperationLog)
    (request : WsRequest) (reply : AdminReply) : Prop :=
  let requestId := .str request.requestId
  match request.payload with
  | .getDevices _ _ _ _ =>
      ∃ total devices, reply = .devicesList requestId total devices
  | .updateRemark deviceId remark =>
      (∃ device, reply = .deviceUpdated requestId device) ∧
        LogsAbout handled logs request "update_device" (Python.strip deviceId)
          (Json.ofDict (.ofList [("remark", .str remark)]))
  | .updateAuthorized deviceId isAuthorized =>
      (∃ device, reply = .deviceUpdated requestId device) ∧
        LogsAbout handled logs request "update_device" (Python.strip deviceId)
          (Json.ofDict (.ofList [("is_authorized", .bool isAuthorized)]))
  | .deleteDevice deviceId =>
      reply = .deviceDeleted requestId (Python.strip deviceId) ∧
        LogsAbout handled logs request "delete_device" (Python.strip deviceId)
          .null
  | .deleteDevices deviceIds =>
      ∃ ids, reply = .devicesDeleted requestId ids ids.length ∧
        ∀ id ∈ ids, id ∈ deviceIds.map Python.strip ∧
          LogsAbout handled logs request "delete_device" id .null

variable {κ α : Type} [DecidableEq α] {T : Transport κ} {clientSecret : String}
  {B : Backend} {client : α} {handled : Handling}
  {logs logs' : List OperationLog} {request : WsRequest} {reply : AdminReply}
  {env : RequestEnv α} {actor : String} {t : Tables}

theorem LogsAbout.mono {action deviceId : String} {detail : Json}
    (h : LogsAbout handled logs request action deviceId detail)
    (hlogs : logs <+: logs') :
    LogsAbout handled logs' request action deviceId detail := by
  obtain ⟨actor, before, new, hhandled, hbefore, hlog⟩ := h
  exact ⟨actor, before, new, hhandled, hbefore.trans hlogs, hlog⟩

theorem WsRequest.Recorded.mono (h : request.Recorded handled logs reply)
    (hlogs : logs <+: logs') : request.Recorded handled logs' reply := by
  obtain ⟨payload, requestId⟩ := request
  cases payload with
  | getDevices => exact h
  | updateRemark | updateAuthorized | deleteDevice =>
      exact h.imp_right fun hlog => LogsAbout.mono hlog hlogs
  | deleteDevices deviceIds =>
      obtain ⟨ids, hreply, hids⟩ := h
      exact ⟨ids, hreply, fun id hid => (hids id hid).imp_right fun hlog =>
        hlog.mono hlogs⟩

/-- The new entries of a commit. -/
theorem logsAbout_newLogs {action : String} {detail : Json} {loggedAt : ℕ → ℚ}
    {ids : List String} {id : String}
    (hhandled : handled request actor logs
      (t.newLogs actor action detail loggedAt ids)) (hid : id ∈ ids) :
    LogsAbout handled
      (logs ++ t.newLogs actor action detail loggedAt ids) request action id
      detail := by
  obtain ⟨k, hk, rfl⟩ := List.mem_iff_getElem.mp hid
  refine ⟨actor, logs, _, hhandled, List.prefix_refl _,
    ⟨t.nextLogId + k, actor, action, "device", some ids[k], detail,
      loggedAt k⟩, ?_, rfl, rfl, rfl, rfl⟩
  refine List.mem_map.mpr ⟨(ids[k], k), ?_, rfl⟩
  rw [List.mem_zipIdx_iff_getElem?]
  exact List.getElem?_eq_getElem hk

/-- The request was handled, and its commit has led to the log `logs'`. -/
def Commits (handled : Handling) (request : WsRequest) (actor : String)
    (logs logs' : List OperationLog) : Prop :=
  ∀ new, logs' = logs ++ new → handled request actor logs new

/-! ## The log only grows -/

theorem prefix_deviceEvents {message : Option Json} :
    t.operationLogs <+:
      (deviceEvents B actor env message t).tables.operationLogs := by
  have hcases : (deviceEvents B actor env message t).tables = t ∨ _ :=
    deviceEvents_tables_cases
  rcases hcases with h | ⟨_, _, _, h⟩ | ⟨_, h⟩
  · exact ⟨[], by rw [h, List.append_nil]⟩
  · rw [h]
    exact List.prefix_append _ _
  · rw [h]
    exact List.prefix_append _ _

theorem prefix_handle {e : ServerEvent κ α} :
    t.operationLogs <+: (e.handle T clientSecret B t).operationLogs := by
  cases e with
  | heartbeat salt env broadcast body => exact List.prefix_refl _
  | admin actor env message => exact prefix_deviceEvents
  | updateConfigs username loggedAt commitFails configs =>
      rw [ServerEvent.handle, Server.updateConfigs]
      split
      · exact List.prefix_refl _
      · exact List.prefix_append _ _

/-! ## A reply comes after its commit -/

theorem mem_replies_of_guarded {attempt : Attempt} {data : Dict String Json}
    {fallback : String} (herror : ¬reply.IsError)
    (hreply : reply ∈ (attempt.guarded env data fallback).replies) :
    reply ∈ attempt.replies := by
  rcases mem_replies_guarded hreply with hreply | ⟨text, rfl⟩
  · exact hreply
  · exact absurd trivial herror

/-- An update is reported when its entry is in the log. -/
theorem updateDevice_receipt {data : Dict String Json}
    (hreply : reply ∈ (updateDevice B actor env data t).replies) :
    ∃ deviceId allowed, updateRequest B data = .ok (deviceId, allowed) ∧
      (∃ device, reply = .deviceUpdated (requestId data) device) ∧
      (updateDevice B actor env data t).tables.operationLogs =
        t.operationLogs ++ t.newLogs actor "update_device" (.ofDict allowed)
          env.loggedAt [deviceId] := by
  rcases updateDevice_cases B actor env data t with ⟨_, h⟩ |
    ⟨deviceId, allowed, device, remark, hrequest, hdevice,
      ⟨-, h⟩ | ⟨-, _, h⟩⟩
  · rw [h] at hreply
    contradiction
  · rw [h] at hreply ⊢
    refine ⟨deviceId, allowed, hrequest,
      ⟨_, announce_spec.2 reply hreply⟩, ?_⟩
    rw [announce_spec.1, Tables.reviseDevice,
      Database.deviceId_of_device? hdevice]
  · rw [h] at hreply
    contradiction

theorem updateRequest_eq {data update : Dict String Json} {deviceId : String}
    {allowed : Dict String Json}
    (hid : getOr data "device_id" (.str "") = .str deviceId)
    (hdata : getOr data "data" .null = Json.ofDict update)
    (htruthy : Python.truthy (Json.ofDict update) = true)
    {id : String} (h : updateRequest B data = .ok (id, allowed)) :
    id = Python.strip deviceId ∧ allowed = allowedFields update := by
  rw [updateRequest] at h
  split at h
  · contradiction
  · rw [hdata, if_pos htruthy, Json.dict?_ofDict] at h
    dsimp only at h
    split at h
    · contradiction
    · obtain ⟨rfl, rfl⟩ := Prod.mk.inj (Except.ok.inj h)
      rw [targetId, hid, B.str_str]
      exact ⟨rfl, rfl⟩

/-- What the update of a row with these fields leaves in the log. -/
theorem logsAbout_updateDevice {data update : Dict String Json}
    {deviceId : String}
    (hcommits : Commits handled request actor t.operationLogs
      (updateDevice B actor env data t).tables.operationLogs)
    (hid : getOr data "device_id" (.str "") = .str deviceId)
    (hdata : getOr data "data" .null = Json.ofDict update)
    (htruthy : Python.truthy (Json.ofDict update) = true)
    (hallowed : allowedFields update = update)
    (hreply : reply ∈ (updateDevice B actor env data t).replies) :
    (∃ device, reply = .deviceUpdated (requestId data) device) ∧
      LogsAbout handled (updateDevice B actor env data t).tables.operationLogs
        request "update_device" (Python.strip deviceId) (.ofDict update) := by
  obtain ⟨id, allowed, hrequest, hform, hlogs⟩ := updateDevice_receipt hreply
  obtain ⟨rfl, rfl⟩ := updateRequest_eq hid hdata htruthy hrequest
  have hhandled := hcommits _ hlogs
  rw [hallowed] at hlogs hhandled
  rw [hlogs]
  exact ⟨hform, logsAbout_newLogs hhandled (List.mem_singleton_self _)⟩

theorem logsAbout_deleteDevice {data : Dict String Json} {deviceId : String}
    (hcommits : Commits handled request actor t.operationLogs
      (deleteDevice B actor env data t).tables.operationLogs)
    (hid : getOr data "device_id" (.str "") = .str deviceId)
    (hreply : reply ∈ (deleteDevice B actor env data t).replies) :
    reply = .deviceDeleted (requestId data) (Python.strip deviceId) ∧
      LogsAbout handled (deleteDevice B actor env data t).tables.operationLogs
        request "delete_device" (Python.strip deviceId) .null := by
  have htarget : targetId B data = Python.strip deviceId := by
    rw [targetId, hid, B.str_str]
  rcases deleteDevice_cases B actor env data t with ⟨_, h⟩ | h
  · rw [h] at hreply
    contradiction
  · rw [h, htarget] at hreply hcommits ⊢
    rw [announce_spec.1] at hcommits ⊢
    exact ⟨announce_spec.2 reply hreply,
      logsAbout_newLogs (hcommits _ rfl) (List.mem_singleton_self _)⟩

/-- What the deletion of many devices reports. -/
theorem logsAbout_deleteDevices {data : Dict String Json}
    {deviceIds : List String}
    (hcommits : Commits handled request actor t.operationLogs
      (deleteDevices B actor env data t).tables.operationLogs)
    (hids : getOr data "device_ids" .null = .arr (deviceIds.map .str))
    (hreply : reply ∈ (deleteDevices B actor env data t).replies) :
    ∃ ids, reply = .devicesDeleted (requestId data) ids ids.length ∧
      ∀ id ∈ ids, id ∈ deviceIds.map Python.strip ∧
        LogsAbout handled
          (deleteDevices B actor env data t).tables.operationLogs request
          "delete_device" id .null := by
  rcases deleteDevices_cases B actor env data t with ⟨_, h⟩ |
    ⟨requested, hrequest, h⟩
  · rw [h] at hreply
    contradiction
  · rw [h] at hreply hcommits ⊢
    rw [announce_spec.1] at hcommits ⊢
    refine ⟨_, announce_spec.2 reply hreply, fun id hid =>
      ⟨?_, logsAbout_newLogs (hcommits _ rfl) hid⟩⟩
    have hmem : id ∈ requested := by
      obtain ⟨d, hd, rfl⟩ := List.mem_map.mp hid
      have hnamed := (B.scan_perm _).mem_iff.mp hd
      exact of_decide_eq_true (List.mem_filter.mp hnamed).2
    rw [deleteRequest, hids] at hrequest
    dsimp only at hrequest
    split at hrequest
    · contradiction
    · split at hrequest
      · contradiction
      · obtain rfl := Except.ok.inj hrequest
        obtain ⟨-, x, hx, rfl⟩ := mem_requestedIds.mp hmem
        obtain ⟨deviceId, hdeviceId, rfl⟩ := List.mem_map.mp hx
        rw [B.str_str]
        exact List.mem_map_of_mem hdeviceId

theorem devicesList_of_getDevices {data : Dict String Json}
    {payload : AdminReply} (h : getDevices B data t = some payload) :
    ∃ total devices, payload = .devicesList (requestId data) total devices := by
  rw [getDevices] at h
  cases hquery : pageQuery data with
  | none => simp [hquery] at h
  | some query =>
      simp only [hquery] at h
      split at h
      · contradiction
      · split at h
        · exact ⟨_, _, (Option.some.inj h).symm⟩
        · contradiction

/-- **A change is in the log when the reply to it is sent.** -/
theorem recorded_deviceEvents
    (hcommits : Commits handled request actor t.operationLogs
      (deviceEvents B actor env (some request.json) t).tables.operationLogs)
    (herror : ¬reply.IsError)
    (hreply : reply ∈ (deviceEvents B actor env (some request.json) t).replies) :
    request.Recorded handled
      (deviceEvents B actor env (some request.json) t).tables.operationLogs
      reply := by
  have hdata := request.dict?_json
  have htype := request.type_data
  rw [deviceEvents] at hreply hcommits ⊢
  simp only [hdata, htype] at hreply hcommits ⊢
  obtain ⟨payload, requestId⟩ := request
  cases payload with
  | getDevices page pageSize sortBy sortOrder =>
      simp only [WsRequest.requestType, if_true] at hreply
      cases hlist : getDevices B (WsRequest.data ⟨.getDevices page pageSize
          sortBy sortOrder, requestId⟩) t with
      | none => simp [hlist] at hreply
      | some payload =>
          cases hsend : env.sendError payload with
          | some message => simp [hlist, hsend] at hreply
          | none =>
              have heq : reply = payload := by
                simpa [hlist, hsend] using hreply
              rw [heq]
              exact devicesList_of_getDevices hlist
  | updateRemark deviceId remark =>
      simp only [WsRequest.requestType, Option.some.injEq, Json.str.injEq,
        String.reduceEq, if_false, if_true] at hreply hcommits ⊢
      rw [tables_guarded] at hcommits ⊢
      exact logsAbout_updateDevice hcommits rfl rfl rfl rfl
        (mem_replies_of_guarded herror hreply)
  | updateAuthorized deviceId isAuthorized =>
      simp only [WsRequest.requestType, Option.some.injEq, Json.str.injEq,
        String.reduceEq, if_false, if_true] at hreply hcommits ⊢
      rw [tables_guarded] at hcommits ⊢
      exact logsAbout_updateDevice hcommits rfl rfl rfl rfl
        (mem_replies_of_guarded herror hreply)
  | deleteDevice deviceId =>
      simp only [WsRequest.requestType, Option.some.injEq, Json.str.injEq,
        String.reduceEq, if_false, if_true] at hreply hcommits ⊢
      rw [tables_guarded] at hcommits ⊢
      exact logsAbout_deleteDevice hcommits rfl
        (mem_replies_of_guarded herror hreply)
  | deleteDevices deviceIds =>
      simp only [WsRequest.requestType, Option.some.injEq, Json.str.injEq,
        String.reduceEq, if_false, if_true] at hreply hcommits ⊢
      rw [tables_guarded] at hcommits ⊢
      exact logsAbout_deleteDevices hcommits rfl
        (mem_replies_of_guarded herror hreply)

/-! ## What the page settles -/

/-- From `p` to `p'` no promise is resolved. -/
structure Panel.Keeps (p p' : Panel) : Prop where
  issued : ∀ request ∈ p.issued, request ∈ p'.issued
  resolved : ∀ requestId reply, (requestId, .resolved reply) ∈ p'.settled →
    (requestId, .resolved reply) ∈ p.settled

theorem Panel.Keeps.of_eq {p p' : Panel} (hissued : p'.issued = p.issued)
    (hsettled : p'.settled = p.settled) : p.Keeps p' := by
  refine ⟨fun request hrequest => ?_, fun requestId reply hmem => ?_⟩
  · rwa [hissued]
  · rwa [hsettled] at hmem

/-- Only a message resolves a promise. -/
theorem Panel.Keeps.of_input {p p' : Panel} {now : ℕ} {i : Input}
    (hinput : p.input now i = some p') (hi : ∀ m, i ≠ .message m) :
    p.Keeps p' := by
  refine ⟨issued_input hinput, fun requestId reply hmem => ?_⟩
  rcases settles_input hinput requestId _ hmem with hmem | hby
  · exact hmem
  · cases hby with
    | reply => exact (hi _ rfl).elim

/-! ## The invariant -/

namespace Console

variable {s s' : Console} {e : ConsoleEvent κ α} {token : Bool}
  {es : List (ConsoleEvent κ α)}

/-- The reply answers an issued request, and what it tells of is in the log. -/
def Receipt (handled : Handling) (s : Console) (reply : AdminReply) : Prop :=
  ∃ request ∈ s.panel.issued, reply.requestId = .str request.requestId ∧
    request.Recorded handled s.tables.operationLogs reply

/-- Replies under way and resolved promises are receipts. -/
structure Receipts (handled : Handling) (s : Console) : Prop where
  replies : ∀ c ∈ s.connection, ∀ reply,
    .reply reply ∈ c.toPanel ++ c.handling → ¬reply.IsError →
      s.Receipt handled reply
  resolved : ∀ requestId reply, (requestId, .resolved reply) ∈ s.panel.settled →
    reply.requestId = .str requestId ∧ s.Receipt handled reply

theorem Receipt.mono (h : s.Receipt handled reply)
    (hissued : ∀ request ∈ s.panel.issued, request ∈ s'.panel.issued)
    (hlogs : s.tables.operationLogs <+: s'.tables.operationLogs) :
    s'.Receipt handled reply := by
  obtain ⟨request, hrequest, hid, hrecorded⟩ := h
  exact ⟨request, hissued request hrequest, hid, hrecorded.mono hlogs⟩

/-- Nothing new is sent to the page, and no promise resolved. -/
theorem Receipts.keeps (h : s.Receipts handled)
    (hpanel : s.panel.Keeps s'.panel)
    (hlogs : s.tables.operationLogs <+: s'.tables.operationLogs)
    (hconnection : ∀ c' ∈ s'.connection, ∃ c ∈ s.connection, ∀ reply,
      .reply reply ∈ c'.toPanel ++ c'.handling →
        .reply reply ∈ c.toPanel ++ c.handling) : s'.Receipts handled := by
  refine ⟨fun c' hc' reply hreply herror => ?_,
    fun requestId reply hmem => ?_⟩
  · obtain ⟨c, hc, hreplies⟩ := hconnection c' hc'
    exact (h.replies c hc reply (hreplies reply hreply) herror).mono
      hpanel.issued hlogs
  · obtain ⟨hid, hreceipt⟩ :=
      h.resolved requestId reply (hpanel.resolved requestId reply hmem)
    exact ⟨hid, hreceipt.mono hpanel.issued hlogs⟩

/-- A message arrives; it resolves at most the promise of the request which it
answers. -/
theorem Receipts.deliver {c : Connection} {m : ServerMessage}
    {toPanel : List ServerMessage} {now : ℕ} (h : s.Receipts handled)
    (hc : s.connection = some c) (htoPanel : c.toPanel = m :: toPanel) :
    { s with
      panel := s.panel.onmessage now m
      connection := some { c with toPanel := toPanel } : Console }.Receipts
        handled := by
  have hmono {reply : AdminReply} (hreceipt : s.Receipt handled reply) :
      { s with
        panel := s.panel.onmessage now m
        connection := some { c with toPanel := toPanel } : Console }.Receipt
          handled reply :=
    hreceipt.mono Panel.Grows.onmessage.issued (List.prefix_refl _)
  constructor
  · rintro _ ⟨⟩ reply hreply herror
    refine hmono (h.replies c hc reply ?_ herror)
    rw [htoPanel]
    exact List.mem_cons_of_mem _ hreply
  · intro requestId reply hmem
    rcases Panel.Settles.onmessage requestId _ hmem with hmem | hby
    · obtain ⟨hid, hreceipt⟩ := h.resolved requestId reply hmem
      exact ⟨hid, hmono hreceipt⟩
    · cases hby with
      | reply hid herror =>
          refine ⟨hid, hmono (h.replies c hc reply ?_ herror)⟩
          rw [htoPanel]
          exact List.mem_cons_self

/-- The server handles a request of the page. -/
theorem Receipts.receive {c : Connection} {request : WsRequest}
    (h : s.Receipts handled) (hc : s.connection = some c)
    (hissued : request ∈ s.panel.issued)
    (hcommits : Commits handled request c.actor s.tables.operationLogs
      (c.receive B client env request s.tables).1.operationLogs) :
    { tables := (c.receive B client env request s.tables).1
      panel := { s.panel with toChannel := s.panel.toChannel.received }
      connection := some (c.receive B client env request s.tables).2 :
        Console }.Receipts handled := by
  have hlogs : s.tables.operationLogs <+:
      (deviceEvents B c.actor env (some request.json)
        s.tables).tables.operationLogs := prefix_deviceEvents
  refine ⟨fun c' hc' reply hreply herror => ?_,
    fun requestId reply hmem => ?_⟩
  · obtain rfl := Option.some.inj hc'
    rcases List.mem_append.mp hreply with hreply | hreply
    · refine Receipt.mono (h.replies c hc reply ?_ herror)
        (fun request hrequest => hrequest) hlogs
      exact List.mem_append_left _ hreply
    · obtain ⟨reply', hreply', heq⟩ := List.mem_map.mp hreply
      obtain rfl := ServerMessage.reply.inj heq
      exact ⟨request, hissued, (replies_deviceEvents hreply').1,
        recorded_deviceEvents hcommits herror hreply'⟩
  · obtain ⟨hid, hreceipt⟩ := h.resolved requestId reply hmem
    exact ⟨hid, hreceipt.mono (fun request hrequest => hrequest) hlogs⟩

theorem receipts_step (hsound : s.panel.toChannel.Sound)
    (h : s.Receipts handled)
    (hstep : s.step T clientSecret B client e = some s')
    (hcommits : ∀ env c request rest, e = .receive env →
      s.connection = some c → s.panel.sent = request :: rest →
      Commits handled request c.actor s.tables.operationLogs
        s'.tables.operationLogs) :
    s'.Receipts handled := by
  -- A connection which has got no new reply to send.
  have hsame {c c' : Connection} (hc : s.connection = some c)
      (hreplies : ∀ reply, .reply reply ∈ c'.toPanel ++ c'.handling →
        .reply reply ∈ c.toPanel ++ c.handling) :
      ∀ c'' ∈ some c', ∃ c ∈ s.connection, ∀ reply,
        .reply reply ∈ c''.toPanel ++ c''.handling →
          .reply reply ∈ c.toPanel ++ c.handling := by
    rintro _ ⟨⟩
    exact ⟨c, hc, hreplies⟩
  have hkeep : ∀ c ∈ s.connection, ∃ c' ∈ s.connection, ∀ reply,
      .reply reply ∈ c.toPanel ++ c.handling →
        .reply reply ∈ c'.toPanel ++ c'.handling :=
    fun c hc => ⟨c, hc, fun _ hreply => hreply⟩
  cases stepped hstep with
  | panel now e =>
      have hinput : s.panel.input now (.event e) =
          some (s.panel.handle now e) := rfl
      refine h.keeps (.of_input hinput (by simp)) (List.prefix_refl _)
        fun c hc => ?_
      dsimp only at hc
      split at hc
      · contradiction
      · exact hkeep c hc
  | accept actor hconnecting hnone =>
      refine ⟨?_, h.resolved⟩
      rintro _ ⟨⟩ reply hreply
      contradiction
  | opened now hconnecting =>
      have hinput : s.panel.input now .opened = some (s.panel.onopen now) :=
        if_pos hconnecting
      exact h.keeps (.of_input hinput (by simp)) (List.prefix_refl _) hkeep
  | register hc =>
      refine h.keeps (.of_eq rfl rfl) (List.prefix_refl _) (hsame hc ?_)
      intro reply hreply
      simpa using hreply
  | @greet c hc =>
      refine h.keeps (.of_eq rfl rfl) (List.prefix_refl _) (hsame hc ?_)
      intro reply hreply
      rw [Connection.greet] at hreply
      split at hreply
      · refine List.mem_append_left _ ?_
        simpa using hreply
      · exact hreply
  | receive env hc hsent =>
      refine h.receive hc (hsound.tracked.sent _ ?_)
        (hcommits env _ _ _ rfl hc hsent)
      rw [hsent]
      exact List.mem_cons_self
  | send hc hhandling =>
      refine h.keeps (.of_eq rfl rfl) (List.prefix_refl _) (hsame hc ?_)
      intro reply hreply
      rw [hhandling]
      simpa using hreply
  | server e =>
      refine h.keeps (.of_eq rfl rfl) prefix_handle fun c' hc' => ?_
      obtain ⟨c, hc, rfl⟩ := Option.map_eq_some_iff.mp hc'
      refine ⟨c, hc, ?_⟩
      split <;> exact fun _ hreply => hreply
  | announce hc =>
      refine h.keeps (.of_eq rfl rfl) (List.prefix_refl _) (hsame hc ?_)
      intro reply hreply
      simpa using hreply
  | deliver now hc htoPanel hopen => exact h.deliver hc htoPanel
  | drop =>
      exact h.keeps (.of_eq rfl rfl) (List.prefix_refl _) fun c hc => by
        contradiction
  | closed now code hnone hsocket =>
      have hinput : s.panel.input now (.closed code) =
          some (s.panel.onclose now code) := if_pos hsocket
      exact h.keeps (.of_input hinput (by simp)) (List.prefix_refl _) hkeep

theorem receipts_start : (start t token).Receipts handled := by
  have hsettled : (start t token).panel.settled = [] := by
    cases token <;> rfl
  refine ⟨fun c hc => by contradiction, fun requestId reply hmem => ?_⟩
  rw [hsettled] at hmem
  contradiction

/-- The user of a connection is one whom the server has accepted. -/
theorem accepted_run
    (hrun : Run (fun s e s' => s.step T clientSecret B client e = some s')
      (start t token) es s) :
    ∀ c ∈ s.connection, .accept c.actor ∈ es := by
  induction hrun with
  | nil =>
      intro c hc
      contradiction
  | @snoc es e s s' hrun hlast ih =>
      intro c' hc'
      have hkeep {c : Connection} (hc : c ∈ s.connection)
          (hactor : c'.actor = c.actor) : .accept c'.actor ∈ es ++ [e] := by
        rw [hactor]
        exact List.mem_append_left _ (ih c hc)
      cases stepped hlast with
      | panel now e =>
          dsimp only at hc'
          split at hc'
          · contradiction
          · exact hkeep hc' rfl
      | accept actor hconnecting hnone =>
          obtain rfl := Option.some.inj hc'
          exact List.mem_append_right _ (List.mem_singleton_self _)
      | opened | closed => exact hkeep hc' rfl
      | @greet c hc =>
          obtain rfl := Option.some.inj hc'
          refine hkeep hc ?_
          rw [Connection.greet]
          split <;> rfl
      | register hc | receive env hc | send hc | announce hc | deliver now hc =>
          obtain rfl := Option.some.inj hc'
          exact hkeep hc rfl
      | server e =>
          obtain ⟨c, hc, rfl⟩ := Option.map_eq_some_iff.mp hc'
          refine hkeep hc ?_
          split <;> rfl
      | drop => contradiction

/-- In the run `es` from the first tables `t` to `s` the connection of `actor`
has brought the request; when the server handled it, the log was `before`, and
the entries `new` were added. -/
def HandledIn (T : Transport κ) (clientSecret : String) (B : Backend)
    (client : α) (t : Tables) (token : Bool) (es : List (ConsoleEvent κ α))
    (s : Console) : Handling := fun request actor before new =>
  let next := fun (s : Console) e s' =>
    s.step T clientSecret B client e = some s'
  ∃ es₁ env es₂ s₁ s₂, es = es₁ ++ .receive env :: es₂ ∧
    Run next (start t token) es₁ s₁ ∧ next s₁ (.receive env) s₂ ∧
    Run next s₂ es₂ s ∧ .accept actor ∈ es₁ ∧
    (∃ c ∈ s₁.connection, c.actor = actor) ∧
    s₁.panel.sent.head? = some request ∧
    s₁.tables.operationLogs = before ∧
    s₂.tables.operationLogs = before ++ new

/-- **What is reported as done was committed.**  In every run of one page and
its server, with heartbeats, other pages and configuration changes between, a
promise of the page is resolved only by the reply to its own request, which has
the form that the page reads.  Every change that it tells of stands in the log:
the entry was added when the server handled this request, under the name of the
user for whom it had accepted the connection. -/
theorem resolved_recorded
    (hrun : Run (fun s e s' => s.step T clientSecret B client e = some s')
      (start t token) es s)
    {requestId : String} (hresolved : (requestId, .resolved reply) ∈
      s.panel.settled) :
    ∃ request ∈ s.panel.issued, request.requestId = requestId ∧
      request.Recorded (HandledIn T clientSecret B client t token es s)
        s.tables.operationLogs reply := by
  have hinv : s.panel.toChannel.Sound ∧
      s.Receipts (HandledIn T clientSecret B client t token es s) := by
    have hrun' : Run (fun s₁ e s₂ =>
        s₁.step T clientSecret B client e = some s₂ ∧
          ∀ env c request rest, e = .receive env →
            s₁.connection = some c → s₁.panel.sent = request :: rest →
            Commits (HandledIn T clientSecret B client t token es s) request
              c.actor s₁.tables.operationLogs s₂.tables.operationLogs)
        (start t token) es s := by
      refine hrun.of_split fun es₁ e es₂ s₁ s₂ hsplit hbefore hstep hafter => ?_
      refine ⟨hstep, ?_⟩
      rintro env c request rest rfl hc hsent new hlogs
      exact ⟨es₁, env, es₂, s₁, s₂, hsplit, hbefore, hstep, hafter,
        accepted_run hbefore c hc, ⟨c, hc, rfl⟩, by rw [hsent]; rfl, rfl, hlogs⟩
    refine hrun'.invariant (I := fun s' => s'.panel.toChannel.Sound ∧
      s'.Receipts (HandledIn T clientSecret B client t token es s))
        ⟨Panel.sound_onMounted, receipts_start⟩ ?_
    rintro s e s' ⟨hsound, hreceipts⟩ ⟨hstep, hcommits⟩
    exact ⟨sound_step hsound hstep, receipts_step hsound hreceipts hstep hcommits⟩
  obtain ⟨hid, request, hrequest, hid', hrecorded⟩ :=
    hinv.2.resolved requestId reply hresolved
  refine ⟨request, hrequest, ?_, hrecorded⟩
  rw [hid'] at hid
  exact Json.str.inj hid

/-- A device registers; the page is told of it and deletes it. -/
def deletionEvents : List (ConsoleEvent (String × ℕ × Json) String) :=
  [.server (.heartbeat 0 ⟨100, 100, 100, 100⟩ quietBroadcast (.encrypted
      ("secret", 0, Json.ofDict (.ofList [("device_id", .str "D")])))),
    .accept "admin", .opened 1, .register, .greet, .send, .deliver 2, .deliver 3,
    .panel 4 (.user (.deleteDevice 0)), .receive (.quiet quietBroadcast), .send,
    .receive (.quiet quietBroadcast), .send, .deliver 5, .deliver 6]

def deletionReply : AdminReply := .deviceDeleted (.str "r_4_2") "D"

theorem resolved_recorded_after_deletion :
    ∃ s : Console, s.tables.devices = [] ∧
      Run (fun s e s' => s.step .symbolic "secret" .plain "a" e = some s')
        (start emptyTables true) deletionEvents s ∧
      ∃ request ∈ s.panel.issued, request.requestId = "r_4_2" ∧
        request.Recorded (HandledIn .symbolic "secret" .plain "a" emptyTables
          true deletionEvents s) s.tables.operationLogs deletionReply := by
  have hend : (deletionEvents.foldlM (fun s e =>
      step .symbolic "secret" .plain "a" s e) (start emptyTables true)).any
        (fun s => decide (s.tables.devices = []) &&
          decide (("r_4_2", .resolved deletionReply) ∈ s.panel.settled)) =
            true := by
    decide +kernel
  obtain ⟨s, hs, hfinal⟩ := (Option.any_eq_true _ _).mp hend
  simp only [Bool.and_eq_true, decide_eq_true_eq] at hfinal
  obtain ⟨hdevices, hresolved⟩ := hfinal
  have hrun : Run (fun s e s' => s.step .symbolic "secret" .plain "a" e =
      some s') (start emptyTables true) deletionEvents s := .of_foldlM hs
  exact ⟨s, hdevices, hrun, resolved_recorded hrun hresolved⟩

end Console

end PyAuth.Web
