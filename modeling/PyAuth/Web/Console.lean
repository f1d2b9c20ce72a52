import PyAuth.Server.Announcements
import PyAuth.Support.Mirror
import PyAuth.Web.Promises

/-!
# A page and its server

One page of the devices, its connection, and the server, which meanwhile
handles heartbeats, other pages and changes of the configuration.  A change is
announced after its commit, the page reloads when it hears of it, and what is
read for the page may be outdated when it arrives.  Nevertheless the page shows
the devices as they are once nothing is under way any more.
-/

namespace PyAuth.Web

open Support Server

/-! ## The system -/

/-- The task of the server for the connection of the page.  `handling` are
messages which it is about to send, `announcing` counts the announcements under
way to the page, and `toPanel` are the messages sent and not yet received. -/
structure Connection where
  actor : String
  registered : Bool
  greeted : Bool
  isOpen : Bool
  handling : List ServerMessage
  announcing : ℕ
  toPanel : List ServerMessage
deriving DecidableEq

structure Console where
  tables : Tables
  panel : Panel
  connection : Option Connection
deriving DecidableEq

/-- What happens: something on the page; the steps of its connection; an event
of the server that is not about this page; and the end of the connection. -/
inductive ConsoleEvent (κ α : Type) [DecidableEq α]
  | panel (now : ℕ) (e : Panel.Event)
  | accept (actor : String)
  | opened (now : ℕ)
  | register
  | greet
  | receive (env : RequestEnv α)
  | send
  | server (e : ServerEvent κ α)
  | announce
  | deliver (now : ℕ)
  | drop
  | closed (now code : ℕ)

/-- The request for the devices which the server sends at first. -/
def initialPayload : Payload := .getDevices 1 50 "updated_at" "desc"

/-- The rows of a page. -/
def listQuery (page pageSize : ℤ) (sortBy sortOrder : String) : PageQuery :=
  { field := sortField (.str sortBy)
    ascending := decide (sortOrder.toLower = "asc")
    offset := (max 1 page - 1) * max 1 (min 200 pageSize)
    limit := max 1 (min 200 pageSize) }

section

variable {κ α : Type} [DecidableEq α] (T : Transport κ) (clientSecret : String)
  (B : Backend) (client : α)

/-- The total and the rows which a request for devices asks for. -/
def readDevices (t : Tables) : Payload → ℕ × List Device
  | .getDevices page pageSize sortBy sortOrder =>
      (t.devices.length,
        fetchPage B (listQuery page pageSize sortBy sortOrder) t)
  | .updateRemark _ _ | .updateAuthorized _ _ | .deleteDevice _
  | .deleteDevices _ => (0, [])

/-- The server takes the oldest request of the page. -/
def Channel.received (c : Channel) : Channel :=
  { c with deviceSocket := c.deviceSocket.map fun socket =>
      { socket with sent := socket.sent.tail } }

/-- `device_events` for the connection of the page. -/
def Connection.receive (env : RequestEnv α) (request : WsRequest) (t : Tables)
    (c : Connection) : Tables × Connection :=
  let out := deviceEvents B c.actor env (some request.json) t
  (out.tables,
    { c with
      isOpen := out.isOpen
      handling := out.replies.map .reply
      announcing := c.announcing + (out.announced env).count client })

/-- The first list; the connection ends when a row cannot be reported. -/
def Connection.greet (t : Tables) (c : Connection) : Connection :=
  let payload := readDevices B t initialPayload
  if ∀ d ∈ payload.2, d.Reportable then
    { c with
      greeted := true
      handling := [.initialList payload.1 payload.2] }
  else { c with isOpen := false }

namespace Console

/-- One step; `client` is the WebSocket of the page on the server. -/
def step (s : Console) : ConsoleEvent κ α → Option Console
  | .panel now e =>
      let panel := s.panel.handle now e
      some { s with
        panel := panel
        connection :=
          if panel.deviceSocket.isNone then none else s.connection }
  | .accept actor =>
      if s.panel.isConnecting ∧ s.connection = none then
        some { s with
          connection := some ⟨actor, false, false, true, [], 0, []⟩ }
      else none
  | .opened now =>
      if s.connection.isSome ∧ s.panel.isConnecting then
        some { s with panel := s.panel.onopen now }
      else none
  | .register =>
      match s.connection with
      | some c =>
          if c.isOpen ∧ ¬c.registered then
            some { s with
              connection := some { c with
                registered := true
                toPanel := c.toPanel ++ [.connected] } }
          else none
      | none => none
  | .greet =>
      match s.connection with
      | some c =>
          if c.isOpen ∧ c.registered ∧ ¬c.greeted then
            some { s with connection := some (c.greet B s.tables) }
          else none
      | none => none
  | .receive env =>
      match s.connection, s.panel.sent with
      | some c, request :: _ =>
          if c.isOpen ∧ c.greeted ∧ c.handling = [] then
            let (tables, c) := c.receive B client env request s.tables
            some
              { tables := tables
                panel := { s.panel with
                  toChannel := s.panel.toChannel.received }
                connection := some c }
          else none
      | _, _ => none
  | .send =>
      match s.connection with
      | some c =>
          match c.handling with
          | m :: handling =>
              some { s with
                connection := some { c with
                  handling := handling
                  toPanel := c.toPanel ++ [m] } }
          | [] => none
      | none => none
  | .server e =>
      some { s with
        tables := e.handle T clientSecret B s.tables
        connection := s.connection.map fun c =>
          if c.registered then
            { c with announcing := c.announcing +
                (e.announced T clientSecret B s.tables).count client }
          else c }
  | .announce =>
      match s.connection with
      | some c =>
          if c.announcing = 0 then none
          else
            some { s with
              connection := some { c with
                announcing := c.announcing - 1
                toPanel := c.toPanel ++ [.devicesChanged] } }
      | none => none
  | .deliver now =>
      match s.connection with
      | some c =>
          match c.toPanel with
          | m :: toPanel =>
              if s.panel.isOpen then
                some { s with
                  panel := s.panel.onmessage now m
                  connection := some { c with toPanel := toPanel } }
              else none
          | [] => none
      | none => none
  | .drop =>
      if s.connection.isSome then some { s with connection := none } else none
  | .closed now code =>
      if s.connection = none ∧ s.panel.deviceSocket.isSome then
        some { s with panel := s.panel.onclose now code }
      else none

/-- A page that was just opened. -/
def start (t : Tables) (token : Bool) : Console :=
  ⟨t, Panel.onMounted token, none⟩

/-- If the page is registered and the step changes the devices, the page hears
of it. -/
def Heard (s : Console) : ConsoleEvent κ α → Prop
  | .server e => (∃ c ∈ s.connection, c.registered = true) → e.Reaches client
  | .receive env => env.Reaches client
  | _ => True

/-- The page is connected, and nothing is under way. -/
structure Quiescent (s : Console) : Prop where
  isOpen : s.panel.isOpen = true
  sent : s.panel.sent = []
  connection : ∃ actor,
    s.connection = some ⟨actor, true, true, true, [], 0, []⟩

end Console

end

/-! ## What the page shows -/

namespace Panel

/-- The total and the rows which are shown. -/
def view (p : Panel) : ℕ × List Device := (p.total, p.devices.map Row.device)

section

variable {now ref total : ℕ} {bulk : Bool} {p : Panel} {waiter : Waiter}
  {payload : Payload} {devices : List Device} {f : Row → Row}

@[simp] theorem view_applyDevicesPayload :
    (p.applyDevicesPayload total devices).view = (total, devices) := by
  rw [view, applyDevicesPayload]
  simp only [List.map_map, Prod.mk.injEq, true_and]
  change devices.zipIdx.map Prod.fst = devices
  exact List.zipIdx_map_fst 0 devices

/-- Only the device of a row is shown as the server told it. -/
@[simp] theorem view_onRow (hf : ∀ row, (f row).device = row.device) :
    (p.onRow ref f).view = p.view := by
  simp only [view, onRow, List.map_map, Prod.mk.injEq, true_and]
  refine List.map_congr_left fun row _ => ?_
  simp only [Function.comp_apply]
  split
  · exact hf row
  · rfl

@[simp] theorem view_connectWebSocket : p.connectWebSocket.view = p.view := by
  rw [connectWebSocket]
  split
  · rfl
  · split <;> rfl

@[simp] theorem view_endBulk : (p.endBulk bulk).view = p.view := by
  cases bulk <;> rfl

@[simp] theorem view_loadDevices : (p.loadDevices now bulk).view = p.view := by
  rw [loadDevices]
  split
  · rfl
  · rw [view_endBulk, view_connectWebSocket]

@[simp] theorem view_requestDevicesReload :
    (p.requestDevicesReload now).view = p.view := by
  rw [requestDevicesReload]
  split
  · rfl
  · exact view_loadDevices

@[simp] theorem view_afterLoad : (p.afterLoad now bulk).view = p.view := by
  rw [afterLoad]
  dsimp only
  split
  · rw [view_endBulk, view_loadDevices]
    rfl
  · rw [view_endBulk]
    rfl

@[simp] theorem view_rejected : (p.rejected now waiter).view = p.view := by
  cases waiter with
  | loadDevices bulk => exact view_afterLoad
  | saveRemark ref | toggleAuth ref | deleteDevice ref deviceId =>
      exact view_onRow fun _ => rfl
  | deleteSelectedDevices => rfl

@[simp] theorem view_sendOrReject :
    (p.sendOrReject now payload waiter).view = p.view := by
  rw [sendOrReject]
  split
  · rfl
  · exact view_rejected

theorem view_handleUser {e : UserEvent} (he : e ≠ .unmount) :
    (p.handleUser now e).view = p.view := by
  cases e with
  | setCurrentPage page | setPageSize pageSize =>
      exact view_loadDevices
  | sortChange column => cases column <;> exact view_loadDevices
  | editRemark ref remark => exact view_onRow fun _ => rfl
  | saveRemark ref =>
      rw [handleUser, saveRemark]
      cases p.row? ref with
      | none => rfl
      | some row =>
          dsimp only
          split
          · rfl
          · exact view_sendOrReject
  | toggleAuth ref authorize =>
      rw [handleUser, toggleAuth]
      cases p.row? ref with
      | none => rfl
      | some row =>
          dsimp only
          split
          · rfl
          · rw [view_sendOrReject]
            exact view_onRow fun _ => rfl
  | deleteDevice ref =>
      rw [handleUser, deleteDevice]
      cases p.row? ref with
      | none => rfl
      | some row =>
          dsimp only
          rw [view_sendOrReject]
          exact view_onRow fun _ => rfl
  | select ids | hidden => rfl
  | deleteSelectedDevices =>
      rw [handleUser]
      split <;> rfl
  | visible =>
      rw [handleUser, onVisible]
      dsimp only
      generalize (if p.lastPageHiddenAt = 0 then 0
        else now - p.lastPageHiddenAt) = awayMs
      split
      · split
        · exact view_requestDevicesReload
        · rfl
      · exact view_connectWebSocket
  | unmount => contradiction

theorem view_confirm {ok : Bool} : (p.confirm now ok).view = p.view := by
  rw [confirm]
  cases p.confirming with
  | none => rfl
  | some ids =>
      cases ok with
      | false => rfl
      | true => exact view_sendOrReject

theorem view_reconnect : p.reconnect.view = p.view := by
  rw [reconnect]
  split
  · rfl
  · exact view_connectWebSocket

end

end Panel

/-! ## What is under way -/

/-- What a message does to the view. -/
def ServerMessage.transit : ServerMessage → Transit Payload (ℕ × List Device)
  | .initialList total devices | .reply (.devicesList _ total devices) =>
      .value (total, devices)
  | .reply (.deviceUpdated _ _) | .reply (.deviceDeleted _ _)
  | .reply (.devicesDeleted _ _ _) => .edit
  | .connected | .devicesChanged | .reply (.error _ _) => .other

def WsRequest.transit (request : WsRequest) :
    Transit Payload (ℕ × List Device) :=
  if request.payload.isGetDevices then .ask request.payload else .other

/-- What is under way to the page, as far as it has left it. -/
def Connection.transits (c : Connection) :
    List (Transit Payload (ℕ × List Device)) :=
  c.toPanel.map ServerMessage.transit ++ c.handling.map ServerMessage.transit ++
    if c.greeted then [] else [.ask initialPayload]

def Panel.transits (p : Panel) : List (Transit Payload (ℕ × List Device)) :=
  p.sent.map WsRequest.transit

/-- The page will be told to reload, or knows that it has to. -/
def Connection.Owes (c : Connection) (p : Panel) : Prop :=
  .devicesChanged ∈ c.toPanel ∨ 0 < c.announcing ∨
    p.pendingDevicesReload = true

/-- If the page is open and not about to reload, it will show what it wants
when all has arrived. -/
def Settles (B : Backend) (t : Tables) (shown : Option (ℕ × List Device))
    (c : Connection) (p : Panel) : Prop :=
  p.isOpen = true → c.Owes p ∨
    eventually (readDevices B t) shown (c.transits ++ p.transits) =
      some (readDevices B t p.devicesPayload)

section

variable {B : Backend} {t : Tables} {shown : Option (ℕ × List Device)}
  {c c' : Connection} {p p' : Panel} {now : ℕ} {bulk : Bool}
  {waiter : Waiter} {reply : AdminReply}

theorem transits_request {payload : Payload} {channel : Channel}
    (hopen : channel.isOpen = true)
    (hchannel : p'.toChannel = channel.request now payload waiter) :
    p'.transits = channel.sent.map WsRequest.transit ++
      [if payload.isGetDevices then .ask payload else .other] := by
  rw [Panel.transits, hchannel, Channel.sent_request_of_isOpen hopen,
    List.map_append]
  rfl

/-- A page that asks for the devices will show them, whatever is under way. -/
theorem asked_of_load {channel : Channel} (hopen : channel.isOpen = true)
    (hchannel : p'.toChannel = channel.load now p'.devicesPayload bulk) :
    Asked p'.transits p'.devicesPayload := by
  have hopen' : Channel.isOpen { channel with loading := true } = true := hopen
  rw [transits_request hopen' hchannel]
  exact asked_append_ask

namespace Settles

theorem of_asked (h : Asked p.transits p.devicesPayload) :
    Settles B t shown c p := by
  intro _
  right
  rw [eventually_append]
  exact h.eventually

/-- What holds whatever the page shows. -/
theorem of_none (h : Settles B t none c p) : Settles B t shown c p :=
  fun hopen => (h hopen).imp_right eventually_of_none

theorem advance (h : Settles B t shown c p) (hadvance : p.Advance now p') :
    Settles B t shown c p' := by
  intro hopen'
  cases hadvance with
  | idle hchannel hpayload =>
      have hopen : p.isOpen = true := by rwa [hchannel] at hopen'
      rw [Connection.Owes, Panel.transits, hchannel, hpayload hopen]
      exact h hopen
  | connect hnone hchannel =>
      rw [hchannel] at hopen'
      contradiction
  | postpone hloading hchannel hpayload =>
      left
      rw [Connection.Owes, hchannel]
      exact Or.inr (Or.inr rfl)
  | load bulk hopen hchannel =>
      exact of_asked (asked_of_load hopen hchannel) hopen'
  | ask payload waiter hopen hget hwaiter hchannel hpayload =>
      rw [Connection.Owes, hchannel, transits_request hopen hchannel, hpayload,
        hget, ← List.append_assoc, eventually_append]
      exact h hopen

/-- A load has ended. -/
theorem afterLoad (h : Settles B t shown c p) :
    Settles B t shown c (p.afterLoad now bulk) := by
  cases hreload : p.pendingDevicesReload with
  | true =>
      intro hopen'
      have hadvance : p.loaded.Advance now (p.afterLoad now bulk) := .afterLoad
      have hopen : p.loaded.isOpen = true := hadvance.isOpen hopen'
      have hchannel : (p.afterLoad now bulk).toChannel = p.loaded.toChannel.load
          now (p.afterLoad now bulk).devicesPayload false := by
        rw [Panel.toChannel_afterLoad hreload hopen,
          Panel.devicesPayload_afterLoad]
      exact of_asked (asked_of_load hopen hchannel) hopen'
  | false =>
      have hloaded : Settles B t shown c p.loaded := by
        intro hopen
        refine (h hopen).imp_left fun howes => ?_
        rw [Connection.Owes, hreload] at howes
        exact howes
      exact hloaded.advance .afterLoad

/-- A promise was rejected. -/
theorem rejected (h : Settles B t shown c p) :
    Settles B t shown c (p.rejected now waiter) := by
  cases hwaiter : waiter.isLoad with
  | false => exact h.advance (.rejected hwaiter)
  | true =>
      cases waiter with
      | loadDevices bulk => exact h.afterLoad
      | saveRemark | toggleAuth | deleteDevice | deleteSelectedDevices =>
          contradiction

/-- A promise was resolved. -/
theorem resolved (h : Settles B t shown c p) :
    Settles B t shown c (p.resolved now reply waiter) := by
  cases hwaiter : waiter.isLoad with
  | false => exact h.advance (.resolved hwaiter)
  | true =>
      cases waiter with
      | loadDevices bulk =>
          have happly : Settles B t shown c (p.applyReply reply) := by
            cases reply <;> exact h
          exact happly.afterLoad
      | saveRemark | toggleAuth | deleteDevice | deleteSelectedDevices =>
          contradiction

/-- The page hears of a change. -/
theorem requestDevicesReload :
    Settles B t shown c (p.requestDevicesReload now) := by
  intro hopen'
  have hadvance : p.Advance now (p.requestDevicesReload now) :=
    .requestDevicesReload rfl rfl
  have hopen := hadvance.isOpen hopen'
  cases hloading : p.loading with
  | true =>
      left
      rw [Panel.requestDevicesReload, if_pos hloading]
      exact Or.inr (Or.inr rfl)
  | false =>
      have hload : p.requestDevicesReload now = p.loadDevices now false := by
        rw [Panel.requestDevicesReload, hloading]
        rfl
      have hchannel : (p.requestDevicesReload now).toChannel =
          p.toChannel.load now (p.requestDevicesReload now).devicesPayload
            false := by
        rw [hload, Panel.loadDevices, if_pos hopen]
        rfl
      exact of_asked (asked_of_load hopen hchannel) hopen'

end Settles

/-! ## Messages arrive -/

/-- A message which is gone before it arrives owes nothing. -/
theorem Connection.Owes.tail {m : ServerMessage} {toPanel : List ServerMessage}
    (h : c.Owes p) (hc : c.toPanel = m :: toPanel)
    (hm : m ≠ .devicesChanged) : { c with toPanel := toPanel }.Owes p := by
  rcases h with h | h
  · rw [hc] at h
    exact Or.inl ((List.mem_cons.mp h).resolve_left (Ne.symm hm))
  · exact Or.inr h

theorem Settles.tail {m : ServerMessage} {toPanel : List ServerMessage}
    (h : Settles B t shown c p) (hc : c.toPanel = m :: toPanel)
    (hm : m ≠ .devicesChanged) :
    Settles B t (m.transit.arrive (readDevices B t) shown)
      { c with toPanel := toPanel } p := by
  intro hopen
  refine (h hopen).imp (fun howes => howes.tail hc hm) fun h => ?_
  rw [Connection.transits, hc] at h
  exact h

/-- A reply arrives.  A list comes only for a load. -/
theorem settles_onreply
    (h : Settles B t ((ServerMessage.reply reply).transit.arrive
      (readDevices B t) (some p.view)) c p)
    (hkind : ∀ requestId waiter, p.pendingFor reply = some (requestId, waiter) →
      waiter.isLoad = true ∨ reply.isChange = true ∨ reply.IsError) :
    Settles B t (some (p.onreply now reply).view) c (p.onreply now reply) := by
  unfold Panel.onreply
  cases hpending : p.pendingFor reply with
  | none =>
      cases reply with
      | devicesList requestId total devices =>
          rw [Panel.view_applyDevicesPayload]
          exact h
      | deviceUpdated | deviceDeleted | devicesDeleted => exact h.of_none
      | error => exact h
  | some e =>
      obtain ⟨requestId, waiter⟩ := e
      cases reply with
      | error requestId' message =>
          rw [Panel.view_rejected]
          exact Settles.rejected h
      | deviceUpdated | deviceDeleted | devicesDeleted =>
          -- Whatever the change does to the view.
          have hsettled (outcome : Outcome) :
              Settles B t none c (p.settle requestId outcome) := h
          exact (hsettled _).resolved.of_none
      | devicesList requestId' total devices =>
          have hload : waiter.isLoad = true := by
            rcases hkind requestId waiter hpending with hload | hchange | herror
            · exact hload
            · contradiction
            · contradiction
          have hshown (outcome : Outcome) : Settles B t (some (total, devices)) c
              ((p.settle requestId outcome).applyDevicesPayload total
                devices) := h
          cases waiter with
          | loadDevices bulk =>
              have hview (p : Panel) : (p.resolved now (.devicesList requestId'
                  total devices) (.loadDevices bulk)).view =
                    (total, devices) := by
                rw [Panel.resolved, Panel.view_afterLoad]
                exact Panel.view_applyDevicesPayload
              rw [hview]
              exact (hshown _).resolved
          | saveRemark | toggleAuth | deleteDevice | deleteSelectedDevices =>
              contradiction

/-- **What arrives leaves the page on its way to what it wants.** -/
theorem settles_onmessage {m : ServerMessage} {toPanel : List ServerMessage}
    (h : Settles B t (some p.view) c p) (hc : c.toPanel = m :: toPanel)
    (hkind : ∀ reply requestId waiter, m = .reply reply →
      p.pendingFor reply = some (requestId, waiter) →
      waiter.isLoad = true ∨ reply.isChange = true ∨ reply.IsError) :
    Settles B t (some (p.onmessage now m).view) { c with toPanel := toPanel }
      (p.onmessage now m) := by
  cases m with
  | devicesChanged => exact Settles.requestDevicesReload
  | connected => exact h.tail hc (by decide)
  | initialList total devices =>
      have htail := h.tail hc (by simp)
      rw [Panel.onmessage, Panel.view_applyDevicesPayload]
      exact htail
  | reply reply =>
      exact settles_onreply (h.tail hc (by simp)) fun requestId waiter =>
        hkind reply requestId waiter rfl

end

/-! ## The invariant -/

/-- A connection with nothing under way. -/
def Connection.idle : Connection := ⟨"", true, true, true, [], 0, []⟩

/-- What holds of the connection of the page.  Before the page is registered
nothing has been read for it. -/
structure Connection.Good (B : Backend) (t : Tables) (c : Connection)
    (p : Panel) : Prop where
  replies : ∀ reply, .reply reply ∈ c.toPanel ++ c.handling →
    ∃ request ∈ p.issued, reply.requestId = .str request.requestId ∧
      (request.payload.isGetDevices = true ∨ reply.isChange = true ∨
        reply.IsError)
  answered : p.isOpen = true → c.isOpen = true →
    ∀ e ∈ p.pendingWsRequests, e.2.isLoad = true →
      (∃ request ∈ p.sent, request.requestId = e.1 ∧
        request.payload.isGetDevices = true) ∨
      ∃ reply, .reply reply ∈ c.toPanel ++ c.handling ∧
        reply.requestId = .str e.1
  settles : c.isOpen = true → Settles B t (some p.view) c p
  greeting : c.greeted = false → c.handling = []
  early : c.registered = false →
    (c.greeted = false ∧ c.handling = [] ∧ c.announcing = 0 ∧
      c.toPanel = []) ∧ ∀ t, Settles B t none .idle p

structure Console.Good (B : Backend) (s : Console) : Prop where
  sound : s.panel.toChannel.Sound
  reportable : s.tables.Reportable
  connection : ∀ c ∈ s.connection, c.Good B s.tables s.panel

section

variable {B : Backend} {t t' : Tables} {shown : Option (ℕ × List Device)}
  {c c' : Connection} {p p' : Panel} {now : ℕ} {bulk : Bool}
  {waiter : Waiter} {reply : AdminReply} {requestId : String}

theorem Settles.timeout (h : Settles B t shown c p) :
    Settles B t shown c (p.timeout now requestId) := by
  rw [Panel.timeout]
  cases p.pendingWsRequests.lookup requestId with
  | none => exact h
  | some waiter =>
      have hsettled (outcome : Outcome) :
          Settles B t shown c (p.settle requestId outcome) := h
      exact (hsettled _).rejected

namespace Connection.Good

/-- The page goes on and nothing arrives. -/
theorem panel (h : c.Good B t p) (hgrows : p.Grows p')
    (hview : p'.view = p.view)
    (hsettles : ∀ t shown c, Settles B t shown c p → Settles B t shown c p') :
    c.Good B t p' := by
  refine ⟨fun reply hreply => ?_, fun hopen hc e he hload => ?_, fun hc => ?_,
    h.greeting, fun hc => ?_⟩
  · obtain ⟨request, hrequest, hid⟩ := h.replies reply hreply
    exact ⟨request, hgrows.issued request hrequest, hid⟩
  · rcases hgrows.pending hopen e he hload with he | hsent
    · refine (h.answered (hgrows.isOpen hopen) hc e he hload).imp_left ?_
      rintro ⟨request, hrequest, hid⟩
      exact ⟨request, hgrows.sent hopen request hrequest, hid⟩
    · exact Or.inl hsent
  · rw [hview]
    exact hsettles _ _ _ (h.settles hc)
  · exact ⟨(h.early hc).1, fun t => hsettles _ _ _ ((h.early hc).2 t)⟩

/-- The page has no open connection any more. -/
theorem closed (h : c.Good B t p) (hgrows : p.Grows p')
    (hclosed : p'.isOpen = false) : c.Good B t p' := by
  have hnot : p'.isOpen ≠ true := by simp [hclosed]
  refine ⟨fun reply hreply => ?_, fun hopen => absurd hopen hnot,
    fun _ hopen => absurd hopen hnot, h.greeting,
    fun hc => ⟨(h.early hc).1, fun _ hopen => absurd hopen hnot⟩⟩
  obtain ⟨request, hrequest, hid⟩ := h.replies reply hreply
  exact ⟨request, hgrows.issued request hrequest, hid⟩

theorem advance (h : c.Good B t p) (hadvance : p.Advance now p')
    (hview : p'.view = p.view) : c.Good B t p' :=
  h.panel (.advance hadvance) hview fun _ _ _ hsettles =>
    hsettles.advance hadvance

end Connection.Good

/-- Nothing that happens on the page disturbs its connection. -/
theorem good_handle {e : Panel.Event} (h : c.Good B t p) :
    c.Good B t (p.handle now e) := by
  cases e with
  | user e =>
      rw [Panel.handle]
      split
      · by_cases he : e = .unmount
        · subst he
          exact h.closed .unmount Panel.Grows.isOpen_unmount
        · exact h.advance (.handleUser he) (Panel.view_handleUser he)
      · exact h
  | confirm ok => exact h.advance .confirm Panel.view_confirm
  | timeout requestId =>
      refine h.panel .timeout ?_ fun _ _ _ hsettles => hsettles.timeout
      change (p.timeout now requestId).view = p.view
      rw [Panel.timeout]
      cases p.pendingWsRequests.lookup requestId with
      | none => rfl
      | some waiter => exact Panel.view_rejected
  | reconnect =>
      have hadvance : p.Advance now p.reconnect := .reconnect
      exact h.advance hadvance Panel.view_reconnect
  | setToken token =>
      have hadvance : p.Advance now { p with token := token } :=
        .idle rfl fun _ => rfl
      exact h.advance hadvance rfl
  | closing =>
      refine h.closed .closing ?_
      simp only [Panel.handle, Panel.setReadyState, Channel.setReadyState,
        Channel.isOpen]
      cases p.deviceSocket <;> rfl

/-! ## The steps of the connection -/

theorem isOpen_of_isConnecting {channel : Channel}
    (h : channel.isConnecting = true) : channel.isOpen = false := by
  rw [Channel.isConnecting] at h
  rw [Channel.isOpen]
  cases hsocket : channel.deviceSocket with
  | none => rfl
  | some socket =>
      rw [hsocket] at h
      have hready : socket.readyState = .connecting := by simpa using h
      simp [hready]

/-- The server accepts the connection. -/
theorem good_accept {actor : String} (hconnecting : p.isConnecting = true) :
    Connection.Good B t ⟨actor, false, false, true, [], 0, []⟩ p := by
  have hnot : p.isOpen ≠ true := by simp [isOpen_of_isConnecting hconnecting]
  refine ⟨fun reply hreply => by contradiction, fun hopen => absurd hopen hnot,
    fun _ hopen => absurd hopen hnot, fun _ => rfl,
    fun _ => ⟨⟨rfl, rfl, rfl, rfl⟩, fun _ hopen => absurd hopen hnot⟩⟩

/-- The page learns that it is connected, and asks for the devices. -/
theorem toChannel_onopen (hsound : p.toChannel.Sound)
    (hconnecting : p.isConnecting = true) :
    (p.toChannel.setReadyState .open).isOpen = true ∧
      (p.onopen now).toChannel = (p.toChannel.setReadyState .open).load now
        (p.onopen now).devicesPayload false := by
  have hopen : (p.toChannel.setReadyState .open).isOpen = true := by
    rw [Channel.isConnecting] at hconnecting
    simp only [Channel.setReadyState, Channel.isOpen]
    cases hsocket : p.deviceSocket with
    | none => simp [hsocket] at hconnecting
    | some socket => rfl
  have hloading : (p.setReadyState .open).loading = false :=
    (Panel.loading_of_isConnecting hsound hconnecting).2
  have honopen : p.onopen now =
      (p.setReadyState .open).loadDevices now false := by
    rw [Panel.onopen, Panel.requestDevicesReload, hloading]
    rfl
  refine ⟨hopen, ?_⟩
  have hopen' : (p.setReadyState .open).isOpen = true := hopen
  rw [honopen, Panel.loadDevices, if_pos hopen']
  rfl

theorem good_opened (hsound : p.toChannel.Sound)
    (hconnecting : p.isConnecting = true) (h : c.Good B t p) :
    c.Good B t (p.onopen now) := by
  have hasked : Asked (p.onopen now).transits (p.onopen now).devicesPayload := by
    obtain ⟨hopen, hchannel⟩ := toChannel_onopen hsound hconnecting
    exact asked_of_load hopen hchannel
  have hpending := (Panel.loading_of_isConnecting hsound hconnecting).1
  have hgrows : (p.setReadyState .open).Grows (p.onopen now) :=
    .advance (.requestDevicesReload rfl rfl)
  refine ⟨fun reply hreply => ?_, fun hopen' hc e he hload => ?_,
    fun _ => .of_asked hasked, h.greeting,
    fun hc => ⟨(h.early hc).1, fun _ => .of_asked hasked⟩⟩
  · obtain ⟨request, hrequest, hid⟩ := h.replies reply hreply
    exact ⟨request, hgrows.issued request hrequest, hid⟩
  · rcases hgrows.pending hopen' e he hload with he | hsent
    · have hnone : e ∈ p.pendingWsRequests := he
      rw [hpending] at hnone
      contradiction
    · exact Or.inl hsent

/-- A page that is not registered yet will show what it wants, whatever
happens before. -/
theorem settles_of_early (h : c.Good B t p) (hc : c.registered = false)
    (shown : Option (ℕ × List Device)) : Settles B t' shown c' p := by
  intro hopen
  rcases (h.early hc).2 t' hopen with howes | hshows
  · rcases howes with howes | howes | howes
    · contradiction
    · contradiction
    · exact Or.inl (Or.inr (Or.inr howes))
  · right
    rw [eventually_append]
    exact eventually_of_none hshows

theorem good_register (h : c.Good B t p) (hc : c.registered = false) :
    { c with
      registered := true
      toPanel := c.toPanel ++ [.connected] : Connection }.Good B t p := by
  obtain ⟨⟨hgreeted, hhandling, hannouncing, htoPanel⟩, -⟩ := h.early hc
  refine ⟨fun reply hreply => ?_, fun hopen hopen' e he hload => ?_, fun _ => ?_,
    h.greeting, fun hc' => by contradiction⟩
  · simp [htoPanel, hhandling] at hreply
  · refine (h.answered hopen hopen' e he hload).imp_right ?_
    rintro ⟨reply, hreply, -⟩
    simp [htoPanel, hhandling] at hreply
  · exact settles_of_early h hc _

theorem good_send {m : ServerMessage} {handling : List ServerMessage}
    (h : c.Good B t p) (hc : c.handling = m :: handling) :
    { c with
      handling := handling
      toPanel := c.toPanel ++ [m] }.Good B t p := by
  have hmessages : c.toPanel ++ c.handling = (c.toPanel ++ [m]) ++ handling := by
    rw [hc, List.append_assoc, List.singleton_append]
  have hgreeted : c.greeted = true := by
    by_contra hnot
    rw [h.greeting (by simpa using hnot)] at hc
    contradiction
  refine ⟨fun reply hreply => ?_, fun hopen hopen' e he hload => ?_,
    fun hopen' hopen => ?_, fun hnot => ?_, fun hc' => ?_⟩
  · rw [← hmessages] at hreply
    exact h.replies reply hreply
  · rw [← hmessages]
    exact h.answered hopen hopen' e he hload
  · refine (h.settles hopen' hopen).imp (fun howes => ?_) fun hshows => ?_
    · exact howes.imp_left fun hmem => List.mem_append_left _ hmem
    · rw [Connection.transits, ← List.map_append, hmessages,
        List.map_append] at hshows
      exact hshows
  · rw [hgreeted] at hnot
    contradiction
  · rw [(h.early hc').1.2.1] at hc
    contradiction

theorem good_announce (h : c.Good B t p) (hc : c.announcing ≠ 0) :
    { c with
      announcing := c.announcing - 1
      toPanel := c.toPanel ++ [.devicesChanged] : Connection }.Good B t p := by
  refine ⟨fun reply hreply => ?_, fun hopen hopen' e he hload => ?_,
    fun _ _ => Or.inl (Or.inl (by simp)), h.greeting, fun hc' => ?_⟩
  · apply h.replies reply
    simpa using hreply
  · refine (h.answered hopen hopen' e he hload).imp_right ?_
    rintro ⟨reply, hreply, hid⟩
    exact ⟨reply, by simpa using hreply, hid⟩
  · exact absurd (h.early hc').1.2.2.1 hc

theorem good_greet (h : c.Good B t p) (hregistered : c.registered = true)
    (hc : c.greeted = false) : (c.greet B t).Good B t p := by
  have hhandling := h.greeting hc
  rw [Connection.greet]
  split
  · refine ⟨fun reply hreply => ?_, fun hopen hopen' e he hload => ?_,
      fun hopen' hopen => ?_, fun hnot => by contradiction, fun hc' => ?_⟩
    · apply h.replies reply
      simpa [hhandling] using hreply
    · refine (h.answered hopen hopen' e he hload).imp_right ?_
      rintro ⟨reply, hreply, hid⟩
      rw [hhandling, List.append_nil] at hreply
      exact ⟨reply, List.mem_append_left _ hreply, hid⟩
    · refine (h.settles hopen' hopen).imp id fun hshows => ?_
      -- The question is replaced by its answer.
      rw [Connection.transits, hhandling, hc] at hshows
      simp only [Connection.transits, eventually_append] at hshows ⊢
      exact hshows
    · rw [hregistered] at hc'
      contradiction
  · refine ⟨h.replies, fun _ hopen' => by contradiction,
      fun hopen' => by contradiction, h.greeting, h.early⟩

/-- What is read depends on the devices only. -/
theorem readDevices_congr (ht : t'.devices = t.devices) :
    readDevices B t' = readDevices B t := by
  funext payload
  cases payload with
  | getDevices page pageSize sortBy sortOrder =>
      simp only [readDevices, fetchPage, ht]
  | updateRemark | updateAuthorized | deleteDevice | deleteDevices => rfl

/-- The tables change, and the page hears of it if the devices do. -/
theorem good_tables {n : ℕ} (h : c.Good B t p)
    (hheard : c.registered = true → t'.devices = t.devices ∨ 0 < n) :
    (if c.registered = true then { c with announcing := c.announcing + n }
      else c).Good B t' p := by
  split
  · next hregistered =>
      refine ⟨h.replies, h.answered, fun hopen' hopen => ?_, h.greeting,
        fun hc' => ?_⟩
      · rcases hheard hregistered with hsame | hpos
        · rw [readDevices_congr hsame]
          refine (h.settles hopen' hopen).imp_left fun howes => ?_
          exact howes.imp_right (Or.imp_left fun hpos =>
            Nat.lt_of_lt_of_le hpos (Nat.le_add_right _ _))
        · exact Or.inl (Or.inr (Or.inl (Nat.add_pos_right _ hpos)))
      · rw [hregistered] at hc'
        contradiction
  · next hregistered =>
      have hc' : c.registered = false := by simpa using hregistered
      exact ⟨h.replies, h.answered, fun _ => settles_of_early h hc' _,
        h.greeting, h.early⟩

end

/-! ## Requests and replies -/

namespace WsRequest

/-- What the server reads of a request. -/
def data (request : WsRequest) : Dict String Json :=
  .ofList (request.payload.members ++ [("request_id", .str request.requestId)])

theorem dict?_json (request : WsRequest) :
    request.json.dict? = some request.data := rfl

theorem requestId_data (request : WsRequest) :
    Server.requestId request.data = .str request.requestId := by
  obtain ⟨payload, requestId⟩ := request
  cases payload <;> rfl

/-- The value of `type`. -/
def requestType (request : WsRequest) : String :=
  match request.payload with
  | .getDevices _ _ _ _ => "get_devices"
  | .updateRemark _ _ | .updateAuthorized _ _ => "update_device"
  | .deleteDevice _ => "delete_device"
  | .deleteDevices _ => "delete_devices"

theorem type_data (request : WsRequest) :
    request.data.get "type" = some (.str request.requestType) := by
  obtain ⟨payload, requestId⟩ := request
  cases payload <;> rfl

theorem requestType_eq_iff (request : WsRequest) :
    request.requestType = "get_devices" ↔
      request.payload.isGetDevices = true := by
  obtain ⟨payload, requestId⟩ := request
  cases payload <;> simp [requestType, Payload.isGetDevices]

end WsRequest

section

variable {α : Type} [DecidableEq α] {B : Backend} {t t' : Tables}
  {c c' : Connection} {p : Panel} {request : WsRequest} {env : RequestEnv α}
  {actor requestId : String} {client : α} {reply : AdminReply}
  {waiter : Waiter} {now : ℕ}

/-- The list which answers a request is what the request reads. -/
theorem getDevices_data {payload : AdminReply}
    (hget : request.payload.isGetDevices = true)
    (h : getDevices B request.data t = some payload) :
    payload.requestId = .str request.requestId ∧
      ServerMessage.transit (.reply payload) =
        .value (readDevices B t request.payload) := by
  obtain ⟨query, requestId⟩ := request
  cases query with
  | getDevices page pageSize sortBy sortOrder =>
      have hquery : pageQuery (WsRequest.data ⟨.getDevices page pageSize sortBy
          sortOrder, requestId⟩) =
            some (listQuery page pageSize sortBy sortOrder) := rfl
      rw [getDevices, hquery] at h
      dsimp only at h
      split at h
      · contradiction
      · split at h
        · obtain rfl := Option.some.inj h
          exact ⟨WsRequest.requestId_data _, rfl⟩
        · contradiction
  | updateRemark | updateAuthorized | deleteDevice | deleteDevices =>
      contradiction

/-- Every request is answered while the connection stays open, and only a
request for devices by a list. -/
theorem replies_deviceEvents
    (hreply : reply ∈ (deviceEvents B actor env (some request.json) t).replies) :
    reply.requestId = .str request.requestId ∧
      (request.payload.isGetDevices = true ∨ reply.isChange = true ∨
        reply.IsError) := by
  by_cases hget : request.payload.isGetDevices = true
  · refine ⟨?_, Or.inl hget⟩
    have htype := (request.requestType_eq_iff).mpr hget
    rw [deviceEvents] at hreply
    simp only [request.dict?_json, request.type_data, htype, if_true] at hreply
    cases hpayload : getDevices B request.data t with
    | none => simp [hpayload] at hreply
    | some payload =>
        cases hsend : env.sendError payload with
        | some message => simp [hpayload, hsend] at hreply
        | none =>
            have heq : reply = payload := by
              simpa [hpayload, hsend] using hreply
            rw [heq]
            exact (getDevices_data hget hpayload).1
  · have htype : request.data.get "type" ≠ some (.str "get_devices") := by
      rw [request.type_data]
      intro h
      apply hget
      rw [← request.requestType_eq_iff]
      simpa using h
    obtain ⟨hid, hkind⟩ :=
      tells_deviceEvents request.dict?_json htype reply hreply
    exact ⟨hid.trans request.requestId_data, Or.inr hkind⟩

/-! ## Messages are sent and received -/

theorem kind_of_pendingFor (h : p.Tracked) (hreplies : ∃ request ∈ p.issued,
      reply.requestId = .str request.requestId ∧
        (request.payload.isGetDevices = true ∨ reply.isChange = true ∨
          reply.IsError))
    (hpending : p.pendingFor reply = some (requestId, waiter)) :
    waiter.isLoad = true ∨ reply.isChange = true ∨ reply.IsError := by
  obtain ⟨request, hrequest, hid, hkind⟩ := hreplies
  refine hkind.imp_left fun hget => ?_
  obtain ⟨hmem, hid'⟩ := Panel.mem_of_pendingFor hpending
  obtain ⟨request', hrequest', hsame, hkind'⟩ := h.kinds _ hmem
  have heq : request' = request := by
    refine List.inj_on_of_nodup_map h.nodup hrequest' hrequest ?_
    rw [hid] at hid'
    exact hsame.trans (Json.str.inj hid').symm
  rw [← hkind', heq, hget]

theorem good_deliver {m : ServerMessage} {toPanel : List ServerMessage}
    (hsound : p.toChannel.Sound) (h : c.Good B t p)
    (hc : c.toPanel = m :: toPanel) :
    { c with toPanel := toPanel }.Good B t (p.onmessage now m) := by
  have hgrows : p.Grows (p.onmessage now m) := .onmessage
  refine ⟨fun reply hreply => ?_, fun hopen' hc' e he hload => ?_, fun hc' => ?_,
    h.greeting, fun hc' => ?_⟩
  · obtain ⟨request, hrequest, hid⟩ := h.replies reply (by
      rw [hc]
      exact List.mem_cons_of_mem _ hreply)
    exact ⟨request, hgrows.issued request hrequest, hid⟩
  · rcases hgrows.pending hopen' e he hload with hbefore | hsent
    · rcases h.answered (hgrows.isOpen hopen') hc' e hbefore hload with
        ⟨request, hrequest, hid⟩ | ⟨reply, hreply, hid⟩
      · exact Or.inl ⟨request, hgrows.sent hopen' request hrequest, hid⟩
      · rw [hc] at hreply
        rcases List.mem_cons.mp hreply with rfl | hreply
        · -- Its own reply has just arrived.
          have hpending :=
            Panel.pendingFor_of_mem hsound.tracked hbefore hid
          obtain ⟨outcome, hgrows'⟩ := Panel.Grows.onreply hpending
          rcases hgrows'.pending hopen' e he hload with hstays | hsent
          · have hne := (List.mem_filter.mp hstays).2
            simp at hne
          · exact Or.inl hsent
        · exact Or.inr ⟨reply, hreply, hid⟩
    · exact Or.inl hsent
  · refine settles_onmessage (h.settles hc') hc fun reply requestId waiter hm
      hpending => ?_
    have hmem : .reply reply ∈ c.toPanel ++ c.handling := by
      rw [hc, hm]
      exact List.mem_cons_self
    exact kind_of_pendingFor hsound.tracked (h.replies reply hmem) hpending
  · rw [(h.early hc').1.2.2.2] at hc
    contradiction

theorem sent_received {channel : Channel} :
    channel.received.sent = channel.sent.tail := by
  simp only [Channel.received, Channel.sent]
  cases channel.deviceSocket <;> rfl

theorem isOpen_received {channel : Channel} :
    channel.received.isOpen = channel.isOpen := by
  simp only [Channel.received, Channel.isOpen]
  cases channel.deviceSocket <;> rfl

theorem transits_received {rest : List WsRequest}
    (hsent : p.sent = request :: rest) :
    p.transits = request.transit ::
      { p with toChannel := p.toChannel.received : Panel }.transits := by
  simp only [Panel.transits, sent_received, hsent, List.map_cons,
    List.tail_cons]

/-- A request for the devices is replaced by its answer, and any other request
by errors, unless it changes something: then an announcement is under way. -/
theorem settles_receive {rest : List WsRequest}
    {shown : Option (ℕ × List Device)} (hreport : t.Reportable)
    (h : Settles B t shown c p) (hgreeted : c.greeted = true)
    (hhandling : c.handling = []) (hsent : p.sent = request :: rest)
    (henv : env.Reaches client)
    (hopen : (c.receive B client env request t).2.isOpen = true) :
    Settles B (c.receive B client env request t).1 shown
      (c.receive B client env request t).2
      { p with toChannel := p.toChannel.received } := by
  intro hpanel
  have hpanel' : p.isOpen = true := by
    rw [← isOpen_received]
    exact hpanel
  rcases h hpanel' with howes | hshows
  · left
    refine howes.imp_right (Or.imp_left fun hpos => ?_)
    exact Nat.lt_of_lt_of_le hpos (Nat.le_add_right _ _)
  · simp only [Connection.transits, hgreeted, hhandling, if_true, List.map_nil,
      List.append_nil, transits_received hsent] at hshows
    rw [eventually_append, eventually_cons] at hshows
    by_cases hget : request.payload.isGetDevices = true
    · right
      have htype : request.data.get "type" = some (.str "get_devices") := by
        rw [request.type_data, request.requestType_eq_iff.mpr hget]
      have hout : (deviceEvents B c.actor env (some request.json) t).isOpen =
          false ∨ _ := deviceEvents_getDevices request.dict?_json htype
      rcases hout with hclosed | ⟨payload, hlist, hout⟩
      · have hopen' : (deviceEvents B c.actor env (some request.json) t).isOpen =
            true := hopen
        rw [hclosed] at hopen'
        contradiction
      · have htransit := (getDevices_data hget hlist).2
        rw [WsRequest.transit, if_pos hget] at hshows
        simp only [Connection.receive, hout, Connection.transits, hgreeted,
          if_true, List.map_singleton, htransit, List.append_nil]
        rw [eventually_append, eventually_append]
        exact hshows
    · rw [WsRequest.transit, if_neg hget] at hshows
      by_cases hchange : (deviceEvents B c.actor env (some request.json)
          t).replies.any AdminReply.isChange = true
      · left
        right
        left
        have hcount : 0 < env.broadcast.sent.count client :=
          List.count_pos_iff.mpr henv.broadcast
        simp only [Connection.receive, Handled.announced, if_pos hchange]
        exact Nat.add_pos_right _ hcount
      · right
        have hsame : (deviceEvents B c.actor env (some request.json)
            t).tables.devices = t.devices :=
          (reported_deviceEvents henv.sendError hreport).resolve_right hchange
        have hother : ∀ item ∈ ((deviceEvents B c.actor env (some request.json)
            t).replies.map .reply).map ServerMessage.transit, item = .other := by
          intro item hitem
          rw [List.map_map] at hitem
          obtain ⟨reply, hreply, rfl⟩ := List.mem_map.mp hitem
          rcases (replies_deviceEvents hreply).2 with hget' | hchange' | herror
          · exact absurd hget' hget
          · exact absurd (List.any_eq_true.mpr ⟨reply, hreply, hchange'⟩)
              hchange
          · cases reply with
            | error => rfl
            | devicesList | deviceUpdated | deviceDeleted | devicesDeleted =>
                contradiction
        simp only [Connection.receive, Connection.transits, hgreeted, if_true,
          List.append_nil]
        rw [eventually_append, eventually_append_other hother,
          readDevices_congr hsame]
        exact hshows

theorem good_receive {rest : List WsRequest} (hsound : p.toChannel.Sound)
    (hreport : t.Reportable) (h : c.Good B t p) (hopen : c.isOpen = true)
    (hgreeted : c.greeted = true) (hhandling : c.handling = [])
    (hsent : p.sent = request :: rest) (henv : env.Reaches client) :
    (c.receive B client env request t).2.Good B
      (c.receive B client env request t).1
      { p with toChannel := p.toChannel.received } := by
  have hrequest : request ∈ p.issued := by
    apply hsound.tracked.sent
    rw [hsent]
    exact List.mem_cons_self
  refine ⟨fun reply hreply => ?_, fun hpanel hopen' e he hload => ?_,
    fun hopen' => ?_, fun hnot => ?_, fun hc => ?_⟩
  · rcases List.mem_append.mp hreply with hreply | hreply
    · exact h.replies reply (List.mem_append_left _ hreply)
    · obtain ⟨reply', hreply', heq⟩ := List.mem_map.mp hreply
      obtain rfl := ServerMessage.reply.inj heq
      exact ⟨request, hrequest, replies_deviceEvents hreply'⟩
  · have hpanel' : p.isOpen = true := by
      rw [← isOpen_received]
      exact hpanel
    have hrest : Channel.sent p.toChannel.received = rest := by
      rw [sent_received, hsent]
      rfl
    rcases h.answered hpanel' hopen e he hload with
      ⟨request', hrequest', hid, hget⟩ | ⟨reply, hreply, hid⟩
    · rw [hsent] at hrequest'
      rcases List.mem_cons.mp hrequest' with rfl | hrequest'
      · -- The request is answered.
        right
        have htype : request'.data.get "type" = some (.str "get_devices") := by
          rw [request'.type_data, request'.requestType_eq_iff.mpr hget]
        have hout : (deviceEvents B c.actor env (some request'.json) t).isOpen =
            false ∨ _ := deviceEvents_getDevices request'.dict?_json htype
        rcases hout with hclosed | ⟨payload, hlist, hout⟩
        · have hopen'' : (deviceEvents B c.actor env (some request'.json)
              t).isOpen = true := hopen'
          rw [hclosed] at hopen''
          contradiction
        · refine ⟨payload, ?_, ?_⟩
          · simp [Connection.receive, hout]
          · rw [← hid]
            exact (getDevices_data hget hlist).1
      · exact Or.inl ⟨request', hrest ▸ hrequest', hid, hget⟩
    · rw [hhandling, List.append_nil] at hreply
      exact Or.inr ⟨reply, List.mem_append_left _ hreply, hid⟩
  · exact settles_receive hreport (h.settles hopen) hgreeted hhandling hsent
      henv hopen'
  · have hnot' : c.greeted = false := hnot
    rw [hgreeted] at hnot'
    contradiction
  · have hc' : c.registered = false := hc
    rw [(h.early hc').1.1] at hgreeted
    contradiction

end

/-! ## Runs -/

theorem Channel.Sound.received {channel : Channel} (h : channel.Sound) :
    channel.received.Sound := by
  refine ⟨h.tracked.of_eq rfl rfl rfl rfl fun request hrequest => ?_,
    h.consistent.reload, h.consistent.loading, fun hoffline => ?_⟩
  · rw [sent_received] at hrequest
    exact List.mem_of_mem_tail hrequest
  · refine h.consistent.offline (hoffline.imp (fun hnone => ?_) fun hready => ?_)
    · simpa [Channel.received] using hnone
    · simp only [Channel.received, Channel.isConnecting] at hready ⊢
      cases hsocket : channel.deviceSocket with
      | none => simp [hsocket] at hready
      | some socket => simpa [hsocket] using hready

namespace Console

variable {κ α : Type} [DecidableEq α] {T : Transport κ} {clientSecret : String}
  {B : Backend} {client : α} {s s' : Console} {e : ConsoleEvent κ α}
  {t : Tables} {token : Bool} {es : List (ConsoleEvent κ α)}

/-- What a step is and when it can be taken. -/
inductive Stepped (T : Transport κ) (clientSecret : String) (B : Backend)
    (client : α) (s : Console) : ConsoleEvent κ α → Console → Prop
  | panel (now : ℕ) (e : Panel.Event) :
      Stepped T clientSecret B client s (.panel now e)
        { s with
          panel := s.panel.handle now e
          connection :=
            if (s.panel.handle now e).deviceSocket.isNone then none
            else s.connection }
  | accept (actor : String) (hconnecting : s.panel.isConnecting = true)
      (hnone : s.connection = none) :
      Stepped T clientSecret B client s (.accept actor)
        { s with connection := some ⟨actor, false, false, true, [], 0, []⟩ }
  | opened (now : ℕ) (hconnecting : s.panel.isConnecting = true) :
      Stepped T clientSecret B client s (.opened now)
        { s with panel := s.panel.onopen now }
  | register {c : Connection} (hc : s.connection = some c)
      (hopen : c.isOpen = true) (hnot : c.registered = false) :
      Stepped T clientSecret B client s .register
        { s with connection := some { c with
            registered := true
            toPanel := c.toPanel ++ [.connected] } }
  | greet {c : Connection} (hc : s.connection = some c)
      (hopen : c.isOpen = true) (hregistered : c.registered = true)
      (hnot : c.greeted = false) :
      Stepped T clientSecret B client s .greet
        { s with connection := some (c.greet B s.tables) }
  | receive {c : Connection} {request : WsRequest} {rest : List WsRequest}
      (env : RequestEnv α) (hc : s.connection = some c)
      (hsent : s.panel.sent = request :: rest) (hopen : c.isOpen = true)
      (hgreeted : c.greeted = true) (hhandling : c.handling = []) :
      Stepped T clientSecret B client s (.receive env)
        { tables := (c.receive B client env request s.tables).1
          panel := { s.panel with toChannel := s.panel.toChannel.received }
          connection := some (c.receive B client env request s.tables).2 }
  | send {c : Connection} {m : ServerMessage} {handling : List ServerMessage}
      (hc : s.connection = some c) (hhandling : c.handling = m :: handling) :
      Stepped T clientSecret B client s .send
        { s with connection := some { c with
            handling := handling
            toPanel := c.toPanel ++ [m] } }
  | server (e : ServerEvent κ α) :
      Stepped T clientSecret B client s (.server e)
        { s with
          tables := e.handle T clientSecret B s.tables
          connection := s.connection.map fun c =>
            if c.registered then
              { c with announcing := c.announcing +
                  (e.announced T clientSecret B s.tables).count client }
            else c }
  | announce {c : Connection} (hc : s.connection = some c)
      (hannouncing : c.announcing ≠ 0) :
      Stepped T clientSecret B client s .announce
        { s with connection := some { c with
            announcing := c.announcing - 1
            toPanel := c.toPanel ++ [.devicesChanged] } }
  | deliver {c : Connection} {m : ServerMessage} {toPanel : List ServerMessage}
      (now : ℕ) (hc : s.connection = some c) (htoPanel : c.toPanel = m :: toPanel)
      (hopen : s.panel.isOpen = true) :
      Stepped T clientSecret B client s (.deliver now)
        { s with
          panel := s.panel.onmessage now m
          connection := some { c with toPanel := toPanel } }
  | drop : Stepped T clientSecret B client s .drop { s with connection := none }
  | closed (now code : ℕ) (hnone : s.connection = none)
      (hsocket : s.panel.deviceSocket.isSome = true) :
      Stepped T clientSecret B client s (.closed now code)
        { s with panel := s.panel.onclose now code }

theorem stepped (hstep : s.step T clientSecret B client e = some s') :
    Stepped T clientSecret B client s e s' := by
  cases e with
  | panel now e =>
      obtain rfl := Option.some.inj hstep
      exact .panel now e
  | accept actor =>
      obtain ⟨h, heq⟩ := Option.ite_none_right_eq_some.mp hstep
      obtain rfl := Option.some.inj heq
      exact .accept actor h.1 h.2
  | opened now =>
      obtain ⟨h, heq⟩ := Option.ite_none_right_eq_some.mp hstep
      obtain rfl := Option.some.inj heq
      exact .opened now h.2
  | register =>
      rw [step] at hstep
      cases hc : s.connection with
      | none => simp [hc] at hstep
      | some c =>
          simp only [hc] at hstep
          obtain ⟨h, heq⟩ := Option.ite_none_right_eq_some.mp hstep
          obtain rfl := Option.some.inj heq
          exact .register hc h.1 (by simpa using h.2)
  | greet =>
      rw [step] at hstep
      cases hc : s.connection with
      | none => simp [hc] at hstep
      | some c =>
          simp only [hc] at hstep
          obtain ⟨h, heq⟩ := Option.ite_none_right_eq_some.mp hstep
          obtain rfl := Option.some.inj heq
          exact .greet hc h.1 h.2.1 (by simpa using h.2.2)
  | receive env =>
      rw [step] at hstep
      cases hc : s.connection with
      | none => simp [hc] at hstep
      | some c =>
          cases hsent : s.panel.sent with
          | nil => simp [hc, hsent] at hstep
          | cons request rest =>
              simp only [hc, hsent] at hstep
              obtain ⟨h, heq⟩ := Option.ite_none_right_eq_some.mp hstep
              obtain rfl := Option.some.inj heq
              exact .receive env hc hsent h.1 h.2.1 h.2.2
  | send =>
      rw [step] at hstep
      cases hc : s.connection with
      | none => simp [hc] at hstep
      | some c =>
          cases hhandling : c.handling with
          | nil => simp [hc, hhandling] at hstep
          | cons m handling =>
              simp only [hc, hhandling] at hstep
              obtain rfl := Option.some.inj hstep
              exact .send hc hhandling
  | server e =>
      obtain rfl := Option.some.inj hstep
      exact .server e
  | announce =>
      rw [step] at hstep
      cases hc : s.connection with
      | none => simp [hc] at hstep
      | some c =>
          simp only [hc] at hstep
          obtain ⟨h, heq⟩ := Option.ite_none_left_eq_some.mp hstep
          obtain rfl := Option.some.inj heq
          exact .announce hc h
  | deliver now =>
      rw [step] at hstep
      cases hc : s.connection with
      | none => simp [hc] at hstep
      | some c =>
          cases htoPanel : c.toPanel with
          | nil => simp [hc, htoPanel] at hstep
          | cons m toPanel =>
              simp only [hc, htoPanel] at hstep
              obtain ⟨h, heq⟩ := Option.ite_none_right_eq_some.mp hstep
              obtain rfl := Option.some.inj heq
              exact .deliver now hc htoPanel h
  | drop =>
      obtain ⟨h, heq⟩ := Option.ite_none_right_eq_some.mp hstep
      obtain rfl := Option.some.inj heq
      exact .drop
  | closed now code =>
      obtain ⟨h, heq⟩ := Option.ite_none_right_eq_some.mp hstep
      obtain rfl := Option.some.inj heq
      exact .closed now code h.1 h.2

/-- The page is called, or the server takes a request from it. -/
theorem sound_step (hsound : s.panel.toChannel.Sound)
    (hstep : s.step T clientSecret B client e = some s') :
    s'.panel.toChannel.Sound := by
  cases stepped hstep with
  | accept | register | greet | send | server | announce | drop => exact hsound
  | receive => exact hsound.received
  | panel now e =>
      have hinput : s.panel.input now (.event e) = some (s.panel.handle now e) :=
        rfl
      exact Panel.sound_input hsound hinput
  | opened now hconnecting =>
      have hinput : s.panel.input now .opened = some (s.panel.onopen now) :=
        if_pos hconnecting
      exact Panel.sound_input hsound hinput
  | @deliver c m toPanel now hc htoPanel hopen =>
      have hinput : s.panel.input now (.message m) =
          some (s.panel.onmessage now m) := if_pos hopen
      exact Panel.sound_input hsound hinput
  | closed now code hnone hsocket =>
      have hinput : s.panel.input now (.closed code) =
          some (s.panel.onclose now code) := if_pos hsocket
      exact Panel.sound_input hsound hinput

theorem reportable_step (hreport : s.tables.Reportable)
    (hstep : s.step T clientSecret B client e = some s') :
    s'.tables.Reportable := by
  cases stepped hstep with
  | receive => exact reportable_deviceEvents hreport
  | server => exact ServerEvent.reportable_handle hreport
  | panel | accept | opened | register | greet | send | announce | deliver
  | drop | closed => exact hreport

/-- Every step keeps the invariant. -/
theorem good_step (hgood : s.Good B) (hheard : s.Heard client e)
    (hstep : s.step T clientSecret B client e = some s') : s'.Good B := by
  obtain ⟨hsound, hreport, hconnection⟩ := hgood
  refine ⟨sound_step hsound hstep, reportable_step hreport hstep,
    fun c' hc' => ?_⟩
  cases stepped hstep with
  | panel now e =>
      dsimp only at hc'
      split at hc'
      · contradiction
      · exact good_handle (hconnection c' hc')
  | accept actor hconnecting hnone =>
      obtain rfl := Option.some.inj hc'
      exact good_accept hconnecting
  | opened now hconnecting =>
      exact good_opened hsound hconnecting (hconnection c' hc')
  | register hc hopen hnot =>
      obtain rfl := Option.some.inj hc'
      exact good_register (hconnection _ hc) hnot
  | greet hc hopen hregistered hnot =>
      obtain rfl := Option.some.inj hc'
      exact good_greet (hconnection _ hc) hregistered hnot
  | receive env hc hsent hopen hgreeted hhandling =>
      obtain rfl := Option.some.inj hc'
      exact good_receive hsound hreport (hconnection _ hc) hopen hgreeted
        hhandling hsent hheard
  | send hc hhandling =>
      obtain rfl := Option.some.inj hc'
      exact good_send (hconnection _ hc) hhandling
  | server e =>
      obtain ⟨c, hc, rfl⟩ := Option.map_eq_some_iff.mp hc'
      refine good_tables (hconnection c hc) fun hregistered => ?_
      by_cases hsame : (e.handle T clientSecret B s.tables).devices =
          s.tables.devices
      · exact Or.inl hsame
      · right
        exact List.count_pos_iff.mpr (ServerEvent.mem_announced
          (hheard ⟨c, hc, hregistered⟩) hreport hsame)
  | announce hc hannouncing =>
      obtain rfl := Option.some.inj hc'
      exact good_announce (hconnection _ hc) hannouncing
  | deliver now hc htoPanel hopen =>
      obtain rfl := Option.some.inj hc'
      exact good_deliver hsound (hconnection _ hc) htoPanel
  | drop => contradiction
  | closed now code hnone hsocket =>
      rw [hnone] at hc'
      contradiction

theorem good_start (hreport : t.Reportable) : (start t token).Good B :=
  ⟨Panel.sound_onMounted, hreport, fun c hc => by contradiction⟩

/-- A run of the page and its server in which the page hears of every change. -/
abbrev HeardRun (T : Transport κ) (clientSecret : String) (B : Backend)
    (client : α) (s : Console) : List (ConsoleEvent κ α) → Console → Prop :=
  Run (fun s e s' => s.step T clientSecret B client e = some s' ∧
    s.Heard client e) s

/-- The page connects and loads the devices; then a device sends its first
heartbeat, and the page loads again. -/
def exampleEvents : List (ConsoleEvent (String × ℕ × Json) String) :=
  [.accept "admin", .opened 1, .register, .greet, .send, .deliver 2, .deliver 3,
    .receive (.quiet quietBroadcast), .send,
    .server (.heartbeat 0 ⟨100, 100, 100, 100⟩ quietBroadcast (.encrypted
      ("secret", 0, Json.ofDict (.ofList [("device_id", .str "D")])))),
    .deliver 4, .announce, .deliver 5, .receive (.quiet quietBroadcast), .send,
    .deliver 6]

def exampleConsole : Option Console :=
  exampleEvents.foldlM
    (fun s e => step .symbolic "secret" .plain "a" s e) (start emptyTables true)

/-- The page stays where it is, so that it is told. -/
theorem mem_sent_quietBroadcast : "a" ∈ quietBroadcast.sent := by
  refine BroadcastEnv.mem_sent_of_keeps ⟨1, rfl, fun r hr => ?_⟩
  obtain rfl := List.mem_singleton.mp hr
  exact ⟨rfl, rfl⟩

theorem heard_exampleEvents : ∀ e ∈ exampleEvents, ∀ s : Console,
    s.Heard "a" e := by
  have henv : (RequestEnv.quiet quietBroadcast).Reaches "a" :=
    ⟨fun _ _ => rfl, mem_sent_quietBroadcast⟩
  simp only [exampleEvents, List.forall_mem_cons]
  exact ⟨fun _ => trivial, fun _ => trivial, fun _ => trivial,
    fun _ => trivial, fun _ => trivial, fun _ => trivial, fun _ => trivial,
    fun _ => henv, fun _ => trivial, fun _ _ => mem_sent_quietBroadcast,
    fun _ => trivial, fun _ => trivial, fun _ => trivial, fun _ => henv,
    fun _ => trivial, fun _ => trivial, by simp⟩

end Console

end PyAuth.Web
