import PyAuth.Server.DeviceEvents

/-!
# The page of the devices

The script of `AdminPanel.vue`.  The page asks for devices and changes over a
WebSocket and keeps a promise for every request, which is settled by a reply,
after eight seconds, or when the connection ends.  What waits for a promise
runs directly after the event that settles it.  A reload that is wanted while
another one is under way is made up for afterwards.
-/

namespace PyAuth.Web

open Support Server

/-! ## Requests -/

/-- The payload of a request. -/
inductive Payload
  | getDevices (page pageSize : ℤ) (sortBy sortOrder : String)
  | updateRemark (deviceId remark : String)
  | updateAuthorized (deviceId : String) (isAuthorized : Bool)
  | deleteDevice (deviceId : String)
  | deleteDevices (deviceIds : List String)
deriving DecidableEq

def Payload.members : Payload → List (String × Json)
  | .getDevices page pageSize sortBy sortOrder =>
      [("type", .str "get_devices"), ("page", .int page),
        ("page_size", .int pageSize), ("sort_by", .str sortBy),
        ("sort_order", .str sortOrder)]
  | .updateRemark deviceId remark =>
      [("type", .str "update_device"), ("device_id", .str deviceId),
        ("data", .obj [("remark", .str remark)])]
  | .updateAuthorized deviceId isAuthorized =>
      [("type", .str "update_device"), ("device_id", .str deviceId),
        ("data", .obj [("is_authorized", .bool isAuthorized)])]
  | .deleteDevice deviceId =>
      [("type", .str "delete_device"), ("device_id", .str deviceId)]
  | .deleteDevices deviceIds =>
      [("type", .str "delete_devices"),
        ("device_ids", .arr (deviceIds.map .str))]

structure WsRequest where
  payload : Payload
  requestId : String
deriving DecidableEq

/-- `{ ...payload, request_id: requestId }`. -/
def WsRequest.json (request : WsRequest) : Json :=
  .obj (request.payload.members ++ [("request_id", .str request.requestId)])

/-- The id of the request with the number `seq`. -/
def newRequestId (now seq : ℕ) : String :=
  "r_" ++ toString now ++ "_" ++ toString seq

/-! ## Messages -/

/-- What the server sends over the WebSocket. -/
inductive ServerMessage
  | connected
  | initialList (total : ℕ) (devices : List Device)
  | reply (reply : AdminReply)
  | devicesChanged
deriving DecidableEq

/-! ## The state of the page -/

/-- A row of the table.  `ref` is the identity of the object. -/
structure Row where
  ref : ℕ
  device : Device
  originalRemark : String
  remarkValue : String
  updating : Bool
deriving DecidableEq

namespace Row

def ofDevice (ref : ℕ) (device : Device) : Row :=
  ⟨ref, device, device.remark.getD "", device.remark.getD "", false⟩

/-- `Object.assign(device, …)` with an updated device. -/
def assign (device : Device) (row : Row) : Row :=
  { row with
    device := device
    originalRemark := device.remark.getD ""
    remarkValue := device.remark.getD "" }

def resetRemark (row : Row) : Row :=
  { row with remarkValue := row.originalRemark }

def setUpdating (updating : Bool) (row : Row) : Row :=
  { row with updating := updating }

end Row

/-- What waits for the promise of a request: the function that sent it, with
the row it is about.  `bulk` when `deleteSelectedDevices` waits for the
load. -/
inductive Waiter
  | loadDevices (bulk : Bool)
  | saveRemark (ref : ℕ)
  | toggleAuth (ref : ℕ)
  | deleteDevice (ref : ℕ) (deviceId : String)
  | deleteSelectedDevices
deriving DecidableEq

/-- How a promise is settled. -/
inductive Outcome
  | resolved (reply : AdminReply)
  | rejected (message : String)
deriving DecidableEq

inductive ReadyState
  | connecting
  | open
  | closing
deriving DecidableEq

/-- A WebSocket, and what was sent over it and not yet received. -/
structure DeviceSocket where
  readyState : ReadyState
  sent : List WsRequest
deriving DecidableEq

/-- The variables about the connection.  `issued` are the requests sent so far
and `settled` the settled promises. -/
structure Channel where
  deviceSocket : Option DeviceSocket
  loading : Bool
  pendingDevicesReload : Bool
  wsRequestSeq : ℕ
  pendingWsRequests : List (String × Waiter)
  issued : List WsRequest
  settled : List (String × Outcome)
deriving DecidableEq

/-- The variables of the page.  `reconnectTimers` is the number of timers that
run, of which the variable `reconnectTimer` knows the last one at most. -/
structure Panel extends Channel where
  mounted : Bool
  token : Bool
  devices : List Row
  nextRef : ℕ
  total : ℕ
  currentPage : ℤ
  pageSize : ℤ
  sortBy : String
  sortOrder : String
  bulkDeleting : Bool
  selectedIds : List String
  confirming : Option (List String)
  reconnectTimer : Bool
  reconnectTimers : ℕ
  reconnectEnabled : Bool
  lastPageHiddenAt : ℕ
deriving DecidableEq

/-! ## Requests and their promises -/

namespace Channel

/-- `deviceSocket.readyState === WebSocket.OPEN`. -/
def isOpen (c : Channel) : Bool :=
  c.deviceSocket.any fun socket => decide (socket.readyState = .open)

/-- The connection is being made. -/
def isConnecting (c : Channel) : Bool :=
  c.deviceSocket.any fun socket => decide (socket.readyState = .connecting)

/-- The requests on their way to the server. -/
def sent (c : Channel) : List WsRequest :=
  c.deviceSocket.elim [] DeviceSocket.sent

/-- What `sendWsRequest` does on an open connection. -/
def request (now : ℕ) (payload : Payload) (waiter : Waiter) (c : Channel) :
    Channel :=
  let requestId := newRequestId now (c.wsRequestSeq + 1)
  { c with
    wsRequestSeq := c.wsRequestSeq + 1
    pendingWsRequests := c.pendingWsRequests ++ [(requestId, waiter)]
    deviceSocket := c.deviceSocket.map fun socket =>
      { socket with sent := socket.sent ++ [⟨payload, requestId⟩] }
    issued := c.issued ++ [⟨payload, requestId⟩] }

/-- What `loadDevices` does on an open connection. -/
def load (now : ℕ) (payload : Payload) (bulk : Bool) (c : Channel) : Channel :=
  { c with loading := true }.request now payload (.loadDevices bulk)

def setReadyState (readyState : ReadyState) (c : Channel) : Channel :=
  { c with deviceSocket := c.deviceSocket.map fun socket =>
      { socket with readyState := readyState } }

/-- A promise is taken out of the map and settled. -/
def settle (requestId : String) (outcome : Outcome) (c : Channel) : Channel :=
  { c with
    pendingWsRequests := c.pendingWsRequests.filter fun e => e.1 ≠ requestId
    settled := c.settled ++ [(requestId, outcome)] }

/-- `rejectPendingWsRequests`, up to what waits for the promises. -/
def rejectPendingWsRequests (message : String) (c : Channel) : Channel :=
  { c with
    pendingWsRequests := []
    settled := c.settled ++
      c.pendingWsRequests.map fun e => (e.1, .rejected message) }

/-- The promise which the reply is for. -/
def pendingFor (reply : AdminReply) (c : Channel) : Option (String × Waiter) :=
  match reply.requestId with
  | .str requestId =>
      if requestId = "" then none
      else (c.pendingWsRequests.lookup requestId).map fun waiter =>
        (requestId, waiter)
  | _ => none

end Channel

namespace Panel

/-! ## Sending -/

def connectWebSocket (p : Panel) : Panel :=
  if p.deviceSocket.isSome then p
  else if p.token then { p with deviceSocket := some ⟨.connecting, []⟩ }
  else p

/-- The end of `deleteSelectedDevices`, if that is what goes on. -/
def endBulk (bulk : Bool) (p : Panel) : Panel :=
  if bulk then { p with bulkDeleting := false } else p

/-- The request for the page of devices that is wanted. -/
def devicesPayload (p : Panel) : Payload :=
  .getDevices p.currentPage p.pageSize p.sortBy p.sortOrder

/-- `loadDevices` up to the request. -/
def loadDevices (now : ℕ) (bulk : Bool) (p : Panel) : Panel :=
  if p.isOpen then
    { p with toChannel := p.toChannel.load now p.devicesPayload bulk }
  else p.connectWebSocket.endBulk bulk

def requestDevicesReload (now : ℕ) (p : Panel) : Panel :=
  if p.loading then { p with pendingDevicesReload := true }
  else p.loadDevices now false

/-! ## What waits for the promises -/

def applyDevicesPayload (total : ℕ) (devices : List Device) (p : Panel) :
    Panel :=
  { p with
    total := total
    devices := devices.zipIdx.map fun e => Row.ofDevice (p.nextRef + e.2) e.1
    nextRef := p.nextRef + devices.length }

/-- Change the row which is this object, if it is still in the table. -/
def onRow (ref : ℕ) (f : Row → Row) (p : Panel) : Panel :=
  { p with devices := p.devices.map fun row =>
      if row.ref = ref then f row else row }

/-- The `finally` block of `loadDevices`. -/
def afterLoad (now : ℕ) (bulk : Bool) (p : Panel) : Panel :=
  let p := { p with loading := false, selectedIds := [] }
  if p.pendingDevicesReload then
    ({ p with pendingDevicesReload := false }.loadDevices now false).endBulk
      bulk
  else p.endBulk bulk

/-- `applyDevicesPayload(data)` on any reply. -/
def applyReply (reply : AdminReply) (p : Panel) : Panel :=
  match reply with
  | .devicesList _ total devices => p.applyDevicesPayload total devices
  | .deviceUpdated _ _ | .deviceDeleted _ _ | .devicesDeleted _ _ _
  | .error _ _ => p.applyDevicesPayload 0 []

/-- What goes on when the promise is resolved. -/
def resolved (now : ℕ) (reply : AdminReply) (p : Panel) : Waiter → Panel
  | .loadDevices bulk => (p.applyReply reply).afterLoad now bulk
  | .saveRemark ref =>
      match reply with
      | .deviceUpdated _ device => p.onRow ref (Row.assign device)
      -- `updatedDevice` is undefined.
      | _ => p.onRow ref Row.resetRemark
  | .toggleAuth ref =>
      match reply with
      | .deviceUpdated _ device =>
          p.onRow ref (Row.setUpdating false ∘ Row.assign device)
      | _ => p.onRow ref (Row.setUpdating false)
  | .deleteDevice ref deviceId =>
      { p with
        devices := p.devices.filter fun row => row.device.deviceId ≠ deviceId
        selectedIds := p.selectedIds.filter fun id => id ≠ deviceId }.onRow ref
          (Row.setUpdating false)
  | .deleteSelectedDevices => { p with selectedIds := [] }.loadDevices now true

/-- What goes on when the promise is rejected. -/
def rejected (now : ℕ) (p : Panel) : Waiter → Panel
  | .loadDevices bulk => p.afterLoad now bulk
  | .saveRemark ref => p.onRow ref Row.resetRemark
  | .toggleAuth ref | .deleteDevice ref _ => p.onRow ref (Row.setUpdating false)
  | .deleteSelectedDevices => { p with bulkDeleting := false }

def settle (requestId : String) (outcome : Outcome) (p : Panel) : Panel :=
  { p with toChannel := p.toChannel.settle requestId outcome }

def rejectPendingWsRequests (message : String) (p : Panel) : Panel :=
  { p with toChannel := p.toChannel.rejectPendingWsRequests message }

/-- What waited for the promises goes on, one after another. -/
def allRejected (now : ℕ) (waiters : List (String × Waiter)) (p : Panel) :
    Panel :=
  waiters.foldl (fun p e => p.rejected now e.2) p

/-! ## The WebSocket -/

/-- `onmessage` for a reply. -/
def onreply (now : ℕ) (reply : AdminReply) (p : Panel) : Panel :=
  match p.pendingFor reply with
  | some (requestId, waiter) =>
      match reply with
      | .error _ message =>
          (p.settle requestId (.rejected
            (if message = "" then "实时请求失败" else message))).rejected now
              waiter
      | .devicesList _ total devices =>
          ((p.settle requestId (.resolved reply)).applyDevicesPayload total
            devices).resolved now reply waiter
      | .deviceUpdated _ _ | .deviceDeleted _ _ | .devicesDeleted _ _ _ =>
          (p.settle requestId (.resolved reply)).resolved now reply waiter
  | none =>
      match reply with
      | .devicesList _ total devices => p.applyDevicesPayload total devices
      | .deviceUpdated _ _ | .deviceDeleted _ _ | .devicesDeleted _ _ _
      | .error _ _ => p

/-- `onmessage`. -/
def onmessage (now : ℕ) (p : Panel) : ServerMessage → Panel
  | .connected => p
  | .initialList total devices => p.applyDevicesPayload total devices
  | .reply reply => p.onreply now reply
  | .devicesChanged => p.requestDevicesReload now

def setReadyState (readyState : ReadyState) (p : Panel) : Panel :=
  { p with toChannel := p.toChannel.setReadyState readyState }

/-- `onopen`. -/
def onopen (now : ℕ) (p : Panel) : Panel :=
  (p.setReadyState .open).requestDevicesReload now

/-- Start the timer after which the page connects again. -/
def scheduleReconnect (p : Panel) : Panel :=
  if p.reconnectEnabled then
    { p with
      reconnectTimer := true
      reconnectTimers := p.reconnectTimers + 1 }
  else p

/-- `onclose`. -/
def onclose (now code : ℕ) (p : Panel) : Panel :=
  let waiters := p.pendingWsRequests
  let p := { p with deviceSocket := none }
  if code = 4401 then
    { p.rejectPendingWsRequests "登录已过期，请重新登录" with
      token := false }.allRejected now waiters
  else
    (p.rejectPendingWsRequests
      "实时连接已断开").scheduleReconnect.allRejected now waiters

/-! ## Other events -/

/-- What the user does on the page. -/
inductive UserEvent
  | setCurrentPage (page : ℤ)
  | setPageSize (pageSize : ℤ)
  | sortChange (column : Option (String × String))
  | editRemark (ref : ℕ) (remark : String)
  | saveRemark (ref : ℕ)
  | toggleAuth (ref : ℕ) (authorize : Bool)
  | deleteDevice (ref : ℕ)
  | select (ids : List String)
  | deleteSelectedDevices
  | hidden
  | visible
  | unmount
deriving DecidableEq

/-- What happens on the page besides its WebSocket.  The question of
`deleteSelectedDevices`, the timers and the token stay when the page is
closed. -/
inductive Event
  | user (e : UserEvent)
  | confirm (ok : Bool)
  | timeout (requestId : String)
  | reconnect
  | setToken (token : Bool)
  | closing
deriving DecidableEq

def row? (ref : ℕ) (p : Panel) : Option Row :=
  p.devices.find? fun row => row.ref = ref

/-- `sendWsRequest`, which rejects at once when the connection is not open. -/
def sendOrReject (now : ℕ) (payload : Payload) (waiter : Waiter) (p : Panel) :
    Panel :=
  if p.isOpen then
    { p with toChannel := p.toChannel.request now payload waiter }
  else p.rejected now waiter

/-- `saveRemark`. -/
def saveRemark (now ref : ℕ) (p : Panel) : Panel :=
  match p.row? ref with
  | none => p
  | some row =>
      if row.remarkValue = row.originalRemark then p
      else p.sendOrReject now
        (.updateRemark row.device.deviceId row.remarkValue) (.saveRemark ref)

/-- `toggleAuth`. -/
def toggleAuth (now ref : ℕ) (authorize : Bool) (p : Panel) : Panel :=
  match p.row? ref with
  | none => p
  | some row =>
      if row.updating then p
      else (p.onRow ref (Row.setUpdating true)).sendOrReject now
        (.updateAuthorized row.device.deviceId authorize) (.toggleAuth ref)

/-- `deleteDevice`. -/
def deleteDevice (now ref : ℕ) (p : Panel) : Panel :=
  match p.row? ref with
  | none => p
  | some row =>
      (p.onRow ref (Row.setUpdating true)).sendOrReject now
        (.deleteDevice row.device.deviceId)
        (.deleteDevice ref row.device.deviceId)

/-- `handleSortChange`. -/
def handleSortChange (now : ℕ) (column : Option (String × String)) (p : Panel) :
    Panel :=
  match column with
  | none =>
      { p with sortBy := "updated_at", sortOrder := "desc" }.loadDevices now
        false
  | some (prop, order) =>
      { p with
        sortBy := prop
        sortOrder := if order = "ascending" then "asc" else "desc" }.loadDevices
          now false

/-- What `deleteSelectedDevices` does when the question is answered. -/
def confirm (now : ℕ) (ok : Bool) (p : Panel) : Panel :=
  match p.confirming with
  | none => p
  | some ids =>
      let p := { p with confirming := none }
      if ok then
        { p with bulkDeleting := true }.sendOrReject now (.deleteDevices ids)
          .deleteSelectedDevices
      else p

/-- The timer of a request. -/
def timeout (now : ℕ) (requestId : String) (p : Panel) : Panel :=
  match p.pendingWsRequests.lookup requestId with
  | none => p
  | some waiter =>
      (p.settle requestId (.rejected "实时请求超时")).rejected now waiter

/-- `onVisibilityChange`, when the page is shown again. -/
def onVisible (now : ℕ) (p : Panel) : Panel :=
  let awayMs := if p.lastPageHiddenAt = 0 then 0 else now - p.lastPageHiddenAt
  let p := { p with lastPageHiddenAt := 0 }
  if p.isOpen then
    if 3000 ≤ awayMs then p.requestDevicesReload now else p
  else { p with reconnectEnabled := true }.connectWebSocket

/-- The reconnect timer fires. -/
def reconnect (p : Panel) : Panel :=
  if p.reconnectTimers = 0 then p
  else
    { p with
      reconnectTimer := false
      reconnectTimers := p.reconnectTimers - 1 }.connectWebSocket

/-- `cleanupWebSocket`; what a closed connection still does is left out. -/
def cleanupWebSocket (p : Panel) : Panel :=
  { p with
    deviceSocket := none
    reconnectTimer := false
    reconnectTimers :=
      if p.reconnectTimer then p.reconnectTimers - 1 else p.reconnectTimers }

/-- `onUnmounted`. -/
def unmount (now : ℕ) (p : Panel) : Panel :=
  ({ p with
    mounted := false
    reconnectEnabled := false
    pendingDevicesReload := false }.rejectPendingWsRequests
      "页面已关闭").cleanupWebSocket.allRejected now p.pendingWsRequests

/-- What the user does on a page that is shown. -/
def handleUser (now : ℕ) (p : Panel) : UserEvent → Panel
  | .setCurrentPage page => { p with currentPage := page }.loadDevices now false
  | .setPageSize pageSize =>
      { p with pageSize := pageSize }.loadDevices now false
  | .sortChange column => p.handleSortChange now column
  | .editRemark ref remark =>
      p.onRow ref fun row => { row with remarkValue := remark }
  | .saveRemark ref => p.saveRemark now ref
  | .toggleAuth ref authorize => p.toggleAuth now ref authorize
  | .deleteDevice ref => p.deleteDevice now ref
  | .select ids => { p with selectedIds := ids }
  | .deleteSelectedDevices =>
      if p.selectedIds = [] then p
      else { p with confirming := some p.selectedIds }
  | .hidden => { p with lastPageHiddenAt := now }
  | .visible => p.onVisible now
  | .unmount => p.unmount now

/-- An event other than those of the WebSocket. -/
def handle (now : ℕ) (p : Panel) : Event → Panel
  | .user e => if p.mounted then p.handleUser now e else p
  | .confirm ok => p.confirm now ok
  | .timeout requestId => p.timeout now requestId
  | .reconnect => p.reconnect
  | .setToken token => { p with token := token }
  -- As after `onerror`.
  | .closing => p.setReadyState .closing

/-- The page before it is mounted. -/
def initial (token : Bool) : Panel :=
  { deviceSocket := none
    loading := false
    pendingDevicesReload := false
    wsRequestSeq := 0
    pendingWsRequests := []
    issued := []
    settled := []
    mounted := true
    token := token
    devices := []
    nextRef := 0
    total := 0
    currentPage := 1
    pageSize := 50
    sortBy := "updated_at"
    sortOrder := "desc"
    bulkDeleting := false
    selectedIds := []
    confirming := none
    reconnectTimer := false
    reconnectTimers := 0
    reconnectEnabled := true
    lastPageHiddenAt := 0 }

/-- `onMounted`. -/
def onMounted (token : Bool) : Panel := (initial token).connectWebSocket

/-! ## Inputs -/

/-- What the page can be called for. -/
inductive Input
  | event (e : Event)
  | opened
  | message (m : ServerMessage)
  | closed (code : ℕ)
deriving DecidableEq

/-- A call of the page, `none` when the browser does not make it. -/
def input (now : ℕ) (p : Panel) : Input → Option Panel
  | .event e => some (p.handle now e)
  | .opened =>
      if p.isConnecting then some (p.onopen now) else none
  | .message m => if p.isOpen then some (p.onmessage now m) else none
  | .closed code =>
      if p.deviceSocket.isSome then some (p.onclose now code) else none

end Panel

end PyAuth.Web
