import PyAuth.Server.Tables
import PyAuth.Server.WsManager

/-!
# The admin WebSocket

The loop body of `device_events` on one received message.  The requests that
change devices catch their exceptions and send an error; what is sent and
announced after the commit stands inside the same `try`.  An exception of
`get_devices` leaves the loop and closes the connection.
-/

namespace PyAuth.Server

open Support

/-! ## What the code relies on -/

inductive SortField
  | createdAt
  | updatedAt
  | lastCheck
  | deviceId
  | softwareName
  | isAuthorized
deriving DecidableEq

/-- What Python, the database and the response model decide beyond the code:
`str(value)`; the content of a `Text` column after the commit of a value, or
the message of the exception; the order of query results; and the message of
a `ValidationError`. -/
structure Backend where
  str : Json → String
  text : Json → Except String (Option String)
  orderBy : SortField → Bool → List Device → List Device
  scan : List Device → List Device
  validationError : Device → String
  str_str : ∀ s, str (.str s) = s
  text_null : text .null = .ok none
  text_str : ∀ s, text (.str s) = .ok (some s)
  orderBy_perm : ∀ field asc devices, (orderBy field asc devices).Perm devices
  scan_perm : ∀ devices, (scan devices).Perm devices

/-! ## Messages -/

/-- The messages which are sent to the client of a request. -/
inductive AdminReply
  | devicesList (requestId : Json) (total : ℕ) (devices : List Device)
  | deviceUpdated (requestId : Json) (device : Device)
  | deviceDeleted (requestId : Json) (deviceId : String)
  | devicesDeleted (requestId : Json) (deviceIds : List String)
      (deletedCount : ℕ)
  | error (requestId : Json) (message : String)
deriving DecidableEq

/-- What happens to a request besides: the clock readings, the message of the
exception when a statement or the commit or the send of a payload raises,
whether an error message can be sent, and what the other tasks do during the
announcement. -/
structure RequestEnv (α : Type) [DecidableEq α] where
  now : ℚ
  loggedAt : ℕ → ℚ
  commitError : Option String
  sendError : AdminReply → Option String
  errorSent : AdminReply → Bool
  broadcast : BroadcastEnv α

def AdminReply.requestId : AdminReply → Json
  | .devicesList requestId _ _ | .deviceUpdated requestId _
  | .deviceDeleted requestId _ | .devicesDeleted requestId _ _
  | .error requestId _ => requestId

def AdminReply.IsError : AdminReply → Prop
  | .error _ _ => True
  | _ => False

/-- `data.get(k, ifMissing)`. -/
def getOr (data : Dict String Json) (k : String) (ifMissing : Json) : Json :=
  (data.get k).getD ifMissing

/-- `data.get("request_id")`. -/
def requestId (data : Dict String Json) : Json := getOr data "request_id" .null

/-- `DeviceResponse.model_validate` accepts the row. -/
def Device.Reportable (device : Device) : Prop :=
  device.deviceInfo = .null ∨ device.deviceInfo.isDict = true

instance (device : Device) : Decidable device.Reportable :=
  inferInstanceAs (Decidable (_ ∨ _))

/-! ## `get_devices` -/

def sortField (sortBy : Json) : SortField :=
  if sortBy = .str "created_at" then .createdAt
  else if sortBy = .str "updated_at" then .updatedAt
  else if sortBy = .str "last_check" then .lastCheck
  else if sortBy = .str "device_id" then .deviceId
  else if sortBy = .str "software_name" then .softwareName
  else if sortBy = .str "is_authorized" then .isAuthorized
  else .updatedAt

/-- The largest integer SQLite can be given. -/
def maxSqliteInt : ℤ := 2 ^ 63 - 1

/-- Which rows a request asks for. -/
structure PageQuery where
  field : SortField
  ascending : Bool
  offset : ℤ
  limit : ℤ
deriving DecidableEq

/-- The query of a `get_devices` request, `none` when a conversion raises. -/
def pageQuery (data : Dict String Json) : Option PageQuery :=
  match Python.int (getOr data "page" (.int 1)),
      Python.int (getOr data "page_size" (.int 50)),
      getOr data "sort_order" (.str "desc") with
  | .ok page, .ok pageSize, .str sortOrder =>
      let page := max 1 page
      let pageSize := max 1 (min 200 pageSize)
      some
        { field := sortField (getOr data "sort_by" (.str "updated_at"))
          ascending := decide (sortOrder.toLower = "asc")
          offset := (page - 1) * pageSize
          limit := pageSize }
  | _, _, _ => none

variable {α : Type} [DecidableEq α] (B : Backend) (actor : String)

/-- The rows of a page. -/
def fetchPage (query : PageQuery) (t : Tables) : List Device :=
  ((B.orderBy query.field query.ascending t.devices).drop
    query.offset.toNat).take query.limit.toNat

/-- The payload of `get_devices`, `none` when an exception is raised before it is
sent: by a conversion, by an offset beyond SQLite's integers, or by a row which
cannot be reported. -/
def getDevices (data : Dict String Json) (t : Tables) : Option AdminReply :=
  match pageQuery data with
  | none => none
  | some query =>
      if maxSqliteInt < query.offset then none
      else if ∀ d ∈ fetchPage B query t, d.Reportable then
        some (.devicesList (requestId data) t.devices.length
          (fetchPage B query t))
      else none

/-! ## The requests that change devices -/

/-- What a `try` block leaves: the tables, the messages sent, and the text of
the exception that ended it. -/
structure Attempt where
  tables : Tables
  replies : List AdminReply
  raised : Option String
deriving DecidableEq

/-- Send the payload and announce the change. -/
def announce (env : RequestEnv α) (t : Tables) (payload : AdminReply) :
    Attempt :=
  match env.sendError payload with
  | some message => ⟨t, [], some message⟩
  | none =>
      match env.broadcast.status with
      | .raised => ⟨t, [payload], some "Set changed size during iteration"⟩
      | .finished | .sending _ => ⟨t, [payload], none⟩

/-- The device id of a request about one device. -/
def targetId (data : Dict String Json) : String :=
  Python.strip (B.str (getOr data "device_id" (.str "")))

/-- The fields which an `update_device` request may change. -/
def allowedFields (update : Dict String Json) : Dict String Json :=
  .ofList (["remark", "is_authorized"].filterMap fun k =>
    (update.get k).map fun v => (k, v))

/-- The validated part of an `update_device` request. -/
def updateRequest (data : Dict String Json) :
    Except String (String × Dict String Json) :=
  if targetId B data = "" then .error "缺少 device_id"
  else
    let rawUpdate :=
      if Python.truthy (getOr data "data" .null) then
        (getOr data "data" .null).dict?
      else some .empty
    match rawUpdate with
    | none => .error "data 格式错误"
    | some rawUpdate =>
        let allowed := allowedFields rawUpdate
        if allowed.isEmpty then .error "缺少可更新字段"
        else .ok (targetId B data, allowed)

/-- The stored remark, when the request names one. -/
def storedRemark (allowed : Dict String Json) :
    Except String (Option (Option String)) :=
  match allowed.get "remark" with
  | none => .ok none
  | some remark => (B.text remark).map some

/-- The row after `update_device`. -/
def Device.revise (remark : Option (Option String))
    (isAuthorized : Option Bool) (now : ℚ) (device : Device) : Device :=
  { device with
    remark := remark.getD device.remark
    isAuthorized := isAuthorized.getD device.isAuthorized
    updatedAt := now }

theorem Device.deviceId_revise (remark : Option (Option String))
    (isAuthorized : Option Bool) (now : ℚ) (device : Device) :
    (device.revise remark isAuthorized now).deviceId = device.deviceId := rfl

theorem Device.reportable_revise {remark : Option (Option String)}
    {isAuthorized : Option Bool} {now : ℚ} {device : Device} :
    (device.revise remark isAuthorized now).Reportable ↔ device.Reportable :=
  Iff.rfl

/-- The tables after an update of the row was committed. -/
def Tables.reviseDevice (t : Tables) (env : RequestEnv α)
    (allowed : Dict String Json) (remark : Option (Option String))
    (device : Device) : Tables :=
  { t.update device.deviceId (Device.revise remark
        ((allowed.get "is_authorized").map Python.truthy) env.now)
      (Device.deviceId_revise _ _ _) with
    operationLogs := t.operationLogs ++
      t.newLogs actor "update_device" (.ofDict allowed) env.loggedAt
        [device.deviceId] }

/-- The `try` block of `update_device`. -/
def updateDevice (env : RequestEnv α) (data : Dict String Json) (t : Tables) :
    Attempt :=
  match updateRequest B data with
  | .error message => ⟨t, [], some message⟩
  | .ok (deviceId, allowed) =>
      match t.device? deviceId with
      | none => ⟨t, [], some "设备不存在"⟩
      | some device =>
          match env.commitError, storedRemark B allowed with
          | some message, _ | none, .error message => ⟨t, [], some message⟩
          | none, .ok remark =>
              let t' := t.reviseDevice actor env allowed remark device
              let device := device.revise remark
                ((allowed.get "is_authorized").map Python.truthy) env.now
              if device.Reportable then
                announce env t' (.deviceUpdated (requestId data) device)
              else ⟨t', [], some (B.validationError device)⟩

/-- The tables after the rows with these ids were deleted. -/
def Tables.deleteDevices (t : Tables) (loggedAt : ℕ → ℚ)
    (ids : List String) : Tables :=
  { t.delete ids with
    operationLogs := t.operationLogs ++
      t.newLogs actor "delete_device" .null loggedAt ids }

/-- The `try` block of `delete_device`. -/
def deleteDevice (env : RequestEnv α) (data : Dict String Json) (t : Tables) :
    Attempt :=
  let deviceId := targetId B data
  if deviceId = "" then ⟨t, [], some "缺少 device_id"⟩
  else if t.named [deviceId] = [] then ⟨t, [], some "设备不存在"⟩
  else
    match env.commitError with
    | some message => ⟨t, [], some message⟩
    | none =>
        announce env (t.deleteDevices actor env.loggedAt [deviceId])
          (.deviceDeleted (requestId data) deviceId)

/-- The trimmed, distinct, non-blank ids of a list. -/
def requestedIds (raw : List Json) : List String :=
  raw.foldl (fun ids x =>
    let s := Python.strip (B.str x)
    if s ≠ "" ∧ s ∉ ids then ids ++ [s] else ids) []

/-- The validated part of a `delete_devices` request. -/
def deleteRequest (data : Dict String Json) : Except String (List String) :=
  match getOr data "device_ids" .null with
  | .arr raw =>
      let ids := requestedIds B raw
      if ids = [] then .error "device_ids 须为非空数组"
      else if 200 < ids.length then .error "一次最多删除 200 台设备"
      else .ok ids
  | _ => .error "device_ids 须为非空数组"

/-- The ids of `delete_devices` which exist, as the query returns them. -/
def existingIds (t : Tables) (ids : List String) : List String :=
  (B.scan (t.named ids)).map (·.deviceId)

/-- The `try` block of `delete_devices`. -/
def deleteDevices (env : RequestEnv α) (data : Dict String Json) (t : Tables) :
    Attempt :=
  match deleteRequest B data with
  | .error message => ⟨t, [], some message⟩
  | .ok deviceIds =>
      let ids := existingIds B t deviceIds
      if ids = [] then ⟨t, [], some "没有可删除的设备"⟩
      else
        match env.commitError with
        | some message => ⟨t, [], some message⟩
        | none =>
            announce env (t.deleteDevices actor env.loggedAt ids)
              (.devicesDeleted (requestId data) ids ids.length)

/-! ## The loop body -/

/-- What a message leaves: the tables, the messages sent to its client, and
whether the loop goes on. -/
structure Handled where
  tables : Tables
  replies : List AdminReply
  isOpen : Bool
deriving DecidableEq

/-- `except Exception as e`: send `str(e) or fallback`. -/
def Attempt.guarded (env : RequestEnv α) (data : Dict String Json)
    (fallback : String) (attempt : Attempt) : Handled :=
  match attempt.raised with
  | none => ⟨attempt.tables, attempt.replies, true⟩
  | some message =>
      let reply := AdminReply.error (requestId data)
        (if message = "" then fallback else message)
      if env.errorSent reply then
        ⟨attempt.tables, attempt.replies ++ [reply], true⟩
      else ⟨attempt.tables, attempt.replies, false⟩

/-- The body of the loop on one message; `none` is a text that is not JSON. -/
def deviceEvents (env : RequestEnv α) (message : Option Json) (t : Tables) :
    Handled :=
  match message with
  | none => ⟨t, [], true⟩
  | some message =>
      match message.dict? with
      -- `data.get` raises.
      | none => ⟨t, [], false⟩
      | some data =>
          if data.get "type" = some (.str "get_devices") then
            match getDevices B data t with
            | some payload =>
                match env.sendError payload with
                | none => ⟨t, [payload], true⟩
                | some _ => ⟨t, [], false⟩
            | none => ⟨t, [], false⟩
          else if data.get "type" = some (.str "update_device") then
            (updateDevice B actor env data t).guarded env data "更新失败"
          else if data.get "type" = some (.str "delete_device") then
            (deleteDevice B actor env data t).guarded env data "删除失败"
          else if data.get "type" = some (.str "delete_devices") then
            (deleteDevices B actor env data t).guarded env data "批量删除失败"
          else ⟨t, [], true⟩

/-! ## What the requests leave -/

section

variable {B : Backend} {actor : String} {env : RequestEnv α}
  {data : Dict String Json} {t : Tables} {device : Device}

/-- An exception is answered with an error, or the loop ends. -/
theorem guarded_raised (env : RequestEnv α) (data : Dict String Json)
    (fallback message : String) (t : Tables) (replies : List AdminReply) :
    ∃ text, env.errorSent (.error (requestId data) text) = true ∧
          (⟨t, replies, some message⟩ : Attempt).guarded env data fallback =
            ⟨t, replies ++ [.error (requestId data) text], true⟩ ∨
        env.errorSent (.error (requestId data) text) ≠ true ∧
          (⟨t, replies, some message⟩ : Attempt).guarded env data fallback =
            ⟨t, replies, false⟩ := by
  refine ⟨if message = "" then fallback else message, ?_⟩
  rw [Attempt.guarded]
  by_cases hsent : env.errorSent (.error (requestId data)
      (if message = "" then fallback else message)) = true
  · exact Or.inl ⟨hsent, if_pos hsent⟩
  · exact Or.inr ⟨hsent, if_neg hsent⟩

/-- Only an error is sent besides the messages of the attempt. -/
theorem replies_guarded (env : RequestEnv α) (data : Dict String Json)
    (fallback : String) (attempt : Attempt) :
    (attempt.guarded env data fallback).replies = attempt.replies ∨
      ∃ text, (attempt.guarded env data fallback).replies =
        attempt.replies ++ [.error (requestId data) text] := by
  obtain ⟨t, replies, raised⟩ := attempt
  cases raised with
  | none => exact Or.inl rfl
  | some message =>
      obtain ⟨text, ⟨-, hout⟩ | ⟨-, hout⟩⟩ :=
        guarded_raised env data fallback message t replies
      · exact Or.inr ⟨text, by rw [hout]⟩
      · exact Or.inl (by rw [hout])

theorem mem_replies_guarded {attempt : Attempt} {fallback : String}
    {reply : AdminReply}
    (h : reply ∈ (attempt.guarded env data fallback).replies) :
    reply ∈ attempt.replies ∨ ∃ text, reply = .error (requestId data) text := by
  rcases replies_guarded env data fallback attempt with heq | ⟨text, heq⟩
  · exact Or.inl (heq ▸ h)
  · rw [heq] at h
    rcases List.mem_append.mp h with h | h
    · exact Or.inl h
    · exact Or.inr ⟨text, List.mem_singleton.mp h⟩

theorem tables_guarded (attempt : Attempt) {fallback : String} :
    (attempt.guarded env data fallback).tables = attempt.tables := by
  rw [Attempt.guarded]
  cases attempt.raised with
  | none => rfl
  | some message =>
      dsimp only
      rw [apply_ite Handled.tables, ite_self]

theorem announce_spec {payload : AdminReply} :
    (announce env t payload).tables = t ∧
      ∀ reply ∈ (announce env t payload).replies, reply = payload := by
  rw [announce]
  cases env.sendError payload with
  | some message => simp
  | none => cases env.broadcast.status <;> simp

/-- **What `update_device` does**: it raises before the commit, or commits and
then reports the row and announces it, if the row can be reported. -/
theorem updateDevice_cases (B : Backend) (actor : String) (env : RequestEnv α)
    (data : Dict String Json) (t : Tables) :
    (∃ message, updateDevice B actor env data t = ⟨t, [], some message⟩) ∨
      ∃ deviceId allowed device remark,
        updateRequest B data = .ok (deviceId, allowed) ∧
        t.device? deviceId = some device ∧ (
          (device.Reportable ∧ updateDevice B actor env data t =
            announce env (t.reviseDevice actor env allowed remark device)
              (.deviceUpdated (requestId data) (device.revise remark
                ((allowed.get "is_authorized").map Python.truthy) env.now))) ∨
          ¬device.Reportable ∧ ∃ message, updateDevice B actor env data t =
            ⟨t.reviseDevice actor env allowed remark device, [],
              some message⟩) := by
  rw [updateDevice]
  cases hrequest : updateRequest B data with
  | error message => exact Or.inl ⟨message, rfl⟩
  | ok request =>
      obtain ⟨deviceId, allowed⟩ := request
      dsimp only
      cases hdevice : t.device? deviceId with
      | none => exact Or.inl ⟨_, rfl⟩
      | some device =>
          dsimp only
          cases env.commitError with
          | some message => exact Or.inl ⟨message, rfl⟩
          | none =>
              cases storedRemark B allowed with
              | error message => exact Or.inl ⟨message, rfl⟩
              | ok remark =>
                  right
                  refine ⟨deviceId, allowed, device, remark, rfl, hdevice, ?_⟩
                  dsimp only
                  by_cases hrow : device.Reportable
                  · left
                    rw [if_pos (Device.reportable_revise.mpr hrow)]
                    exact ⟨hrow, rfl⟩
                  · right
                    rw [if_neg fun h => hrow (Device.reportable_revise.mp h)]
                    exact ⟨hrow, _, rfl⟩

/-- **What `delete_device` does.** -/
theorem deleteDevice_cases (B : Backend) (actor : String) (env : RequestEnv α)
    (data : Dict String Json) (t : Tables) :
    (∃ message, deleteDevice B actor env data t = ⟨t, [], some message⟩) ∨
      deleteDevice B actor env data t =
        announce env (t.deleteDevices actor env.loggedAt [targetId B data])
          (.deviceDeleted (requestId data) (targetId B data)) := by
  rw [deleteDevice]
  split
  · exact Or.inl ⟨_, rfl⟩
  · split
    · exact Or.inl ⟨_, rfl⟩
    · cases env.commitError with
      | some message => exact Or.inl ⟨message, rfl⟩
      | none => exact Or.inr rfl

/-- **What `delete_devices` does.** -/
theorem deleteDevices_cases (B : Backend) (actor : String) (env : RequestEnv α)
    (data : Dict String Json) (t : Tables) :
    (∃ message, deleteDevices B actor env data t = ⟨t, [], some message⟩) ∨
      ∃ deviceIds, deleteRequest B data = .ok deviceIds ∧
        deleteDevices B actor env data t =
          announce env (t.deleteDevices actor env.loggedAt
              (existingIds B t deviceIds))
            (.devicesDeleted (requestId data) (existingIds B t deviceIds)
              (existingIds B t deviceIds).length) := by
  rw [deleteDevices]
  cases hrequest : deleteRequest B data with
  | error message => exact Or.inl ⟨message, rfl⟩
  | ok deviceIds =>
      dsimp only
      split
      · exact Or.inl ⟨_, rfl⟩
      · cases env.commitError with
        | some message => exact Or.inl ⟨message, rfl⟩
        | none => exact Or.inr ⟨deviceIds, rfl, rfl⟩

theorem updateDevice_tables {deviceId : String} {allowed : Dict String Json}
    {remark : Option (Option String)}
    (hrequest : updateRequest B data = .ok (deviceId, allowed))
    (hdevice : t.device? deviceId = some device)
    (hremark : storedRemark B allowed = .ok remark)
    (hcommit : env.commitError = none) :
    (updateDevice B actor env data t).tables =
      t.reviseDevice actor env allowed remark device := by
  rw [updateDevice]
  simp only [hrequest, hdevice, hcommit, hremark]
  split
  · exact announce_spec.1
  · rfl

/-- An update commits once, or not at all. -/
theorem updateDevice_tables_cases :
    (updateDevice B actor env data t).tables = t ∨
      ∃ allowed remark device, (updateDevice B actor env data t).tables =
        t.reviseDevice actor env allowed remark device := by
  rcases updateDevice_cases B actor env data t with ⟨_, h⟩ |
    ⟨_, allowed, device, remark, -, -, ⟨-, h⟩ | ⟨-, _, h⟩⟩
  · exact Or.inl (by rw [h])
  · exact Or.inr ⟨allowed, remark, device, by rw [h, announce_spec.1]⟩
  · exact Or.inr ⟨allowed, remark, device, by rw [h]⟩

theorem deleteDevice_tables (hid : targetId B data ≠ "")
    (hnamed : t.named [targetId B data] ≠ []) (hcommit : env.commitError = none) :
    (deleteDevice B actor env data t).tables =
      t.deleteDevices actor env.loggedAt [targetId B data] := by
  rw [deleteDevice, if_neg hid, if_neg hnamed]
  simp only [hcommit]
  exact announce_spec.1

/-- A deletion commits once, or not at all. -/
theorem deleteDevice_tables_cases :
    (deleteDevice B actor env data t).tables = t ∨
      ∃ ids, (deleteDevice B actor env data t).tables =
        t.deleteDevices actor env.loggedAt ids := by
  rcases deleteDevice_cases B actor env data t with ⟨_, h⟩ | h
  · exact Or.inl (by rw [h])
  · exact Or.inr ⟨_, by rw [h, announce_spec.1]⟩

theorem deleteDevices_tables_cases :
    (deleteDevices B actor env data t).tables = t ∨
      ∃ ids, (deleteDevices B actor env data t).tables =
        t.deleteDevices actor env.loggedAt ids := by
  rcases deleteDevices_cases B actor env data t with ⟨_, h⟩ | ⟨_, -, h⟩
  · exact Or.inl (by rw [h])
  · exact Or.inr ⟨_, by rw [h, announce_spec.1]⟩

/-- A request for devices changes nothing. -/
theorem tables_getDevices :
    (match getDevices B data t with
      | some payload =>
          match env.sendError payload with
          | none => (⟨t, [payload], true⟩ : Handled)
          | some _ => ⟨t, [], false⟩
      | none => ⟨t, [], false⟩).tables = t := by
  cases getDevices B data t with
  | none => rfl
  | some payload =>
      dsimp only
      cases env.sendError payload <;> rfl

/-- **What a message leaves**: the tables as they were, or after one committed
request. -/
theorem deviceEvents_tables_cases {message : Option Json} :
    (deviceEvents B actor env message t).tables = t ∨
      (∃ allowed remark device, (deviceEvents B actor env message t).tables =
        t.reviseDevice actor env allowed remark device) ∨
      ∃ ids, (deviceEvents B actor env message t).tables =
        t.deleteDevices actor env.loggedAt ids := by
  cases message with
  | none => exact Or.inl rfl
  | some message =>
      rw [deviceEvents]
      cases message.dict? with
      | none => exact Or.inl rfl
      | some data =>
          dsimp only
          split
          · left
            exact tables_getDevices
          · split
            · rw [tables_guarded]
              exact updateDevice_tables_cases.imp_right Or.inl
            · split
              · rw [tables_guarded]
                exact deleteDevice_tables_cases.imp_right Or.inr
              · split
                · rw [tables_guarded]
                  exact deleteDevices_tables_cases.imp_right Or.inr
                · exact Or.inl rfl

end

/-! ## A table with one device -/

/-- A backend that keeps rows in their order and stores texts, integers and
booleans. -/
def Backend.plain : Backend where
  str
    | .str s => s
    | .null => "None"
    | .bool b => if b then "True" else "False"
    | .int n => toString n
    | .float _ => "0.0"
    | .arr _ => "[]"
    | .obj _ => "{}"
  text
    | .null => .ok none
    | .str s => .ok (some s)
    | .bool b => .ok (some (if b then "1" else "0"))
    | .int n => .ok (some (toString n))
    | .float _ => .ok (some "0.0")
    | .arr _ | .obj _ => .error "type not supported"
  orderBy _ _ devices := devices
  scan devices := devices
  validationError _ := "1 validation error for DeviceResponse"
  str_str _ := rfl
  text_null := rfl
  text_str _ := rfl
  orderBy_perm _ _ _ := List.Perm.refl _
  scan_perm _ := List.Perm.refl _

/-- A request that meets no difficulty besides the given broadcast. -/
def RequestEnv.quiet (broadcast : BroadcastEnv α) : RequestEnv α :=
  ⟨200, fun _ => 200, none, fun _ => none, fun _ => true, broadcast⟩

/-- The only page is told, and nothing happens meanwhile. -/
def quietBroadcast : BroadcastEnv String :=
  ⟨onePage, [(true, onePage)], by decide⟩

/-- Another page is opened while the first one is told. -/
def joinedBroadcast : BroadcastEnv String :=
  ⟨onePage, [(true, twoPages)], by decide⟩

/-- The row after the first heartbeat of a device. -/
def registeredDevice (deviceId : String) : Device :=
  ⟨1, deviceId, some "editor", .obj [], none, true, 100, 100, some 100⟩

def oneDevice (deviceId : String) : Tables :=
  { devices := [registeredDevice deviceId]
    config := .empty
    unique := by simp
    operationLogs := [] }

/-- The tables of a new server. -/
def emptyTables : Tables := ⟨⟨[], .empty, List.nodup_nil⟩, []⟩

/-- A request with the given members. -/
def adminRequest (members : List (String × Json)) : Option Json :=
  some (.obj (("request_id", .int 7) :: members))

/-- A deletion of the device with the given id. -/
def exampleDeletion (deviceId : String) : Dict String Json :=
  .ofList [("type", .str "delete_device"), ("device_id", .str deviceId)]

/-- An update of the device with the given id. -/
def exampleUpdate (deviceId : String) : Dict String Json :=
  .ofList [("type", .str "update_device"), ("device_id", .str deviceId),
    ("data", .obj [("is_authorized", .bool false)])]

end PyAuth.Server
