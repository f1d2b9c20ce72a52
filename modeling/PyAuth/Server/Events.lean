import PyAuth.Server.DeviceEvents

/-!
# What happens to the server

Heartbeats, messages of the admin pages and changes of the configuration, one
at a time, and what each of them does to the row of one device.
-/

namespace PyAuth.Server

open Support

/-! ## Changes of the configuration -/

/-- The entries of `configs` which are stored. -/
def normalizedConfigs (configs : Dict String Json) : Dict String Json :=
  .ofList (configs.entries.filterMap fun e =>
    if e.1 = "default_authorization" then
      some (e.1, .bool (coerceBoolish e.2 false))
    else none)

/-- The tables after a change of the configuration was committed. -/
def Tables.configure (t : Tables) (username : String) (loggedAt : ℚ)
    (configs : Dict String Json) : Tables :=
  { t with
    config := t.config.update (normalizedConfigs configs).entries
    operationLogs := t.operationLogs ++
      [⟨t.nextLogId, username, "update_config", "config", none,
        Json.ofDict (.ofList
          [("configs", Json.ofDict (normalizedConfigs configs))]),
        loggedAt⟩] }

/-- `update_configs`; `commitFails` when the commit raises. -/
def updateConfigs {κ : Type} (username : String) (loggedAt : ℚ)
    (commitFails : Bool) (configs : Dict String Json) (t : Tables) :
    Tables × Response κ :=
  if commitFails then (t, httpException 500 "保存配置失败")
  else
    (t.configure username loggedAt configs,
      ⟨200, some (.other (Json.ofDict (.ofList
        [("message", .str "配置已更新")])))⟩)

/-! ## Events -/

/-- What the server handles. -/
inductive ServerEvent (κ α : Type) [DecidableEq α]
  | heartbeat (salt : ℕ) (env : ProcessEnv) (broadcast : BroadcastEnv α)
      (body : Body κ)
  | admin (actor : String) (env : RequestEnv α) (message : Option Json)
  | updateConfigs (username : String) (loggedAt : ℚ) (commitFails : Bool)
      (configs : Dict String Json)

section

variable {κ α : Type} [DecidableEq α] (T : Transport κ) (clientSecret : String)
  (B : Backend)

/-- The request of a heartbeat, `none` when it is refused. -/
def heartbeatRequest (body : Body κ) : Option DeviceAuthRequest :=
  match body with
  | .other _ => none
  | .encrypted token =>
      match decryptRequestData T clientSecret token with
      | none => none
      | some data =>
          if Python.truthy data then deviceAuthRequest data else none

/-- `heartbeat`, which announces the device before it answers. -/
def announcedHeartbeat (salt : ℕ) (env : ProcessEnv)
    (broadcast : BroadcastEnv α) (body : Body κ) (t : Tables) :
    Tables × Response κ :=
  let (db, response) := heartbeat T clientSecret salt env body t.toDatabase
  ({ db with operationLogs := t.operationLogs },
    if (heartbeatRequest T clientSecret body).isSome ∧
        broadcast.status = .raised then internalServerError
    else response)

/-- An `update_device` that was committed. -/
structure DeviceUpdate where
  deviceId : String
  remark : Option (Option String)
  isAuthorized : Option Bool
  now : ℚ
deriving DecidableEq

/-- The update that a request makes, if it finds its device. -/
def committedUpdate (env : RequestEnv α) (data : Dict String Json) :
    Option DeviceUpdate :=
  match updateRequest B data with
  | .error _ => none
  | .ok (deviceId, allowed) =>
      match env.commitError, storedRemark B allowed with
      | some _, _ | none, .error _ => none
      | none, .ok remark =>
          some ⟨deviceId, remark,
            (allowed.get "is_authorized").map Python.truthy, env.now⟩

namespace ServerEvent

/-- The tables after an event. -/
def handle (t : Tables) : ServerEvent κ α → Tables
  | .heartbeat salt env broadcast body =>
      (announcedHeartbeat T clientSecret salt env broadcast body t).1
  | .admin actor env message => (deviceEvents B actor env message t).tables
  | .updateConfigs username loggedAt commitFails configs =>
      (Server.updateConfigs (κ := κ) username loggedAt commitFails configs t).1

/-- The heartbeat of the device, with its clock readings. -/
def heartbeatOf (deviceId : String) :
    ServerEvent κ α → Option (DeviceAuthRequest × ProcessEnv)
  | .heartbeat _ env _ body =>
      match heartbeatRequest T clientSecret body with
      | some request =>
          if request.deviceId = deviceId then some (request, env) else none
      | none => none
  | _ => none

/-- The committed update of the device. -/
def updateOf (deviceId : String) : ServerEvent κ α → Option DeviceUpdate
  | .admin _ env (some message) =>
      match message.dict? with
      | some data =>
          if data.get "type" = some (.str "update_device") then
            (committedUpdate B env data).filter (·.deviceId = deviceId)
          else none
      | none => none
  | _ => none

/-- What an event makes of the row of a device which it does not delete. -/
def evolve (e : ServerEvent κ α) (device : Device) : Device :=
  match e.updateOf B device.deviceId with
  | some update => device.revise update.remark update.isAuthorized update.now
  | none =>
      match e.heartbeatOf T clientSecret device.deviceId with
      | some (request, env) => request.refresh env device
      | none => device

end ServerEvent

end

/-! ## Rows of other devices -/

namespace Database

variable {db : Database} {deviceId deviceId' : String} {ids : List String}

theorem device?_update {f : Device → Device}
    {hf : ∀ d, (f d).deviceId = d.deviceId} :
    (db.update deviceId f hf).device? deviceId' =
      (db.device? deviceId').map fun d =>
        if deviceId' = deviceId then f d else d := by
  by_cases heq : deviceId' = deviceId
  · subst heq
    simp only [if_true, device?_update_self]
  · simp only [if_neg heq, Option.map_id', device?, update]
    induction db.devices with
    | nil => rfl
    | cons d ds ih =>
        rw [List.map_cons, List.find?_cons, List.find?_cons, ih]
        by_cases hd : d.deviceId = deviceId
        · simp [hd, hf, Ne.symm heq]
        · rw [if_neg hd]

theorem device?_insert_of_ne {d : Device} (h : db.device? d.deviceId = none)
    (hne : deviceId' ≠ d.deviceId) :
    (db.insert d h).device? deviceId' = db.device? deviceId' := by
  simp [device?, insert, List.find?_append, hne.symm]

theorem device?_delete_of_notMem (h : deviceId ∉ ids) :
    (db.delete ids).device? deviceId = db.device? deviceId := by
  simp only [device?, delete, List.find?_filter]
  congr 1
  funext d
  by_cases hd : d.deviceId = deviceId <;> simp [hd, h]

theorem device?_delete_of_mem (h : deviceId ∈ ids) :
    (db.delete ids).device? deviceId = none := by
  simp only [device?, delete, List.find?_filter, List.find?_eq_none]
  rintro d - hd
  simp only [decide_not, Bool.not_eq_true', decide_eq_false_iff_not,
    decide_eq_true_eq] at hd
  exact hd.1 (hd.2 ▸ h)

end Database

/-! ## What an event does to one row -/

section

variable {κ α : Type} [DecidableEq α] {T : Transport κ} {clientSecret : String}
  {B : Backend} {t : Tables} {deviceId : String} {device : Device}

/-- A heartbeat that is not refused is processed and answered. -/
theorem heartbeat_of_heartbeatRequest {salt : ℕ} {env : ProcessEnv}
    {body : Body κ} {db : Database} {request : DeviceAuthRequest}
    (h : heartbeatRequest T clientSecret body = some request) :
    heartbeat T clientSecret salt env body db =
      ((processDevice request env db).1,
        ⟨200, some (.encrypted (T.encrypt clientSecret salt
          (responseData (processDevice request env db).2.1)))⟩) := by
  cases body with
  | other document => cases h
  | encrypted token =>
      by_cases hsecret : clientSecret = ""
      · simp [heartbeatRequest, decryptRequestData, hsecret] at h
      · simp only [heartbeatRequest, decryptRequestData, if_neg hsecret] at h
        cases hdecrypt : T.decrypt clientSecret token with
        | none => simp [hdecrypt] at h
        | some data =>
            simp only [hdecrypt, Option.ite_none_right_eq_some] at h
            exact heartbeat_of_request hsecret hdecrypt h.1 h.2 salt env db

/-- A heartbeat that is refused changes nothing, and its answer is not
sealed. -/
theorem heartbeat_of_refused {salt : ℕ} {env : ProcessEnv} {body : Body κ}
    {db : Database} (h : heartbeatRequest T clientSecret body = none) :
    (heartbeat T clientSecret salt env body db).1 = db ∧
      (heartbeat T clientSecret salt env body db).2.token? = none := by
  cases body with
  | other document => exact ⟨rfl, rfl⟩
  | encrypted token =>
      simp only [heartbeatRequest] at h
      cases hdecrypt : decryptRequestData T clientSecret token with
      | none => simp [heartbeat, hdecrypt, httpException, Response.token?]
      | some data =>
          simp only [hdecrypt, ite_eq_right_iff] at h
          cases htruthy : Python.truthy data with
          | false =>
              simp [heartbeat, hdecrypt, htruthy, httpException,
                Response.token?]
          | true =>
              simp [heartbeat, hdecrypt, htruthy, h htruthy,
                internalServerError, Response.token?]

theorem device?_processDevice_of_ne {request : DeviceAuthRequest}
    {env : ProcessEnv} {db : Database} (hne : deviceId ≠ request.deviceId) :
    (processDevice request env db).1.device? deviceId =
      db.device? deviceId := by
  rw [processDevice]
  split
  · simp [Database.device?_update, hne]
  next h =>
    have hnone : db.device? (request.register env db).deviceId = none := h
    exact Database.device?_insert_of_ne hnone hne

/-- A committed update revises the row of its device, and no other. -/
theorem device?_updateDevice {actor : String} {env : RequestEnv α}
    {data : Dict String Json} :
    (updateDevice B actor env data t).tables.device? deviceId =
      (t.device? deviceId).map fun device =>
        match (committedUpdate B env data).filter (·.deviceId = deviceId) with
        | some update =>
            device.revise update.remark update.isAuthorized update.now
        | none => device := by
  rw [committedUpdate]
  cases hrequest : updateRequest B data with
  | error message => simp [updateDevice, hrequest]
  | ok request =>
      obtain ⟨target, allowed⟩ := request
      dsimp only
      cases hcommit : env.commitError with
      | some message =>
          have hsame : (updateDevice B actor env data t).tables = t := by
            simp only [updateDevice, hrequest, hcommit]
            cases t.device? target <;> rfl
          simp [hsame]
      | none =>
          cases hremark : storedRemark B allowed with
          | error message =>
              have hsame : (updateDevice B actor env data t).tables = t := by
                simp only [updateDevice, hrequest, hcommit, hremark]
                cases t.device? target <;> rfl
              simp [hsame]
          | ok remark =>
              cases htarget : t.device? target with
              | none =>
                  have hsame : (updateDevice B actor env data t).tables = t := by
                    simp only [updateDevice, hrequest, htarget]
                  by_cases heq : target = deviceId
                  · simp [hsame, ← heq, htarget]
                  · simp [hsame, Option.filter, heq]
              | some row =>
                  rw [updateDevice_tables hrequest htarget hremark hcommit]
                  simp only [Tables.reviseDevice, Database.device?_update,
                    Database.deviceId_of_device? htarget]
                  by_cases heq : deviceId = target
                  · simp [heq, Option.filter]
                  · simp [heq, Option.filter, Ne.symm heq]

/-- A deletion leaves a row as it is, or removes it. -/
theorem device?_deletion {actor : String} {loggedAt : ℕ → ℚ} {t' : Tables}
    (h : t' = t ∨ ∃ ids, t' = t.deleteDevices actor loggedAt ids) :
    t'.device? deviceId = none ∨ t'.device? deviceId = t.device? deviceId := by
  rcases h with rfl | ⟨ids, rfl⟩
  · exact Or.inr rfl
  · by_cases hmem : deviceId ∈ ids
    · exact Or.inl (Database.device?_delete_of_mem hmem)
    · exact Or.inr (Database.device?_delete_of_notMem hmem)

/-- A message keeps a row up to a committed update of its device, or removes
it. -/
theorem device?_deviceEvents {actor : String} {env : RequestEnv α}
    {message : Option Json} :
    (deviceEvents B actor env message t).tables.device? deviceId = none ∨
      (deviceEvents B actor env message t).tables.device? deviceId =
        (t.device? deviceId).map fun device =>
          match (ServerEvent.admin (κ := κ) actor env message).updateOf B
              deviceId with
          | some update =>
              device.revise update.remark update.isAuthorized update.now
          | none => device := by
  cases message with
  | none => exact Or.inr (by simp [deviceEvents, ServerEvent.updateOf])
  | some message =>
      rw [deviceEvents]
      cases hdata : message.dict? with
      | none => exact Or.inr (by simp [ServerEvent.updateOf, hdata])
      | some data =>
          simp only [ServerEvent.updateOf, hdata]
          by_cases hget : data.get "type" = some (.str "get_devices")
          · right
            simp only [hget, if_true, Option.some.injEq, Json.str.injEq,
              String.reduceEq, if_false, Option.map_id']
            rw [tables_getDevices]
          by_cases hupdate : data.get "type" = some (.str "update_device")
          · right
            simp only [hupdate, Option.some.injEq, Json.str.injEq,
              String.reduceEq, if_false, if_true, tables_guarded]
            exact device?_updateDevice
          simp only [hget, hupdate, if_false, Option.map_id']
          split
          · rw [tables_guarded]
            exact device?_deletion deleteDevice_tables_cases
          · split
            · rw [tables_guarded]
              exact device?_deletion deleteDevices_tables_cases
            · exact Or.inr rfl

namespace ServerEvent

variable {e : ServerEvent κ α}

/-- **What an event does to the row of a device**, if it does not remove it. -/
theorem device?_handle_of_some (h : t.device? deviceId = some device) :
    (e.handle T clientSecret B t).device? deviceId = none ∨
      (e.handle T clientSecret B t).device? deviceId =
        some (e.evolve T clientSecret B device) := by
  have hid := Database.deviceId_of_device? h
  subst hid
  cases e with
  | admin actor env message =>
      have hrow : (deviceEvents B actor env message t).tables.device?
          device.deviceId = none ∨ _ := device?_deviceEvents (κ := κ)
      rw [h, Option.map_some] at hrow
      exact hrow
  | updateConfigs username loggedAt commitFails configs =>
      right
      cases commitFails <;> exact h
  | heartbeat salt env broadcast body =>
      right
      change (Server.heartbeat T clientSecret salt env body t.toDatabase).1.device?
        device.deviceId = _
      simp only [evolve, updateOf, heartbeatOf]
      cases hrequest : heartbeatRequest T clientSecret body with
      | none => rw [(heartbeat_of_refused hrequest).1, h]
      | some request =>
          rw [heartbeat_of_heartbeatRequest hrequest]
          dsimp only
          by_cases hid : request.deviceId = device.deviceId
          · rw [← hid] at h
            rw [if_pos hid, ← hid, device?_processDevice,
              processDevice_of_some h]
          · rw [if_neg hid, device?_processDevice_of_ne (Ne.symm hid), h]

/-- A row appears only through a heartbeat of its device. -/
theorem device?_handle_of_none (h : t.device? deviceId = none) :
    (e.handle T clientSecret B t).device? deviceId = none ∨
      ∃ request env,
        e.heartbeatOf T clientSecret deviceId = some (request, env) ∧
        (e.handle T clientSecret B t).device? deviceId =
          some (request.register env t.toDatabase) := by
  cases e with
  | admin actor env message =>
      left
      have hrow : (deviceEvents B actor env message t).tables.device?
          deviceId = none ∨ _ := device?_deviceEvents (κ := κ)
      rwa [h, Option.map_none, or_self_iff] at hrow
  | updateConfigs username loggedAt commitFails configs =>
      left
      cases commitFails <;> exact h
  | heartbeat salt env broadcast body =>
      change (Server.heartbeat T clientSecret salt env body
        t.toDatabase).1.device? deviceId = none ∨ ∃ request env', _ ∧
          (Server.heartbeat T clientSecret salt env body
            t.toDatabase).1.device? deviceId = _
      simp only [heartbeatOf]
      cases hrequest : heartbeatRequest T clientSecret body with
      | none =>
          left
          rw [(heartbeat_of_refused hrequest).1, h]
      | some request =>
          rw [heartbeat_of_heartbeatRequest hrequest]
          dsimp only
          by_cases hid : request.deviceId = deviceId
          · right
            subst hid
            refine ⟨request, env, if_pos rfl, ?_⟩
            rw [device?_processDevice, processDevice_of_none h]
          · left
            rw [device?_processDevice_of_ne (Ne.symm hid), h]

end ServerEvent

end

end PyAuth.Server
