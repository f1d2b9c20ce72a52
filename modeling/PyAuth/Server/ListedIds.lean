import PyAuth.Server.Audit

/-!
# Managing a device by its listed id

A heartbeat registers its device under the id as it was sent, and the list
reports that id.  The admin requests trim the id they are given before they
look it up, so they reach exactly the devices whose id is trimmed and not
empty.
-/

namespace PyAuth.Server

open Support

variable {α : Type} [DecidableEq α] {B : Backend} {actor : String}
  {env : RequestEnv α} {data : Dict String Json} {t t' : Tables}
  {device : Device} {f : Device → Option Device}

/-- The device was replaced by `f`, or removed, and no other row was changed;
the one new log names the device. -/
structure ActsOn (f : Device → Option Device) (device : Device)
    (t t' : Tables) : Prop where
  devices : t'.devices = t.devices.filterMap fun d =>
    if d.deviceId = device.deviceId then f d else some d
  log : ∃ log, t'.operationLogs = t.operationLogs ++ [log] ∧
    log.targetId = some device.deviceId

/-- The id of the device is the one it is looked up under. -/
def Device.Addressable (device : Device) : Prop :=
  Python.strip device.deviceId = device.deviceId ∧ device.deviceId ≠ ""

/-- What names the device acts on it only if its id is trimmed. -/
theorem ActsOn.addressable {replies : List AdminReply}
    (h : ActsOn f device t t') (hatomic : Atomic B actor env data t t' replies)
    (hvalues : requestedValues data = [.str device.deviceId]) :
    device.Addressable := by
  obtain ⟨log, hlog, htarget⟩ := h.log
  rcases hatomic with ⟨rfl, -⟩ | ⟨hcommitted, -⟩
  · simp at hlog
  · obtain ⟨logs, hlogs, hperm⟩ := hcommitted.logs
    have hnew : logs = [log] := List.append_cancel_left (hlogs.symm.trans hlog)
    rw [hnew, List.map_singleton, List.singleton_perm] at hperm
    have hmem : (log.username, log.action, log.targetId) ∈
        [(log.username, log.action, log.targetId)] := List.mem_singleton_self _
    rw [hperm] at hmem
    obtain ⟨d, hd, heq⟩ := List.mem_map.mp hmem
    simp only [Prod.mk.injEq, htarget, Option.some.injEq] at heq
    have hnamed : device.deviceId ∈ namedIds B data := by
      rw [← heq.2.2]
      simpa using (List.mem_filter.mp hd).2
    rw [namedIds, hvalues, mem_requestedIds] at hnamed
    obtain ⟨hne, x, hx, hstrip⟩ := hnamed
    rw [List.mem_singleton.mp hx, B.str_str] at hstrip
    exact ⟨hstrip, hne⟩

/-- A request with the id of the device looks it up under the trimmed id. -/
theorem targetId_of_device_id
    (hid : data.get "device_id" = some (.str device.deviceId)) :
    targetId B data = Python.strip device.deviceId := by
  rw [targetId, getOr, hid, Option.getD_some, B.str_str]

theorem requestedValues_of_device_id
    (hid : data.get "device_id" = some (.str device.deviceId))
    (htype : data.get "type" ≠ some (.str "delete_devices")) :
    requestedValues data = [.str device.deviceId] := by
  rw [requestedValues, if_neg htype, getOr, hid, Option.getD_some]

/-! ## Deleting -/

theorem actsOn_deleteDevices (loggedAt : ℕ → ℚ) :
    ActsOn (fun _ => none) device t
      (t.deleteDevices actor loggedAt [device.deviceId]) := by
  refine ⟨?_, _, rfl, rfl⟩
  simp only [Tables.deleteDevices, Database.delete]
  rw [← List.filterMap_eq_filter]
  apply List.filterMap_congr
  intro d _
  by_cases hd : d.deviceId = device.deviceId <;> simp [Option.guard, hd]

/-! ## Updating -/

theorem actsOn_reviseDevice {allowed : Dict String Json}
    {remark : Option (Option String)} :
    ActsOn (fun d => some (d.revise remark
        ((allowed.get "is_authorized").map Python.truthy) env.now)) device t
      (t.reviseDevice actor env allowed remark device) := by
  refine ⟨?_, _, rfl, rfl⟩
  simp only [Tables.reviseDevice, Database.update]
  rw [← List.filterMap_eq_map]
  apply List.filterMap_congr
  intro d _
  by_cases hd : d.deviceId = device.deviceId <;> simp [hd]

theorem updateRequest_of_fields {update : Dict String Json}
    (hid : targetId B data ≠ "")
    (hupdate : (getOr data "data" .null).dict? = some update)
    (hfields : (allowedFields update).isEmpty = false) :
    updateRequest B data = .ok (targetId B data, allowedFields update) := by
  have htruthy : Python.truthy (getOr data "data" .null) = true := by
    cases hdocument : getOr data "data" .null with
    | obj members =>
        cases members with
        | nil =>
            rw [hdocument] at hupdate
            obtain rfl := Option.some.inj hupdate
            exact absurd hfields (by decide)
        | cons member members => rfl
    | null | bool | int | float | str | arr =>
        simp [hdocument, Json.dict?] at hupdate
  rw [updateRequest, if_neg hid]
  simp only [htruthy, if_true, hupdate, hfields, Bool.false_eq_true, if_false]

/-! ## One request -/

theorem actsOn_deleteDevice_iff (hdevice : device ∈ t.devices)
    (hid : data.get "device_id" = some (.str device.deviceId))
    (hcommit : env.commitError = none)
    (htype : data.get "type" = some (.str "delete_device")) :
    ActsOn (fun _ => none) device t (deleteDevice B actor env data t).tables ↔
      device.Addressable := by
  have htarget : targetId B data = Python.strip device.deviceId :=
    targetId_of_device_id hid
  constructor
  · intro h
    have hatomic : Atomic B actor env data t
        ((deleteDevice B actor env data t).guarded env data "").tables
        ((deleteDevice B actor env data t).guarded env data "").replies :=
      atomic_deleteDevice htype
    rw [tables_guarded] at hatomic
    exact h.addressable hatomic
      (requestedValues_of_device_id hid (by simp [htype]))
  · rintro ⟨hstrip, hne⟩
    rw [hstrip] at htarget
    rw [deleteDevice_tables (by rwa [htarget]) ?_ hcommit, htarget]
    · exact actsOn_deleteDevices _
    · rw [htarget, Database.named_singleton, Database.device?_of_mem hdevice]
      simp

theorem actsOn_updateDevice_iff {update : Dict String Json}
    {remark : Option (Option String)} (hdevice : device ∈ t.devices)
    (hid : data.get "device_id" = some (.str device.deviceId))
    (hcommit : env.commitError = none)
    (htype : data.get "type" = some (.str "update_device"))
    (hupdate : (getOr data "data" .null).dict? = some update)
    (hfields : (allowedFields update).isEmpty = false)
    (hremark : storedRemark B (allowedFields update) = .ok remark) :
    ActsOn (fun d => some (d.revise remark
          (((allowedFields update).get "is_authorized").map Python.truthy)
          env.now)) device t
        (updateDevice B actor env data t).tables ↔
      device.Addressable := by
  have htarget : targetId B data = Python.strip device.deviceId :=
    targetId_of_device_id hid
  constructor
  · intro h
    have hatomic : Atomic B actor env data t
        ((updateDevice B actor env data t).guarded env data "").tables
        ((updateDevice B actor env data t).guarded env data "").replies :=
      atomic_updateDevice htype
    rw [tables_guarded] at hatomic
    exact h.addressable hatomic
      (requestedValues_of_device_id hid (by simp [htype]))
  · rintro ⟨hstrip, hne⟩
    rw [hstrip] at htarget
    rw [updateDevice_tables
      (updateRequest_of_fields (by rwa [htarget]) hupdate hfields)
      (by rw [htarget]; exact Database.device?_of_mem hdevice) hremark
      hcommit]
    exact actsOn_reviseDevice

/-! ## All devices -/

/-- **Which devices can be managed by their listed id.**  A deletion, or an
update whose fields can be stored, with the id of a device acts on that device
and on no other exactly when the id is trimmed and not empty. -/
theorem listed_device_managed_iff {document : Json}
    (hdata : document.dict? = some data) (hdevice : device ∈ t.devices)
    (hid : data.get "device_id" = some (.str device.deviceId))
    (hcommit : env.commitError = none) :
    (data.get "type" = some (.str "delete_device") →
      (ActsOn (fun _ => none) device t
          (deviceEvents B actor env (some document) t).tables ↔
        device.Addressable)) ∧
    (data.get "type" = some (.str "update_device") →
      ∀ update remark, (getOr data "data" .null).dict? = some update →
      (allowedFields update).isEmpty = false →
      storedRemark B (allowedFields update) = .ok remark →
      (ActsOn (fun d => some (d.revise remark
            (((allowedFields update).get "is_authorized").map Python.truthy)
            env.now)) device t
          (deviceEvents B actor env (some document) t).tables ↔
        device.Addressable)) := by
  rw [deviceEvents]
  simp only [hdata]
  constructor
  · intro htype
    simp only [htype, Option.some.injEq, Json.str.injEq, String.reduceEq,
      if_false, if_true, tables_guarded]
    exact actsOn_deleteDevice_iff hdevice hid hcommit htype
  · intro htype update remark hupdate hfields hremark
    simp only [htype, Option.some.injEq, Json.str.injEq, String.reduceEq,
      if_false, if_true, tables_guarded]
    exact actsOn_updateDevice_iff hdevice hid hcommit htype hupdate hfields
      hremark

/-! ## Near-identical ids -/

/-- The heartbeat of a device. -/
def exampleHeartbeat (deviceId : String) : Body (String × ℕ × Json) :=
  .encrypted ("secret", 0, .obj [("device_id", .str deviceId),
    ("software_name", .str "editor"), ("device_info", .obj [])])

/-- The tables after one heartbeat of each device. -/
def heardFrom (deviceIds : List String) : Tables :=
  { deviceIds.foldl (fun db deviceId =>
      (heartbeat .symbolic "secret" 0 ⟨100, 100, 100, 100⟩
        (exampleHeartbeat deviceId) db).1)
      ⟨[], .empty, List.nodup_nil⟩ with
    operationLogs := [] }

theorem listed_device_managed_iff_trimmed :
    ((exampleDeletion "D").get "type" = some (.str "delete_device") →
      (ActsOn (fun _ => none) (registeredDevice "D") (oneDevice "D")
          (deviceEvents .plain "admin" (.quiet quietBroadcast)
            (some (.ofDict (exampleDeletion "D"))) (oneDevice "D")).tables ↔
        (registeredDevice "D").Addressable)) ∧
    ((exampleDeletion "D").get "type" = some (.str "update_device") →
      ∀ update remark,
      (getOr (exampleDeletion "D") "data" .null).dict? = some update →
      (allowedFields update).isEmpty = false →
      storedRemark .plain (allowedFields update) = .ok remark →
      (ActsOn (fun d => some (d.revise remark
            (((allowedFields update).get "is_authorized").map Python.truthy)
            (RequestEnv.quiet quietBroadcast).now))
          (registeredDevice "D") (oneDevice "D")
          (deviceEvents .plain "admin" (.quiet quietBroadcast)
            (some (.ofDict (exampleDeletion "D"))) (oneDevice "D")).tables ↔
        (registeredDevice "D").Addressable)) :=
  listed_device_managed_iff (Json.dict?_ofDict _) (by decide) (by decide) rfl

/-- A device which sends its id with a trailing space is listed under that id.
A deletion or an update with the listed id acts on the device with the trimmed
id, if there is one, and else on no device at all. -/
theorem listed_device_not_managed :
    (∀ data ∈ [exampleDeletion "D ", exampleUpdate "D "],
      ∃ device ∈ (heardFrom ["D", "D "]).devices, device.deviceId = "D " ∧
        (∀ f, ¬ActsOn f device (heardFrom ["D", "D "])
          (deviceEvents .plain "admin" (.quiet quietBroadcast)
            (some (.ofDict data)) (heardFrom ["D", "D "])).tables) ∧
        ((deviceEvents .plain "admin" (.quiet quietBroadcast)
            (some (.ofDict data)) (heardFrom ["D", "D "])).tables.operationLogs.map
          (·.targetId)) = [some "D"]) ∧
    ∀ data ∈ [exampleDeletion "D ", exampleUpdate "D "],
      (deviceEvents .plain "admin" (.quiet quietBroadcast)
        (some (.ofDict data)) (heardFrom ["D "])).tables = heardFrom ["D "] := by
  have hlisted : ∃ device ∈ (heardFrom ["D", "D "]).devices,
      device.deviceId = "D " := by
    decide +kernel
  have hlogs : ∀ data ∈ [exampleDeletion "D ", exampleUpdate "D "],
      ((deviceEvents .plain "admin" (.quiet quietBroadcast)
          (some (.ofDict data)) (heardFrom ["D", "D "])).tables.operationLogs.map
        (·.targetId)) = [some "D"] := by
    decide +kernel
  refine ⟨fun data hdata => ?_, by decide +kernel⟩
  obtain ⟨device, hdevice, hid⟩ := hlisted
  refine ⟨device, hdevice, hid, fun f h => ?_, hlogs data hdata⟩
  obtain ⟨log, hlog, htarget⟩ := h.log
  have heq := hlogs data hdata
  rw [hlog] at heq
  rw [List.map_append, List.map_singleton, htarget, hid] at heq
  simp [heardFrom] at heq

end PyAuth.Server
