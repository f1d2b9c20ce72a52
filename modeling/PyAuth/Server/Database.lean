import PyAuth.Support.Dict
import PyAuth.Support.Python

/-!
# The tables of the server

The `devices` and `config` tables, as far as heartbeats read and write them.
`device_id` is unique; timestamps are seconds.
-/

namespace PyAuth.Server

open Support

/-- A row of `devices`.  JSON `null` stands for a missing `device_info`. -/
structure Device where
  id : ℕ
  deviceId : String
  softwareName : Option String
  deviceInfo : Json
  remark : Option String
  isAuthorized : Bool
  createdAt : ℚ
  updatedAt : ℚ
  lastCheck : Option ℚ
deriving DecidableEq

/-- The tables, with the unique index on `device_id`. -/
structure Database where
  devices : List Device
  config : Dict String Json
  unique : (devices.map (·.deviceId)).Nodup
deriving DecidableEq

namespace Database

/-- `db.query(Device).filter(Device.device_id == deviceId).first()`. -/
def device? (db : Database) (deviceId : String) : Option Device :=
  db.devices.find? fun d => d.deviceId = deviceId

theorem deviceId_of_device? {db : Database} {deviceId : String} {d : Device}
    (h : db.device? deviceId = some d) : d.deviceId = deviceId := by
  simpa using List.find?_some h

theorem device?_eq_none_iff {db : Database} {deviceId : String} :
    db.device? deviceId = none ↔ deviceId ∉ db.devices.map (·.deviceId) := by
  simp [device?, List.find?_eq_none]

/-- The next value of the integer primary key. -/
def nextId (db : Database) : ℕ :=
  (db.devices.map (·.id)).foldl max 0 + 1

/-- The row of the device is replaced; `f` keeps its `device_id`. -/
def update (db : Database) (deviceId : String) (f : Device → Device)
    (hf : ∀ d, (f d).deviceId = d.deviceId) : Database where
  devices := db.devices.map fun d => if d.deviceId = deviceId then f d else d
  config := db.config
  unique := by
    have hmap : (db.devices.map fun d =>
          if d.deviceId = deviceId then f d else d).map (·.deviceId) =
        db.devices.map (·.deviceId) := by
      rw [List.map_map]
      apply List.map_congr_left
      intro d _
      simp only [Function.comp_apply]
      split
      · exact hf d
      · rfl
    rw [hmap]
    exact db.unique

/-- A row with a new `device_id` is appended. -/
def insert (db : Database) (d : Device) (h : db.device? d.deviceId = none) :
    Database where
  devices := db.devices ++ [d]
  config := db.config
  unique := by
    rw [List.map_append, List.map_singleton, List.nodup_append]
    refine ⟨db.unique, List.nodup_singleton _, ?_⟩
    rintro a ha b hb rfl
    rw [List.mem_singleton.mp hb] at ha
    exact device?_eq_none_iff.mp h ha

theorem device?_update_self {db : Database} {deviceId : String}
    {f : Device → Device} {hf : ∀ d, (f d).deviceId = d.deviceId} :
    (db.update deviceId f hf).device? deviceId =
      (db.device? deviceId).map f := by
  simp only [device?, update]
  induction db.devices with
  | nil => rfl
  | cons d ds ih =>
      by_cases hd : d.deviceId = deviceId
      · simp [hd, hf]
      · simp only [List.map_cons, hd, if_false, List.find?_cons, decide_false]
        exact ih

theorem device?_insert_self {db : Database} {d : Device}
    (h : db.device? d.deviceId = none) :
    (db.insert d h).device? d.deviceId = some d := by
  have hnone : db.devices.find? (fun d' => d'.deviceId = d.deviceId) = none := h
  simp [device?, insert, List.find?_append, hnone]

end Database

/-! ## Authorisation of new devices -/

/-- `coerce_boolish`. -/
def coerceBoolish (value : Json) (ifNone : Bool) : Bool :=
  match value with
  | .null => ifNone
  | .bool b => b
  | .str s => (Python.strip s).toLower ∈ ["1", "true", "yes", "on"]
  | v => Python.truthy v

/-- The authorisation of a device seen for the first time. -/
def Database.defaultAuthorization (db : Database) : Bool :=
  match db.config.get "default_authorization" with
  | none => true
  | some value => coerceBoolish value true

end PyAuth.Server
