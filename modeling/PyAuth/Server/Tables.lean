import PyAuth.Server.Database

/-!
# The tables of the administration

The devices and the configuration, together with the log of what was done to
them.
-/

namespace PyAuth.Server

open Support

/-- A row of `operation_logs`.  JSON `null` stands for a missing `detail`. -/
structure OperationLog where
  id : ℕ
  username : String
  action : String
  targetType : String
  targetId : Option String
  detail : Json
  createdAt : ℚ
deriving DecidableEq

structure Tables extends Database where
  operationLogs : List OperationLog
deriving DecidableEq

/-- `db.query(Device).filter(Device.device_id.in_(ids)).delete()`. -/
def Database.delete (db : Database) (ids : List String) : Database where
  devices := db.devices.filter fun d => d.deviceId ∉ ids
  config := db.config
  unique := db.unique.sublist (List.filter_sublist.map _)

/-- The rows with these ids. -/
def Database.named (db : Database) (ids : List String) : List Device :=
  db.devices.filter fun d => d.deviceId ∈ ids

namespace Database

variable {db : Database} {ids : List String} {deviceId : String}
  {device : Device}

theorem mem_of_device? (h : db.device? deviceId = some device) :
    device ∈ db.devices :=
  List.mem_of_find?_eq_some h

/-- Where a value belongs to one row at most, it leads to that row. -/
theorem find?_of_nodup {ρ β : Type} [DecidableEq β] {f : ρ → β}
    {rows : List ρ} {row : ρ} (hunique : (rows.map f).Nodup)
    (h : row ∈ rows) : rows.find? (fun r => f r = f row) = some row := by
  induction rows with
  | nil => simp at h
  | cons r rows ih =>
      rw [List.map_cons, List.nodup_cons] at hunique
      rcases List.mem_cons.mp h with rfl | h
      · simp
      · have hne : f r ≠ f row := by
          intro heq
          exact hunique.1 (heq ▸ List.mem_map_of_mem h)
        rw [List.find?_cons_of_neg (by simpa using hne)]
        exact ih hunique.2 h

theorem device?_of_mem (h : device ∈ db.devices) :
    db.device? device.deviceId = some device :=
  find?_of_nodup db.unique h

/-- An id names at most one row. -/
theorem named_singleton :
    db.named [deviceId] = (db.device? deviceId).toList := by
  have hunique := db.unique
  rw [named, device?]
  generalize db.devices = devices at hunique
  induction devices with
  | nil => rfl
  | cons d devices ih =>
      rw [List.map_cons, List.nodup_cons] at hunique
      by_cases hd : d.deviceId = deviceId
      · have hnone : devices.filter (fun d => d.deviceId ∈ [deviceId]) = [] := by
          rw [List.filter_eq_nil_iff]
          intro d' hd' hmem
          have heq : d'.deviceId = deviceId := by simpa using hmem
          exact hunique.1 (hd.trans heq.symm ▸ List.mem_map_of_mem hd')
        rw [List.filter_cons_of_pos (by simpa using hd), hnone,
          List.find?_cons_of_pos (by simpa using hd)]
        rfl
      · rw [List.filter_cons_of_neg (by simpa using hd),
          List.find?_cons_of_neg (by simpa using hd)]
        exact ih hunique.2

end Database

namespace Tables

/-- The next value of the integer primary key of `operation_logs`. -/
def nextLogId (t : Tables) : ℕ :=
  (t.operationLogs.map (·.id)).foldl max 0 + 1

/-- The rows `OperationLog(username, action, "device", id, detail)` for all
`ids`, as they are inserted at a commit. -/
def newLogs (t : Tables) (username action : String) (detail : Json)
    (loggedAt : ℕ → ℚ) (ids : List String) : List OperationLog :=
  ids.zipIdx.map fun e =>
    ⟨t.nextLogId + e.2, username, action, "device", some e.1, detail,
      loggedAt e.2⟩

/-- What each new log says. -/
theorem map_newLogs (t : Tables) (username action : String) (detail : Json)
    (loggedAt : ℕ → ℚ) (ids : List String) :
    (t.newLogs username action detail loggedAt ids).map (fun log =>
        (log.username, log.action, log.targetId)) =
      ids.map fun id => (username, action, some id) := by
  rw [newLogs, List.map_map]
  change ids.zipIdx.map ((fun id => (username, action, some id)) ∘ Prod.fst) = _
  rw [← List.map_map, List.zipIdx_map_fst]

theorem append_newLogs_ne {t : Tables} {username action : String}
    {detail : Json} {loggedAt : ℕ → ℚ} {ids : List String} (h : ids ≠ []) :
    t.operationLogs ++ t.newLogs username action detail loggedAt ids ≠
      t.operationLogs := by
  rw [ne_eq, List.append_right_eq_self]
  simpa [newLogs] using h

end Tables

end PyAuth.Server
