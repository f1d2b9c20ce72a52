import PyAuth.Server.Events
import PyAuth.Support.Run

/-!
# Several workers on one database

Each request has a session of its own.  It reads its row with a SELECT,
computes on that copy, and commits an UPDATE of the columns whose value it
changed, which goes to the row with the primary key it has read.  Between
these steps other workers take theirs.
-/

namespace PyAuth.Server

open Support

/-! ## Updates of columns -/

/-- The columns an UPDATE sets. -/
structure ColumnUpdate where
  softwareName : Option (Option String)
  deviceInfo : Option Json
  remark : Option (Option String)
  isAuthorized : Option Bool
  updatedAt : Option ℚ
  lastCheck : Option (Option ℚ)
deriving DecidableEq

def ColumnUpdate.empty : ColumnUpdate := ⟨none, none, none, none, none, none⟩

/-- The row after an UPDATE. -/
def Device.patch (device : Device) (columns : ColumnUpdate) : Device :=
  { device with
    softwareName := columns.softwareName.getD device.softwareName
    deviceInfo := columns.deviceInfo.getD device.deviceInfo
    remark := columns.remark.getD device.remark
    isAuthorized := columns.isAuthorized.getD device.isAuthorized
    updatedAt := columns.updatedAt.getD device.updatedAt
    lastCheck := columns.lastCheck.getD device.lastCheck }

/-- The value to write, when another one than `old` was assigned. -/
def changedTo {β : Type} [DecidableEq β] (old : β) (assigned : Option β) :
    Option β :=
  assigned.filter (· ≠ old)

/-- Nothing is lost when the stored value is still the one that was read. -/
theorem getD_changedTo {β : Type} [DecidableEq β] {old : β}
    {assigned : Option β} :
    (changedTo old assigned).getD old = assigned.getD old := by
  cases assigned with
  | none => rfl
  | some v => by_cases hv : v = old <;> simp [changedTo, Option.filter, hv]

/-- The columns that a heartbeat has changed on its copy of the row. -/
def DeviceAuthRequest.columns (request : DeviceAuthRequest) (env : ProcessEnv)
    (device : Device) : ColumnUpdate where
  softwareName :=
    if request.changesName device then some request.softwareName else none
  deviceInfo :=
    if request.changesInfo device then request.deviceInfo.map Json.ofDict
    else none
  remark := none
  isAuthorized := none
  updatedAt :=
    if request.changesName device || request.changesInfo device then
      changedTo device.updatedAt (some env.changedAt)
    else none
  lastCheck := changedTo device.lastCheck (some (some env.checkedAt))

/-- A remark as it is read. -/
def remarkJson : Option String → Json
  | none => .null
  | some s => .str s

/-- The columns that `update_device` has changed on its copy of the row, where
`remark` is what is stored for the given one. -/
def updateColumns (allowed : Dict String Json) (remark : Option (Option String))
    (now : ℚ) (device : Device) : ColumnUpdate where
  softwareName := none
  deviceInfo := none
  remark :=
    if allowed.get "remark" = some (remarkJson device.remark) then none
    else remark
  isAuthorized := changedTo device.isAuthorized
    ((allowed.get "is_authorized").map Python.truthy)
  updatedAt := changedTo device.updatedAt (some now)
  lastCheck := none

namespace Database

/-- The row with the given primary key. -/
def row? (db : Database) (id : ℕ) : Option Device :=
  db.devices.find? fun d => d.id = id

/-- `UPDATE devices SET … WHERE id = …`. -/
def patch (db : Database) (id : ℕ) (columns : ColumnUpdate) : Database where
  devices := db.devices.map fun d => if d.id = id then d.patch columns else d
  config := db.config
  unique := by
    have hmap : (db.devices.map fun d =>
          if d.id = id then d.patch columns else d).map (·.deviceId) =
        db.devices.map (·.deviceId) := by
      rw [List.map_map]
      apply List.map_congr_left
      intro d _
      rw [Function.comp_apply]
      split <;> rfl
    rw [hmap]
    exact db.unique

theorem device?_patch {db : Database} {id : ℕ} {columns : ColumnUpdate}
    {deviceId : String} :
    (db.patch id columns).device? deviceId =
      (db.device? deviceId).map fun d =>
        if d.id = id then d.patch columns else d := by
  simp only [device?, patch]
  induction db.devices with
  | nil => rfl
  | cons d ds ih =>
      have hid : (if d.id = id then d.patch columns else d).deviceId =
          d.deviceId := by
        split <;> rfl
      rw [List.map_cons, List.find?_cons, List.find?_cons, ih, hid]
      by_cases hd : d.deviceId = deviceId <;> simp [hd]

end Database

/-! ## Tasks -/

/-- Where a heartbeat stands.  Its SELECT has found its device, or it has not
and the authorisation of new devices was read. -/
inductive HeartbeatPhase
  | known (device : Device)
  | unknown (isAuthorized : Bool)
  | committed (id : ℕ)
  | refreshed (device : Device)
  | replied (data : Json)
  | failed
deriving DecidableEq

/-- A request some worker is handling.  An update has read its row and will
commit. -/
inductive WorkerTask
  | heartbeat (request : DeviceAuthRequest) (phase : HeartbeatPhase)
  | update (actor : String) (allowed : Dict String Json) (device : Device)
  | finished
deriving DecidableEq

/-- The database, and all requests so far. -/
structure Workers where
  tables : Tables
  tasks : List WorkerTask
deriving DecidableEq

/-- What a worker does at once.  `advance` takes a heartbeat from its SELECT
over its commit and its refresh to its reply. -/
inductive WorkerEvent (α : Type) [DecidableEq α]
  | select (request : DeviceAuthRequest)
  | advance (task : ℕ) (env : ProcessEnv)
  | selectUpdate (actor : String) (data : Dict String Json)
  | commitUpdate (task : ℕ) (env : RequestEnv α)
  | deleteDevice (actor : String) (env : RequestEnv α)
      (data : Dict String Json)
  | deleteDevices (actor : String) (env : RequestEnv α)
      (data : Dict String Json)

/-- The SELECT of a heartbeat. -/
def selectHeartbeat (request : DeviceAuthRequest) (db : Database) :
    HeartbeatPhase :=
  match db.device? request.deviceId with
  | some device => .known device
  | none => .unknown db.defaultAuthorization

/-- The row that a heartbeat inserts. -/
def DeviceAuthRequest.registerAs (request : DeviceAuthRequest)
    (env : ProcessEnv) (isAuthorized : Bool) (db : Database) : Device :=
  { request.register env db with isAuthorized := isAuthorized }

/-- The next step of a heartbeat.  An INSERT that breaks the unique index
fails, and so do an UPDATE and a refresh whose row is gone. -/
def advanceHeartbeat (request : DeviceAuthRequest) (env : ProcessEnv)
    (t : Tables) : HeartbeatPhase → Tables × HeartbeatPhase
  | .known device =>
      -- Without a changed column no UPDATE is sent.
      if request.columns env device = .empty then (t, .committed device.id)
      else if (t.row? device.id).isSome then
        ({ t.patch device.id (request.columns env device) with
            operationLogs := t.operationLogs },
          .committed device.id)
      else (t, .failed)
  | .unknown isAuthorized =>
      if h : t.device? request.deviceId = none then
        ({ t.insert (request.registerAs env isAuthorized t.toDatabase) h with
            operationLogs := t.operationLogs },
          .committed t.nextId)
      else (t, .failed)
  | .committed id =>
      match t.row? id with
      | some device => (t, .refreshed device)
      | none => (t, .failed)
  | .refreshed device => (t, .replied (responseData device))
  | .replied data => (t, .replied data)
  | .failed => (t, .failed)

section

variable {α : Type} [DecidableEq α] (B : Backend)

/-- The columns that the commit of an update sets; `none` when it fails
before its UPDATE. -/
def committedColumns (env : RequestEnv α) (allowed : Dict String Json)
    (device : Device) : Option ColumnUpdate :=
  match env.commitError, storedRemark B allowed with
  | some _, _ | none, .error _ => none
  | none, .ok remark => some (updateColumns allowed remark env.now device)

/-- The tables after an update tried to commit. -/
def commitUpdate (actor : String) (env : RequestEnv α)
    (allowed : Dict String Json) (device : Device) (t : Tables) : Tables :=
  match committedColumns B env allowed device with
  | none => t
  | some columns =>
      if columns = .empty ∨ (t.row? device.id).isSome then
        { t.patch device.id columns with
          operationLogs := t.operationLogs ++
            t.newLogs actor "update_device" (.ofDict allowed) env.loggedAt
              [device.deviceId] }
      else t

namespace Workers

/-- The state after an event; what no task can do has no effect. -/
def next (w : Workers) : WorkerEvent α → Workers
  | .select request =>
      { w with tasks := w.tasks ++
          [.heartbeat request (selectHeartbeat request w.tables.toDatabase)] }
  | .advance task env =>
      match w.tasks[task]? with
      | some (.heartbeat request phase) =>
          let (t, phase) := advanceHeartbeat request env w.tables phase
          ⟨t, w.tasks.set task (.heartbeat request phase)⟩
      | _ => w
  | .selectUpdate actor data =>
      match updateRequest B data with
      | .ok (deviceId, allowed) =>
          match w.tables.device? deviceId with
          | some device =>
              { w with tasks := w.tasks ++ [.update actor allowed device] }
          | none => w
      | .error _ => w
  | .commitUpdate task env =>
      match w.tasks[task]? with
      | some (.update actor allowed device) =>
          ⟨commitUpdate B actor env allowed device w.tables,
            w.tasks.set task .finished⟩
      | _ => w
  | .deleteDevice actor env data =>
      { w with tables := (Server.deleteDevice B actor env data w.tables).tables }
  | .deleteDevices actor env data =>
      { w with tables := (Server.deleteDevices B actor env data w.tables).tables }

/-- The states of a run which starts without tasks. -/
def runFrom (t : Tables) (e : ℕ → WorkerEvent α) : ℕ → Workers :=
  statesAt (next B) e ⟨t, []⟩

/-- The primary key and the columns of the UPDATE which an event sends. -/
def written (w : Workers) : WorkerEvent α → Option (ℕ × ColumnUpdate)
  | .advance task env =>
      match w.tasks[task]? with
      | some (.heartbeat request (.known device)) =>
          some (device.id, request.columns env device)
      | _ => none
  | .commitUpdate task env =>
      match w.tasks[task]? with
      | some (.update _ allowed device) =>
          (committedColumns B env allowed device).map fun columns =>
            (device.id, columns)
      | _ => none
  | _ => none

end Workers

end

/-! ## The columns of an update -/

section

variable {B : Backend} {device row : Device} {allowed : Dict String Json}
  {remark : Option (Option String)} {now : ℚ}

theorem isAuthorized_patch_updateColumns
    (h : device.isAuthorized = row.isAuthorized) :
    (row.patch (updateColumns allowed remark now device)).isAuthorized =
      ((allowed.get "is_authorized").map Python.truthy).getD
        row.isAuthorized := by
  rw [Device.patch, updateColumns, ← h, getD_changedTo]

/-- A remark that was read is stored as it was. -/
theorem text_remarkJson (stored : Option String) :
    B.text (remarkJson stored) = .ok stored := by
  cases stored with
  | none => exact B.text_null
  | some s => exact B.text_str s

theorem remark_patch_updateColumns (h : device.remark = row.remark)
    (hremark : storedRemark B allowed = .ok remark) :
    (row.patch (updateColumns allowed remark now device)).remark =
      remark.getD row.remark := by
  rw [Device.patch, updateColumns]
  dsimp only
  split
  next hsame =>
    rw [storedRemark, hsame] at hremark
    simp only [text_remarkJson, Except.map, Except.ok.injEq] at hremark
    rw [← hremark]
    exact h.symm
  · rfl

theorem patch_updateColumns (hremark : storedRemark B allowed = .ok remark) :
    device.patch (updateColumns allowed remark now device) =
      device.revise remark
        ((allowed.get "is_authorized").map Python.truthy) now := by
  have hremark' : (device.patch (updateColumns allowed remark now
      device)).remark = remark.getD device.remark :=
    remark_patch_updateColumns rfl hremark
  have hupdated : (changedTo device.updatedAt (some now)).getD
      device.updatedAt = now := getD_changedTo
  rw [Device.patch] at hremark' ⊢
  simp only [Device.revise, Device.mk.injEq, true_and]
  exact ⟨rfl, rfl, hremark', getD_changedTo, hupdated, rfl⟩

end

/-! ## What an event does to one row -/

section

variable {α : Type} [DecidableEq α] {B : Backend} {w : Workers}
  {e : WorkerEvent α} {deviceId : String} {row row' : Device} {t : Tables}
  {id : ℕ} {columns : ColumnUpdate}

theorem Device.patch_empty : row.patch .empty = row := rfl

theorem Database.row?_eq_none_iff {db : Database} :
    db.row? id = none ↔ ∀ d ∈ db.devices, d.id ≠ id := by
  simp [Database.row?, List.find?_eq_none]

/-- A row that cannot be found under a primary key has another one. -/
theorem Database.id_ne_of_row? {db : Database} (h : db.device? deviceId = some row)
    (hgone : ¬(db.row? id).isSome) : row.id ≠ id := by
  rw [Option.not_isSome_iff_eq_none, row?_eq_none_iff] at hgone
  exact hgone row (mem_of_device? h)

theorem device?_commitUpdate {actor : String} {env : RequestEnv α}
    {allowed : Dict String Json} {device : Device}
    (h : t.device? deviceId = some row) :
    (commitUpdate B actor env allowed device t).device? deviceId =
      some (match committedColumns B env allowed device with
        | some columns =>
            if row.id = device.id then row.patch columns else row
        | none => row) := by
  rw [commitUpdate]
  cases committedColumns B env allowed device with
  | none => exact h
  | some columns =>
      dsimp only
      split
      · change (t.patch device.id columns).device? deviceId = _
        rw [Database.device?_patch, h]
        rfl
      next hgone =>
        rw [h, if_neg (Database.id_ne_of_row? h (not_or.mp hgone).2)]

theorem device?_advanceHeartbeat {request : DeviceAuthRequest}
    {env : ProcessEnv} {phase : HeartbeatPhase}
    (h : t.device? deviceId = some row) :
    (advanceHeartbeat request env t phase).1.device? deviceId =
      some (match phase with
        | .known device =>
            if row.id = device.id then row.patch (request.columns env device)
            else row
        | _ => row) := by
  cases phase with
  | known device =>
      simp only [advanceHeartbeat]
      split
      next hempty => simp [hempty, h, Device.patch_empty]
      · split
        · change (t.patch device.id _).device? deviceId = _
          rw [Database.device?_patch, h]
          rfl
        next hgone => rw [h, if_neg (Database.id_ne_of_row? h hgone)]
  | unknown isAuthorized =>
      simp only [advanceHeartbeat]
      split
      next hnone =>
        have hne : deviceId ≠ request.deviceId := by
          rintro rfl
          simp [h] at hnone
        change (t.insert (request.registerAs env isAuthorized t.toDatabase)
          hnone).device? deviceId = _
        rw [Database.device?_insert_of_ne hnone hne, h]
      · exact h
  | committed id =>
      simp only [advanceHeartbeat]
      split <;> exact h
  | refreshed device => exact h
  | replied data => exact h
  | failed => exact h

/-- A row that a deletion leaves is as it was. -/
theorem row_of_deletion {actor : String} {loggedAt : ℕ → ℚ} {t' : Tables}
    (h : t.device? deviceId = some row) (h' : t'.device? deviceId = some row')
    (hdeletion : t' = t ∨ ∃ ids, t' = t.deleteDevices actor loggedAt ids) :
    row' = row := by
  rcases device?_deletion hdeletion with hrow | hrow
  · cases hrow.symm.trans h'
  · exact Option.some.inj (h'.symm.trans (hrow.trans h))

/-- **What an event does to the row of a device**: it removes the row, or sets
the columns it writes under its primary key. -/
theorem device?_next (h : w.tables.device? deviceId = some row)
    (h' : (w.next B e).tables.device? deviceId = some row') :
    row' = match w.written B e with
      | some (id, columns) => if row.id = id then row.patch columns else row
      | none => row := by
  cases e with
  | select request =>
      exact Option.some.inj (h'.symm.trans h)
  | advance task env =>
      simp only [Workers.next, Workers.written] at h' ⊢
      generalize w.tasks[task]? = entry at h' ⊢
      rcases entry with _ | ⟨request, phase⟩ | _ | _
      case some.heartbeat =>
        simp only [device?_advanceHeartbeat h, Option.some.injEq] at h'
        rw [← h']
        cases phase <;> rfl
      all_goals exact Option.some.inj (h'.symm.trans h)
  | selectUpdate actor data =>
      simp only [Workers.next, Workers.written] at h' ⊢
      split at h'
      · split at h' <;> exact Option.some.inj (h'.symm.trans h)
      · exact Option.some.inj (h'.symm.trans h)
  | commitUpdate task env =>
      simp only [Workers.next, Workers.written] at h' ⊢
      generalize w.tasks[task]? = entry at h' ⊢
      rcases entry with _ | _ | ⟨actor, allowed, device⟩ | _
      case some.update =>
        simp only [device?_commitUpdate h, Option.some.injEq] at h'
        rw [← h']
        dsimp only
        cases committedColumns B env allowed device <;> rfl
      all_goals exact Option.some.inj (h'.symm.trans h)
  | deleteDevice actor env data =>
      simp only [Workers.next] at h'
      exact row_of_deletion h h' deleteDevice_tables_cases
  | deleteDevices actor env data =>
      simp only [Workers.next] at h'
      exact row_of_deletion h h' deleteDevices_tables_cases

/-! ## Primary keys -/

/-- The primary keys of the rows differ. -/
def Database.Keyed (db : Database) : Prop := (db.devices.map (·.id)).Nodup

theorem le_foldl_max {ids : List ℕ} {m : ℕ} :
    m ≤ ids.foldl max m ∧ ∀ i ∈ ids, i ≤ ids.foldl max m := by
  induction ids generalizing m with
  | nil => simp
  | cons j ids ih =>
      obtain ⟨hm, hmem⟩ := ih (m := max m j)
      rw [List.foldl_cons]
      refine ⟨by omega, fun i hi => ?_⟩
      rcases List.mem_cons.mp hi with rfl | hi
      · omega
      · exact hmem i hi

theorem Database.nextId_notMem {db : Database} :
    db.nextId ∉ db.devices.map (·.id) := by
  intro h
  have hle : db.nextId ≤ (db.devices.map (·.id)).foldl max 0 :=
    le_foldl_max.2 _ h
  rw [nextId] at hle
  omega

/-- A row is found under its primary key. -/
theorem Database.row?_of_mem {db : Database} (hkeys : db.Keyed)
    (h : row ∈ db.devices) : db.row? row.id = some row :=
  find?_of_nodup hkeys h

/-- Two rows with one primary key are the same. -/
theorem deviceId_eq_iff {db : Database} {device row : Device}
    (hkeyed : db.Keyed) (hdevice : device ∈ db.devices)
    (hrow : row ∈ db.devices) :
    device.deviceId = row.deviceId ↔ device.id = row.id := by
  constructor <;> intro h
  · have hfound := Database.device?_of_mem hdevice
    rw [h, Database.device?_of_mem hrow] at hfound
    rw [Option.some.inj hfound]
  · have hfound := Database.row?_of_mem hkeyed hdevice
    rw [h, Database.row?_of_mem hkeyed hrow] at hfound
    rw [Option.some.inj hfound]

theorem Database.Keyed.patch {db : Database} (h : db.Keyed) :
    (db.patch id columns).Keyed := by
  have hmap : (db.devices.map fun d =>
        if d.id = id then d.patch columns else d).map (·.id) =
      db.devices.map (·.id) := by
    rw [List.map_map]
    apply List.map_congr_left
    intro d _
    rw [Function.comp_apply]
    split <;> rfl
  rwa [Keyed, Database.patch, hmap]

theorem Database.Keyed.insert {db : Database} {request : DeviceAuthRequest}
    {env : ProcessEnv} {isAuthorized : Bool} (h : db.Keyed)
    (hnone : db.device? request.deviceId = none) :
    (db.insert (request.registerAs env isAuthorized db) hnone).Keyed := by
  change ((db.devices ++ [request.registerAs env isAuthorized db]).map
    (·.id)).Nodup
  rw [List.map_append, List.nodup_append]
  refine ⟨h, List.nodup_singleton _, ?_⟩
  rintro a ha b hb rfl
  rw [List.map_singleton, List.mem_singleton] at hb
  rw [hb] at ha
  exact Database.nextId_notMem ha

theorem keyed_of_deletion {actor : String} {loggedAt : ℕ → ℚ} {t' : Tables}
    (h : t.Keyed)
    (hdeletion : t' = t ∨ ∃ ids, t' = t.deleteDevices actor loggedAt ids) :
    t'.Keyed := by
  rcases hdeletion with rfl | ⟨ids, rfl⟩
  · exact h
  · exact h.sublist (List.filter_sublist.map _)

theorem keyed_advanceHeartbeat {request : DeviceAuthRequest}
    {env : ProcessEnv} {phase : HeartbeatPhase} (h : t.Keyed) :
    (advanceHeartbeat request env t phase).1.Keyed := by
  cases phase with
  | known device =>
      simp only [advanceHeartbeat]
      split
      · exact h
      · split
        · exact h.patch
        · exact h
  | unknown isAuthorized =>
      simp only [advanceHeartbeat]
      split
      next hnone => exact h.insert hnone
      · exact h
  | committed id =>
      simp only [advanceHeartbeat]
      split <;> exact h
  | refreshed device => exact h
  | replied data => exact h
  | failed => exact h

/-- Every event keeps the primary keys apart. -/
theorem keyed_next (h : w.tables.Keyed) : (w.next B e).tables.Keyed := by
  cases e with
  | select request => exact h
  | advance task env =>
      simp only [Workers.next]
      split
      · exact keyed_advanceHeartbeat h
      · exact h
  | selectUpdate actor data =>
      simp only [Workers.next]
      split
      · split <;> exact h
      · exact h
  | commitUpdate task env =>
      simp only [Workers.next]
      split
      · rw [commitUpdate]
        split
        · exact h
        · split
          · exact h.patch
          · exact h
      · exact h
  | deleteDevice actor env data =>
      simp only [Workers.next]
      exact keyed_of_deletion h deleteDevice_tables_cases
  | deleteDevices actor env data =>
      simp only [Workers.next]
      exact keyed_of_deletion h deleteDevices_tables_cases

/-! ## What an event does to one task -/

/-- Where a task comes from that stands at `i` after the event `e`. -/
inductive TaskStep (B : Backend) (w : Workers) (e : WorkerEvent α) (i : ℕ) :
    WorkerTask → Prop
  | kept {task : WorkerTask} : w.tasks[i]? = some task →
      (∀ env, e = .commitUpdate i env → ∀ actor allowed device,
        task ≠ .update actor allowed device) →
      TaskStep B w e i task
  | selected {request : DeviceAuthRequest} : e = .select request →
      TaskStep B w e i (.heartbeat request
        (selectHeartbeat request w.tables.toDatabase))
  | advanced {request : DeviceAuthRequest} {phase : HeartbeatPhase}
      {env : ProcessEnv} : e = .advance i env →
      w.tasks[i]? = some (.heartbeat request phase) →
      TaskStep B w e i (.heartbeat request
        (advanceHeartbeat request env w.tables phase).2)
  | updateSelected {actor deviceId : String} {data allowed : Dict String Json}
      {device : Device} : e = .selectUpdate actor data →
      i = w.tasks.length → updateRequest B data = .ok (deviceId, allowed) →
      w.tables.device? deviceId = some device →
      TaskStep B w e i (.update actor allowed device)
  | finished : TaskStep B w e i .finished

theorem getElem?_append_singleton {tasks : List WorkerTask}
    {task new : WorkerTask} {i : ℕ} (h : (tasks ++ [new])[i]? = some task) :
    tasks[i]? = some task ∨ i = tasks.length ∧ task = new := by
  rcases Nat.lt_trichotomy i tasks.length with hi | rfl | hi
  · rw [List.getElem?_append_left hi] at h
    exact Or.inl h
  · rw [List.getElem?_concat_length] at h
    exact Or.inr ⟨rfl, (Option.some.inj h).symm⟩
  · rw [List.getElem?_eq_none (by rw [List.length_append]; exact hi)] at h
    cases h

theorem getElem?_set_cases {tasks : List WorkerTask} {task new : WorkerTask}
    {i j : ℕ} (h : (tasks.set j new)[i]? = some task) :
    i = j ∧ task = new ∨ i ≠ j ∧ tasks[i]? = some task := by
  rw [List.getElem?_set] at h
  split at h
  next hij =>
    split at h
    · exact Or.inl ⟨hij.symm, (Option.some.inj h).symm⟩
    · cases h
  next hij => exact Or.inr ⟨Ne.symm hij, h⟩

theorem taskStep_next {i : ℕ} {task : WorkerTask}
    (h : (w.next B e).tasks[i]? = some task) : TaskStep B w e i task := by
  cases e with
  | select request =>
      rcases getElem?_append_singleton h with h | ⟨-, rfl⟩
      · exact .kept h (by simp)
      · exact .selected rfl
  | advance j env =>
      simp only [Workers.next] at h
      split at h
      next request phase hj =>
        rcases getElem?_set_cases h with ⟨rfl, rfl⟩ | ⟨-, h⟩
        · exact .advanced rfl hj
        · exact .kept h (by simp)
      · exact .kept h (by simp)
  | selectUpdate actor data =>
      simp only [Workers.next] at h
      split at h
      next deviceId allowed hrequest =>
        split at h
        next device hdevice =>
          rcases getElem?_append_singleton h with h | ⟨hi, rfl⟩
          · exact .kept h (by simp)
          · exact .updateSelected rfl hi hrequest hdevice
        · exact .kept h (by simp)
      · exact .kept h (by simp)
  | commitUpdate j env =>
      simp only [Workers.next] at h
      split at h
      next actor allowed device hj =>
        rcases getElem?_set_cases h with ⟨rfl, rfl⟩ | ⟨hij, h⟩
        · exact .finished
        · refine .kept h fun env' he => ?_
          cases he
          exact absurd rfl hij
      next hother =>
        refine .kept h fun env' he actor allowed device htask => ?_
        cases he
        exact hother actor allowed device (htask ▸ h)
  | deleteDevice actor env data =>
      simp only [Workers.next] at h
      exact .kept h (by simp)
  | deleteDevices actor env data =>
      simp only [Workers.next] at h
      exact .kept h (by simp)

/-! ## Requests that nothing comes between -/

/-- What a heartbeat writes is what it made of its copy. -/
theorem patch_columns {request : DeviceAuthRequest} {env : ProcessEnv}
    {device : Device} :
    device.patch (request.columns env device) = request.refresh env device := by
  simp only [Device.patch, DeviceAuthRequest.columns, DeviceAuthRequest.refresh,
    getD_changedTo, Option.getD_none, Option.getD_some, Device.mk.injEq,
    true_and, and_true]
  refine ⟨?_, ?_, ?_⟩
  · split <;> rfl
  · cases request.deviceInfo with
    | none => split <;> rfl
    | some info => split <;> rfl
  · split
    · exact getD_changedTo
    · rfl

theorem patch_eq_update {db : Database} {device : Device} {f : Device → Device}
    {hf : ∀ d, (f d).deviceId = d.deviceId} (hkeyed : db.Keyed)
    (hdevice : db.device? deviceId = some device)
    (hpatch : device.patch columns = f device) :
    db.patch device.id columns = db.update deviceId f hf := by
  simp only [Database.patch, Database.update, Database.mk.injEq, and_true]
  apply List.map_congr_left
  intro d hd
  have hmem := Database.mem_of_device? hdevice
  have hiff := deviceId_eq_iff hkeyed hd hmem
  rw [Database.deviceId_of_device? hdevice] at hiff
  by_cases hid : d.id = device.id
  · have hsame : d = device := by
      have hfound := Database.row?_of_mem hkeyed hd
      rw [hid, Database.row?_of_mem hkeyed hmem] at hfound
      exact (Option.some.inj hfound).symm
    rw [if_pos hid, if_pos (hiff.mpr hid), hsame, hpatch]
  · rw [if_neg hid, if_neg fun heq => hid (hiff.mp heq)]

theorem Database.patch_empty {db : Database} : db.patch id .empty = db := by
  have hmap : (db.devices.map fun d =>
      if d.id = id then d.patch .empty else d) = db.devices := by
    conv_rhs => rw [← List.map_id db.devices]
    apply List.map_congr_left
    intro d _
    split <;> rfl
  simp only [Database.patch, hmap]

theorem commit_uninterrupted (request : DeviceAuthRequest) (env : ProcessEnv)
    (hkeyed : t.Keyed) :
    (advanceHeartbeat request env t
        (selectHeartbeat request t.toDatabase)).1.toDatabase =
      (processDevice request env t.toDatabase).1 ∧
    (advanceHeartbeat request env t
        (selectHeartbeat request t.toDatabase)).2 =
      .committed (processDevice request env t.toDatabase).2.1.id := by
  rw [selectHeartbeat]
  cases hdevice : t.device? request.deviceId with
  | none =>
      rw [processDevice_of_none hdevice]
      simp only [advanceHeartbeat, hdevice, dite_true]
      exact ⟨rfl, rfl⟩
  | some device =>
      have hupdate : t.patch device.id (request.columns env device) =
          t.update request.deviceId (request.refresh env)
            (request.deviceId_refresh env) :=
        patch_eq_update hkeyed hdevice patch_columns
      have hrow := Database.row?_of_mem hkeyed (Database.mem_of_device? hdevice)
      rw [processDevice_of_some hdevice]
      simp only [advanceHeartbeat]
      split
      next hempty =>
        rw [hempty, Database.patch_empty] at hupdate
        exact ⟨hupdate, rfl⟩
      · rw [hrow]
        exact ⟨hupdate, rfl⟩

/-- The refresh loads the row of the device. -/
theorem advance_committed {request : DeviceAuthRequest} {env : ProcessEnv}
    (hkeyed : t.Keyed) (hdevice : t.device? deviceId = some row) :
    advanceHeartbeat request env t (.committed row.id) =
      (t, .refreshed row) := by
  simp only [advanceHeartbeat,
    Database.row?_of_mem hkeyed (Database.mem_of_device? hdevice)]

/-- **A heartbeat on its own** leaves the tables that `_process_device` leaves,
and loads the device it reports. -/
theorem heartbeat_uninterrupted {request : DeviceAuthRequest}
    {env : ProcessEnv} (hkeyed : t.Keyed) :
    ∃ t' : Tables, t'.toDatabase = (processDevice request env t.toDatabase).1 ∧
      advanceHeartbeat request env t (selectHeartbeat request t.toDatabase) =
        (t', .committed (processDevice request env t.toDatabase).2.1.id) ∧
      advanceHeartbeat request env t'
          (.committed (processDevice request env t.toDatabase).2.1.id) =
        (t', .refreshed (processDevice request env t.toDatabase).2.1) := by
  obtain ⟨htables, hphase⟩ := commit_uninterrupted request env hkeyed
  have hloaded := device?_processDevice request env t.toDatabase
  rw [← htables] at hloaded
  exact ⟨_, htables, Prod.ext rfl hphase,
    advance_committed (keyed_advanceHeartbeat hkeyed) hloaded⟩

/-- **An update on its own** leaves the tables that `update_device` leaves. -/
theorem update_uninterrupted {actor : String} {env : RequestEnv α}
    {data allowed : Dict String Json} (hkeyed : t.Keyed)
    (hrequest : updateRequest B data = .ok (deviceId, allowed))
    (hdevice : t.device? deviceId = some row) :
    commitUpdate B actor env allowed row t =
      (updateDevice B actor env data t).tables := by
  rw [commitUpdate, committedColumns]
  cases hcommit : env.commitError with
  | some message => simp only [updateDevice, hrequest, hdevice, hcommit]
  | none =>
      cases hremark : storedRemark B allowed with
      | error message =>
          simp only [updateDevice, hrequest, hdevice, hcommit, hremark]
      | ok remark =>
          have hrow := Database.row?_of_mem hkeyed
            (Database.mem_of_device? hdevice)
          have hpatch : t.patch row.id (updateColumns allowed remark env.now row) =
              t.update deviceId (Device.revise remark
                ((allowed.get "is_authorized").map Python.truthy) env.now)
                (Device.deviceId_revise _ _ _) :=
            patch_eq_update hkeyed hdevice (patch_updateColumns hremark)
          rw [updateDevice_tables hrequest hdevice hremark hcommit]
          simp only [hrow, Option.isSome_some, or_true, if_true, hpatch,
            Tables.reviseDevice, Database.deviceId_of_device? hdevice]

end

end PyAuth.Server
