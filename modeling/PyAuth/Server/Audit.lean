import PyAuth.Server.DeviceEvents

/-!
# Device changes are atomic and audited

Whatever an admin request asks for and whatever happens to the sends behind
it: it changes nothing, or one commit changes exactly the named rows and adds
one log for each of them.
-/

namespace PyAuth.Server

open Support

variable {α : Type} [DecidableEq α] {B : Backend} {actor : String}
  {env : RequestEnv α} {data : Dict String Json} {t t' : Tables}

/-! ## The ids of a request -/

theorem requestedIds_append (raw : List Json) (x : Json) :
    requestedIds B (raw ++ [x]) =
      if Python.strip (B.str x) ≠ "" ∧
          Python.strip (B.str x) ∉ requestedIds B raw then
        requestedIds B raw ++ [Python.strip (B.str x)]
      else requestedIds B raw := by
  simp only [requestedIds, List.foldl_append, List.foldl_cons,
    List.foldl_nil]
  exact if_congr Iff.rfl rfl rfl

theorem mem_requestedIds {raw : List Json} {id : String} :
    id ∈ requestedIds B raw ↔
      id ≠ "" ∧ ∃ x ∈ raw, Python.strip (B.str x) = id := by
  induction raw using List.reverseRecOn with
  | nil => simp [requestedIds]
  | append_singleton raw x ih =>
      rw [requestedIds_append]
      split
      next hnew =>
        rw [List.mem_append, ih, List.mem_singleton]
        constructor
        · rintro (⟨hne, y, hy, rfl⟩ | rfl)
          · exact ⟨hne, y, by simp [hy], rfl⟩
          · exact ⟨hnew.1, x, by simp, rfl⟩
        · rintro ⟨hne, y, hy, rfl⟩
          rcases List.mem_append.mp hy with hy | hy
          · exact Or.inl ⟨hne, y, hy, rfl⟩
          · obtain rfl := List.mem_singleton.mp hy
            exact Or.inr rfl
      next hold =>
        rw [ih]
        constructor
        · rintro ⟨hne, y, hy, rfl⟩
          exact ⟨hne, y, by simp [hy], rfl⟩
        · rintro ⟨hne, y, hy, rfl⟩
          rcases List.mem_append.mp hy with hy | hy
          · exact ⟨hne, y, hy, rfl⟩
          · obtain rfl := List.mem_singleton.mp hy
            by_contra hnone
            exact hold ⟨hne, fun hmem => hnone (ih.mp hmem)⟩

theorem nodup_requestedIds (raw : List Json) :
    (requestedIds B raw).Nodup := by
  induction raw using List.reverseRecOn with
  | nil => exact List.nodup_nil
  | append_singleton raw x ih =>
      rw [requestedIds_append]
      split
      next hnew =>
        rw [List.nodup_append]
        refine ⟨ih, List.nodup_singleton _, ?_⟩
        rintro a ha b hb rfl
        rw [List.mem_singleton.mp hb] at ha
        exact hnew.2 ha
      next => exact ih

/-- The values which a request gives as ids. -/
def requestedValues (data : Dict String Json) : List Json :=
  if data.get "type" = some (.str "delete_devices") then
    match getOr data "device_ids" .null with
    | .arr raw => raw
    | _ => []
  else [getOr data "device_id" (.str "")]

/-- The ids that a request names, trimmed, without duplicates and blanks. -/
def namedIds (B : Backend) (data : Dict String Json) : List String :=
  requestedIds B (requestedValues data)

theorem requestedIds_singleton (h : targetId B data ≠ "") :
    requestedIds B [getOr data "device_id" (.str "")] = [targetId B data] := by
  have := requestedIds_append (B := B) [] (getOr data "device_id" (.str ""))
  rw [List.nil_append] at this
  rw [this, if_pos ⟨h, by simp [requestedIds]⟩, targetId]
  simp [requestedIds]

/-! ## Commits -/

/-- The ids which a message reports as removed. -/
def AdminReply.removedIds : AdminReply → Option (List String)
  | .deviceDeleted _ deviceId => some [deviceId]
  | .devicesDeleted _ deviceIds _ => some deviceIds
  | _ => none

/-- An update names these values: the remark as it is stored, and whether the
device is authorised. -/
def NamedFields (B : Backend) (data : Dict String Json)
    (remark : Option (Option String)) (isAuthorized : Option Bool) : Prop :=
  ∃ update, (getOr data "data" .null).dict? = some update ∧
    isAuthorized = (update.get "is_authorized").map Python.truthy ∧
    match update.get "remark" with
    | none => remark = none
    | some v => ∃ stored, B.text v = .ok stored ∧ remark = some stored

/-- One commit changed exactly the rows with the ids, and added one log for
each of them. -/
structure Committed (B : Backend) (actor : String) (env : RequestEnv α)
    (data : Dict String Json) (t t' : Tables) : Prop where
  devices :
    if data.get "type" = some (.str "update_device") then
      ∃ remark isAuthorized, NamedFields B data remark isAuthorized ∧
        t'.devices = t.devices.map fun d =>
          if d.deviceId ∈ namedIds B data then
            d.revise remark isAuthorized env.now
          else d
    else
      t'.devices = t.devices.filter fun d => d.deviceId ∉ namedIds B data
  config : t'.config = t.config
  logs : ∃ logs, t'.operationLogs = t.operationLogs ++ logs ∧
    (logs.map fun log => (log.username, log.action, log.targetId)).Perm
      ((t.named (namedIds B data)).map fun d =>
        (actor,
          if data.get "type" = some (.str "update_device") then "update_device"
          else "delete_device", some d.deviceId))

/-- A request changed nothing and reports nothing, or made its commit and
reports exactly the rows it removed. -/
def Atomic (B : Backend) (actor : String) (env : RequestEnv α)
    (data : Dict String Json) (t t' : Tables) (replies : List AdminReply) :
    Prop :=
  (t' = t ∧ ∀ reply ∈ replies, reply.removedIds = none) ∨
    Committed B actor env data t t' ∧
      ∀ reply ∈ replies, ∀ ids, reply.removedIds = some ids →
        ids.Perm ((t.named (namedIds B data)).map (·.deviceId))

/-! ## Attempts -/

section Attempt

variable {fallback message : String} {payload : AdminReply}

theorem atomic_of_unchanged :
    Atomic B actor env data t
      ((⟨t, [], some message⟩ : Attempt).guarded env data fallback).tables
      ((⟨t, [], some message⟩ : Attempt).guarded env data
        fallback).replies := by
  refine Or.inl ⟨tables_guarded _, fun reply h => ?_⟩
  rcases mem_replies_guarded h with h | ⟨text, rfl⟩
  · simp at h
  · rfl

/-- What is sent after a commit does not touch the tables. -/
theorem atomic_of_committed {attempt : Attempt}
    (h : Committed B actor env data t attempt.tables)
    (hreplies : ∀ reply ∈ attempt.replies, ∀ ids,
      reply.removedIds = some ids →
      ids.Perm ((t.named (namedIds B data)).map (·.deviceId))) :
    Atomic B actor env data t
      (attempt.guarded env data fallback).tables
      (attempt.guarded env data fallback).replies := by
  refine Or.inr ⟨by rwa [tables_guarded], fun reply hreply ids hids => ?_⟩
  rcases mem_replies_guarded hreply with hmem | ⟨text, rfl⟩
  · exact hreplies reply hmem ids hids
  · contradiction

/-- A commit is announced by one message. -/
theorem atomic_announce {t' : Tables} (h : Committed B actor env data t t')
    (hpayload : ∀ ids, payload.removedIds = some ids →
      ids.Perm ((t.named (namedIds B data)).map (·.deviceId))) :
    Atomic B actor env data t
      ((announce env t' payload).guarded env data fallback).tables
      ((announce env t' payload).guarded env data fallback).replies := by
  apply atomic_of_committed
  · rwa [announce_spec.1]
  · intro reply hreply ids hids
    rw [announce_spec.2 reply hreply] at hids
    exact hpayload ids hids

end Attempt

/-! ## `update_device` -/

theorem get_allowedFields (update : Dict String Json) :
    (allowedFields update).get "remark" = update.get "remark" ∧
      (allowedFields update).get "is_authorized" =
        update.get "is_authorized" := by
  simp only [allowedFields, Dict.get_ofList]
  cases hremark : update.get "remark" <;>
    cases hauthorized : update.get "is_authorized" <;>
      simp [hremark, hauthorized, Dict.lookup_cons_eq]

/-- A valid update names what it changes. -/
theorem updateRequest_eq_ok {deviceId : String} {allowed : Dict String Json}
    (h : updateRequest B data = .ok (deviceId, allowed)) :
    deviceId = targetId B data ∧ targetId B data ≠ "" ∧
      ∃ update, (getOr data "data" .null).dict? = some update ∧
        allowed = allowedFields update := by
  rw [updateRequest] at h
  split at h
  · cases h
  next hid =>
    dsimp only at h
    split at h
    · cases h
    next update hupdate =>
      split at h
      · cases h
      next hallowed =>
        simp only [Except.ok.injEq, Prod.mk.injEq] at h
        obtain ⟨rfl, rfl⟩ := h
        refine ⟨rfl, hid, update, ?_, rfl⟩
        split at hupdate
        · exact hupdate
        · obtain rfl := Option.some.inj hupdate
          exact absurd (by decide) hallowed

theorem namedFields_of_storedRemark {update : Dict String Json}
    {remark : Option (Option String)}
    (hupdate : (getOr data "data" .null).dict? = some update)
    (hremark : storedRemark B (allowedFields update) = .ok remark) :
    NamedFields B data remark
      (((allowedFields update).get "is_authorized").map Python.truthy) := by
  obtain ⟨hget, hget'⟩ := get_allowedFields update
  refine ⟨update, hupdate, by rw [hget'], ?_⟩
  rw [storedRemark, hget] at hremark
  cases hv : update.get "remark" with
  | none =>
      simp only [hv, Except.ok.injEq] at hremark
      exact hremark.symm
  | some v =>
      simp only [hv] at hremark
      dsimp only
      cases htext : B.text v with
      | error message => simp [htext, Except.map] at hremark
      | ok stored =>
          simp only [htext, Except.map, Except.ok.injEq] at hremark
          exact ⟨stored, rfl, hremark.symm⟩

/-- A request about one device names its id, if it is not blank. -/
theorem namedIds_of_target (hid : targetId B data ≠ "")
    (htype : data.get "type" ≠ some (.str "delete_devices")) :
    namedIds B data = [targetId B data] := by
  rw [namedIds, requestedValues, if_neg htype, requestedIds_singleton hid]

theorem committed_reviseDevice {allowed : Dict String Json}
    {remark : Option (Option String)} {device : Device}
    (htype : data.get "type" = some (.str "update_device"))
    (hid : targetId B data ≠ "")
    (hdevice : t.device? (targetId B data) = some device)
    (hnamed : NamedFields B data remark
      ((allowed.get "is_authorized").map Python.truthy)) :
    Committed B actor env data t
      (t.reviseDevice actor env allowed remark device) := by
  have hids : namedIds B data = [targetId B data] :=
    namedIds_of_target hid (by simp [htype])
  have hdeviceId := Database.deviceId_of_device? hdevice
  refine ⟨?_, rfl, _, rfl, ?_⟩
  · rw [if_pos htype]
    refine ⟨_, _, hnamed, ?_⟩
    simp only [Tables.reviseDevice, Database.update, hids, List.mem_singleton,
      hdeviceId]
  · rw [Tables.map_newLogs, hids, Database.named_singleton, hdevice,
      if_pos htype]
    exact List.Perm.refl _

theorem atomic_updateDevice {fallback : String}
    (htype : data.get "type" = some (.str "update_device")) :
    Atomic B actor env data t
      ((updateDevice B actor env data t).guarded env data fallback).tables
      ((updateDevice B actor env data t).guarded env data
        fallback).replies := by
  rw [updateDevice]
  cases hrequest : updateRequest B data with
  | error message => exact atomic_of_unchanged
  | ok request =>
      obtain ⟨deviceId, allowed⟩ := request
      obtain ⟨rfl, hid, update, hupdate, rfl⟩ := updateRequest_eq_ok hrequest
      dsimp only
      cases hdevice : t.device? (targetId B data) with
      | none => exact atomic_of_unchanged
      | some device =>
          cases hcommit : env.commitError with
          | some message => exact atomic_of_unchanged
          | none =>
              cases hremark : storedRemark B (allowedFields update) with
              | error message => exact atomic_of_unchanged
              | ok remark =>
                  have hcommitted : Committed B actor env data t
                      (t.reviseDevice actor env (allowedFields update) remark
                        device) :=
                    committed_reviseDevice htype hid hdevice
                      (namedFields_of_storedRemark hupdate hremark)
                  dsimp only
                  split
                  · apply atomic_announce hcommitted
                    intro ids hids
                    cases hids
                  · exact atomic_of_committed hcommitted (by simp)

/-! ## The deletions -/

theorem committed_deleteDevices {ids : List String}
    (htype : data.get "type" ≠ some (.str "update_device"))
    (hids : ids.Perm ((t.named (namedIds B data)).map (·.deviceId))) :
    Committed B actor env data t
      (t.deleteDevices actor env.loggedAt ids) := by
  refine ⟨?_, rfl, _, rfl, ?_⟩
  · rw [if_neg htype]
    apply List.filter_congr
    intro d hd
    have hmem : d.deviceId ∈ ids ↔ d.deviceId ∈ namedIds B data := by
      rw [hids.mem_iff, Database.named, List.mem_map]
      constructor
      · rintro ⟨d', hd', heq⟩
        rw [← heq]
        simpa using (List.mem_filter.mp hd').2
      · intro h
        exact ⟨d, List.mem_filter.mpr ⟨hd, by simpa using h⟩, rfl⟩
    simp only [hmem]
  · rw [Tables.map_newLogs, if_neg htype]
    have hmap := hids.map fun id => (actor, "delete_device", some id)
    rwa [List.map_map] at hmap

theorem atomic_deleteDevice {fallback : String}
    (htype : data.get "type" = some (.str "delete_device")) :
    Atomic B actor env data t
      ((deleteDevice B actor env data t).guarded env data fallback).tables
      ((deleteDevice B actor env data t).guarded env data
        fallback).replies := by
  rw [deleteDevice]
  by_cases hid : targetId B data = ""
  · rw [if_pos hid]
    exact atomic_of_unchanged
  by_cases hnamed : t.named [targetId B data] = []
  · rw [if_neg hid, if_pos hnamed]
    exact atomic_of_unchanged
  rw [if_neg hid, if_neg hnamed]
  cases hcommit : env.commitError with
  | some message => exact atomic_of_unchanged
  | none =>
      have hids : [targetId B data].Perm
          ((t.named (namedIds B data)).map (·.deviceId)) := by
        rw [namedIds_of_target hid (by simp [htype]), Database.named_singleton]
        rw [Database.named_singleton] at hnamed
        cases hdevice : t.device? (targetId B data) with
        | none => simp [hdevice] at hnamed
        | some device =>
            rw [← Database.deviceId_of_device? hdevice]
            exact List.Perm.refl _
      dsimp only
      apply atomic_announce (committed_deleteDevices (by simp [htype]) hids)
      intro ids heq
      obtain rfl := Option.some.inj heq
      exact hids

theorem deleteRequest_eq_ok {ids : List String}
    (htype : data.get "type" = some (.str "delete_devices"))
    (h : deleteRequest B data = .ok ids) :
    ids = namedIds B data ∧ ids.length ≤ 200 := by
  rw [deleteRequest] at h
  rw [namedIds, requestedValues, if_pos htype]
  cases hraw : getOr data "device_ids" .null with
  | arr raw =>
      simp only [hraw] at h
      split at h
      · cases h
      · split at h
        · cases h
        next hlength =>
          obtain rfl := Except.ok.inj h
          exact ⟨rfl, Nat.le_of_not_lt hlength⟩
  | null | bool | int | float | str | obj =>
      simp only [hraw] at h
      cases h

theorem atomic_deleteDevices {fallback : String}
    (htype : data.get "type" = some (.str "delete_devices")) :
    Atomic B actor env data t
      ((deleteDevices B actor env data t).guarded env data fallback).tables
      ((deleteDevices B actor env data t).guarded env data
        fallback).replies := by
  rw [deleteDevices]
  cases hrequest : deleteRequest B data with
  | error message => exact atomic_of_unchanged
  | ok deviceIds =>
      obtain ⟨rfl, -⟩ := deleteRequest_eq_ok htype hrequest
      have hids : (existingIds B t (namedIds B data)).Perm
          ((t.named (namedIds B data)).map (·.deviceId)) :=
        (B.scan_perm _).map _
      dsimp only
      split
      · exact atomic_of_unchanged
      · cases hcommit : env.commitError with
        | some message => exact atomic_of_unchanged
        | none =>
            apply atomic_announce
              (committed_deleteDevices (by simp [htype]) hids)
            intro ids heq
            obtain rfl := Option.some.inj heq
            exact hids

/-- A batch of more than 200 ids is refused. -/
theorem deleteDevices_of_many
    (htype : data.get "type" = some (.str "delete_devices"))
    (hmany : 200 < (namedIds B data).length) :
    (deleteDevices B actor env data t).tables = t := by
  rw [deleteDevices]
  cases hrequest : deleteRequest B data with
  | error message => rfl
  | ok ids =>
      obtain ⟨rfl, hfew⟩ := deleteRequest_eq_ok htype hrequest
      omega

/-! ## All requests -/

/-- **Device changes are atomic and audited.**  A request that changes devices
leaves the tables as they are, or makes one commit that changes exactly the
rows it names and adds one log for each of them; the deletions report exactly
the ids they removed, and a batch of more than 200 ids changes nothing.  The
ids it names are the trimmed and non-blank ones, each of them once. -/
theorem device_changes_atomic_and_audited {document : Json}
    (hdata : document.dict? = some data)
    (htype : data.get "type" ∈ [some (Json.str "update_device"),
      some (.str "delete_device"), some (.str "delete_devices")]) :
    Atomic B actor env data t
        (deviceEvents B actor env (some document) t).tables
        (deviceEvents B actor env (some document) t).replies ∧
      (data.get "type" = some (.str "delete_devices") →
        200 < (namedIds B data).length →
        (deviceEvents B actor env (some document) t).tables = t) ∧
      (namedIds B data).Nodup ∧
      ∀ id, id ∈ namedIds B data ↔
        id ≠ "" ∧ ∃ x ∈ requestedValues data, Python.strip (B.str x) = id := by
  rw [← and_assoc]
  refine ⟨?_, nodup_requestedIds _, fun id => mem_requestedIds⟩
  rw [deviceEvents]
  simp only [hdata]
  simp only [List.mem_cons, List.not_mem_nil, or_false] at htype
  rcases htype with h | h | h
  · simp only [h, Option.some.injEq, Json.str.injEq, String.reduceEq, if_false,
      if_true, false_imp_iff, and_true]
    exact atomic_updateDevice h
  · simp only [h, Option.some.injEq, Json.str.injEq, String.reduceEq, if_false,
      if_true, false_imp_iff, and_true]
    exact atomic_deleteDevice h
  · simp only [h, Option.some.injEq, Json.str.injEq, String.reduceEq, if_false,
      if_true, true_imp_iff]
    refine ⟨atomic_deleteDevices h, fun hmany => ?_⟩
    rw [tables_guarded]
    exact deleteDevices_of_many h hmany

/-- Three spellings of one id, and a blank one. -/
def exampleBatch : Dict String Json :=
  .ofList [("type", .str "delete_devices"),
    ("device_ids", .arr [.str "D", .str " D ", .str " ", .str "D"])]

theorem device_changes_atomic_and_audited_batch :
    Atomic .plain "admin" (.quiet quietBroadcast) exampleBatch (oneDevice "D")
        (deviceEvents .plain "admin" (.quiet quietBroadcast)
          (some (.ofDict exampleBatch)) (oneDevice "D")).tables
        (deviceEvents .plain "admin" (.quiet quietBroadcast)
          (some (.ofDict exampleBatch)) (oneDevice "D")).replies ∧
      (exampleBatch.get "type" = some (.str "delete_devices") →
        200 < (namedIds .plain exampleBatch).length →
        (deviceEvents .plain "admin" (.quiet quietBroadcast)
          (some (.ofDict exampleBatch)) (oneDevice "D")).tables =
            oneDevice "D") ∧
      (namedIds .plain exampleBatch).Nodup ∧
      ∀ id, id ∈ namedIds .plain exampleBatch ↔
        id ≠ "" ∧ ∃ x ∈ requestedValues exampleBatch,
          Python.strip (Backend.plain.str x) = id :=
  device_changes_atomic_and_audited (Json.dict?_ofDict _) (by decide)

/-- The device is removed once, and one log says so. -/
example :
    (deviceEvents .plain "admin" (.quiet quietBroadcast)
      (some (.ofDict exampleBatch)) (oneDevice "D")).replies =
        [.devicesDeleted .null ["D"] 1] := by
  decide +kernel

end PyAuth.Server
