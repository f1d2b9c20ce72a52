import Mathlib.Tactic.IntervalCases
import PyAuth.Server.Events

/-!
# How device records evolve

From its registration to its deletion a row changes only as documented:
heartbeats and admin updates write disjoint fields, and nothing a device sends
reaches its authorisation.
-/

namespace PyAuth.Server

open Support

variable {κ α : Type} [DecidableEq α] (T : Transport κ) (clientSecret : String)
  (B : Backend)

/-- The tables after the first `k` events. -/
def tablesAt (e : ℕ → ServerEvent κ α) (t : Tables) : ℕ → Tables :=
  statesAt (fun t e => e.handle T clientSecret B t) e t

/-- The device is registered by event `i` and not deleted before time `n`; at
time `k` its row is `row k`. -/
structure Lifetime (t : ℕ → Tables) (deviceId : String) (i n : ℕ)
    (row : ℕ → Device) : Prop where
  lt : i < n
  absent : (t i).device? deviceId = none
  present : ∀ k, i < k → k ≤ n → (t k).device? deviceId = some (row k)

/-- The time at which an event changes the row as far as `updated_at` tells. -/
def ServerEvent.touchedAt (e : ServerEvent κ α) (device : Device) : Option ℚ :=
  match e.updateOf B device.deviceId with
  | some update => some update.now
  | none =>
      match e.heartbeatOf T clientSecret device.deviceId with
      | some (request, env) =>
          if request.changesName device || request.changesInfo device then
            some env.changedAt
          else none
      | none => none

/-- What the documentation says about the row at time `k` of a device which
event `i` registered. -/
structure Documented (e : ℕ → ServerEvent κ α) (t : ℕ → Tables)
    (deviceId : String) (i : ℕ) (env : ProcessEnv) (row : ℕ → Device)
    (k : ℕ) : Prop where
  createdAt : (row k).createdAt = env.createdAt
  isAuthorized : LastWrite
    (fun j => ((e j).updateOf B deviceId).bind (·.isAuthorized)) (i + 1) k
    (t i).defaultAuthorization (row k).isAuthorized
  remark : LastWrite
    (fun j => ((e j).updateOf B deviceId).bind (·.remark)) (i + 1) k
    none (row k).remark
  lastCheck : LastWrite
    (fun j => ((e j).heartbeatOf T clientSecret deviceId).map fun heartbeat =>
      some heartbeat.2.checkedAt) (i + 1) k
    (some env.checkedAt) (row k).lastCheck
  updatedAt : LastWrite
    (fun j => (e j).touchedAt T clientSecret B (row j)) (i + 1) k
    env.updatedAt (row k).updatedAt

/-- A heartbeat is answered with the stored authorisation, unless it is
refused or cannot be announced. -/
structure ReportsStored (broadcast : BroadcastEnv α) (body : Body κ)
    (t : Tables) (response : Response κ) : Prop where
  reports : ∀ token, response.token? = some token →
    ∃ request device, heartbeatRequest T clientSecret body = some request ∧
      t.device? request.deviceId = some device ∧
      T.decrypt clientSecret token = some (responseData device)
  answers : ∀ request, heartbeatRequest T clientSecret body = some request →
    broadcast.status ≠ .raised → (response.token?).isSome

variable {T clientSecret B}

/-! ## The fields of a row -/

namespace ServerEvent

variable {e : ServerEvent κ α} {device : Device}

theorem createdAt_evolve :
    (e.evolve T clientSecret B device).createdAt = device.createdAt := by
  rw [evolve]
  cases e.updateOf B device.deviceId with
  | some update => rfl
  | none => cases e.heartbeatOf T clientSecret device.deviceId <;> rfl

/-- Only an update that names it changes the authorisation. -/
theorem isAuthorized_evolve :
    (e.evolve T clientSecret B device).isAuthorized =
      ((e.updateOf B device.deviceId).bind (·.isAuthorized)).getD
        device.isAuthorized := by
  rw [evolve]
  cases e.updateOf B device.deviceId with
  | some update => rfl
  | none => cases e.heartbeatOf T clientSecret device.deviceId <;> rfl

/-- Only an update that names it changes the remark. -/
theorem remark_evolve :
    (e.evolve T clientSecret B device).remark =
      ((e.updateOf B device.deviceId).bind (·.remark)).getD
        device.remark := by
  rw [evolve]
  cases e.updateOf B device.deviceId with
  | some update => rfl
  | none => cases e.heartbeatOf T clientSecret device.deviceId <;> rfl

/-- No event is both an update and a heartbeat. -/
theorem heartbeatOf_of_updateOf {deviceId : String} {update : DeviceUpdate}
    (h : e.updateOf B deviceId = some update) :
    e.heartbeatOf T clientSecret deviceId = none := by
  cases e with
  | heartbeat salt env broadcast body => cases h
  | admin actor env message => rfl
  | updateConfigs username loggedAt commitFails configs => rfl

theorem lastCheck_evolve :
    (e.evolve T clientSecret B device).lastCheck =
      ((e.heartbeatOf T clientSecret device.deviceId).map fun heartbeat =>
        some heartbeat.2.checkedAt).getD device.lastCheck := by
  rw [evolve]
  cases hupdate : e.updateOf B device.deviceId with
  | some update =>
      rw [heartbeatOf_of_updateOf hupdate]
      rfl
  | none => cases e.heartbeatOf T clientSecret device.deviceId <;> rfl

theorem updatedAt_evolve :
    (e.evolve T clientSecret B device).updatedAt =
      (e.touchedAt T clientSecret B device).getD device.updatedAt := by
  rw [evolve, touchedAt]
  cases e.updateOf B device.deviceId with
  | some update => rfl
  | none =>
      cases e.heartbeatOf T clientSecret device.deviceId with
      | none => rfl
      | some heartbeat =>
          obtain ⟨request, env⟩ := heartbeat
          dsimp only [DeviceAuthRequest.refresh]
          split <;> rfl

end ServerEvent

/-! ## Lifetimes -/

section Lifetime

variable {e : ℕ → ServerEvent κ α} {t₀ : Tables} {deviceId : String}
  {i n k : ℕ} {row : ℕ → Device}

/-- Between its registration and its deletion the row evolves. -/
theorem Lifetime.row_succ
    (h : Lifetime (tablesAt T clientSecret B e t₀) deviceId i n row)
    (hik : i < k) (hkn : k < n) :
    row (k + 1) = (e k).evolve T clientSecret B (row k) := by
  have hnext := h.present (k + 1) (by omega) hkn
  rcases ServerEvent.device?_handle_of_some (T := T) (B := B) (e := e k)
      (h.present k hik hkn.le) with hrow | hrow
  · cases hrow.symm.trans hnext
  · exact Option.some.inj (hnext.symm.trans hrow)

theorem Lifetime.registered
    (h : Lifetime (tablesAt T clientSecret B e t₀) deviceId i n row) :
    ∃ request env, (e i).heartbeatOf T clientSecret deviceId =
        some (request, env) ∧
      row (i + 1) = request.register env
        (tablesAt T clientSecret B e t₀ i).toDatabase := by
  have hnext := h.present (i + 1) (by omega) h.lt
  rcases ServerEvent.device?_handle_of_none (T := T) (B := B) (e := e i)
      h.absent with hrow | ⟨request, env, hheartbeat, hrow⟩
  · cases hrow.symm.trans hnext
  · exact ⟨request, env, hheartbeat,
      Option.some.inj (hnext.symm.trans hrow)⟩

theorem Lifetime.deviceId_row {t : ℕ → Tables}
    (h : Lifetime t deviceId i n row) (hik : i < k) (hkn : k ≤ n) :
    (row k).deviceId = deviceId :=
  Database.deviceId_of_device? (h.present k hik hkn)

/-- A field that every event overwrites or keeps is the one written last. -/
theorem Lifetime.lastWrite {β : Type} {f : Device → β} {w : ℕ → Option β}
    (h : Lifetime (tablesAt T clientSecret B e t₀) deviceId i n row)
    (hevolve : ∀ j, (row j).deviceId = deviceId →
      f ((e j).evolve T clientSecret B (row j)) = (w j).getD (f (row j)))
    (hik : i < k) (hkn : k ≤ n) :
    LastWrite w (i + 1) k (f (row (i + 1))) (f (row k)) := by
  refine LastWrite.of_steps (x := fun j => f (row j)) hik fun j hij hjk => ?_
  have hid : (row j).deviceId = deviceId := h.deviceId_row hij (by omega)
  rw [h.row_succ hij (by omega), hevolve j hid]

/-- The row stays as documented from its registration on. -/
theorem Lifetime.documented {request : DeviceAuthRequest} {env : ProcessEnv}
    (h : Lifetime (tablesAt T clientSecret B e t₀) deviceId i n row)
    (hrow : row (i + 1) = request.register env
      (tablesAt T clientSecret B e t₀ i).toDatabase)
    (hik : i < k) (hkn : k ≤ n) :
    Documented T clientSecret B e (tablesAt T clientSecret B e t₀) deviceId i
      env row k := by
  have hcreated : LastWrite (fun _ => none) (i + 1) k
      (row (i + 1)).createdAt (row k).createdAt :=
    h.lastWrite (fun j _ => ServerEvent.createdAt_evolve) hik hkn
  have hauthorized := h.lastWrite (f := (·.isAuthorized))
    (fun j hid => by rw [ServerEvent.isAuthorized_evolve, hid]) hik hkn
  have hremark := h.lastWrite (f := (·.remark))
    (fun j hid => by rw [ServerEvent.remark_evolve, hid]) hik hkn
  have hchecked := h.lastWrite (f := (·.lastCheck))
    (fun j hid => by rw [ServerEvent.lastCheck_evolve, hid]) hik hkn
  have hupdated := h.lastWrite (f := (·.updatedAt))
    (fun j _ => ServerEvent.updatedAt_evolve) hik hkn
  rw [hrow] at hcreated hauthorized hremark hchecked hupdated
  refine ⟨?_, hauthorized, hremark, hchecked, hupdated⟩
  generalize (row k).createdAt = createdAt at hcreated
  cases hcreated with
  | initial => rfl
  | written _ _ hw => cases hw

end Lifetime

/-! ## All runs -/

/-- A reply tells the authorisation which is stored after the heartbeat. -/
theorem reportsStored {salt : ℕ} {env : ProcessEnv}
    {broadcast : BroadcastEnv α} {body : Body κ} {t : Tables} :
    ReportsStored T clientSecret broadcast body
      (announcedHeartbeat T clientSecret salt env broadcast body t).1
      (announcedHeartbeat T clientSecret salt env broadcast body t).2 := by
  rw [announcedHeartbeat]
  cases hrequest : heartbeatRequest T clientSecret body with
  | none =>
      have htoken : (heartbeat T clientSecret salt env body
          t.toDatabase).2.token? = none := (heartbeat_of_refused hrequest).2
      constructor
      · intro token h
        simp [htoken] at h
      · intro request h
        cases hrequest.symm.trans h
  | some request =>
      rw [heartbeat_of_heartbeatRequest hrequest]
      dsimp only
      constructor
      · intro token h
        split at h
        · cases h
        · obtain rfl := Option.some.inj h
          exact ⟨request, _, hrequest, device?_processDevice _ _ _,
            T.decrypt_encrypt _ _ _⟩
      · intro _ _ hbroadcast
        simp [hbroadcast, Response.token?]

/-- **Device records evolve as documented.**  Whatever heartbeats, messages of
the admin pages and changes of the configuration the server handles: from the
registration of a device to its deletion its `created_at` stays, its
`is_authorized` and `remark` are those of the last update that names them, its
`last_check` is the time of its last heartbeat, its `updated_at` is the time
of the last change of the record, and every reply tells the stored
`is_authorized`. -/
theorem device_records_evolve_as_documented (e : ℕ → ServerEvent κ α)
    (t₀ : Tables) :
    (∀ deviceId i n row,
      Lifetime (tablesAt T clientSecret B e t₀) deviceId i n row →
      ∃ request env,
        (e i).heartbeatOf T clientSecret deviceId = some (request, env) ∧
        ∀ k, i < k → k ≤ n →
          Documented T clientSecret B e (tablesAt T clientSecret B e t₀)
            deviceId i env row k) ∧
    ∀ k salt env broadcast body,
      e k = .heartbeat salt env broadcast body →
      ReportsStored T clientSecret broadcast body
        (tablesAt T clientSecret B e t₀ (k + 1))
        (announcedHeartbeat T clientSecret salt env broadcast body
          (tablesAt T clientSecret B e t₀ k)).2 := by
  refine ⟨fun deviceId i n row h => ?_, fun k salt env broadcast body he => ?_⟩
  · obtain ⟨request, env, hheartbeat, hrow⟩ := h.registered
    exact ⟨request, env, hheartbeat, fun k hik hkn =>
      h.documented hrow hik hkn⟩
  · rw [tablesAt, statesAt, he]
    exact reportsStored

/-! ## A device which claims to be authorised -/

/-- The heartbeat of a device which claims to be authorised. -/
def claimingHeartbeat (checkedAt : ℚ) : ServerEvent (String × ℕ × Json) String :=
  .heartbeat 0 ⟨checkedAt, checkedAt, checkedAt, checkedAt⟩ quietBroadcast
    (.encrypted ("secret", 0, .obj [("device_id", .str "D"),
      ("software_name", .str "editor"), ("device_info", .obj []),
      ("is_authorized", .bool true)]))

/-- The device is registered and disabled, the default is changed, and the
device is heard again. -/
def exampleEvents : ℕ → ServerEvent (String × ℕ × Json) String
  | 0 => claimingHeartbeat 100
  | 1 => .admin "admin" (.quiet quietBroadcast)
      (some (.ofDict (exampleUpdate "D")))
  | 2 => .updateConfigs "admin" 300 false
      (.ofList [("default_authorization", .bool true)])
  | _ => claimingHeartbeat 400

def exampleTables : ℕ → Tables :=
  tablesAt .symbolic "secret" .plain exampleEvents emptyTables

def exampleRow (k : ℕ) : Device :=
  ((exampleTables k).device? "D").getD (registeredDevice "D")

theorem device_records_evolve_as_documented_claiming :
    ∃ request env, (exampleEvents 0).heartbeatOf .symbolic "secret" "D" =
        some (request, env) ∧
      ∀ k, 0 < k → k ≤ 4 →
        Documented .symbolic "secret" .plain exampleEvents exampleTables "D" 0
          env exampleRow k := by
  refine (device_records_evolve_as_documented exampleEvents emptyTables).1
    "D" 0 4 exampleRow ⟨by decide, by decide +kernel, fun k hk hk' => ?_⟩
  interval_cases k <;> decide +kernel

/-- What the device claims has no effect. -/
example :
    (exampleRow 4).isAuthorized = false ∧ (exampleRow 4).updatedAt = 200 ∧
      (exampleRow 4).lastCheck = some 400 := by
  decide +kernel

end PyAuth.Server
