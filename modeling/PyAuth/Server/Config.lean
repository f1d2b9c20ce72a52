import PyAuth.Server.History

/-!
# The default authorisation

What administrators see and set as the default, what a new device receives,
and what the same value grants to a device which is already known.
-/

namespace PyAuth.Server

open Support

/-- `get_configs`. -/
def getConfigs (db : Database) : Dict String Json :=
  match db.config.get "default_authorization" with
  | none => .ofList [("default_authorization", .bool true)]
  | some value =>
      .ofList [("default_authorization", .bool (coerceBoolish value false))]

/-! ## What can be stored -/

/-- The stored default is missing or a boolean. -/
def Database.StoresBool (db : Database) : Prop :=
  ∀ value, db.config.get "default_authorization" = some value →
    ∃ b, value = .bool b

theorem Database.StoresBool.getConfigs_eq {db : Database}
    (h : db.StoresBool) :
    getConfigs db =
      .ofList [("default_authorization", .bool db.defaultAuthorization)] := by
  rw [getConfigs, Database.defaultAuthorization]
  cases hget : db.config.get "default_authorization" with
  | none => rfl
  | some value =>
      obtain ⟨b, rfl⟩ := h value hget
      rfl

theorem filterMap_default {es : List (String × Json)}
    (hes : (es.map Prod.fst).Nodup) :
    (es.filterMap fun e =>
        if e.1 = "default_authorization" then
          some (e.1, Json.bool (coerceBoolish e.2 false))
        else none) =
      ((es.lookup "default_authorization").map fun value =>
        ("default_authorization",
          Json.bool (coerceBoolish value false))).toList := by
  induction es with
  | nil => rfl
  | cons e es ih =>
      obtain ⟨k, value⟩ := e
      rw [List.map_cons, List.nodup_cons] at hes
      rw [List.filterMap_cons, Dict.lookup_cons_eq, ih hes.2]
      by_cases hk : k = "default_authorization"
      · subst hk
        rw [Dict.lookup_eq_none_of_notMem hes.1]
        rfl
      · simp [hk, Ne.symm hk]

/-- Of a change of the configuration only the default is stored, as a
boolean. -/
theorem normalizedConfigs_eq (configs : Dict String Json) :
    normalizedConfigs configs =
      .ofList ((configs.get "default_authorization").map fun value =>
        ("default_authorization",
          Json.bool (coerceBoolish value false))).toList := by
  rw [normalizedConfigs, filterMap_default configs.nodup]
  rfl

theorem get_config_configure (t : Tables) (username : String) (loggedAt : ℚ)
    (configs : Dict String Json) :
    (t.configure username loggedAt configs).config.get
        "default_authorization" =
      ((configs.get "default_authorization").map fun value =>
        Json.bool (coerceBoolish value false)).or
        (t.config.get "default_authorization") := by
  change (t.config.update (normalizedConfigs configs).entries).get _ = _
  rw [Dict.get_update_entries, normalizedConfigs_eq, Dict.get_ofList]
  cases configs.get "default_authorization" <;> simp

section

variable {κ α : Type} [DecidableEq α] {T : Transport κ} {clientSecret : String}
  {B : Backend}

theorem config_processDevice (request : DeviceAuthRequest) (env : ProcessEnv)
    (db : Database) : (processDevice request env db).1.config = db.config := by
  rw [processDevice]
  split <;> rfl

theorem config_deviceEvents {actor : String} {env : RequestEnv α}
    {message : Option Json} {t : Tables} :
    (deviceEvents B actor env message t).tables.config = t.config := by
  have hcases : (deviceEvents B actor env message t).tables = t ∨ _ :=
    deviceEvents_tables_cases
  rcases hcases with h | ⟨_, _, _, h⟩ | ⟨_, h⟩
  · rw [h]
  · rw [h]
    rfl
  · rw [h]
    rfl

theorem config_announcedHeartbeat {salt : ℕ} {env : ProcessEnv}
    {broadcast : BroadcastEnv α} {body : Body κ} {t : Tables} :
    (announcedHeartbeat T clientSecret salt env broadcast body t).1.config =
      t.config := by
  change (heartbeat T clientSecret salt env body t.toDatabase).1.config = _
  cases hrequest : heartbeatRequest T clientSecret body with
  | none => rw [(heartbeat_of_refused hrequest).1]
  | some request =>
      rw [heartbeat_of_heartbeatRequest hrequest]
      exact config_processDevice request env t.toDatabase

/-- No event stores anything but a boolean. -/
theorem ServerEvent.storesBool_handle {e : ServerEvent κ α} {t : Tables}
    (h : t.StoresBool) : (e.handle T clientSecret B t).StoresBool := by
  cases e with
  | heartbeat salt env broadcast body =>
      intro value hvalue
      apply h value
      rwa [ServerEvent.handle, config_announcedHeartbeat] at hvalue
  | admin actor env message =>
      intro value hvalue
      apply h value
      rwa [ServerEvent.handle, config_deviceEvents] at hvalue
  | updateConfigs username loggedAt commitFails configs =>
      cases commitFails with
      | true => exact h
      | false =>
          intro value hvalue
          change (t.configure username loggedAt configs).config.get
            "default_authorization" = some value at hvalue
          rw [get_config_configure] at hvalue
          cases hget : configs.get "default_authorization" with
          | none =>
              rw [hget] at hvalue
              exact h value hvalue
          | some v =>
              rw [hget] at hvalue
              exact ⟨_, (Option.some.inj hvalue).symm⟩

theorem storesBool_tablesAt {e : ℕ → ServerEvent κ α} {start : Tables}
    (h : start.StoresBool) (n : ℕ) :
    (tablesAt T clientSecret B e start n).StoresBool := by
  induction n with
  | zero => exact h
  | succ n ih => exact ServerEvent.storesBool_handle ih

/-- The first heartbeat of a device stores the default. -/
theorem device?_announcedHeartbeat (salt : ℕ) (env : ProcessEnv)
    (broadcast : BroadcastEnv α) {body : Body κ} {t : Tables}
    {request : DeviceAuthRequest}
    (hrequest : heartbeatRequest T clientSecret body = some request)
    (hnew : t.device? request.deviceId = none) :
    ((announcedHeartbeat T clientSecret salt env broadcast body t).1.device?
        request.deviceId).map (·.isAuthorized) =
      some t.defaultAuthorization := by
  change ((heartbeat T clientSecret salt env body t.toDatabase).1.device?
    request.deviceId).map (·.isAuthorized) = _
  rw [heartbeat_of_heartbeatRequest hrequest, device?_processDevice,
    Option.map_some, isAuthorized_processDevice, hnew]

/-- A change of the configuration without the default keeps it. -/
theorem default_updateConfigs {username : String} {loggedAt : ℚ}
    {commitFails : Bool} {configs : Dict String Json} {t : Tables}
    (h : configs.get "default_authorization" = none) :
    (updateConfigs (κ := κ) username loggedAt commitFails configs
        t).1.config.get "default_authorization" =
      t.config.get "default_authorization" := by
  cases commitFails with
  | true => rfl
  | false =>
      change (t.configure username loggedAt configs).config.get _ = _
      rw [get_config_configure, h]
      rfl

/-! ## What is displayed is applied -/

/-- **The displayed default is the applied default.**  Starting without a
stored default, whatever the server handles: a new device gets the default
which is displayed, and a change of the configuration which does not name the
default leaves what is displayed and what a new device gets. -/
theorem displayed_default_is_applied (e : ℕ → ServerEvent κ α)
    (start : Tables)
    (hstart : start.config.get "default_authorization" = none) (n : ℕ) :
    let t := tablesAt T clientSecret B e start n
    ∀ salt env (broadcast : BroadcastEnv α) body request,
      heartbeatRequest T clientSecret body = some request →
      t.device? request.deviceId = none →
      (∃ device,
        (announcedHeartbeat T clientSecret salt env broadcast body
          t).1.device? request.deviceId = some device ∧
        getConfigs t.toDatabase =
          .ofList [("default_authorization", .bool device.isAuthorized)]) ∧
      ∀ username loggedAt commitFails configs,
        configs.get "default_authorization" = none →
        let t' := (updateConfigs (κ := κ) username loggedAt commitFails
          configs t).1
        getConfigs t'.toDatabase = getConfigs t.toDatabase ∧
          ((announcedHeartbeat T clientSecret salt env broadcast body
              t').1.device? request.deviceId).map (·.isAuthorized) =
            ((announcedHeartbeat T clientSecret salt env broadcast body
              t).1.device? request.deviceId).map (·.isAuthorized) := by
  intro t salt env broadcast body request hrequest hnew
  have hbool : t.StoresBool := by
    refine storesBool_tablesAt (fun value hvalue => ?_) n
    rw [hstart] at hvalue
    cases hvalue
  have hrow := device?_announcedHeartbeat salt env broadcast hrequest hnew
  refine ⟨?_, fun username loggedAt commitFails configs hconfigs => ?_⟩
  · obtain ⟨device, hdevice, hauthorized⟩ := Option.map_eq_some_iff.mp hrow
    exact ⟨device, hdevice, by rw [hbool.getConfigs_eq, hauthorized]⟩
  · intro t'
    have hget : t'.config.get "default_authorization" =
        t.config.get "default_authorization" := default_updateConfigs hconfigs
    have hnew' : t'.device? request.deviceId = none := by
      rw [← hnew]
      cases commitFails <;> rfl
    refine ⟨by rw [getConfigs, getConfigs, hget], ?_⟩
    rw [hrow, device?_announcedHeartbeat _ _ _ hrequest hnew',
      Database.defaultAuthorization, Database.defaultAuthorization, hget]

/-! ## One value in two places -/

/-- The value is not a string, or it is empty or spells "true". -/
def ReadAlike (value : Json) : Prop :=
  ∀ s, value = .str s →
    s = "" ∨ (Python.strip s).toLower ∈ ["1", "true", "yes", "on"]

theorem truthy_eq_coerceBoolish_iff {value : Json} :
    Python.truthy value = coerceBoolish value false ↔ ReadAlike value := by
  cases value with
  | str s =>
      by_cases hs : s = ""
      · subst hs
        refine iff_of_true (by decide +kernel) fun s hs => Or.inl ?_
        exact (Json.str.inj hs).symm
      · have htruthy : Python.truthy (.str s) = true := by
          simpa [Python.truthy] using hs
        rw [htruthy, eq_comm, coerceBoolish, decide_eq_true_iff]
        refine ⟨fun h s' hs' => ?_, fun h => (h s rfl).resolve_left hs⟩
        exact Or.inr (Json.str.inj hs' ▸ h)
  | null | bool | int | float | arr | obj =>
      exact iff_of_true rfl (fun s hs => by cases hs)

/-- What `update_device` stores for a value. -/
theorem isAuthorized_deviceEvents {actor : String} {env : RequestEnv α}
    {data : Dict String Json} {t : Tables} {device : Device} {value : Json}
    (htype : data.get "type" = some (.str "update_device"))
    (hid : targetId B data ≠ "")
    (hdata : data.get "data" = some (.obj [("is_authorized", value)]))
    (hdevice : t.device? (targetId B data) = some device)
    (hcommit : env.commitError = none) :
    ((deviceEvents B actor env (some (.ofDict data)) t).tables.device?
        (targetId B data)).map (·.isAuthorized) =
      some (Python.truthy value) := by
  have hallowed : updateRequest B data = .ok (targetId B data,
      .ofList [("is_authorized", value)]) := by
    rw [updateRequest, if_neg hid, getOr, hdata]
    rfl
  have hcommitted : committedUpdate B env data = some
      ⟨targetId B data, none, some (Python.truthy value), env.now⟩ := by
    rw [committedUpdate, hallowed]
    simp only [hcommit]
    rfl
  have htables : (deviceEvents B actor env (some (.ofDict data)) t).tables =
      (updateDevice B actor env data t).tables := by
    rw [deviceEvents, Json.dict?_ofDict]
    simp [htype, tables_guarded]
  rw [htables, device?_updateDevice, hdevice, hcommitted]
  simp [Option.filter, Device.revise]

/-- Between changes of the configuration the default stays. -/
theorem defaultAuthorization_tablesAt {e : ℕ → ServerEvent κ α}
    {start : Tables} {n : ℕ}
    (h : ∀ k < n, ∀ username loggedAt commitFails configs,
      e k ≠ .updateConfigs username loggedAt commitFails configs) :
    (tablesAt T clientSecret B e start n).defaultAuthorization =
      start.defaultAuthorization := by
  induction n with
  | zero => rfl
  | succ n ih =>
      rw [← ih fun k hk => h k (Nat.lt_succ_of_lt hk)]
      have hconfig : (tablesAt T clientSecret B e start (n + 1)).config =
          (tablesAt T clientSecret B e start n).config := by
        change ((e n).handle T clientSecret B _).config = _
        cases he : e n with
        | heartbeat salt env broadcast body =>
            exact config_announcedHeartbeat
        | admin actor env message => exact config_deviceEvents
        | updateConfigs username loggedAt commitFails configs =>
            exact absurd he (h n (Nat.lt_succ_self n) _ _ _ _)
      rw [Database.defaultAuthorization, hconfig]
      rfl

/-- **When a value grants the same in both places.**  A committed
`update_device` stores for a value what new devices get after the value was
made the default, exactly for the values which are read alike. -/
theorem admin_value_granted_alike_iff (value : Json)
    (data : Dict String Json) (device : Device) (request : DeviceAuthRequest)
    {actor : String} {env : RequestEnv α} {t : Tables}
    (htype : data.get "type" = some (.str "update_device"))
    (hid : targetId B data ≠ "")
    (hdata : data.get "data" = some (.obj [("is_authorized", value)]))
    (hdevice : t.device? (targetId B data) = some device)
    (hcommit : env.commitError = none)
    {username : String} {loggedAt : ℚ} {configs : Dict String Json}
    {t' : Tables} {e : ℕ → ServerEvent κ α} {n : ℕ}
    (hconfigs : configs.get "default_authorization" = some value)
    (he : ∀ k < n, ∀ username loggedAt commitFails configs,
      e k ≠ .updateConfigs username loggedAt commitFails configs)
    {salt : ℕ} {env' : ProcessEnv} {broadcast : BroadcastEnv α}
    {body : Body κ}
    (hrequest : heartbeatRequest T clientSecret body = some request)
    (hnew : (tablesAt T clientSecret B e (updateConfigs (κ := κ) username
      loggedAt false configs t').1 n).device? request.deviceId = none) :
    ((deviceEvents B actor env (some (.ofDict data)) t).tables.device?
          (targetId B data)).map (·.isAuthorized) =
        ((announcedHeartbeat T clientSecret salt env' broadcast body
          (tablesAt T clientSecret B e (updateConfigs (κ := κ) username
            loggedAt false configs t').1 n)).1.device?
          request.deviceId).map (·.isAuthorized) ↔
      ReadAlike value := by
  have hdefault : (updateConfigs (κ := κ) username loggedAt false configs
      t').1.defaultAuthorization = coerceBoolish value false := by
    change (t'.configure username loggedAt configs).defaultAuthorization = _
    rw [Database.defaultAuthorization, get_config_configure, hconfigs]
    rfl
  rw [isAuthorized_deviceEvents htype hid hdata hdevice hcommit,
    device?_announcedHeartbeat _ _ _ hrequest hnew,
    defaultAuthorization_tablesAt he, hdefault, Option.some_inj,
    truthy_eq_coerceBoolish_iff]

end

/-! ## Examples -/

/-- The heartbeat of a device. -/
def heartbeatBody (deviceId : String) : Body (String × ℕ × Json) :=
  .encrypted ("secret", 0, .obj [("device_id", .str deviceId),
    ("software_name", .str "editor")])

/-- The default is changed to a value. -/
def defaultChange (value : Json) : ServerEvent (String × ℕ × Json) String :=
  .updateConfigs "admin" 300 false
    (.ofList [("theme", .str "dark"), ("default_authorization", value)])

/-- The known device "D" is granted a value. -/
def grantRequest (value : Json) : Dict String Json :=
  .ofList [("type", .str "update_device"), ("device_id", .str "D"),
    ("data", .obj [("is_authorized", value)])]

theorem displayed_default_is_applied_refusing :
    ∃ device,
      (announcedHeartbeat .symbolic "secret" 0 ⟨400, 400, 400, 400⟩
        quietBroadcast (heartbeatBody "E")
        (tablesAt .symbolic "secret" .plain
          (fun _ => defaultChange (.str "no")) (oneDevice "D") 1)).1.device?
          "E" = some device ∧
      getConfigs (tablesAt .symbolic "secret" .plain
          (fun _ => defaultChange (.str "no")) (oneDevice "D") 1).toDatabase =
        .ofList [("default_authorization", .bool device.isAuthorized)] :=
  (displayed_default_is_applied (fun _ => defaultChange (.str "no"))
    (oneDevice "D") rfl 1 0 _ quietBroadcast (heartbeatBody "E")
    ⟨"E", some "editor", none⟩ (by decide +kernel) (by decide +kernel)).1

theorem admin_value_granted_alike_iff_yes :
    ((deviceEvents .plain "admin" (.quiet quietBroadcast)
          (some (.ofDict (grantRequest (.str " Yes ")))) (oneDevice
            "D")).tables.device? "D").map (·.isAuthorized) =
        ((announcedHeartbeat .symbolic "secret" 0 ⟨400, 400, 400, 400⟩
          quietBroadcast (heartbeatBody "E")
          (tablesAt .symbolic "secret" .plain
            (fun _ => ServerEvent.heartbeat 0 ⟨400, 400, 400, 400⟩
              quietBroadcast (heartbeatBody "D"))
            (updateConfigs (κ := String × ℕ × Json) "admin" 300 false
              (.ofList [("default_authorization", .str " Yes ")])
              (oneDevice "D")).1 1)).1.device? "E").map (·.isAuthorized) ↔
      ReadAlike (.str " Yes ") :=
  admin_value_granted_alike_iff (.str " Yes ") (grantRequest (.str " Yes "))
    (registeredDevice "D") ⟨"E", some "editor", none⟩ (by decide +kernel)
      (by decide +kernel) (by decide +kernel)
    (by decide +kernel) rfl (by decide +kernel)
    (fun k _ username loggedAt commitFails configs h => by cases h)
    (by decide +kernel) (by decide +kernel)

/-- The string "false" grants a known device what it denies to a new one. -/
theorem admin_value_false_granted_apart :
    ((deviceEvents .plain "admin" (.quiet quietBroadcast)
        (some (.ofDict (grantRequest (.str "false")))) (oneDevice
          "D")).tables.device? "D").map (·.isAuthorized) = some true ∧
      ((announcedHeartbeat .symbolic "secret" 0 ⟨400, 400, 400, 400⟩
        quietBroadcast (heartbeatBody "E")
        (updateConfigs (κ := String × ℕ × Json) "admin" 300 false
          (.ofList [("default_authorization", .str "false")])
          (oneDevice "D")).1).1.device? "E").map (·.isAuthorized) =
        some false := by
  decide +kernel

end PyAuth.Server
