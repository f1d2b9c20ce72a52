import PyAuth.Server.History
import PyAuth.Support.Equality

/-!
# What a heartbeat is compared with

Between two heartbeats of a device nothing touches what its row says about the
software and the device.  So the second one is compared with the first one, as
far as the comparison of Python can tell.
-/

namespace PyAuth.Server

open Support

/-! ## Rows which reflect a request -/

/-- The row says what the request says, up to the comparison. -/
structure Reflects (request : DeviceAuthRequest) (info : Dict String Json)
    (device : Device) : Prop where
  softwareName : device.softwareName = request.softwareName
  deviceInfo : device.deviceInfo = .ofDict info ∨
    Python.eq (.ofDict info) device.deviceInfo = true

/-- The comparison finds nothing changed, and only `last_check` moves. -/
structure Unnoticed (request : DeviceAuthRequest) (env : ProcessEnv)
    (device device' : Device) : Prop where
  softwareName : request.changesName device = false
  deviceInfo : request.changesInfo device = false
  row : device' = { device with lastCheck := some env.checkedAt }

section

variable {request : DeviceAuthRequest} {info : Dict String Json}
  {env : ProcessEnv} {device : Device}

theorem refresh_of_unchanged (hname : request.changesName device = false)
    (hinfo : request.changesInfo device = false) :
    request.refresh env device =
      { device with lastCheck := some env.checkedAt } := by
  rw [DeviceAuthRequest.refresh, hname, hinfo]
  cases request.deviceInfo <;> rfl

theorem unnoticed_refresh_iff :
    Unnoticed request env device (request.refresh env device) ↔
      request.changesName device = false ∧
        request.changesInfo device = false :=
  ⟨fun h => ⟨h.softwareName, h.deviceInfo⟩,
    fun h => ⟨h.1, h.2, refresh_of_unchanged h.1 h.2⟩⟩

theorem reflects_register {db : Database}
    (hinfo : request.deviceInfo = some info) :
    Reflects request info (request.register env db) :=
  ⟨rfl, Or.inl (by simp [DeviceAuthRequest.register, hinfo])⟩

theorem reflects_refresh (hname : request.softwareName.isSome)
    (hinfo : request.deviceInfo = some info) :
    Reflects request info (request.refresh env device) := by
  constructor
  · dsimp only [DeviceAuthRequest.refresh]
    split
    · rfl
    next hsame =>
      simp only [DeviceAuthRequest.changesName, hname, true_and, ne_eq,
        decide_not, Bool.not_eq_true', decide_eq_false_iff_not,
        not_not] at hsame
      exact hsame.symm
  · simp only [DeviceAuthRequest.refresh, DeviceAuthRequest.changesInfo,
      hinfo]
    split
    · exact Or.inl rfl
    next hsame => exact Or.inr (by simpa using hsame)

/-- A request is compared with the one which the row reflects. -/
theorem Reflects.unnoticed_iff {request' : DeviceAuthRequest}
    {info' : Dict String Json} {device' : Device}
    (h : Reflects request info device)
    (hkeys : (Json.ofDict info).distinctKeys = true)
    (hname : request'.softwareName = request.softwareName)
    (hinfo : request'.deviceInfo = some info')
    (hrow : device' = request'.refresh env device) :
    Unnoticed request' env device device' ↔
      Python.eq (.ofDict info') (.ofDict info) = true := by
  have hsame : request'.changesName device = false := by
    simp [DeviceAuthRequest.changesName, hname, h.softwareName]
  rw [hrow, unnoticed_refresh_iff, and_iff_right hsame,
    DeviceAuthRequest.changesInfo, hinfo]
  simp only [Bool.not_eq_false']
  rcases h.deviceInfo with heq | heq
  · rw [heq]
  · exact ⟨fun h' => Python.eq_trans h' (Python.eq_symm hkeys heq),
      fun h' => Python.eq_trans h' heq⟩

end

/-! ## From one heartbeat to the next -/

section

variable {κ α : Type} [DecidableEq α] {T : Transport κ} {clientSecret : String}
  {B : Backend} {e : ServerEvent κ α} {device : Device}
  {request : DeviceAuthRequest} {info : Dict String Json} {env : ProcessEnv}

theorem ServerEvent.evolve_of_heartbeatOf
    (h : e.heartbeatOf T clientSecret device.deviceId = some (request, env)) :
    e.evolve T clientSecret B device = request.refresh env device := by
  rw [evolve, h]
  cases hupdate : e.updateOf B device.deviceId with
  | none => rfl
  | some update =>
      rw [heartbeatOf_of_updateOf hupdate] at h
      cases h

/-- Other events leave what the device has told. -/
theorem Reflects.evolve (h : Reflects request info device)
    (hother : e.heartbeatOf T clientSecret device.deviceId = none) :
    Reflects request info (e.evolve T clientSecret B device) := by
  rw [ServerEvent.evolve, hother]
  cases e.updateOf B device.deviceId with
  | some update => exact ⟨h.softwareName, h.deviceInfo⟩
  | none => exact h

variable {e : ℕ → ServerEvent κ α} {t₀ : Tables} {deviceId : String}
  {i j k n : ℕ} {row : ℕ → Device}

/-- The row still reflects the last heartbeat. -/
theorem Lifetime.reflects
    (h : Lifetime (tablesAt T clientSecret B e t₀) deviceId i n row)
    (hij : i ≤ j) (hjk : j < k) (hkn : k ≤ n)
    (hheartbeat : (e j).heartbeatOf T clientSecret deviceId =
      some (request, env))
    (hname : request.softwareName.isSome)
    (hinfo : request.deviceInfo = some info)
    (hlast : ∀ m, j < m → m < k →
      (e m).heartbeatOf T clientSecret deviceId = none) :
    Reflects request info (row k) := by
  induction hjk with
  | refl =>
      rcases hij.eq_or_lt with rfl | hij
      · obtain ⟨request', env', hfirst, hrow⟩ := h.registered
        obtain ⟨rfl, rfl⟩ :=
          Prod.mk.inj (Option.some.inj (hfirst.symm.trans hheartbeat))
        rw [hrow]
        exact reflects_register hinfo
      · have hid := h.deviceId_row hij (by omega)
        rw [h.row_succ hij hkn, ServerEvent.evolve_of_heartbeatOf
          (by rw [hid]; exact hheartbeat)]
        exact reflects_refresh hname hinfo
  | @step m hjm ih =>
      have hjm' : j < m := hjm
      have hid := h.deviceId_row (by omega : i < m) (by omega)
      rw [h.row_succ (by omega) hkn]
      exact (ih (by omega) fun l hjl hlm => hlast l hjl (by omega)).evolve
        (by rw [hid]; exact hlast m hjm' (Nat.lt_succ_self m))

/-- Every heartbeat of a registered device has one before it. -/
theorem Lifetime.exists_last_heartbeat
    (h : Lifetime (tablesAt T clientSecret B e t₀) deviceId i n row)
    (hik : i < k) :
    ∃ j request env, i ≤ j ∧ j < k ∧
      (e j).heartbeatOf T clientSecret deviceId = some (request, env) ∧
      ∀ m, j < m → m < k →
        (e m).heartbeatOf T clientSecret deviceId = none := by
  induction hik with
  | refl =>
      obtain ⟨request, env, hfirst, -⟩ := h.registered
      exact ⟨i, request, env, le_rfl, Nat.lt_succ_self i, hfirst, by omega⟩
  | @step k hik ih =>
      have hik' : i < k := hik
      cases hk : (e k).heartbeatOf T clientSecret deviceId with
      | some heartbeat =>
          exact ⟨k, heartbeat.1, heartbeat.2, by omega, Nat.lt_succ_self k, hk,
            by omega⟩
      | none =>
          obtain ⟨j, request, env, hij, hjk, hj, hlast⟩ := ih
          refine ⟨j, request, env, hij, by omega, hj, fun m hjm hmk => ?_⟩
          rcases Nat.lt_succ_iff_lt_or_eq.mp hmk with hmk | rfl
          · exact hlast m hjm hmk
          · exact hk

end

end PyAuth.Server
