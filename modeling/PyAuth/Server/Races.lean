import Mathlib.Tactic.IntervalCases
import PyAuth.Server.Workers

/-!
# Heartbeats that fail because of other requests

A heartbeat looks for its device and then inserts or updates a row.  Between
these steps another worker may insert the row or delete it, and the heartbeat
fails; nothing else makes it fail.
-/

namespace PyAuth.Server

open Support

variable {α : Type} [DecidableEq α] {B : Backend}

/-! ## The property -/

/-- How many steps a heartbeat still takes. -/
def HeartbeatPhase.remaining : HeartbeatPhase → ℕ
  | .known _ | .unknown _ => 3
  | .committed _ => 2
  | .refreshed _ => 1
  | .replied _ | .failed => 0

section

variable (e : ℕ → WorkerEvent α) (w : ℕ → Workers)

/-- Heartbeat `i` has refreshed before time `k`, and then `device` was the row
of its device. -/
def Loaded (k i : ℕ) (request : DeviceAuthRequest) (device : Device) : Prop :=
  ∃ j < k, (∃ env, e j = .advance i env) ∧
    (∃ id, (w j).tasks[i]? = some (.heartbeat request (.committed id))) ∧
    (w j).tables.device? request.deviceId = some device

/-- A heartbeat did not fail, and it replies with the authorisation of its
device. -/
def HeartbeatSound (k i : ℕ) (request : DeviceAuthRequest) :
    HeartbeatPhase → Prop
  | .known _ | .unknown _ | .committed _ => True
  | .refreshed device => Loaded e w k i request device
  | .replied data =>
      ∃ device, Loaded e w k i request device ∧ data = responseData device
  | .failed => False

/-- All heartbeats up to time `n` were answered, or will be. -/
def HeartbeatsSound (n : ℕ) : Prop :=
  ∀ k ≤ n, ∀ (i : ℕ) request phase,
    (w k).tasks[i]? = some (.heartbeat request phase) →
    HeartbeatSound e w k i request phase

end

/-! ## The condition -/

/-- The table is for the next step of a heartbeat as its last one left it: a
device that was not found is still missing, a row to update is still there,
and the row to refresh is still that of the device. -/
def PhaseUndisturbed (request : DeviceAuthRequest) (env : ProcessEnv)
    (t : Tables) : HeartbeatPhase → Prop
  | .known device =>
      request.columns env device = .empty ∨ (t.row? device.id).isSome
  | .unknown _ => t.device? request.deviceId = none
  | .committed id =>
      ∃ device, t.row? id = some device ∧ device.deviceId = request.deviceId
  | .refreshed _ | .replied _ | .failed => True

/-- An event takes no heartbeat by surprise. -/
def Workers.Undisturbed (w : Workers) : WorkerEvent α → Prop
  | .advance i env => ∀ request phase,
      w.tasks[i]? = some (.heartbeat request phase) →
      PhaseUndisturbed request env w.tables phase
  | _ => True

/-! ## One step -/

section

variable {e : ℕ → WorkerEvent α} {w : ℕ → Workers} {t : Tables} {k i n : ℕ}
  {request : DeviceAuthRequest} {env : ProcessEnv} {phase : HeartbeatPhase}

/-- Every step brings a heartbeat closer to its end. -/
theorem remaining_advanceHeartbeat :
    (advanceHeartbeat request env t phase).2.remaining ≤ phase.remaining - 1 := by
  cases phase with
  | known device =>
      simp only [advanceHeartbeat]
      split
      · exact Nat.le_refl _
      · split
        · exact Nat.le_refl _
        · exact Nat.zero_le _
  | unknown isAuthorized =>
      simp only [advanceHeartbeat]
      split
      · exact Nat.le_refl _
      · exact Nat.zero_le _
  | committed id =>
      simp only [advanceHeartbeat]
      split
      · exact Nat.le_refl _
      · exact Nat.zero_le _
  | refreshed device => exact Nat.le_refl _
  | replied data => exact Nat.le_refl _
  | failed => exact Nat.le_refl _

theorem HeartbeatSound.succ (h : HeartbeatSound e w k i request phase) :
    HeartbeatSound e w (k + 1) i request phase := by
  cases phase with
  | known | unknown | committed => trivial
  | refreshed device =>
      obtain ⟨j, hj, hloaded⟩ := h
      exact ⟨j, by omega, hloaded⟩
  | replied data =>
      obtain ⟨device, ⟨j, hj, hloaded⟩, hdata⟩ := h
      exact ⟨device, ⟨j, by omega, hloaded⟩, hdata⟩
  | failed => exact h

/-- **A step of a heartbeat goes well exactly when it is undisturbed.** -/
theorem heartbeatSound_advance_iff
    (h : HeartbeatSound e w k i request phase) (he : e k = .advance i env)
    (htask : (w k).tasks[i]? = some (.heartbeat request phase)) :
    HeartbeatSound e w (k + 1) i request
        (advanceHeartbeat request env (w k).tables phase).2 ↔
      PhaseUndisturbed request env (w k).tables phase := by
  cases phase with
  | known device =>
      simp only [advanceHeartbeat, PhaseUndisturbed]
      split
      next hempty => simp [HeartbeatSound, hempty]
      next hchanged =>
        split
        next hrow => simp [HeartbeatSound, hrow]
        next hgone => simp [HeartbeatSound, hchanged, hgone]
  | unknown isAuthorized =>
      simp only [advanceHeartbeat, PhaseUndisturbed]
      split
      next hnone => simp [HeartbeatSound, hnone]
      next hfound => simp [HeartbeatSound, hfound]
  | committed id =>
      simp only [advanceHeartbeat, PhaseUndisturbed]
      split
      next device hdevice =>
        simp only [hdevice, Option.some.injEq, exists_eq_left']
        constructor
        · rintro ⟨j, -, -, -, hloaded⟩
          exact Database.deviceId_of_device? hloaded
        · intro hid
          refine ⟨k, by omega, ⟨env, he⟩, ⟨id, htask⟩, ?_⟩
          rw [← hid]
          exact Database.device?_of_mem (List.mem_of_find?_eq_some hdevice)
      next hgone => simp [HeartbeatSound, hgone]
  | refreshed device =>
      exact iff_of_true ⟨device, HeartbeatSound.succ h, rfl⟩ trivial
  | replied data => exact iff_of_true (HeartbeatSound.succ h) trivial
  | failed => exact absurd h id

theorem getElem?_advance {w : Workers}
    (htask : w.tasks[i]? = some (.heartbeat request phase)) :
    (w.next (α := α) B (.advance i env)).tasks[i]? = some (.heartbeat request
      (advanceHeartbeat request env w.tables phase).2) := by
  obtain ⟨hi, -⟩ := List.getElem?_eq_some_iff.mp htask
  simp only [Workers.next, htask]
  rw [List.getElem?_set_self hi]

theorem getElem?_runFrom_advance (he : e k = .advance i env)
    (htask : (Workers.runFrom B t e k).tasks[i]? =
      some (.heartbeat request phase)) :
    (Workers.runFrom B t e (k + 1)).tasks[i]? = some (.heartbeat request
      (advanceHeartbeat request env (Workers.runFrom B t e k).tables
        phase).2) := by
  change ((Workers.runFrom B t e k).next B (e k)).tasks[i]? = _
  rw [he]
  exact getElem?_advance htask

/-- Undisturbed steps keep all heartbeats sound. -/
theorem heartbeatSound_succ {task : WorkerTask}
    (h : ∀ (i : ℕ) request phase,
      (w k).tasks[i]? = some (.heartbeat request phase) →
      HeartbeatSound e w k i request phase)
    (hnext : w (k + 1) = (w k).next B (e k))
    (hundisturbed : (w k).Undisturbed (e k))
    (htask : (w (k + 1)).tasks[i]? = some task)
    (heq : task = .heartbeat request phase) :
    HeartbeatSound e w (k + 1) i request phase := by
  rw [hnext] at htask
  cases taskStep_next htask with
  | kept hold _ =>
      subst heq
      exact (h i request phase hold).succ
  | selected _ =>
      cases heq
      rw [selectHeartbeat]
      split <;> trivial
  | advanced he hold =>
      cases heq
      rw [he] at hundisturbed
      exact (heartbeatSound_advance_iff (h i _ _ hold) he hold).mpr
        (hundisturbed _ _ hold)
  | updateSelected => cases heq
  | finished => cases heq

end

/-! ## All runs -/

/-- **Which interleavings let all heartbeats be answered.**  Along any
interleaving of the steps of heartbeats, updates and deletions, every
heartbeat is answered with the authorisation of its device exactly when no
step of a heartbeat is disturbed.  Every step brings its heartbeat closer to
its end, and no device ever has two rows. -/
theorem heartbeats_answered_iff (e : ℕ → WorkerEvent α) (t : Tables) (n : ℕ) :
    (HeartbeatsSound e (Workers.runFrom B t e) n ↔
      ∀ k < n, (Workers.runFrom B t e k).Undisturbed (e k)) ∧
    (∀ k (i : ℕ) env request phase, e k = .advance i env →
      (Workers.runFrom B t e k).tasks[i]? = some (.heartbeat request phase) →
      ∃ phase', (Workers.runFrom B t e (k + 1)).tasks[i]? =
          some (.heartbeat request phase') ∧
        phase'.remaining ≤ phase.remaining - 1) ∧
    ∀ k, ((Workers.runFrom B t e k).tables.devices.map (·.deviceId)).Nodup := by
  refine ⟨⟨fun h k hk => ?_, fun h k => ?_⟩, ?_, fun k => ?_⟩
  · cases he : e k with
    | advance i env =>
        intro request phase htask
        have hsound := h k hk.le i request phase htask
        have hsound' := h (k + 1) hk i request _
          (getElem?_runFrom_advance he htask)
        exact (heartbeatSound_advance_iff hsound he htask).mp hsound'
    | select | selectUpdate | commitUpdate | deleteDevice | deleteDevices =>
        trivial
  · induction k with
    | zero =>
        intro _ i request phase htask
        cases htask
    | succ k ih =>
        intro hk i request phase htask
        exact heartbeatSound_succ (ih (by omega)) rfl (h k hk) htask rfl
  · intro k i env request phase he htask
    exact ⟨_, getElem?_runFrom_advance he htask, remaining_advanceHeartbeat⟩
  · exact (Workers.runFrom B t e k).tables.unique

/-! ## Two races -/

def exampleRequest : DeviceAuthRequest := ⟨"D", some "viewer", none⟩

/-- A light and a full heartbeat of a new device are under way at once. -/
def firstHeartbeats : ℕ → WorkerEvent String
  | 0 | 1 => .select exampleRequest
  | 2 => .advance 0 ⟨100, 100, 100, 100⟩
  | _ => .advance 1 ⟨200, 200, 200, 200⟩

/-- A device is deleted after its heartbeat has read its row. -/
def deletedMeanwhile : ℕ → WorkerEvent String
  | 0 => .select exampleRequest
  | 1 => .deleteDevice "admin" (.quiet quietBroadcast) (exampleDeletion "D")
  | _ => .advance 0 ⟨300, 300, 300, 300⟩

theorem heartbeats_answered_iff_first :
    HeartbeatsSound firstHeartbeats
      (Workers.runFrom .plain emptyTables firstHeartbeats) 3 := by
  refine (heartbeats_answered_iff firstHeartbeats emptyTables 3).1.mpr ?_
  intro k hk
  rcases eq_or_ne k 2 with rfl | hne
  · intro request phase htask
    have htasks : (Workers.runFrom .plain emptyTables firstHeartbeats
        2).tasks[0]? = some (.heartbeat exampleRequest (.unknown true)) := by
      decide +kernel
    have hnone : (Workers.runFrom .plain emptyTables firstHeartbeats
        2).tables.device? "D" = none := by
      decide +kernel
    cases htasks.symm.trans htask
    exact hnone
  · interval_cases k <;> trivial

/-- The second of two first heartbeats breaks the unique index, and the update
of a row deleted meanwhile raises. -/
theorem heartbeats_not_answered :
    ¬HeartbeatsSound firstHeartbeats
        (Workers.runFrom .plain emptyTables firstHeartbeats) 4 ∧
      ¬HeartbeatsSound deletedMeanwhile
        (Workers.runFrom .plain (oneDevice "D") deletedMeanwhile) 3 := by
  constructor
  · intro h
    exact h 4 le_rfl 1 exampleRequest .failed (by decide +kernel)
  · intro h
    exact h 3 le_rfl 0 exampleRequest .failed (by decide +kernel)

end PyAuth.Server
