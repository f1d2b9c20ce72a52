import Mathlib.Tactic.IntervalCases
import PyAuth.Server.Races

/-!
# Heartbeats keep the decisions of the admin

Heartbeats and updates of one device write disjoint columns, and an update
still finds the values it has read when no other update of the device runs at
the same time.  So the last update that names a column decides it, in
whatever order the steps are taken, and the refresh brings it to every reply.
-/

namespace PyAuth.Server

open Support

variable {α : Type} [DecidableEq α] {B : Backend}

namespace Workers

/-- The update of the device that an event commits. -/
def updateOf (B : Backend) (w : Workers) (deviceId : String) :
    WorkerEvent α → Option DeviceUpdate
  | .commitUpdate task env =>
      match w.tasks[task]? with
      | some (.update _ allowed device) =>
          if device.deviceId = deviceId then
            match env.commitError, storedRemark B allowed with
            | some _, _ | none, .error _ => none
            | none, .ok remark =>
                some ⟨deviceId, remark,
                  (allowed.get "is_authorized").map Python.truthy, env.now⟩
          else none
      | _ => none
  | _ => none

/-- Task `i` is an update of the device that will still commit. -/
def Updating (w : Workers) (deviceId : String) (i : ℕ) : Prop :=
  ∃ actor allowed device, w.tasks[i]? = some (.update actor allowed device) ∧
    device.deviceId = deviceId

/-- An update of the device starts only when no other one is running. -/
def Serial (B : Backend) (w : Workers) (deviceId : String) :
    WorkerEvent α → Prop
  | .selectUpdate _ data =>
      ∀ allowed, updateRequest B data = .ok (deviceId, allowed) →
        ∀ i, ¬w.Updating deviceId i
  | _ => True

end Workers

/-! ## The invariant -/

section

variable {e : ℕ → WorkerEvent α} {w : ℕ → Workers} {deviceId : String}
  {row : ℕ → Device} {n k : ℕ}

/-- Task `i` has read the row `row j` at its refresh. -/
def RefreshedAs (e : ℕ → WorkerEvent α) (w : ℕ → Workers) (row : ℕ → Device)
    (k i : ℕ) (request : DeviceAuthRequest) (device : Device) : Prop :=
  ∃ j < k, (∃ env, e j = .advance i env) ∧
    (∃ id, (w j).tasks[i]? = some (.heartbeat request (.committed id))) ∧
    device = row j

/-- What holds of task `i` at time `k`: a heartbeat of the device works on its
row, and an update of it has read what the row still says. -/
def TaskSettled (e : ℕ → WorkerEvent α) (w : ℕ → Workers) (deviceId : String)
    (row : ℕ → Device) (k i : ℕ) : WorkerTask → Prop
  | .heartbeat request (.known device) =>
      request.deviceId = deviceId → device.id = (row k).id
  | .heartbeat request (.unknown _) => request.deviceId ≠ deviceId
  | .heartbeat request (.committed id) =>
      request.deviceId = deviceId → id = (row k).id
  | .heartbeat request (.refreshed device) =>
      request.deviceId = deviceId → RefreshedAs e w row k i request device
  | .heartbeat request (.replied data) =>
      request.deviceId = deviceId →
        ∃ device, RefreshedAs e w row k i request device ∧
          data = responseData device
  | .heartbeat request .failed => request.deviceId ≠ deviceId
  | .update _ _ device =>
      (device.deviceId = deviceId ↔ device.id = (row k).id) ∧
        (device.deviceId = deviceId →
          device.isAuthorized = (row k).isAuthorized ∧
            device.remark = (row k).remark)
  | .finished => True

/-- The state at time `k` of a run in which the device keeps its row and its
updates do not overlap. -/
structure Settled (e : ℕ → WorkerEvent α) (w : ℕ → Workers)
    (deviceId : String) (row : ℕ → Device) (k : ℕ) : Prop where
  keyed : (w k).tables.Keyed
  tasks : ∀ i task, (w k).tasks[i]? = some task →
    TaskSettled e w deviceId row k i task
  alone : ∀ i j, (w k).Updating deviceId i → (w k).Updating deviceId j → i = j

/-- In such a run the next row is known. -/
theorem row_succ (hnext : w (k + 1) = (w k).next B (e k))
    (hrow : (w k).tables.device? deviceId = some (row k))
    (hrow' : (w (k + 1)).tables.device? deviceId = some (row (k + 1))) :
    row (k + 1) = match (w k).written B (e k) with
      | some (id, columns) =>
          if (row k).id = id then (row k).patch columns else row k
      | none => row k := by
  rw [hnext] at hrow'
  exact device?_next hrow hrow'

theorem id_succ (hnext : w (k + 1) = (w k).next B (e k))
    (hrow : (w k).tables.device? deviceId = some (row k))
    (hrow' : (w (k + 1)).tables.device? deviceId = some (row (k + 1))) :
    (row (k + 1)).id = (row k).id := by
  rw [row_succ hnext hrow hrow']
  split
  · split <;> rfl
  · rfl

/-- **One event.**  The columns that an admin decides become those of the
update which the event commits. -/
theorem decided_succ (hnext : w (k + 1) = (w k).next B (e k))
    (hrow : (w k).tables.device? deviceId = some (row k))
    (hrow' : (w (k + 1)).tables.device? deviceId = some (row (k + 1)))
    (h : Settled e w deviceId row k) :
    (row (k + 1)).isAuthorized =
        (((w k).updateOf B deviceId (e k)).bind (·.isAuthorized)).getD
          (row k).isAuthorized ∧
      (row (k + 1)).remark =
        (((w k).updateOf B deviceId (e k)).bind (·.remark)).getD
          (row k).remark := by
  rw [row_succ hnext hrow hrow']
  cases e k with
  | advance task env =>
      simp only [Workers.written, Workers.updateOf]
      split
      next id columns hwritten =>
        split at hwritten
        next request device _ =>
          obtain ⟨rfl, rfl⟩ := Prod.mk.inj (Option.some.inj hwritten)
          split <;> exact ⟨rfl, rfl⟩
        · cases hwritten
      · exact ⟨rfl, rfl⟩
  | commitUpdate task env =>
      simp only [Workers.written, Workers.updateOf]
      cases htask : (w k).tasks[task]? with
      | none => exact ⟨rfl, rfl⟩
      | some entry =>
          cases entry with
          | heartbeat | finished => exact ⟨rfl, rfl⟩
          | update actor allowed device =>
              obtain ⟨hid, hread⟩ := h.tasks task _ htask
              simp only [committedColumns]
              cases env.commitError with
              | some message => simp
              | none =>
                  cases hremark : storedRemark B allowed with
                  | error message => simp
                  | ok remark =>
                      simp only [Option.map_some]
                      by_cases hdevice : device.deviceId = deviceId
                      · obtain ⟨hauthorized, hremark'⟩ := hread hdevice
                        rw [if_pos (hid.mp hdevice).symm, if_pos hdevice]
                        exact ⟨isAuthorized_patch_updateColumns hauthorized,
                          remark_patch_updateColumns hremark' hremark⟩
                      · rw [if_neg fun heq => hdevice (hid.mpr heq.symm),
                          if_neg hdevice]
                        exact ⟨rfl, rfl⟩
  | select | selectUpdate | deleteDevice | deleteDevices => exact ⟨rfl, rfl⟩

/-! ## One event keeps the invariant -/

theorem updateOf_of_not_updating {w : Workers} {e : WorkerEvent α}
    (h : ∀ i env, e = .commitUpdate i env → ¬w.Updating deviceId i) :
    w.updateOf B deviceId e = none := by
  cases e with
  | commitUpdate task env =>
      simp only [Workers.updateOf]
      split
      next actor allowed device htask =>
        rw [if_neg]
        intro hdevice
        exact h task env rfl ⟨actor, allowed, device, htask, hdevice⟩
      · rfl
  | select | advance | selectUpdate | deleteDevice | deleteDevices => rfl

theorem RefreshedAs.succ {i : ℕ} {request : DeviceAuthRequest}
    {device : Device} (h : RefreshedAs e w row k i request device) :
    RefreshedAs e w row (k + 1) i request device := by
  obtain ⟨j, hj, hdevice⟩ := h
  exact ⟨j, by omega, hdevice⟩

theorem TaskSettled.kept {i : ℕ} {task : WorkerTask}
    (h : TaskSettled e w deviceId row k i task)
    (hid : (row (k + 1)).id = (row k).id)
    (hread : ∀ actor allowed device, task = .update actor allowed device →
      device.deviceId = deviceId →
      (row (k + 1)).isAuthorized = (row k).isAuthorized ∧
        (row (k + 1)).remark = (row k).remark) :
    TaskSettled e w deviceId row (k + 1) i task := by
  cases task with
  | heartbeat request phase =>
      cases phase with
      | known device =>
          intro hrequest
          rw [hid]
          exact h hrequest
      | unknown isAuthorized => exact h
      | committed id =>
          intro hrequest
          rw [hid]
          exact h hrequest
      | refreshed device => exact fun hrequest => (h hrequest).succ
      | replied data =>
          intro hrequest
          obtain ⟨device, hrefreshed, hdata⟩ := h hrequest
          exact ⟨device, hrefreshed.succ, hdata⟩
      | failed => exact h
  | update actor allowed device =>
      obtain ⟨hdevice, hfields⟩ := h
      refine ⟨by rw [hid]; exact hdevice, fun hsame => ?_⟩
      obtain ⟨hauthorized, hremark⟩ := hread actor allowed device rfl hsame
      rw [hauthorized, hremark]
      exact hfields hsame
  | finished => trivial

theorem TaskSettled.advanced {i : ℕ} {request : DeviceAuthRequest}
    {phase : HeartbeatPhase} {env : ProcessEnv}
    (h : TaskSettled e w deviceId row k i (.heartbeat request phase))
    (hkeyed : (w k).tables.Keyed)
    (hrow : (w k).tables.device? deviceId = some (row k))
    (hid : (row (k + 1)).id = (row k).id) (he : e k = .advance i env)
    (htask : (w k).tasks[i]? = some (.heartbeat request phase)) :
    TaskSettled e w deviceId row (k + 1) i (.heartbeat request
      (advanceHeartbeat request env (w k).tables phase).2) := by
  have hfound : (w k).tables.row? (row k).id = some (row k) :=
    Database.row?_of_mem hkeyed (Database.mem_of_device? hrow)
  cases phase with
  | known device =>
      simp only [advanceHeartbeat]
      have hsettled : TaskSettled e w deviceId row (k + 1) i
          (.heartbeat request (.committed device.id)) := by
        intro hrequest
        rw [hid]
        exact h hrequest
      split
      · exact hsettled
      · split
        · exact hsettled
        next hgone =>
          intro hrequest
          rw [h hrequest, hfound] at hgone
          contradiction
  | unknown isAuthorized =>
      simp only [advanceHeartbeat]
      split
      · exact fun hrequest => absurd hrequest h
      · exact h
  | committed id =>
      simp only [advanceHeartbeat]
      split
      next device hdevice =>
        intro hrequest
        rw [← h hrequest, hdevice] at hfound
        exact ⟨k, by omega, ⟨env, he⟩, ⟨id, htask⟩, Option.some.inj hfound⟩
      next hgone =>
        intro hrequest
        rw [h hrequest, hfound] at hgone
        contradiction
  | refreshed device =>
      exact fun hrequest => ⟨device, (h hrequest).succ, rfl⟩
  | replied data =>
      intro hrequest
      obtain ⟨device, hrefreshed, hdata⟩ := h hrequest
      exact ⟨device, hrefreshed.succ, hdata⟩
  | failed => exact h

theorem taskSettled_succ {i : ℕ} {task : WorkerTask}
    (h : Settled e w deviceId row k) (hnext : w (k + 1) = (w k).next B (e k))
    (hrow : (w k).tables.device? deviceId = some (row k))
    (hrow' : (w (k + 1)).tables.device? deviceId = some (row (k + 1)))
    (htask : (w (k + 1)).tasks[i]? = some task) :
    TaskSettled e w deviceId row (k + 1) i task := by
  have hid := id_succ hnext hrow hrow'
  have hdeviceId := Database.deviceId_of_device? hrow
  rw [hnext] at htask
  cases taskStep_next htask with
  | kept hold hkept =>
      refine (h.tasks i task hold).kept hid fun actor allowed device heq hd => ?_
      -- The one update of the device that may commit is this one.
      have hnone : (w k).updateOf B deviceId (e k) = none := by
        refine updateOf_of_not_updating fun j env he hj => ?_
        obtain rfl := h.alone i j ⟨actor, allowed, device, heq ▸ hold, hd⟩ hj
        exact hkept env he actor allowed device heq
      obtain ⟨hauthorized, hremark⟩ := decided_succ hnext hrow hrow' h
      rw [hnone] at hauthorized hremark
      exact ⟨hauthorized, hremark⟩
  | @selected request he =>
      rw [selectHeartbeat]
      split
      next device hdevice =>
        intro hrequest
        rw [hrequest, hrow] at hdevice
        rw [hid, Option.some.inj hdevice]
      next hnone =>
        intro hrequest
        rw [hrequest, hrow] at hnone
        cases hnone
  | advanced he hold =>
      exact (h.tasks i _ hold).advanced h.keyed hrow hid he hold
  | @updateSelected actor target data allowed device he hi hrequest hdevice =>
      have hsame : row (k + 1) = row k := by
        rw [row_succ hnext hrow hrow', he]
        rfl
      have hiff := deviceId_eq_iff h.keyed (Database.mem_of_device? hdevice)
        (Database.mem_of_device? hrow)
      rw [hdeviceId] at hiff
      rw [TaskSettled, hsame]
      refine ⟨hiff, fun heq => ?_⟩
      have hfound := Database.device?_of_mem (Database.mem_of_device? hdevice)
      rw [heq, hrow] at hfound
      rw [Option.some.inj hfound]
      exact ⟨rfl, rfl⟩
  | finished => trivial

/-- An update of the device is the only one, if it starts when no other one
is running. -/
theorem alone_succ {i j : ℕ} (h : Settled e w deviceId row k)
    (hnext : w (k + 1) = (w k).next B (e k))
    (hserial : (w k).Serial B deviceId (e k))
    (hi : (w (k + 1)).Updating deviceId i)
    (hj : (w (k + 1)).Updating deviceId j) : i = j := by
  have hcases : ∀ m, (w (k + 1)).Updating deviceId m →
      (w k).Updating deviceId m ∨
        m = (w k).tasks.length ∧ ∀ l, ¬(w k).Updating deviceId l := by
    rintro m ⟨actor, allowed, device, htask, hdevice⟩
    rw [hnext] at htask
    cases taskStep_next htask with
    | kept hold _ => exact Or.inl ⟨actor, allowed, device, hold, hdevice⟩
    | @updateSelected _ target data _ _ he hm hrequest hfound =>
        rw [Database.deviceId_of_device? hfound] at hdevice
        subst hdevice
        rw [he] at hserial
        exact Or.inr ⟨hm, hserial allowed hrequest⟩
  rcases hcases i hi with hi | ⟨hi, hnone⟩
  · rcases hcases j hj with hj | ⟨-, hnone⟩
    · exact h.alone i j hi hj
    · exact absurd hi (hnone i)
  · rcases hcases j hj with hj | ⟨hj, -⟩
    · exact absurd hj (hnone j)
    · rw [hi, hj]

theorem settled_succ (h : Settled e w deviceId row k)
    (hnext : w (k + 1) = (w k).next B (e k))
    (hserial : (w k).Serial B deviceId (e k))
    (hrow : (w k).tables.device? deviceId = some (row k))
    (hrow' : (w (k + 1)).tables.device? deviceId = some (row (k + 1))) :
    Settled e w deviceId row (k + 1) where
  keyed := by
    rw [hnext]
    exact keyed_next h.keyed
  tasks _ _ htask := taskSettled_succ h hnext hrow hrow' htask
  alone _ _ hi hj := alone_succ h hnext hserial hi hj

end

/-! ## All interleavings -/

section

variable {e : ℕ → WorkerEvent α} {t : Tables} {deviceId : String}
  {row : ℕ → Device} {n : ℕ}

theorem settled_runFrom (hkeyed : t.Keyed)
    (hrow : ∀ k ≤ n,
      (Workers.runFrom B t e k).tables.device? deviceId = some (row k))
    (hserial : ∀ k < n, (Workers.runFrom B t e k).Serial B deviceId (e k))
    {k : ℕ} (hk : k ≤ n) :
    Settled e (Workers.runFrom B t e) deviceId row k := by
  induction k with
  | zero =>
      refine ⟨hkeyed, fun i task htask => ?_, fun i j hi => ?_⟩
      · cases htask
      · obtain ⟨actor, allowed, device, htask, -⟩ := hi
        cases htask
  | succ k ih =>
      exact settled_succ (ih (by omega)) rfl (hserial k hk) (hrow k (by omega))
        (hrow (k + 1) hk)

/-- **Heartbeats never undo or hide an admin's decision.**  In every
interleaving of heartbeats, updates and deletions in which the device keeps its
row and no two updates of it overlap, its `is_authorized` and its `remark` are
those of the last update that names them.  None of its heartbeats fails, each
step of one brings it closer to its reply, and it replies with what was stored
at its refresh. -/
theorem admin_decision_stands (hkeyed : t.Keyed)
    (hrow : ∀ k ≤ n,
      (Workers.runFrom B t e k).tables.device? deviceId = some (row k))
    (hserial : ∀ k < n, (Workers.runFrom B t e k).Serial B deviceId (e k)) :
    (∀ k ≤ n,
      LastWrite (fun j => ((Workers.runFrom B t e j).updateOf B deviceId
          (e j)).bind (·.isAuthorized)) 0 k
        (row 0).isAuthorized (row k).isAuthorized ∧
      LastWrite (fun j => ((Workers.runFrom B t e j).updateOf B deviceId
          (e j)).bind (·.remark)) 0 k
        (row 0).remark (row k).remark) ∧
    ∀ k ≤ n, ∀ (i : ℕ) request phase,
      (Workers.runFrom B t e k).tasks[i]? =
        some (.heartbeat request phase) →
      request.deviceId = deviceId →
      phase ≠ .failed ∧
      (∀ env, e k = .advance i env → ∃ phase',
        (Workers.runFrom B t e (k + 1)).tasks[i]? =
          some (.heartbeat request phase') ∧
        phase'.remaining ≤ phase.remaining - 1) ∧
      ∀ data, phase = .replied data →
        ∃ j < k, (∃ env, e j = .advance i env) ∧
          (∃ id, (Workers.runFrom B t e j).tasks[i]? =
            some (.heartbeat request (.committed id))) ∧
          data = responseData (row j) := by
  have hsettled := fun k hk => settled_runFrom hkeyed hrow hserial (k := k) hk
  constructor
  · intro k hk
    have hstep := fun j hj => decided_succ (B := B) rfl
      (hrow j (by omega)) (hrow (j + 1) hj) (hsettled j (by omega))
    exact ⟨LastWrite.of_steps (x := fun j => (row j).isAuthorized)
        (Nat.zero_le k) fun j _ hj => (hstep j (by omega)).1,
      LastWrite.of_steps (x := fun j => (row j).remark)
        (Nat.zero_le k) fun j _ hj => (hstep j (by omega)).2⟩
  · intro k hk i request phase htask hrequest
    have htaskSettled := (hsettled k hk).tasks i _ htask
    refine ⟨?_, fun env he => ?_, ?_⟩
    · rintro rfl
      exact htaskSettled hrequest
    · exact ⟨_, getElem?_runFrom_advance he htask, remaining_advanceHeartbeat⟩
    · rintro data rfl
      obtain ⟨device, ⟨j, hj, henv, hphase, hdevice⟩, hdata⟩ :=
        htaskSettled hrequest
      exact ⟨j, hj, henv, hphase, hdata.trans (by rw [hdevice])⟩

end

/-! ## An update between two steps of a heartbeat -/

/-- The device is disabled after a heartbeat has read its row. -/
def exampleInterleaving : ℕ → WorkerEvent String
  | 0 => .select ⟨"D", some "viewer", none⟩
  | 1 => .selectUpdate "admin" (exampleUpdate "D")
  | 2 => .commitUpdate 1 (.quiet quietBroadcast)
  | _ => .advance 0 ⟨300, 300, 300, 300⟩

def interleavedWorkers : ℕ → Workers :=
  Workers.runFrom .plain (oneDevice "D") exampleInterleaving

def interleavedRow (k : ℕ) : Device :=
  ((interleavedWorkers k).tables.device? "D").getD (registeredDevice "D")

theorem admin_decision_stands_disabled :
    (LastWrite (fun j => ((interleavedWorkers j).updateOf .plain "D"
        (exampleInterleaving j)).bind (·.isAuthorized)) 0 6
      (interleavedRow 0).isAuthorized (interleavedRow 6).isAuthorized ∧
    LastWrite (fun j => ((interleavedWorkers j).updateOf .plain "D"
        (exampleInterleaving j)).bind (·.remark)) 0 6
      (interleavedRow 0).remark (interleavedRow 6).remark) ∧
    HeartbeatPhase.replied (responseData (interleavedRow 6)) ≠ .failed ∧
    (∀ env, exampleInterleaving 6 = .advance 0 env → ∃ phase',
      (interleavedWorkers 7).tasks[0]? = some (.heartbeat
        ⟨"D", some "viewer", none⟩ phase') ∧ phase'.remaining ≤ 0 - 1) ∧
    ∀ data, HeartbeatPhase.replied (responseData (interleavedRow 6)) =
        .replied data →
      ∃ j < 6, (∃ env, exampleInterleaving j = .advance 0 env) ∧
        (∃ id, (interleavedWorkers j).tasks[0]? = some (.heartbeat
          ⟨"D", some "viewer", none⟩ (.committed id))) ∧
        data = responseData (interleavedRow j) := by
  have hrow : ∀ k ≤ 6, (interleavedWorkers k).tables.device? "D" =
      some (interleavedRow k) := by
    intro k hk
    interval_cases k <;> decide +kernel
  have hserial : ∀ k < 6, (interleavedWorkers k).Serial .plain "D"
      (exampleInterleaving k) := by
    intro k hk
    rcases eq_or_ne k 1 with rfl | hne
    · rintro allowed - i ⟨actor, allowed', device, htask, -⟩
      have htasks : (interleavedWorkers 1).tasks = [.heartbeat
          ⟨"D", some "viewer", none⟩ (.known (registeredDevice "D"))] := by
        decide +kernel
      rw [htasks] at htask
      rcases i with _ | i <;> cases htask
    · interval_cases k <;> trivial
  have hkeyed : (oneDevice "D").Keyed := List.nodup_singleton _
  -- The heartbeat has replied, and what it says is the decision of the admin.
  have hreplied : (interleavedWorkers 6).tasks[0]? = some (.heartbeat
      ⟨"D", some "viewer", none⟩
      (.replied (responseData (interleavedRow 6)))) := by
    decide +kernel
  obtain ⟨hlast, hreplies⟩ := admin_decision_stands hkeyed hrow hserial
  exact ⟨hlast 6 le_rfl, hreplies 6 le_rfl 0 _ _ hreplied rfl⟩

/-- The heartbeat replies that the device is not authorised. -/
example : (interleavedRow 6).isAuthorized = false := by
  decide +kernel

end PyAuth.Server
