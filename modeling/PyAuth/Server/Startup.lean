import Mathlib.Logic.Function.Basic
import PyAuth.Server.ActiveSessions
import PyAuth.Server.BackOffice

/-!
# Starting the workers

Every worker of a host initialises the database before it serves, unless
another one holds the lock, and gives the lock back whatever happens.  Workers
may be started and killed at any time, and those which serve already handle
requests meanwhile.
-/

namespace PyAuth.Server

open Support

/-! ## The initialisation -/

/-- Where a worker is. -/
inductive Stage
  | off
  | starting
  /-- The lock is held, before `create_all`. -/
  | creating
  /-- Before `init_admin_user` looks for the administrator. -/
  | checking
  /-- There was none. -/
  | inserting
  /-- Before the lock is given back. -/
  | unlocking
  | serving
deriving DecidableEq

/-- Between taking the lock and giving it back. -/
def Stage.critical : Stage → Bool
  | .creating | .checking | .inserting | .unlocking => true
  | .off | .starting | .serving => false

/-- `ADMIN_USERNAME` and `ADMIN_PASSWORD`. -/
structure AdminSettings where
  username : String
  password : String

def Users.empty : Users := ⟨[], List.nodup_nil, List.nodup_nil⟩

/-- What `create_all` comes to; the `users` table may be there when it
raises. -/
inductive CreateAll
  | done
  | raised (created : Bool)
deriving DecidableEq

/-- `Base.metadata.create_all`; `none` stands for a missing table. -/
def createAll (users : Option Users) : CreateAll → Option Users × Stage
  | .done => (some (users.getD .empty), .checking)
  | .raised created =>
      (if created then some (users.getD .empty) else users, .unlocking)

/-- The first part of `init_admin_user`; `fails` when the query raises. -/
def checkAdmin (A : AdminSettings) (users : Option Users) (fails : Bool) :
    Stage :=
  match users with
  | none => .unlocking
  | some users =>
      if fails then .unlocking
      else
        match users.byUsername? A.username with
        | some _ => .unlocking
        | none => .inserting

/-- The row `auth.create_user` adds. -/
def AdminSettings.row (A : AdminSettings) (env : UserEnv)
    (passwordHash : String) (users : Users) : User :=
  { id := users.nextId
    username := A.username
    passwordHash := passwordHash
    isActive := true
    isAdmin := true
    createdAt := env.createdAt
    updatedAt := env.updatedAt }

/-- `auth.create_user`; a name which was taken meanwhile fails the commit. -/
def insertAdmin (A : AdminSettings) (users : Option Users) (env : UserEnv) :
    Option Users :=
  match users with
  | none => none
  | some users =>
      match hname : users.byUsername? A.username with
      | some _ => some users
      | none =>
          match env.hash A.password with
          | none => some users
          | some passwordHash =>
              if env.commitFails then some users
              else some (users.insert (A.row env passwordHash users) rfl hname)

theorem critical_createAll (users : Option Users) (outcome : CreateAll) :
    (createAll users outcome).2.critical = true := by
  cases outcome <;> rfl

theorem critical_checkAdmin (A : AdminSettings) (users : Option Users)
    (fails : Bool) : (checkAdmin A users fails).critical = true := by
  rcases users with _ | users
  · rfl
  rw [checkAdmin]
  split
  · rfl
  · split <;> rfl

/-- The administrator is inserted under a name which is free, or nothing
changes; where nothing fails the name is there afterwards. -/
theorem insertAdmin_spec (A : AdminSettings) (users : Users) (env : UserEnv) :
    (∃ row users', users.byUsername? A.username = none ∧
      users'.rows = users.rows ++ [row] ∧ row.username = A.username ∧
      row.IsActiveAdmin ∧ insertAdmin A (some users) env = some users') ∨
    insertAdmin A (some users) env = some users ∧
      ((env.hash A.password).isSome → env.commitFails = false →
        (users.byUsername? A.username).isSome) := by
  rw [insertAdmin]
  split
  · next hname =>
      exact .inr ⟨rfl, fun _ _ => by rw [hname]; rfl⟩
  next hname =>
    cases hhash : env.hash A.password with
    | none => exact .inr ⟨rfl, nofun⟩
    | some passwordHash =>
        dsimp only
        split
        · next hfails =>
            exact .inr ⟨rfl, fun _ hcommits => by simp [hfails] at hcommits⟩
        · exact .inl ⟨A.row env passwordHash users, _, hname, rfl, rfl,
            ⟨rfl, rfl⟩, rfl⟩

/-! ## The host -/

/-- The workers of a host, the one whose descriptor is locked, and the `users`
table. -/
structure Host where
  stages : ℕ → Stage
  holder : Option ℕ
  users : Option Users

/-- Steps of the worker `i`; `others` are the tables besides. -/
inductive StartupStep (τ : Type)
  | start (i : ℕ)
  | openFails (i : ℕ)
  | lock (i : ℕ)
  | createAll (i : ℕ) (outcome : CreateAll)
  | checkAdmin (i : ℕ) (fails : Bool)
  | insertAdmin (i : ℕ) (env : UserEnv)
  | unlock (i : ℕ)
  | kill (i : ℕ)
  | request (i : ℕ) (call : OfficeCall τ) (others : Tables)

namespace Host

def set (h : Host) (i : ℕ) (stage : Stage) : Host :=
  { h with stages := Function.update h.stages i stage }

variable {τ : Type} (C : Credentials τ) (lifetime : ℤ) (A : AdminSettings)

/-- `init_database` step by step, and the requests which are served. -/
def step (h : Host) : StartupStep τ → Option Host
  | .start i => if h.stages i = .off then some (h.set i .starting) else none
  | .openFails i =>
      if h.stages i = .starting then some (h.set i .serving) else none
  | .lock i =>
      if h.stages i = .starting then
        match h.holder with
        -- `BlockingIOError`.
        | some _ => some (h.set i .serving)
        | none => some { h.set i .creating with holder := some i }
      else none
  | .createAll i outcome =>
      if h.stages i = .creating then
        some { h.set i (createAll h.users outcome).2 with
          users := (createAll h.users outcome).1 }
      else none
  | .checkAdmin i fails =>
      if h.stages i = .checking then
        some (h.set i (checkAdmin A h.users fails))
      else none
  | .insertAdmin i env =>
      if h.stages i = .inserting then
        some { h.set i .unlocking with users := insertAdmin A h.users env }
      else none
  | .unlock i =>
      if h.stages i = .unlocking then
        some { h.set i .serving with holder := none }
      else none
  | .kill i =>
      if h.stages i = .off then none
      else
        some { h.set i .off with
          holder := if h.holder = some i then none else h.holder }
  | .request i call others =>
      if h.stages i = .serving then
        some { h with
          users := h.users.map fun users =>
            (call.handle C lifetime ⟨others, users⟩).1.users }
      else none

/-- What a step can do. -/
inductive Stepped (h : Host) : StartupStep τ → Host → Prop
  | start {i : ℕ} : h.stages i = .off → Stepped h (.start i) (h.set i .starting)
  | openFails {i : ℕ} : h.stages i = .starting →
      Stepped h (.openFails i) (h.set i .serving)
  | skipped {i : ℕ} : h.stages i = .starting → h.holder.isSome →
      Stepped h (.lock i) (h.set i .serving)
  | locked {i : ℕ} : h.stages i = .starting → h.holder = none →
      Stepped h (.lock i) { h.set i .creating with holder := some i }
  | createAll {i : ℕ} {outcome : CreateAll} : h.stages i = .creating →
      Stepped h (.createAll i outcome)
        { h.set i (createAll h.users outcome).2 with
          users := (createAll h.users outcome).1 }
  | checkAdmin {i : ℕ} {fails : Bool} : h.stages i = .checking →
      Stepped h (.checkAdmin i fails) (h.set i (checkAdmin A h.users fails))
  | insertAdmin {i : ℕ} {env : UserEnv} : h.stages i = .inserting →
      Stepped h (.insertAdmin i env)
        { h.set i .unlocking with users := insertAdmin A h.users env }
  | unlock {i : ℕ} : h.stages i = .unlocking →
      Stepped h (.unlock i) { h.set i .serving with holder := none }
  | kill {i : ℕ} : h.stages i ≠ .off →
      Stepped h (.kill i) { h.set i .off with
        holder := if h.holder = some i then none else h.holder }
  | request {i : ℕ} {call : OfficeCall τ} {others : Tables} :
      h.stages i = .serving → Stepped h (.request i call others)
        { h with
          users := h.users.map fun users =>
            (call.handle C lifetime ⟨others, users⟩).1.users }

variable {C lifetime A} {h h' : Host} {e : StartupStep τ}

theorem stepped (hstep : h.step C lifetime A e = some h') :
    Stepped C lifetime A h e h' := by
  rcases e with i | i | i | ⟨i, outcome⟩ | ⟨i, fails⟩ | ⟨i, env⟩ | i | i |
    ⟨i, call, others⟩
  · obtain ⟨hstage, heq⟩ := Option.ite_none_right_eq_some.mp hstep
    exact Option.some.inj heq ▸ .start hstage
  · obtain ⟨hstage, heq⟩ := Option.ite_none_right_eq_some.mp hstep
    exact Option.some.inj heq ▸ .openFails hstage
  · obtain ⟨hstage, heq⟩ := Option.ite_none_right_eq_some.mp hstep
    cases hholder : h.holder with
    | none =>
        rw [hholder] at heq
        exact Option.some.inj heq ▸ .locked hstage hholder
    | some j =>
        rw [hholder] at heq
        exact Option.some.inj heq ▸ .skipped hstage (by rw [hholder]; rfl)
  · obtain ⟨hstage, heq⟩ := Option.ite_none_right_eq_some.mp hstep
    exact Option.some.inj heq ▸ .createAll hstage
  · obtain ⟨hstage, heq⟩ := Option.ite_none_right_eq_some.mp hstep
    exact Option.some.inj heq ▸ .checkAdmin hstage
  · obtain ⟨hstage, heq⟩ := Option.ite_none_right_eq_some.mp hstep
    exact Option.some.inj heq ▸ .insertAdmin hstage
  · obtain ⟨hstage, heq⟩ := Option.ite_none_right_eq_some.mp hstep
    exact Option.some.inj heq ▸ .unlock hstage
  · obtain ⟨hstage, heq⟩ := Option.ite_none_left_eq_some.mp hstep
    exact Option.some.inj heq ▸ .kill hstage
  · obtain ⟨hstage, heq⟩ := Option.ite_none_right_eq_some.mp hstep
    exact Option.some.inj heq ▸ .request hstage

/-! ## The lock -/

/-- The holder of the lock is the worker between taking and giving it back. -/
def Locked (h : Host) : Prop :=
  ∀ i, (h.stages i).critical = true ↔ h.holder = some i

theorem Locked.set (hl : h.Locked) {i : ℕ} {stage : Stage} {holder : Option ℕ}
    {users : Option Users} (hi : stage.critical = true ↔ holder = some i)
    (hothers : ∀ j, j ≠ i → (holder = some j ↔ h.holder = some j)) :
    Locked { h.set i stage with holder := holder, users := users } := by
  intro j
  change (Function.update h.stages i stage j).critical = true ↔ holder = some j
  by_cases hj : j = i
  · rw [hj, Function.update_self]
    exact hi
  · rw [Function.update_of_ne hj, hothers j hj]
    exact hl j

theorem Locked.step (hl : h.Locked) (hstep : h.step C lifetime A e = some h') :
    h'.Locked := by
  have hsame {i : ℕ} {stage : Stage} {users : Option Users}
      (hstage : stage.critical = (h.stages i).critical) :
      Locked { h.set i stage with users := users } :=
    hl.set (by rw [hstage]; exact hl i) fun _ _ => Iff.rfl
  rcases stepped hstep with hi | hi | ⟨hi, -⟩ | ⟨hi, hnone⟩ | hi | hi | hi |
    @⟨i, hi⟩ | @⟨i, hi⟩ | hi
  · exact hsame (by rw [hi]; rfl)
  · exact hsame (by rw [hi]; rfl)
  · exact hsame (by rw [hi]; rfl)
  · refine hl.set (by simp [Stage.critical]) fun j hj => ?_
    rw [hnone]
    simpa using hj.symm
  · exact hsame (by rw [hi, critical_createAll]; rfl)
  · exact hsame (by rw [hi, critical_checkAdmin]; rfl)
  · exact hsame (by rw [hi]; rfl)
  · have hholder : h.holder = some i := (hl i).mp (by rw [hi]; rfl)
    refine hl.set (by simp [Stage.critical]) fun j hj => ?_
    rw [hholder]
    simpa using hj.symm
  · refine hl.set ?_ fun j hj => ?_
    · by_cases hholder : h.holder = some i
      · rw [if_pos hholder]
        simp [Stage.critical]
      · rw [if_neg hholder]
        simp [Stage.critical, hholder]
    · by_cases hholder : h.holder = some i
      · rw [if_pos hholder, hholder]
        simpa using hj.symm
      · rw [if_neg hholder]
  · exact hl

/-- Nobody initialises the database, and the lock is free. -/
structure Idle (h : Host) : Prop where
  stages : ∀ i, (h.stages i).critical = false
  holder : h.holder = none

theorem Idle.locked (hidle : h.Idle) : h.Locked := by
  intro i
  rw [hidle.stages i, hidle.holder]
  simp

theorem Locked.eq (hl : h.Locked) {i j : ℕ}
    (hi : (h.stages i).critical = true) (hj : (h.stages j).critical = true) :
    i = j :=
  Option.some.inj (((hl i).mp hi).symm.trans ((hl j).mp hj))

/-! ## The administrator is added once -/

/-- The users as they were at first, or with an administrator added to them. -/
inductive Initialised (A : AdminSettings) (users : Option Users) :
    Option Users → Prop
  | untouched : Initialised A users users
  | created : Initialised A users (some (users.getD .empty))
  | added {row : User} {users' : Users} :
      (users.getD .empty).byUsername? A.username = none →
      users'.rows = (users.getD .empty).rows ++ [row] →
      row.username = A.username → row.IsActiveAdmin →
      Initialised A users (some users')

/-- The step is none of a worker which serves. -/
def IsStartup : StartupStep τ → Prop
  | .request _ _ _ => False
  | _ => True

theorem Initialised.createAll {users users' : Option Users}
    (hu : Initialised A users users') (outcome : CreateAll) :
    Initialised A users (Server.createAll users' outcome).1 := by
  have hcreated : Initialised A users (some (users'.getD .empty)) := by
    cases hu with
    | untouched => exact .created
    | created => exact .created
    | added hnone hrows hname hadmin => exact .added hnone hrows hname hadmin
  rcases outcome with _ | created
  · exact hcreated
  · cases created with
    | true => exact hcreated
    | false => exact hu

theorem Initialised.insertAdmin {users users' : Option Users}
    (hu : Initialised A users users') (env : UserEnv) :
    Initialised A users (Server.insertAdmin A users' env) := by
  rcases users' with _ | users'
  · exact hu
  rcases insertAdmin_spec A users' env with
    ⟨row, users'', hnone, hrows, hname, hadmin, heq⟩ | ⟨heq, -⟩
  all_goals rw [heq]
  · cases hu with
    | untouched => exact .added hnone hrows hname hadmin
    | created => exact .added hnone hrows hname hadmin
    | @added row' _ hnone' hrows' hname' hadmin' =>
        -- The name is taken by the row which was added.
        have hmem : row' ∈ users'.rows := by
          rw [hrows']
          exact List.mem_append_right _ (List.mem_singleton_self _)
        rw [← hname', Users.byUsername?_of_mem hmem] at hnone
        contradiction
  · exact hu

theorem Initialised.step {users : Option Users}
    (hu : Initialised A users h.users) (he : IsStartup e)
    (hstep : h.step C lifetime A e = some h') :
    Initialised A users h'.users := by
  rcases stepped hstep with hi | hi | ⟨hi, -⟩ | ⟨hi, -⟩ | hi | hi | hi | hi | hi |
    hi
  · exact hu
  · exact hu
  · exact hu
  · exact hu
  · exact hu.createAll _
  · exact hu
  · exact hu.insertAdmin _
  · exact hu
  · exact hu
  · exact he.elim

/-- **The administrator is added once.**  However many workers are started and
killed, and whatever fails, one at a time initialises the database, and all of
them together leave the accounts as they were or add one administrator. -/
theorem admin_added_once {es : List (StartupStep τ)} (hidle : h.Idle)
    (hrun : Run (fun h e h' => h.step C lifetime A e = some h') h es h') :
    (∀ i j, (h'.stages i).critical = true → (h'.stages j).critical = true →
        i = j) ∧
      ((∀ e ∈ es, IsStartup e) → Initialised A h.users h'.users) := by
  constructor
  · have hlocked : h'.Locked :=
      hrun.invariant (I := Locked) hidle.locked fun _ _ _ hl hstep =>
        hl.step hstep
    exact fun _ _ => hlocked.eq
  · intro hes
    have hrun' : Run (fun h e h' => IsStartup e ∧
        h.step C lifetime A e = some h') h es h' :=
      hrun.of_mem fun _ _ _ he hstep => ⟨hes _ he, hstep⟩
    exact hrun'.invariant (I := fun h' => Initialised A h.users h'.users)
      .untouched fun _ _ _ hu hstep => hu.step hstep.1 hstep.2

/-! ## The administrator is there -/

/-- There is an account of the name `ADMIN_USERNAME`. -/
def HasAdmin (A : AdminSettings) (users : Option Users) : Prop :=
  ∃ table, users = some table ∧ ∃ row ∈ table.rows, row.username = A.username

/-- Nothing fails, no worker is killed while it holds the lock, and nobody
deletes the administrator. -/
def Faultless (A : AdminSettings) (h : Host) : StartupStep τ → Prop
  | .start _ | .lock _ | .unlock _ => True
  | .openFails _ => False
  | .createAll _ outcome => outcome = .done
  | .checkAdmin _ fails => fails = false
  | .insertAdmin _ env => (env.hash A.password).isSome ∧ env.commitFails = false
  | .kill i => (h.stages i).critical = false
  | .request _ call _ => ∀ userId row table, call.request =
      .users (.delete userId) → h.users = some table →
        table.byId? userId = some row → row.username ≠ A.username

theorem hasAdmin_of_byUsername? {table : Users}
    (hname : (table.byUsername? A.username).isSome) :
    HasAdmin A (some table) := by
  obtain ⟨row, hrow⟩ := Option.isSome_iff_exists.mp hname
  exact ⟨table, rfl, row, Users.mem_of_byUsername? hrow⟩

theorem hasAdmin_request {call : OfficeCall τ} {others : Tables} {i : ℕ}
    (hadmin : HasAdmin A h.users)
    (hfaultless : Faultless A h (.request i call others)) :
    HasAdmin A (h.users.map fun users =>
      (call.handle C lifetime ⟨others, users⟩).1.users) := by
  obtain ⟨table, htable, row, hmem, hname⟩ := hadmin
  rw [htable, Option.map_some]
  refine ⟨_, rfl, ?_⟩
  have hchanges : call.request.Changes table
      (call.handle C lifetime ⟨others, table⟩).1.users :=
    changes_call C lifetime call ⟨others, table⟩
  generalize (call.handle C lifetime ⟨others, table⟩).1.users = table' at hchanges ⊢
  rcases hchanges with _ | hrows | @⟨userId, columns, updatedAt⟩ |
    @⟨userId, hrequest⟩
  · exact ⟨row, hmem, hname⟩
  · rw [hrows]
    exact ⟨row, List.mem_append_left _ hmem, hname⟩
  · refine ⟨_, List.mem_map_of_mem hmem, ?_⟩
    split <;> exact hname
  · refine ⟨row, List.mem_filter.mpr ⟨hmem, ?_⟩, hname⟩
    have hne : row.id ≠ userId := by
      rintro rfl
      exact hfaultless _ row table hrequest htable
        (Users.byId?_of_mem hmem) hname
    simpa using hne

/-- What a worker has reached at a stage. -/
def Reached (A : AdminSettings) (holder : Option ℕ) (users : Option Users) :
    Stage → Prop
  | .checking | .inserting => users.isSome
  | .unlocking => HasAdmin A users
  -- Somebody else is at it, or was.
  | .serving => HasAdmin A users ∨ holder.isSome
  | .off | .starting | .creating => True

theorem Reached.mono {holder holder' : Option ℕ} {users users' : Option Users}
    {stage : Stage} (hr : Reached A holder users stage)
    (htable : users.isSome → users'.isSome)
    (hadmin : HasAdmin A users → HasAdmin A users')
    (hholder : holder.isSome → HasAdmin A users' ∨ holder'.isSome) :
    Reached A holder' users' stage := by
  rcases stage with _ | _ | _ | _ | _ | _ | _
  · trivial
  · trivial
  · trivial
  · exact htable hr
  · exact htable hr
  · exact hadmin hr
  · rcases hr with hr | hr
    · exact .inl (hadmin hr)
    · exact hholder hr

def Prepared (A : AdminSettings) (h : Host) : Prop :=
  ∀ i, Reached A h.holder h.users (h.stages i)

theorem Prepared.set (hp : h.Prepared A) {i : ℕ} {stage : Stage}
    {holder : Option ℕ} {users : Option Users} (hi : Reached A holder users stage)
    (htable : h.users.isSome → users.isSome)
    (hadmin : HasAdmin A h.users → HasAdmin A users)
    (hholder : h.holder.isSome → HasAdmin A users ∨ holder.isSome) :
    Prepared A { h.set i stage with holder := holder, users := users } := by
  intro j
  change Reached A holder users (Function.update h.stages i stage j)
  by_cases hj : j = i
  · rw [hj, Function.update_self]
    exact hi
  · rw [Function.update_of_ne hj]
    exact (hp j).mono htable hadmin hholder

theorem hasAdmin_getD {users : Option Users} (hadmin : HasAdmin A users) :
    HasAdmin A (some (users.getD .empty)) := by
  obtain ⟨table, rfl, hrow⟩ := hadmin
  exact ⟨table, rfl, hrow⟩

/-- Where nothing fails the administrator is there after the insertion. -/
theorem hasAdmin_insertAdmin {users : Option Users} {env : UserEnv}
    (htable : users.isSome) (hhash : (env.hash A.password).isSome)
    (hcommits : env.commitFails = false) :
    HasAdmin A (Server.insertAdmin A users env) := by
  obtain ⟨table, rfl⟩ := Option.isSome_iff_exists.mp htable
  rcases insertAdmin_spec A table env with
    ⟨row, table', -, hrows, hname, -, heq⟩ | ⟨heq, hthere⟩
  all_goals rw [heq]
  · refine ⟨table', rfl, row, ?_, hname⟩
    rw [hrows]
    exact List.mem_append_right _ (List.mem_singleton_self _)
  · exact hasAdmin_of_byUsername? (hthere hhash hcommits)

theorem Prepared.step (hl : h.Locked) (hp : h.Prepared A)
    (hfaultless : Faultless A h e)
    (hstep : h.step C lifetime A e = some h') : h'.Prepared A := by
  rcases stepped hstep with hi | hi | ⟨hi, hholder⟩ | ⟨hi, hnone⟩ |
    @⟨i, outcome, hi⟩ | @⟨i, fails, hi⟩ | @⟨i, env, hi⟩ | @⟨i, hi⟩ | @⟨i, hi⟩ |
    @⟨i, call, others, hi⟩
  · exact hp.set trivial id id Or.inr
  · exact hfaultless.elim
  · exact hp.set (.inr hholder) id id Or.inr
  · exact hp.set trivial id id fun _ => .inr rfl
  · obtain rfl : outcome = .done := hfaultless
    exact hp.set rfl (fun _ => rfl) hasAdmin_getD Or.inr
  · -- The name is looked up in the table.
    refine hp.set ?_ id id Or.inr
    have htable := hp i
    rw [hi] at htable
    obtain ⟨table, htable⟩ := Option.isSome_iff_exists.mp htable
    obtain rfl : fails = false := hfaultless
    rw [htable, Server.checkAdmin, if_neg Bool.false_ne_true]
    split
    · next hname =>
        exact hasAdmin_of_byUsername? (by rw [hname]; rfl)
    · exact rfl
  · have htable := hp i
    rw [hi] at htable
    have hadmin := hasAdmin_insertAdmin htable hfaultless.1 hfaultless.2
    refine hp.set hadmin (fun _ => ?_) (fun _ => hadmin) Or.inr
    obtain ⟨table, heq, -⟩ := hadmin
    rw [heq]
    rfl
  · have hadmin := hp i
    rw [hi] at hadmin
    exact hp.set (.inl hadmin) id id fun _ => .inl hadmin
  · have hholder : h.holder ≠ some i := by
      intro hholder
      have hcritical := (hl i).mpr hholder
      rw [hfaultless] at hcritical
      contradiction
    rw [if_neg hholder]
    exact hp.set trivial id id Or.inr
  · intro j
    refine (hp j).mono (fun hsome => ?_) (fun hadmin => ?_) Or.inr
    · rw [Option.isSome_map]
      exact hsome
    · exact hasAdmin_request hadmin hfaultless

/-- **After the startup the administrator is there.**  In whichever order the
workers of a host take their steps, those which serve already among them, once
one of them serves and none is initialising the database, the account of
`ADMIN_USERNAME` exists, unless something failed. -/
theorem admin_there_after_startup {es : List (StartupStep τ)}
    (hoff : ∀ i, h.stages i = .off) (hfree : h.holder = none)
    (hrun : Run (fun h e h' => Faultless A h e ∧
      h.step C lifetime A e = some h') h es h')
    (hdone : ∀ i, (h'.stages i).critical = false) {i : ℕ}
    (hserving : h'.stages i = .serving) : HasAdmin A h'.users := by
  have hidle : h.Idle := ⟨fun i => by rw [hoff i]; rfl, hfree⟩
  have hprepared : h'.Locked ∧ h'.Prepared A := by
    refine hrun.invariant (I := fun h => h.Locked ∧ h.Prepared A)
      ⟨hidle.locked, fun j => ?_⟩ fun _ _ _ ⟨hl, hp⟩ ⟨hfaultless, hstep⟩ =>
        ⟨hl.step hstep, hp.step hl hfaultless hstep⟩
    rw [hoff j]
    trivial
  have hreached := hprepared.2 i
  rw [hserving] at hreached
  refine hreached.resolve_right fun hheld => ?_
  obtain ⟨j, hj⟩ := Option.isSome_iff_exists.mp hheld
  have hcritical := (hprepared.1 j).mpr hj
  rw [hdone j] at hcritical
  contradiction

/-! ## Two workers -/

def exampleAdmin : AdminSettings := ⟨"admin", "admin123"⟩

def coldHost : Host := ⟨fun _ => .off, none, none⟩

/-- One worker initialises the database, the other one skips that. -/
def exampleSteps : List (StartupStep Payload) :=
  [.start 0, .start 1, .lock 0, .lock 1, .createAll 0 .done, .checkAdmin 0 false,
    .insertAdmin 0 ⟨fun s => some ("$5$" ++ s), 100, 100, 100, false⟩, .unlock 0]

theorem exampleSteps_isSome : (exampleSteps.foldlM
    (fun (h : Host) e => h.step .plain 3600 exampleAdmin e)
      coldHost).isSome := by
  decide +kernel

def warmHost : Host := Option.get _ exampleSteps_isSome

theorem run_exampleSteps : Run (fun (h : Host) e h' =>
    h.step .plain 3600 exampleAdmin e = some h') coldHost exampleSteps
      warmHost :=
  Run.of_foldlM (Option.some_get _).symm

theorem admin_added_once_example :
    (∀ i j, (warmHost.stages i).critical = true →
        (warmHost.stages j).critical = true → i = j) ∧
      Initialised exampleAdmin coldHost.users warmHost.users := by
  have honce := admin_added_once ⟨fun _ => rfl, rfl⟩ run_exampleSteps
  refine ⟨honce.1, honce.2 fun e he => ?_⟩
  simp only [exampleSteps, List.mem_cons, List.not_mem_nil, or_false] at he
  rcases he with rfl | rfl | rfl | rfl | rfl | rfl | rfl | rfl
  all_goals trivial

theorem admin_there_after_startup_example :
    HasAdmin exampleAdmin warmHost.users := by
  have hrun : Run (fun h e h' => Faultless exampleAdmin h e ∧
      h.step .plain 3600 exampleAdmin e = some h') coldHost exampleSteps
        warmHost := by
    refine run_exampleSteps.of_mem fun h e h' he hstep => ⟨?_, hstep⟩
    simp only [exampleSteps, List.mem_cons, List.not_mem_nil, or_false] at he
    rcases he with rfl | rfl | rfl | rfl | rfl | rfl | rfl | rfl
    all_goals trivial
  refine admin_there_after_startup (fun _ => rfl) rfl hrun (fun i => ?_)
    (i := 1) (by decide +kernel)
  rcases i with _ | _ | i
  · decide +kernel
  · decide +kernel
  · rfl

end Host

end PyAuth.Server
