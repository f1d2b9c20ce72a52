import PyAuth.Server.Accounts

/-!
# The log as a journal of the accounts

Which accounts exist can be told from the operation log alone, and each entry
about an account names an active account as its author.  This holds between
cleanups of the log.
-/

namespace PyAuth.Server

open Support

/-! ## Replaying the log -/

def Users.names (users : Users) : List String := users.rows.map (·.username)

/-- The names of the accounts after what an entry of the log says. -/
def OperationLog.applied (names : List String) (log : OperationLog) :
    List String :=
  match log.targetType, log.action, log.targetId with
  | "user", "create_user", some name => names ++ [name]
  | "user", "delete_user", some name => names.erase name
  | _, _, _ => names

/-- The names of the accounts after what the entries say. -/
def replayed (names : List String) (logs : List OperationLog) : List String :=
  logs.foldl OperationLog.applied names

theorem replayed_append {names : List String} {logs logs' : List OperationLog} :
    replayed names (logs ++ logs') = replayed (replayed names logs) logs' :=
  List.foldl_append

/-- Only entries about users change the accounts. -/
theorem replayed_of_ne {names : List String} {logs : List OperationLog}
    (h : ∀ log ∈ logs, log.targetType ≠ "user") : replayed names logs = names := by
  induction logs generalizing names with
  | nil => rfl
  | cons log logs ih =>
      have hlog : log.applied names = names := by
        rw [OperationLog.applied]
        split
        · next htype _ _ => exact absurd htype (h log List.mem_cons_self)
        · next htype _ _ => exact absurd htype (h log List.mem_cons_self)
        · rfl
      change replayed (log.applied names) logs = names
      rw [hlog]
      exact ih fun log' hlog' => h log' (List.mem_cons_of_mem _ hlog')

/-- The log was continued by entries which account for the accounts, in the
name of those in `authors`. -/
structure Journalled (t t' : AdminTables) (authors : List User)
    (logs : List OperationLog) : Prop where
  log : t'.operationLogs = t.operationLogs ++ logs
  names : t'.users.names = replayed t.users.names logs
  author : ∀ log ∈ logs, log.targetType = "user" →
    ∃ actor ∈ authors, actor.isActive = true ∧ actor.username = log.username

variable {t t' : AdminTables} {authors : List User}

theorem Journalled.refl : Journalled t t authors [] where
  log := (List.append_nil _).symm
  names := rfl
  author := nofun

/-- Entries about something else. -/
theorem Journalled.of_ne {logs : List OperationLog}
    (hlogs : t'.operationLogs = t.operationLogs ++ logs)
    (husers : t'.users.names = t.users.names)
    (hne : ∀ log ∈ logs, log.targetType ≠ "user") :
    Journalled t t' authors logs where
  log := hlogs
  names := by rw [husers, replayed_of_ne hne]
  author log hlog htype := absurd htype (hne log hlog)

/-- One entry about an account. -/
theorem Journalled.of_entry {log : OperationLog} {actor : User}
    (hlogs : t'.operationLogs = t.operationLogs ++ [log])
    (hnames : t'.users.names = log.applied t.users.names)
    (hactor : actor ∈ authors) (hactive : actor.isActive = true)
    (hname : log.username = actor.username) :
    Journalled t t' authors [log] where
  log := hlogs
  names := hnames
  author log' hlog' _ := by
    rw [List.mem_singleton] at hlog'
    exact ⟨actor, hactor, hactive, by rw [hlog', hname]⟩

/-! ## The endpoints -/

section

variable {actor : User} {env : UserEnv} {userId : ℤ}
  (hactor : actor ∈ t.users.rows) (hactive : actor.isActive = true)

theorem names_revise {columns : String × Bool × Bool} {updatedAt : ℚ}
    {users : Users} : (users.revise userId columns updatedAt).names =
      users.names := by
  change (users.rows.map _).map _ = users.rows.map _
  rw [List.map_map]
  apply List.map_congr_left
  intro user _
  simp only [Function.comp_apply]
  split <;> rfl

/-- The name of a deleted row goes, and no other. -/
theorem names_delete {users : Users} {row : User}
    (hrow : users.byId? userId = some row) :
    (users.delete userId).names = users.names.erase row.username := by
  obtain ⟨hmem, hid⟩ := Users.mem_of_byId? hrow
  rw [Users.names, Users.names,
    List.Nodup.erase_eq_filter users.uniqueUsername, List.filter_map]
  refine congrArg (List.map _) (List.filter_congr fun user huser => ?_)
  have hiff : user.id = userId ↔ user.username = row.username := by
    constructor
    · intro h
      rw [Users.eq_of_id huser hmem (h.trans hid.symm)]
    · intro h
      rw [List.inj_on_of_nodup_map users.uniqueUsername huser hmem h, hid]
  rw [Bool.eq_iff_iff]
  simp [hiff]

include hactor hactive

theorem journalled_createUser (body : UserCreate) :
    ∃ logs, Journalled t (createUser actor env body t).1 t.users.rows logs := by
  rcases hname : t.users.byUsername? body.username with _ | row
  · rw [createUser_of_none hname]
    rcases env.hash body.password with _ | passwordHash
    · exact ⟨[], .refl⟩
    dsimp only
    split
    · exact ⟨[], .refl⟩
    · exact ⟨_, .of_entry rfl List.map_append hactor hactive rfl⟩
  · rw [createUser_of_some hname]
    exact ⟨[], .refl⟩

theorem journalled_updateUser (body : UserUpdate) :
    ∃ logs, Journalled t (updateUser actor env userId body t).1 t.users.rows
      logs := by
  obtain ⟨row, columns, -, -, -, heq⟩ | ⟨-, hkept, -⟩ :=
    updateUser_cases actor env userId body t
  · rw [heq]
    exact ⟨_, .of_entry rfl names_revise hactor hactive rfl⟩
  · rw [hkept]
    exact ⟨[], .refl⟩

theorem journalled_deleteUser :
    ∃ logs, Journalled t (deleteUser actor env userId t).1 t.users.rows
      logs := by
  rw [deleteUser]
  split
  · exact ⟨[], .refl⟩
  split
  · exact ⟨[], .refl⟩
  rcases hrow : t.users.byId? userId with _ | row
  · exact ⟨[], .refl⟩
  dsimp only
  split
  · exact ⟨[], .refl⟩
  · exact ⟨_, .of_entry rfl (names_delete hrow) hactor hactive rfl⟩

theorem journalled_changePassword {τ : Type} {C : Credentials τ}
    (body : ChangePasswordRequest) :
    ∃ logs, Journalled t (changePassword C actor env body t).1 t.users.rows
      logs := by
  rw [changePassword]
  split
  · exact ⟨[], .refl⟩
  split
  · exact ⟨[], .refl⟩
  rcases env.hash body.newPassword with _ | passwordHash
  · exact ⟨[], .refl⟩
  dsimp only
  split
  · exact ⟨[], .refl⟩
  · exact ⟨_, .of_entry rfl names_revise hactor hactive rfl⟩

end

theorem journalled_userCall (call : UserCall) :
    ∃ logs, Journalled t (call.handle t).1 t.users.rows logs := by
  rw [UserCall.handle]
  rcases haccess : requireAdmin call.sub t.users with reply | actor
  · exact ⟨[], .refl⟩
  obtain ⟨hmem, hactive, -⟩ := requireAdmin_eq_ok haccess
  rcases call.request with body | ⟨userId, body⟩ | userId
  · exact journalled_createUser hmem hactive body
  · exact journalled_updateUser hmem hactive body
  · exact journalled_deleteUser hmem hactive

section

variable {τ : Type} {C : Credentials τ}

theorem journalled_guarded {access : Except UserReply User}
    {endpoint : User → AdminTables × OfficeReply τ}
    (h : ∀ actor, access = .ok actor →
      ∃ logs, Journalled t (endpoint actor).1 t.users.rows logs) :
    ∃ logs, Journalled t (guarded access t endpoint).1 t.users.rows logs := by
  rcases access with reply | actor
  · exact ⟨[], .refl⟩
  · exact h actor rfl

theorem journalled_call {call : OfficeCall τ} {lifetime : ℤ}
    (hkeeps : ∀ days, call.request ≠ .cleanupOperationLogs days) :
    ∃ logs, Journalled t (call.handle C lifetime t).1 t.users.rows logs := by
  rw [OfficeCall.handle]
  rcases hrequest : call.request with ⟨username, password⟩ | _ | _ | body | _ |
    configs | _ | request | ⟨page, pageSize⟩ | days
  · exact ⟨[], .refl⟩
  · exact journalled_guarded fun _ _ => ⟨[], .refl⟩
  · exact journalled_guarded fun _ _ => ⟨[], .refl⟩
  · refine journalled_guarded fun actor hactor => ?_
    obtain ⟨hmem, -, hactive⟩ := getCurrentUser_eq_ok hactor
    exact journalled_changePassword hmem hactive body
  · exact journalled_guarded fun _ _ => ⟨[], .refl⟩
  · refine journalled_guarded fun actor _ => ?_
    dsimp only
    rw [updateConfigs]
    split
    · exact ⟨[], .refl⟩
    · refine ⟨_, .of_ne rfl rfl fun log hlog => ?_⟩
      rw [List.mem_singleton.mp hlog]
      change "config" ≠ "user"
      decide
  · exact journalled_guarded fun _ _ => ⟨[], .refl⟩
  · exact journalled_userCall _
  · exact journalled_guarded fun _ _ => ⟨[], .refl⟩
  · exact absurd hrequest (hkeeps days)

variable {κ α : Type} [DecidableEq α] {T : Transport κ} {clientSecret : String}
  {B : Backend} {lifetime : ℤ}

theorem journalled_deviceEvents {actor : String} {env : RequestEnv α}
    {message : Option Json} :
    ∃ logs, Journalled t
      { t with
        toTables := (deviceEvents B actor env message t.toTables).tables }
      t.users.rows logs := by
  have hcases : (deviceEvents B actor env message t.toTables).tables =
      t.toTables ∨ _ := deviceEvents_tables_cases
  have hnew {action : String} {detail : Json} {loggedAt : ℕ → ℚ}
      {ids : List String} : ∀ log ∈ t.newLogs actor action detail loggedAt ids,
        log.targetType ≠ "user" := by
    intro log hlog
    obtain ⟨_, -, rfl⟩ := List.mem_map.mp hlog
    change "device" ≠ "user"
    decide
  rcases hcases with h | ⟨_, _, _, h⟩ | ⟨_, h⟩
  · rw [h]
    exact ⟨[], .refl⟩
  · rw [h]
    exact ⟨_, .of_ne rfl rfl hnew⟩
  · rw [h]
    exact ⟨_, .of_ne rfl rfl hnew⟩

/-- The event does not clean the log up. -/
def OfficeEvent.KeepsLog (e : OfficeEvent τ κ α) : Prop :=
  ∀ call, e = .rest call → ∀ days, call.request ≠ .cleanupOperationLogs days

theorem journalled_handle {e : OfficeEvent τ κ α} (hkeeps : e.KeepsLog)
    (site : Site τ) :
    ∃ logs, Journalled site.tables
      (e.handle C T clientSecret B lifetime site).1.tables
        site.tables.users.rows logs := by
  rcases e with call | ⟨now, id, token⟩ | ⟨id, env, message⟩ | id |
    ⟨salt, env, broadcast, body⟩
  · exact journalled_call (hkeeps call rfl)
  · rw [OfficeEvent.handle]
    split
    · exact ⟨[], .refl⟩
    · exact ⟨[], .refl⟩
  · rw [OfficeEvent.handle]
    split
    · exact ⟨[], .refl⟩
    · exact journalled_deviceEvents
  · exact ⟨[], .refl⟩
  · exact ⟨[], .of_ne (List.append_nil _).symm rfl fun _ hlog =>
      absurd hlog List.not_mem_nil⟩

/-- **The log tells which accounts exist.**  As long as the log is not cleaned
up, it grows by entries which, replayed, lead from the names there were to the
names there are, and each entry about an account names as its author somebody
who had an active account by then. -/
theorem accounts_follow_log (C : Credentials τ) (T : Transport κ)
    (clientSecret : String) (B : Backend) (lifetime : ℤ)
    (e : ℕ → OfficeEvent τ κ α) (site : Site τ) (k : ℕ)
    (hkeeps : ∀ j < k, (e j).KeepsLog) :
    ∃ logs, (officeAt C T clientSecret B lifetime e site k).tables.operationLogs =
        site.tables.operationLogs ++ logs ∧
      (officeAt C T clientSecret B lifetime e site k).tables.users.names =
        replayed site.tables.users.names logs ∧
      ∀ log ∈ logs, log.targetType = "user" → ∃ j < k, ∃ actor ∈
        (officeAt C T clientSecret B lifetime e site j).tables.users.rows,
          actor.isActive = true ∧ actor.username = log.username := by
  induction k with
  | zero => exact ⟨[], (List.append_nil _).symm, rfl, nofun⟩
  | succ k ih =>
      obtain ⟨logs, hlogs, hnames, hauthor⟩ :=
        ih fun j hj => hkeeps j (Nat.lt_succ_of_lt hj)
      obtain ⟨logs', hnew⟩ := journalled_handle (C := C) (T := T) (B := B)
        (hkeeps k (Nat.lt_succ_self k))
        (officeAt C T clientSecret B lifetime e site k)
      refine ⟨logs ++ logs', ?_, ?_, fun log hlog htype => ?_⟩
      · rw [← List.append_assoc, ← hlogs]
        exact hnew.log
      · rw [replayed_append, ← hnames]
        exact hnew.names
      · rcases List.mem_append.mp hlog with hlog | hlog
        · obtain ⟨j, hj, hactor⟩ := hauthor log hlog htype
          exact ⟨j, Nat.lt_succ_of_lt hj, hactor⟩
        · exact ⟨k, Nat.lt_succ_self k, hnew.author log hlog htype⟩

end

theorem accounts_follow_log_forgetful :
    ∃ logs, (officeAt .plain .symbolic "key" .plain 3600 exampleForgetful
        exampleSite 2).tables.operationLogs =
          exampleSite.tables.operationLogs ++ logs ∧
      (officeAt .plain .symbolic "key" .plain 3600 exampleForgetful exampleSite
        2).tables.users.names =
          replayed exampleSite.tables.users.names logs ∧
      ∀ log ∈ logs, log.targetType = "user" → ∃ j < 2, ∃ actor ∈
        (officeAt .plain .symbolic "key" .plain 3600 exampleForgetful
          exampleSite j).tables.users.rows,
          actor.isActive = true ∧ actor.username = log.username := by
  refine accounts_follow_log .plain .symbolic "key" .plain 3600
    exampleForgetful exampleSite 2 fun j _ call hcall days => ?_
  rcases j with _ | j
  · obtain rfl := OfficeEvent.rest.inj hcall
    exact nofun
  · obtain rfl := OfficeEvent.rest.inj hcall
    exact nofun

end PyAuth.Server
