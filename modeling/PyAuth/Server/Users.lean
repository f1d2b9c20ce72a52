import PyAuth.Server.DeviceEvents

/-!
# The users of the administration

The `users` table, who may act on it, and the requests that create, change and
delete users.
-/

namespace PyAuth.Server

open Support

/-! ## The table -/

/-- A row of `users`. -/
structure User where
  id : ℤ
  username : String
  passwordHash : String
  isActive : Bool
  isAdmin : Bool
  createdAt : ℚ
  updatedAt : ℚ
deriving DecidableEq

/-- The `users` table, with its primary key and the unique index on
`username`. -/
structure Users where
  rows : List User
  uniqueId : (rows.map (·.id)).Nodup
  uniqueUsername : (rows.map (·.username)).Nodup
deriving DecidableEq

structure AdminTables extends Tables where
  users : Users
deriving DecidableEq

namespace Users

/-- `db.query(User).filter(User.username == username).first()`. -/
def byUsername? (users : Users) (username : String) : Option User :=
  users.rows.find? fun u => u.username = username

/-- `db.query(User).filter(User.id == userId).first()`. -/
def byId? (users : Users) (userId : ℤ) : Option User :=
  users.rows.find? fun u => u.id = userId

/-- The next value of the integer primary key. -/
def nextId (users : Users) : ℤ :=
  (users.rows.map (·.id)).foldl max 0 + 1

theorem lt_nextId {users : Users} {user : User} (h : user ∈ users.rows) :
    user.id < users.nextId := by
  have hmax : ∀ (ids : List ℤ) (n : ℤ),
      n ≤ ids.foldl max n ∧ ∀ id ∈ ids, id ≤ ids.foldl max n := by
    intro ids
    induction ids with
    | nil => simp
    | cons id ids ih =>
        intro n
        have hrest := ih (max n id)
        rw [List.foldl_cons]
        refine ⟨by omega, fun id' hid' => ?_⟩
        rcases List.mem_cons.mp hid' with rfl | hid'
        · omega
        · exact hrest.2 id' hid'
  have hle := (hmax (users.rows.map (·.id)) 0).2 user.id
    (List.mem_map_of_mem h)
  rw [nextId]
  omega

/-- A row with a new id and a new name is appended. -/
def insert (users : Users) (user : User) (hid : user.id = users.nextId)
    (hname : users.byUsername? user.username = none) : Users where
  rows := users.rows ++ [user]
  uniqueId := by
    rw [List.map_append, List.map_singleton, List.nodup_append]
    refine ⟨users.uniqueId, List.nodup_singleton _, ?_⟩
    rintro a ha b hb rfl
    obtain ⟨row, hrow, rfl⟩ := List.mem_map.mp ha
    have hlt := lt_nextId hrow
    rw [List.mem_singleton.mp hb] at hlt
    omega
  uniqueUsername := by
    rw [List.map_append, List.map_singleton, List.nodup_append]
    refine ⟨users.uniqueUsername, List.nodup_singleton _, ?_⟩
    rintro a ha b hb rfl
    obtain ⟨row, hrow, hname'⟩ := List.mem_map.mp ha
    rw [byUsername?, List.find?_eq_none] at hname
    exact hname row hrow (by simp [hname', List.mem_singleton.mp hb])

/-- The row with this id is replaced; `f` keeps its id and its name. -/
def update (users : Users) (userId : ℤ) (f : User → User)
    (hid : ∀ u, (f u).id = u.id) (hname : ∀ u, (f u).username = u.username) :
    Users where
  rows := users.rows.map fun u => if u.id = userId then f u else u
  uniqueId := by
    have hmap : (users.rows.map fun u =>
          if u.id = userId then f u else u).map (·.id) =
        users.rows.map (·.id) := by
      rw [List.map_map]
      apply List.map_congr_left
      intro u _
      simp only [Function.comp_apply]
      split
      · exact hid u
      · rfl
    rw [hmap]
    exact users.uniqueId
  uniqueUsername := by
    have hmap : (users.rows.map fun u =>
          if u.id = userId then f u else u).map (·.username) =
        users.rows.map (·.username) := by
      rw [List.map_map]
      apply List.map_congr_left
      intro u _
      simp only [Function.comp_apply]
      split
      · exact hname u
      · rfl
    rw [hmap]
    exact users.uniqueUsername

/-- The row with this id is removed. -/
def delete (users : Users) (userId : ℤ) : Users where
  rows := users.rows.filter fun u => u.id ≠ userId
  uniqueId := users.uniqueId.sublist (List.filter_sublist.map _)
  uniqueUsername := users.uniqueUsername.sublist (List.filter_sublist.map _)

variable {users : Users} {user user' : User} {userId : ℤ} {username : String}

theorem mem_of_byUsername? (h : users.byUsername? username = some user) :
    user ∈ users.rows ∧ user.username = username :=
  ⟨List.mem_of_find?_eq_some h, by simpa using List.find?_some h⟩

theorem mem_of_byId? (h : users.byId? userId = some user) :
    user ∈ users.rows ∧ user.id = userId :=
  ⟨List.mem_of_find?_eq_some h, by simpa using List.find?_some h⟩

theorem eq_of_id (h : user ∈ users.rows) (h' : user' ∈ users.rows)
    (hid : user.id = user'.id) : user = user' :=
  List.inj_on_of_nodup_map users.uniqueId h h' hid

theorem byId?_of_mem (h : user ∈ users.rows) :
    users.byId? user.id = some user :=
  Database.find?_of_nodup users.uniqueId h

theorem byUsername?_of_mem (h : user ∈ users.rows) :
    users.byUsername? user.username = some user :=
  Database.find?_of_nodup users.uniqueUsername h

end Users

/-! ## Who acts -/

/-- The replies to requests about users. -/
inductive UserReply
  | user (row : User)
  | message (text : String)
  | httpException (status : ℕ) (detail : String)
  | internalServerError
deriving DecidableEq

/-- `get_current_user`, where `sub` is the subject of the verified token. -/
def getCurrentUser (sub : Option String) (users : Users) :
    Except UserReply User :=
  match sub.bind users.byUsername? with
  | none => .error (.httpException 401 "无效的认证凭据")
  | some user =>
      if user.isActive then .ok user
      else .error (.httpException 400 "用户已被禁用")

/-- `require_admin`. -/
def requireAdmin (sub : Option String) (users : Users) :
    Except UserReply User :=
  match getCurrentUser sub users with
  | .error reply => .error reply
  | .ok user =>
      if user.isAdmin then .ok user
      else .error (.httpException 403 "没有权限")

theorem getCurrentUser_eq_ok {sub : Option String} {users : Users}
    {user : User} (h : getCurrentUser sub users = .ok user) :
    user ∈ users.rows ∧ sub = some user.username ∧ user.isActive = true := by
  rw [getCurrentUser] at h
  cases hsub : sub with
  | none => simp [hsub] at h
  | some username =>
      rw [hsub, Option.bind_some] at h
      cases hget : users.byUsername? username with
      | none => simp [hget] at h
      | some row =>
          simp only [hget] at h
          split at h
          next hactive =>
            obtain rfl := Except.ok.inj h
            obtain ⟨hmem, hname⟩ := Users.mem_of_byUsername? hget
            exact ⟨hmem, by rw [hname], hactive⟩
          next => cases h

/-- An active administrator. -/
def User.IsActiveAdmin (user : User) : Prop :=
  user.isActive = true ∧ user.isAdmin = true

instance (user : User) : Decidable user.IsActiveAdmin :=
  inferInstanceAs (Decidable (_ ∧ _))

theorem requireAdmin_eq_ok {sub : Option String} {users : Users}
    {user : User} (h : requireAdmin sub users = .ok user) :
    user ∈ users.rows ∧ user.IsActiveAdmin := by
  rw [requireAdmin] at h
  cases hcurrent : getCurrentUser sub users with
  | error reply => simp [hcurrent] at h
  | ok row =>
      simp only [hcurrent] at h
      split at h
      next hadmin =>
        obtain rfl := Except.ok.inj h
        obtain ⟨hmem, -, hactive⟩ := getCurrentUser_eq_ok hcurrent
        exact ⟨hmem, hactive, hadmin⟩
      next => cases h

/-! ## Requests -/

/-- What happens to a request besides: what `get_password_hash` returns (`none`
when it raises), the clock readings and whether the commit fails. -/
structure UserEnv where
  hash : String → Option String
  createdAt : ℚ
  updatedAt : ℚ
  loggedAt : ℚ
  commitFails : Bool

/-- `UserCreate`; a flag of `none` is an explicit `null`. -/
structure UserCreate where
  username : String
  password : String
  isAdmin : Option Bool
  isActive : Option Bool
deriving DecidableEq

/-- `UserUpdate`; a field of `none` is unset, one of `some none` is `null`. -/
structure UserUpdate where
  password : Option (Option String)
  isAdmin : Option (Option Bool)
  isActive : Option (Option Bool)
deriving DecidableEq

/-- `user_data.model_dump(exclude_unset=True).keys()`. -/
def UserUpdate.updatedFields (body : UserUpdate) : List String :=
  (if body.password.isSome then ["password"] else []) ++
    (if body.isAdmin.isSome then ["is_admin"] else []) ++
    (if body.isActive.isSome then ["is_active"] else [])

/-- An optional flag in a `detail`. -/
def optionalBool : Option Bool → Json
  | none => .null
  | some b => .bool b

def AdminTables.log (t : AdminTables) (env : UserEnv)
    (username action targetId : String) (detail : Dict String Json) :
    List OperationLog :=
  t.operationLogs ++ [⟨t.nextLogId, username, action, "user", some targetId,
    .ofDict detail, env.loggedAt⟩]

/-- The row `create_user` adds; a `null` flag gets the default of its
column. -/
def UserCreate.row (body : UserCreate) (env : UserEnv) (passwordHash : String)
    (users : Users) : User :=
  { id := users.nextId
    username := body.username
    passwordHash := passwordHash
    isActive := body.isActive.getD true
    isAdmin := body.isAdmin.getD false
    createdAt := env.createdAt
    updatedAt := env.updatedAt }

/-- `create_user`. -/
def createUser (actor : User) (env : UserEnv) (body : UserCreate)
    (t : AdminTables) : AdminTables × UserReply :=
  match hname : t.users.byUsername? body.username with
  | some _ => (t, .httpException 400 "用户名已存在")
  | none =>
      match env.hash body.password with
      | none => (t, .internalServerError)
      | some passwordHash =>
          if env.commitFails then (t, .internalServerError)
          else
            let row := body.row env passwordHash t.users
            ({ t with
                users := t.users.insert row rfl hname
                operationLogs := t.log env actor.username "create_user"
                  body.username (.ofList
                    [("is_admin", optionalBool body.isAdmin),
                      ("is_active", optionalBool body.isActive)]) },
              .user row)

/-- The integers SQLite can be given. -/
def FitsSqlite (n : ℤ) : Prop := -maxSqliteInt - 1 ≤ n ∧ n ≤ maxSqliteInt

instance (n : ℤ) : Decidable (FitsSqlite n) :=
  inferInstanceAs (Decidable (_ ∧ _))

/-- The columns after an update: the password hash, `is_admin` and `is_active`;
`none` when hashing raises or a flag would become `NULL`. -/
def UserUpdate.columns (body : UserUpdate) (env : UserEnv) (row : User) :
    Option (String × Bool × Bool) :=
  let passwordHash :=
    match body.password with
    | some (some password) =>
        if password = "" then some row.passwordHash else env.hash password
    | none | some none => some row.passwordHash
  match passwordHash, body.isAdmin.getD (some row.isAdmin),
      body.isActive.getD (some row.isActive) with
  | some passwordHash, some isAdmin, some isActive =>
      some (passwordHash, isAdmin, isActive)
  | _, _, _ => none

/-- The row with these columns; `updated_at` moves when one of them does. -/
def User.revise (columns : String × Bool × Bool) (updatedAt : ℚ) (row : User) :
    User :=
  { row with
    passwordHash := columns.1
    isAdmin := columns.2.1
    isActive := columns.2.2
    updatedAt :=
      if columns = (row.passwordHash, row.isAdmin, row.isActive) then
        row.updatedAt
      else updatedAt }

theorem User.id_revise (columns : String × Bool × Bool) (updatedAt : ℚ)
    (row : User) : (row.revise columns updatedAt).id = row.id := rfl

theorem User.username_revise (columns : String × Bool × Bool) (updatedAt : ℚ)
    (row : User) : (row.revise columns updatedAt).username = row.username := rfl

/-- `update_user`. -/
def updateUser (actor : User) (env : UserEnv) (userId : ℤ) (body : UserUpdate)
    (t : AdminTables) : AdminTables × UserReply :=
  if ¬FitsSqlite userId then (t, .internalServerError)
  else
    match t.users.byId? userId with
    | none => (t, .httpException 404 "用户不存在")
    | some row =>
        match body.columns env row with
        | none => (t, .internalServerError)
        | some columns =>
            if env.commitFails then (t, .internalServerError)
            else
              ({ t with
                  users := t.users.update userId
                    (User.revise columns env.updatedAt)
                    (User.id_revise _ _) (User.username_revise _ _)
                  operationLogs := t.log env actor.username "update_user"
                    row.username (.ofList
                      [("updated_fields", .arr (body.updatedFields.map .str)),
                        ("user_id", .int userId)]) },
                .user (row.revise columns env.updatedAt))

/-- `delete_user`. -/
def deleteUser (actor : User) (env : UserEnv) (userId : ℤ) (t : AdminTables) :
    AdminTables × UserReply :=
  if actor.id = userId then (t, .httpException 400 "不能删除自己")
  else if ¬FitsSqlite userId then (t, .internalServerError)
  else
    match t.users.byId? userId with
    | none => (t, .httpException 404 "用户不存在")
    | some row =>
        if env.commitFails then (t, .internalServerError)
        else
          ({ t with
              users := t.users.delete userId
              operationLogs := t.log env actor.username "delete_user"
                row.username (.ofList [("user_id", .int userId)]) },
            .message "用户已删除")

inductive UserRequest
  | create (body : UserCreate)
  | update (userId : ℤ) (body : UserUpdate)
  | delete (userId : ℤ)
deriving DecidableEq

/-- A request about users, with the subject of its verified token. -/
structure UserCall where
  sub : Option String
  env : UserEnv
  request : UserRequest

/-- What the server makes of a request about users. -/
def UserCall.handle (call : UserCall) (t : AdminTables) :
    AdminTables × UserReply :=
  match requireAdmin call.sub t.users with
  | .error reply => (t, reply)
  | .ok actor =>
      match call.request with
      | .create body => createUser actor call.env body t
      | .update userId body => updateUser actor call.env userId body t
      | .delete userId => deleteUser actor call.env userId t

/-! ## Committed updates -/

/-- An update of this row is committed. -/
structure UserUpdate.Committed (body : UserUpdate) (env : UserEnv)
    (row : User) : Prop where
  fits : FitsSqlite row.id
  storable : (body.columns env row).isSome
  commits : env.commitFails = false

theorem columns_eq_some {body : UserUpdate} {env : UserEnv} {row : User}
    {columns : String × Bool × Bool}
    (h : body.columns env row = some columns) :
    body.isAdmin.getD (some row.isAdmin) = some columns.2.1 ∧
      body.isActive.getD (some row.isActive) = some columns.2.2 := by
  rw [UserUpdate.columns] at h
  split at h
  next hash isAdmin isActive _ hadmin hactive =>
    obtain rfl := Option.some.inj h
    exact ⟨hadmin, hactive⟩
  next => cases h

/-- A flag which was set is lost by the field `false` only. -/
theorem getD_eq_some_true_iff {field : Option (Option Bool)} {b : Bool}
    (h : field.getD (some true) = some b) :
    b = false ↔ field = some (some false) := by
  rcases field with _ | _ | b' <;> simp_all

/-! ## What a request does -/

/-- The users when the row with this id has these columns. -/
def Users.revise (users : Users) (userId : ℤ) (columns : String × Bool × Bool)
    (updatedAt : ℚ) : Users :=
  users.update userId (User.revise columns updatedAt) (User.id_revise _ _)
    (User.username_revise _ _)

/-- The tables after an update of the row was committed. -/
def AdminTables.reviseUser (t : AdminTables) (actor : User) (env : UserEnv)
    (userId : ℤ) (body : UserUpdate) (row : User)
    (columns : String × Bool × Bool) : AdminTables :=
  { t with
    users := t.users.revise userId columns env.updatedAt
    operationLogs := t.log env actor.username "update_user" row.username
      (.ofList [("updated_fields", .arr (body.updatedFields.map .str)),
        ("user_id", .int userId)]) }

/-- A user is added, or nothing changes. -/
theorem createUser_cases (actor : User) (env : UserEnv) (body : UserCreate)
    (t : AdminTables) :
    (∃ row, (createUser actor env body t).1.users.rows = t.users.rows ++ [row]) ∨
      (createUser actor env body t).1 = t := by
  rw [createUser]
  split
  · exact .inr rfl
  · split
    · exact .inr rfl
    · split
      · exact .inr rfl
      · exact .inl ⟨_, rfl⟩

/-- An update is committed, or it fails and changes nothing. -/
theorem updateUser_cases (actor : User) (env : UserEnv) (userId : ℤ)
    (body : UserUpdate) (t : AdminTables) :
    (∃ row columns, t.users.byId? userId = some row ∧
      body.columns env row = some columns ∧ body.Committed env row ∧
      updateUser actor env userId body t =
        (t.reviseUser actor env userId body row columns,
          .user (row.revise columns env.updatedAt))) ∨
    (∀ row, t.users.byId? userId = some row → ¬body.Committed env row) ∧
      (updateUser actor env userId body t).1 = t ∧
      ∀ row, (updateUser actor env userId body t).2 ≠ .user row := by
  rw [updateUser]
  split
  next hfits =>
    refine .inr ⟨fun row hrow hcommitted => hfits ?_, rfl, fun row => by simp⟩
    exact (Users.mem_of_byId? hrow).2 ▸ hcommitted.fits
  next hfits =>
    rw [not_not] at hfits
    split
    next hrow =>
      refine .inr ⟨fun row hrow' => ?_, rfl, fun row => by simp⟩
      rw [hrow] at hrow'
      cases hrow'
    next row hrow =>
      have hid := (Users.mem_of_byId? hrow).2
      split
      next hcolumns =>
        refine .inr ⟨fun row' hrow' hcommitted => ?_, rfl, fun row => by simp⟩
        obtain rfl := Option.some.inj (hrow.symm.trans hrow')
        simpa [hcolumns] using hcommitted.storable
      next columns hcolumns =>
        split
        next hfails =>
          refine .inr ⟨fun row' hrow' hcommitted => ?_, rfl, fun row => by simp⟩
          exact absurd hcommitted.commits (by simp [hfails])
        next hcommits =>
          have hcommitted : body.Committed env row :=
            ⟨hid.symm ▸ hfits, by rw [hcolumns]; rfl, by simpa using hcommits⟩
          exact .inl ⟨row, columns, hrow, hcolumns, hcommitted, rfl⟩

/-- A row is deleted, or nothing changes. -/
theorem deleteUser_cases (actor : User) (env : UserEnv) (userId : ℤ)
    (t : AdminTables) :
    (actor.id ≠ userId ∧ FitsSqlite userId ∧ env.commitFails = false ∧
      (deleteUser actor env userId t).1.users = t.users.delete userId) ∨
    (deleteUser actor env userId t).1 = t := by
  rw [deleteUser]
  split
  · exact .inr rfl
  next hself =>
    split
    · exact .inr rfl
    next hfits =>
      split
      · exact .inr rfl
      · split
        · exact .inr rfl
        next hcommits =>
          exact .inl ⟨hself, not_not.mp hfits, by simpa using hcommits, rfl⟩

/-! ## The first administrator -/

/-- The tables after `init_admin_user`. -/
def firstAdmin : AdminTables :=
  { emptyTables with
    users :=
      { rows := [⟨1, "admin", "$5$admin123", true, true, 100, 100⟩]
        uniqueId := by simp
        uniqueUsername := by simp } }

end PyAuth.Server
