import PyAuth.Server.Accounts

/-!
# What replies and logs tell about passwords

Two runs of the server are compared which differ in the passwords and in how
they are hashed.  As long as equal passwords are replaced by equal ones, and
different by different ones, nothing that is sent or logged differs.
-/

namespace PyAuth.Server

open Support

variable {τ : Type}

/-! ## Renaming -/

/-- Other passwords, with other hashes, for the same tokens. -/
structure Renaming (C C' : Credentials τ) where
  password : String → String
  passwordHash : String → String
  password_injective : Function.Injective password
  passwordHash_injective : Function.Injective passwordHash
  password_empty : password "" = ""
  verify : ∀ s hash, C'.verifyPassword (password s) (passwordHash hash) =
    C.verifyPassword s hash
  encode : C'.encode = C.encode
  decode : C'.decode = C.decode

namespace Renaming

variable {C C' : Credentials τ} (R : Renaming C C')

def user (user : User) : User :=
  { user with passwordHash := R.passwordHash user.passwordHash }

theorem map_user {β : Type} {f : User → β} (hf : ∀ u, f (R.user u) = f u)
    (rows : List User) : (rows.map R.user).map f = rows.map f := by
  rw [List.map_map]
  exact List.map_congr_left fun u _ => hf u

def users (users : Users) : Users where
  rows := users.rows.map R.user
  uniqueId := by
    rw [R.map_user fun _ => rfl]
    exact users.uniqueId
  uniqueUsername := by
    rw [R.map_user fun _ => rfl]
    exact users.uniqueUsername

def tables (t : AdminTables) : AdminTables := { t with users := R.users t.users }

def site (site : Site τ) : Site τ := { site with tables := R.tables site.tables }

def reply : UserReply → UserReply
  | .user row => .user (R.user row)
  | reply => reply

def create (body : UserCreate) : UserCreate :=
  { body with password := R.password body.password }

def update (body : UserUpdate) : UserUpdate :=
  { body with password := body.password.map (Option.map R.password) }

def change (body : ChangePasswordRequest) : ChangePasswordRequest :=
  ⟨R.password body.oldPassword, R.password body.newPassword⟩

def userRequest : UserRequest → UserRequest
  | .create body => .create (R.create body)
  | .update userId body => .update userId (R.update body)
  | .delete userId => .delete userId

def request : OfficeRequest → OfficeRequest
  | .login username password => .login username (R.password password)
  | .changePassword body => .changePassword (R.change body)
  | .users request => .users (R.userRequest request)
  | request => request

/-- The same happens, and the renamed passwords get the renamed hashes. -/
structure Env (env env' : UserEnv) : Prop where
  hash : ∀ s, env'.hash (R.password s) = (env.hash s).map R.passwordHash
  createdAt : env'.createdAt = env.createdAt
  updatedAt : env'.updatedAt = env.updatedAt
  loggedAt : env'.loggedAt = env.loggedAt
  commitFails : env'.commitFails = env.commitFails

structure Call (call call' : OfficeCall τ) : Prop where
  token : call'.token = call.token
  now : call'.now = call.now
  user : R.Env call.env.user call'.env.user
  cleanupNow : call'.env.now = call.env.now
  order : call'.env.order = call.env.order
  request : call'.request = R.request call.request

/-- A renamed request, or anything else as it is. -/
inductive Event {κ α : Type} [DecidableEq α] :
    OfficeEvent τ κ α → OfficeEvent τ κ α → Prop
  | rest {call call' : OfficeCall τ} :
      R.Call call call' → Event (.rest call) (.rest call')
  | same {e : OfficeEvent τ κ α} : (∀ call, e ≠ .rest call) → Event e e

/-! ## Rows -/

theorem find?_map {p : User → Bool} (hp : ∀ u, p (R.user u) = p u)
    (rows : List User) :
    (rows.map R.user).find? p = (rows.find? p).map R.user := by
  rw [List.find?_map]
  exact congrArg (Option.map R.user)
    (congrArg (rows.find? ·) (funext fun u => hp u))

theorem byUsername? (users : Users) (username : String) :
    (R.users users).byUsername? username =
      (users.byUsername? username).map R.user :=
  R.find?_map (fun _ => rfl) users.rows

theorem byId? (users : Users) (userId : ℤ) :
    (R.users users).byId? userId = (users.byId? userId).map R.user :=
  R.find?_map (fun _ => rfl) users.rows

theorem nextId (users : Users) : (R.users users).nextId = users.nextId := by
  rw [Users.nextId, Users.nextId]
  change ((users.rows.map R.user).map (·.id)).foldl max 0 + 1 = _
  rw [R.map_user fun _ => rfl]

theorem map_response (users : Users) :
    (R.users users).rows.map (·.response) = users.rows.map (·.response) :=
  R.map_user (fun _ => rfl) _

theorem users_ext {users users' : Users} (h : users.rows = users'.rows) :
    users = users' := by
  rcases users with ⟨rows, _, _⟩
  rcases users' with ⟨rows', _, _⟩
  obtain rfl : rows = rows' := h
  rfl

theorem users_delete (users : Users) (userId : ℤ) :
    (R.users users).delete userId = R.users (users.delete userId) :=
  users_ext (List.filter_map ..)

theorem revise_user (columns : String × Bool × Bool) (updatedAt : ℚ)
    (row : User) :
    (R.user row).revise (R.passwordHash columns.1, columns.2) updatedAt =
      R.user (row.revise columns updatedAt) := by
  have hcolumns : (R.passwordHash columns.1, columns.2) =
      (R.passwordHash row.passwordHash, row.isAdmin, row.isActive) ↔
        columns = (row.passwordHash, row.isAdmin, row.isActive) := by
    rw [Prod.mk.injEq, R.passwordHash_injective.eq_iff, ← Prod.mk.injEq]
  rw [User.revise, User.revise, user, user]
  simp only [hcolumns]

theorem users_revise (users : Users) (userId : ℤ)
    (columns : String × Bool × Bool) (updatedAt : ℚ) :
    (R.users users).revise userId (R.passwordHash columns.1, columns.2)
      updatedAt = R.users (users.revise userId columns updatedAt) := by
  apply users_ext
  change (users.rows.map R.user).map _ = (users.rows.map _).map R.user
  rw [List.map_map, List.map_map]
  apply List.map_congr_left
  intro row _
  simp only [Function.comp_apply]
  by_cases hid : row.id = userId
  · rw [if_pos hid, if_pos (show (R.user row).id = userId from hid)]
    exact R.revise_user columns updatedAt row
  · rw [if_neg hid, if_neg (show ¬(R.user row).id = userId from hid)]

/-! ## Who acts -/

theorem shown_reply (reply : UserReply) :
    ((R.reply reply).shown : OfficeReply τ) = reply.shown := by
  rcases reply with row | text | ⟨status, detail⟩ | _
  all_goals rfl

theorem getCurrentUser (sub : Option String) (users : Users) :
    Server.getCurrentUser sub (R.users users) =
      (Server.getCurrentUser sub users).map R.user := by
  rw [Server.getCurrentUser, Server.getCurrentUser]
  rcases sub with _ | username
  · rfl
  · rw [Option.bind_some, Option.bind_some, R.byUsername?]
    rcases users.byUsername? username with _ | row
    · rfl
    · by_cases hactive : row.isActive = true
      · simp only [Option.map_some, if_pos hactive]
        exact if_pos hactive
      · simp only [Option.map_some, if_neg hactive]
        exact if_neg hactive

theorem requireAdmin (sub : Option String) (users : Users) :
    Server.requireAdmin sub (R.users users) =
      (Server.requireAdmin sub users).map R.user := by
  rw [Server.requireAdmin, Server.requireAdmin, R.getCurrentUser]
  rcases Server.getCurrentUser sub users with reply | row
  · rfl
  · by_cases hadmin : row.isAdmin = true
    · simp only [Except.map, if_pos hadmin]
      exact if_pos hadmin
    · simp only [Except.map, if_neg hadmin]
      exact if_neg hadmin

include R in
theorem verifiedSub (now : ℤ) :
    Server.verifiedSub C' now = Server.verifiedSub C now := by
  funext token
  rw [Server.verifiedSub, Server.verifiedSub, verifyToken, verifyToken, R.decode]

theorem login (lifetime now : ℤ) (username password : String) (users : Users) :
    Server.login C' lifetime now username (R.password password)
        (R.users users) =
      Server.login C lifetime now username password users := by
  rw [Server.login, Server.login, R.byUsername?]
  rcases users.byUsername? username with _ | row
  · rfl
  · dsimp only [Option.map_some]
    rw [user, R.verify, createAccessToken, createAccessToken, R.encode]

/-! ## The endpoints -/

variable {R} {env env' : UserEnv}

def outcome (R : Renaming C C') (o : AdminTables × UserReply) :
    AdminTables × UserReply :=
  (R.tables o.1, R.reply o.2)

theorem Env.log (henv : R.Env env env') (t : AdminTables)
    (username action targetId : String) (detail : Dict String Json) :
    (R.tables t).log env' username action targetId detail =
      t.log env username action targetId detail := by
  rw [AdminTables.log, AdminTables.log, henv.loggedAt]
  rfl

theorem createUser (henv : R.Env env env') (actor : User) (body : UserCreate)
    (t : AdminTables) :
    Server.createUser (R.user actor) env' (R.create body) (R.tables t) =
      R.outcome (Server.createUser actor env body t) := by
  have hname' : (R.tables t).users.byUsername? (R.create body).username =
      (t.users.byUsername? body.username).map R.user :=
    R.byUsername? t.users body.username
  rcases hname : t.users.byUsername? body.username with _ | row
  all_goals rw [hname] at hname'
  · have hhash : env'.hash (R.create body).password =
        (env.hash body.password).map R.passwordHash := henv.hash body.password
    rw [createUser_of_none hname', createUser_of_none hname, hhash]
    rcases env.hash body.password with _ | passwordHash
    · rfl
    dsimp only [Option.map_some]
    rw [henv.commitFails]
    split
    · rfl
    have hrow : (R.create body).row env' (R.passwordHash passwordHash)
          (R.tables t).users = R.user (body.row env passwordHash t.users) := by
      rw [UserCreate.row, UserCreate.row, henv.createdAt, henv.updatedAt, user]
      exact congrArg (fun id => User.mk id _ _ _ _ _ _) (R.nextId t.users)
    have husers : (R.tables t).users.insert ((R.create body).row env'
          (R.passwordHash passwordHash) (R.tables t).users) rfl hname' =
        R.users (t.users.insert (body.row env passwordHash t.users) rfl hname) := by
      apply users_ext
      change _ ++ [_] = (t.users.rows ++ [_]).map R.user
      rw [List.map_append, List.map_singleton, hrow]
      rfl
    rw [henv.log, husers, hrow]
    rfl
  · rw [createUser_of_some hname', createUser_of_some hname]
    rfl

theorem storedHash_update (henv : R.Env env env') (body : UserUpdate)
    (row : User) :
    (R.update body).storedHash env' (R.user row) =
      (body.storedHash env row).map R.passwordHash := by
  have hempty (s : String) : R.password s = "" ↔ s = "" := by
    refine ⟨fun h => R.password_injective (h.trans R.password_empty.symm), ?_⟩
    rintro rfl
    exact R.password_empty
  rw [UserUpdate.storedHash, UserUpdate.storedHash, update]
  rcases body.password with _ | _ | password
  · rfl
  · rfl
  · dsimp only [Option.map_some]
    rw [henv.hash]
    by_cases h : password = ""
    · rw [if_pos h, if_pos ((hempty password).mpr h)]
      rfl
    · rw [if_neg h, if_neg (mt (hempty password).mp h)]

theorem columns (henv : R.Env env env') (body : UserUpdate) (row : User) :
    (R.update body).columns env' (R.user row) =
      (body.columns env row).map fun columns =>
        (R.passwordHash columns.1, columns.2) := by
  rw [UserUpdate.columns_eq, UserUpdate.columns_eq, storedHash_update henv,
    Option.bind_map, Option.map_bind]
  refine congrArg (Option.bind _) (funext fun passwordHash => ?_)
  rw [Function.comp_apply, Function.comp_apply, Option.map_bind]
  refine congrArg (Option.bind _) (funext fun isAdmin => ?_)
  rw [Function.comp_apply, Option.map_map]
  rfl

/-- The tables after a logged change of the users. -/
theorem tables_logged (henv : R.Env env env') {t : AdminTables}
    {users users' : Users} (husers : users' = R.users users)
    (username action targetId : String) (detail : Dict String Json) :
    ({ R.tables t with
        users := users'
        operationLogs := (R.tables t).log env' username action targetId detail } :
          AdminTables) =
      R.tables { t with
        users := users
        operationLogs := t.log env username action targetId detail } := by
  rw [henv.log, husers]
  rfl

theorem updateUser (henv : R.Env env env') (actor : User) (userId : ℤ)
    (body : UserUpdate) (t : AdminTables) :
    Server.updateUser (R.user actor) env' userId (R.update body) (R.tables t) =
      R.outcome (Server.updateUser actor env userId body t) := by
  rw [Server.updateUser, Server.updateUser]
  split
  · rfl
  have hrow : (R.tables t).users.byId? userId =
      (t.users.byId? userId).map R.user := R.byId? t.users userId
  rw [hrow]
  rcases t.users.byId? userId with _ | row
  · rfl
  dsimp only [Option.map_some]
  rw [R.columns henv]
  rcases body.columns env row with _ | columns
  · rfl
  dsimp only [Option.map_some]
  rw [henv.commitFails]
  split
  · rfl
  have hfields : (R.update body).updatedFields = body.updatedFields := by
    rw [UserUpdate.updatedFields, UserUpdate.updatedFields, update,
      Option.isSome_map]
  rw [hfields, henv.updatedAt, R.revise_user]
  refine Prod.ext ?_ rfl
  exact R.tables_logged henv (R.users_revise t.users userId columns _) ..

theorem deleteUser (henv : R.Env env env') (actor : User) (userId : ℤ)
    (t : AdminTables) :
    Server.deleteUser (R.user actor) env' userId (R.tables t) =
      R.outcome (Server.deleteUser actor env userId t) := by
  rw [Server.deleteUser, Server.deleteUser]
  have hid : (R.user actor).id = actor.id := rfl
  rw [hid]
  split
  · rfl
  split
  · rfl
  have hrow : (R.tables t).users.byId? userId =
      (t.users.byId? userId).map R.user := R.byId? t.users userId
  rw [hrow]
  rcases t.users.byId? userId with _ | row
  · rfl
  dsimp only [Option.map_some]
  rw [henv.commitFails]
  split
  · rfl
  · refine Prod.ext ?_ rfl
    exact R.tables_logged henv (R.users_delete t.users userId) ..

theorem changePassword (henv : R.Env env env') (actor : User)
    (body : ChangePasswordRequest) (t : AdminTables) :
    Server.changePassword C' (R.user actor) env' (R.change body) (R.tables t) =
      R.outcome (Server.changePassword C actor env body t) := by
  rw [Server.changePassword, Server.changePassword]
  have hverify : C'.verifyPassword (R.change body).oldPassword
      (R.user actor).passwordHash =
        C.verifyPassword body.oldPassword actor.passwordHash :=
    R.verify body.oldPassword actor.passwordHash
  have hsame : (R.change body).oldPassword = (R.change body).newPassword ↔
      body.oldPassword = body.newPassword := R.password_injective.eq_iff
  have hhash : env'.hash (R.change body).newPassword =
      (env.hash body.newPassword).map R.passwordHash :=
    henv.hash body.newPassword
  simp only [hverify, hsame, hhash]
  split
  · rfl
  split
  · rfl
  rcases env.hash body.newPassword with _ | passwordHash
  · rfl
  dsimp only [Option.map_some]
  rw [henv.commitFails, henv.loggedAt, henv.updatedAt]
  split
  · rfl
  · refine Prod.ext ?_ rfl
    exact congrArg (AdminTables.mk _) (R.users_revise t.users actor.id
      (passwordHash, actor.isAdmin, actor.isActive) env.updatedAt)

/-! ## Any run -/

theorem userCall (henv : R.Env env env') (sub : Option String)
    (request : UserRequest) (t : AdminTables) :
    (UserCall.mk sub env' (R.userRequest request)).handle (R.tables t) =
      R.outcome ((UserCall.mk sub env request).handle t) := by
  have haccess : Server.requireAdmin sub (R.tables t).users =
      (Server.requireAdmin sub t.users).map R.user := R.requireAdmin sub t.users
  rw [UserCall.handle, UserCall.handle, haccess]
  rcases hadmin : Server.requireAdmin sub t.users with reply | actor
  · obtain ⟨status, detail, rfl⟩ := requireAdmin_error hadmin
    rfl
  · rcases request with body | ⟨userId, body⟩ | userId
    · exact R.createUser henv actor body t
    · exact R.updateUser henv actor userId body t
    · exact R.deleteUser henv actor userId t

/-- An endpoint tells nothing if it does not tell whom it admits. -/
theorem guarded {access : Except UserReply User} (t : AdminTables)
    {endpoint endpoint' : User → AdminTables × OfficeReply τ}
    (h : ∀ actor, endpoint' (R.user actor) =
      (R.tables (endpoint actor).1, (endpoint actor).2)) :
    Server.guarded (access.map R.user) (R.tables t) endpoint' =
      (R.tables (Server.guarded access t endpoint).1,
        (Server.guarded access t endpoint).2) := by
  rcases access with reply | actor
  · rfl
  · exact h actor

theorem cleanup (actor : User) (now : Datetime) (loggedAt : ℚ) (days : ℤ)
    (t : AdminTables) :
    cleanupOperationLogs (R.user actor) now loggedAt days (R.tables t) =
      (R.tables (cleanupOperationLogs actor now loggedAt days t).1,
        (cleanupOperationLogs actor now loggedAt days t).2) := by
  rw [cleanupOperationLogs, cleanupOperationLogs]
  split
  · rfl
  split
  · rfl
  rcases (timedelta days).bind now.sub with _ | cutoff
  · rfl
  · rfl

theorem handle_call {call call' : OfficeCall τ} (h : R.Call call call')
    (lifetime : ℤ) (t : AdminTables) :
    call'.handle C' lifetime (R.tables t) =
      (R.tables (call.handle C lifetime t).1,
        (call.handle C lifetime t).2) := by
  have hsub : call'.sub C' = call.sub C := by
    rw [OfficeCall.sub, OfficeCall.sub, h.token, h.now, R.verifiedSub]
  have huser : Server.getCurrentUser (call.sub C) (R.tables t).users =
      (Server.getCurrentUser (call.sub C) t.users).map R.user :=
    R.getCurrentUser _ t.users
  have hadmin : Server.requireAdmin (call.sub C) (R.tables t).users =
      (Server.requireAdmin (call.sub C) t.users).map R.user :=
    R.requireAdmin _ t.users
  rw [OfficeCall.handle, OfficeCall.handle, hsub, h.request, h.now, huser,
    hadmin]
  rcases call.request with ⟨username, password⟩ | _ | _ | body | _ | configs |
    _ | request | ⟨page, pageSize⟩ | days
  · exact congrArg (fun reply => (R.tables t, LoginReply.shown reply))
      (R.login lifetime call.now username password t.users)
  · exact R.guarded t fun _ => rfl
  · exact R.guarded t fun _ => rfl
  · refine R.guarded t fun actor => ?_
    dsimp only [request]
    rw [R.changePassword h.user actor body t]
    exact congrArg (Prod.mk _) (R.shown_reply _)
  · exact R.guarded t fun _ => rfl
  · refine R.guarded t fun actor => ?_
    dsimp only
    rw [h.user.loggedAt, h.user.commitFails]
    rfl
  · refine R.guarded t fun _ => ?_
    exact congrArg (fun rows => (R.tables t, OfficeReply.users rows))
      (R.map_response t.users)
  · dsimp only [Renaming.request]
    rw [R.userCall h.user]
    exact congrArg (Prod.mk _) (R.shown_reply _)
  · refine R.guarded t fun _ => ?_
    dsimp only
    rw [h.order]
    rfl
  · refine R.guarded t fun actor => ?_
    dsimp only
    rw [h.cleanupNow, h.user.loggedAt, R.cleanup]

theorem openSession (now : ℤ) (token : Option τ) (users : Users) :
    Server.openSession C' now token (R.users users) =
      Server.openSession C now token users := by
  rw [Server.openSession.eq_def, Server.openSession.eq_def]
  rcases token with _ | token
  · rfl
  dsimp only
  rw [R.verifiedSub]
  rcases Server.verifiedSub C now token with _ | username
  · rfl
  dsimp only
  split
  · rfl
  rw [R.byUsername?]
  rcases users.byUsername? username with _ | row
  · rfl
  · rfl

variable {κ α : Type} [DecidableEq α] {T : Transport κ} {clientSecret : String}
  {B : Backend} {lifetime : ℤ}

theorem handle {e e' : OfficeEvent τ κ α} (h : R.Event e e') (site : Site τ) :
    e'.handle C' T clientSecret B lifetime (R.site site) =
      (R.site (e.handle C T clientSecret B lifetime site).1,
        (e.handle C T clientSecret B lifetime site).2) := by
  cases h with
  | rest hcall =>
      rw [OfficeEvent.handle, OfficeEvent.handle]
      dsimp only [Renaming.site]
      rw [R.handle_call hcall]
  | same hother =>
      rcases e with call | ⟨now, id, token⟩ | ⟨id, env, message⟩ | id |
        ⟨salt, env, broadcast, body⟩
      · exact absurd rfl (hother call)
      · have hopen : Server.openSession C' now token (R.site site).tables.users =
            Server.openSession C now token site.tables.users :=
          R.openSession now token site.tables.users
        rw [OfficeEvent.handle, OfficeEvent.handle, hopen]
        rcases Server.openSession C now token site.tables.users with _ | session
        · rfl
        · rfl
      · have hsession : (R.site site).sessions.get id = site.sessions.get id := rfl
        rw [OfficeEvent.handle, OfficeEvent.handle, hsession]
        rcases site.sessions.get id with _ | session
        · rfl
        · rfl
      · rfl
      · rfl

theorem officeAt {e e' : ℕ → OfficeEvent τ κ α} (h : ∀ k, R.Event (e k) (e' k))
    (site : Site τ) (k : ℕ) :
    Server.officeAt C' T clientSecret B lifetime e' (R.site site) k =
      R.site (Server.officeAt C T clientSecret B lifetime e site k) :=
  statesAt_map (fun site k => congrArg Prod.fst (R.handle (h k) site)) site k

end Renaming

/-- **Passwords stay secret.**  Runs which differ in the passwords alone send
the same replies, frames and responses, and leave the same devices, the same
configuration, the same log and the same sessions. -/
theorem passwords_unseen {C C' : Credentials τ} (R : Renaming C C')
    {κ α : Type} [DecidableEq α] (T : Transport κ) (clientSecret : String)
    (B : Backend) (lifetime : ℤ) {e e' : ℕ → OfficeEvent τ κ α}
    (h : ∀ k, R.Event (e k) (e' k)) (site : Site τ) (k : ℕ) :
    sentAt C' T clientSecret B lifetime e' (R.site site) k =
        sentAt C T clientSecret B lifetime e site k ∧
      (officeAt C' T clientSecret B lifetime e' (R.site site) k).tables.toTables =
        (officeAt C T clientSecret B lifetime e site k).tables.toTables ∧
      (officeAt C' T clientSecret B lifetime e' (R.site site) k).sessions =
        (officeAt C T clientSecret B lifetime e site k).sessions := by
  refine ⟨?_, by rw [R.officeAt h]; rfl, by rw [R.officeAt h]; rfl⟩
  rw [sentAt, R.officeAt h, R.handle (h k)]
  rfl

/-! ## Passwords read backwards -/

def backwards (s : String) : String := String.ofList s.toList.reverse

theorem backwards_backwards (s : String) : backwards (backwards s) = s := by
  rw [backwards, backwards, String.toList_ofList, List.reverse_reverse,
    String.ofList_toList]

/-- Hashes of the passwords read backwards. -/
def Credentials.mirrored : Credentials Payload :=
  { Credentials.plain with
    verifyPassword password passwordHash :=
      passwordHash == "$5$" ++ backwards password }

def Renaming.mirror : Renaming .plain .mirrored where
  password := backwards
  passwordHash := id
  password_injective := Function.LeftInverse.injective backwards_backwards
  passwordHash_injective := Function.injective_id
  password_empty := rfl
  verify s hash := by
    change (hash == "$5$" ++ backwards (backwards s)) = (hash == "$5$" ++ s)
    rw [backwards_backwards]
  encode := rfl
  decode := rfl

/-- The forgetful clerk has the passwords read backwards. -/
def mirroredForgetful (k : ℕ) :
    OfficeEvent Payload (String × ℕ × Json) String :=
  match exampleForgetful k with
  | .rest call =>
      .rest ⟨call.token, call.now,
        ⟨{ call.env.user with hash := fun s => some ("$5$" ++ backwards s) },
          call.env.now, call.env.order⟩, Renaming.mirror.request call.request⟩
  | e => e

theorem passwords_unseen_forgetful :
    sentAt .mirrored .symbolic "key" .plain 3600 mirroredForgetful
        (Renaming.mirror.site exampleSite) 1 =
      sentAt .plain .symbolic "key" .plain 3600 exampleForgetful exampleSite
        1 := by
  refine (passwords_unseen Renaming.mirror .symbolic "key" .plain 3600
    (fun k => ?_) exampleSite 1).1
  have hash (s : String) : some ("$5$" ++ backwards (backwards s)) =
      (some ("$5$" ++ s)).map id := by
    rw [backwards_backwards, Option.map_id, id]
  rcases k with _ | k
  · exact .rest ⟨rfl, rfl, ⟨hash, rfl, rfl, rfl, rfl⟩, rfl, rfl, rfl⟩
  · exact .rest ⟨rfl, rfl, ⟨hash, rfl, rfl, rfl, rfl⟩, rfl, rfl, rfl⟩

end PyAuth.Server
