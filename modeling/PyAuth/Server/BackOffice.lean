import PyAuth.Server.Config
import PyAuth.Server.OperationLogs
import PyAuth.Server.Sessions

/-!
# The back office

The REST endpoints of the administration, among the heartbeats of devices and
the messages of the admin pages.
-/

namespace PyAuth.Server

open Support

/-! ## Requests and replies -/

structure ChangePasswordRequest where
  oldPassword : String
  newPassword : String
deriving DecidableEq

inductive OfficeRequest
  | login (username password : String)
  | getMe
  | verifyTokenEndpoint
  | changePassword (body : ChangePasswordRequest)
  | getConfigs
  | updateConfigs (configs : Dict String Json)
  | getUsers
  | users (request : UserRequest)
  | getOperationLogs (page pageSize : ℤ)
  | cleanupOperationLogs (days : ℤ)

/-- What `UserResponse` keeps of a row. -/
structure UserResponse where
  id : ℤ
  username : String
  isActive : Bool
  isAdmin : Bool
  createdAt : ℚ
deriving DecidableEq

def User.response (user : User) : UserResponse :=
  ⟨user.id, user.username, user.isActive, user.isAdmin, user.createdAt⟩

/-- What a client of the back office is sent. -/
inductive OfficeReply (τ : Type)
  | token (accessToken : τ) (username : String) (isAdmin : Bool)
  | valid (username : String) (isAdmin : Bool)
  | user (row : UserResponse)
  | users (rows : List UserResponse)
  | message (text : String)
  | configs (configs : Dict String Json)
  | updated (response : Response Unit)
  | logs (reply : LogReply)
  | httpException (status : ℕ) (detail : String)
  | internalServerError
deriving DecidableEq

section

variable {τ : Type}

def LoginReply.shown : LoginReply τ → OfficeReply τ
  | .token accessToken username isAdmin => .token accessToken username isAdmin
  | .httpException status detail => .httpException status detail

def UserReply.shown : UserReply → OfficeReply τ
  | .user row => .user row.response
  | .message text => .message text
  | .httpException status detail => .httpException status detail
  | .internalServerError => .internalServerError

end

/-! ## Refusals -/

theorem getCurrentUser_error {sub : Option String} {users : Users}
    {reply : UserReply}
    (h : getCurrentUser sub users = .error reply) :
    ∃ status detail, reply = .httpException status detail := by
  rw [getCurrentUser] at h
  split at h
  · exact ⟨_, _, (Except.error.inj h).symm⟩
  · split at h
    · contradiction
    · exact ⟨_, _, (Except.error.inj h).symm⟩

theorem requireAdmin_error {sub : Option String} {users : Users}
    {reply : UserReply}
    (h : requireAdmin sub users = .error reply) :
    ∃ status detail, reply = .httpException status detail := by
  rw [requireAdmin] at h
  split at h
  next hcurrent =>
    obtain rfl := Except.error.inj h
    exact getCurrentUser_error hcurrent
  next =>
    split at h
    · contradiction
    · exact ⟨_, _, (Except.error.inj h).symm⟩

/-! ## The endpoints -/

/-- What happens to a request besides: hashing, the clock and the commit, the
clock of the cleanup, and the order in which the database lists the logs. -/
structure OfficeEnv where
  user : UserEnv
  now : Datetime
  order : List OperationLog → List OperationLog

/-- A request to the back office; `now` is when its token is verified or
made, in seconds. -/
structure OfficeCall (τ : Type) where
  token : Option τ
  now : ℤ
  env : OfficeEnv
  request : OfficeRequest

section

variable {τ : Type} (C : Credentials τ)

/-- `change_password`. -/
def changePassword (actor : User) (env : UserEnv) (body : ChangePasswordRequest)
    (t : AdminTables) : AdminTables × UserReply :=
  if !C.verifyPassword body.oldPassword actor.passwordHash then
    (t, .httpException 400 "旧密码错误")
  else if body.oldPassword = body.newPassword then
    (t, .httpException 400 "新密码不能与旧密码相同")
  else
    match env.hash body.newPassword with
    | none => (t, .internalServerError)
    | some passwordHash =>
        if env.commitFails then (t, .internalServerError)
        else
          ({ t with
              users := t.users.revise actor.id
                (passwordHash, actor.isAdmin, actor.isActive) env.updatedAt
              operationLogs := t.operationLogs ++
                [⟨t.nextLogId, actor.username, "change_password", "user",
                  some actor.username, .null, env.loggedAt⟩] },
            .message "密码更改成功")

/-- An endpoint behind `get_current_user` or `require_admin`. -/
def guarded (access : Except UserReply User) (t : AdminTables)
    (endpoint : User → AdminTables × OfficeReply τ) :
    AdminTables × OfficeReply τ :=
  match access with
  | .error reply => (t, reply.shown)
  | .ok actor => endpoint actor

/-- The subject of the token of a call. -/
def OfficeCall.sub (call : OfficeCall τ) : Option String :=
  call.token.bind (verifiedSub C call.now)

/-- What the server makes of a request; `lifetime` is
`ACCESS_TOKEN_EXPIRE_MINUTES` in seconds. -/
def OfficeCall.handle (lifetime : ℤ) (call : OfficeCall τ) (t : AdminTables) :
    AdminTables × OfficeReply τ :=
  let env := call.env.user
  let currentUser := getCurrentUser (call.sub C) t.users
  let admin := requireAdmin (call.sub C) t.users
  match call.request with
  | .login username password =>
      (t, (login C lifetime call.now username password t.users).shown)
  | .getMe => guarded currentUser t fun actor => (t, .user actor.response)
  | .verifyTokenEndpoint =>
      guarded currentUser t fun actor => (t, .valid actor.username actor.isAdmin)
  | .changePassword body =>
      guarded currentUser t fun actor =>
        let (t', reply) := changePassword C actor env body t
        (t', reply.shown)
  | .getConfigs =>
      guarded currentUser t fun _ => (t, .configs (getConfigs t.toDatabase))
  | .updateConfigs configs =>
      guarded currentUser t fun actor =>
        let (tables, response) := updateConfigs actor.username env.loggedAt
          env.commitFails configs t.toTables
        ({ t with toTables := tables }, .updated response)
  | .getUsers => guarded admin t fun _ => (t, .users (t.users.rows.map (·.response)))
  | .users request =>
      let (t', reply) := (UserCall.mk (call.sub C) env request).handle t
      (t', reply.shown)
  | .getOperationLogs page pageSize =>
      guarded admin t fun _ =>
        (t, .logs (getOperationLogs call.env.order page pageSize t))
  | .cleanupOperationLogs days =>
      guarded admin t fun actor =>
        let (t', reply) :=
          cleanupOperationLogs actor call.env.now env.loggedAt days t
        (t', .logs reply)

end

/-! ## Two endpoints taken apart -/

section

variable {actor : User} {env : UserEnv} {body : UserCreate} {t : AdminTables}

theorem createUser_of_some {row : User}
    (h : t.users.byUsername? body.username = some row) :
    createUser actor env body t =
      (t, .httpException 400 "用户名已存在") := by
  rw [createUser]
  split
  · rfl
  · next hnone =>
      rw [h] at hnone
      contradiction

theorem createUser_of_none (h : t.users.byUsername? body.username = none) :
    createUser actor env body t =
      match env.hash body.password with
      | none => (t, .internalServerError)
      | some passwordHash =>
          if env.commitFails then (t, .internalServerError)
          else
            ({ t with
                users := t.users.insert (body.row env passwordHash t.users) rfl h
                operationLogs := t.log env actor.username "create_user"
                  body.username (.ofList
                    [("is_admin", optionalBool body.isAdmin),
                      ("is_active", optionalBool body.isActive)]) },
              .user (body.row env passwordHash t.users)) := by
  rw [createUser]
  split
  · next hsome =>
      rw [h] at hsome
      contradiction
  · rfl

/-- The hash which an update stores, `none` when hashing raises. -/
def UserUpdate.storedHash (body : UserUpdate) (env : UserEnv) (row : User) :
    Option String :=
  match body.password with
  | some (some password) =>
      if password = "" then some row.passwordHash else env.hash password
  | none | some none => some row.passwordHash

theorem UserUpdate.columns_eq (body : UserUpdate) (env : UserEnv) (row : User) :
    body.columns env row = (body.storedHash env row).bind fun passwordHash =>
      (body.isAdmin.getD (some row.isAdmin)).bind fun isAdmin =>
        (body.isActive.getD (some row.isActive)).map fun isActive =>
          (passwordHash, isAdmin, isActive) := by
  unfold UserUpdate.columns
  extract_lets passwordHash
  rw [show passwordHash = body.storedHash env row from rfl]
  rcases body.storedHash env row with _ | passwordHash
  · rfl
  rcases body.isAdmin.getD (some row.isAdmin) with _ | isAdmin
  · rfl
  rcases body.isActive.getD (some row.isActive) with _ | isActive
  · rfl
  · rfl

end

/-! ## What a request does to the users -/

section

variable {τ : Type} {C : Credentials τ} {t : AdminTables}

/-- A request adds a row, changes one, or removes one. -/
inductive OfficeRequest.Changes (request : OfficeRequest) (users : Users) :
    Users → Prop
  | kept : Changes request users users
  | added {users' : Users} {row : User} :
      users'.rows = users.rows ++ [row] → Changes request users users'
  | revised {userId : ℤ} {columns : String × Bool × Bool} {updatedAt : ℚ} :
      Changes request users (users.revise userId columns updatedAt)
  | removed {userId : ℤ} : request = .users (.delete userId) →
      Changes request users (users.delete userId)

theorem changes_guarded {access : Except UserReply User} {request : OfficeRequest}
    {endpoint : User → AdminTables × OfficeReply τ}
    (h : ∀ actor, request.Changes t.users (endpoint actor).1.users) :
    request.Changes t.users (guarded access t endpoint).1.users := by
  rcases access with reply | actor
  · exact .kept
  · exact h actor

theorem changes_userCall (call : UserCall) :
    (OfficeRequest.users call.request).Changes t.users
      (call.handle t).1.users := by
  rw [UserCall.handle]
  rcases requireAdmin call.sub t.users with reply | actor
  · exact .kept
  rcases call.request with body | ⟨userId, body⟩ | userId
  · rcases createUser_cases actor call.env body t with ⟨row, hrows⟩ | hkept
    · exact .added hrows
    · dsimp only
      rw [hkept]
      exact .kept
  · dsimp only
    obtain ⟨row, columns, -, -, -, heq⟩ | ⟨-, hkept, -⟩ :=
      updateUser_cases actor call.env userId body t
    · rw [heq]
      exact .revised
    · rw [hkept]
      exact .kept
  · dsimp only
    rcases deleteUser_cases actor call.env userId t with
      ⟨-, -, -, husers⟩ | hkept
    · rw [husers]
      exact .removed rfl
    · rw [hkept]
      exact .kept

theorem changes_call (C : Credentials τ) (lifetime : ℤ) (call : OfficeCall τ)
    (t : AdminTables) :
    call.request.Changes t.users (call.handle C lifetime t).1.users := by
  rw [OfficeCall.handle]
  rcases call.request with ⟨username, password⟩ | _ | _ | body | _ | configs |
    _ | request | ⟨page, pageSize⟩ | days
  · exact .kept
  · exact changes_guarded fun _ => .kept
  · exact changes_guarded fun _ => .kept
  · refine changes_guarded fun actor => ?_
    dsimp only
    rw [changePassword]
    split
    · exact .kept
    split
    · exact .kept
    rcases call.env.user.hash body.newPassword with _ | passwordHash
    · exact .kept
    dsimp only
    split
    · exact .kept
    · exact .revised
  · exact changes_guarded fun _ => .kept
  · exact changes_guarded fun _ => .kept
  · exact changes_guarded fun _ => .kept
  · exact changes_userCall ⟨call.sub C, call.env.user, request⟩
  · exact changes_guarded fun _ => .kept
  · refine changes_guarded fun actor => ?_
    dsimp only
    rw [cleanupOperationLogs]
    split
    · exact .kept
    split
    · exact .kept
    split
    · exact .kept
    · exact .kept

end

/-! ## The site -/

/-- What happens at the server. -/
inductive OfficeEvent (τ κ α : Type) [DecidableEq α]
  | rest (call : OfficeCall τ)
  | connect (now : ℤ) (id : ℕ) (token : Option τ)
  | receive (id : ℕ) (env : RequestEnv α) (message : Option Json)
  | disconnect (id : ℕ)
  | heartbeat (salt : ℕ) (env : ProcessEnv) (broadcast : BroadcastEnv α)
      (body : Body κ)

/-- What is sent back. -/
inductive Sent (τ κ : Type)
  | reply (reply : OfficeReply τ)
  | accepted (session : Option (Session τ))
  | frames (replies : List AdminReply) (isOpen : Bool)
  | response (response : Response κ)
  | nothing

section

variable {τ κ α : Type} [DecidableEq α] (C : Credentials τ) (T : Transport κ)
  (clientSecret : String) (B : Backend) (lifetime : ℤ)

/-- The site after an event, and what was sent. -/
def OfficeEvent.handle (site : Site τ) :
    OfficeEvent τ κ α → Site τ × Sent τ κ
  | .rest call =>
      let (tables, reply) := call.handle C lifetime site.tables
      ({ site with tables := tables }, .reply reply)
  | .connect now id token =>
      match openSession C now token site.tables.users with
      | none => (site, .accepted none)
      | some session =>
          ({ site with sessions := site.sessions.set id session },
            .accepted (some session))
  | .receive id env message =>
      match site.sessions.get id with
      | none => (site, .nothing)
      | some session =>
          let handled :=
            deviceEvents B session.actor env message site.tables.toTables
          (site.receive B id session env message,
            .frames handled.replies handled.isOpen)
  | .disconnect id =>
      ({ site with sessions := site.sessions.erase id }, .nothing)
  | .heartbeat salt env broadcast body =>
      let (tables, response) := announcedHeartbeat T clientSecret salt env
        broadcast body site.tables.toTables
      ({ site with tables := { site.tables with toTables := tables } },
        .response response)

/-- The site after the first `k` events. -/
def officeAt (e : ℕ → OfficeEvent τ κ α) (site : Site τ) : ℕ → Site τ :=
  statesAt (fun site e => (e.handle C T clientSecret B lifetime site).1) e site

/-- What is sent back at the event `k`. -/
def sentAt (e : ℕ → OfficeEvent τ κ α) (site : Site τ) (k : ℕ) : Sent τ κ :=
  ((e k).handle C T clientSecret B lifetime
    (officeAt C T clientSecret B lifetime e site k)).2

end

end PyAuth.Server
