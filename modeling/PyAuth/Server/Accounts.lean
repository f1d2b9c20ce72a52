import Mathlib.Data.List.Forall2
import PyAuth.Server.ActiveSessions
import PyAuth.Server.BackOffice

/-!
# Accounts and their passwords

Who watches the requests to the back office and their replies can keep a book
of the accounts with their passwords.  The server, which stores hashes only,
answers as if it looked into that book.
-/

namespace PyAuth.Server

open Support

/-! ## The book -/

/-- An account as its owner knows it. -/
structure Account where
  row : UserResponse
  password : String
deriving DecidableEq

abbrev Book := List Account

/-- The password which an update assigns. -/
def UserUpdate.newPassword (body : UserUpdate) : Option String :=
  body.password.join.filter (· ≠ "")

/-- The password which an update assigns can be hashed. -/
def UserUpdate.hashes (body : UserUpdate) (env : UserEnv) : Bool :=
  body.newPassword.all fun password => (env.hash password).isSome

namespace Book

/-- The book after a request of `sub` was answered. -/
def observe {τ : Type} (book : Book) (sub : Option String) :
    OfficeRequest → OfficeReply τ → Book
  | .users (.create body), .user row => book ++ [⟨row, body.password⟩]
  | .users (.update userId body), .user row =>
      book.map fun a => if a.row.id = userId then
        ⟨row, body.newPassword.getD a.password⟩ else a
  | .users (.delete userId), .message _ =>
      book.filter fun a => a.row.id ≠ userId
  | .changePassword body, .message _ =>
      book.map fun a => if some a.row.username = sub then
        { a with password := body.newPassword } else a
  | _, _ => book

def byUsername? (book : Book) (username : String) : Option Account :=
  book.find? fun a => a.row.username = username

def byId? (book : Book) (userId : ℤ) : Option Account :=
  book.find? fun a => a.row.id = userId

/-- The id which the next account gets. -/
def nextId (book : Book) : ℤ :=
  (book.map fun a => a.row.id).foldl max 0 + 1

/-- The active account which `sub` names. -/
def current {τ : Type} (book : Book) (sub : Option String) :
    Except (OfficeReply τ) Account :=
  match sub.bind book.byUsername? with
  | none => .error (.httpException 401 "无效的认证凭据")
  | some a =>
      if a.row.isActive then .ok a
      else .error (.httpException 400 "用户已被禁用")

/-- The active administrator which `sub` names. -/
def admin {τ : Type} (book : Book) (sub : Option String) :
    Except (OfficeReply τ) Account :=
  match book.current sub with
  | .error reply => .error reply
  | .ok a =>
      if a.row.isAdmin then .ok a else .error (.httpException 403 "没有权限")

section

variable {τ : Type} (C : Credentials τ) (lifetime : ℤ)

/-- The answer to a login. -/
def login (book : Book) (now : ℤ) (username password : String) :
    OfficeReply τ :=
  match book.byUsername? username with
  | none => .httpException 401 "用户名或密码错误"
  | some a =>
      if password ≠ a.password then .httpException 401 "用户名或密码错误"
      else if !a.row.isActive then .httpException 403 "用户已被禁用"
      else
        .token (createAccessToken C username lifetime now) username
          a.row.isAdmin

/-- A refusal, or what is answered to an account. -/
def admitted (account : Except (OfficeReply τ) Account)
    (answer : Account → Option (OfficeReply τ)) : Option (OfficeReply τ) :=
  match account with
  | .error reply => some reply
  | .ok a => answer a

/-- What is answered when everything else allows a change; `hashes` says that
the password can be hashed. -/
def committed (env : UserEnv) (hashes : Bool) (reply : OfficeReply τ) :
    OfficeReply τ :=
  if hashes && !env.commitFails then reply else .internalServerError

/-- The answer to a change of the own password. -/
def changeOwn (env : UserEnv) (body : ChangePasswordRequest) (a : Account) :
    OfficeReply τ :=
  if body.oldPassword ≠ a.password then .httpException 400 "旧密码错误"
  else if body.newPassword = a.password then
    .httpException 400 "新密码不能与旧密码相同"
  else
    committed env (env.hash body.newPassword).isSome (.message "密码更改成功")

/-- The answer to a request of the administrator `a` about users. -/
def manage (book : Book) (env : UserEnv) (a : Account) :
    UserRequest → OfficeReply τ
  | .create body =>
      if (book.byUsername? body.username).isSome then
        .httpException 400 "用户名已存在"
      else
        committed env (env.hash body.password).isSome (.user
          { id := book.nextId
            username := body.username
            isActive := body.isActive.getD true
            isAdmin := body.isAdmin.getD false
            createdAt := env.createdAt })
  | .update userId body =>
      if ¬FitsSqlite userId then .internalServerError
      else
        match book.byId? userId with
        | none => .httpException 404 "用户不存在"
        | some a =>
            match body.isAdmin.getD (some a.row.isAdmin),
              body.isActive.getD (some a.row.isActive) with
            | some isAdmin, some isActive =>
                committed env (body.hashes env) (.user
                  { a.row with isActive := isActive, isAdmin := isAdmin })
            | _, _ => .internalServerError
  | .delete userId =>
      if a.row.id = userId then .httpException 400 "不能删除自己"
      else if ¬FitsSqlite userId then .internalServerError
      else
        match book.byId? userId with
        | none => .httpException 404 "用户不存在"
        | some _ => committed env true (.message "用户已删除")

/-- The answer which the book gives; it says nothing of the configuration and
the log, except to whom they are refused. -/
def answer (book : Book) (call : OfficeCall τ) : Option (OfficeReply τ) :=
  match call.request with
  | .login username password =>
      some (book.login C lifetime call.now username password)
  | .getMe => admitted (book.current (call.sub C)) fun a => some (.user a.row)
  | .verifyTokenEndpoint =>
      admitted (book.current (call.sub C)) fun a =>
        some (.valid a.row.username a.row.isAdmin)
  | .changePassword body =>
      admitted (book.current (call.sub C)) fun a =>
        some (changeOwn call.env.user body a)
  | .getUsers =>
      admitted (book.admin (call.sub C)) fun _ =>
        some (.users (book.map (·.row)))
  | .users request =>
      admitted (book.admin (call.sub C)) fun a =>
        some (book.manage call.env.user a request)
  | .getConfigs | .updateConfigs _ =>
      admitted (book.current (call.sub C)) fun _ => none
  | .getOperationLogs _ _ | .cleanupOperationLogs _ =>
      admitted (book.admin (call.sub C)) fun _ => none

end

end Book

/-! ## The book and the table -/

section

variable {τ : Type} {C : Credentials τ} {book : Book} {users : Users}
  {sub : Option String} {username password : String}

/-- The stored hash is one of the account's password, and of no other. -/
structure Account.Of (C : Credentials τ) (a : Account) (user : User) : Prop where
  row : a.row = user.response
  password : ∀ password,
    C.verifyPassword password user.passwordHash = true ↔ password = a.password

/-- The book lists the rows of the table, with their passwords. -/
def Book.Of (C : Credentials τ) (book : Book) (users : Users) : Prop :=
  List.Forall₂ (Account.Of C) book users.rows

/-- Hashes verify the password they were made of, and no other. -/
def UserEnv.Hashes (C : Credentials τ) (env : UserEnv) : Prop :=
  ∀ password passwordHash, env.hash password = some passwordHash →
    ∀ password', C.verifyPassword password' passwordHash = true ↔
      password' = password

theorem Account.Of.id_eq {a : Account} {user : User} (h : a.Of C user) :
    a.row.id = user.id :=
  congrArg UserResponse.id h.row

theorem Account.Of.username_eq {a : Account} {user : User} (h : a.Of C user) :
    a.row.username = user.username :=
  congrArg UserResponse.username h.row

theorem Account.Of.isActive_eq {a : Account} {user : User} (h : a.Of C user) :
    a.row.isActive = user.isActive :=
  congrArg UserResponse.isActive h.row

theorem Account.Of.isAdmin_eq {a : Account} {user : User} (h : a.Of C user) :
    a.row.isAdmin = user.isAdmin :=
  congrArg UserResponse.isAdmin h.row

namespace Book.Of

theorem byUsername? (h : book.Of C users) (username : String) :
    (book.byUsername? username = none ∧ users.byUsername? username = none) ∨
    ∃ a user, book.byUsername? username = some a ∧
      users.byUsername? username = some user ∧ a.Of C user := by
  rw [Book.byUsername?, Users.byUsername?]
  rw [Book.Of] at h
  generalize users.rows = rows at h
  induction h with
  | nil => exact .inl ⟨rfl, rfl⟩
  | @cons a user book rows hrow _ ih =>
      by_cases hname : user.username = username
      · rw [List.find?_cons_of_pos (by simpa [hrow.username_eq] using hname),
          List.find?_cons_of_pos (by simpa using hname)]
        exact .inr ⟨a, user, rfl, rfl, hrow⟩
      · rw [List.find?_cons_of_neg (by simpa [hrow.username_eq] using hname),
          List.find?_cons_of_neg (by simpa using hname)]
        exact ih

theorem byId? (h : book.Of C users) (userId : ℤ) :
    (book.byId? userId = none ∧ users.byId? userId = none) ∨
    ∃ a user, book.byId? userId = some a ∧ users.byId? userId = some user ∧
      a.Of C user := by
  rw [Book.byId?, Users.byId?]
  rw [Book.Of] at h
  generalize users.rows = rows at h
  induction h with
  | nil => exact .inl ⟨rfl, rfl⟩
  | @cons a user book rows hrow _ ih =>
      by_cases hid : user.id = userId
      · rw [List.find?_cons_of_pos (by simpa [hrow.id_eq] using hid),
          List.find?_cons_of_pos (by simpa using hid)]
        exact .inr ⟨a, user, rfl, rfl, hrow⟩
      · rw [List.find?_cons_of_neg (by simpa [hrow.id_eq] using hid),
          List.find?_cons_of_neg (by simpa using hid)]
        exact ih

/-- Both let the same account in, or refuse alike. -/
def LetIn (C : Credentials τ) (access : Except UserReply User)
    (account : Except (OfficeReply τ) Account) : Prop :=
  (∃ reply, access = .error reply ∧ account = .error reply.shown) ∨
    ∃ a user, access = .ok user ∧ account = .ok a ∧ a.Of C user

theorem current (h : book.Of C users) (sub : Option String) :
    LetIn C (getCurrentUser sub users) (book.current sub) := by
  rw [getCurrentUser, Book.current]
  rcases sub with _ | username
  · exact .inl ⟨_, rfl, rfl⟩
  · rw [Option.bind_some, Option.bind_some]
    rcases h.byUsername? username with ⟨haccount, huser⟩ |
      ⟨a, user, haccount, huser, hrow⟩
    · rw [haccount, huser]
      exact .inl ⟨_, rfl, rfl⟩
    · rw [haccount, huser]
      dsimp only
      rw [hrow.isActive_eq]
      by_cases hactive : user.isActive = true
      · rw [if_pos hactive, if_pos hactive]
        exact .inr ⟨a, user, rfl, rfl, hrow⟩
      · rw [if_neg hactive, if_neg hactive]
        exact .inl ⟨_, rfl, rfl⟩

theorem admin (h : book.Of C users) (sub : Option String) :
    LetIn C (requireAdmin sub users) (book.admin sub) := by
  rw [requireAdmin, Book.admin]
  rcases h.current sub with ⟨reply, huser, haccount⟩ |
    ⟨a, user, huser, haccount, hrow⟩
  · rw [huser, haccount]
    exact .inl ⟨reply, rfl, rfl⟩
  · rw [huser, haccount]
    dsimp only
    rw [hrow.isAdmin_eq]
    by_cases hadmin : user.isAdmin = true
    · rw [if_pos hadmin, if_pos hadmin]
      exact .inr ⟨a, user, rfl, rfl, hrow⟩
    · rw [if_neg hadmin, if_neg hadmin]
      exact .inl ⟨_, rfl, rfl⟩

/-- An endpoint answers what the book says if it does so to whom it admits. -/
theorem LetIn.answered {access : Except UserReply User}
    {account : Except (OfficeReply τ) Account} {t : AdminTables}
    {endpoint : User → AdminTables × OfficeReply τ}
    {answer : Account → Option (OfficeReply τ)} {reply : OfficeReply τ}
    (h : LetIn C access account) (hanswer : admitted account answer = some reply)
    (hendpoint : ∀ a user, access = .ok user → a.Of C user →
      answer a = some reply → (endpoint user).2 = reply) :
    (guarded access t endpoint).2 = reply := by
  rcases h with ⟨reply', rfl, rfl⟩ | ⟨a, user, rfl, rfl, hrow⟩
  · exact Option.some.inj hanswer
  · exact hendpoint a user rfl hrow hanswer

theorem login {lifetime now : ℤ} (h : book.Of C users)
    (username password : String) :
    (Server.login C lifetime now username password users).shown =
      book.login C lifetime now username password := by
  rw [Server.login, Book.login]
  rcases h.byUsername? username with ⟨haccount, huser⟩ |
    ⟨a, user, haccount, huser, hrow⟩
  · rw [haccount, huser]
    rfl
  · rw [haccount, huser]
    dsimp only
    have hname := (Users.mem_of_byUsername? huser).2
    by_cases hpassword : password = a.password
    · rw [if_neg (by simpa using (hrow.password password).mpr hpassword),
        if_neg (not_not.mpr hpassword), hrow.isActive_eq]
      by_cases hactive : user.isActive = true
      · simp only [hactive, Bool.not_true, Bool.false_eq_true, if_false,
          hrow.isAdmin_eq, hname]
        rfl
      · rw [if_pos (by simpa using hactive), if_pos (by simpa using hactive)]
        rfl
    · have hverify : C.verifyPassword password user.passwordHash = false := by
        rw [Bool.eq_false_iff]
        exact fun hverify => hpassword ((hrow.password password).mp hverify)
      rw [if_pos (by rw [hverify]; rfl), if_pos hpassword]
      rfl

/-- So it is where only refusals are settled. -/
theorem LetIn.refused {access : Except UserReply User}
    {account : Except (OfficeReply τ) Account} {t : AdminTables}
    {endpoint : User → AdminTables × OfficeReply τ} {reply : OfficeReply τ}
    (h : LetIn C access account)
    (hanswer : admitted account (fun _ => none) = some reply) :
    (guarded access t endpoint).2 = reply :=
  h.answered hanswer fun _ _ _ _ hnone => by contradiction

theorem answer_changePassword {a : Account} {user : User} {env : UserEnv}
    {body : ChangePasswordRequest} {t : AdminTables} (hrow : a.Of C user) :
    ((changePassword C user env body t).2.shown : OfficeReply τ) =
      changeOwn env body a := by
  rw [changePassword, changeOwn]
  by_cases hold : body.oldPassword = a.password
  · rw [if_neg (by simpa using (hrow.password _).mpr hold),
      if_neg (not_not.mpr hold), hold]
    by_cases hnew : body.newPassword = a.password
    · rw [if_pos hnew.symm, if_pos hnew]
      rfl
    · rw [if_neg (Ne.symm hnew), if_neg hnew, committed]
      rcases env.hash body.newPassword with _ | passwordHash
      · rfl
      · cases env.commitFails <;> rfl
  · have hverify : C.verifyPassword body.oldPassword user.passwordHash = false := by
      rw [Bool.eq_false_iff]
      exact fun hverify => hold ((hrow.password _).mp hverify)
    rw [if_pos (by rw [hverify]; rfl), if_pos hold]
    rfl

/-- The users are listed as the book has them. -/
theorem map_row (h : book.Of C users) :
    book.map (·.row) = users.rows.map (·.response) := by
  rw [Book.Of] at h
  generalize users.rows = rows at h
  induction h with
  | nil => rfl
  | cons hrow _ ih => rw [List.map_cons, List.map_cons, hrow.row, ih]

theorem nextId_eq (h : book.Of C users) : book.nextId = users.nextId := by
  have hids : (book.map fun a => a.row.id) = users.rows.map (·.id) := by
    have hrows := congrArg (List.map UserResponse.id) h.map_row
    rwa [List.map_map, List.map_map] at hrows
  rw [Book.nextId, Users.nextId, hids]

section

variable {t : AdminTables} {env : UserEnv} {a : Account} {actor : User}
  {userId : ℤ}

theorem answer_create {body : UserCreate} (h : book.Of C t.users) :
    ((createUser actor env body t).2.shown : OfficeReply τ) =
      book.manage env a (.create body) := by
  rw [manage]
  rcases h.byUsername? body.username with ⟨haccount, huser⟩ |
    ⟨a', user', haccount, huser, -⟩
  · rw [createUser_of_none huser, haccount, h.nextId_eq, committed]
    rcases env.hash body.password with _ | passwordHash
    · rfl
    · cases env.commitFails <;> rfl
  · rw [createUser_of_some huser, haccount]
    rfl

/-- Whether a row can be revised depends on its flags and on the hash. -/
theorem isSome_storedHash {body : UserUpdate} (user : User) :
    (body.storedHash env user).isSome = body.hashes env := by
  rw [UserUpdate.storedHash.eq_def, UserUpdate.hashes, UserUpdate.newPassword]
  rcases body.password with _ | _ | password
  · rfl
  · rfl
  · by_cases hempty : password = ""
    · simp [hempty]
    · simp [hempty, Option.filter]

theorem answer_update {body : UserUpdate} (h : book.Of C t.users) :
    ((updateUser actor env userId body t).2.shown : OfficeReply τ) =
      book.manage env a (.update userId body) := by
  rw [updateUser, manage]
  by_cases hfits : FitsSqlite userId
  · rw [if_neg (not_not.mpr hfits), if_neg (not_not.mpr hfits)]
    rcases h.byId? userId with ⟨haccount, huser⟩ |
      ⟨a', user, haccount, huser, hrow⟩
    · rw [haccount, huser]
      rfl
    · rw [haccount, huser]
      dsimp only
      rw [body.columns_eq, hrow.isAdmin_eq, hrow.isActive_eq,
        ← isSome_storedHash user]
      rcases body.storedHash env user with _ | passwordHash
      · rcases body.isAdmin.getD (some user.isAdmin) with _ | isAdmin
        · rfl
        · rcases body.isActive.getD (some user.isActive) with _ | isActive <;>
            rfl
      · rcases body.isAdmin.getD (some user.isAdmin) with _ | isAdmin
        · rfl
        · rcases body.isActive.getD (some user.isActive) with _ | isActive
          · rfl
          · dsimp only
            rw [hrow.row, committed]
            cases env.commitFails <;> rfl
  · rw [if_pos hfits, if_pos hfits]
    rfl

theorem answer_delete (h : book.Of C t.users) (hactor : a.Of C actor) :
    ((deleteUser actor env userId t).2.shown : OfficeReply τ) =
      book.manage env a (.delete userId) := by
  rw [deleteUser, manage, hactor.id_eq]
  by_cases hself : actor.id = userId
  · rw [if_pos hself, if_pos hself]
    rfl
  rw [if_neg hself, if_neg hself]
  by_cases hfits : FitsSqlite userId
  · rw [if_neg (not_not.mpr hfits), if_neg (not_not.mpr hfits)]
    rcases h.byId? userId with ⟨haccount, huser⟩ | ⟨a', user, haccount, huser, -⟩
    · rw [haccount, huser]
      rfl
    · rw [haccount, huser]
      dsimp only
      rw [committed]
      cases env.commitFails <;> rfl
  · rw [if_pos hfits, if_pos hfits]
    rfl

theorem answer_users {request : UserRequest} {reply : OfficeReply τ}
    (h : book.Of C t.users)
    (hanswer : admitted (book.admin sub)
      (fun a => some (book.manage env a request)) = some reply) :
    ((UserCall.mk sub env request).handle t).2.shown = reply := by
  rw [UserCall.handle]
  rcases h.admin sub with ⟨reply', haccess, haccount⟩ |
    ⟨a, user, haccess, haccount, hrow⟩
  all_goals
    rw [haccount] at hanswer
    rw [haccess]
    obtain rfl := Option.some.inj hanswer
  · rfl
  · rcases request with body | ⟨userId, body⟩ | userId
    · exact h.answer_create
    · exact h.answer_update
    · exact h.answer_delete hrow

end

/-- The server answers what the book says. -/
theorem answer {lifetime : ℤ} {t : AdminTables} {call : OfficeCall τ}
    {reply : OfficeReply τ} (h : book.Of C t.users)
    (hanswer : book.answer C lifetime call = some reply) :
    (call.handle C lifetime t).2 = reply := by
  have hcurrent := h.current (call.sub C)
  have hadmin := h.admin (call.sub C)
  rw [Book.answer] at hanswer
  rw [OfficeCall.handle]
  rcases hrequest : call.request with ⟨username, password⟩ | _ | _ | body | _ |
    configs | _ | request | ⟨page, pageSize⟩ | days
  all_goals
    rw [hrequest] at hanswer
    dsimp only at hanswer ⊢
  · rw [h.login, Option.some.inj hanswer]
  · refine hcurrent.answered hanswer fun a user _ hrow hanswer => ?_
    rw [← Option.some.inj hanswer, hrow.row]
  · refine hcurrent.answered hanswer fun a user _ hrow hanswer => ?_
    rw [← Option.some.inj hanswer, hrow.username_eq, hrow.isAdmin_eq]
  · refine hcurrent.answered hanswer fun a user _ hrow hanswer => ?_
    rw [← Option.some.inj hanswer]
    exact answer_changePassword hrow
  · exact hcurrent.refused hanswer
  · exact hcurrent.refused hanswer
  · refine hadmin.answered hanswer fun a user _ hrow hanswer => ?_
    rw [← Option.some.inj hanswer, h.map_row]
  · exact h.answer_users hanswer
  · exact hadmin.refused hanswer
  · exact hadmin.refused hanswer

end Book.Of

end

/-! ## Keeping the book -/

section

variable {τ : Type} {C : Credentials τ} {book : Book} {t : AdminTables}
  {actor : User} {env : UserEnv} {sub : Option String} {userId : ℤ}

/-- A created user is shown and listed last, or nothing changes. -/
theorem createUser_spec (actor : User) (env : UserEnv) (body : UserCreate)
    (t : AdminTables) :
    (∃ row passwordHash, env.hash body.password = some passwordHash ∧
      row.passwordHash = passwordHash ∧
      (createUser actor env body t).1.users.rows = t.users.rows ++ [row] ∧
      (createUser actor env body t).2 = .user row) ∨
    (createUser actor env body t).1 = t ∧
      ∀ row, (createUser actor env body t).2 ≠ .user row := by
  rw [createUser]
  split
  · exact .inr ⟨rfl, fun _ => UserReply.noConfusion⟩
  · cases hhash : env.hash body.password with
    | none => exact .inr ⟨rfl, fun _ => UserReply.noConfusion⟩
    | some passwordHash =>
        dsimp only
        split
        · exact .inr ⟨rfl, fun _ => UserReply.noConfusion⟩
        · exact .inl ⟨_, passwordHash, rfl, rfl, rfl, rfl⟩

/-- A deletion is confirmed, or nothing changes. -/
theorem deleteUser_spec (actor : User) (env : UserEnv) (userId : ℤ)
    (t : AdminTables) :
    ((deleteUser actor env userId t).1.users = t.users.delete userId ∧
      (deleteUser actor env userId t).2 = .message "用户已删除") ∨
    (deleteUser actor env userId t).1 = t ∧
      ∀ text, (deleteUser actor env userId t).2 ≠ .message text := by
  rw [deleteUser]
  split
  · exact .inr ⟨rfl, fun _ => UserReply.noConfusion⟩
  split
  · exact .inr ⟨rfl, fun _ => UserReply.noConfusion⟩
  split
  · exact .inr ⟨rfl, fun _ => UserReply.noConfusion⟩
  split
  · exact .inr ⟨rfl, fun _ => UserReply.noConfusion⟩
  · exact .inl ⟨rfl, rfl⟩

/-- A change of the own password is confirmed, or nothing changes. -/
theorem changePassword_spec (C : Credentials τ) (actor : User) (env : UserEnv)
    (body : ChangePasswordRequest) (t : AdminTables) :
    (∃ passwordHash, env.hash body.newPassword = some passwordHash ∧
      (changePassword C actor env body t).1.users = t.users.revise actor.id
        (passwordHash, actor.isAdmin, actor.isActive) env.updatedAt ∧
      (changePassword C actor env body t).2 = .message "密码更改成功") ∨
    (changePassword C actor env body t).1 = t ∧
      ∀ text, (changePassword C actor env body t).2 ≠ .message text := by
  rw [changePassword]
  split
  · exact .inr ⟨rfl, fun _ => UserReply.noConfusion⟩
  split
  · exact .inr ⟨rfl, fun _ => UserReply.noConfusion⟩
  cases hhash : env.hash body.newPassword with
  | none => exact .inr ⟨rfl, fun _ => UserReply.noConfusion⟩
  | some passwordHash =>
      dsimp only
      split
      · exact .inr ⟨rfl, fun _ => UserReply.noConfusion⟩
      · exact .inl ⟨passwordHash, rfl, rfl, rfl⟩

/-- The hash after an update is the old one, or one of the new password. -/
theorem passwordHash_of_columns {body : UserUpdate} {row : User}
    {columns : String × Bool × Bool} (h : body.columns env row = some columns) :
    (body.newPassword = none ∧ columns.1 = row.passwordHash) ∨
      ∃ password, body.newPassword = some password ∧
        env.hash password = some columns.1 := by
  rw [UserUpdate.columns] at h
  split at h
  next passwordHash isAdmin isActive hhash _ _ =>
    obtain rfl := Option.some.inj h
    rw [UserUpdate.newPassword]
    rcases hpassword : body.password with _ | _ | password
    all_goals
      rw [hpassword] at hhash
      dsimp only at hhash
    · exact .inl ⟨rfl, (Option.some.inj hhash).symm⟩
    · exact .inl ⟨rfl, (Option.some.inj hhash).symm⟩
    · by_cases hempty : password = ""
      · rw [if_pos hempty] at hhash
        exact .inl ⟨by simp [hempty], (Option.some.inj hhash).symm⟩
      · rw [if_neg hempty] at hhash
        exact .inr ⟨password, by simp [hempty], hhash⟩
  next => contradiction

namespace Book.Of

/-- What becomes of one account and its row becomes of all. -/
theorem map {f : Account → Account} {users users' : Users} {g : User → User}
    (h : book.Of C users) (hrows : users'.rows = users.rows.map g)
    (hfg : ∀ a, ∀ user ∈ users.rows, a.Of C user → (f a).Of C (g user)) :
    Book.Of C (book.map f) users' := by
  rw [Book.Of, hrows, List.forall₂_map_left_iff, List.forall₂_map_right_iff]
  have hmem : List.Forall₂ (fun a user => user ∈ users.rows ∧ a.Of C user)
      book users.rows := by
    rw [List.forall₂_iff_get]
    rw [Book.Of, List.forall₂_iff_get] at h
    exact ⟨h.1, fun i hi hi' => ⟨List.get_mem _ _, h.2 i hi hi'⟩⟩
  exact hmem.imp fun a user ⟨huser, hrow⟩ => hfg a user huser hrow

theorem observe_update {body : UserUpdate} (h : book.Of C t.users)
    (hhash : env.Hashes C) :
    (book.observe sub (.users (.update userId body))
      ((updateUser actor env userId body t).2.shown : OfficeReply τ)).Of C
        (updateUser actor env userId body t).1.users := by
  obtain ⟨row, columns, hrow, hcolumns, -, heq⟩ | ⟨-, hkept, hreply⟩ :=
    updateUser_cases actor env userId body t
  · obtain ⟨hmem, hid⟩ := Users.mem_of_byId? hrow
    rw [heq]
    refine h.map rfl fun a user huser ha => ?_
    by_cases huserId : user.id = userId
    · obtain rfl := Users.eq_of_id huser hmem (huserId.trans hid.symm)
      rw [if_pos (ha.id_eq.trans huserId), if_pos huserId]
      refine ⟨rfl, fun password => ?_⟩
      rcases passwordHash_of_columns hcolumns with ⟨hnone, hkept⟩ |
        ⟨password', hsome, hnew⟩
      · rw [hnone]
        change C.verifyPassword password columns.1 = true ↔ password = a.password
        rw [hkept]
        exact ha.password password
      · rw [hsome]
        exact hhash _ _ hnew password
    · rw [if_neg fun heq => huserId (ha.id_eq.symm.trans heq), if_neg huserId]
      exact ha
  · rw [hkept]
    cases hshown : (updateUser actor env userId body t).2 with
    | user row => exact absurd hshown (hreply row)
    | _ => exact h

theorem observe_create {body : UserCreate} (h : book.Of C t.users)
    (hhash : env.Hashes C) :
    (book.observe sub (.users (.create body))
      ((createUser actor env body t).2.shown : OfficeReply τ)).Of C
        (createUser actor env body t).1.users := by
  rcases createUser_spec actor env body t with
    ⟨row, passwordHash, hnew, hrow, hrows, hreply⟩ | ⟨hkept, hreply⟩
  · rw [hreply, Book.Of, hrows]
    refine List.rel_append h (.cons ⟨rfl, fun password => ?_⟩ .nil)
    rw [hrow]
    exact hhash _ _ hnew password
  · rw [hkept]
    cases hshown : (createUser actor env body t).2 with
    | user row => exact absurd hshown (hreply row)
    | _ => exact h

theorem observe_delete (h : book.Of C t.users) :
    (book.observe sub (.users (.delete userId))
      ((deleteUser actor env userId t).2.shown : OfficeReply τ)).Of C
        (deleteUser actor env userId t).1.users := by
  rcases deleteUser_spec actor env userId t with ⟨husers, hreply⟩ | ⟨hkept, hreply⟩
  · rw [hreply, husers]
    exact List.rel_filter (fun a user hrow => by simp [hrow.id_eq]) h
  · rw [hkept]
    cases hshown : (deleteUser actor env userId t).2 with
    | message text => exact absurd hshown (hreply text)
    | _ => exact h

theorem observe_changePassword {body : ChangePasswordRequest}
    (h : book.Of C t.users) (hhash : env.Hashes C)
    (hactor : getCurrentUser sub t.users = .ok actor) :
    (book.observe sub (.changePassword body)
      ((changePassword C actor env body t).2.shown : OfficeReply τ)).Of C
        (changePassword C actor env body t).1.users := by
  obtain ⟨hmem, rfl, -⟩ := getCurrentUser_eq_ok hactor
  rcases changePassword_spec C actor env body t with
    ⟨passwordHash, hnew, husers, hreply⟩ | ⟨hkept, hreply⟩
  · rw [hreply, husers]
    refine h.map rfl fun a user huser ha => ?_
    by_cases hid : user.id = actor.id
    · obtain rfl := Users.eq_of_id huser hmem hid
      rw [if_pos (congrArg some ha.username_eq), if_pos rfl]
      exact ⟨ha.row, hhash _ _ hnew⟩
    · rw [if_neg fun hname => hid ?_, if_neg hid]
      · exact ha
      · have hname : user.username = actor.username :=
          ha.username_eq.symm.trans (Option.some.inj hname)
        exact congrArg User.id
          (List.inj_on_of_nodup_map t.users.uniqueUsername huser hmem hname)
  · rw [hkept]
    cases hshown : (changePassword C actor env body t).2 with
    | message text => exact absurd hshown (hreply text)
    | _ => exact h

/-- A refusal tells nothing about the accounts. -/
theorem observe_httpException {request : OfficeRequest} {status : ℕ}
    {detail : String} :
    book.observe sub request
      (.httpException status detail : OfficeReply τ) = book := by
  rcases request with _ | _ | _ | _ | _ | _ | _ | (_ | _ | _) | _ | _
  all_goals rfl

theorem observe_users {request : UserRequest} (h : book.Of C t.users)
    (hhash : env.Hashes C) :
    (book.observe sub (.users request)
      (((UserCall.mk sub env request).handle t).2.shown : OfficeReply τ)).Of C
        ((UserCall.mk sub env request).handle t).1.users := by
  rw [UserCall.handle]
  rcases haccess : requireAdmin sub t.users with reply | actor
  · obtain ⟨status, detail, rfl⟩ := requireAdmin_error haccess
    rw [UserReply.shown, observe_httpException]
    exact h
  rcases request with body | ⟨userId, body⟩ | userId
  · exact h.observe_create hhash
  · exact h.observe_update hhash
  · exact h.observe_delete

/-- An endpoint keeps the book if it does so for whom it admits. -/
theorem observe_guarded {access : Except UserReply User} {request : OfficeRequest}
    {endpoint : User → AdminTables × OfficeReply τ} (h : book.Of C t.users)
    (herror : ∀ reply, access = .error reply →
      ∃ status detail, reply = .httpException status detail)
    (hendpoint : ∀ actor, access = .ok actor →
      (book.observe sub request (endpoint actor).2).Of C
        (endpoint actor).1.users) :
    (book.observe sub request (guarded access t endpoint).2).Of C
      (guarded access t endpoint).1.users := by
  rcases access with reply | actor
  · obtain ⟨status, detail, rfl⟩ := herror reply rfl
    rw [guarded, UserReply.shown, observe_httpException]
    exact h
  · exact hendpoint actor rfl

/-- The book goes along with the table. -/
theorem observe {lifetime : ℤ} {call : OfficeCall τ} (h : book.Of C t.users)
    (hhash : call.env.user.Hashes C) :
    (book.observe (call.sub C) call.request (call.handle C lifetime t).2).Of C
      (call.handle C lifetime t).1.users := by
  rw [OfficeCall.handle]
  rcases call.request with ⟨username, password⟩ | _ | _ | body | _ | configs |
    _ | request | ⟨page, pageSize⟩ | days
  · exact h
  · exact h.observe_guarded (fun _ => getCurrentUser_error) fun _ _ => h
  · exact h.observe_guarded (fun _ => getCurrentUser_error) fun _ _ => h
  · refine h.observe_guarded (fun _ => getCurrentUser_error) fun actor hactor => ?_
    exact h.observe_changePassword hhash hactor
  · exact h.observe_guarded (fun _ => getCurrentUser_error) fun _ _ => h
  · exact h.observe_guarded (fun _ => getCurrentUser_error) fun _ _ => h
  · exact h.observe_guarded (fun _ => requireAdmin_error) fun _ _ => h
  · exact h.observe_users hhash
  · exact h.observe_guarded (fun _ => requireAdmin_error) fun _ _ => h
  · refine h.observe_guarded (fun _ => requireAdmin_error) fun actor _ => ?_
    have hkept : (cleanupOperationLogs actor call.env.now call.env.user.loggedAt
        days t).1.users = t.users := by
      rw [cleanupOperationLogs]
      split
      · rfl
      split
      · rfl
      split <;> rfl
    rw [hkept]
    exact h

end Book.Of

end

/-! ## Any run -/

section

variable {τ κ α : Type} [DecidableEq α] (C : Credentials τ) (T : Transport κ)
  (clientSecret : String) (B : Backend) (lifetime : ℤ)
  (e : ℕ → OfficeEvent τ κ α) (site : Site τ)

/-- The book after an event and what was sent back. -/
def Book.see (book : Book) : OfficeEvent τ κ α → Sent τ κ → Book
  | .rest call, .reply reply => book.observe (call.sub C) call.request reply
  | _, _ => book

/-- The book after the first `k` events. -/
def bookAt (book : Book) : ℕ → Book
  | 0 => book
  | k + 1 =>
      (bookAt book k).see C (e k) (sentAt C T clientSecret B lifetime e site k)

variable {C e site} {book : Book}

theorem Book.Of.see {e : OfficeEvent τ κ α} (h : book.Of C site.tables.users)
    (hhash : ∀ call, e = .rest call → call.env.user.Hashes C) :
    (book.see C e (e.handle C T clientSecret B lifetime site).2).Of C
      (e.handle C T clientSecret B lifetime site).1.tables.users := by
  rcases e with call | ⟨now, id, token⟩ | ⟨id, env, message⟩ | id |
    ⟨salt, env, broadcast, body⟩
  · exact h.observe (hhash call rfl)
  · rw [OfficeEvent.handle]
    split <;> exact h
  · rw [OfficeEvent.handle]
    split <;> exact h
  · exact h
  · exact h

theorem Book.Of.bookAt (h : book.Of C site.tables.users)
    (hhash : ∀ k call, e k = .rest call → call.env.user.Hashes C) (k : ℕ) :
    (Server.bookAt C T clientSecret B lifetime e site book k).Of C
      (officeAt C T clientSecret B lifetime e site k).tables.users := by
  induction k with
  | zero => exact h
  | succ k ih => exact ih.see T clientSecret B lifetime (hhash k)

variable {T clientSecret B lifetime}

end

/-! ## The clerk gets a new password -/

def exampleCall (token : Option Payload) (request : OfficeRequest) :
    OfficeCall Payload :=
  ⟨token, 1000, ⟨⟨fun s => some ("$5$" ++ s), 200, 200, 200, false⟩, newYear, id⟩,
    request⟩

/-- The clerk changes the password and logs in with the old one. -/
def exampleForgetful : ℕ → OfficeEvent Payload (String × ℕ × Json) String
  | 0 => .rest (exampleCall (some (exampleToken "clerk"))
      (.changePassword ⟨"secret", "better"⟩))
  | _ => .rest (exampleCall none (.login "clerk" "secret"))

def exampleBook : Book :=
  [⟨⟨1, "admin", true, true, 100⟩, "admin123"⟩,
    ⟨⟨2, "clerk", true, false, 100⟩, "secret"⟩]

theorem verifyPassword_plain (password password' : String) :
    Credentials.plain.verifyPassword password' ("$5$" ++ password) = true ↔
      password' = password := by
  rw [Credentials.plain, beq_iff_eq, String.append_right_inj]
  exact eq_comm

end PyAuth.Server
