import PyAuth.Server.Users
import PyAuth.Support.Run

/-!
# Sessions of the admin pages

Who logs in gets a token.  The REST endpoints check it on every request; a
WebSocket checks it once, when it is opened, and acts from then on under the
name found there.
-/

namespace PyAuth.Server

open Support

/-! ## Tokens -/

/-- The claims of a token; times are in seconds. -/
structure Payload where
  sub : Option String
  exp : Option ℤ
deriving DecidableEq

/-- Password hashes and signed tokens.  `τ` are the strings that may be sent
as a token. -/
structure Credentials (τ : Type) where
  /-- `pwd_context.verify`. -/
  verifyPassword : (password passwordHash : String) → Bool
  /-- `jwt.encode`. -/
  encode : Payload → τ
  /-- `jwt.decode` up to the check of the time. -/
  decode : τ → Option Payload
  decode_encode : ∀ payload, decode (encode payload) = some payload

section

variable {τ : Type} (C : Credentials τ)

/-- `create_access_token`, with the lifetime in seconds. -/
def createAccessToken (sub : String) (lifetime now : ℤ) : τ :=
  C.encode ⟨some sub, some (now + lifetime)⟩

/-- `verify_token`. -/
def verifyToken (now : ℤ) (token : τ) : Option Payload :=
  match C.decode token with
  | none => none
  | some payload =>
      match payload.exp with
      | none => some payload
      | some exp => if exp < now then none else some payload

theorem verifyToken_eq_some_iff {now : ℤ} {token : τ} {payload : Payload} :
    verifyToken C now token = some payload ↔
      C.decode token = some payload ∧
        ∀ exp, payload.exp = some exp → now ≤ exp := by
  rw [verifyToken]
  cases C.decode token with
  | none => simp
  | some payload' =>
      cases hexp : payload'.exp with
      | none =>
          simp only [hexp, Option.some.injEq]
          refine ⟨?_, And.left⟩
          rintro rfl
          simp [hexp]
      | some exp =>
          simp only [hexp, Option.ite_none_left_eq_some, not_lt,
            Option.some.injEq]
          constructor
          · rintro ⟨hle, rfl⟩
            exact ⟨rfl, fun exp' h => Option.some.inj (hexp.symm.trans h) ▸ hle⟩
          · rintro ⟨rfl, h⟩
            exact ⟨h exp hexp, rfl⟩

/-- The subject of a verified token. -/
def verifiedSub (now : ℤ) (token : τ) : Option String :=
  (verifyToken C now token).bind (·.sub)

inductive LoginReply (τ : Type)
  | token (accessToken : τ) (username : String) (isAdmin : Bool)
  | httpException (status : ℕ) (detail : String)
deriving DecidableEq

/-- `login`. -/
def login (lifetime now : ℤ) (username password : String) (users : Users) :
    LoginReply τ :=
  match users.byUsername? username with
  | none => .httpException 401 "用户名或密码错误"
  | some user =>
      if !C.verifyPassword password user.passwordHash then
        .httpException 401 "用户名或密码错误"
      else if !user.isActive then .httpException 403 "用户已被禁用"
      else
        .token (createAccessToken C user.username lifetime now) user.username
          user.isAdmin

/-! ## Sessions -/

/-- An accepted WebSocket: its token and the name it acts under. -/
structure Session (τ : Type) where
  token : τ
  actor : String
deriving DecidableEq

/-- What `device_events` checks before it accepts the connection. -/
def openSession (now : ℤ) (token : Option τ) (users : Users) :
    Option (Session τ) :=
  match token with
  | none => none
  | some token =>
      match verifiedSub C now token with
      | none => none
      | some username =>
          if username = "" then none
          else
            match users.byUsername? username with
            | none => none
            | some user =>
                if user.isActive then some ⟨token, user.username⟩ else none

/-- The tables and the open WebSockets. -/
structure Site (τ : Type) where
  tables : AdminTables
  sessions : Dict ℕ (Session τ)

inductive SiteEvent (τ α : Type) [DecidableEq α]
  | login (now : ℤ) (username password : String)
  | user (now : ℤ) (token : Option τ) (env : UserEnv) (request : UserRequest)
  | connect (now : ℤ) (id : ℕ) (token : Option τ)
  | receive (now : ℤ) (id : ℕ) (env : RequestEnv α) (message : Option Json)
  | disconnect (id : ℕ)

variable {α : Type} [DecidableEq α] (B : Backend)

/-- The request about users which an event makes. -/
def userCall (now : ℤ) (token : Option τ) (env : UserEnv)
    (request : UserRequest) : UserCall :=
  ⟨token.bind (verifiedSub C now), env, request⟩

/-- A message is handled under the name of its session. -/
def Site.receive (site : Site τ) (id : ℕ) (session : Session τ)
    (env : RequestEnv α) (message : Option Json) : Site τ :=
  let handled := deviceEvents B session.actor env message site.tables.toTables
  { tables := { site.tables with toTables := handled.tables }
    sessions :=
      if handled.isOpen then site.sessions else site.sessions.erase id }

/-- The site after an event. -/
def SiteEvent.handle (site : Site τ) : SiteEvent τ α → Site τ
  | .login _ _ _ => site
  | .user now token env request =>
      { site with
        tables := ((userCall C now token env request).handle site.tables).1 }
  | .connect now id token =>
      match openSession C now token site.tables.users with
      | none => site
      | some session =>
          { site with sessions := site.sessions.set id session }
  | .receive _ id env message =>
      match site.sessions.get id with
      | none => site
      | some session => site.receive B id session env message
  | .disconnect id => { site with sessions := site.sessions.erase id }

/-- The site after the first `k` events. -/
def siteAt (e : ℕ → SiteEvent τ α) (site : Site τ) : ℕ → Site τ :=
  statesAt (fun site e => e.handle C B site) e site

end

end PyAuth.Server
