import Mathlib.Tactic.IntervalCases
import PyAuth.Server.Sessions

/-!
# Who changes devices

A session outlives the check which opened it.  As long as nobody with an open
session is disabled or deleted and no session acts on an expired token, every
committed change of devices is made by an active user with a valid token.
-/

namespace PyAuth.Server

open Support

/-- Some active user has this name. -/
def Users.Active (users : Users) (username : String) : Prop :=
  ∃ user ∈ users.rows, user.username = username ∧ user.isActive = true

/-! ## Requests that change devices -/

section

variable {α : Type} [DecidableEq α] (B : Backend)

/-- The request is an `update_device`, `delete_device` or `delete_devices`
which is committed. -/
def ChangesDevices (env : RequestEnv α) (data : Dict String Json)
    (t : Tables) : Prop :=
  env.commitError = none ∧
    ((data.get "type" = some (.str "update_device") ∧
        ∃ deviceId allowed remark,
          updateRequest B data = .ok (deviceId, allowed) ∧
          t.device? deviceId ≠ none ∧ storedRemark B allowed = .ok remark) ∨
      (data.get "type" = some (.str "delete_device") ∧
        targetId B data ≠ "" ∧ t.named [targetId B data] ≠ []) ∨
      (data.get "type" = some (.str "delete_devices") ∧
        ∃ ids, deleteRequest B data = .ok ids ∧ existingIds B t ids ≠ []))

variable {B} {actor : String} {env : RequestEnv α} {data : Dict String Json}
  {t : Tables}

theorem updateDevice_tables_ne_iff :
    (updateDevice B actor env data t).tables ≠ t ↔
      env.commitError = none ∧ ∃ deviceId allowed remark,
        updateRequest B data = .ok (deviceId, allowed) ∧
        t.device? deviceId ≠ none ∧ storedRemark B allowed = .ok remark := by
  constructor
  · intro hne
    rw [updateDevice] at hne
    cases hrequest : updateRequest B data with
    | error message => simp [hrequest] at hne
    | ok request =>
        obtain ⟨deviceId, allowed⟩ := request
        simp only [hrequest] at hne
        cases hdevice : t.device? deviceId with
        | none => simp [hdevice] at hne
        | some device =>
            cases hcommit : env.commitError with
            | some message => simp [hdevice, hcommit] at hne
            | none =>
                cases hremark : storedRemark B allowed with
                | error message => simp [hdevice, hcommit, hremark] at hne
                | ok remark =>
                    exact ⟨rfl, deviceId, allowed, remark, rfl,
                      by simp [hdevice], hremark⟩
  · rintro ⟨hcommit, deviceId, allowed, remark, hrequest, hdevice, hremark⟩
    obtain ⟨device, hdevice⟩ := Option.ne_none_iff_exists'.mp hdevice
    rw [updateDevice_tables hrequest hdevice hremark hcommit]
    intro heq
    exact Tables.append_newLogs_ne (List.cons_ne_nil _ _)
      (congrArg Tables.operationLogs heq)

theorem deleteDevice_tables_ne_iff :
    (deleteDevice B actor env data t).tables ≠ t ↔
      env.commitError = none ∧ targetId B data ≠ "" ∧
        t.named [targetId B data] ≠ [] := by
  constructor
  · intro hne
    rw [deleteDevice] at hne
    split at hne
    · exact absurd rfl hne
    next hid =>
      split at hne
      · exact absurd rfl hne
      next hnamed =>
        cases hcommit : env.commitError with
        | some message => simp [hcommit] at hne
        | none => exact ⟨rfl, hid, hnamed⟩
  · rintro ⟨hcommit, hid, hnamed⟩
    rw [deleteDevice_tables hid hnamed hcommit]
    intro heq
    exact Tables.append_newLogs_ne (List.cons_ne_nil _ _)
      (congrArg Tables.operationLogs heq)

theorem deleteDevices_tables_ne_iff :
    (deleteDevices B actor env data t).tables ≠ t ↔
      env.commitError = none ∧ ∃ ids, deleteRequest B data = .ok ids ∧
        existingIds B t ids ≠ [] := by
  rw [deleteDevices]
  cases hrequest : deleteRequest B data with
  | error message => simp
  | ok ids =>
      dsimp only
      split
      next hids => simp [hids]
      next hids =>
        cases hcommit : env.commitError with
        | some message => simp
        | none =>
            refine iff_of_true (fun heq => ?_) ⟨rfl, ids, rfl, hids⟩
            rw [announce_spec.1] at heq
            exact Tables.append_newLogs_ne hids
              (congrArg Tables.operationLogs heq)

/-- A message changes the tables exactly if it is a committed request. -/
theorem deviceEvents_tables_ne_iff {message : Option Json} :
    (deviceEvents B actor env message t).tables ≠ t ↔
      ∃ data, message.bind Json.dict? = some data ∧
        ChangesDevices B env data t := by
  cases message with
  | none => simp [deviceEvents]
  | some message =>
      rw [deviceEvents, Option.bind_some]
      cases message.dict? with
      | none => simp
      | some data =>
          simp only [Option.some.injEq, exists_eq_left', ChangesDevices]
          by_cases hget : data.get "type" = some (.str "get_devices")
          · simp only [hget, if_true, Option.some.injEq, Json.str.injEq,
              String.reduceEq, false_and, or_self, and_false, iff_false,
              not_not]
            exact tables_getDevices
          rw [if_neg hget]
          by_cases hupdate : data.get "type" = some (.str "update_device")
          · simp [hupdate, tables_guarded, updateDevice_tables_ne_iff]
          rw [if_neg hupdate]
          by_cases hdelete : data.get "type" = some (.str "delete_device")
          · simp [hdelete, tables_guarded, deleteDevice_tables_ne_iff]
          rw [if_neg hdelete]
          by_cases hmany : data.get "type" = some (.str "delete_devices")
          · simp [hmany, tables_guarded, deleteDevices_tables_ne_iff]
          rw [if_neg hmany]
          simp [hupdate, hdelete, hmany]

end

/-! ## Users who stay active -/

/-- The request disables the user of this row, or deletes it. -/
def UserRequest.Expels (request : UserRequest) (env : UserEnv)
    (actor row : User) : Prop :=
  match request with
  | .create _ => False
  | .update userId body =>
      userId = row.id ∧ body.isActive = some (some false) ∧
        body.Committed env row
  | .delete userId =>
      userId = row.id ∧ actor.id ≠ userId ∧ FitsSqlite userId ∧
        env.commitFails = false

section

variable {t : AdminTables} {actor : User} {env : UserEnv} {username : String}

theorem active_createUser {body : UserCreate}
    (h : t.users.Active username) :
    (createUser actor env body t).1.users.Active username := by
  rcases createUser_cases actor env body t with ⟨row, hrows⟩ | hkept
  · obtain ⟨user, hmem, huser⟩ := h
    exact ⟨user, hrows ▸ List.mem_append_left _ hmem, huser⟩
  · rwa [hkept]

theorem active_updateUser {body : UserUpdate} {userId : ℤ} {user : User}
    (hmem : user ∈ t.users.rows) (hactive : user.isActive = true)
    (h : ¬(UserRequest.update userId body).Expels env actor user) :
    (updateUser actor env userId body t).1.users.Active user.username := by
  obtain ⟨row, columns, hrow, hcolumns, hcommitted, heq⟩ | ⟨-, hkept, -⟩ :=
    updateUser_cases actor env userId body t
  · obtain ⟨hrowmem, hrowid⟩ := Users.mem_of_byId? hrow
    rw [heq]
    refine ⟨_, List.mem_map_of_mem hmem, ?_⟩
    by_cases hid : user.id = userId
    · obtain rfl := Users.eq_of_id hrowmem hmem (hrowid.trans hid.symm)
      have hfield := (columns_eq_some hcolumns).2
      rw [hactive] at hfield
      rw [if_pos hid]
      refine ⟨rfl, ?_⟩
      by_contra hfalse
      rw [Bool.not_eq_true] at hfalse
      exact h ⟨hid.symm, (getD_eq_some_true_iff hfield).mp hfalse, hcommitted⟩
    · rw [if_neg hid]
      exact ⟨rfl, hactive⟩
  · rw [hkept]
    exact ⟨user, hmem, rfl, hactive⟩

theorem active_deleteUser {userId : ℤ} {user : User}
    (hmem : user ∈ t.users.rows) (hactive : user.isActive = true)
    (h : ¬(UserRequest.delete userId).Expels env actor user) :
    (deleteUser actor env userId t).1.users.Active user.username := by
  rcases deleteUser_cases actor env userId t with
    ⟨hself, hfits, hcommits, husers⟩ | hkept
  · rw [husers]
    refine ⟨user, List.mem_filter.mpr ⟨hmem, ?_⟩, rfl, hactive⟩
    by_contra hid
    exact h ⟨by simpa using Eq.symm (by simpa using hid), hself, hfits, hcommits⟩
  · rw [hkept]
    exact ⟨user, hmem, rfl, hactive⟩

/-- A user stays active unless a request expels it. -/
theorem active_handle {call : UserCall} (h : t.users.Active username)
    (hcall : ∀ actor row, requireAdmin call.sub t.users = .ok actor →
      row ∈ t.users.rows → row.username = username →
      ¬call.request.Expels call.env actor row) :
    (call.handle t).1.users.Active username := by
  rw [UserCall.handle]
  cases hactor : requireAdmin call.sub t.users with
  | error reply => exact h
  | ok actor =>
      obtain ⟨user, hmem, rfl, hactive⟩ := h
      have hexpels := hcall actor user hactor hmem rfl
      cases hrequest : call.request with
      | create body => exact active_createUser ⟨user, hmem, rfl, hactive⟩
      | update userId body =>
          exact active_updateUser hmem hactive (hrequest ▸ hexpels)
      | delete userId =>
          exact active_deleteUser hmem hactive (hrequest ▸ hexpels)

end

/-! ## Sessions of active users -/

section

variable {τ α : Type} [DecidableEq α] (C : Credentials τ) (B : Backend)

/-- The token names the user of the session, who is active. -/
structure Session.Current (session : Session τ) (users : Users) : Prop where
  active : users.Active session.actor
  named : ∃ payload, C.decode session.token = some payload ∧
    payload.sub = some session.actor

/-- All open sessions are those of active users. -/
def Site.Current (site : Site τ) : Prop :=
  ∀ id session, site.sessions.get id = some session →
    session.Current C site.tables.users

/-- The event disables or deletes a user with an open session. -/
def SiteEvent.Expels (site : Site τ) : SiteEvent τ α → Prop
  | .user now token env request =>
      ∃ actor row id session,
        requireAdmin (userCall C now token env request).sub
          site.tables.users = .ok actor ∧
        row ∈ site.tables.users.rows ∧
        site.sessions.get id = some session ∧
        row.username = session.actor ∧ request.Expels env actor row
  | _ => False

/-- The event changes devices in a session whose token has expired. -/
def SiteEvent.ActsLate (site : Site τ) : SiteEvent τ α → Prop
  | .receive now id env message =>
      ∃ session data, site.sessions.get id = some session ∧
        verifyToken C now session.token = none ∧
        message.bind Json.dict? = some data ∧
        ChangesDevices B env data site.tables.toTables
  | _ => False

/-- If the event changes devices, then on behalf of a user whom the REST
endpoints would let through at this moment with the same token. -/
def SiteEvent.Authorised (site : Site τ) : SiteEvent τ α → Prop
  | .receive now id env message =>
      ∀ session, site.sessions.get id = some session →
        (deviceEvents B session.actor env message
          site.tables.toTables).tables ≠ site.tables.toTables →
        ∃ user, getCurrentUser (verifiedSub C now session.token)
            site.tables.users = .ok user ∧ user.username = session.actor
  | _ => True

variable {C B} {site : Site τ} {e : SiteEvent τ α}

theorem getCurrentUser_of_active {users : Users} {username : String}
    (h : users.Active username) :
    ∃ user, getCurrentUser (some username) users = .ok user ∧
      user.username = username := by
  obtain ⟨user, hmem, rfl, hactive⟩ := h
  refine ⟨user, ?_, rfl⟩
  rw [getCurrentUser, Option.bind_some, Users.byUsername?_of_mem hmem]
  exact if_pos hactive

theorem verifiedSub_of_current {users : Users} {session : Session τ}
    {now : ℤ} (h : session.Current C users)
    (htoken : verifyToken C now session.token ≠ none) :
    verifiedSub C now session.token = some session.actor := by
  obtain ⟨payload, hdecode, hsub⟩ := h.named
  obtain ⟨payload', hverify⟩ := Option.ne_none_iff_exists'.mp htoken
  have hdecode' := ((verifyToken_eq_some_iff C).mp hverify).1
  obtain rfl := Option.some.inj (hdecode.symm.trans hdecode')
  rw [verifiedSub, hverify, Option.bind_some, hsub]

/-- The check that opens a session. -/
theorem current_of_openSession {now : ℤ} {token : Option τ} {users : Users}
    {session : Session τ} (h : openSession C now token users = some session) :
    session.Current C users := by
  cases token with
  | none => cases h
  | some token =>
      rw [openSession] at h
      cases hsub : verifiedSub C now token with
      | none => simp [hsub] at h
      | some username =>
          simp only [hsub, Option.ite_none_left_eq_some] at h
          obtain ⟨-, h⟩ := h
          cases huser : users.byUsername? username with
          | none => simp [huser] at h
          | some user =>
              simp only [huser, Option.ite_none_right_eq_some] at h
              obtain ⟨hactive, h⟩ := h
              obtain rfl := Option.some.inj h
              obtain ⟨hmem, rfl⟩ := Users.mem_of_byUsername? huser
              obtain ⟨payload, hverify, hname⟩ :=
                Option.bind_eq_some_iff.mp hsub
              exact ⟨⟨user, hmem, rfl, hactive⟩, payload,
                ((verifyToken_eq_some_iff C).mp hverify).1, hname⟩

/-- **What one event does**: the open sessions stay those of active users,
unless the event expels one of them. -/
theorem Site.Current.handle (h : site.Current C) (he : ¬e.Expels C site) :
    (e.handle C B site).Current C := by
  cases e with
  | login now username password => exact h
  | user now token env request =>
      intro id session hsession
      obtain ⟨hactive, hnamed⟩ := h id session hsession
      refine ⟨active_handle hactive ?_, hnamed⟩
      intro actor row hactor hrow hname hexpels
      exact he ⟨actor, row, id, session, hactor, hrow, hsession, hname,
        hexpels⟩
  | connect now id token =>
      intro id' session' hsession'
      rw [SiteEvent.handle] at hsession' ⊢
      cases hopen : openSession C now token site.tables.users with
      | none =>
          rw [hopen] at hsession'
          exact h id' session' hsession'
      | some session =>
          simp only [hopen, Dict.get_set] at hsession'
          split at hsession'
          · obtain rfl := Option.some.inj hsession'
            exact current_of_openSession hopen
          · exact h id' session' hsession'
  | receive now id env message =>
      intro id' session' hsession'
      rw [SiteEvent.handle] at hsession' ⊢
      cases hsession : site.sessions.get id with
      | none =>
          rw [hsession] at hsession'
          exact h id' session' hsession'
      | some session =>
          simp only [hsession, Site.receive] at hsession'
          split at hsession'
          · exact h id' session' hsession'
          · rw [Dict.get_erase] at hsession'
            split at hsession'
            · cases hsession'
            · exact h id' session' hsession'
  | disconnect id =>
      intro id' session' hsession'
      change (site.sessions.erase id).get id' = some session' at hsession'
      rw [Dict.get_erase] at hsession'
      split at hsession'
      · cases hsession'
      · exact h id' session' hsession'

/-- In a session of an active user with a valid token, devices are changed
on behalf of that user. -/
theorem Site.Current.authorised (h : site.Current C)
    (he : ¬e.ActsLate C B site) : e.Authorised C B site := by
  cases e with
  | receive now id env message =>
      intro session hsession hchanged
      obtain ⟨data, hdata, hchanges⟩ := deviceEvents_tables_ne_iff.mp hchanged
      have hcurrent := h id session hsession
      have htoken : verifyToken C now session.token ≠ none := by
        intro hnone
        exact he ⟨session, data, hsession, hnone, hdata, hchanges⟩
      rw [verifiedSub_of_current hcurrent htoken]
      exact getCurrentUser_of_active hcurrent.active
  | login | user | connect | disconnect => trivial

/-- **Only active users change devices** in every run in which nobody with an
open session is disabled or deleted, and no session changes devices after its
token has expired. -/
theorem device_changes_authorised (e : ℕ → SiteEvent τ α) (start : Site τ)
    (n : ℕ) (hstart : start.sessions = .empty)
    (hsafe : ∀ k < n, ¬(e k).Expels C (siteAt C B e start k) ∧
      ¬(e k).ActsLate C B (siteAt C B e start k)) :
    ∀ k < n, (e k).Authorised C B (siteAt C B e start k) := by
  have hcurrent : ∀ k ≤ n, (siteAt C B e start k).Current C := by
    intro k hk
    induction k with
    | zero =>
        intro id session hsession
        change start.sessions.get id = some session at hsession
        rw [hstart] at hsession
        cases hsession
    | succ k ih => exact (ih (Nat.le_of_lt hk)).handle (hsafe k hk).1
  intro k hk
  exact (hcurrent k (Nat.le_of_lt hk)).authorised (hsafe k hk).2

end

/-! ## A visit of the clerk -/

/-- Hashes with a visible password, and tokens which show their claims. -/
def Credentials.plain : Credentials Payload where
  verifyPassword password passwordHash := passwordHash == "$5$" ++ password
  encode payload := payload
  decode payload := some payload
  decode_encode _ := rfl

/-- An administrator, a clerk and one device. -/
def exampleSite : Site Payload where
  tables :=
    { oneDevice "D" with
      users :=
        { rows := [⟨1, "admin", "$5$admin123", true, true, 100, 100⟩,
            ⟨2, "clerk", "$5$secret", true, false, 100, 100⟩]
          uniqueId := by simp
          uniqueUsername := by simp } }
  sessions := .empty

def exampleToken (username : String) : Payload := ⟨some username, some 5000⟩

/-- The clerk denies the device. -/
def denial (now : ℤ) : SiteEvent Payload String :=
  .receive now 0 (.quiet quietBroadcast) (some (.ofDict (exampleUpdate "D")))

/-- The administrator disables the clerk. -/
def disabling : SiteEvent Payload String :=
  .user 2000 (some (exampleToken "admin")) ⟨some, 200, 200, 200, false⟩
    (.update 2 ⟨none, none, some (some false)⟩)

/-- The clerk leaves before being disabled. -/
def exampleVisit : ℕ → SiteEvent Payload String
  | 0 => .connect 1000 0 (some (exampleToken "clerk"))
  | 1 => denial 1500
  | 2 => .disconnect 0
  | _ => disabling

/-- The clerk stays after being disabled. -/
def exampleStay : ℕ → SiteEvent Payload String
  | 0 => .connect 1000 0 (some (exampleToken "clerk"))
  | 1 => disabling
  | _ => denial 3000

/-- The clerk stays after the token has expired. -/
def exampleLateStay : ℕ → SiteEvent Payload String
  | 0 => .connect 1000 0 (some (exampleToken "clerk"))
  | _ => denial 6000

theorem device_changes_authorised_visit :
    (exampleVisit 1).Authorised .plain .plain
      (siteAt .plain .plain exampleVisit exampleSite 1) := by
  refine device_changes_authorised exampleVisit exampleSite 4 rfl
    (fun k hk => ?_) 1 (by decide)
  have hopen : (siteAt .plain .plain exampleVisit exampleSite 1).sessions.get 0
      = some ⟨exampleToken "clerk", "clerk"⟩ := by decide +kernel
  have hclosed : (siteAt .plain .plain exampleVisit exampleSite 3).sessions =
      .empty := by decide +kernel
  interval_cases k
  · exact ⟨id, id⟩
  · refine ⟨id, fun ⟨session, data, hsession, hlate, _⟩ => ?_⟩
    obtain rfl := Option.some.inj (hopen.symm.trans hsession)
    revert hlate
    decide
  · exact ⟨id, id⟩
  · refine ⟨fun ⟨actor, row, id, session, _, _, hsession, _⟩ => ?_, id⟩
    rw [hclosed] at hsession
    cases hsession

/-- A session outlives its user and its token. -/
theorem device_changes_unauthorised :
    login .plain 4000 1000 "clerk" "secret" exampleSite.tables.users =
        .token (exampleToken "clerk") "clerk" false ∧
      ¬(exampleStay 2).Authorised .plain .plain
        (siteAt .plain .plain exampleStay exampleSite 2) ∧
      ¬(exampleLateStay 1).Authorised .plain .plain
        (siteAt .plain .plain exampleLateStay exampleSite 1) := by
  refine ⟨by decide +kernel, fun h => ?_, fun h => ?_⟩
  · obtain ⟨user, huser, -⟩ := h ⟨exampleToken "clerk", "clerk"⟩
      (by decide +kernel) (by decide +kernel)
    have hrefused : getCurrentUser
        (verifiedSub .plain 3000 (exampleToken "clerk"))
        (siteAt .plain .plain exampleStay exampleSite 2).tables.users =
        .error (.httpException 400 "用户已被禁用") := by decide +kernel
    rw [hrefused] at huser
    cases huser
  · obtain ⟨user, huser, -⟩ := h ⟨exampleToken "clerk", "clerk"⟩
      (by decide +kernel) (by decide +kernel)
    cases huser

end PyAuth.Server
