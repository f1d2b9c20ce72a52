import PyAuth.Server.Users
import PyAuth.Support.Run

/-!
# Who is left to administrate

An administrator cannot delete their own row, but may take their own rights
away.  That is the only way in which the last active administrator is lost.
-/

namespace PyAuth.Server

open Support

/-- Some user is active and an administrator. -/
def Users.HasActiveAdmin (users : Users) : Prop :=
  ∃ user ∈ users.rows, user.IsActiveAdmin

instance (users : Users) : Decidable users.HasActiveAdmin :=
  inferInstanceAs (Decidable (∃ user ∈ users.rows, user.IsActiveAdmin))

/-- Administrators take their own rights away in a committed update while
nobody else is an active administrator. -/
def UserCall.LocksOut (call : UserCall) (t : AdminTables) : Prop :=
  ∃ actor body, requireAdmin call.sub t.users = .ok actor ∧
    call.request = .update actor.id body ∧
    (body.isAdmin = some (some false) ∨ body.isActive = some (some false)) ∧
    body.Committed call.env actor ∧
    ∀ user ∈ t.users.rows, user.IsActiveAdmin → user = actor

/-! ## One request -/

section

variable {t : AdminTables} {users : Users} {actor : User} {env : UserEnv}
  {body : UserUpdate} {columns : String × Bool × Bool} {userId : ℤ}

/-- An update of an administrator takes the rights away exactly when it says
so. -/
theorem isActiveAdmin_revise_iff (hactor : actor.IsActiveAdmin)
    (h : body.columns env actor = some columns) {updatedAt : ℚ} :
    (actor.revise columns updatedAt).IsActiveAdmin ↔
      ¬(body.isAdmin = some (some false) ∨
        body.isActive = some (some false)) := by
  obtain ⟨hadmin, hactive⟩ := columns_eq_some h
  rw [hactor.2] at hadmin
  rw [hactor.1] at hactive
  rw [← getD_eq_some_true_iff hadmin, ← getD_eq_some_true_iff hactive, not_or,
    Bool.not_eq_false, Bool.not_eq_false, and_comm]
  rfl

theorem hasActiveAdmin_update_iff {f : User → User}
    {hid : ∀ u, (f u).id = u.id} {hname : ∀ u, (f u).username = u.username} :
    (users.update userId f hid hname).HasActiveAdmin ↔
      ∃ user ∈ users.rows,
        (if user.id = userId then f user else user).IsActiveAdmin := by
  simp [Users.HasActiveAdmin, Users.update]

/-- After an update of an administrator there is one left, exactly if it keeps
the rights or somebody else has them. -/
theorem exists_isActiveAdmin_revise_iff (hmem : actor ∈ users.rows)
    (hactor : actor.IsActiveAdmin)
    (hcolumns : body.columns env actor = some columns) {updatedAt : ℚ} :
    (∃ user ∈ users.rows,
        (if user.id = actor.id then user.revise columns updatedAt
          else user).IsActiveAdmin) ↔
      ((body.isAdmin = some (some false) ∨ body.isActive = some (some false)) →
        ¬∀ user ∈ users.rows, user.IsActiveAdmin → user = actor) := by
  constructor
  · rintro ⟨user, huser, hadmin⟩ hstripped honly
    by_cases hid : user.id = actor.id
    · obtain rfl := Users.eq_of_id huser hmem hid
      rw [if_pos rfl] at hadmin
      exact (isActiveAdmin_revise_iff hactor hcolumns).mp hadmin hstripped
    · rw [if_neg hid] at hadmin
      exact hid (congrArg User.id (honly user huser hadmin))
  · intro h
    by_cases hstripped : body.isAdmin = some (some false) ∨
        body.isActive = some (some false)
    · have hother := h hstripped
      simp only [not_forall] at hother
      obtain ⟨user, huser, hadmin, hne⟩ := hother
      refine ⟨user, huser, ?_⟩
      rwa [if_neg fun hid => hne (Users.eq_of_id huser hmem hid)]
    · refine ⟨actor, hmem, ?_⟩
      rw [if_pos rfl]
      exact (isActiveAdmin_revise_iff hactor hcolumns).mpr hstripped

/-- A new user takes nobody's rights away. -/
theorem hasActiveAdmin_createUser {body : UserCreate}
    (h : t.users.HasActiveAdmin) :
    (createUser actor env body t).1.users.HasActiveAdmin := by
  rcases createUser_cases actor env body t with ⟨row, hrows⟩ | hkept
  · obtain ⟨user, hmem, huser⟩ := h
    exact ⟨user, hrows ▸ List.mem_append_left _ hmem, huser⟩
  · rwa [hkept]

/-- Who deletes a user stays. -/
theorem hasActiveAdmin_deleteUser (hmem : actor ∈ t.users.rows)
    (hactor : actor.IsActiveAdmin) :
    (deleteUser actor env userId t).1.users.HasActiveAdmin := by
  refine ⟨actor, ?_, hactor⟩
  rcases deleteUser_cases actor env userId t with ⟨hself, -, -, husers⟩ | hkept
  · rw [husers]
    exact List.mem_filter.mpr ⟨hmem, by simpa using hself⟩
  · rwa [hkept]

theorem hasActiveAdmin_updateUser_iff (hmem : actor ∈ t.users.rows)
    (hactor : actor.IsActiveAdmin) :
    (updateUser actor env userId body t).1.users.HasActiveAdmin ↔
      ¬(userId = actor.id ∧
        (body.isAdmin = some (some false) ∨
          body.isActive = some (some false)) ∧
        body.Committed env actor ∧
        ∀ user ∈ t.users.rows, user.IsActiveAdmin → user = actor) := by
  obtain ⟨row, columns, hrow, hcolumns, hcommitted, heq⟩ | ⟨hfails, hkept, -⟩ :=
    updateUser_cases actor env userId body t
  · obtain ⟨hrowmem, hrowid⟩ := Users.mem_of_byId? hrow
    rw [heq, AdminTables.reviseUser, Users.revise, hasActiveAdmin_update_iff]
    by_cases hid : userId = actor.id
    · subst hid
      obtain rfl := Users.eq_of_id hrowmem hmem hrowid
      rw [exists_isActiveAdmin_revise_iff hmem hactor hcolumns]
      simp [hcommitted]
    · refine iff_of_true ⟨actor, hmem, ?_⟩ fun h => hid h.1
      rwa [if_neg (Ne.symm hid)]
  · rw [hkept]
    refine iff_of_true ⟨actor, hmem, hactor⟩ fun ⟨hid, _, hcommitted, _⟩ => ?_
    exact hfails actor (hid ▸ Users.byId?_of_mem hmem) hcommitted

/-- **What one request does**: somebody is left to administrate unless the
request locks out. -/
theorem hasActiveAdmin_handle_iff {call : UserCall}
    (h : t.users.HasActiveAdmin) :
    (call.handle t).1.users.HasActiveAdmin ↔ ¬call.LocksOut t := by
  rw [UserCall.handle]
  cases hactor : requireAdmin call.sub t.users with
  | error reply =>
      refine iff_of_true h fun ⟨actor, _, hok, _⟩ => ?_
      rw [hactor] at hok
      cases hok
  | ok actor =>
      obtain ⟨hmem, hadmin⟩ := requireAdmin_eq_ok hactor
      have hlocks : call.LocksOut t ↔ ∃ body,
          call.request = .update actor.id body ∧
          (body.isAdmin = some (some false) ∨
            body.isActive = some (some false)) ∧
          body.Committed call.env actor ∧
          ∀ user ∈ t.users.rows, user.IsActiveAdmin → user = actor := by
        simp only [UserCall.LocksOut, hactor, Except.ok.injEq,
          exists_and_left, exists_eq_left']
      rw [hlocks]
      cases hrequest : call.request with
      | create body =>
          exact iff_of_true (hasActiveAdmin_createUser h) (by simp)
      | update userId body =>
          refine (hasActiveAdmin_updateUser_iff hmem hadmin).trans ?_
          simp
      | delete userId =>
          exact iff_of_true (hasActiveAdmin_deleteUser hmem hadmin) (by simp)

end

/-! ## Runs -/

/-- The tables after the first `k` requests about users. -/
def adminTablesAt (calls : ℕ → UserCall) (t : AdminTables) : ℕ → AdminTables :=
  statesAt (fun t call => (call.handle t).1) calls t

/-- **When somebody is left to administrate.**  Starting with an active
administrator, there is one after each of the first `n` requests exactly if
none of them locks out. -/
theorem back_office_open_iff (calls : ℕ → UserCall) (start : AdminTables)
    (n : ℕ) (hstart : start.users.HasActiveAdmin) :
    (∀ k ≤ n, (adminTablesAt calls start k).users.HasActiveAdmin) ↔
      ∀ k < n, ¬(calls k).LocksOut (adminTablesAt calls start k) := by
  constructor
  · intro h k hk
    exact (hasActiveAdmin_handle_iff (h k (Nat.le_of_lt hk))).mp (h (k + 1) hk)
  · intro h k hk
    induction k with
    | zero => exact hstart
    | succ k ih =>
        exact (hasActiveAdmin_handle_iff (ih (Nat.le_of_lt hk))).mpr (h k hk)

/-! ## The first administrator -/

/-- A request of the first administrator that meets no difficulty. -/
def adminCall (request : UserRequest) : UserCall :=
  ⟨some "admin", ⟨fun password => some ("$5$" ++ password), 200, 200, 200,
    false⟩, request⟩

/-- The first administrator appoints a second one and resigns. -/
def handover : ℕ → UserCall
  | 0 => adminCall (.create ⟨"second", "secret", some true, none⟩)
  | _ => adminCall (.update 1 ⟨none, some (some false), some (some true)⟩)

theorem back_office_open_iff_handover :
    (∀ k ≤ 2, (adminTablesAt handover firstAdmin k).users.HasActiveAdmin) ↔
      ∀ k < 2, ¬(handover k).LocksOut (adminTablesAt handover firstAdmin k) :=
  back_office_open_iff handover firstAdmin 2 (by decide)

/-- The only administrator cannot delete their own row, but can disable it. -/
theorem back_office_locked :
    firstAdmin.users.HasActiveAdmin ∧
      ((adminCall (.delete 1)).handle firstAdmin).2 =
        .httpException 400 "不能删除自己" ∧
      (requireAdmin (some "admin") firstAdmin.users).isOk = true ∧
      ¬((adminCall (.update 1 ⟨none, none, some (some false)⟩)).handle
        firstAdmin).1.users.HasActiveAdmin := by
  decide +kernel

end PyAuth.Server
