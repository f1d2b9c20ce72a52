import PyAuth.Server.Users

/-!
# What the log of a user update says

The log of `update_user` lists the fields which the body names.  A password is
hashed only when it is neither `null` nor blank, so such a password is listed
without being assigned.
-/

namespace PyAuth.Server

open Support

variable {actor : User} {env : UserEnv} {userId : ℤ} {body : UserUpdate}
  {t : AdminTables}

/-! ## What the log says -/

/-- The log lists these fields, and exactly they were assigned. -/
structure UserUpdate.Recorded (body : UserUpdate) (env : UserEnv) (userId : ℤ)
    (t t' : AdminTables) (row row' : User) (fields : List String) : Prop where
  log : ∃ log : OperationLog, t'.operationLogs = t.operationLogs ++ [log] ∧
    log.action = "update_user" ∧ log.targetId = some row.username ∧
    log.detail = .ofDict (.ofList
      [("updated_fields", .arr (fields.map .str)), ("user_id", .int userId)])
  rows : t'.users.rows = t.users.rows.map fun u =>
    if u.id = userId then row' else u
  frame : row'.id = row.id ∧ row'.username = row.username ∧
    row'.createdAt = row.createdAt
  listed : ∀ field ∈ fields, field ∈ ["password", "is_admin", "is_active"]
  password :
    if "password" ∈ fields then ∃ password,
      body.password = some (some password) ∧
        env.hash password = some row'.passwordHash
    else row'.passwordHash = row.passwordHash
  isAdmin :
    if "is_admin" ∈ fields then body.isAdmin = some (some row'.isAdmin)
    else row'.isAdmin = row.isAdmin
  isActive :
    if "is_active" ∈ fields then body.isActive = some (some row'.isActive)
    else row'.isActive = row.isActive

/-- A committed update is recorded, and a failed one changes nothing. -/
def UserUpdate.DoesWhatItSays (body : UserUpdate) (actor : User) (userId : ℤ)
    (t : AdminTables) : Prop :=
  ∀ env, match updateUser actor env userId body t with
    | (t', .user row') => ∃ row fields, t.users.byId? userId = some row ∧
        body.Recorded env userId t t' row row' fields
    | (t', _) => t'.users = t.users ∧ t'.operationLogs = t.operationLogs

/-- The password is `null` or blank. -/
def UserUpdate.BlankPassword (body : UserUpdate) : Prop :=
  body.password = some none ∨ body.password = some (some "")

/-- The columns can be stored, whatever the hash. -/
def UserUpdate.FlagsStorable (body : UserUpdate) : Prop :=
  body.isAdmin ≠ some none ∧ body.isActive ≠ some none

theorem mem_updatedFields {field : String} :
    field ∈ body.updatedFields ↔
      field = "password" ∧ body.password.isSome ∨
        field = "is_admin" ∧ body.isAdmin.isSome ∨
        field = "is_active" ∧ body.isActive.isSome := by
  have hite (c : Bool) (name : String) :
      (field ∈ if c then [name] else []) ↔ field = name ∧ c := by
    cases c <;> simp
  rw [UserUpdate.updatedFields, List.mem_append, List.mem_append, hite, hite,
    hite, or_assoc]

section

variable {row : User} {columns : String × Bool × Bool}

/-- The stored hash is that of a password which is not blank. -/
theorem columns_password (h : body.columns env row = some columns)
    (hblank : ¬body.BlankPassword) :
    if body.password.isSome then ∃ password,
      body.password = some (some password) ∧ env.hash password = some columns.1
    else columns.1 = row.passwordHash := by
  rw [UserUpdate.columns] at h
  split at h
  next hash isAdmin isActive hhash _ _ =>
    obtain rfl := Option.some.inj h
    cases hpassword : body.password with
    | none =>
        rw [hpassword] at hhash
        simpa using hhash.symm
    | some value =>
        rw [if_pos (by rfl)]
        cases value with
        | none => exact absurd (.inl hpassword) hblank
        | some password =>
            have hne : password ≠ "" := by
              rintro rfl
              exact hblank (.inr hpassword)
            rw [hpassword] at hhash
            simp only [if_neg hne] at hhash
            exact ⟨password, rfl, hhash⟩
  next => cases h

/-- A flag is stored as it is named, or kept. -/
theorem stored_flag {field : Option (Option Bool)} {old new : Bool}
    (h : field.getD (some old) = some new) :
    if field.isSome then field = some (some new) else new = old := by
  cases field with
  | none => simpa using h.symm
  | some value => simpa using h

theorem recorded_reviseUser (hrow : t.users.byId? userId = some row)
    (hcolumns : body.columns env row = some columns)
    (hblank : ¬body.BlankPassword) :
    body.Recorded env userId t (t.reviseUser actor env userId body row columns)
      row (row.revise columns env.updatedAt) body.updatedFields where
  log := ⟨_, rfl, rfl, rfl, rfl⟩
  rows := by
    apply List.map_congr_left
    intro user huser
    by_cases hid : user.id = userId
    · have hmem := Users.mem_of_byId? hrow
      rw [if_pos hid, if_pos hid,
        Users.eq_of_id huser hmem.1 (hid.trans hmem.2.symm)]
    · rw [if_neg hid, if_neg hid]
  frame := ⟨rfl, rfl, rfl⟩
  listed := by
    intro field hfield
    rcases mem_updatedFields.mp hfield with h | h | h <;> simp [h.1]
  password := by
    simpa [mem_updatedFields, User.revise] using
      columns_password hcolumns hblank
  isAdmin := by
    simpa [mem_updatedFields, User.revise] using
      stored_flag (columns_eq_some hcolumns).1
  isActive := by
    simpa [mem_updatedFields, User.revise] using
      stored_flag (columns_eq_some hcolumns).2

/-- The fields which a recorded update lists are those of the body. -/
theorem UserUpdate.Recorded.fields_eq {fields : List String} {row' : User}
    (h : body.Recorded env userId t
      (t.reviseUser actor env userId body row columns) row row' fields) :
    fields = body.updatedFields := by
  obtain ⟨log, hlogs, -, -, hdetail⟩ := h.log
  have hlog := List.append_cancel_left hlogs
  rw [List.cons.injEq] at hlog
  obtain ⟨rfl, -⟩ := hlog
  have hget (fields : List String) : (Dict.ofList
      [("updated_fields", Json.arr (fields.map .str)),
        ("user_id", .int userId)]).get "updated_fields" =
          some (.arr (fields.map .str)) := by
    rw [Dict.get_ofList]
    rfl
  have hdict := Dict.ext (Json.obj.inj hdetail)
  have hlisted := hget body.updatedFields
  rw [hdict, hget, Option.some.injEq, Json.arr.injEq] at hlisted
  exact List.map_injective_iff.mpr (fun _ _ h => Json.str.inj h) hlisted

theorem exists_columns (env : UserEnv) (row : User)
    (hblank : body.BlankPassword) (hflags : body.FlagsStorable) :
    ∃ columns, body.columns env row = some columns := by
  have hflag {field : Option (Option Bool)} (old : Bool)
      (h : field ≠ some none) : ∃ new, field.getD (some old) = some new := by
    rcases field with _ | _ | new
    · exact ⟨old, rfl⟩
    · exact absurd rfl h
    · exact ⟨new, rfl⟩
  obtain ⟨isAdmin, hadmin⟩ := hflag row.isAdmin hflags.1
  obtain ⟨isActive, hactive⟩ := hflag row.isActive hflags.2
  refine ⟨(row.passwordHash, isAdmin, isActive), ?_⟩
  rw [UserUpdate.columns, hadmin, hactive]
  rcases hblank with h | h <;> simp [h]

theorem flagsStorable_of_columns (h : body.columns env row = some columns) :
    body.FlagsStorable := by
  obtain ⟨hadmin, hactive⟩ := columns_eq_some h
  constructor
  · intro hnull
    simp [hnull] at hadmin
  · intro hnull
    simp [hnull] at hactive

theorem updateUser_eq_of_columns (hfits : FitsSqlite userId)
    (hrow : t.users.byId? userId = some row)
    (hcolumns : body.columns env row = some columns)
    (hcommits : env.commitFails = false) :
    updateUser actor env userId body t =
      (t.reviseUser actor env userId body row columns,
        .user (row.revise columns env.updatedAt)) := by
  simp only [updateUser, hfits, not_true, if_false, hrow, hcolumns, hcommits,
    Bool.false_eq_true]
  rfl

end

/-- **When an update does what its log says.**  It does if and only if the
password of the body is not blank, unless the update cannot be committed. -/
theorem doesWhatItSays_iff (body : UserUpdate) (actor : User) (userId : ℤ)
    (t : AdminTables) :
    body.DoesWhatItSays actor userId t ↔
      (body.BlankPassword → ¬((t.users.byId? userId).isSome ∧
        FitsSqlite userId ∧ body.FlagsStorable)) := by
  constructor
  · rintro hsays hblank ⟨hexists, hfits, hflags⟩
    obtain ⟨row, hrow⟩ := Option.isSome_iff_exists.mp hexists
    -- A commit in which nothing could be hashed.
    let env : UserEnv := ⟨fun _ => none, 0, 0, 0, false⟩
    obtain ⟨columns, hcolumns⟩ := exists_columns env row hblank hflags
    have hsays := hsays env
    rw [updateUser_eq_of_columns hfits hrow hcolumns rfl] at hsays
    obtain ⟨row₁, fields, hrow₁, hrecorded⟩ := hsays
    obtain rfl : row = row₁ := Option.some.inj (hrow.symm.trans hrow₁)
    have hlisted : "password" ∈ fields := by
      rw [hrecorded.fields_eq, mem_updatedFields]
      rcases hblank with h | h <;> simp [h]
    have hpassword := hrecorded.password
    rw [if_pos hlisted] at hpassword
    obtain ⟨password, -, hhash⟩ := hpassword
    cases hhash
  · intro hcond env
    obtain ⟨row, columns, hrow, hcolumns, hcommitted, heq⟩ |
        ⟨-, hkept, hreply⟩ := updateUser_cases actor env userId body t
    · rw [heq]
      refine ⟨row, body.updatedFields, hrow, recorded_reviseUser hrow hcolumns ?_⟩
      intro hblank
      have hfits := (Users.mem_of_byId? hrow).2 ▸ hcommitted.fits
      exact hcond hblank ⟨by rw [hrow]; rfl, hfits,
        flagsStorable_of_columns hcolumns⟩
    · split
      next t' row' heq =>
        rw [heq] at hreply
        exact absurd rfl (hreply row')
      next t' reply _ heq =>
        rw [heq] at hkept
        obtain rfl : t' = t := hkept
        exact ⟨rfl, rfl⟩

/-- The password `null` is listed and nothing is assigned. -/
theorem null_password_listed :
    let admin : User := ⟨1, "admin", "$5$admin123", true, true, 100, 100⟩
    let update := updateUser admin ⟨fun s => some ("$5$" ++ s), 0, 9, 9, false⟩ 1
      ⟨some none, none, none⟩ firstAdmin
    update.2 = .user admin ∧ update.1.users = firstAdmin.users ∧
      update.1.operationLogs.map (·.detail) = [.ofDict (.ofList
        [("updated_fields", .arr [.str "password"]), ("user_id", .int 1)])] := by
  decide +kernel

end PyAuth.Server
