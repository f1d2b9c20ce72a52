import PyAuth.Client.Frame

/-!
# What a failing disk does to the other rows

`_write_check_cache_retries` saves up to three times, and each save reads the
bundle anew.  A read which fails looks like an absent bundle, and a write
which tears leaves a bundle that cannot be read, so the rows of the other
products are lost for good.  They survive exactly when the first save which
touches the file has read it and completes one of its writes.
-/

namespace PyAuth.Client

open Support

/-! ## One save -/

/-- One of the two writes is completed. -/
def BundleEnv.Completes (io : BundleEnv) : Prop :=
  io.first = .done ∨ io.second = .done

/-- The file does not stay as it is. -/
def BundleEnv.Touches (io : BundleEnv) : Prop :=
  io.first ≠ .refused ∨ io.unlink = true ∨ io.second ≠ .refused

instance (io : BundleEnv) : Decidable io.Completes :=
  inferInstanceAs (Decidable (_ ∨ _))

instance (io : BundleEnv) : Decidable io.Touches :=
  inferInstanceAs (Decidable (_ ∨ _ ∨ _))

/-- Of all saves which touch the file the first one has read it and completes
a write. -/
def SparesOthers (ios : List SaveEnv) : Prop :=
  ∀ io, ios.find? (fun io => decide io.write.Touches) = some io →
    io.read.read = true ∧ io.write.Completes

section

variable {β : Type} {P : Primitives β} {c : AuthCache} {t : String}

@[simp] theorem stateRoot_put_none (serverUrl : String) (st : Storage β) :
    stateRoot P serverUrl (st.put (bundlePath P serverUrl) none) = none := by
  rw [stateRoot_eq, Storage.files_put]
  rfl

/-- The result of `_write_bundle_with_retry`, and what can be read after
it. -/
theorem writeBundle_spec (data : Root) (io : BundleEnv) (st : Storage β) :
    (c.writeBundleWithRetry P data io st).2 = decide io.Completes ∧
      stateRoot P c.serverUrl (c.writeBundleWithRetry P data io st).1 =
        if io.Completes then some (data.erase "device_id")
        else if io.Touches then none
        else stateRoot P c.serverUrl st := by
  obtain ⟨first, unlink, second⟩ := io
  rw [AuthCache.writeBundleWithRetry]
  cases first with
  | done => simp [BundleEnv.Completes]
  | refused =>
      cases second <;> cases unlink <;>
        simp [BundleEnv.Completes, BundleEnv.Touches]
  | torn kept =>
      cases second <;> cases unlink <;>
        simp [BundleEnv.Completes, BundleEnv.Touches]

/-- What can be read after `clear_cache`, and what it returns. -/
def AuthCache.clearOutcome (c : AuthCache) (io : ClearEnv)
    (root : Option Root) : Option Root × Bool :=
  match if io.read.read then root else none with
  | none => (root, true)
  | some d =>
      if d.isEmpty then (root, true)
      else if AuthCache.anyAppDevice (c.clearApps d) then
        (if io.write.Completes then some ((c.clearRoot d).erase "device_id")
          else if io.write.Touches then none
          else root, decide io.write.Completes)
      else if io.unlink then (none, true)
      else (root, false)

theorem clearCache_spec (c : AuthCache) (io : ClearEnv) (st : Storage β) :
    stateRoot P c.serverUrl (c.clearCache P io st).1 =
        (c.clearOutcome io (stateRoot P c.serverUrl st)).1 ∧
      (c.clearCache P io st).2 =
        (c.clearOutcome io (stateRoot P c.serverUrl st)).2 := by
  have hread : stateRoot P c.serverUrl
      (readStateDict P c.serverUrl io.read st).1 =
        stateRoot P c.serverUrl st := stateRoot_readStateDict _ _
  simp only [AuthCache.clearCache, AuthCache.clearOutcome, readStateDict_snd]
  cases (if io.read.read then stateRoot P c.serverUrl st else none) with
  | none => exact ⟨hread, rfl⟩
  | some d =>
      dsimp only
      cases d.isEmpty with
      | true => exact ⟨hread, rfl⟩
      | false =>
          simp only [Bool.false_eq_true, if_false]
          cases AuthCache.anyAppDevice (c.clearApps d) with
          | true =>
              obtain ⟨hflag, hroot⟩ := writeBundle_spec (P := P) (c := c)
                (c.clearRoot d) io.write
                (readStateDict P c.serverUrl io.read st).1
              rw [hread] at hroot
              exact ⟨hroot, hflag⟩
          | false =>
              cases io.unlink with
              | true => exact ⟨stateRoot_put_none _ _, rfl⟩
              | false => exact ⟨hread, rfl⟩

variable (authorized : Bool) (hb snap : Json)

/-- One `save_cache`: it succeeds when a write completes, and then the rows of
the others are those that were read; otherwise they stay only when the file
was not touched. -/
theorem saveCache_spec (io : SaveEnv) (st : Storage β)
    (ht : t ∉ reservedRootKeys)
    (hne : Python.strip c.softwareName ≠ Python.strip t) :
    (c.saveCache P authorized .null hb snap io st).2 =
        decide io.write.Completes ∧
      rowIn t (stateRoot P c.serverUrl
          (c.saveCache P authorized .null hb snap io st).1) =
        if io.write.Completes then
          if io.read.read then rowIn t (stateRoot P c.serverUrl st) else none
        else if io.write.Touches then none
        else rowIn t (stateRoot P c.serverUrl st) := by
  simp only [AuthCache.saveCache, readStateDict_snd]
  obtain ⟨hok, hroot⟩ := writeBundle_spec (P := P) (c := c)
    (c.saveRoot authorized (.float (.fin io.now)) hb snap
      ((if io.read.read = true then stateRoot P c.serverUrl st
        else none).getD .empty))
    io.write (readStateDict P c.serverUrl io.read st).1
  refine ⟨hok, ?_⟩
  simp only [if_true, hroot, stateRoot_readStateDict]
  split
  · rw [rowIn_erase_device_id, AuthCache.saveRoot,
      rowIn_updateRow_eraseAll _ (by decide) ht hne, rowIn_getD_empty]
    split <;> rfl
  · split <;> rfl

/-! ## All attempts -/

/-- A row that was lost does not come back. -/
theorem row_lost_saveAttempts {ios : List SaveEnv} {st : Storage β}
    (ht : t ∉ reservedRootKeys)
    (hne : Python.strip c.softwareName ≠ Python.strip t)
    (hlost : rowIn t (stateRoot P c.serverUrl st) = none) :
    rowIn t (stateRoot P c.serverUrl
      (saveAttempts P c authorized hb snap ios st).1) = none := by
  induction ios generalizing st with
  | nil => exact hlost
  | cons io ios ih =>
      have hlost' : rowIn t (stateRoot P c.serverUrl
          (c.saveCache P authorized .null hb snap io st).1) = none := by
        rw [(saveCache_spec authorized hb snap io st ht hne).2, hlost]
        repeat' split
        all_goals rfl
      rw [saveAttempts]
      dsimp only
      split
      · exact hlost'
      · exact ih hlost'

/-- The rows of the others after all attempts: kept when the attempts spare
them, else lost. -/
theorem row_saveAttempts {ios : List SaveEnv} {st : Storage β}
    (ht : t ∉ reservedRootKeys)
    (hne : Python.strip c.softwareName ≠ Python.strip t) :
    (SparesOthers ios → rowIn t (stateRoot P c.serverUrl
        (saveAttempts P c authorized hb snap ios st).1) =
      rowIn t (stateRoot P c.serverUrl st)) ∧
    (¬ SparesOthers ios → rowIn t (stateRoot P c.serverUrl
        (saveAttempts P c authorized hb snap ios st).1) = none) := by
  induction ios generalizing st with
  | nil =>
      refine ⟨fun _ => rfl, fun h => (h ?_).elim⟩
      intro io hio
      simp at hio
  | cons io ios ih =>
      obtain ⟨hok, hrow⟩ := saveCache_spec (P := P) authorized hb snap io st
        ht hne
      by_cases htouch : io.write.Touches
      · have hspares : SparesOthers (io :: ios) ↔
            io.read.read = true ∧ io.write.Completes := by
          simp [SparesOthers, htouch]
        rw [hspares]
        rw [saveAttempts]
        by_cases hcomplete : io.write.Completes
        · simp only [hok, hcomplete, decide_true, if_true, and_true, hrow]
          exact ⟨fun hread => by rw [if_pos hread],
            fun hread => by rw [if_neg hread]⟩
        · have hlost : rowIn t (stateRoot P c.serverUrl
              (c.saveCache P authorized .null hb snap io st).1) = none := by
            rw [hrow, if_neg hcomplete, if_pos htouch]
          simp only [hok, hcomplete, decide_false, Bool.false_eq_true, if_false,
            and_false, not_false_eq_true, false_implies, true_implies,
            true_and]
          exact row_lost_saveAttempts authorized hb snap ht hne hlost
      · have hspares : SparesOthers (io :: ios) ↔ SparesOthers ios := by
          simp [SparesOthers, htouch]
        have hcomplete : ¬ io.write.Completes := by
          rintro (h | h)
          · exact htouch (Or.inl (by simp [h]))
          · exact htouch (Or.inr (Or.inr (by simp [h])))
        rw [hspares, saveAttempts]
        simp only [hok, hcomplete, decide_false, Bool.false_eq_true, if_false]
        rw [if_neg hcomplete, if_neg htouch] at hrow
        rw [← hrow]
        exact ih

/-- **When a failing disk spares the other products.**  In a bundle which
holds the row of another product, one `_write_check_cache_retries` leaves the
rows of all other products readable and unchanged if and only if the first
attempt which touches the file has read it and completes a write. -/
theorem rows_kept_iff_sparesOthers (cl : AuthClient) (authorized : Bool)
    (times : ℤ) (ios : Attempts) (st : Storage β)
    (hother : ∃ t row, t ∉ reservedRootKeys ∧
      Python.strip cl.cache.softwareName ≠ Python.strip t ∧
      rowIn t (stateRoot P cl.cache.serverUrl st) = some row) :
    (∀ t, t ∉ reservedRootKeys →
        Python.strip cl.cache.softwareName ≠ Python.strip t →
        rowIn t (stateRoot P cl.cache.serverUrl
            (cl.writeCheckCacheRetries P authorized times ios st).1) =
          rowIn t (stateRoot P cl.cache.serverUrl st)) ↔
      SparesOthers ios.1 := by
  constructor
  · intro hkept
    by_contra hspares
    obtain ⟨t, row, ht, hne, hrow⟩ := hother
    have hlost : rowIn t (stateRoot P cl.cache.serverUrl
        (cl.writeCheckCacheRetries P authorized times ios st).1) = none :=
      (row_saveAttempts authorized _ _ ht hne).2 hspares
    have hkept' := hkept t ht hne
    rw [hlost, hrow] at hkept'
    contradiction
  · intro hspares t ht hne
    exact (row_saveAttempts authorized _ _ ht hne).1 hspares

end

/-- The environment of one attempt. -/
def exampleAttempt (read : Bool) (write : WriteOutcome) : SaveEnv :=
  ⟨300, ⟨read, true⟩, ⟨write, false, write⟩⟩

theorem rows_kept_iff_sparesOthers_after_refused_attempt :
    let cl := exampleClient "D"
    let st := Storage.holding "https://auth.example" exampleRoot
    let ios : Attempts := ⟨[exampleAttempt true .refused,
      exampleAttempt true .done, exampleAttempt true .done], rfl⟩
    (∀ t, t ∉ reservedRootKeys → Python.strip "editor" ≠ Python.strip t →
        rowIn t (stateRoot .symbolic "https://auth.example"
            (cl.writeCheckCacheRetries .symbolic true 2 ios st).1) =
          rowIn t (stateRoot .symbolic "https://auth.example" st)) ↔
      SparesOthers ios.1 :=
  rows_kept_iff_sparesOthers (exampleClient "D") true 2
    ⟨[exampleAttempt true .refused, exampleAttempt true .done,
      exampleAttempt true .done], rfl⟩
    (Storage.holding "https://auth.example" exampleRoot)
    ⟨"player", exampleRow "E" 200, by decide, by decide, by decide +kernel⟩

/-- A read which fails once, or a write which tears once, costs the other
product its row, although the call reports that the answer was saved. -/
theorem row_of_other_product_lost :
    let cl := exampleClient "D"
    let st := Storage.holding "https://auth.example" exampleRoot
    let failedRead : Attempts := ⟨[exampleAttempt false .done,
      exampleAttempt true .done, exampleAttempt true .done], rfl⟩
    let tornWrite : Attempts := ⟨[exampleAttempt true (.torn 20),
      exampleAttempt true .done, exampleAttempt true .done], rfl⟩
    rowIn "player" (stateRoot .symbolic "https://auth.example" st) =
        some (exampleRow "E" 200) ∧
      ∀ ios ∈ [failedRead, tornWrite],
        (cl.writeCheckCacheRetries .symbolic true 2 ios st).2 = some 300 ∧
          rowIn "player" (stateRoot .symbolic "https://auth.example"
            (cl.writeCheckCacheRetries .symbolic true 2 ios st).1) = none := by
  decide +kernel

end PyAuth.Client
