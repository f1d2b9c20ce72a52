import PyAuth.Client.Counter
import PyAuth.Client.Returns
import PyAuth.Sdk.Clearing

/-!
# What remains of a light authorisation

The progressive check carries the answer to its light heartbeat through the
state file: when the full heartbeat fails it reads the entry it has just saved.
When the disk refuses the entry the answer is lost, unless an older entry
serves in its place.
-/

/-! ## Python -/

namespace PyAuth.Client

open Support

variable {β : Type} {P : Primitives β} {c : AuthCache} {st : Storage β}

theorem BundleEnv.Completes.touches {io : BundleEnv} (h : io.Completes) :
    io.Touches := by
  rcases h with h | h
  · exact Or.inl (by simp [h])
  · exact Or.inr (Or.inr (by simp [h]))

namespace AuthCache

theorem currentTs_congr_root {st' : Storage β}
    (h : stateRoot P c.serverUrl st' = stateRoot P c.serverUrl st) :
    c.currentTs P st' = c.currentTs P st := by
  rw [currentTs, currentTs, currentRow, currentRow, h]

/-- The timestamp after one save of an authorised answer. -/
theorem currentTs_saveCache (hb snap : Json) (io : SaveEnv)
    (st : Storage β) :
    c.currentTs P (c.saveCache P true .null hb snap io st).1 =
      if io.write.Completes then
        if IsProductKey c.softwareName ∧ 0 < io.now then some (.fin io.now)
        else none
      else if io.write.Touches then none
      else c.currentTs P st := by
  simp only [saveCache, readStateDict_snd, if_true]
  generalize (if io.read.read = true then stateRoot P c.serverUrl st
    else none) = root
  have hroot := (writeBundle_spec (P := P) (c := c)
    (c.saveRoot true (.float (.fin io.now)) hb snap (root.getD .empty))
    io.write (readStateDict P c.serverUrl io.read st).1).2
  rw [currentTs, currentRow, hroot]
  split
  · have hrow := rowOf_updateRow (c := c) root
      (f := c.savedRow true (.float (.fin io.now)) hb snap)
      bundleRootStrayKeys (by decide)
      (get_savedRow_software_name (by
        rw [← ownRow_getD]
        exact ownRow_get_software_name _ _))
      isEmpty_savedRow
    rw [saveRoot, hrow]
    by_cases hs : IsProductKey c.softwareName
    · simp [hs, rowLastSuccessTs_savedRow]
    · simp [hs]
  · split
    · rfl
    · rw [stateRoot_readStateDict]
      rfl

theorem saveCache_snd (hb snap : Json) (io : SaveEnv) :
    (c.saveCache P true .null hb snap io st).2 = decide io.write.Completes := by
  simp only [saveCache, if_true]
  exact (writeBundle_spec _ _ _).1

/-- The timestamp after several attempts: that of the first one which
completes a write. -/
theorem currentTs_saveAttempts (hb snap : Json) (ios : List SaveEnv) :
    c.currentTs P (saveAttempts P c true hb snap ios st).1 =
      match ios.find? (fun io => decide io.write.Completes) with
      | some io =>
          if IsProductKey c.softwareName ∧ 0 < io.now then some (.fin io.now)
          else none
      | none =>
          if ∃ io ∈ ios, io.write.Touches then none
          else c.currentTs P st := by
  induction ios generalizing st with
  | nil => simp [saveAttempts]
  | cons io ios ih =>
      have hts := currentTs_saveCache (P := P) (c := c) hb snap io st
      rw [saveAttempts]
      simp only [saveCache_snd]
      by_cases hdone : io.write.Completes
      · rw [if_pos hdone] at hts
        simp only [hdone, decide_true, if_true, List.find?_cons_of_pos, hts]
      · rw [if_neg hdone] at hts
        simp only [hdone, decide_false, Bool.false_eq_true, if_false,
          not_false_eq_true, List.find?_cons_of_neg]
        rw [ih, hts]
        cases ios.find? fun io => decide io.write.Completes with
        | some io' => rfl
        | none =>
            simp only [List.exists_mem_cons_iff]
            by_cases htouch : io.write.Touches
            · simp [htouch]
            · simp [htouch]

/-- A clear does something to the file: it reads it, and writes it or removes
it. -/
def ClearTouches (P : Primitives β) (c : AuthCache) (io : ClearEnv)
    (st : Storage β) : Prop :=
  io.read.read = true ∧ ∃ d, stateRoot P c.serverUrl st = some d ∧
    d.isEmpty = false ∧
      if anyAppDevice (c.clearApps d) then io.write.Touches
      else io.unlink = true

/-- A clear which does something to the file leaves no timestamp. -/
theorem currentTs_clearCache (io : ClearEnv) (st : Storage β) :
    (c.ClearTouches P io st →
        c.currentTs P (c.clearCache P io st).1 = none) ∧
      (¬c.ClearTouches P io st →
        c.currentTs P (c.clearCache P io st).1 = c.currentTs P st) := by
  simp only [currentTs, currentRow, (clearCache_spec c io st).1, clearOutcome,
    ClearTouches]
  generalize stateRoot P c.serverUrl st = root
  cases io.read.read with
  | false => simp
  | true =>
      cases root with
      | none => simp
      | some d =>
          cases hempty : d.isEmpty with
          | true => simp [hempty]
          | false =>
              cases hany : anyAppDevice (c.clearApps d) with
              | true =>
                  by_cases hdone : io.write.Completes
                  · simp [hempty, hany, hdone, hdone.touches, ts_clearRoot]
                  · by_cases htouch : io.write.Touches
                    · simp [hempty, hany, hdone, htouch, rowOf]
                    · simp [hempty, hany, hdone, htouch]
              | false => cases io.unlink <;> simp [hempty, hany, rowOf]

/-- The timestamp a check leaves before its first heartbeat. -/
theorem currentTs_snapshotAuthRow (io : SnapshotEnv) (st : Storage β) :
    (c.Repairs P io st ∧ c.ClearTouches P io.clear st →
        c.currentTs P (c.snapshotAuthRow P io st).1 = none) ∧
      (¬(c.Repairs P io st ∧ c.ClearTouches P io.clear st) →
        c.currentTs P (c.snapshotAuthRow P io st).1 = c.currentTs P st) := by
  have hroot : stateRoot P c.serverUrl (c.readRow P io.read st).1 =
      stateRoot P c.serverUrl st := stateRoot_readStateDict io.read st
  have htouches : c.ClearTouches P io.clear (c.readRow P io.read st).1 ↔
      c.ClearTouches P io.clear st := by
    rw [ClearTouches, ClearTouches, hroot]
  have hclear := currentTs_clearCache (P := P) (c := c) io.clear
    (c.readRow P io.read st).1
  rw [htouches, currentTs_congr_root hroot] at hclear
  obtain ⟨hrepair, hkeep⟩ := snapshotAuthRow_fst (P := P) (c := c) io st
  by_cases hr : c.Repairs P io st
  · rw [hrepair hr]
    simpa [hr] using hclear
  · rw [hkeep hr, currentTs_congr_root hroot]
    simp [hr]

end AuthCache

namespace AuthClient

variable (cl : AuthClient)

theorem fromCache_toResult (online : Online) :
    online.toResult.fromCache = false := by
  cases online with
  | abandoned collected message => rfl
  | posted collected publicIp answer => exact Answer.toResult_fromCache answer

/-- Without an answer to the full heartbeat the entry in the file is the
answer. -/
theorem completeLight_result (times : ℤ) {io : ProgressiveEnv}
    (hfull : io.full.toResult.success = false) :
    (cl.completeLight P times io st).result =
      match (cl.cache.getCache P io.retest st).2 with
      | none => io.full.toResult
      | some cache =>
          if io.retestValid.read &&
              cl.cache.isCacheValidDict io.retestAt
                (AuthCache.cacheDictFromRow (cl.cache.currentRow P st)) then
            ⟨true, cache.message, true, true⟩
          else io.full.toResult := by
  have hcache := (checkOnline_spec cl times io.full).1
  have hresult := checkOnline_result cl times io.full
  rw [completeLight]
  simp only [hresult, hfull, hcache, Bool.false_eq_true, if_false]
  have hrow : cl.cache.currentRow P (cl.cache.getCache P io.retest st).1 =
      cl.cache.currentRow P st := AuthCache.currentRow_getCache _
  rcases hget : cl.cache.getCache P io.retest st with ⟨st', _ | cache⟩
  · rfl
  · rw [hget] at hrow
    simp only [AuthCache.isCacheValid_snd, hrow]
    split <;> rfl

/-- A check which has got a light authorisation but no answer to its full
heartbeat returns an authorisation exactly when the file then holds an entry
which is valid and finite. -/
theorem checkAuthorizationProgressiveReturn_iff {io : ProgressiveEnv}
    {formatAt : ℚ} (hsuccess : io.light.toResult.success = true)
    (hauth : io.light.toResult.authorized = true)
    (hfull : io.full.toResult.success = false) :
    (∃ result, cl.checkAuthorizationProgressiveReturn P io formatAt st =
        some result ∧ result.success = true ∧ result.authorized = true) ↔
      io.retest.read = true ∧ io.retestValid.read = true ∧ ∃ ts,
        cl.cache.currentTs P (cl.writeCheckCacheRetries P true
            ((cl.checkSnapshot P io.snapshot st).2.2 + 1) io.saveLight
            (cl.checkSnapshot P io.snapshot st).1).1 = some (.fin ts) ∧
          cl.cache.IsValidAt io.retestAt ts := by
  have hresult : (cl.checkAuthorizationProgressive P io st).result =
      (cl.completeLight P ((cl.checkSnapshot P io.snapshot st).2.2 + 1 + 1) io
        (cl.writeCheckCacheRetries P true
          ((cl.checkSnapshot P io.snapshot st).2.2 + 1) io.saveLight
          (cl.checkSnapshot P io.snapshot st).1).1).result := by
    rw [checkAuthorizationProgressive]
    simp only [checkOnlineFast, hsuccess, hauth, if_true]
  rw [checkAuthorizationProgressiveReturn]
  simp only [hsuccess, if_true, hresult]
  generalize (cl.writeCheckCacheRetries P true
    ((cl.checkSnapshot P io.snapshot st).2.2 + 1) io.saveLight
    (cl.checkSnapshot P io.snapshot st).1).1 = st'
  rw [cl.completeLight_result _ hfull, AuthCache.getCache_snd,
    AuthCache.currentTs, ← AuthCache.returned_iff io.retestAt formatAt]
  cases hread : io.retest.read with
  | false => simp [fromCache_toResult, hfull]
  | true =>
      simp only [if_true, true_and]
      cases hcache : AuthCache.cacheDictFromRow
          (cl.cache.currentRow P st') with
      | none => simp [fromCache_toResult, hfull]
      | some cache =>
          simp only [Option.some.injEq, exists_eq_left']
          cases hvalid : io.retestValid.read &&
              cl.cache.isCacheValidDict io.retestAt (some cache) with
          | false =>
              rw [Bool.and_eq_false_iff] at hvalid
              simp only [Bool.false_eq_true, if_false, fromCache_toResult,
                Option.some.injEq, exists_eq_left', hfull, false_and, false_iff]
              rintro ⟨hread', hvalid', -⟩
              rcases hvalid with h | h
              · rw [hread'] at h
                contradiction
              · rw [hvalid'] at h
                contradiction
          | true =>
              rw [Bool.and_eq_true] at hvalid
              simp only [if_true, hvalid, true_and, afterFormatting,
                Option.map_eq_some_iff, Option.isSome_iff_exists]
              constructor
              · rintro ⟨_, ⟨s, hs, -⟩, -⟩
                exact ⟨s, hs⟩
              · rintro ⟨s, hs⟩
                exact ⟨_, ⟨s, hs, rfl⟩, rfl, rfl⟩

/-- What the light authorisation needs to survive the full heartbeat: the
first attempt to save it which completes is read back and still valid; or no
attempt touches the file, and neither does the repair of the row, and the row
has a valid timestamp from before. -/
def HoldsLight (P : Primitives β) (cl : AuthClient) (io : ProgressiveEnv)
    (st : Storage β) : Prop :=
  io.retest.read = true ∧ io.retestValid.read = true ∧
    ((IsProductKey cl.cache.softwareName ∧
        ∃ a, io.saveLight.1.find? (fun a => decide a.write.Completes) =
            some a ∧ cl.cache.IsValidAt io.retestAt a.now) ∨
      ((∀ a ∈ io.saveLight.1, ¬a.write.Touches) ∧
        ¬(cl.cache.Repairs P io.snapshot st ∧
          cl.cache.ClearTouches P io.snapshot.clear st) ∧
        ∃ ts, cl.cache.currentTs P st = some (.fin ts) ∧
          cl.cache.IsValidAt io.retestAt ts))

/-- **When a light authorisation outlives the full heartbeat, in Python.** -/
theorem lightAuthorisation_kept_iff {io : ProgressiveEnv} {formatAt : ℚ}
    (hsuccess : io.light.toResult.success = true)
    (hauth : io.light.toResult.authorized = true)
    (hfull : io.full.toResult.success = false) :
    (∃ result, cl.checkAuthorizationProgressiveReturn P io formatAt st =
        some result ∧ result.success = true ∧ result.authorized = true) ↔
      cl.HoldsLight P io st := by
  rw [cl.checkAuthorizationProgressiveReturn_iff hsuccess hauth hfull,
    HoldsLight]
  apply and_congr_right
  intro _
  apply and_congr_right
  intro _
  rw [writeCheckCacheRetries, AuthCache.currentTs_saveAttempts]
  cases hfind : io.saveLight.1.find? fun a => decide a.write.Completes with
  | some a =>
      have htouch : ¬∀ a ∈ io.saveLight.1, ¬a.write.Touches := by
        intro h
        have hdone := List.find?_some hfind
        rw [decide_eq_true_eq] at hdone
        exact h a (List.mem_of_find?_eq_some hfind) hdone.touches
      simp only [htouch, false_and, or_false, Option.some.injEq,
        exists_eq_left']
      constructor
      · rintro ⟨ts, hts, hvalid⟩
        rw [Option.ite_none_right_eq_some, Option.some.injEq,
          Double.fin.injEq] at hts
        obtain ⟨⟨hname, -⟩, rfl⟩ := hts
        exact ⟨hname, hvalid⟩
      · rintro ⟨hname, hvalid⟩
        have hpos := AuthCache.pos_of_isValidAt hvalid
        exact ⟨a.now, if_pos ⟨hname, hpos⟩, hvalid⟩
  | none =>
      obtain ⟨hrepaired, hkept⟩ := AuthCache.currentTs_snapshotAuthRow (P := P)
        (c := cl.cache) io.snapshot st
      simp only [reduceCtorEq, false_and, exists_false, and_false, false_or]
      by_cases htouch : ∃ a ∈ io.saveLight.1, a.write.Touches
      · have hnot : ¬∀ a ∈ io.saveLight.1, ¬a.write.Touches := by
          simpa using htouch
        simp [htouch, hnot]
      · have hall : ∀ a ∈ io.saveLight.1, ¬a.write.Touches := by
          simpa using htouch
        rw [if_neg htouch, checkSnapshot_fst]
        by_cases hr : cl.cache.Repairs P io.snapshot st ∧
            cl.cache.ClearTouches P io.snapshot.clear st
        · simp [hrepaired hr, hr]
        · rw [hkept hr]
          exact ⟨fun h => ⟨hall, hr, h⟩, fun h => h.2.2⟩

end AuthClient

end PyAuth.Client

/-! ## TypeScript -/

namespace PyAuth.TypeScript

open Support Client Sdk

/-- The result of a full heartbeat. -/
def Online.toResult : Online → AuthResult
  | .raised message => (Answer.failed message).toResult
  | .posted _ _ answer => answer.toResult

variable {c : AuthCache} {file : StateFile}

namespace AuthCache

theorem get_savedRow_last_success_at {now : ℚ} {hb : Option Double}
    {snapshot : Option (Dict String Json)} {sub : Row} :
    (c.savedRow true now hb snapshot sub).get "last_success_at" =
      some (.float (.fin now)) := by
  cases hb <;> cases snapshot <;>
    simp [savedRow, Dict.get_set, bundleProductDeviceInfoSnapshotKey]

/-- The timestamp of the row that is loaded for the product from what the
commit of an authorised answer keeps. -/
def savedTs (c : AuthCache) (hb : Option Double)
    (snapshot : Option (Dict String Json)) (env : SaveEnv)
    (file : StateFile) : Option ℚ :=
  let m := ((readStateDict env.read file).getD .empty).eraseAll
    bundleRootStrayKeys
  c.leftTs m (c.savedRow true env.now hb snapshot (c.ownRow (loadAppsMap m)))

/-- The timestamp after one save of an authorised answer. -/
theorem currentTs_saveCache (hb : Option Double)
    (snapshot : Option (Dict String Json)) (env : SaveEnv)
    (file : StateFile) :
    c.currentTs (c.saveCache true hb snapshot env file).1 =
      if env.write.completes then c.savedTs hb snapshot env file
      else if env.write.Touches then none
      else c.currentTs file := by
  rw [saveCache, writeStateDictWithRetry, savedTs]
  generalize ((readStateDict env.read file).getD .empty).eraseAll
    bundleRootStrayKeys = m
  have hcontent := StateFile.content_writeWithRetry
    ((commitAppsMap m (c.updateApps m
      (c.savedRow true env.now hb snapshot))).mapValues stringify) file
    env.write
  split
  next hdone =>
    rw [if_pos hdone, ← StateFile.content_root] at hcontent
    rw [currentTs_congr hcontent, currentTs, currentTs_written]
  next hdone =>
    rw [if_neg hdone] at hcontent
    split
    next htouch =>
      rw [if_pos htouch] at hcontent
      exact currentTs_of_content_none hcontent
    next htouch =>
      rw [if_neg htouch] at hcontent
      exact currentTs_congr hcontent

/-- Where no object is assigned to `__proto__` the row that is found is the
one which was written. -/
theorem savedTs_of_plain (hplain : Plain file) (hb : Option Double)
    (snapshot : Option (Dict String Json)) (env : SaveEnv) :
    c.savedTs hb snapshot env file =
      if IsKey isSpace c.softwareName ∧ c.softwareName ≠ "__proto__" ∧
        0 < env.now then some env.now else none := by
  obtain ⟨root, hroot, hm⟩ := within_of_read env.read file
  have hproto := noProto_of_read hplain hroot (hm.eraseAll bundleRootStrayKeys)
  rw [savedTs, ← currentTs_written, rowOf_written_of_noProto hproto]
  · by_cases hname : c.softwareName = "__proto__"
    · simp [hname, rowLastSuccessTs]
    · by_cases hkey : IsKey isSpace c.softwareName
      · have hts : reparse (.float (.fin env.now)) =
            .float (.fin env.now) := rfl
        simp [hname, hkey, rowLastSuccessTs, Dict.get_erase,
          Dict.get_mapValues, get_savedRow_last_success_at, hts, positive?]
      · simp [hname, hkey]
  · intro htrim _
    have hne := softwareName_notMem_of_trim htrim
    simp only [List.mem_cons, not_or] at hne
    cases hb <;> cases snapshot <;>
      simp [savedRow, Dict.get_set, hne,
        bundleProductDeviceInfoSnapshotKey]

/-- A clear does something to the file: it reads it, and writes it or removes
it. -/
def ClearTouches (c : AuthCache) (env : ClearEnv) (file : StateFile) : Prop :=
  ∃ d, readStateDict env.read file = some d ∧
    if anyAppHasDevice (c.updateApps (d.eraseAll bundleRootStrayKeys)
        c.clearedRow) then env.write.Touches
    else env.unlink = true

/-- A clear which does something to the file leaves no timestamp. -/
theorem currentTs_clearCache (hplain : Plain file) (env : ClearEnv) :
    (c.ClearTouches env file →
        c.currentTs (c.clearCache env file).1 = none) ∧
      (¬c.ClearTouches env file →
        (c.clearCache env file).1.content = file.content) := by
  rw [clearCache, ClearTouches]
  cases hread : readStateDict env.read file with
  | none => simp
  | some d =>
      obtain ⟨root, hroot, hm⟩ := within_of_readStateDict hread
      have hproto := noProto_of_read hplain (Or.inr hroot)
        (hm.eraseAll bundleRootStrayKeys)
      simp only [Option.some.injEq, exists_eq_left']
      generalize d.eraseAll bundleRootStrayKeys = m at hproto
      split
      · have hcontent := StateFile.content_writeWithRetry
          ((commitAppsMap m (c.updateApps m c.clearedRow)).mapValues stringify)
          file env.write
        rw [writeStateDictWithRetry]
        by_cases hdone : env.write.completes = true
        · rw [if_pos hdone, ← StateFile.content_root] at hcontent
          refine ⟨fun _ => ?_, fun htouch => (htouch ?_).elim⟩
          · rw [currentTs_congr hcontent]
            exact cleared_iff.mp (cleared_of_updateApps hproto)
          · exact WriteEnv.touches_of_completes hdone
        · rw [if_neg hdone] at hcontent
          refine ⟨fun htouch => ?_, fun htouch => ?_⟩
          · rw [if_pos htouch] at hcontent
            exact currentTs_of_content_none hcontent
          · rw [if_neg htouch] at hcontent
            exact hcontent
      · cases env.unlink with
        | true =>
            have habsent : c.currentTs .absent = none :=
              currentTs_of_content_none rfl
            simp [habsent]
        | false => simp

/-- The branch of `snapshotForAuthorizationCheck` which clears the cache. -/
def Repairs (c : AuthCache) (env : SnapshotEnv) (file : StateFile) : Prop :=
  ∃ row, c.rowOf (readStateDict env.read file) = some row ∧
    rowLastSuccessTs row ≠ none ∧
    ∃ n, storedCount (row.get "heartbeat_times") = some n ∧ isCount n = false

theorem snapshotForAuthorizationCheck_fst (env : SnapshotEnv)
    (file : StateFile) :
    (c.Repairs env file → (c.snapshotForAuthorizationCheck env file).1 =
        (c.clearCache env.clear file).1) ∧
      (¬c.Repairs env file →
        (c.snapshotForAuthorizationCheck env file).1 = file) := by
  rw [snapshotForAuthorizationCheck, Repairs]
  cases hrow : c.rowOf (readStateDict env.read file) with
  | none => simp
  | some row =>
      by_cases hts : rowLastSuccessTs row = none
      · simp [hts]
      · cases hn : storedCount (row.get "heartbeat_times") with
        | none => simp [hts, hn]
        | some n => cases hcount : isCount n <;> simp [hts, hn, hcount]

/-- A product with a row is stored under its name. -/
theorem storable_of_repairs (hplain : Plain file) {env : SnapshotEnv}
    (h : c.Repairs env file) : Storable c.softwareName := by
  obtain ⟨row, hrow, -⟩ := h
  intro htrim
  by_contra hname
  cases hread : readStateDict env.read file with
  | none => simp [hread, rowOf] at hrow
  | some m =>
      obtain ⟨root, hroot, hm⟩ := within_of_readStateDict hread
      have hproto := noProto_of_read hplain (Or.inr hroot) hm
      rw [hread, rowOf, Option.bind_some,
        lookup_typeScript hproto hname] at hrow
      have hstrip := ((loads_typeScript hproto).trimmed hrow).1
      exact hname (hstrip.symm.trans htrim)

/-- The file a check leaves before its first heartbeat. -/
theorem currentTs_snapshot (hplain : Plain file) (env : SnapshotEnv) :
    Plain (c.snapshotForAuthorizationCheck env file).1 ∧
      (c.Repairs env file ∧ c.ClearTouches env.clear file → c.currentTs
        (c.snapshotForAuthorizationCheck env file).1 = none) ∧
      (¬(c.Repairs env file ∧ c.ClearTouches env.clear file) → c.currentTs
        (c.snapshotForAuthorizationCheck env file).1 = c.currentTs file) := by
  obtain ⟨hrepair, hkeep⟩ :=
    snapshotForAuthorizationCheck_fst (c := c) env file
  by_cases hr : c.Repairs env file
  · obtain ⟨htouches, hkept⟩ := currentTs_clearCache (c := c) hplain env.clear
    rw [hrepair hr]
    refine ⟨(clearCache_cases hplain (storable_of_repairs hplain hr)
      env.clear).1, fun h => htouches h.2, fun h => ?_⟩
    exact currentTs_congr (hkept fun htouch => h ⟨hr, htouch⟩)
  · rw [hkeep hr]
    exact ⟨hplain, fun h => (hr h.1).elim, fun _ => rfl⟩

theorem pos_of_rowLastSuccessTs {row : Row} {ts : ℚ}
    (h : rowLastSuccessTs row = some ts) : 0 < ts := by
  have hpos : ∀ x : Double, positive? x = some ts → 0 < ts := by
    intro x hx
    cases x with
    | fin q =>
        rw [positive?, Option.ite_none_right_eq_some, Option.some.injEq] at hx
        rw [← hx.2]
        exact hx.1
    | inf | negInf | nan => simp [positive?] at hx
  rw [rowLastSuccessTs] at h
  split at h
  · exact hpos _ h
  · exact hpos _ h
  · split at h
    · contradiction
    · exact hpos _ h
  · contradiction

/-- An entry of this time is valid at the clock reading `now`. -/
def IsValidAt (c : AuthCache) (now ts : ℚ) : Prop :=
  c.isCacheTTLValid now (some ⟨true, "设备已授权", ts⟩) = true

instance (c : AuthCache) (now ts : ℚ) : Decidable (c.IsValidAt now ts) :=
  inferInstanceAs (Decidable (_ = true))

theorem isCacheTTLValid_iff {now : ℚ} {row : Option Row} :
    c.isCacheTTLValid now (cacheRecordFromRow row) = true ↔
      ∃ ts, row.bind rowLastSuccessTs = some ts ∧ c.IsValidAt now ts := by
  cases hts : row.bind rowLastSuccessTs with
  | none => simp [cacheRecordFromRow, hts, isCacheTTLValid]
  | some ts => simp [cacheRecordFromRow, hts, IsValidAt]

end AuthCache

namespace AuthClient

variable (cl : AuthClient)

theorem checkOnline_result (online : Online) :
    (cl.checkOnline online).2 = online.toResult := by
  cases online <;> rfl

/-- What the light authorisation needs to survive the full heartbeat, in the
file as the start of the check has left it: the write completes, and the row
that is loaded from what it keeps is valid; or it does not touch the file, and
the row in the file is valid. -/
def HoldsLight (cl : AuthClient) (env : ProgressiveEnv) (file : StateFile) :
    Prop :=
  let snapshot := cl.cache.snapshotForAuthorizationCheck env.snapshot file
  env.retest = true ∧ ∃ ts,
    ((env.saveLight.write.completes = true ∧
        cl.cache.savedTs (some (plusOne snapshot.2.2))
          (some (jsonCopy cl.deviceInfo)) env.saveLight snapshot.1 =
            some ts) ∨
      (¬env.saveLight.write.Touches ∧
        cl.cache.currentTs snapshot.1 = some ts)) ∧
    cl.cache.IsValidAt env.retestAt ts

/-- The same of the file as the check finds it, where no object of it is
assigned to `__proto__`. -/
def HoldsOwnLight (cl : AuthClient) (env : ProgressiveEnv) (file : StateFile) :
    Prop :=
  env.retest = true ∧
    ((env.saveLight.write.completes = true ∧
        IsKey isSpace cl.cache.softwareName ∧
        cl.cache.softwareName ≠ "__proto__" ∧ 0 < env.saveLight.now ∧
        cl.cache.IsValidAt env.retestAt env.saveLight.now) ∨
      (¬env.saveLight.write.Touches ∧
        ¬(cl.cache.Repairs env.snapshot file ∧
          cl.cache.ClearTouches env.snapshot.clear file) ∧
        ∃ ts, cl.cache.currentTs file = some ts ∧
          cl.cache.IsValidAt env.retestAt ts))

theorem holdsLight_iff_of_plain (hplain : Plain file) (env : ProgressiveEnv) :
    cl.HoldsLight env file ↔ cl.HoldsOwnLight env file := by
  obtain ⟨hplain', hrepaired, hkept⟩ :=
    AuthCache.currentTs_snapshot (c := cl.cache) hplain env.snapshot
  rw [HoldsLight, HoldsOwnLight, AuthCache.savedTs_of_plain hplain']
  apply and_congr_right
  intro _
  by_cases hdone : env.saveLight.write.completes = true
  · have htouch : env.saveLight.write.Touches :=
      WriteEnv.touches_of_completes hdone
    simp only [hdone, true_and, htouch, not_true, false_and, or_false]
    constructor
    · rintro ⟨ts, hts, hvalid⟩
      rw [Option.ite_none_right_eq_some, Option.some.injEq] at hts
      obtain ⟨⟨hkey, hname, hpos⟩, rfl⟩ := hts
      exact ⟨hkey, hname, hpos, hvalid⟩
    · rintro ⟨hkey, hname, hpos, hvalid⟩
      exact ⟨_, if_pos ⟨hkey, hname, hpos⟩, hvalid⟩
  · simp only [hdone, Bool.false_eq_true, false_and, false_or]
    by_cases htouch : env.saveLight.write.Touches
    · simp [htouch]
    · simp only [htouch, not_false_eq_true, true_and]
      by_cases hr : cl.cache.Repairs env.snapshot file ∧
          cl.cache.ClearTouches env.snapshot.clear file
      · simp [hrepaired hr, hr]
      · rw [hkept hr]
        exact ⟨fun h => ⟨hr, h⟩, fun h => h.2⟩

/-- A check which has got a light authorisation but no answer to its full
heartbeat returns an authorisation exactly when the file then holds a valid
entry. -/
theorem checkAuthorizationProgressive_iff {env : ProgressiveEnv}
    (hsuccess : env.light.toResult.success = true)
    (hauth : env.light.toResult.authorized = true)
    (hfull : env.full.toResult.success = false) :
    ((cl.checkAuthorizationProgressive env file).result.success = true ∧
        (cl.checkAuthorizationProgressive env file).result.authorized =
          true) ↔
      env.retest = true ∧ ∃ ts, cl.cache.currentTs
          (cl.persistOnlineResult true
            (plusOne (cl.cache.snapshotForAuthorizationCheck env.snapshot
              file).2.2) env.saveLight
            (cl.cache.snapshotForAuthorizationCheck env.snapshot file).1) =
          some ts ∧ cl.cache.IsValidAt env.retestAt ts := by
  rw [checkAuthorizationProgressive]
  simp only [hsuccess, hauth, if_true]
  generalize cl.persistOnlineResult true
    (plusOne (cl.cache.snapshotForAuthorizationCheck env.snapshot
      file).2.2) env.saveLight
    (cl.cache.snapshotForAuthorizationCheck env.snapshot file).1 = file'
  rw [checkOnlineAndPersist]
  simp only [checkOnline_result, hfull, Bool.false_eq_true, if_false]
  rw [AuthCache.currentTs, ← AuthCache.isCacheTTLValid_iff,
    AuthCache.getCache]
  cases env.retest with
  | false =>
      have hread : readStateDict false file' = none := by cases file' <;> rfl
      simp [hread, AuthCache.rowOf, AuthCache.cacheRecordFromRow,
        AuthCache.isCacheTTLValid, cachedResult, hfull]
  | true =>
      simp only [true_and]
      cases hvalid : cl.cache.isCacheTTLValid env.retestAt
          (AuthCache.cacheRecordFromRow
            (cl.cache.rowOf (readStateDict true file'))) with
      | false => simp [cachedResult, hfull]
      | true =>
          cases hcache : AuthCache.cacheRecordFromRow
              (cl.cache.rowOf (readStateDict true file')) with
          | none =>
              rw [hcache] at hvalid
              simp [AuthCache.isCacheTTLValid] at hvalid
          | some cache =>
              have hrecord : cache.authorized = true := by
                rw [AuthCache.cacheRecordFromRow,
                  Option.map_eq_some_iff] at hcache
                obtain ⟨ts, -, rfl⟩ := hcache
                rfl
              simp [cachedResult, hrecord]

/-- **When a light authorisation outlives the full heartbeat, in
TypeScript.** -/
theorem lightAuthorisation_kept_iff {env : ProgressiveEnv}
    (hsuccess : env.light.toResult.success = true)
    (hauth : env.light.toResult.authorized = true)
    (hfull : env.full.toResult.success = false) :
    ((cl.checkAuthorizationProgressive env file).result.success = true ∧
        (cl.checkAuthorizationProgressive env file).result.authorized =
          true) ↔
      cl.HoldsLight env file := by
  rw [cl.checkAuthorizationProgressive_iff hsuccess hauth hfull, HoldsLight,
    persistOnlineResult, AuthCache.currentTs_saveCache]
  apply and_congr_right
  intro _
  apply exists_congr
  intro ts
  apply and_congr_left
  intro _
  by_cases hdone : env.saveLight.write.completes = true
  · have htouch : env.saveLight.write.Touches :=
      WriteEnv.touches_of_completes hdone
    simp [hdone, htouch]
  · by_cases htouch : env.saveLight.write.Touches
    · simp [hdone, htouch]
    · simp [hdone, htouch]

end AuthClient

end PyAuth.TypeScript

/-! ## The two SDKs -/

namespace PyAuth.Sdk

open Support Client

/-- A progressive check whose light heartbeat is answered with an
authorisation, and whose full one is not, with the disk's answer to the three
attempts to save. -/
def exampleLight (write : WriteOutcome) : Client.ProgressiveEnv where
  snapshot := .success
  testAt := 300
  light := .answered true ""
  saveLight := ⟨List.replicate 3 (exampleAttempt true write), rfl⟩
  full := .posted .empty "" (.failed "连接失败")
  saveFull := .success 300
  retest := .success
  retestValid := .success
  retestAt := 300

/-- The same check in TypeScript. -/
def exampleLightTypeScript (write : WriteOutcome) :
    TypeScript.ProgressiveEnv :=
  { TypeScript.ProgressiveEnv.success 300 (.answered true "") 300
      (.raised "连接失败") 300 300 with
    saveLight := ⟨300, true, ⟨write, none⟩⟩ }

end PyAuth.Sdk
