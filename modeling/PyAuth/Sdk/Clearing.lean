import PyAuth.Client.DiskFailure
import PyAuth.Sdk.GoSnapshots
import PyAuth.Sdk.Leftovers
import PyAuth.Sdk.TypeScriptSnapshots

/-!
# What a successful clear leaves behind

`clear_cache` reports success when it has nothing to do, when it has written
the row without its timestamp, and when it has removed the whole file.  Python
and TypeScript take a file which cannot be read for one which does not exist,
and Go and TypeScript do not look whether the file was removed.  In TypeScript
another object of the file may also be loaded in place of the row which was
written.  In these cases, and in no other, a licence may outlive a clear which
reported success.
-/

namespace PyAuth.Sdk

open Support Client

/-! ## A member which the rewritten row lacks -/

theorem Within.trans {root root' root'' : Root} (h : Within root root')
    (h' : Within root' root'') : Within root root'' := by
  obtain ⟨f, hf, hget⟩ := h
  obtain ⟨g, hg, hget'⟩ := h'
  refine ⟨fun v => g (f v), hg.comp hf, fun k => ?_⟩
  rcases hget' k with hnone | heq
  · exact Or.inl hnone
  · rw [heq]
    rcases hget k with hnone | heq
    · rw [hnone]
      exact Or.inl rfl
    · rw [heq, Option.map_map]
      exact Or.inr rfl

/-- `root'` holds members of `root`, changed by `f`. -/
def MembersOf (f : Json → Json) (root root' : Root) : Prop :=
  ∀ k, root'.get k = none ∨ root'.get k = (root.get k).map f

variable {isSpace : Char → Bool}

/-- Whatever carries the product later is the row which was written. -/
theorem Rewritten.carried {root root' root'' : Root}
    {load : String → Option Row} {f : Json → Json} {s x : String} {v : Json}
    {row row'' : Row} (h : Rewritten root load s row root')
    (hload : Loads isSpace root load) (hf : Rounding f)
    (hmembers : MembersOf f root' root'') (hx : root''.get x = some v)
    (happ : appRow? isSpace (x, v) = some (s, row'')) :
    IsKey isSpace s ∧
      row'' = (row.mapValues f).erase "software_name" := by
  obtain ⟨hres, hstrip, hblank, d, hd, rfl⟩ := appRow?_eq_some_iff.mp happ
  rcases hmembers x with hnone | heq
  · rw [hnone] at hx
    contradiction
  · rw [heq, Option.map_eq_some_iff] at hx
    obtain ⟨w, hw, rfl⟩ := hx
    rw [hf.dict?_eq, Option.map_eq_some_iff] at hd
    obtain ⟨d', hd', rfl⟩ := hd
    rcases h.members hw hd' with ⟨rfl, rfl⟩ | ⟨hne, hx⟩ | ⟨-, hres', -⟩
    · exact ⟨⟨hres, hstrip, hblank⟩, rfl⟩
    · -- A loaded row stands under its trimmed name, which is not `s`.
      exact (hne ((hload.trimmed hx).1.symm.trans hstrip)).elim
    · exact (hres hres').elim

theorem Rewritten.get_eq_none {root root' root'' : Root}
    {load : String → Option Row} {s k x : String} {v : Json} {row row'' : Row}
    (h : Rewritten root load s row root') (hload : Loads isSpace root load)
    (hwithin : Within root' root'') (hx : root''.get x = some v)
    (happ : appRow? isSpace (x, v) = some (s, row''))
    (hk : row.get k = none) :
    row''.get k = none := by
  obtain ⟨f, hf, hmembers⟩ := hwithin
  rw [(h.carried hload hf hmembers hx happ).2, Dict.get_erase,
    Dict.get_mapValues, hk]
  split <;> rfl

end PyAuth.Sdk

/-! ## Python -/

namespace PyAuth.Client.AuthCache

open Support

variable {β : Type} (P : Primitives β) (c : AuthCache)

/-- Once reads succeed there is no cached authorisation: `get_cache` yields
nothing and the stored count is zero. -/
def Cleared (st : Storage β) : Prop :=
  ∀ io : SnapshotEnv, io.read.read = true →
    (c.getCache P io.read st).2 = none ∧ c.getStoredHeartbeatTimes P io st = 0

variable {P c}

theorem readRow_snd (io : ReadEnv) (st : Storage β) :
    (c.readRow P io st).2 = if io.read then c.currentRow P st else none := by
  simp only [readRow, readStateDict_snd, currentRow]
  split <;> rfl

/-- The entry `get_cache` returns, and whether it is valid. -/
theorem getCache_snd (io : ReadEnv) (st : Storage β) :
    (c.getCache P io st).2 =
      if io.read then cacheDictFromRow (c.currentRow P st) else none := by
  rw [getCache]
  dsimp only
  rw [readRow_snd]
  split <;> rfl

theorem isCacheValid_snd (io : ReadEnv) (now : ℚ) (st : Storage β) :
    (c.isCacheValid P io now st).2 = (io.read &&
      c.isCacheValidDict now (cacheDictFromRow (c.currentRow P st))) := by
  rw [isCacheValid]
  dsimp only
  rw [getCache_snd]
  cases io.read <;> rfl

theorem cleared_iff {st : Storage β} :
    c.Cleared P st ↔ c.currentTs P st = none := by
  rw [currentTs]
  constructor
  · intro h
    have hnone := (h .success rfl).1
    rw [getCache_snd, SnapshotEnv.success, ReadEnv.success, if_pos rfl,
      cacheDictFromRow, Option.map_eq_none_iff] at hnone
    exact hnone
  · intro h io hio
    refine ⟨by rw [getCache_snd, if_pos hio, cacheDictFromRow, h]; rfl, ?_⟩
    have hrow := readRow_snd (P := P) (c := c) io.read st
    rw [if_pos hio] at hrow
    rw [getStoredHeartbeatTimes, snapshotAuthRow]
    dsimp only
    rw [hrow]
    cases hcur : c.currentRow P st with
    | none => rfl
    | some row =>
        rw [hcur, Option.bind_some] at h
        simp only [h, if_true]

/-- **When a successful clear has cleared, in Python**: the bundle was read,
or there was nothing to clear. -/
theorem clearCache_clears_iff (io : ClearEnv) (st : Storage β) :
    ((c.clearCache P io st).2 = true →
        c.Cleared P (c.clearCache P io st).1) ↔
      io.read.read = true ∨ c.Cleared P st := by
  obtain ⟨hroot, hflag⟩ := clearCache_spec (P := P) c io st
  simp only [cleared_iff, currentTs, currentRow, hroot, hflag, clearOutcome]
  generalize stateRoot P c.serverUrl st = root
  cases io.read.read with
  | false => simp
  | true =>
      cases root with
      | none => simp [rowOf]
      | some d =>
          cases hempty : d.isEmpty with
          | true => simp [hempty, rowOf]
          | false =>
              cases hany : anyAppDevice (c.clearApps d) with
              | true =>
                  by_cases hdone : io.write.Completes
                  · simp [hempty, hany, hdone, ts_clearRoot]
                  · simp [hempty, hany, hdone]
              | false => cases io.unlink <;> simp [hempty, hany, rowOf]

end PyAuth.Client.AuthCache

/-! ## Go -/

namespace PyAuth.Go.AuthCache

open Support Client Sdk

variable {c : AuthCache} {file : StateFile}

/-- Once reads succeed there is no cached authorisation, in whatever order the
rows are loaded. -/
def Cleared (c : AuthCache) (file : StateFile) : Prop :=
  ∀ env : SnapshotEnv, env.read.ok = true →
    c.getCache env.read file = .ok none ∧ c.storedHeartbeatTimes env file = 0

/-- A clear comes to remove the file: it has read it, and after its own row
was rewritten no row has a device id. -/
def RemovesFile (c : AuthCache) (env : ReadEnv) (file : StateFile) : Prop :=
  ∃ m, readStateDict env file = .ok (some m) ∧ trimSpace c.deviceID = "" ∧
    ∀ t row, t ≠ c.softwareName →
      (loadAppsMap env.range (m.eraseAll bundleRootStrayKeys)).get t =
        some row → rowDeviceIDString row = ""

theorem anyAppMapHasDeviceID_eq_false {apps : AppsMap} :
    anyAppMapHasDeviceID apps = false ↔
      ∀ t row, apps.get t = some row → rowDeviceIDString row = "" := by
  rw [anyAppMapHasDeviceID, List.any_eq_false]
  constructor
  · intro h t row hget
    simpa using h (t, row) (Dict.get_eq_some_iff.mp hget)
  · rintro h ⟨t, row⟩ hmem
    simpa using h t row (Dict.get_eq_some_iff.mpr hmem)

/-- The rows a clear looks through for a device id. -/
theorem anyAppMapHasDeviceID_set_clearedRow (apps : AppsMap) (sub : Row) :
    anyAppMapHasDeviceID (apps.set c.softwareName (c.clearedRow sub)) =
        false ↔
      trimSpace c.deviceID = "" ∧ ∀ t row, t ≠ c.softwareName →
        apps.get t = some row → rowDeviceIDString row = "" := by
  have hown : rowDeviceIDString (c.clearedRow sub) = trimSpace c.deviceID := by
    simp [rowDeviceIDString, clearedRow]
  rw [anyAppMapHasDeviceID_eq_false]
  constructor
  · intro h
    refine ⟨hown ▸ h _ _ (Dict.get_set_self _ _ _), fun t row ht hget => ?_⟩
    exact h t row (by rw [Dict.get_set_of_ne ht, hget])
  · rintro ⟨hid, hothers⟩ t row hget
    by_cases ht : t = c.softwareName
    · rw [ht, Dict.get_set_self, Option.some.injEq] at hget
      rw [← hget, hown, hid]
    · rw [Dict.get_set_of_ne ht] at hget
      exact hothers t row ht hget

theorem cleared_iff :
    c.Cleared file ↔ ∀ env : ReadEnv, env.ok = true → ∀ m,
      readStateDict env file = .ok (some m) → ∀ row,
        (loadAppsMap env.range m).get c.softwareName = some row →
          rowLastSuccessUnix row = none := by
  constructor
  · intro h env henv m hm row hrow
    have hcache := (h ⟨env, .success .forward⟩ henv).1
    rw [getCache, hm] at hcache
    simpa [Except.map, rowOf, hrow, stateMapToCacheData] using hcache
  · intro h env henv
    rw [storedHeartbeatTimes, snapshotAuthRow, getCache, readOrNil]
    rcases hm : readStateDict env.read file with _ | (_ | m)
    · cases file <;> simp [readStateDict, henv] at hm
    · exact ⟨rfl, rfl⟩
    · cases hrow : (loadAppsMap env.read.range m).get c.softwareName with
      | none => simp [Except.map, rowOf, hrow]
      | some row =>
          have hts := h env.read henv m hm row hrow
          simp [Except.map, rowOf, hrow, hts, stateMapToCacheData]

theorem cleared_of_content_none (h : file.content = none) :
    c.Cleared file := by
  rw [cleared_iff]
  intro env henv m hm
  obtain ⟨root, hroot, -⟩ := within_of_readStateDict hm
  rw [h] at hroot
  contradiction

theorem get_clearedRow_last_success_at (sub : Row) :
    (c.clearedRow sub).get "last_success_at" = none := by
  simp [clearedRow, Dict.get_set, Dict.get_eraseAll,
    bundleProductClearRowKeys]

/-- The row written by a clear has no timestamp. -/
theorem cleared_of_updateRow (range : Range) (m : Root) :
    c.Cleared (.root (c.updateRow range m c.clearedRow)) := by
  rw [cleared_iff]
  intro env henv m' hm' row hrow
  obtain ⟨root, hroot, hwithin⟩ := within_of_readStateDict hm'
  rw [StateFile.content_root, Option.some.injEq] at hroot
  subst hroot
  obtain ⟨k, v, hk, happ⟩ := (loads_go env.range m').sound hrow
  have hnone := (rewritten_updateRow_go c range m c.clearedRow).get_eq_none
    (loads_go range m) hwithin hk happ (get_clearedRow_last_success_at _)
  rw [rowLastSuccessUnix, hnone]

/-- A read which succeeds and finds nothing finds nothing the next time. -/
theorem cleared_of_read_none {env : ReadEnv}
    (h : readStateDict env file = .ok none) : c.Cleared file := by
  rw [cleared_iff]
  intro env' henv' m hm
  cases file with
  | absent => simp [readStateDict] at hm
  | unreadable => simp [readStateDict, henv'] at hm
  | root d =>
      simp only [readStateDict] at h
      split at h
      · rw [Except.ok.injEq, Option.map_eq_none_iff] at h
        simp [readStateDict, henv', h] at hm
      · contradiction

theorem cleared_of_write {range : Range} {m : Root} {env : WriteEnv}
    (h : (file.writeWithRetry (c.updateRow range m c.clearedRow) env).2 =
      true) :
    c.Cleared
      (file.writeWithRetry (c.updateRow range m c.clearedRow) env).1 := by
  rcases StateFile.writeWithRetry_cases (c.updateRow range m c.clearedRow)
    file env with hdone | ⟨hfail, -⟩
  · rw [hdone]
    exact cleared_of_updateRow range m
  · rw [hfail] at h
    contradiction

/-- **When a successful clear has cleared, in Go**: it did not come to remove
the file, or the file was removed, or there was nothing to clear. -/
theorem clearCache_clears_iff (c : AuthCache) (env : ClearEnv)
    (file : StateFile) :
    ((c.clearCache env file).2 = true →
        c.Cleared (c.clearCache env file).1) ↔
      (c.RemovesFile env.read file →
        env.remove = true ∨ c.Cleared file) := by
  rw [clearCache, RemovesFile]
  rcases hread : readStateDict env.read file with _ | (_ | m)
  · simp
  · simp [cleared_of_read_none hread]
  · simp only [Except.ok.injEq, Option.some.injEq, exists_eq_left']
    rw [← anyAppMapHasDeviceID_set_clearedRow _
      (c.ownRow (loadAppsMap env.read.range (m.eraseAll bundleRootStrayKeys)))]
    cases anyAppMapHasDeviceID
        ((loadAppsMap env.read.range (m.eraseAll bundleRootStrayKeys)).set
          c.softwareName (c.clearedRow (c.ownRow (loadAppsMap env.read.range
            (m.eraseAll bundleRootStrayKeys))))) with
    | true =>
        simp only [if_true, Bool.true_eq_false, false_implies, iff_true]
        exact cleared_of_write
    | false =>
        have habsent : c.Cleared .absent := cleared_of_content_none rfl
        cases env.remove <;> simp [habsent]

end PyAuth.Go.AuthCache

/-! ## TypeScript -/

namespace PyAuth.TypeScript.AuthCache

open Support Client Sdk

variable {c : AuthCache} {file : StateFile}

/-- The timestamp that a read which does not fail finds. -/
def currentTs (c : AuthCache) (file : StateFile) : Option ℚ :=
  (c.rowOf (readStateDict true file)).bind rowLastSuccessTs

/-- Once reads succeed there is no cached authorisation. -/
def Cleared (c : AuthCache) (file : StateFile) : Prop :=
  ∀ env : SnapshotEnv, env.read = true →
    c.getCache env.read file = none ∧
      (c.snapshotForAuthorizationCheck env file).2.2 = .fin 0

/-- A clear comes to remove the file: it has read it, and after its own row
was rewritten no row has a device id. -/
def RemovesFile (c : AuthCache) (read : Bool) (file : StateFile) : Prop :=
  ∃ d, readStateDict read file = some d ∧ anyAppHasDevice
    (c.updateApps (d.eraseAll bundleRootStrayKeys) c.clearedRow) = false

/-- The members which a clear keeps when it writes the file still have a
timestamp under the name of the product. -/
def KeepsTimestamp (c : AuthCache) (read : Bool) (file : StateFile) : Prop :=
  ∃ d, readStateDict read file = some d ∧
    anyAppHasDevice
      (c.updateApps (d.eraseAll bundleRootStrayKeys) c.clearedRow) = true ∧
    c.leftTs (d.eraseAll bundleRootStrayKeys) (c.clearedRow
      (c.ownRow (loadAppsMap (d.eraseAll bundleRootStrayKeys)))) ≠ none

theorem cleared_iff : c.Cleared file ↔ c.currentTs file = none := by
  rw [currentTs]
  constructor
  · intro h
    have hcache := (h .success rfl).1
    rw [getCache, cacheRecordFromRow, Option.map_eq_none_iff] at hcache
    exact hcache
  · rintro h ⟨_, clear⟩ rfl
    rw [getCache, cacheRecordFromRow, h, snapshotForAuthorizationCheck]
    refine ⟨rfl, ?_⟩
    dsimp only
    cases hrow : c.rowOf (readStateDict true file) with
    | none => rfl
    | some row =>
        rw [hrow, Option.bind_some] at h
        simp only [h, if_true]

theorem readStateDict_true (file : StateFile) :
    readStateDict true file = file.content.map fun d =>
      (d.mapValues Json.asDoubles).erase "device_id" := by
  cases file <;> rfl

theorem currentTs_congr {file' : StateFile}
    (h : file'.content = file.content) :
    c.currentTs file' = c.currentTs file := by
  rw [currentTs, currentTs, readStateDict_true, readStateDict_true, h]

theorem currentTs_of_content_none (h : file.content = none) :
    c.currentTs file = none := by
  rw [currentTs, readStateDict_true, h]
  rfl

theorem cleared_of_content_none (h : file.content = none) :
    c.Cleared file :=
  cleared_iff.mpr (currentTs_of_content_none h)

/-- The product `__proto__` has an empty row where no member is assigned to
it. -/
theorem rowOf_proto {d : Root} (hd : NoProto d)
    (hname : c.softwareName = "__proto__") : c.rowOf (some d) = some .empty := by
  have hown : (loadAppsMap d).own.get "__proto__" = none := by
    by_contra hsome
    obtain ⟨row, hrow⟩ := Option.ne_none_iff_exists'.mp hsome
    obtain ⟨k, v, hk, happ⟩ := (loads_typeScript hd).sound hrow
    exact hd k v _ _ hk happ rfl
  rw [rowOf, Option.bind_some, hname, Apps.lookup, hown]
  rw [loadAppsMap_typeScript hd]
  rfl

theorem get_clearedRow_last_success_at (sub : Row) :
    (c.clearedRow sub).get "last_success_at" = none := by
  simp [clearedRow, Dict.get_set, Dict.get_eraseAll, bundleProductRevokeKeys]

/-- A product whose name is only trimmed to `__proto__` has no row to be found
on the prototype it becomes. -/
theorem get_proto_eq_none {m root' root'' : Root} {row : Row} (hm : NoProto m)
    (hname : c.softwareName ≠ "__proto__")
    (h : Rewritten m (loadAppsMap m).own.get c.softwareName row root')
    (hrow : (loadAppsMap m).own.get c.softwareName = none →
      trim c.softwareName = "__proto__" → row.get c.softwareName = none)
    (hwithin : Within root' root'') {p : Row}
    (hp : (loadAppsMap root'').proto = some p) :
    p.get c.softwareName = none := by
  have hload := loads_typeScript hm
  obtain ⟨k, v, hk, happ⟩ := carrier_of_proto hp
  obtain ⟨hres, hstrip, -, d, hd, rfl⟩ := appRow?_eq_some_iff.mp happ
  obtain ⟨f, hf, hget⟩ := hwithin
  rcases hget k with hnone | heq
  · rw [hnone] at hk
    contradiction
  · rw [heq, Option.map_eq_some_iff] at hk
    obtain ⟨w, hw, rfl⟩ := hk
    rw [hf.dict?_eq, Option.map_eq_some_iff] at hd
    obtain ⟨d', hd', rfl⟩ := hd
    rcases h.members hw hd' with ⟨rfl, rfl⟩ | ⟨-, hget'⟩ | ⟨-, hres', -⟩
    · have hnone : (loadAppsMap m).own.get c.softwareName = none := by
        by_contra hsome
        obtain ⟨row, hrow⟩ := Option.ne_none_iff_exists'.mp hsome
        exact hname ((hload.trimmed hrow).1.symm.trans hstrip)
      rw [Dict.get_erase, Dict.get_mapValues, hrow hnone hstrip]
      split <;> rfl
    · obtain ⟨k', v', hk', happ'⟩ := hload.sound hget'
      exact (hm k' v' _ _ hk' happ'
        ((hload.trimmed hget').1.symm.trans hstrip)).elim
    · exact (hres hres').elim

/-- The row of the product, and nothing found on a prototype, is what a read
returns after a rewriting. -/
theorem rowOf_rewritten {m root' root'' : Root} {row : Row} {f : Json → Json}
    (hm : NoProto m) (hname : c.softwareName ≠ "__proto__")
    (h : Rewritten m (loadAppsMap m).own.get c.softwareName row root')
    (hrow : (loadAppsMap m).own.get c.softwareName = none →
      trim c.softwareName = "__proto__" → row.get c.softwareName = none)
    (hf : Rounding f) (hmembers : MembersOf f root' root'')
    (hself : IsKey isSpace c.softwareName →
      root''.get c.softwareName = (root'.get c.softwareName).map f) :
    c.rowOf (some root'') =
      if IsKey isSpace c.softwareName then
        some ((row.mapValues f).erase "software_name")
      else none := by
  have hload := loads_typeScript hm
  have hproto : ∀ p, (loadAppsMap root'').proto = some p →
      p.get c.softwareName = none :=
    fun p => get_proto_eq_none hm hname h hrow ⟨f, hf, hmembers⟩
  rw [rowOf, Option.bind_some, Apps.lookup]
  cases hown : (loadAppsMap root'').own.get c.softwareName with
  | some row'' =>
      obtain ⟨k, v, hk, happ⟩ := carrier_of_own hown
      obtain ⟨hkey, rfl⟩ := h.carried hload hf hmembers hk happ
      simp [hkey]
  | none =>
      have hnot : ¬IsKey isSpace c.softwareName := by
        intro hkey
        have htrim : trim c.softwareName ≠ "__proto__" := by
          rw [show trim c.softwareName = c.softwareName from hkey.2.1]
          exact hname
        have hplain := noProto_within (noProto_rewritten hm hload htrim h)
          ⟨f, hf, hmembers⟩
        have hget := hself hkey
        rw [h.get_self, Option.map_some] at hget
        have hdict : (f (.ofDict row)).dict? = some (row.mapValues f) := by
          rw [hf.dict?_eq, Json.dict?_ofDict, Option.map_some]
        have hsome := (loads_typeScript hplain).complete hget
          (appRow?_eq_some_iff.mpr
            ⟨hkey.1, hkey.2.1, hkey.2.2, _, hdict, rfl⟩)
        rw [hown] at hsome
        contradiction
      rw [if_neg hnot]
      cases hp : (loadAppsMap root'').proto with
      | none => simp [hname]
      | some p => simp [hproto p hp, hname]

/-- What is read after the row of the product was changed by `f`, where no
member is assigned to `__proto__`. -/
theorem rowOf_written_of_noProto {m : Root} (hm : NoProto m) {f : Row → Row}
    (hf : trim c.softwareName = "__proto__" →
      c.softwareName ≠ "__proto__" → (f .empty).get c.softwareName = none) :
    c.rowOf (readStateDict true (.root ((commitAppsMap m
        (c.updateApps m f)).mapValues stringify))) =
      if c.softwareName = "__proto__" then some .empty
      else if IsKey isSpace c.softwareName then
        some (((f (((loadAppsMap m).own.get c.softwareName).getD
          .empty)).mapValues reparse).erase "software_name")
      else none := by
  have hmembers : MembersOf reparse (commitAppsMap m (c.updateApps m f))
      ((((commitAppsMap m (c.updateApps m f)).mapValues stringify).mapValues
        Json.asDoubles).erase "device_id") := by
    intro k
    rw [Dict.get_erase, Dict.get_mapValues, Dict.get_mapValues,
      Option.map_map]
    split
    · exact Or.inl rfl
    · exact Or.inr rfl
  simp only [readStateDict, if_true]
  split
  next hname =>
    exact rowOf_proto (noProto_within (noProto_updateApps_proto hm hname)
      ⟨reparse, rounding_reparse, hmembers⟩) hname
  next hname =>
    refine rowOf_rewritten hm hname (rewritten_updateApps_typeScript c hm hname
      f) (fun hnone htrim => ?_) rounding_reparse hmembers fun hkey => ?_
    · rw [hnone]
      exact hf htrim hname
    · have hne : c.softwareName ≠ "device_id" := by
        intro heq
        exact hkey.1 (by simp [heq, reservedRootKeys])
      rw [Dict.get_erase_of_ne hne, Dict.get_mapValues, Dict.get_mapValues,
        Option.map_map]
      rfl

theorem softwareName_notMem_of_trim (htrim : trim c.softwareName = "__proto__") :
    c.softwareName ∉ ["device_id", "last_success_at", "heartbeat_times",
      "device_info_snapshot"] := by
  intro hmem
  have hkeys : ∀ k ∈ ["device_id", "last_success_at", "heartbeat_times",
      "device_info_snapshot"], trim k ≠ "__proto__" := by decide
  exact hkeys _ hmem htrim

/-- The row written by a clear has no timestamp. -/
theorem cleared_of_updateApps {m : Root} (hm : NoProto m) :
    c.Cleared (.root ((commitAppsMap m
      (c.updateApps m c.clearedRow)).mapValues stringify)) := by
  rw [cleared_iff, currentTs, rowOf_written_of_noProto hm]
  · split
    · rfl
    · split
      · rw [Option.bind_some, rowLastSuccessTs, Dict.get_erase,
          Dict.get_mapValues, get_clearedRow_last_success_at]
        rfl
      · rfl
  · intro htrim _
    have hne := softwareName_notMem_of_trim htrim
    simp only [List.mem_cons, not_or] at hne
    simp [clearedRow, Dict.get_set, hne.1, Dict.get_eraseAll]

/-- What is read after a clear has written the file. -/
theorem cleared_written_iff {m : Root} :
    c.Cleared (.root ((commitAppsMap m
        (c.updateApps m c.clearedRow)).mapValues stringify)) ↔
      c.leftTs m (c.clearedRow (c.ownRow (loadAppsMap m))) = none := by
  rw [cleared_iff, currentTs, currentTs_written]

/-- Only an object which is assigned to `__proto__` can be kept so. -/
theorem not_keepsTimestamp_of_plain (hplain : Plain file) (read : Bool) :
    ¬c.KeepsTimestamp read file := by
  rintro ⟨d, hread, -, hleft⟩
  obtain ⟨root, hroot, hm⟩ := within_of_readStateDict hread
  have hproto := noProto_of_read hplain (Or.inr hroot)
    (hm.eraseAll bundleRootStrayKeys)
  exact hleft (cleared_written_iff.mp (cleared_of_updateApps hproto))

theorem cleared_of_write_iff {m : Root} {env : WriteEnv} :
    ((writeStateDictWithRetry (commitAppsMap m
          (c.updateApps m c.clearedRow)) env file).2 = true →
        c.Cleared (writeStateDictWithRetry (commitAppsMap m
          (c.updateApps m c.clearedRow)) env file).1) ↔
      (env.completes = true →
        c.leftTs m (c.clearedRow (c.ownRow (loadAppsMap m))) = none) := by
  rw [writeStateDictWithRetry, StateFile.writeWithRetry_snd]
  apply imp_congr_right
  intro hdone
  rw [← cleared_written_iff, cleared_iff, cleared_iff]
  have hcontent := StateFile.content_writeWithRetry
    ((commitAppsMap m (c.updateApps m c.clearedRow)).mapValues stringify)
    file env
  rw [if_pos hdone, ← StateFile.content_root] at hcontent
  rw [currentTs_congr hcontent]

/-- **When a successful clear has cleared, in TypeScript**: the file was read
and, if the clear came to remove it, removed, or there was nothing to clear;
and the members which stay after a write have no timestamp. -/
theorem clearCache_clears_iff (c : AuthCache) (env : ClearEnv)
    (file : StateFile) :
    ((c.clearCache env file).2 = true →
        c.Cleared (c.clearCache env file).1) ↔
      (env.read = true ∨ c.Cleared file) ∧
        (c.RemovesFile env.read file → env.unlink = true ∨ c.Cleared file) ∧
        (env.write.completes = true → ¬c.KeepsTimestamp env.read file) := by
  rw [clearCache, RemovesFile, KeepsTimestamp]
  cases hread : readStateDict env.read file with
  | none =>
      have hcleared : env.read = true → c.Cleared file := by
        intro hok
        rw [cleared_iff, currentTs, ← hok, hread]
        rfl
      simp only [true_implies, reduceCtorEq, false_and, exists_false,
        false_implies, not_false_eq_true, implies_true, and_true]
      exact ⟨Or.inr, fun h => h.elim hcleared id⟩
  | some d =>
      have hok : env.read = true := by
        cases hok : env.read with
        | true => rfl
        | false => cases file <;> simp [readStateDict, hok] at hread
      simp only [Option.some.injEq, exists_eq_left', hok, true_or, true_and]
      cases anyAppHasDevice (c.updateApps (d.eraseAll bundleRootStrayKeys)
          c.clearedRow) with
      | true =>
          simp only [if_true, Bool.true_eq_false, false_implies, true_and,
            ne_eq, not_not]
          exact cleared_of_write_iff
      | false =>
          have habsent : c.Cleared .absent := cleared_of_content_none rfl
          cases env.unlink <;> simp [habsent]

end PyAuth.TypeScript.AuthCache

/-! ## The three SDKs -/

namespace PyAuth.Sdk

open Support Client

/-- A file with one authorised product. -/
def licensedFile : StateFile :=
  .root (.ofList [("editor", .ofDict (Client.exampleRow "D" 100))])

theorem plain_licensedFile : TypeScript.Plain licensedFile := by
  rintro _ ⟨⟩ k v t row hk happ
  obtain ⟨-, rfl, -⟩ := appRow?_eq_some_iff.mp happ
  have hkey : k = "editor" := by
    by_contra hne
    simp [Dict.get_ofList, List.lookup_cons, hne, beq_eq_false_iff_ne.mpr]
      at hk
  rw [hkey]
  decide

end PyAuth.Sdk
