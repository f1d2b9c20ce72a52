import PyAuth.Client.Calls
import PyAuth.Client.Frame
import PyAuth.Sdk.Tables

/-!
# The Python SDK keeps the table

On a disk which does not fail the operations of the Python SDK do to the table
in the state file what the table machine does, and its checks return the same
verdicts.
-/

namespace PyAuth.Client

open Support Sdk

section

variable {β : Type} {P : Primitives β} {url : String} {st : Storage β}
  {root : Root} {T : Table}

/-! ## The state file -/

theorem readStateDict_of_root (h : stateFile P url st = .root root) :
    readStateDict P url .success st =
      (st, some (root.erase "device_id")) := by
  rw [stateFile] at h
  rw [readStateDict]
  cases hfile : st.files (bundlePath P url) with
  | none => simp [hfile] at h
  | some raw =>
      rw [hfile] at h
      simp only [ReadEnv.success, if_true]
      cases hopen : openBundle P url raw with
      | none => simp [hopen] at h
      | some v =>
          cases hdict : v.dict? with
          | none => simp [hopen, hdict] at h
          | some d =>
              simp only [hopen, Option.bind_some, hdict,
                StateFile.root.injEq] at h
              simp only [hdict]
              rw [h]

/-- A product whose number fields are numbers. -/
theorem number_cases {v : Json} {q : ℚ} (hexact : v.asDoubles = v.byValue)
    (h : v.byValue = ofNumber q) :
    (∃ n : ℤ, v = .int n ∧ q = n ∧ Double.ofInt n = .fin n) ∨
      v = .float (.fin q) := by
  cases v with
  | int n =>
      rw [Json.byValue_int, ofNumber, Json.float.injEq,
        Double.fin.injEq] at h
      rw [Json.asDoubles, Json.mapNumbers, Json.byValue_int,
        Json.float.injEq] at hexact
      exact Or.inl ⟨n, rfl, h.symm, hexact⟩
  | float x =>
      rw [Json.byValue_float] at h
      exact Or.inr h
  | str s =>
      rw [Json.byValue_str] at h
      contradiction
  | null | bool | arr | obj =>
      rw [Json.byValue, Json.mapNumbers] at h
      contradiction

namespace AuthCache

variable {c : AuthCache}

/-- The product of a cache. -/
def product (c : AuthCache) : Product :=
  ⟨c.softwareName, c.deviceId, c.cacheValiditySeconds⟩

/-! ## Rows -/

section Rows

variable {row : Row} {authorized : Bool} {now : ℚ} {times : ℤ}
  {info : Dict String Json}

theorem fieldsOf_clearedRow (c : AuthCache) (row : Row) :
    fieldsOf (c.clearedRow row) = c.product.cleared (fieldsOf row) := by
  rw [clearedRow, fieldsOf_set, fieldsOf_eraseAll, Json.byValue_str]
  rfl

theorem soundRow_clearedRow (hrow : SoundRow row) :
    SoundRow (c.clearedRow row) :=
  (hrow.eraseAll _).set (by decide) (representable_str _)

theorem fieldsOf_savedRow (hinfo : Storable info) :
    fieldsOf (c.savedRow true (.float (.fin now)) (.int times)
        (.ofDict info) row) =
      c.product.granted now times (infoOf info) (fieldsOf row) := by
  simp only [savedRow, if_true, reduceCtorEq, if_false, Json.dict?_ofDict,
    hinfo.nonempty, Bool.false_eq_true, fieldsOf_set, Json.byValue_str,
    Json.byValue_float, Json.byValue_int]
  rfl

theorem soundRow_savedRow (hrow : SoundRow row) (hinfo : Storable info)
    (hnonneg : 0 ≤ times) (hle : times ≤ 2 ^ 53) :
    SoundRow (c.savedRow true (.float (.fin now)) (.int times) (.ofDict info)
      row) := by
  simp only [savedRow, if_true, reduceCtorEq, if_false, Json.dict?_ofDict,
    hinfo.nonempty, Bool.false_eq_true]
  exact (((hrow.set (by decide) (representable_str _)).set (by decide)
    (representable_float _)).set (by decide)
      (representable_int hnonneg hle)).set (by decide) hinfo.representable

end Rows

/-! ## Operations -/

section Operations

theorem stateFile_writeBundle (data : Root) (st : Storage β) :
    stateFile P c.serverUrl (c.writeBundleWithRetry P data .success st).1 =
      .root data := by
  obtain ⟨hfile, hok⟩ : stateFile P c.serverUrl
      (writeStateDict P c.serverUrl data .done st).1 = _ ∧ _ :=
    stateFile_writeStateDict data .done
  simp only [writeBundleWithRetry, BundleEnv.success, hok]
  simpa [StateFile.write] using hfile

/-- Committing the changed row of a product. -/
theorem stands_updateRow (hp : c.product.Ordinary) {m : Root} (hm : Clean m)
    {f : Row → Row} (hf : ∀ row, SoundRow row → SoundRow (f row))
    {fs : Fields}
    (hfs : fieldsOf (f (((Client.loadAppsMap m).get
      c.softwareName).getD .empty)) = fs) :
    Clean (updateRow m c.softwareName f) ∧
      tableOf (updateRow m c.softwareName f) =
        (tableOf m).store c.softwareName fs := by
  have hload := loads_python m
  have hrewritten := rewritten_updateRow_python m c.softwareName f
  have hrow := hf _ (hm.soundRow_own c.softwareName)
  refine ⟨clean_rewritten hm hload hp.key hp.trimsAlike hp.noProto hrow
    hrewritten, ?_⟩
  rw [tableOf_rewritten hm hload hp.key hrow hrewritten, hfs]
  rfl

/-- The table is the same without the stray keys of the root. -/
theorem clean_eraseStray (hclean : Clean root) :
    Clean ((root.erase "device_id").eraseAll bundleRootStrayKeys) ∧
      tableOf ((root.erase "device_id").eraseAll bundleRootStrayKeys) =
        tableOf root := by
  refine ⟨clean_eraseAll (clean_erase_deviceId hclean) (by decide), ?_⟩
  rw [tableOf_eraseAll (by decide), tableOf_erase_deviceId]

theorem stands_saveCache (hp : c.product.Ordinary)
    (hst : Stands (stateFile P c.serverUrl st) T) (authorized : Bool)
    (now : ℚ) {times : ℤ} {info : Dict String Json}
    (hinfo : authorized = true → Storable info)
    (htimes : authorized = true → 0 ≤ times ∧ times ≤ 2 ^ 53) :
    Stands (stateFile P c.serverUrl (c.saveCache P authorized .null
        (if authorized then .int times else .null)
        (if authorized then Json.ofDict info else .null) (.success now) st).1)
      (c.product.save T authorized now times (infoOf info)) := by
  obtain ⟨root, hroot, hclean, rfl⟩ := hst.eq_root
  have hread := readStateDict_of_root hroot
  obtain ⟨hm, htable⟩ := clean_eraseStray hclean
  have hown := own_tableOf ((root.erase "device_id").eraseAll
    bundleRootStrayKeys) c.softwareName
  rw [htable] at hown
  simp only [saveCache, SaveEnv.success, hread, if_true, Option.getD_some,
    saveRoot]
  rw [stateFile_writeBundle, Product.save, ← htable]
  cases authorized with
  | false =>
      obtain ⟨hclean', htable'⟩ := stands_updateRow hp hm
        (fun row hrow => soundRow_clearedRow hrow)
        (fieldsOf_clearedRow c _)
      refine ⟨_, rfl, hclean', ?_⟩
      rw [← hown, ← htable] at htable'
      exact htable'
  | true =>
      obtain ⟨hnonneg, hle⟩ := htimes rfl
      obtain ⟨hclean', htable'⟩ := stands_updateRow hp hm
        (fun row hrow => soundRow_savedRow hrow (hinfo rfl) hnonneg hle)
        (fieldsOf_savedRow (hinfo rfl))
      refine ⟨_, rfl, hclean', ?_⟩
      rw [← hown, ← htable] at htable'
      exact htable'

theorem stands_clearCache (hp : c.product.Ordinary)
    (hroot : stateFile P c.serverUrl st = .root root) (hclean : Clean root)
    (hempty : (root.erase "device_id").isEmpty = false) :
    Stands (stateFile P c.serverUrl (c.clearCache P .success st).1)
      (c.product.clear (tableOf root)) := by
  have hread := readStateDict_of_root hroot
  obtain ⟨hm, htable⟩ := clean_eraseStray hclean
  have hown := own_tableOf ((root.erase "device_id").eraseAll
    bundleRootStrayKeys) c.softwareName
  rw [htable] at hown
  obtain ⟨hclean', htable'⟩ := stands_updateRow hp hm
    (fun row hrow => soundRow_clearedRow hrow) (fieldsOf_clearedRow c _)
  rw [← hown, htable] at htable'
  simp only [clearCache, ClearEnv.success, hread, hempty, Bool.false_eq_true,
    if_false, anyAppDevice_clearApps (c := c) hp.device.1, if_true]
  rw [stateFile_writeBundle]
  exact ⟨_, rfl, hclean', htable'⟩

theorem stands_persistDeviceId (hp : c.product.Ordinary)
    (hst : Stands (stateFile P c.serverUrl st) T) :
    Stands (stateFile P c.serverUrl (persistDeviceId P c.serverUrl
      c.softwareName c.deviceId .success st).1) (c.product.persist T) := by
  obtain ⟨root, hroot, hclean, rfl⟩ := hst.eq_root
  have hread := readStateDict_of_root hroot
  have hm := clean_erase_deviceId hclean
  obtain ⟨hclean', htable'⟩ := stands_updateRow hp hm
    (f := (·.set "device_id" (.str c.deviceId)))
    (fun row hrow => hrow.set (by decide) (representable_str _)) rfl
  rw [fieldsOf_set, Json.byValue_str, ← own_tableOf, tableOf_erase_deviceId]
    at htable'
  simp only [persistDeviceId, PersistEnv.success, hread, Option.getD_some]
  rw [(stateFile_writeStateDict _ .done).1]
  refine ⟨_, rfl, clean_erase_deviceId hclean', ?_⟩
  rw [persistRoot, tableOf_erase_deviceId]
  exact htable'

end Operations

/-! ## Reading the cache entry -/

section Reading

variable {row : Row}

theorem rowLastSuccessTs_eq (hrow : SoundRow row)
    (hfs : ∀ v, fieldsOf row "last_success_at" = some v →
      ∃ q, v = ofNumber q) :
    rowLastSuccessTs row = (fieldsOf row).lastSuccess.map .fin := by
  rw [rowLastSuccessTs, Fields.lastSuccess, fieldsOf] at *
  cases hv : row.get "last_success_at" with
  | none => rfl
  | some v =>
      rw [hv, Option.map_some] at hfs
      obtain ⟨q, hq⟩ := hfs _ rfl
      have hexact := (hrow.representable _ v hv).exact
      have hfloat : Python.float v = .ok (.fin q) := by
        rcases number_cases hexact hq with ⟨n, rfl, rfl, hn⟩ | rfl
        · exact Python.float_int hn
        · rfl
      have hnull : v ≠ .null := by
        rintro rfl
        contradiction
      rw [Option.map_some, hq, ofNumber]
      simp only [hfloat, Double.isPos, decide_eq_true_eq]
      split <;> rfl

theorem storedCount_eq (hrow : SoundRow row) (hfs : (fieldsOf row).Proper) :
    storedCount row = .ok (fieldsOf row).count := by
  have hcount := hfs.count
  rw [storedCount, Fields.count, fieldsOf] at *
  cases hv : row.get "heartbeat_times" with
  | none => rfl
  | some v =>
      rw [hv, Option.map_some] at hcount
      obtain ⟨m, -, hm⟩ := hcount _ rfl
      have hexact := (hrow.representable _ v hv).exact
      rw [Option.map_some, hm, ofNumber]
      simp only [Int.floor_intCast]
      rcases number_cases hexact hm with ⟨n, rfl, hn, -⟩ | rfl
      · rw [Int.cast_inj.mp hn]
        rfl
      · simp [Python.int]

/-- The row of the product that is read. -/
theorem rowOf_erase (hclean : Clean root) :
    fieldsOf ((c.rowOf (some (root.erase "device_id"))).getD .empty) =
        (tableOf root).own c.softwareName ∧
      ∀ row, c.rowOf (some (root.erase "device_id")) = some row →
        SoundRow row ∧ (root.erase "device_id").isEmpty = false := by
  have hown := own_tableOf (root.erase "device_id") c.softwareName
  rw [tableOf_erase_deviceId] at hown
  rw [← ownRow_eq, hown, ownRow]
  constructor
  · cases hload : (loadAppsMap (root.erase "device_id")).get
        c.softwareName with
    | none => rfl
    | some row =>
        rw [Option.getD_some, erase_software_name_of_get_loadAppsMap hload]
  · intro row hrow
    rw [rowOf] at hrow
    split at hrow
    · contradiction
    next hempty =>
      refine ⟨?_, Bool.eq_false_iff.mpr hempty⟩
      split at hrow
      · contradiction
      next hload =>
        split at hrow
        · contradiction
        · obtain rfl := Option.some.inj hrow
          exact (clean_erase_deviceId hclean).soundRow hload

theorem cacheDictFromRow_erase (hclean : Clean root)
    (hfs : ∀ v, (tableOf root).own c.softwareName "last_success_at" = some v →
      ∃ q, v = ofNumber q) :
    (cacheDictFromRow (c.rowOf (some (root.erase "device_id")))).map
        CacheData.cachedAt =
      ((tableOf root).own c.softwareName).lastSuccess.map .fin := by
  obtain ⟨hown, hsound⟩ := rowOf_erase (c := c) hclean
  rw [← hown] at hfs ⊢
  cases hrow : c.rowOf (some (root.erase "device_id")) with
  | none => simp [cacheDictFromRow, Fields.lastSuccess, Fields.empty]
  | some row =>
      rw [hrow, Option.getD_some] at hfs
      rw [cacheDictFromRow, Option.bind_some, Option.getD_some,
        rowLastSuccessTs_eq (hsound row hrow).1 hfs]
      cases (fieldsOf row).lastSuccess <;> rfl

theorem getCache_of_root (h : stateFile P c.serverUrl st = .root root) :
    c.getCache P .success st =
      (st, cacheDictFromRow (c.rowOf (some (root.erase "device_id")))) := by
  rw [getCache, readRow, readStateDict_of_root h]

theorem isCacheValid_of_root (h : stateFile P c.serverUrl st = .root root)
    (now : ℚ) :
    c.isCacheValid P .success now st =
      (st, c.isCacheValidDict now
        (cacheDictFromRow (c.rowOf (some (root.erase "device_id"))))) := by
  rw [isCacheValid, getCache_of_root h]

/-- A check starts from the entry and the count of the table. -/
theorem snapshotAuthRow_spec (hp : c.product.Ordinary)
    (hst : Stands (stateFile P c.serverUrl st) T)
    (hfs : (T.own c.softwareName).Proper) :
    ∃ cache, (c.snapshotAuthRow P .success st).2 =
        .ok (cache, (c.product.snapshot T).2.2) ∧
      cache.map CacheData.cachedAt = (c.product.snapshot T).2.1.map .fin ∧
      Stands (stateFile P c.serverUrl (c.snapshotAuthRow P .success st).1)
        (c.product.snapshot T).1 := by
  obtain ⟨root, hroot, hclean, rfl⟩ := hst.eq_root
  obtain ⟨hown, hsound⟩ := rowOf_erase (c := c) hclean
  have hname : (tableOf root).own c.product.name =
      (tableOf root).own c.softwareName := rfl
  have hread := readStateDict_of_root hroot
  simp only [snapshotAuthRow, readRow, SnapshotEnv.success, hread,
    Product.snapshot, hname]
  rw [← hown] at hfs ⊢
  cases hrow : c.rowOf (some (root.erase "device_id")) with
  | none => exact ⟨none, rfl, rfl, hst⟩
  | some row =>
      rw [hrow, Option.getD_some] at hfs
      obtain ⟨hsoundRow, hempty⟩ := hsound row hrow
      have hclear := stands_clearCache hp hroot hclean hempty
      have hts := rowLastSuccessTs_eq hsoundRow hfs.lastSuccess
      rw [Option.getD_some]
      simp only [hts, storedCount_eq hsoundRow hfs]
      cases hlast : (fieldsOf row).lastSuccess with
      | none => exact ⟨none, rfl, rfl, hst⟩
      | some ts =>
          simp only [Option.map_some, reduceCtorEq, if_false]
          by_cases hlt : (fieldsOf row).count < 1
          · simp only [hlt, if_true]
            exact ⟨none, rfl, rfl, hclear⟩
          · simp only [hlt, if_false]
            refine ⟨_, rfl, ?_, hst⟩
            rw [cacheDictFromRow, Option.bind_some, hts, hlast]
            rfl

theorem isCacheValidDict_eq {now : ℚ} {cache : Option CacheData}
    {entry : Option ℚ} (hentry : cache.map CacheData.cachedAt =
      entry.map .fin) (hpos : ∀ ts, entry = some ts → 0 < ts) :
    c.isCacheValidDict now cache = c.product.isValid now entry := by
  cases cache with
  | none =>
      rw [Option.map_none, eq_comm, Option.map_eq_none_iff] at hentry
      rw [hentry]
      rfl
  | some cache =>
      rw [Option.map_some, eq_comm, Option.map_eq_some_iff] at hentry
      obtain ⟨ts, rfl, hts⟩ := hentry
      have hnot : ¬ ts ≤ 0 := not_le.mpr (hpos ts rfl)
      rw [isCacheValidDict, ← hts]
      simp only [hnot, if_false]
      rfl

end Reading

end AuthCache

/-! ## Checks -/

/-- A full heartbeat of a client.  It ends as it ends, whatever its number. -/
def AuthClient.reply (cl : AuthClient) (online : Online) : Sdk.Reply :=
  ⟨answerOf (cl.checkOnline 0 online).2.2,
    infoOf (cl.checkOnline 0 online).1.deviceInfo⟩

/-- A light heartbeat of a client. -/
def AuthClient.lightReply (cl : AuthClient) (light : Answer) : Sdk.Reply :=
  ⟨answerOf light.toResult, infoOf cl.deviceInfo⟩

/-- What an authorisation stores is stored as it is. -/
def AuthClient.StorableReply (cl : AuthClient) (online : Online) : Prop :=
  (cl.reply online).answer = some true →
    Storable (cl.checkOnline 0 online).1.deviceInfo

/-- A check leaves the table and returns the verdict of the machine. -/
structure Checked.Refines (P : Primitives β) (url : String)
    (out : Checked β) (abstract : Table × Verdict) : Prop where
  file : Stands (stateFile P url out.storage) abstract.1
  verdict : verdictOf out.result = abstract.2

section Checks

variable {cl : AuthClient}

theorem verdictOf_checkOnline (cl : AuthClient) (times : ℤ)
    (online : Online) :
    verdictOf (cl.checkOnline times online).2.2 =
      match (cl.reply online).answer with
      | some authorized => ⟨authorized, true, false⟩
      | none => ⟨false, false, false⟩ := by
  cases online with
  | abandoned collected message => cases collected <;> rfl
  | posted collected publicIp answer => exact verdictOf_toResult answer

/-- Storing an answer. -/
theorem stands_writeCheckCacheRetries (cl : AuthClient)
    (hp : cl.cache.product.Ordinary)
    (hst : Stands (stateFile P cl.cache.serverUrl st) T) (authorized : Bool)
    {times : ℤ} (now : ℚ) (hinfo : authorized = true → Storable cl.deviceInfo)
    (htimes : authorized = true → 0 ≤ times ∧ times ≤ 2 ^ 53) :
    Stands (stateFile P cl.cache.serverUrl
        (cl.writeCheckCacheRetries P authorized times (.success now) st).1)
      (cl.cache.product.save T authorized now times
        (infoOf cl.deviceInfo)) := by
  rw [writeCheckCacheRetries_success]
  exact AuthCache.stands_saveCache hp hst authorized now hinfo htimes

/-- A full heartbeat which was answered. -/
theorem answered_refines (hp : cl.cache.product.Ordinary)
    (hst : Stands (stateFile P cl.cache.serverUrl st) T) {times : ℤ}
    {online : Online} (saveAt : ℚ) (hinfo : cl.StorableReply online)
    (htimes : (cl.reply online).answer = some true →
      0 ≤ times ∧ times ≤ 2 ^ 53)
    {authorized : Bool} (hanswer : (cl.reply online).answer = some authorized)
    (cached : Bool) (sent : List Heartbeat) :
    Checked.Refines P cl.cache.serverUrl
      ⟨(cl.checkOnline times online).1,
        ((cl.checkOnline times online).1.writeCheckCacheRetries P
          (cl.checkOnline times online).2.2.authorized times
          (.success saveAt) st).1,
        (cl.checkOnline times online).2.2, sent⟩
      (cl.cache.product.online T times cached (cl.reply online) saveAt) := by
  obtain ⟨hclient, hresult⟩ := cl.checkOnline_times 0 times online
  have hcache := (cl.checkOnline_spec times online).1
  have hverdict := verdictOf_checkOnline cl times online
  have hreply : answerOf (cl.checkOnline times online).2.2 =
      some authorized := by
    rw [← hresult]
    exact hanswer
  have hauth := (answerOf_eq_some.mp hreply).2
  have hreplyInfo : (cl.reply online).info =
      infoOf (cl.checkOnline times online).1.deviceInfo := by
    rw [← hclient]
    rfl
  have hstorable : authorized = true →
      Storable (cl.checkOnline times online).1.deviceInfo := by
    rintro rfl
    rw [← hclient]
    exact hinfo hanswer
  have hst' : Stands (stateFile P
      (cl.checkOnline times online).1.cache.serverUrl st) T :=
    hcache.symm ▸ hst
  have hstands := stands_writeCheckCacheRetries
    (cl.checkOnline times online).1 (hcache.symm ▸ hp) hst' authorized saveAt
    hstorable (fun h => htimes (h ▸ hanswer))
  rw [hanswer] at hverdict
  rw [Product.online, hanswer, hreplyInfo]
  rw [hcache] at hstands
  exact ⟨hauth.symm ▸ hstands, hverdict⟩

/-- A full heartbeat with the cache entry to fall back on. -/
theorem online_refines (hp : cl.cache.product.Ordinary)
    (hst : Stands (stateFile P cl.cache.serverUrl st) T) {times : ℤ}
    {online : Online} (saveAt : ℚ) (hinfo : cl.StorableReply online)
    (htimes : (cl.reply online).answer = some true →
      0 ≤ times ∧ times ≤ 2 ^ 53) (cached : Option CacheData) :
    (cl.onlineOrCached P times cached online (.success saveAt) st).Refines P
      cl.cache.serverUrl
      (cl.cache.product.online T times cached.isSome (cl.reply online)
        saveAt) := by
  obtain ⟨-, hresult⟩ := cl.checkOnline_times 0 times online
  have hverdict := verdictOf_checkOnline cl times online
  rw [AuthClient.onlineOrCached]
  cases hanswer : (cl.reply online).answer with
  | some authorized =>
      have hreply : answerOf (cl.checkOnline times online).2.2 =
          some authorized := by
        rw [← hresult]
        exact hanswer
      have hsuccess := (answerOf_eq_some.mp hreply).1
      simp only [hsuccess, if_true]
      exact answered_refines hp hst saveAt hinfo htimes hanswer _ _
  | none =>
      have hreply : answerOf (cl.checkOnline times online).2.2 = none := by
        rw [← hresult]
        exact hanswer
      have hsuccess := answerOf_eq_none.mp hreply
      simp only [hsuccess, Bool.false_eq_true, if_false, Product.online,
        hanswer]
      rw [hanswer] at hverdict
      cases cached with
      | none => exact ⟨hst, hverdict⟩
      | some cache => exact ⟨hst, rfl⟩

/-- The cache entry a check may fall back on. -/
theorem isSome_cached (c : AuthCache) (now : ℚ) {cache : Option CacheData}
    {entry : Option ℚ} (hentry : cache.map CacheData.cachedAt =
      entry.map .fin) (hpos : ∀ ts, entry = some ts → 0 < ts) :
    (if c.isCacheValidDict now cache then cache else none).isSome =
      c.product.isValid now entry := by
  rw [← AuthCache.isCacheValidDict_eq hentry hpos]
  cases cache with
  | none => rfl
  | some cache => cases h : c.isCacheValidDict now (some cache) <;> rfl

theorem checkAuthorization_refines (hp : cl.cache.product.Ordinary)
    (hst : Stands (stateFile P cl.cache.serverUrl st) T)
    (hfs : (T.own cl.cache.softwareName).Proper) (testAt : ℚ)
    {online : Online} (saveAt : ℚ) (hinfo : cl.StorableReply online) :
    (cl.checkAuthorization P (.success testAt online saveAt) st).Refines P
      cl.cache.serverUrl
      (cl.cache.product.check T testAt (cl.reply online) saveAt) := by
  obtain ⟨cache, hresult, hentry, hstands⟩ :=
    AuthCache.snapshotAuthRow_spec hp hst hfs
  have hbounds := Product.snapshot_count_bounds (p := cl.cache.product) hfs
  have hstart : cl.checkSnapshot P .success st =
      ((cl.cache.snapshotAuthRow P .success st).1, cache,
        (cl.cache.product.snapshot T).2.2) := by
    rw [AuthClient.checkSnapshot, ← Prod.eta
      (cl.cache.snapshotAuthRow P .success st), hresult]
  rw [AuthClient.checkAuthorization, CheckEnv.success, Product.check, hstart]
  dsimp only
  rw [← isSome_cached cl.cache testAt hentry
    fun _ => Product.snapshot_entry_pos]
  exact online_refines hp hstands saveAt hinfo (fun _ => hbounds) _

/-- The second heartbeat of a progressive check falls back on the entry which
is then in the file. -/
theorem completeLight_refines (hp : cl.cache.product.Ordinary)
    (hst : Stands (stateFile P cl.cache.serverUrl st) T)
    (hfs : ∀ v, T.own cl.cache.softwareName "last_success_at" = some v →
      ∃ q, v = ofNumber q) (times : ℤ) (testAt : ℚ) (light : Answer)
    (saveLightAt : ℚ) {full : Online} (saveFullAt retestAt : ℚ)
    (hinfo : cl.StorableReply full)
    (htimes : (cl.reply full).answer = some true →
      0 ≤ times ∧ times ≤ 2 ^ 53) :
    (cl.completeLight P times (.success testAt light saveLightAt full
        saveFullAt retestAt) st).Refines P cl.cache.serverUrl
      (cl.cache.product.online T times
        (cl.cache.product.isValid retestAt
          (T.own cl.cache.softwareName).lastSuccess)
        (cl.reply full) saveFullAt) := by
  obtain ⟨-, hresult⟩ := cl.checkOnline_times 0 times full
  have hcache := (cl.checkOnline_spec times full).1
  have hverdict := verdictOf_checkOnline cl times full
  rw [AuthClient.completeLight]
  simp only [ProgressiveEnv.success]
  cases hanswer : (cl.reply full).answer with
  | some authorized =>
      have hreply : answerOf (cl.checkOnline times full).2.2 =
          some authorized := by
        rw [← hresult]
        exact hanswer
      have hsuccess := (answerOf_eq_some.mp hreply).1
      simp only [hsuccess, if_true]
      exact answered_refines hp hst saveFullAt hinfo htimes hanswer _ _
  | none =>
      have hreply : answerOf (cl.checkOnline times full).2.2 = none := by
        rw [← hresult]
        exact hanswer
      have hsuccess := answerOf_eq_none.mp hreply
      rw [hanswer] at hverdict
      obtain ⟨root, hroot, hclean, rfl⟩ := hst.eq_root
      have hentry := AuthCache.cacheDictFromRow_erase hclean hfs
      have hvalid : cl.cache.isCacheValidDict retestAt _ = _ :=
        AuthCache.isCacheValidDict_eq hentry
          fun _ => Product.lastSuccess_pos
      have hget := AuthCache.getCache_of_root hroot
      have hretest := AuthCache.isCacheValid_of_root hroot retestAt
      rw [Product.online, hanswer, ← hvalid]
      simp only [hsuccess, Bool.false_eq_true, if_false, hcache, hget]
      cases hrecord : AuthCache.cacheDictFromRow
          (cl.cache.rowOf (some (root.erase "device_id"))) with
      | none => exact ⟨hst, hverdict⟩
      | some cache =>
          dsimp only
          rw [hretest, hrecord]
          dsimp only
          cases cl.cache.isCacheValidDict retestAt (some cache) with
          | true => exact ⟨hst, rfl⟩
          | false => exact ⟨hst, hverdict⟩

theorem checkAuthorizationProgressive_refines
    (hp : cl.cache.product.Ordinary)
    (hst : Stands (stateFile P cl.cache.serverUrl st) T)
    (hfs : (T.own cl.cache.softwareName).Proper) (testAt : ℚ)
    {light : Answer} (saveLightAt : ℚ) {full : Online}
    (saveFullAt retestAt : ℚ)
    (hinfo : (cl.lightReply light).answer = some true →
      Storable cl.deviceInfo)
    (hfullInfo : cl.StorableReply full)
    (hcount : (cl.lightReply light).answer = some true →
      (cl.reply full).answer = some true →
        (T.own cl.cache.softwareName).count + 2 ≤ 2 ^ 53) :
    (cl.checkAuthorizationProgressive P (.success testAt light saveLightAt
        full saveFullAt retestAt) st).Refines P cl.cache.serverUrl
      (cl.cache.product.progressive T testAt (cl.lightReply light)
        saveLightAt (cl.reply full) saveFullAt retestAt) := by
  obtain ⟨cache, hresult, hentry, hstands⟩ :=
    AuthCache.snapshotAuthRow_spec hp hst hfs
  have hbounds := Product.snapshot_count_bounds (p := cl.cache.product) hfs
  have hle := Product.snapshot_count_le (p := cl.cache.product) (T := T)
  have hname : (T.own cl.cache.product.name).count =
      (T.own cl.cache.softwareName).count := rfl
  have hstart : cl.checkSnapshot P .success st =
      ((cl.cache.snapshotAuthRow P .success st).1, cache,
        (cl.cache.product.snapshot T).2.2) := by
    rw [AuthClient.checkSnapshot, ← Prod.eta
      (cl.cache.snapshotAuthRow P .success st), hresult]
  have hverdict := verdictOf_toResult light
  have hreply : (cl.lightReply light).answer = answerOf light.toResult := rfl
  rw [AuthClient.checkAuthorizationProgressive, Product.progressive]
  simp only [ProgressiveEnv.success, hstart, AuthClient.checkOnlineFast]
  cases hanswer : answerOf light.toResult with
  | none =>
      have hsuccess := answerOf_eq_none.mp hanswer
      simp only [hsuccess, Bool.false_eq_true, if_false, hreply, hanswer]
      rw [← isSome_cached cl.cache testAt hentry
        fun _ => Product.snapshot_entry_pos]
      have honline := online_refines hp hstands saveFullAt hfullInfo
        (fun _ => hbounds) (if cl.cache.isCacheValidDict testAt cache then
          cache else none)
      exact ⟨honline.file, honline.verdict⟩
  | some authorized =>
      obtain ⟨hsuccess, hlight⟩ := answerOf_eq_some.mp hanswer
      rw [hanswer] at hverdict hreply
      rw [hreply] at hinfo hcount
      have hsaved := stands_writeCheckCacheRetries cl hp hstands authorized
        saveLightAt (fun h => hinfo (h ▸ rfl)) (fun _ => hbounds)
      simp only [hsuccess, hlight, if_true, hreply]
      cases authorized with
      | false => exact ⟨hsaved, hverdict⟩
      | true =>
          have hcomplete := completeLight_refines
            hp hsaved (fun v => Product.ofNumber_save_true)
            ((cl.cache.product.snapshot T).2.2 + 1 + 1) testAt light
            saveLightAt saveFullAt retestAt hfullInfo
            (fun h => by have := hcount rfl h; omega)
          simp only [if_true]
          exact ⟨hcomplete.file, hcomplete.verdict⟩

end Checks

end

end PyAuth.Client
