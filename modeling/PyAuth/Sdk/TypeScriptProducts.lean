import PyAuth.Sdk.Tables
import PyAuth.TypeScript.AuthClient

/-!
# The TypeScript SDK keeps the table

On a disk which does not fail the operations of the TypeScript SDK do to the
table in the file what the table machine does, and its checks return the same
verdicts.
-/

namespace PyAuth.TypeScript

open Support Client Sdk

section

variable {root : Root} {T : Table} {file : StateFile}

/-! ## Texts -/

theorem stringify_eq_self {v : Json}
    (h : v.asDoubles.allNumbers Json.finiteNumber = true) :
    stringify v = v := by
  apply Json.mapNumbers_eq_self _ v h
  intro x hx
  rw [if_pos hx]

theorem mapValues_stringify {d : Dict String Json}
    (h : ∀ k v, d.get k = some v →
      v.asDoubles.allNumbers Json.finiteNumber = true) :
    d.mapValues stringify = d := by
  apply Dict.ext
  rw [Dict.mapValues]
  dsimp only
  conv_rhs => rw [← List.map_id d.entries]
  apply List.map_congr_left
  rintro ⟨k, v⟩ hmem
  exact congrArg (Prod.mk k)
    (stringify_eq_self (h k v (Dict.get_eq_some_iff.mpr hmem)))

theorem jsonCopy_eq {info : Dict String Json} (h : Storable info) :
    jsonCopy info = info.mapValues Json.asDoubles := by
  have hfinite : ∀ k v, info.get k = some v →
      v.asDoubles.allNumbers Json.finiteNumber = true := by
    have hall := h.representable.finite
    rw [Json.asDoubles_ofDict, Json.allNumbers_ofDict] at hall
    intro k v hk
    exact hall k _ (by rw [Dict.get_mapValues, hk, Option.map_some])
  have hcopy : jsonCopy info =
      (info.mapValues stringify).mapValues Json.asDoubles :=
    Dict.ext (by simp [jsonCopy, Dict.mapValues])
  rw [hcopy, mapValues_stringify hfinite]

theorem storable_asDoubles {info : Dict String Json} (h : Storable info) :
    Storable (info.mapValues Json.asDoubles) ∧
      infoOf (info.mapValues Json.asDoubles) = infoOf info := by
  have heq := h.asDoubles_eq
  refine ⟨⟨?_, ?_⟩, ?_⟩
  · rw [← Json.asDoubles_ofDict]
    exact h.representable.asDoubles
  · have hnonempty := h.nonempty
    rw [Bool.eq_false_iff, ne_eq, Dict.isEmpty_iff] at hnonempty ⊢
    intro hempty
    apply hnonempty
    apply Dict.ext
    simpa [Dict.mapValues, Dict.empty] using congrArg Dict.entries hempty
  · rw [infoOf, heq, infoOf, Json.byValue_byValue]

theorem readStateDict_root (root : Root) :
    readStateDict true (.root root) = some (readRoot root) := rfl

namespace AuthCache

variable {c : AuthCache}

/-- The product of a cache. -/
def product (c : AuthCache) : Product :=
  ⟨c.softwareName, c.deviceId, c.cacheValiditySeconds⟩

/-! ## Rows -/

section Rows

variable {row : Row} {authorized : Bool} {now : ℚ} {hb : Option Double}
  {times : ℤ} {info : Dict String Json}

theorem fieldsOf_clearedRow (c : AuthCache) (row : Row) :
    fieldsOf (c.clearedRow row) = c.product.cleared (fieldsOf row) := by
  rw [clearedRow, fieldsOf_set, fieldsOf_eraseAll]
  rfl

theorem soundRow_clearedRow (hrow : SoundRow row) :
    SoundRow (c.clearedRow row) :=
  (hrow.eraseAll _).set (by decide) (representable_str _)

theorem fieldsOf_savedRow (hinfo : Storable info) :
    fieldsOf (c.savedRow true now (some (.fin times)) (some info) row) =
      c.product.granted now times (infoOf info) (fieldsOf row) := by
  simp only [savedRow, if_true, jsonCopy_eq hinfo, fieldsOf_set,
    hinfo.asDoubles_eq, infoOf, Json.byValue_str, Json.byValue_float,
    Json.byValue_byValue]
  rfl

theorem soundRow_savedRow (hrow : SoundRow row) (hinfo : Storable info) :
    SoundRow (c.savedRow true now (some (.fin times)) (some info) row) := by
  have hrep : Representable (.ofDict (jsonCopy info)) := by
    rw [jsonCopy_eq hinfo, ← Json.asDoubles_ofDict]
    exact hinfo.representable.asDoubles
  exact (((hrow.set (by decide) (representable_str _)).set (by decide)
    (representable_float _)).set (by decide)
      (representable_float _)).set (by decide) hrep

end Rows

/-! ## Operations -/

section Operations

/-- Committing the changed row of a product, and writing the text. -/
theorem stands_write (hp : c.product.Ordinary) {m : Root} (hm : Clean m)
    {f : Row → Row} (hf : ∀ row, SoundRow row → SoundRow (f row))
    {fs : Fields}
    (hfs : fieldsOf (f (((Client.loadAppsMap m).get
      c.softwareName).getD .empty)) = fs) :
    Stands (writeStateDictWithRetry (commitAppsMap m (c.updateApps m f))
      .success file).1 ((tableOf m).store c.softwareName fs) := by
  have hload := hm.loads_typeScript
  have hrewritten := rewritten_updateApps_typeScript c hm.noProto hp.noProto f
  rw [hm.load_eq hload] at hrewritten hload
  have hrow := hf _ (hm.soundRow_own c.softwareName)
  have hclean := clean_rewritten hm hload hp.key hp.trimsAlike hp.noProto hrow
    hrewritten
  rw [writeStateDictWithRetry, mapValues_stringify hclean.finite]
  refine ⟨_, rfl, hclean, ?_⟩
  rw [tableOf_rewritten hm hload hp.key hrow hrewritten, hfs]
  rfl

/-- The table is the same without the stray keys of the root. -/
theorem clean_eraseStray (hclean : Clean root) :
    Clean ((readRoot root).eraseAll bundleRootStrayKeys) ∧
      tableOf ((readRoot root).eraseAll bundleRootStrayKeys) =
        tableOf root := by
  refine ⟨clean_eraseAll (clean_readRoot hclean) (by decide), ?_⟩
  rw [tableOf_eraseAll (by decide), tableOf_readRoot hclean]

theorem stands_saveCache (hp : c.product.Ordinary) (hfile : Stands file T)
    {now : ℚ} {authorized : Bool} {hb : Double} {times : ℤ}
    {info : Dict String Json} {stored : Json}
    (hinfo : authorized = true → Storable info ∧ infoOf info = stored)
    (hhb : authorized = true → hb = .fin times) :
    Stands (c.saveCache authorized (if authorized then some hb else none)
        (if authorized then some info else none) (.success now) file).1
      (c.product.save T authorized now times stored) := by
  obtain ⟨root, rfl, hclean, rfl⟩ := hfile.eq_root
  obtain ⟨hm, htable⟩ := clean_eraseStray hclean
  have hown := own_tableOf ((readRoot root).eraseAll bundleRootStrayKeys)
    c.softwareName
  rw [htable] at hown
  rw [saveCache, SaveEnv.success, readStateDict_root, Option.getD_some,
    Product.save, ← htable]
  cases authorized with
  | false =>
      refine stands_write hp hm (fun row hrow => soundRow_clearedRow hrow) ?_
      rw [fieldsOf_clearedRow, ← hown, htable]
      rfl
  | true =>
      obtain ⟨hstorable, rfl⟩ := hinfo rfl
      obtain rfl := hhb rfl
      refine stands_write hp hm
        (fun row hrow => soundRow_savedRow hrow hstorable) ?_
      rw [fieldsOf_savedRow hstorable, ← hown, htable]
      rfl

theorem stands_clearCache (hp : c.product.Ordinary) (hfile : Stands file T) :
    Stands (c.clearCache .success file).1 (c.product.clear T) := by
  obtain ⟨root, rfl, hclean, rfl⟩ := hfile.eq_root
  obtain ⟨hm, htable⟩ := clean_eraseStray hclean
  have hown := own_tableOf ((readRoot root).eraseAll bundleRootStrayKeys)
    c.softwareName
  rw [htable] at hown
  have hname : c.softwareName ≠ "__proto__" := hp.noProto
  have hany : ∀ m, anyAppHasDevice (c.updateApps m c.clearedRow) = true := by
    intro m
    have hget : (c.updateApps m c.clearedRow).own.get c.softwareName =
        some (c.clearedRow (c.ownRow (loadAppsMap m))) := by
      rw [updateApps, Apps.assign, if_neg hname]
      exact Dict.get_set_self _ _ _
    rw [anyAppHasDevice, List.any_eq_true]
    refine ⟨_, Dict.get_eq_some_iff.mp hget, ?_⟩
    have hdevice : trim c.deviceId ≠ "" := hp.device.2.2
    simp [rowDeviceId, clearedRow, hdevice]
  rw [clearCache, ClearEnv.success, readStateDict_root, Product.clear,
    ← htable]
  simp only [hany, if_true]
  refine stands_write hp hm (fun row hrow => soundRow_clearedRow hrow) ?_
  rw [fieldsOf_clearedRow, ← hown, htable]
  rfl

theorem stands_persistDeviceId (hp : c.product.Ordinary)
    (hfile : Stands file T) :
    Stands (c.persistDeviceId .success file).1 (c.product.persist T) := by
  obtain ⟨root, rfl, hclean, rfl⟩ := hfile.eq_root
  obtain ⟨hm, htable⟩ := clean_eraseStray hclean
  have hown := own_tableOf ((readRoot root).eraseAll bundleRootStrayKeys)
    c.softwareName
  rw [htable] at hown
  rw [persistDeviceId, PersistEnv.success, readStateDict_root,
    Option.getD_some, Product.persist, ← htable]
  refine stands_write hp hm
    (fun row hrow => hrow.set (by decide) (representable_str _)) ?_
  rw [fieldsOf_set, Json.byValue_str, ← hown, htable]
  rfl

end Operations

/-! ## Reading the cache entry -/

section Reading

variable {row : Row} {fs : Fields}

theorem rowLastSuccessTs_eq (hget : row.get = fs)
    (hfs : ∀ v, fs "last_success_at" = some v → ∃ q, v = ofNumber q) :
    rowLastSuccessTs row = fs.lastSuccess := by
  rw [rowLastSuccessTs, Fields.lastSuccess, hget]
  cases hv : fs "last_success_at" with
  | none => rfl
  | some v =>
      obtain ⟨q, rfl⟩ := hfs v hv
      rfl

theorem storedCount_cases (hfs : fs.Proper) :
    ∃ n, storedCount (fs "heartbeat_times") = some n ∧
      ((isCount n = false ∧ fs.count < 1) ∨
        (n = .fin fs.count ∧ isCount n = decide (1 ≤ fs.count))) := by
  rw [Fields.count]
  cases hv : fs "heartbeat_times" with
  | none => exact ⟨.nan, rfl, Or.inl ⟨rfl, by norm_num⟩⟩
  | some v =>
      obtain ⟨n, -, rfl⟩ := hfs.count v hv
      simp only [ofNumber, storedCount, Int.floor_intCast]
      refine ⟨_, rfl, Or.inr ⟨rfl, ?_⟩⟩
      rw [isCount, decide_eq_decide]
      exact_mod_cast Iff.rfl

/-- The row of the product that is read. -/
theorem rowOf_readRoot (hname : c.softwareName ≠ "__proto__")
    (hclean : Clean root) :
    (c.rowOf (some (readRoot root))).map fieldsOf =
        tableOf root c.softwareName ∧
      ∀ row ∈ c.rowOf (some (readRoot root)), row.get = fieldsOf row := by
  have hproto := (clean_readRoot hclean).noProto
  have hload := (clean_readRoot hclean).load_eq
    (clean_readRoot hclean).loads_typeScript
  rw [rowOf, Option.bind_some, lookup_typeScript hproto hname, hload]
  constructor
  · rw [← tableOf_readRoot hclean, tableOf]
  · exact fun row hrow => get_of_load_readRoot hrow

theorem cacheRecord_readRoot (hname : c.softwareName ≠ "__proto__")
    (hclean : Clean root)
    (hfs : ∀ v, (tableOf root).own c.softwareName "last_success_at" = some v →
      ∃ q, v = ofNumber q) :
    (cacheRecordFromRow (c.rowOf (some (readRoot root)))).map
        CacheRecord.cachedAt =
      ((tableOf root).own c.softwareName).lastSuccess := by
  obtain ⟨htable, hget⟩ := rowOf_readRoot hname hclean
  rw [Table.own, ← htable] at hfs ⊢
  cases hrow : c.rowOf (some (readRoot root)) with
  | none => rfl
  | some row =>
      rw [hrow, Option.map_some, Option.getD_some] at hfs
      rw [Option.map_some, Option.getD_some, cacheRecordFromRow,
        Option.bind_some, rowLastSuccessTs_eq (hget row hrow) hfs]
      cases (fieldsOf row).lastSuccess <;> rfl

/-- A check starts from the entry and the count of the table. -/
theorem snapshot_spec (hp : c.product.Ordinary) (hfile : Stands file T)
    (hfs : (T.own c.softwareName).Proper) :
    Stands (c.snapshotForAuthorizationCheck .success file).1
        (c.product.snapshot T).1 ∧
      (c.snapshotForAuthorizationCheck .success file).2.1.map
        CacheRecord.cachedAt = (c.product.snapshot T).2.1 ∧
      (c.snapshotForAuthorizationCheck .success file).2.2 =
        .fin (c.product.snapshot T).2.2 := by
  have hclear := stands_clearCache hp hfile
  obtain ⟨root, rfl, hclean, rfl⟩ := hfile.eq_root
  obtain ⟨htable, hget⟩ := rowOf_readRoot (c := c) hp.noProto hclean
  have hown : (tableOf root).own c.product.name =
      (tableOf root).own c.softwareName := rfl
  rw [snapshotForAuthorizationCheck, Product.snapshot, SnapshotEnv.success,
    readStateDict_root, hown]
  rw [Table.own, ← htable] at hfs ⊢
  cases hrow : c.rowOf (some (readRoot root)) with
  | none =>
      rw [Option.map_none, Option.getD_none]
      exact ⟨hfile, rfl, by norm_num [Fields.lastSuccess, Fields.empty]⟩
  | some row =>
      rw [hrow, Option.map_some, Option.getD_some] at hfs
      have hts := rowLastSuccessTs_eq (hget row hrow) hfs.lastSuccess
      simp only [Option.map_some, Option.getD_some, hts,
        congrFun (hget row hrow) "heartbeat_times"]
      cases hlast : (fieldsOf row).lastSuccess with
      | none => exact ⟨hfile, rfl, by norm_num⟩
      | some ts =>
          simp only [reduceCtorEq, if_false]
          obtain ⟨n, hn, hcases⟩ := storedCount_cases hfs
          simp only [hn]
          rcases hcases with ⟨hcount, hlt⟩ | ⟨rfl, hle⟩
          · simp only [hcount, hlt, if_true, Bool.false_eq_true, if_false]
            exact ⟨hclear, rfl, by norm_num⟩
          · rw [hle]
            by_cases hlt : (fieldsOf row).count < 1
            · simp only [hlt, not_le.mpr hlt, if_true, decide_false,
                Bool.false_eq_true, if_false]
              exact ⟨hclear, rfl, by norm_num⟩
            · simp only [hlt, not_lt.mp hlt, decide_true, if_true, if_false]
              refine ⟨hfile, ?_, trivial⟩
              rw [cacheRecordFromRow, Option.bind_some, hts, hlast]
              rfl

theorem isCacheTTLValid_eq {now : ℚ} {cache : Option CacheRecord}
    (hpos : ∀ ts, cache.map CacheRecord.cachedAt = some ts → 0 < ts) :
    c.isCacheTTLValid now cache =
      c.product.isValid now (cache.map CacheRecord.cachedAt) := by
  cases cache with
  | none => rfl
  | some cache =>
      have hlast := hpos _ rfl
      rw [isCacheTTLValid, if_neg hlast.ne']
      rfl

/-- The cache entry a check may fall back on. -/
theorem isSome_cached (c : AuthCache) (now : ℚ) {cache : Option CacheRecord}
    {entry : Option ℚ} (hentry : cache.map CacheRecord.cachedAt = entry)
    (hpos : ∀ ts, entry = some ts → 0 < ts) :
    (if c.isCacheTTLValid now cache then cache else none).isSome =
      c.product.isValid now entry := by
  subst hentry
  rw [← isCacheTTLValid_eq hpos]
  cases cache with
  | none => rfl
  | some cache => cases h : c.isCacheTTLValid now (some cache) <;> rfl

end Reading

end AuthCache

/-! ## Checks -/

/-- A full heartbeat of a client. -/
def AuthClient.reply (cl : AuthClient) (online : Online) : Sdk.Reply :=
  ⟨answerOf (cl.checkOnline online).2,
    infoOf (cl.checkOnline online).1.deviceInfo⟩

/-- A light heartbeat of a client. -/
def AuthClient.lightReply (cl : AuthClient) (light : Answer) : Sdk.Reply :=
  ⟨answerOf light.toResult, infoOf cl.deviceInfo⟩

/-- What an authorisation stores is stored as it is. -/
def AuthClient.StorableReply (cl : AuthClient) (online : Online) : Prop :=
  (cl.reply online).answer = some true →
    Storable (cl.checkOnline online).1.deviceInfo

/-- A check leaves the table and returns the verdict of the machine. -/
structure Checked.Refines (out : Checked) (abstract : Table × Verdict) :
    Prop where
  file : Stands out.file abstract.1
  verdict : verdictOf out.result = abstract.2

section Checks

variable {cl : AuthClient}

theorem cache_checkOnline (online : Online) :
    (cl.checkOnline online).1.cache = cl.cache := by
  cases online with
  | raised message => rfl
  | posted collected publicIp answer =>
      simp only [AuthClient.checkOnline, AuthClient.ensureFullDeviceInfo]
      repeat' split
      all_goals rfl

theorem verdictOf_checkOnline (cl : AuthClient) (online : Online) :
    verdictOf (cl.checkOnline online).2 =
      match (cl.reply online).answer with
      | some authorized => ⟨authorized, true, false⟩
      | none => ⟨false, false, false⟩ := by
  cases online with
  | raised message => rfl
  | posted collected publicIp answer => exact verdictOf_toResult answer

theorem plusOne_fin {n : ℤ} (hnonneg : 0 ≤ n + 1) (hle : n + 1 ≤ 2 ^ 53) :
    plusOne (.fin n) = .fin (n + 1 : ℤ) := by
  rw [plusOne, if_pos (Rat.den_intCast n), Rat.num_intCast,
    ofInt_of_le hnonneg hle]

/-- Storing an answer. -/
theorem stands_persistOnlineResult (cl : AuthClient)
    (hp : cl.cache.product.Ordinary) (hfile : Stands file T)
    (authorized : Bool) {hb : Double} {times : ℤ} (now : ℚ)
    (hinfo : authorized = true → Storable cl.deviceInfo)
    (hhb : authorized = true → hb = .fin times) :
    Stands (cl.persistOnlineResult authorized hb (.success now) file)
      (cl.cache.product.save T authorized now times
        (infoOf cl.deviceInfo)) := by
  apply AuthCache.stands_saveCache hp hfile _ hhb
  intro hauth
  rw [jsonCopy_eq (hinfo hauth)]
  exact storable_asDoubles (hinfo hauth)

/-- A full heartbeat with the cache entry to fall back on. -/
theorem online_refines (hp : cl.cache.product.Ordinary)
    (hfile : Stands file T) {hb : Double} {times : ℤ} {online : Online}
    (saveAt : ℚ) (hinfo : cl.StorableReply online)
    (hhb : (cl.reply online).answer = some true → hb = .fin times)
    {cached : Option CacheRecord}
    (hcached : ∀ cache ∈ cached, cache.authorized = true) :
    (cl.checkOnlineAndPersist hb online (.success saveAt)
      (AuthClient.cachedResult cached) file).Refines
        (cl.cache.product.online T times cached.isSome (cl.reply online)
          saveAt) := by
  have hcache : (cl.checkOnline online).1.cache = cl.cache :=
    cache_checkOnline online
  have hverdict := verdictOf_checkOnline cl online
  have hreply : (cl.reply online).answer =
      answerOf (cl.checkOnline online).2 := rfl
  rw [AuthClient.checkOnlineAndPersist, Product.online]
  cases hanswer : (cl.reply online).answer with
  | some authorized =>
      obtain ⟨hsuccess, hauth⟩ := answerOf_eq_some.mp (hreply ▸ hanswer)
      have hstands := stands_persistOnlineResult (cl.checkOnline online).1
        (hcache.symm ▸ hp) hfile authorized saveAt
        (fun h => hinfo (h ▸ hanswer)) (fun h => hhb (h ▸ hanswer))
      simp only [hsuccess, hauth, if_true]
      rw [hanswer] at hverdict
      rw [hcache] at hstands
      exact ⟨hstands, hverdict⟩
  | none =>
      have hsuccess := answerOf_eq_none.mp (hreply ▸ hanswer)
      simp only [hsuccess, Bool.false_eq_true, if_false]
      rw [hanswer] at hverdict
      refine ⟨hfile, ?_⟩
      cases cached with
      | none => exact hverdict
      | some cache =>
          simp [AuthClient.cachedResult, verdictOf, hcached cache rfl]

theorem authorized_of_cached {c : AuthCache} {now : ℚ}
    {cache : Option CacheRecord}
    (hcache : ∀ r ∈ cache, r.authorized = true) :
    ∀ r ∈ (if c.isCacheTTLValid now cache then cache else none),
      r.authorized = true := by
  intro r hr
  split at hr
  · exact hcache r hr
  · contradiction

theorem authorized_cacheRecordFromRow (row : Option Row) :
    ∀ r ∈ AuthCache.cacheRecordFromRow row, r.authorized = true := by
  intro r hr
  obtain ⟨ts, -, rfl⟩ := Option.map_eq_some_iff.mp hr
  rfl

theorem authorized_snapshot (c : AuthCache) (env : SnapshotEnv)
    (file : StateFile) :
    ∀ r ∈ (c.snapshotForAuthorizationCheck env file).2.1,
      r.authorized = true := by
  intro r hr
  rw [AuthCache.snapshotForAuthorizationCheck] at hr
  split at hr
  · contradiction
  · split at hr
    · contradiction
    · split at hr
      · contradiction
      · split at hr
        · exact authorized_cacheRecordFromRow _ r hr
        · contradiction

theorem checkAuthorization_refines (hp : cl.cache.product.Ordinary)
    (hfile : Stands file T) (hfs : (T.own cl.cache.softwareName).Proper)
    (testAt : ℚ) {online : Online} (saveAt : ℚ)
    (hinfo : cl.StorableReply online) :
    (cl.checkAuthorization (.success testAt online saveAt) file).Refines
      (cl.cache.product.check T testAt (cl.reply online) saveAt) := by
  obtain ⟨hstands, hentry, hcount⟩ :=
    AuthCache.snapshot_spec hp hfile hfs
  have htimes := Product.snapshot_count_bounds (p := cl.cache.product) hfs
  have hpos : ∀ ts, (cl.cache.product.snapshot T).2.1 = some ts → 0 < ts :=
    fun _ => Product.snapshot_entry_pos
  have hauth := authorized_snapshot cl.cache .success file
  rw [AuthClient.checkAuthorization, CheckEnv.success, Product.check]
  dsimp only
  generalize cl.cache.snapshotForAuthorizationCheck .success file = start
    at hstands hentry hcount hauth ⊢
  generalize cl.cache.product.snapshot T = abstract
    at hstands hentry hcount htimes hpos ⊢
  obtain ⟨file', cache, hb⟩ := start
  obtain ⟨T', entry, n⟩ := abstract
  dsimp only at hstands hentry hcount htimes hpos hauth ⊢
  subst hcount
  rw [← AuthCache.isSome_cached cl.cache testAt hentry hpos]
  exact online_refines hp hstands saveAt hinfo
    (fun _ => plusOne_fin htimes.1 htimes.2) (authorized_of_cached hauth)

theorem checkAuthorizationProgressive_refines
    (hp : cl.cache.product.Ordinary) (hfile : Stands file T)
    (hfs : (T.own cl.cache.softwareName).Proper) (testAt : ℚ)
    {light : Answer} (saveLightAt : ℚ) {full : Online}
    (saveFullAt retestAt : ℚ)
    (hinfo : (cl.lightReply light).answer = some true →
      Storable cl.deviceInfo)
    (hfullInfo : cl.StorableReply full)
    (hcount : (cl.lightReply light).answer = some true →
      (cl.reply full).answer = some true →
        (T.own cl.cache.softwareName).count + 2 ≤ 2 ^ 53) :
    (cl.checkAuthorizationProgressive (.success testAt light saveLightAt full
      saveFullAt retestAt) file).Refines
      (cl.cache.product.progressive T testAt (cl.lightReply light)
        saveLightAt (cl.reply full) saveFullAt retestAt) := by
  obtain ⟨hstands, hentry, hcount'⟩ :=
    AuthCache.snapshot_spec hp hfile hfs
  have htimes := Product.snapshot_count_bounds (p := cl.cache.product) hfs
  have hle := Product.snapshot_count_le (p := cl.cache.product) (T := T)
  have hpos : ∀ ts, (cl.cache.product.snapshot T).2.1 = some ts → 0 < ts :=
    fun _ => Product.snapshot_entry_pos
  have hown : (T.own cl.cache.product.name).count =
      (T.own cl.cache.softwareName).count := rfl
  have hauth := authorized_snapshot cl.cache .success file
  rw [AuthClient.checkAuthorizationProgressive, ProgressiveEnv.success,
    Product.progressive]
  dsimp only
  generalize cl.cache.snapshotForAuthorizationCheck .success file = start
    at hstands hentry hcount' hauth ⊢
  generalize cl.cache.product.snapshot T = abstract
    at hstands hentry hcount' htimes hle hpos ⊢
  obtain ⟨file', cache, hb⟩ := start
  obtain ⟨T', entry, n⟩ := abstract
  dsimp only at hstands hentry hcount' htimes hle hpos hauth ⊢
  subst hcount'
  have hnext := plusOne_fin htimes.1 htimes.2
  have hverdict := verdictOf_toResult light
  have hreply : (cl.lightReply light).answer = answerOf light.toResult := rfl
  cases hanswer : answerOf light.toResult with
  | none =>
      have hsuccess := answerOf_eq_none.mp hanswer
      simp only [hsuccess, Bool.false_eq_true, if_false, hreply, hanswer]
      rw [← AuthCache.isSome_cached cl.cache testAt hentry hpos]
      exact online_refines hp hstands saveFullAt hfullInfo (fun _ => hnext)
        (authorized_of_cached hauth)
  | some authorized =>
      obtain ⟨hsuccess, hlight⟩ := answerOf_eq_some.mp hanswer
      rw [hanswer] at hverdict hreply
      rw [hreply] at hinfo hcount
      have hsaved := stands_persistOnlineResult cl hp hstands authorized
        saveLightAt (fun h => hinfo (h ▸ rfl)) (fun _ => hnext)
      simp only [hsuccess, hlight, if_true, hreply]
      cases authorized with
      | false => exact ⟨hsaved, hverdict⟩
      | true =>
          have hname : cl.cache.softwareName ≠ "__proto__" := hp.noProto
          have hproduct : cl.cache.product.name = cl.cache.softwareName := rfl
          have hlightInfo : (cl.lightReply light).info =
              infoOf cl.deviceInfo := rfl
          obtain ⟨root, hroot, hclean, htable⟩ := hsaved.eq_root
          have hentry' : (cl.cache.getCache true (.root root)).map
              CacheRecord.cachedAt = ((tableOf root).own
                cl.cache.softwareName).lastSuccess := by
            rw [AuthCache.getCache, readStateDict_root]
            apply AuthCache.cacheRecord_readRoot hname hclean
            intro v hv
            rw [htable] at hv
            exact Product.ofNumber_save_true hv
          rw [htable] at hentry'
          simp only [if_true]
          rw [hroot] at hsaved ⊢
          rw [hlightInfo, hproduct, ← AuthCache.isSome_cached cl.cache
            retestAt hentry' fun _ => Product.lastSuccess_pos]
          refine online_refines hp hsaved saveFullAt hfullInfo (fun h => ?_)
            (authorized_of_cached (authorized_cacheRecordFromRow _))
          have := hcount rfl h
          rw [hnext]
          exact plusOne_fin (by omega) (by omega)

end Checks

end

end PyAuth.TypeScript
