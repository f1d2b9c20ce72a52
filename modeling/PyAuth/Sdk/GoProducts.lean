import PyAuth.Go.AuthClient
import PyAuth.Sdk.Tables

/-!
# The Go SDK keeps the table

On a disk which does not fail, and in whatever order the maps are visited, the
operations of the Go SDK do to the table in the file what the table machine
does, and its checks return the same verdicts.
-/

namespace PyAuth.Go

open Support Client Sdk

/-! ## A disk which does not fail -/

def ClearEnv.Succeeds (env : ClearEnv) : Prop :=
  env.read.ok = true ∧ env.write = .success

def SnapshotEnv.Succeeds (env : SnapshotEnv) : Prop :=
  env.read.ok = true ∧ env.clear.Succeeds

/-- The save succeeds at the clock reading `now`. -/
def SaveEnv.SucceedsAt (now : ℚ) (env : SaveEnv) : Prop :=
  env.now = now ∧ env.read.ok = true ∧ env.write = .success

def Attempts.SucceedsAt (now : ℚ) (envs : Attempts) : Prop :=
  ∀ env ∈ envs.1, env.SucceedsAt now

theorem Attempts.succeedsAt_success (now : ℚ) (range : Range) :
    (Attempts.success now range).SucceedsAt now := by
  intro env henv
  obtain rfl := List.eq_of_mem_replicate henv
  exact ⟨rfl, rfl, rfl⟩

def PersistEnv.Succeeds (env : PersistEnv) : Prop :=
  env.read.ok = true ∧ env.write = .success

section

variable {root : Root} {range : Range} {T : Table} {file : StateFile}

theorem readStateDict_of_clean {env : ReadEnv} (h : Clean root)
    (hok : env.ok = true) :
    readStateDict env (.root root) = .ok (some (readRoot root)) := by
  have hfinite : (Json.ofDict (root.mapValues Json.asDoubles)).allNumbers
      Json.finiteNumber = true := by
    rw [Json.allNumbers_ofDict]
    intro k v hk
    rw [Dict.get_mapValues, Option.map_eq_some_iff] at hk
    obtain ⟨w, hw, rfl⟩ := hk
    exact h.finite k w hw
  simp only [readStateDict, unmarshal, hok, hfinite, if_true, Option.map_some]
  rfl

theorem readOrNil_of_clean {env : ReadEnv} (h : Clean root)
    (hok : env.ok = true) :
    readOrNil env (.root root) = some (readRoot root) := by
  rw [readOrNil, readStateDict_of_clean h hok]

namespace AuthCache

variable {c : AuthCache}

/-- The product of a cache. -/
def product (c : AuthCache) : Product :=
  ⟨c.softwareName, c.deviceID, c.cacheValiditySeconds⟩

/-! ## Rows -/

section Rows

variable {row : Row} {authorized : Bool} {now : ℚ} {times : ℤ}
  {info : Dict String Json}

theorem fieldsOf_clearedRow (c : AuthCache) (row : Row) :
    fieldsOf (c.clearedRow row) = c.product.cleared (fieldsOf row) := by
  rw [clearedRow, fieldsOf_set, fieldsOf_eraseAll]
  rfl

theorem fieldsOf_savedRow (hinfo : authorized = true → Storable info) :
    fieldsOf (c.savedRow authorized now (if authorized then some times else none)
        (if authorized then some info else none) row) =
      if authorized then c.product.granted now times (infoOf info) (fieldsOf row)
      else c.product.cleared (fieldsOf row) := by
  cases authorized with
  | false => exact fieldsOf_clearedRow c row
  | true =>
      have hstorable := hinfo rfl
      simp only [savedRow, if_true, hstorable.nonempty, Bool.false_eq_true,
        if_false, fieldsOf_set, hstorable.asDoubles_eq, infoOf,
        Json.byValue_str, Json.byValue_float, Json.byValue_int,
        Json.byValue_byValue]
      rfl

theorem soundRow_savedRow (hrow : SoundRow row)
    (hinfo : authorized = true → Storable info)
    (htimes : authorized = true → 0 ≤ times ∧ times ≤ 2 ^ 53) :
    SoundRow (c.savedRow authorized now (if authorized then some times else none)
      (if authorized then some info else none) row) := by
  cases authorized with
  | false =>
      exact (hrow.eraseAll _).set (by decide) (representable_str _)
  | true =>
      have hstorable := hinfo rfl
      obtain ⟨hnonneg, hle⟩ := htimes rfl
      have hrep : Representable (.ofDict (info.mapValues Json.asDoubles)) := by
        rw [← Json.asDoubles_ofDict]
        exact hstorable.representable.asDoubles
      simp only [savedRow, if_true, hstorable.nonempty, Bool.false_eq_true,
        if_false]
      exact (((hrow.set (by decide) (representable_str _)).set (by decide)
        (representable_float _)).set (by decide)
          (representable_int hnonneg hle)).set (by decide) hrep

theorem soundRow_clearedRow (hrow : SoundRow row) :
    SoundRow (c.clearedRow row) :=
  (hrow.eraseAll _).set (by decide) (representable_str _)

end Rows

/-! ## Operations -/

section Operations

variable {m : Root}

/-- The row an operation changes. -/
theorem stands_updateRow (hp : c.product.Ordinary) (hm : Clean m)
    (range : Range) {f : Row → Row}
    (hf : ∀ row, SoundRow row → SoundRow (f row)) :
    Clean (c.updateRow range m f) ∧
      tableOf (c.updateRow range m f) = (tableOf m).store c.softwareName
        (fieldsOf (f (((Client.loadAppsMap m).get
          c.softwareName).getD .empty))) := by
  have hload := hm.loads_go range
  have hrewritten := rewritten_updateRow_go c range m f
  rw [hm.load_eq hload] at hrewritten hload
  have hrow := hf _ (hm.soundRow_own c.softwareName)
  exact ⟨clean_rewritten hm hload hp.key hp.trimsAlike hp.noProto hrow
      hrewritten,
    tableOf_rewritten hm hload hp.key hrow hrewritten⟩

/-- The table is the same without the stray keys of the root. -/
theorem clean_eraseStray (hclean : Clean root) :
    Clean ((readRoot root).eraseAll bundleRootStrayKeys) ∧
      tableOf ((readRoot root).eraseAll bundleRootStrayKeys) =
        tableOf root := by
  refine ⟨clean_eraseAll (clean_readRoot hclean) (by decide), ?_⟩
  rw [tableOf_eraseAll (by decide), tableOf_readRoot hclean]

theorem stands_saveCache (hp : c.product.Ordinary) (hfile : Stands file T)
    {env : SaveEnv} {now : ℚ} (henv : env.SucceedsAt now)
    {authorized : Bool} {times : ℤ} {info : Dict String Json}
    (hinfo : authorized = true → Storable info)
    (htimes : authorized = true → 0 ≤ times ∧ times ≤ 2 ^ 53) :
    Stands (c.saveCache authorized (if authorized then some times else none)
        (if authorized then some info else none) env file).1
        (c.product.save T authorized now times (infoOf info)) ∧
      (c.saveCache authorized (if authorized then some times else none)
        (if authorized then some info else none) env file).2 = true := by
  obtain ⟨root, rfl, hclean, rfl⟩ := hfile.eq_root
  obtain ⟨rfl, hread, hwrite⟩ := henv
  obtain ⟨hm, htable⟩ := clean_eraseStray hclean
  obtain ⟨hclean', htable'⟩ := stands_updateRow hp hm env.read.range
    (f := c.savedRow authorized env.now
      (if authorized then some times else none)
      (if authorized then some info else none))
    fun row hrow => soundRow_savedRow hrow hinfo htimes
  rw [saveCache, readOrNil_of_clean hclean hread, hwrite]
  refine ⟨⟨_, rfl, hclean', ?_⟩, rfl⟩
  rw [Option.getD_some, htable', fieldsOf_savedRow hinfo, ← own_tableOf,
    htable]
  rfl

theorem stands_clearCache (hp : c.product.Ordinary) (hfile : Stands file T)
    {env : ClearEnv} (henv : env.Succeeds) :
    Stands (c.clearCache env file).1 (c.product.clear T) := by
  obtain ⟨root, rfl, hclean, rfl⟩ := hfile.eq_root
  obtain ⟨hread, hwrite⟩ := henv
  obtain ⟨hm, htable⟩ := clean_eraseStray hclean
  obtain ⟨hclean', htable'⟩ := stands_updateRow hp hm env.read.range
    (f := c.clearedRow) fun row hrow => soundRow_clearedRow hrow
  have hany : ∀ apps : AppsMap, anyAppMapHasDeviceID
      (apps.set c.softwareName (c.clearedRow (c.ownRow apps))) = true := by
    intro apps
    rw [anyAppMapHasDeviceID, List.any_eq_true]
    refine ⟨_, Dict.get_eq_some_iff.mp (Dict.get_set_self _ _ _), ?_⟩
    have hdevice : trimSpace c.deviceID ≠ "" := hp.device.2.1
    simp [rowDeviceIDString, clearedRow, hdevice]
  rw [clearCache, readStateDict_of_clean hclean hread, hwrite]
  simp only [hany, if_true]
  refine ⟨_, rfl, hclean', ?_⟩
  change tableOf (c.updateRow env.read.range _ _) = _
  rw [htable', fieldsOf_clearedRow, ← own_tableOf, htable]
  rfl

theorem stands_persistDeviceID (hp : c.product.Ordinary)
    (hfile : Stands file T) {env : PersistEnv} (henv : env.Succeeds) :
    Stands (c.persistDeviceID env file).1 (c.product.persist T) := by
  obtain ⟨root, rfl, hclean, rfl⟩ := hfile.eq_root
  obtain ⟨hread, hwrite⟩ := henv
  obtain ⟨hclean', htable'⟩ := stands_updateRow hp (clean_readRoot hclean)
    env.read.range (f := (·.set "device_id" (.str c.deviceID)))
    fun row hrow => hrow.set (by decide) (representable_str _)
  rw [persistDeviceID, readOrNil_of_clean hclean hread, hwrite]
  refine ⟨_, rfl, clean_erase_deviceId hclean', ?_⟩
  rw [Option.getD_some, tableOf_erase_deviceId, htable', fieldsOf_set, ← own_tableOf,
    tableOf_readRoot hclean, Json.byValue_str]
  rfl

end Operations

/-! ## Reading the cache entry -/

section Reading

variable {row : Row} {fs : Fields}

theorem rowLastSuccessUnix_eq (hget : row.get = fs)
    (hfs : ∀ v, fs "last_success_at" = some v → ∃ q, v = ofNumber q) :
    rowLastSuccessUnix row = fs.lastSuccess := by
  rw [rowLastSuccessUnix, Fields.lastSuccess, hget]
  cases hv : fs "last_success_at" with
  | none => rfl
  | some v =>
      obtain ⟨q, rfl⟩ := hfs v hv
      rfl

theorem intFromJSON_cases (range : Range) (hfs : fs.Proper) :
    (intFromJSON range (fs "heartbeat_times") = none ∧ fs.count < 1) ∨
      intFromJSON range (fs "heartbeat_times") = some fs.count := by
  rw [Fields.count]
  cases hv : fs "heartbeat_times" with
  | none => exact Or.inl ⟨rfl, by norm_num⟩
  | some v =>
      obtain ⟨n, hbound, rfl⟩ := hfs.count v hv
      simp only [ofNumber, intFromJSON, Int.floor_intCast]
      by_cases hn : (0 : ℚ) ≤ n
      · have hlt : (n : ℚ) < 2 ^ 63 := by
          have : n < 2 ^ 63 := by omega
          exact_mod_cast this
        rw [range.toInt_eq _ hn hlt, Int.floor_intCast]
        exact Or.inr (if_pos hn)
      · left
        refine ⟨if_neg hn, ?_⟩
        have : n < 0 := by exact_mod_cast not_le.mp hn
        omega

/-- The row of the product that is read. -/
theorem rowOf_readRoot (hclean : Clean root) (range : Range) :
    (c.rowOf range (some (readRoot root))).map fieldsOf =
        tableOf root c.softwareName ∧
      ∀ row ∈ c.rowOf range (some (readRoot root)), row.get = fieldsOf row := by
  have hload := (clean_readRoot hclean).load_eq
    ((clean_readRoot hclean).loads_go range)
  rw [rowOf, Option.bind_some, hload]
  constructor
  · rw [← tableOf_readRoot hclean, tableOf]
  · exact fun row hrow => get_of_load_readRoot hrow

theorem stateMapToCacheData_readRoot (hclean : Clean root) (range : Range)
    (hfs : ∀ v, (tableOf root).own c.softwareName "last_success_at" = some v →
      ∃ q, v = ofNumber q) :
    ((c.rowOf range (some (readRoot root))).bind
        (stateMapToCacheData range)).map
        CacheData.lastSuccessAt =
      ((tableOf root).own c.softwareName).lastSuccess := by
  obtain ⟨htable, hget⟩ := rowOf_readRoot (c := c) hclean range
  rw [Table.own, ← htable] at hfs ⊢
  cases hrow : c.rowOf range (some (readRoot root)) with
  | none => rfl
  | some row =>
      rw [hrow, Option.map_some, Option.getD_some] at hfs
      rw [Option.bind_some, Option.map_some, Option.getD_some,
        stateMapToCacheData, rowLastSuccessUnix_eq (hget row hrow) hfs]
      cases (fieldsOf row).lastSuccess <;> rfl

/-- A check starts from the entry and the count of the table. -/
theorem snapshotAuthRow_spec (hp : c.product.Ordinary)
    (hfile : Stands file T) (hfs : (T.own c.softwareName).Proper)
    {env : SnapshotEnv} (henv : env.Succeeds) :
    Stands (c.snapshotAuthRow env file).1 (c.product.snapshot T).1 ∧
      (c.snapshotAuthRow env file).2.1.map CacheData.lastSuccessAt =
        (c.product.snapshot T).2.1 ∧
      (c.snapshotAuthRow env file).2.2 = (c.product.snapshot T).2.2 := by
  have hclear := stands_clearCache hp hfile henv.2
  obtain ⟨root, rfl, hclean, rfl⟩ := hfile.eq_root
  obtain ⟨htable, hget⟩ := rowOf_readRoot (c := c) hclean env.read.range
  have hown : (tableOf root).own c.product.name =
      (tableOf root).own c.softwareName := rfl
  rw [snapshotAuthRow, Product.snapshot, readOrNil_of_clean hclean henv.1,
    hown]
  rw [Table.own, ← htable] at hfs ⊢
  cases hrow : c.rowOf env.read.range (some (readRoot root)) with
  | none =>
      rw [Option.map_none, Option.getD_none]
      exact ⟨hfile, rfl, rfl⟩
  | some row =>
      rw [hrow, Option.map_some, Option.getD_some] at hfs
      have hts := rowLastSuccessUnix_eq (hget row hrow) hfs.lastSuccess
      simp only [Option.map_some, Option.getD_some, hts, stateMapToCacheData,
        congrFun (hget row hrow) "heartbeat_times"]
      cases hlast : (fieldsOf row).lastSuccess with
      | none => exact ⟨hfile, rfl, rfl⟩
      | some ts =>
          rcases intFromJSON_cases env.read.range hfs with ⟨hnone, hlt⟩ | hsome
          · simp only [hnone, hlt, if_true, reduceCtorEq, if_false]
            exact ⟨hclear, rfl, trivial⟩
          · simp only [hsome, reduceCtorEq, if_false, Option.map_some]
            by_cases hlt : (fieldsOf row).count < 1
            · simp only [hlt, if_true]
              exact ⟨hclear, rfl, trivial⟩
            · simp only [hlt, if_false]
              exact ⟨hfile, rfl, trivial⟩

theorem isCacheTTLValid_eq {now : ℚ} {cache : Option CacheData}
    (hpos : ∀ ts, cache.map CacheData.lastSuccessAt = some ts → 0 < ts) :
    c.isCacheTTLValid now cache =
      c.product.isValid now (cache.map CacheData.lastSuccessAt) := by
  cases cache with
  | none => rfl
  | some cache =>
      have hlast := hpos _ rfl
      rw [isCacheTTLValid, if_neg (not_le.mpr hlast)]
      rfl

end Reading

end AuthCache

/-! ## Checks -/

/-- A full heartbeat of a client. -/
def AuthClient.reply (cl : AuthClient) (online : Online) : Sdk.Reply :=
  ⟨answerOf (cl.checkOnline online).2,
    infoOf (cl.checkOnline online).1.deviceInfo.marshal⟩

/-- A light heartbeat of a client. -/
def AuthClient.lightReply (cl : AuthClient) (light : Answer) : Sdk.Reply :=
  ⟨answerOf light.toResult, infoOf cl.deviceInfo.marshal⟩

/-- What an authorisation stores is stored as it is. -/
def AuthClient.StorableReply (cl : AuthClient) (online : Online) : Prop :=
  (cl.reply online).answer = some true →
    Storable (cl.checkOnline online).1.deviceInfo.marshal

section Checks

variable {cl : AuthClient} {p : Product}

theorem checkOnline_cache (online : Online) :
    (cl.checkOnline online).1.cache = cl.cache := by
  simp only [AuthClient.checkOnline, AuthClient.ensureFullDeviceInfo]
  repeat' split
  all_goals rfl

/-- Storing an answer. -/
theorem stands_persistHeartbeatResult (cl : AuthClient)
    (hp : cl.cache.product.Ordinary) (hfile : Stands file T)
    (authorized : Bool) (times : ℤ) {now : ℚ} {envs : Attempts}
    (henvs : envs.SucceedsAt now)
    (hinfo : authorized = true → Storable cl.deviceInfo.marshal)
    (htimes : authorized = true → 0 ≤ times ∧ times ≤ 2 ^ 53) :
    Stands (cl.persistHeartbeatResult authorized
        (if authorized then some times else none) envs file)
      (cl.cache.product.save T authorized now times
        (infoOf cl.deviceInfo.marshal)) := by
  obtain ⟨envs, hlength⟩ := envs
  cases envs with
  | nil => contradiction
  | cons env envs =>
      obtain ⟨hstands, hok⟩ := AuthCache.stands_saveCache hp hfile
        (henvs env List.mem_cons_self) hinfo htimes
      rw [AuthClient.persistHeartbeatResult, saveAttempts]
      simp only [hok, if_true]
      exact hstands

/-- A check leaves the table and returns the verdict of the machine. -/
structure Checked.Refines (out : Checked) (abstract : Table × Verdict) :
    Prop where
  file : Stands out.file abstract.1
  verdict : verdictOf out.result = abstract.2

/-- A full heartbeat with the cache entry to fall back on. -/
theorem online_refines (hp : cl.cache.product.Ordinary)
    (hfile : Stands file T) {times : ℤ} {online : Online} {save : Attempts}
    {saveAt : ℚ} (hsave : save.SucceedsAt saveAt)
    (hinfo : cl.StorableReply online)
    (htimes : (cl.reply online).answer = some true →
      0 ≤ times ∧ times ≤ 2 ^ 53) (cached : Option CacheData) :
    (AuthClient.orCached cached
      (cl.checkOnlineAndPersist times online save file)).Refines
        (cl.cache.product.online T times cached.isSome (cl.reply online)
          saveAt) := by
  have hcache : (cl.checkOnline online).1.cache = cl.cache :=
    checkOnline_cache online
  have hverdict : verdictOf (cl.checkOnline online).2 = _ :=
    verdictOf_toResult online.answer
  rw [AuthClient.orCached.eq_def, AuthClient.checkOnlineAndPersist,
    Product.online]
  cases hanswer : answerOf online.answer.toResult with
  | some authorized =>
      obtain ⟨hsuccess, hauth⟩ := answerOf_eq_some.mp hanswer
      have hreply : (cl.reply online).answer = some authorized := hanswer
      have hsuccess' : (cl.checkOnline online).2.success = true := hsuccess
      have hauth' : (cl.checkOnline online).2.authorized = authorized := hauth
      have hstands := stands_persistHeartbeatResult (cl.checkOnline online).1
        (hcache.symm ▸ hp) hfile authorized times hsave
        (fun h => hinfo (h ▸ hreply)) (fun h => htimes (h ▸ hreply))
      simp only [hsuccess', hauth', if_true, hreply]
      rw [hanswer] at hverdict
      rw [hcache] at hstands
      exact ⟨hstands, hverdict⟩
  | none =>
      have hsuccess : (cl.checkOnline online).2.success = false :=
        answerOf_eq_none.mp hanswer
      have hreply : (cl.reply online).answer = none := hanswer
      simp only [hsuccess, Bool.false_eq_true, if_false, hreply]
      rw [hanswer] at hverdict
      cases cached with
      | none => exact ⟨hfile, hverdict⟩
      | some cache => exact ⟨hfile, rfl⟩

/-- The cache entry a check may fall back on. -/
theorem isSome_cached (c : AuthCache) (now : ℚ) {cache : Option CacheData}
    {entry : Option ℚ} (hentry : cache.map CacheData.lastSuccessAt = entry)
    (hpos : ∀ ts, entry = some ts → 0 < ts) :
    (if c.isCacheTTLValid now cache then cache else none).isSome =
      c.product.isValid now entry := by
  subst hentry
  rw [← AuthCache.isCacheTTLValid_eq hpos]
  cases cache with
  | none => rfl
  | some cache => cases h : c.isCacheTTLValid now (some cache) <;> rfl

theorem checkAuthorization_refines (hp : cl.cache.product.Ordinary)
    (hfile : Stands file T) (hfs : (T.own cl.cache.softwareName).Proper)
    {env : CheckEnv} {saveAt : ℚ} (hsnapshot : env.snapshot.Succeeds)
    (hsave : env.save.SucceedsAt saveAt)
    (hinfo : cl.StorableReply env.online) :
    (cl.checkAuthorization env file).Refines (cl.cache.product.check T
      env.testAt (cl.reply env.online) saveAt) := by
  obtain ⟨hstands, hentry, hcount⟩ :=
    AuthCache.snapshotAuthRow_spec hp hfile hfs hsnapshot
  have htimes := Product.snapshot_count_bounds (p := cl.cache.product) hfs
  have hpos : ∀ ts, (cl.cache.product.snapshot T).2.1 = some ts → 0 < ts :=
    fun _ => Product.snapshot_entry_pos
  rw [AuthClient.checkAuthorization, Product.check]
  generalize cl.cache.snapshotAuthRow env.snapshot file = start
    at hstands hentry hcount ⊢
  generalize cl.cache.product.snapshot T = abstract
    at hstands hentry hcount htimes hpos ⊢
  obtain ⟨file', cache, n⟩ := start
  obtain ⟨T', entry, n'⟩ := abstract
  dsimp only at hstands hentry hcount htimes hpos ⊢
  subst hcount
  rw [← isSome_cached cl.cache env.testAt hentry hpos]
  exact online_refines hp hstands hsave hinfo (fun _ => htimes) _

/-- The entry which an authorised light heartbeat leaves can be read back. -/
theorem retest_spec {c : AuthCache} {now retestAt : ℚ} {times : ℤ}
    {info : Json} (hnow : 0 < now)
    (hretest : retestAt - now < c.product.validity)
    (hfile : Stands file (c.product.save T true now times info))
    {valid read : ReadEnv} (hvalid : valid.ok = true) (hread : read.ok = true) :
    c.isCacheValid valid retestAt file = true ∧
      ∃ cache, c.getCache read file = .ok (some cache) := by
  obtain ⟨root, rfl, hclean, htable⟩ := hfile.eq_root
  have hown : (tableOf root).own c.softwareName =
      (c.product.save T true now times info).own c.product.name := by
    rw [htable]
    rfl
  have hfs : ∀ v, (tableOf root).own c.softwareName "last_success_at" =
      some v → ∃ q, v = ofNumber q := by
    intro v hv
    rw [hown] at hv
    exact Product.ofNumber_save_true hv
  have hentry : ∀ range, ((c.rowOf range (some (readRoot root))).bind
      (stateMapToCacheData range)).map CacheData.lastSuccessAt =
        some now := by
    intro range
    rw [AuthCache.stateMapToCacheData_readRoot hclean range hfs, hown,
      Product.lastSuccess_save_true, if_pos hnow]
  constructor
  · rw [AuthCache.isCacheValid, AuthCache.getCache,
      readStateDict_of_clean hclean hvalid]
    dsimp only [Except.map]
    rw [AuthCache.isCacheTTLValid_eq, hentry valid.range, Product.isValid]
    · simpa using hretest
    · intro ts hts
      rw [hentry valid.range, Option.some.injEq] at hts
      exact hts ▸ hnow
  · obtain ⟨cache, hcache, -⟩ := Option.map_eq_some_iff.mp
      (hentry read.range)
    refine ⟨cache, ?_⟩
    rw [AuthCache.getCache, readStateDict_of_clean hclean hread, ← hcache]
    rfl

/-- After an authorised light heartbeat its entry is what to fall back on. -/
theorem completeLight_eq {times : ℤ} {env : ProgressiveEnv}
    {cache : CacheData}
    (hvalid : cl.cache.isCacheValid env.retestValid env.retestAt file = true)
    (hget : cl.cache.getCache env.retest file = .ok (some cache)) :
    cl.completeLight times env file = AuthClient.orCached (some cache)
      (cl.checkOnlineAndPersist times env.full env.saveFull file) := by
  have hcache : (cl.checkOnlineAndPersist times env.full env.saveFull
      file).client.cache = cl.cache := by
    have hcl : (cl.checkOnline env.full).1.cache = cl.cache :=
      checkOnline_cache env.full
    rw [AuthClient.checkOnlineAndPersist]
    dsimp only
    split <;> exact hcl
  rw [AuthClient.completeLight, AuthClient.orCached.eq_def]
  simp only [hcache, hvalid, hget, if_true]

theorem orCached_some (cached : Option CacheData) (cache : CacheData)
    (out : Checked) :
    AuthClient.orCached cached (AuthClient.orCached (some cache) out) =
      AuthClient.orCached (some cache) out := by
  have hsuccess : (AuthClient.orCached (some cache) out).result.success =
      true := by
    rw [AuthClient.orCached.eq_def]
    split
    next h => exact h
    next => rfl
  rw [AuthClient.orCached.eq_def cached, if_pos hsuccess]

theorem checkAuthorizationProgressive_refines
    (hp : cl.cache.product.Ordinary) (hfile : Stands file T)
    (hfs : (T.own cl.cache.softwareName).Proper) {env : ProgressiveEnv}
    {saveLightAt saveFullAt : ℚ} (hsnapshot : env.snapshot.Succeeds)
    (hlight : env.saveLight.SucceedsAt saveLightAt)
    (hfull : env.saveFull.SucceedsAt saveFullAt)
    (hvalid : env.retestValid.ok = true) (hread : env.retest.ok = true)
    (hinfo : (cl.lightReply env.light).answer = some true →
      Storable cl.deviceInfo.marshal)
    (hfullInfo : cl.StorableReply env.full)
    (hcount : (cl.lightReply env.light).answer = some true →
      (cl.reply env.full).answer = some true →
        (T.own cl.cache.softwareName).count + 2 ≤ 2 ^ 53)
    (hnow : 0 < saveLightAt)
    (hretest : env.retestAt - saveLightAt < cl.cache.product.validity) :
    (cl.checkAuthorizationProgressive env file).Refines
      (cl.cache.product.progressive T env.testAt (cl.lightReply env.light)
        saveLightAt (cl.reply env.full) saveFullAt env.retestAt) := by
  obtain ⟨hstands, hentry, hcount'⟩ :=
    AuthCache.snapshotAuthRow_spec hp hfile hfs hsnapshot
  have htimes := Product.snapshot_count_bounds (p := cl.cache.product) hfs
  have hle := Product.snapshot_count_le (p := cl.cache.product) (T := T)
  have hpos : ∀ ts, (cl.cache.product.snapshot T).2.1 = some ts → 0 < ts :=
    fun _ => Product.snapshot_entry_pos
  have hown : (T.own cl.cache.product.name).count =
      (T.own cl.cache.softwareName).count := rfl
  rw [AuthClient.checkAuthorizationProgressive, Product.progressive]
  generalize cl.cache.snapshotAuthRow env.snapshot file = start
    at hstands hentry hcount' ⊢
  generalize cl.cache.product.snapshot T = abstract
    at hstands hentry hcount' htimes hle hpos ⊢
  obtain ⟨file', cache, n⟩ := start
  obtain ⟨T', entry, n'⟩ := abstract
  dsimp only at hstands hentry hcount' htimes hle hpos ⊢
  subst hcount'
  have hverdict := verdictOf_toResult env.light
  have hreply : (cl.lightReply env.light).answer =
      answerOf env.light.toResult := rfl
  rw [AuthClient.checkOnlineProgressive]
  cases hanswer : answerOf env.light.toResult with
  | none =>
      have hsuccess := answerOf_eq_none.mp hanswer
      simp only [hsuccess, Bool.false_eq_true, if_false, hreply, hanswer]
      rw [← isSome_cached cl.cache env.testAt hentry hpos]
      exact online_refines hp hstands hfull hfullInfo (fun _ => htimes) _
  | some authorized =>
      obtain ⟨hsuccess, hauth⟩ := answerOf_eq_some.mp hanswer
      rw [hanswer] at hverdict hreply
      rw [hreply] at hinfo hcount
      have hsaved := stands_persistHeartbeatResult cl hp hstands authorized
        (n + 1) hlight (fun h => hinfo (h ▸ rfl)) (fun _ => htimes)
      cases authorized with
      | false =>
          simp only [hsuccess, hauth, if_true, Bool.false_eq_true, if_false,
            hreply]
          rw [AuthClient.orCached.eq_def]
          simp only [hsuccess, if_true]
          exact ⟨hsaved, hverdict⟩
      | true =>
          simp only [hsuccess, hauth, if_true, hreply]
          simp only [if_true] at hsaved
          obtain ⟨hvalid', cache', hget⟩ :=
            retest_spec hnow hretest hsaved hvalid hread
          rw [completeLight_eq hvalid' hget, orCached_some,
            Product.isValid_save_true hnow hretest]
          refine online_refines hp hsaved hfull hfullInfo (fun h => ?_)
            (some cache')
          have := hcount rfl h
          omega

end Checks

end

end PyAuth.Go
