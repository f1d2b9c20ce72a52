import PyAuth.Client.AuthClient

/-!
# The cache on a disk which does not fail

What each operation returns, and which row can be read after it, when every
file operation succeeds.  The later developments on whole runs use only these
statements.
-/

namespace PyAuth.Client

open Support

variable {β : Type} {P : Primitives β} {c : AuthCache} {st : Storage β}

namespace AuthCache

/-- The timestamp of the row that can be read. -/
def currentTs (P : Primitives β) (c : AuthCache) (st : Storage β) :
    Option Double :=
  (c.currentRow P st).bind rowLastSuccessTs

/-- All clients of a product read its row in the same way. -/
theorem currentRow_congr {c' : AuthCache} (hurl : c'.serverUrl = c.serverUrl)
    (hname : c'.softwareName = c.softwareName) (st : Storage β) :
    c'.currentRow P st = c.currentRow P st := by
  simp only [currentRow, rowOf, hurl, hname]

theorem currentTs_congr {c' : AuthCache} (hurl : c'.serverUrl = c.serverUrl)
    (hname : c'.softwareName = c.softwareName) (st : Storage β) :
    c'.currentTs P st = c.currentTs P st := by
  rw [currentTs, currentTs, currentRow_congr hurl hname]

/-! ## Reading -/

@[simp] theorem currentRow_readRow (io : ReadEnv) :
    c.currentRow P (c.readRow P io st).1 = c.currentRow P st := by
  simp [currentRow, readRow]

@[simp] theorem readRow_success :
    (c.readRow P .success st).2 = c.currentRow P st := by
  simp [readRow, currentRow, stateRoot]

@[simp] theorem currentRow_getCache (io : ReadEnv) :
    c.currentRow P (c.getCache P io st).1 = c.currentRow P st :=
  currentRow_readRow io

@[simp] theorem getCache_success :
    (c.getCache P .success st).2 = cacheDictFromRow (c.currentRow P st) := by
  simp [getCache]

@[simp] theorem currentRow_isCacheValid (io : ReadEnv) (now : ℚ) :
    c.currentRow P (c.isCacheValid P io now st).1 = c.currentRow P st :=
  currentRow_getCache io

@[simp] theorem isCacheValid_success (now : ℚ) :
    (c.isCacheValid P .success now st).2 =
      c.isCacheValidDict now (cacheDictFromRow (c.currentRow P st)) := by
  simp [isCacheValid]

theorem cacheDictFromRow_eq_some_iff {row : Option Row} {cache : CacheData} :
    cacheDictFromRow row = some cache ↔
      row.bind rowLastSuccessTs = some cache.cachedAt ∧
        cache.authorized = true ∧ cache.message = "设备已授权" := by
  obtain ⟨authorized, message, cachedAt⟩ := cache
  simp only [cacheDictFromRow, Option.map_eq_some_iff, CacheData.mk.injEq]
  constructor
  · rintro ⟨ts, hts, rfl, rfl, rfl⟩
    exact ⟨hts, rfl, rfl⟩
  · rintro ⟨hts, rfl, rfl⟩
    exact ⟨cachedAt, hts, rfl, rfl, rfl⟩

/-- A valid entry with a finite timestamp is younger than the validity. -/
theorem age_lt_of_isCacheValidDict {now ts : ℚ} {cache : CacheData}
    (hts : cache.cachedAt = .fin ts)
    (h : c.isCacheValidDict now (some cache) = true) :
    now - ts < c.cacheValiditySeconds := by
  rw [isCacheValidDict, hts] at h
  by_cases hpos : ts ≤ 0
  · simp [hpos] at h
  · simpa [hpos] using h

/-! ## Writing -/

theorem stateRoot_writeBundle_success (data : Root) :
    stateRoot P c.serverUrl
        (c.writeBundleWithRetry P data .success st).1 =
      some (data.erase "device_id") := by
  rw [writeBundleWithRetry]
  simp [BundleEnv.success]

theorem writeBundle_success (data : Root) :
    (c.writeBundleWithRetry P data .success st).2 = true := by
  rw [writeBundleWithRetry]
  simp [BundleEnv.success]

theorem saveCache_success {authorized : Bool} {hb snap : Json} {now : ℚ} :
    (c.saveCache P authorized .null hb snap (.success now) st).2 = true :=
  writeBundle_success _

/-- After a successful save the row of the product is the saved one. -/
theorem currentRow_saveCache_success {authorized : Bool} {hb snap : Json}
    {now : ℚ} (hname : ((c.currentRow P st).getD .empty).get
      "software_name" = none) :
    c.currentRow P
        (c.saveCache P authorized .null hb snap (.success now) st).1 =
      if IsProductKey c.softwareName then
        some (c.savedRow authorized (.float (.fin now)) hb snap
          ((c.currentRow P st).getD .empty))
      else none := by
  have hread : (readStateDict P c.serverUrl .success st).2 =
      stateRoot P c.serverUrl st := rfl
  simp only [currentRow, saveCache, SaveEnv.success, if_true,
    stateRoot_writeBundle_success, hread, saveRoot]
  exact rowOf_updateRow _ _ (by decide) (get_savedRow_software_name hname)
    isEmpty_savedRow

theorem currentRow_software_name :
    ((c.currentRow P st).getD .empty).get "software_name" = none := by
  rw [currentRow, ← ownRow_getD]
  exact ownRow_get_software_name _ _

theorem currentTs_saveCache_true {hb snap : Json} {now : ℚ} :
    currentTs P c (c.saveCache P true .null hb snap (.success now) st).1 =
      if IsProductKey c.softwareName ∧ 0 < now then some (.fin now)
      else none := by
  rw [currentTs, currentRow_saveCache_success currentRow_software_name]
  by_cases hs : IsProductKey c.softwareName
  · simp [hs, rowLastSuccessTs_savedRow]
  · simp [hs]

theorem currentTs_saveCache_false {hb snap : Json} {now : ℚ} :
    currentTs P c (c.saveCache P false .null hb snap (.success now) st).1 =
      none := by
  rw [currentTs, currentRow_saveCache_success currentRow_software_name]
  by_cases hs : IsProductKey c.softwareName
  · simp [hs, savedRow_false, rowLastSuccessTs_clearedRow]
  · simp [hs]

/-- What a successful `clear_cache` leaves: nothing, or the cleared row. -/
theorem currentRow_clearCache_success (c : AuthCache) (st : Storage β) :
    c.currentRow P (c.clearCache P .success st).1 = none ∨
      c.currentRow P (c.clearCache P .success st).1 =
        some (c.clearedRow ((c.currentRow P st).getD .empty)) := by
  have hread : (readStateDict P c.serverUrl .success st).2 =
      stateRoot P c.serverUrl st := rfl
  have hafter : c.currentRow P (readStateDict P c.serverUrl .success st).1 =
      c.currentRow P st := by simp [currentRow]
  rw [clearCache]
  simp only [ClearEnv.success, hread]
  cases hroot : stateRoot P c.serverUrl st with
  | none =>
      left
      change c.currentRow P (readStateDict P c.serverUrl .success st).1 = none
      rw [hafter, currentRow, hroot]
      rfl
  | some d =>
      by_cases hd : d.isEmpty = true
      · left
        simp only [hd, if_true]
        rw [hafter, currentRow, hroot, rowOf, if_pos hd]
      · simp only [hd, if_false, Bool.false_eq_true]
        split
        · rw [currentRow, stateRoot_writeBundle_success, rowOf_clearRoot]
          by_cases hs : IsProductKey c.softwareName
          · right
            rw [if_pos hs, currentRow, hroot]
          · left
            rw [if_neg hs]
        · left
          simp [currentRow, stateRoot_eq, rowOf]

theorem currentTs_clearCache_success :
    currentTs P c (c.clearCache P .success st).1 = none := by
  rw [currentTs]
  rcases currentRow_clearCache_success (P := P) c st with h | h
  · rw [h]
    rfl
  · rw [h]
    exact rowLastSuccessTs_clearedRow

/-! ## The snapshot a check starts from -/

/-- A snapshot either reads the row as it is, or clears it and reports an
empty cache. -/
theorem snapshotAuthRow_success (c : AuthCache) (st : Storage β) :
    (c.currentRow P (c.snapshotAuthRow P .success st).1 =
        c.currentRow P st ∧
      ∀ cache n, (c.snapshotAuthRow P .success st).2 = .ok (cache, n) →
        cache = none ∨ cache = cacheDictFromRow (c.currentRow P st)) ∨
    (currentTs P c (c.snapshotAuthRow P .success st).1 = none ∧
      (c.snapshotAuthRow P .success st).2 = .ok (none, 0)) := by
  have hread : (c.readRow P .success st).2 = c.currentRow P st :=
    readRow_success
  have hafter : c.currentRow P (c.readRow P .success st).1 =
      c.currentRow P st := currentRow_readRow _
  rw [snapshotAuthRow]
  simp only [SnapshotEnv.success, hread]
  cases hrow : c.currentRow P st with
  | none =>
      left
      refine ⟨by rw [hafter, hrow], ?_⟩
      rintro cache n h
      simp only [Except.ok.injEq, Prod.mk.injEq] at h
      exact Or.inl h.1.symm
  | some row =>
      by_cases hts : rowLastSuccessTs row = none
      · left
        simp only [hts, if_true]
        refine ⟨by rw [hafter, hrow], ?_⟩
        rintro cache n h
        simp only [Except.ok.injEq, Prod.mk.injEq] at h
        exact Or.inl h.1.symm
      · simp only [hts, if_false]
        cases hn : storedCount row with
        | error e =>
            cases e with
            | overflowError =>
                left
                refine ⟨by rw [hafter, hrow], ?_⟩
                rintro cache n h
                simp at h
            | typeError | valueError =>
                right
                exact ⟨currentTs_clearCache_success, rfl⟩
        | ok n =>
            by_cases hlt : n < 1
            · right
              simp only [hlt, if_true]
              exact ⟨currentTs_clearCache_success, trivial⟩
            · left
              simp only [hlt, if_false]
              refine ⟨by rw [hafter, hrow], ?_⟩
              rintro cache m h
              simp only [Except.ok.injEq, Prod.mk.injEq] at h
              exact Or.inr h.1.symm

end AuthCache

/-! ## The heartbeats of a check -/

theorem Answer.toResult_fromCache (answer : Answer) :
    answer.toResult.fromCache = false := by
  cases answer <;> rfl

theorem Answer.authorized_of_failed {answer : Answer}
    (h : answer.toResult.success = false) :
    answer.toResult.authorized = false := by
  cases answer with
  | failed message => rfl
  | answered authorized message => contradiction

namespace AuthClient

theorem postHeartbeat_answer (cl : AuthClient) (info : Dict String Json)
    (times : ℤ) (answer : Answer) :
    (cl.postHeartbeat info times answer).answer =
      if answer.toResult.success then some answer.toResult.authorized
      else none := by
  cases answer <;> rfl

@[simp] theorem cache_ensureFullDeviceInfo (cl : AuthClient)
    (collected : Dict String Json) :
    (cl.ensureFullDeviceInfo collected).cache = cl.cache := by
  rw [ensureFullDeviceInfo]
  split <;> rfl

@[simp] theorem cache_rememberPublicIp (cl : AuthClient) (publicIp : String) :
    (cl.rememberPublicIp publicIp).cache = cl.cache := by
  rw [rememberPublicIp]
  split <;> rfl

/-- `_check_online` keeps the cache settings, and its heartbeats carry the
device id of the client.  An unsuccessful result comes with no answered
heartbeat, a successful one with exactly the heartbeat it reports. -/
theorem checkOnline_spec (cl : AuthClient) (times : ℤ) (online : Online) :
    (cl.checkOnline times online).1.cache = cl.cache ∧
      (cl.checkOnline times online).2.2.fromCache = false ∧
      (∀ h ∈ (cl.checkOnline times online).2.1,
        h.deviceId = cl.cache.deviceId) ∧
      ((cl.checkOnline times online).2.2.success = false →
        ∀ h ∈ (cl.checkOnline times online).2.1, h.answer = none) ∧
      ((cl.checkOnline times online).2.2.success = true →
        ∃ h, (cl.checkOnline times online).2.1 = [h] ∧
          h.answer = some (cl.checkOnline times online).2.2.authorized) := by
  cases online with
  | abandoned collected message =>
      cases collected <;> simp [checkOnline, Answer.toResult]
  | posted collected publicIp answer =>
      refine ⟨by simp [checkOnline], Answer.toResult_fromCache answer, ?_, ?_,
        ?_⟩
      · intro h hmem
        obtain rfl := List.mem_singleton.mp hmem
        exact congrArg AuthCache.deviceId (cache_ensureFullDeviceInfo _ _)
      · intro hfail h hmem
        obtain rfl := List.mem_singleton.mp hmem
        rw [postHeartbeat_answer]
        exact if_neg (Bool.eq_false_iff.mp hfail)
      · intro hok
        refine ⟨_, rfl, ?_⟩
        rw [postHeartbeat_answer]
        exact if_pos hok

/-- The result of a full heartbeat does not depend on its number. -/
theorem checkOnline_times (cl : AuthClient) (times times' : ℤ)
    (online : Online) :
    (cl.checkOnline times online).1 = (cl.checkOnline times' online).1 ∧
      (cl.checkOnline times online).2.2 =
        (cl.checkOnline times' online).2.2 := by
  cases online with
  | abandoned collected message => cases collected <;> exact ⟨rfl, rfl⟩
  | posted collected publicIp answer => exact ⟨rfl, rfl⟩

theorem checkSnapshot_fst (cl : AuthClient) (io : SnapshotEnv) :
    (cl.checkSnapshot P io st).1 = (cl.cache.snapshotAuthRow P io st).1 := by
  rw [checkSnapshot]
  rcases cl.cache.snapshotAuthRow P io st with ⟨st', _ | _⟩ <;> rfl

end AuthClient

/-- A snapshot never makes a timestamp appear. -/
theorem currentTs_checkSnapshot (cl : AuthClient) (st : Storage β) :
    cl.cache.currentTs P (cl.checkSnapshot P .success st).1 = none ∨
      cl.cache.currentTs P (cl.checkSnapshot P .success st).1 =
        cl.cache.currentTs P st := by
  rw [cl.checkSnapshot_fst]
  rcases AuthCache.snapshotAuthRow_success (P := P) cl.cache st with
    ⟨hrow, -⟩ | ⟨hnone, -⟩
  · right
    rw [AuthCache.currentTs, hrow]
    rfl
  · exact Or.inl hnone

/-! ## Saving the answer of a check -/

theorem writeCheckCacheRetries_success (cl : AuthClient) {authorized : Bool}
    {times : ℤ} {now : ℚ} :
    cl.writeCheckCacheRetries P authorized times (.success now) st =
      ((cl.cache.saveCache P authorized .null
        (if authorized then .int times else .null)
        (if authorized then Json.ofDict cl.deviceInfo else .null)
        (.success now) st).1, some now) := by
  rw [AuthClient.writeCheckCacheRetries, Attempts.success]
  simp only [List.replicate_succ, saveAttempts]
  rw [if_pos AuthCache.saveCache_success]
  rfl

end PyAuth.Client
