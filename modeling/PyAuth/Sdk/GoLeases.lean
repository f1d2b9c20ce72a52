import PyAuth.Sdk.GoProducts
import PyAuth.Sdk.GoSnapshots
import PyAuth.Sdk.Leases
import PyAuth.Sdk.SoftLaunch

/-!
# Leases of the Go SDK

What the operations of the Go cache do to the timestamps in the file, and that
constructions and calls keep within the lease.
-/

namespace PyAuth.Go

open Support Client Sdk

variable {τ : String → ℚ} {c : AuthCache} {file : StateFile}

/-! ## The operations on the file -/

namespace AuthCache

theorem stamps_savedRow (authorized : Bool) (now : ℚ) (hb : Option ℤ)
    (snapshot : Option (Dict String Json)) :
    Stamps (if authorized then [now] else [])
      (c.savedRow authorized now hb snapshot) := by
  refine .of_saved (fun hauth sub => ?_) fun hauth sub => ?_
  · rw [savedRow, if_pos hauth]
    rcases hb with _ | n
    all_goals
      rcases snapshot with _ | obj
      · simp [Dict.get_set]
      · by_cases hempty : obj.isEmpty = true
        all_goals simp [hempty, Dict.get_set,
          bundleProductDeviceInfoSnapshotKey]
  · simp [savedRow, hauth, Dict.get_set, Dict.get_eraseAll,
      bundleProductRevokeKeys]

theorem stamps_clearedRow : Stamps [] c.clearedRow :=
  .of_none get_clearedRow_last_success_at

section

variable (h : DatedContent τ file.content)
  (hs : core c.softwareName ≠ "__proto__")

include h hs

theorem dated_saveCache {authorized : Bool} (hb : Option ℤ)
    (snapshot : Option (Dict String Json)) {env : SaveEnv}
    (hnow : authorized = true → env.now ≤ τ (core c.softwareName)) :
    DatedContent τ
      (c.saveCache authorized hb snapshot env file).1.content :=
  h.saves hs (stamps_savedRow authorized env.now hb snapshot) hnow
    ((saveCache_cases c authorized hb snapshot env file).imp And.right
      And.right)

theorem dated_clearCache (env : ClearEnv) :
    DatedContent τ (c.clearCache env file).1.content :=
  h.unstamped hs stamps_clearedRow (clearCache_cases c env file)

theorem dated_persistDeviceID (env : PersistEnv) :
    DatedContent τ (c.persistDeviceID env file).1.content :=
  h.unstamped hs (stamps_deviceId c.deviceID)
    (persistDeviceID_cases c env file)

end

theorem asDoubles_ne_int (v : Json) (n : ℤ) : v.asDoubles ≠ .int n := by
  intro h
  cases v with
  | null | bool | int | float | str | arr | obj =>
      rw [Json.asDoubles, Json.mapNumbers] at h
      contradiction

theorem eq_of_readOrNil {env : ReadEnv} {m : Root}
    (h : readOrNil env file = some m) :
    ∃ d, file.content = some d ∧
      m = (d.mapValues Json.asDoubles).erase "device_id" := by
  rw [readOrNil] at h
  split at h
  next m' hread =>
    subst h
    cases file with
    | absent => simp [readStateDict] at hread
    | unreadable =>
        rw [readStateDict] at hread
        split at hread <;> simp at hread
    | root d =>
        rw [readStateDict] at hread
        split at hread
        · obtain ⟨m', hm', rfl⟩ :=
            Option.map_eq_some_iff.mp (Except.ok.inj hread)
          exact ⟨d, rfl, by rw [unmarshal_eq hm']⟩
        · contradiction
  next => contradiction

/-- The timestamp that is read: all numbers have become doubles. -/
theorem le_of_rowLastSuccessUnix (h : DatedContent τ file.content)
    {env : ReadEnv} {row : Row} {ts : ℚ}
    (hrow : c.rowOf env.range (readOrNil env file) = some row)
    (hts : rowLastSuccessUnix row = some ts) :
    ts ≤ τ (core c.softwareName) := by
  rw [rowOf, Option.bind_eq_some_iff] at hrow
  obtain ⟨m, hread, hload⟩ := hrow
  obtain ⟨d, hcontent, rfl⟩ := eq_of_readOrNil hread
  obtain ⟨k, v, hk, happ⟩ := (loads_go _ _).sound hload
  rw [Dict.get_erase, Dict.get_mapValues] at hk
  split at hk
  · contradiction
  obtain ⟨w, hw, rfl⟩ := Option.map_eq_some_iff.mp hk
  obtain ⟨hres, hstrip, -, sub, hsub, rfl⟩ := appRow?_eq_some_iff.mp happ
  rw [Json.dict?_asDoubles, Option.map_eq_some_iff] at hsub
  obtain ⟨row', hrow', rfl⟩ := hsub
  have hdated := (h d hcontent k w row' hw hres hrow').2
  rw [← core_strip isSpace k, hstrip] at hdated
  rw [rowLastSuccessUnix, ← Dict.mapValues_erase, Dict.get_mapValues] at hts
  cases hget : (row'.erase "software_name").get "last_success_at" with
  | none =>
      rw [hget] at hts
      contradiction
  | some u =>
      obtain ⟨ts', hle, hround⟩ := hdated u hget
      rw [← Rounding.asDoubles.rounded_eq] at hround
      rcases cases_of_rounded hround with heq | ⟨n, heq, -⟩
      · rw [hget, Option.map_some, heq] at hts
        dsimp only at hts
        split at hts
        · obtain rfl := Option.some.inj hts
          exact hle
        · contradiction
      · exact (asDoubles_ne_int u n heq).elim

theorem le_of_stateMapToCacheData (h : DatedContent τ file.content)
    {env : ReadEnv} {row : Row} {range : Range} {cache : CacheData}
    (hrow : c.rowOf env.range (readOrNil env file) = some row)
    (hcache : stateMapToCacheData range row = some cache) :
    cache.lastSuccessAt ≤ τ (core c.softwareName) := by
  obtain ⟨ts, hts, rfl⟩ := Option.map_eq_some_iff.mp hcache
  exact le_of_rowLastSuccessUnix h hrow hts

/-- An entry which is found valid was tested in time. -/
theorem lt_of_isCacheTTLValid {cache : CacheData} {now x : ℚ}
    (hle : cache.lastSuccessAt ≤ x)
    (hvalid : c.isCacheTTLValid now (some cache) = true) :
    now < x + c.cacheValiditySeconds := by
  rw [isCacheTTLValid] at hvalid
  split at hvalid
  · contradiction
  · have hage := of_decide_eq_true hvalid
    linarith

/-- A snapshot keeps the bound, and the entry it returns obeys it. -/
theorem dated_snapshotAuthRow (h : DatedContent τ file.content)
    (hs : core c.softwareName ≠ "__proto__") (env : SnapshotEnv) :
    DatedContent τ (c.snapshotAuthRow env file).1.content ∧
      ∀ cache, (c.snapshotAuthRow env file).2.1 = some cache →
        cache.lastSuccessAt ≤ τ (core c.softwareName) := by
  have hclear := dated_clearCache h hs env.clear
  rw [snapshotAuthRow]
  cases hrow : c.rowOf env.read.range (readOrNil env.read file) with
  | none => exact ⟨h, by simp⟩
  | some row =>
      dsimp only
      split
      · exact ⟨h, by simp⟩
      split
      · exact ⟨hclear, by simp⟩
      split
      · exact ⟨hclear, by simp⟩
      cases hcache : stateMapToCacheData env.read.range row with
      | none => exact ⟨h, by simp⟩
      | some cache =>
          refine ⟨h, fun cache' hcache' => ?_⟩
          obtain rfl := Option.some.inj hcache'
          exact le_of_stateMapToCacheData h hrow hcache

theorem lt_of_snapshotAuthRow (h : DatedContent τ file.content)
    (hs : core c.softwareName ≠ "__proto__") {env : SnapshotEnv}
    {now : ℚ} {cache : CacheData}
    (hcached : (if c.isCacheTTLValid now (c.snapshotAuthRow env file).2.1 then
      (c.snapshotAuthRow env file).2.1 else none) = some cache) :
    now < τ (core c.softwareName) + c.cacheValiditySeconds := by
  obtain ⟨hvalid, hcache⟩ := Option.ite_none_right_eq_some.mp hcached
  rw [hcache] at hvalid
  exact lt_of_isCacheTTLValid
    ((dated_snapshotAuthRow h hs env).2 cache hcache) hvalid

/-- What `CanSoftLaunch` and the second look of a check test. -/
theorem lt_of_isCacheValid (h : DatedContent τ file.content) {env : ReadEnv}
    {now : ℚ} (hvalid : c.isCacheValid env now file = true) :
    now < τ (core c.softwareName) + c.cacheValiditySeconds := by
  rw [isCacheValid, getCache] at hvalid
  cases hread : readStateDict env file with
  | error e => simp [hread, Except.map] at hvalid
  | ok m =>
      rw [hread, Except.map] at hvalid
      dsimp only at hvalid
      have hnil : readOrNil env file = m := by rw [readOrNil, hread]
      cases hrow : c.rowOf env.range m with
      | none => simp [hrow, isCacheTTLValid] at hvalid
      | some row =>
          rw [hrow, Option.bind_some] at hvalid
          cases hcache : stateMapToCacheData env.range row with
          | none => simp [hcache, isCacheTTLValid] at hvalid
          | some cache =>
              rw [hcache] at hvalid
              exact lt_of_isCacheTTLValid
                (le_of_stateMapToCacheData h (hnil ▸ hrow) hcache) hvalid

theorem dated_saveAttempts (h : DatedContent τ file.content)
    (hs : core c.softwareName ≠ "__proto__") {authorized : Bool}
    (hb : Option ℤ) (snapshot : Option (Dict String Json))
    {envs : List SaveEnv} (hnow : authorized = true → ∀ env ∈ envs,
      env.now ≤ τ (core c.softwareName)) :
    DatedContent τ (saveAttempts c authorized hb snapshot envs file).content := by
  induction envs generalizing file with
  | nil => exact h
  | cons env envs ih =>
      have hsave := dated_saveCache h hs hb snapshot fun hauth =>
        hnow hauth env List.mem_cons_self
      rw [saveAttempts]
      dsimp only
      split
      · exact hsave
      · exact ih hsave fun hauth env' henv' =>
          hnow hauth env' (List.mem_cons_of_mem _ henv')

end AuthCache

/-! ## The checks -/

/-- What a check owes: `granted` says that it was granted an authorisation. -/
structure Checked.Dated (τ : String → ℚ) (c : AuthCache) (granted : Prop)
    (testedAt : ℚ) (out : Checked) : Prop where
  cache_eq : out.client.cache = c
  content : DatedContent τ out.file.content
  authorised : out.result.authorized = true → granted ∨
    testedAt < τ (core c.softwareName) + c.cacheValiditySeconds

section

variable {cl : AuthClient} {granted granted' : Prop} {testedAt : ℚ}
  {out : Checked}

namespace Checked.Dated

theorem imp (h : out.Dated τ c granted testedAt)
    (himp : granted → granted') : out.Dated τ c granted' testedAt :=
  ⟨h.cache_eq, h.content, fun hauth => (h.authorised hauth).imp_left himp⟩

/-- A valid entry takes the place of an answer that is missing. -/
theorem orCached (h : out.Dated τ c granted testedAt)
    {cached : Option CacheData} (hcached : ∀ cache, cached = some cache →
      testedAt < τ (core c.softwareName) + c.cacheValiditySeconds) :
    (AuthClient.orCached cached out).Dated τ c granted testedAt := by
  unfold AuthClient.orCached
  split
  · exact h
  · cases cached with
    | none => exact h
    | some cache =>
        exact ⟨h.cache_eq, h.content, fun _ => .inr (hcached cache rfl)⟩

end Checked.Dated

variable (h : DatedContent τ file.content)
  (hs : core cl.cache.softwareName ≠ "__proto__")

include h hs

theorem dated_persistHeartbeatResult {cl' : AuthClient}
    (hcache : cl'.cache = cl.cache) {authorized : Bool} (hb : Option ℤ)
    {envs : Attempts} (hnow : authorized = true → ∀ env ∈ envs.1,
      env.now ≤ τ (core cl.cache.softwareName)) :
    DatedContent τ
      (cl'.persistHeartbeatResult authorized hb envs file).content := by
  rw [AuthClient.persistHeartbeatResult, hcache]
  exact AuthCache.dated_saveAttempts h hs _ _ hnow

/-- A full heartbeat authorises only by its answer. -/
theorem dated_checkOnlineAndPersist (times : ℤ) {online : Online}
    {save : Attempts} (testedAt : ℚ) (hnow : grants online.answer = true →
      ∀ env ∈ save.1, env.now ≤ τ (core cl.cache.softwareName)) :
    (cl.checkOnlineAndPersist times online save file).Dated τ cl.cache
      (grants online.answer = true) testedAt := by
  have hcache : (cl.checkOnline online).1.cache = cl.cache :=
    checkOnline_cache online
  have hresult : (cl.checkOnline online).2.authorized = grants online.answer :=
    authorized_toResult online.answer
  rw [AuthClient.checkOnlineAndPersist]
  dsimp only
  split
  · refine ⟨hcache, ?_, fun hauth => .inl (hresult.symm.trans hauth)⟩
    exact dated_persistHeartbeatResult h hs hcache _
      fun hauth => hnow (hresult.symm.trans hauth)
  · exact ⟨hcache, h, fun hauth => .inl (hresult.symm.trans hauth)⟩

theorem dated_checkAuthorization {env : CheckEnv}
    (hnow : grants env.online.answer = true → ∀ io ∈ env.save.1,
      io.now ≤ τ (core cl.cache.softwareName)) :
    (cl.checkAuthorization env file).Dated τ cl.cache
      (grants env.online.answer = true) env.testAt := by
  have hcontent := (AuthCache.dated_snapshotAuthRow h hs env.snapshot).1
  rw [AuthClient.checkAuthorization]
  exact (dated_checkOnlineAndPersist hcontent hs _ env.testAt hnow).orCached
    fun cache hcache => AuthCache.lt_of_snapshotAuthRow h hs hcache

/-- After a light heartbeat was granted. -/
theorem dated_completeLight (times : ℤ) {env : ProgressiveEnv} (testedAt : ℚ)
    (hnow : ∀ io ∈ env.saveFull.1,
      io.now ≤ τ (core cl.cache.softwareName)) :
    (cl.completeLight times env file).Dated τ cl.cache True testedAt := by
  have hfull : (cl.checkOnlineAndPersist times env.full env.saveFull
      file).Dated τ cl.cache True testedAt :=
    (dated_checkOnlineAndPersist h hs times testedAt fun _ => hnow).imp
      fun _ => trivial
  unfold AuthClient.completeLight
  dsimp only
  repeat' split
  all_goals exact ⟨hfull.cache_eq, hfull.content, fun _ => .inl trivial⟩

/-- One of the answers to a progressive check is an authorisation. -/
theorem dated_checkOnlineProgressive (times : ℤ) {env : ProgressiveEnv}
    (testedAt : ℚ)
    (hnow : (∃ a ∈ progressiveAnswers env.light [env.full.answer],
        grants a = true) → ∀ io ∈ env.saveLight.1 ++ env.saveFull.1,
      io.now ≤ τ (core cl.cache.softwareName)) :
    (cl.checkOnlineProgressive times env file).Dated τ cl.cache
      (∃ a ∈ progressiveAnswers env.light [env.full.answer], grants a = true)
      testedAt := by
  rw [AuthClient.checkOnlineProgressive]
  rcases hlight : env.light with message | ⟨authorized, message⟩
  all_goals rw [hlight] at hnow
  · -- Without an answer to the light heartbeat the full one is a plain check.
    have hfull (hgrants : grants env.full.answer = true) :
        ∃ a ∈ progressiveAnswers (.failed message) [env.full.answer],
          grants a = true :=
      ⟨_, List.mem_cons_of_mem _ (List.mem_singleton_self _), hgrants⟩
    exact (dated_checkOnlineAndPersist h hs times testedAt
      fun hgrants io hio => hnow (hfull hgrants) io
        (List.mem_append_right _ hio)).imp hfull
  · cases authorized with
    | false =>
        refine ⟨rfl, ?_, fun hauth => absurd hauth Bool.false_ne_true⟩
        exact dated_persistHeartbeatResult h hs rfl none
          fun hauth => absurd hauth Bool.false_ne_true
    | true =>
        have hlight : ∃ a ∈ progressiveAnswers (.answered true message)
            [env.full.answer], grants a = true :=
          ⟨_, List.mem_cons_self, rfl⟩
        have hcontent : DatedContent τ (cl.persistHeartbeatResult true
            (some times) env.saveLight file).content :=
          dated_persistHeartbeatResult h hs rfl (some times) fun _ io hio =>
            hnow hlight io (List.mem_append_left _ hio)
        exact (dated_completeLight hcontent hs (times + 1) testedAt
          fun io hio => hnow hlight io (List.mem_append_right _ hio)).imp
            fun _ => hlight

theorem dated_checkAuthorizationProgressive {env : ProgressiveEnv}
    (hnow : (∃ a ∈ progressiveAnswers env.light [env.full.answer],
        grants a = true) → ∀ io ∈ env.saveLight.1 ++ env.saveFull.1,
      io.now ≤ τ (core cl.cache.softwareName)) :
    (cl.checkAuthorizationProgressive env file).Dated τ cl.cache
      (∃ a ∈ progressiveAnswers env.light [env.full.answer], grants a = true)
      env.testAt := by
  have hcontent := (AuthCache.dated_snapshotAuthRow h hs env.snapshot).1
  rw [AuthClient.checkAuthorizationProgressive]
  exact (dated_checkOnlineProgressive hcontent hs _ env.testAt hnow).orCached
    fun cache hcache => AuthCache.lt_of_snapshotAuthRow h hs hcache

end

/-! ## The SDK -/

/-- A call of the client, with everything its environment decides; the disk may
fail at any point. -/
inductive AnyCall
  | check (env : CheckEnv)
  | progressive (env : ProgressiveEnv)
  | clear (env : ClearEnv)
  | softLaunch (env : ReadEnv) (now : ℚ)

namespace AnyCall

def perform (cl : AuthClient) (file : StateFile) : AnyCall → Acted AuthClient
  | .check env =>
      let out := cl.checkAuthorization env file
      ⟨out.client, out.file, out.result.authorized = true⟩
  | .progressive env =>
      let out := cl.checkAuthorizationProgressive env file
      ⟨out.client, out.file, out.result.authorized = true⟩
  | .clear env => ⟨cl, (cl.cache.clearCache env file).1, False⟩
  | .softLaunch env now => ⟨cl, file, cl.canSoftLaunch env now file = true⟩

def answers : AnyCall → List Answer
  | .check env => [env.online.answer]
  | .progressive env => progressiveAnswers env.light [env.full.answer]
  | .clear _ | .softLaunch _ _ => []

def saveTimes : AnyCall → List ℚ
  | .check env => env.save.1.map SaveEnv.now
  | .progressive env => (env.saveLight.1 ++ env.saveFull.1).map SaveEnv.now
  | .clear _ | .softLaunch _ _ => []

def testedAt : AnyCall → ℚ
  | .check env => env.testAt
  | .progressive env => env.testAt
  | .clear _ => 0
  | .softLaunch _ now => now

end AnyCall

/-- The Go SDK; `parse` is `json.Unmarshal`. -/
def runtime (parse : String → Option Json) : Runtime where
  Client := AuthClient
  Construction := AuthClientConfig × ConstructEnv
  Call := AnyCall
  product cl := cl.cache.softwareName
  validity cl := cl.cache.cacheValiditySeconds
  productOf x := x.1.softwareName
  construct x file := some (newAuthClient parse x.1 x.2 file)
  act call cl file := some (call.perform cl file)
  answers := AnyCall.answers
  saveTimes := AnyCall.saveTimes
  testedAt := AnyCall.testedAt

theorem dated_buildDeviceID (h : DatedContent τ file.content)
    {softwareName : String} (hs : core softwareName ≠ "__proto__")
    (provided persistedIfKnown : String) (env : ConstructEnv) :
    DatedContent τ (buildDeviceID softwareName provided persistedIfKnown env
      file).1.content := by
  have hpersist (id : String) : DatedContent τ
      ((newAuthCache softwareName id 0).persistDeviceID env.persist
        file).1.content :=
    AuthCache.dated_persistDeviceID (c := newAuthCache softwareName id 0) h hs
      env.persist
  rw [buildDeviceID]
  dsimp only
  repeat' split
  all_goals first | exact hpersist _ | exact h

theorem dated_newAuthClient (h : DatedContent τ file.content)
    (parse : String → Option Json) {config : AuthClientConfig}
    (hs : core config.softwareName ≠ "__proto__")
    (env : ConstructEnv) :
    DatedContent τ (newAuthClient parse config env file).1.content ∧
      ∀ cl ∈ (newAuthClient parse config env file).2,
        cl.cache.softwareName = config.softwareName := by
  rw [newAuthClient]
  split
  · exact ⟨h, by simp⟩
  · have hbuild := dated_buildDeviceID h hs config.deviceID
      (if config.deviceID = "" then
        (newAuthCache config.softwareName "" 0).loadPersistedDeviceID env.hint
          file else "") env
    dsimp only
    split
    next heq =>
      rw [heq] at hbuild
      exact ⟨hbuild, by simp⟩
    next heq =>
      rw [heq] at hbuild
      refine ⟨hbuild, ?_⟩
      rintro _ ⟨⟩
      rfl

theorem runtime_sound (parse : String → Option Json) :
    (runtime parse).Sound where
  construct := by
    rintro τ x file file' made hmade hs h
    obtain ⟨rfl, rfl⟩ := Prod.mk.inj (Option.some.inj hmade)
    exact dated_newAuthClient h parse hs x.2
  act := by
    rintro τ call cl file out hout hs h hnow
    obtain rfl := Option.some.inj hout
    have hchecked {out : Checked} {granted : Prop} {testedAt : ℚ}
        (h : out.Dated τ cl.cache granted testedAt) :
        out.client.cache.softwareName = cl.cache.softwareName ∧
          DatedContent τ out.file.content ∧
          (out.result.authorized = true → granted ∨ testedAt <
            τ (core cl.cache.softwareName) +
              cl.cache.cacheValiditySeconds) :=
      ⟨congrArg AuthCache.softwareName h.cache_eq, h.content, h.authorised⟩
    cases call with
    | check env =>
        refine hchecked ((dated_checkAuthorization h hs ?_).imp ?_)
        · intro hgrants io hio
          exact hnow ⟨_, List.mem_singleton_self _, hgrants⟩ io.now
            (List.mem_map_of_mem hio)
        · exact fun hgrants => ⟨_, List.mem_singleton_self _, hgrants⟩
    | progressive env =>
        refine hchecked (dated_checkAuthorizationProgressive h hs ?_)
        intro hgrants io hio
        exact hnow hgrants io.now (List.mem_map_of_mem hio)
    | clear env =>
        exact ⟨rfl, AuthCache.dated_clearCache h hs env, False.elim⟩
    | softLaunch env now =>
        exact ⟨rfl, h, fun hvalid => .inr
          (AuthCache.lt_of_isCacheValid h hvalid)⟩

end PyAuth.Go
