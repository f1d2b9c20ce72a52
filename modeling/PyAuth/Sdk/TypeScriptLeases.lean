import PyAuth.Sdk.Leases
import PyAuth.Sdk.SoftLaunch
import PyAuth.Sdk.TypeScriptSnapshots

/-!
# Leases of the TypeScript SDK

What the operations of the TypeScript cache do to the timestamps in the file,
and that constructions and calls keep within the lease.
-/

namespace PyAuth.TypeScript

open Support Client Sdk

variable {τ : String → ℚ} {c : AuthCache} {file : StateFile} {s : String}

/-! ## The operations on the file -/

theorem ne_proto_of_core (hs : core s ≠ "__proto__") : s ≠ "__proto__" := by
  rintro rfl
  exact hs (by decide)

theorem storable_of_core (hs : core s ≠ "__proto__") : Storable s := by
  intro htrim
  have hcore := core_strip isSpace s
  rw [show strip isSpace s = "__proto__" from htrim] at hcore
  exact absurd hcore.symm (ne_of_ne_of_eq hs (by decide))

theorem plain_of_dated (h : DatedContent τ file.content) : Plain file := by
  intro root hroot k v t row hk happ
  obtain ⟨hres, rfl, -, d, hd, -⟩ := appRow?_eq_some_iff.mp happ
  have hcore := (h root hroot k v d hk hres hd).1
  rw [← core_strip isSpace k] at hcore
  exact ne_proto_of_core hcore

theorem Updates.rewrites {content content' : Option Root} {f : Row → Row}
    (h : Updates content s f content') (hs : core s ≠ "__proto__") :
    Rewrites isSpace content s f content' := by
  rcases h with ⟨-, hrewrites⟩ | ⟨hproto, -⟩
  · exact hrewrites
  · exact absurd hproto (ne_proto_of_core hs)

namespace AuthCache

theorem stamps_savedRow (authorized : Bool) (now : ℚ) (hb : Option Double)
    (snapshot : Option (Dict String Json)) :
    Stamps (if authorized then [now] else [])
      (c.savedRow authorized now hb snapshot) := by
  refine .of_saved (fun hauth sub => ?_) fun hauth sub => ?_
  · rw [savedRow, if_pos hauth]
    rcases hb with _ | n
    all_goals
      rcases snapshot with _ | snapshot
      all_goals simp [Dict.get_set, bundleProductDeviceInfoSnapshotKey]
  · simp [savedRow, hauth, Dict.get_set, Dict.get_eraseAll,
      bundleProductRevokeKeys]

theorem stamps_clearedRow : Stamps [] c.clearedRow := by
  refine .of_none fun sub => ?_
  simp [clearedRow, Dict.get_set, Dict.get_eraseAll, bundleProductRevokeKeys]

section

variable (h : DatedContent τ file.content)
  (hs : core c.softwareName ≠ "__proto__")

include h hs

theorem dated_saveCache {authorized : Bool} (hb : Option Double)
    (snapshot : Option (Dict String Json)) {env : SaveEnv}
    (hnow : authorized = true → env.now ≤ τ (core c.softwareName)) :
    DatedContent τ
      (c.saveCache authorized hb snapshot env file).1.content := by
  have hcases := (saveCache_cases (plain_of_dated h) (storable_of_core hs)
    authorized hb snapshot env).2
  exact h.saves hs (stamps_savedRow authorized env.now hb snapshot) hnow
    (hcases.imp (fun hupdates => hupdates.2.rewrites hs) And.right)

theorem dated_clearCache (env : ClearEnv) :
    DatedContent τ (c.clearCache env file).1.content := by
  have hcases := (clearCache_cases (plain_of_dated h) (storable_of_core hs)
    env).2
  exact h.unstamped hs stamps_clearedRow
    (hcases.imp_left fun hupdates => hupdates.rewrites hs)

theorem dated_persistDeviceId (env : PersistEnv) :
    DatedContent τ (c.persistDeviceId env file).1.content := by
  have hcases := (persistDeviceId_cases (plain_of_dated h)
    (storable_of_core hs) env).2
  exact h.unstamped hs (stamps_deviceId c.deviceId)
    (hcases.imp_left fun hupdates => hupdates.rewrites hs)

/-- The timestamp of the row that is read. -/
theorem le_of_rowLastSuccessTs {read : Bool} {row : Row} {ts : ℚ}
    (hrow : c.rowOf (readStateDict read file) = some row)
    (hts : rowLastSuccessTs row = some ts) :
    ts ≤ τ (core c.softwareName) := by
  rw [rowOf, Option.bind_eq_some_iff] at hrow
  obtain ⟨m, hread, hload⟩ := hrow
  obtain ⟨root, hroot, hm⟩ := within_of_readStateDict hread
  have hproto := noProto_of_read (plain_of_dated h) (.inr hroot) hm
  rw [lookup_typeScript hproto (ne_proto_of_core hs)] at hload
  rw [rowLastSuccessTs] at hts
  cases hget : row.get "last_success_at" with
  | none => simp [hget] at hts
  | some v =>
      obtain ⟨ts', hle, hround⟩ := h.of_load (.inr hroot) hm
        (loads_typeScript hproto) hload hget
      have hpositive : positive? (.fin ts') = some ts := by
        rw [hget] at hts
        rcases cases_of_rounded hround with rfl | ⟨n, rfl, hn⟩
        · exact hts
        · rw [← hn]
          exact hts
      obtain ⟨-, hts'⟩ := Option.ite_none_right_eq_some.mp hpositive
      exact Option.some.inj hts' ▸ hle

theorem le_of_cacheRecordFromRow {read : Bool} {cache : CacheRecord}
    (hcache : cacheRecordFromRow (c.rowOf (readStateDict read file)) =
      some cache) : cache.cachedAt ≤ τ (core c.softwareName) := by
  obtain ⟨ts, hbind, rfl⟩ := Option.map_eq_some_iff.mp hcache
  obtain ⟨row, hrow, hts⟩ := Option.bind_eq_some_iff.mp hbind
  exact le_of_rowLastSuccessTs h hs hrow hts

omit h hs in
/-- An entry which is found valid was tested in time. -/
theorem lt_of_isCacheTTLValid {cache : CacheRecord} {now x : ℚ}
    (hle : cache.cachedAt ≤ x)
    (hvalid : c.isCacheTTLValid now (some cache) = true) :
    now < x + c.cacheValiditySeconds := by
  rw [isCacheTTLValid] at hvalid
  split at hvalid
  · contradiction
  · have hage := of_decide_eq_true hvalid
    linarith

/-- A snapshot keeps the bound, and the entry it returns obeys it. -/
theorem dated_snapshotForAuthorizationCheck (env : SnapshotEnv) :
    DatedContent τ (c.snapshotForAuthorizationCheck env file).1.content ∧
      ∀ cache, (c.snapshotForAuthorizationCheck env file).2.1 = some cache →
        cache.cachedAt ≤ τ (core c.softwareName) := by
  have hclear := dated_clearCache h hs env.clear
  rw [snapshotForAuthorizationCheck]
  cases hrow : c.rowOf (readStateDict env.read file) with
  | none => exact ⟨h, by simp⟩
  | some row =>
      dsimp only
      split
      · exact ⟨h, by simp⟩
      split
      · exact ⟨h, by simp⟩
      split
      · refine ⟨h, fun cache hcache => ?_⟩
        rw [← hrow] at hcache
        exact le_of_cacheRecordFromRow h hs hcache
      · exact ⟨hclear, by simp⟩

theorem lt_of_snapshotForAuthorizationCheck {env : SnapshotEnv} {now : ℚ}
    {cache : CacheRecord}
    (hcached : (if c.isCacheTTLValid now
        (c.snapshotForAuthorizationCheck env file).2.1 then
      (c.snapshotForAuthorizationCheck env file).2.1 else none) =
        some cache) :
    now < τ (core c.softwareName) + c.cacheValiditySeconds := by
  obtain ⟨hvalid, hcache⟩ := Option.ite_none_right_eq_some.mp hcached
  rw [hcache] at hvalid
  exact lt_of_isCacheTTLValid
    ((dated_snapshotForAuthorizationCheck h hs env).2 cache hcache) hvalid

end

end AuthCache

/-! ## The checks -/

/-- The answers which a full heartbeat gets. -/
def Online.answers : Online → List Answer
  | .raised _ => []
  | .posted _ _ answer => [answer]

theorem authorized_checkOnline_iff {cl : AuthClient} {online : Online} :
    (cl.checkOnline online).2.authorized = true ↔
      ∃ a ∈ online.answers, grants a = true := by
  rcases online with message | ⟨collected, publicIp, answer⟩
  · constructor
    · intro hauth
      exact absurd hauth Bool.false_ne_true
    · rintro ⟨a, ha, -⟩
      exact absurd ha List.not_mem_nil
  · have hresult := authorized_toResult answer
    constructor
    · intro hauth
      exact ⟨answer, List.mem_singleton_self _, hresult.symm.trans hauth⟩
    · rintro ⟨a, ha, hgrants⟩
      obtain rfl := List.mem_singleton.mp ha
      exact hresult.trans hgrants

/-- What a check owes: `granted` says that it was granted an authorisation. -/
structure Checked.Dated (τ : String → ℚ) (c : AuthCache) (granted : Prop)
    (testedAt : ℚ) (out : Checked) : Prop where
  cache_eq : out.client.cache = c
  content : DatedContent τ out.file.content
  authorised : out.result.authorized = true → granted ∨
    testedAt < τ (core c.softwareName) + c.cacheValiditySeconds

section

variable {cl : AuthClient} {granted granted' : Prop} {testedAt : ℚ}
  {out : Checked}

theorem Checked.Dated.imp (h : out.Dated τ c granted testedAt)
    (himp : granted → granted') : out.Dated τ c granted' testedAt :=
  ⟨h.cache_eq, h.content, fun hauth => (h.authorised hauth).imp_left himp⟩

variable (h : DatedContent τ file.content)
  (hs : core cl.cache.softwareName ≠ "__proto__")

include h hs

theorem dated_persistOnlineResult {cl' : AuthClient}
    (hcache : cl'.cache = cl.cache) {authorized : Bool} (times : Double)
    {env : SaveEnv} (hnow : authorized = true →
      env.now ≤ τ (core cl.cache.softwareName)) :
    DatedContent τ
      (cl'.persistOnlineResult authorized times env file).content := by
  rw [AuthClient.persistOnlineResult, hcache]
  exact AuthCache.dated_saveCache h hs _ _ hnow

/-- A full heartbeat authorises by its answer, or by an entry that may take
the place of one. -/
theorem dated_checkOnlineAndPersist (times : Double) {online : Online}
    {save : SaveEnv} {cached : Option CacheRecord}
    (hcached : ∀ cache, cached = some cache → granted ∨
      testedAt < τ (core cl.cache.softwareName) +
        cl.cache.cacheValiditySeconds)
    (himp : (∃ a ∈ online.answers, grants a = true) → granted)
    (hnow : granted → save.now ≤ τ (core cl.cache.softwareName)) :
    (cl.checkOnlineAndPersist times online save (AuthClient.cachedResult cached)
      file).Dated τ cl.cache granted testedAt := by
  have hcache : (cl.checkOnline online).1.cache = cl.cache :=
    checkOnline_cache online
  have hgranted (hauth : (cl.checkOnline online).2.authorized = true) :
      granted := himp (authorized_checkOnline_iff.mp hauth)
  rw [AuthClient.checkOnlineAndPersist]
  dsimp only
  split
  · refine ⟨hcache, ?_, fun hauth => .inl (hgranted hauth)⟩
    exact dated_persistOnlineResult h hs hcache times
      fun hauth => hnow (hgranted hauth)
  · refine ⟨hcache, h, fun hauth => ?_⟩
    rcases cached with _ | cache
    · exact .inl (hgranted hauth)
    · exact hcached cache rfl

theorem dated_checkAuthorization {env : CheckEnv}
    (hnow : (∃ a ∈ env.online.answers, grants a = true) →
      env.save.now ≤ τ (core cl.cache.softwareName)) :
    (cl.checkAuthorization env file).Dated τ cl.cache
      (∃ a ∈ env.online.answers, grants a = true) env.testAt := by
  have hcontent :=
    (AuthCache.dated_snapshotForAuthorizationCheck h hs env.snapshot).1
  rw [AuthClient.checkAuthorization]
  exact dated_checkOnlineAndPersist hcontent hs _
    (fun cache hcache => .inr
      (AuthCache.lt_of_snapshotForAuthorizationCheck h hs hcache)) id hnow

/-- One of the answers to a progressive check is an authorisation. -/
theorem dated_checkAuthorizationProgressive {env : ProgressiveEnv}
    (hnow : (∃ a ∈ progressiveAnswers env.light env.full.answers,
        grants a = true) → ∀ now ∈ [env.saveLight.now, env.saveFull.now],
      now ≤ τ (core cl.cache.softwareName)) :
    (cl.checkAuthorizationProgressive env file).Dated τ cl.cache
      (∃ a ∈ progressiveAnswers env.light env.full.answers, grants a = true)
      env.testAt := by
  have hcontent :=
    (AuthCache.dated_snapshotForAuthorizationCheck h hs env.snapshot).1
  rw [AuthClient.checkAuthorizationProgressive]
  rcases hlight : env.light with message | ⟨authorized, message⟩
  all_goals rw [hlight] at hnow
  · -- Without an answer to the light heartbeat the full one is a plain check.
    refine dated_checkOnlineAndPersist hcontent hs _ (fun cache hcache =>
      .inr (AuthCache.lt_of_snapshotForAuthorizationCheck h hs hcache)) ?_
      fun hgranted => hnow hgranted _ (by simp)
    rintro ⟨a, ha, hgrants⟩
    exact ⟨a, List.mem_cons_of_mem _ ha, hgrants⟩
  · cases authorized with
    | false =>
        refine ⟨rfl, ?_, fun hauth => absurd hauth Bool.false_ne_true⟩
        exact dated_persistOnlineResult hcontent hs rfl _
          fun hauth => absurd hauth Bool.false_ne_true
    | true =>
        have hgranted : ∃ a ∈ progressiveAnswers (.answered true message)
            env.full.answers, grants a = true :=
          ⟨_, List.mem_cons_self, rfl⟩
        have hpersisted (times : Double) : DatedContent τ
            (cl.persistOnlineResult true times env.saveLight
              (cl.cache.snapshotForAuthorizationCheck env.snapshot
                file).1).content :=
          dated_persistOnlineResult hcontent hs rfl times
            fun _ => hnow hgranted _ (by simp)
        exact dated_checkOnlineAndPersist (hpersisted _) hs _
          (fun _ _ => .inl hgranted) (fun _ => hgranted)
          fun _ => hnow hgranted _ (by simp)

/-- What `canSoftLaunch` tests. -/
theorem lt_of_canSoftLaunch {read : Bool} {now : ℚ}
    (hlaunch : cl.canSoftLaunch read now file = true) :
    now < τ (core cl.cache.softwareName) +
      cl.cache.cacheValiditySeconds := by
  rw [AuthClient.canSoftLaunch] at hlaunch
  cases hcache : cl.cache.getCache read file with
  | none => simp [hcache] at hlaunch
  | some cache =>
      rw [hcache, Bool.and_eq_true] at hlaunch
      exact AuthCache.lt_of_isCacheTTLValid
        (AuthCache.le_of_cacheRecordFromRow h hs hcache) hlaunch.2

end

/-! ## The SDK -/

/-- A call of the client, with everything its environment decides; the disk may
fail at any point. -/
inductive AnyCall
  | check (env : CheckEnv)
  | progressive (env : ProgressiveEnv)
  | clear (env : ClearEnv)
  | softLaunch (read : Bool) (now : ℚ)

namespace AnyCall

def perform (cl : AuthClient) (file : StateFile) : AnyCall → Acted AuthClient
  | .check env =>
      let out := cl.checkAuthorization env file
      ⟨out.client, out.file, out.result.authorized = true⟩
  | .progressive env =>
      let out := cl.checkAuthorizationProgressive env file
      ⟨out.client, out.file, out.result.authorized = true⟩
  | .clear env => ⟨cl, (cl.cache.clearCache env file).1, False⟩
  | .softLaunch read now => ⟨cl, file, cl.canSoftLaunch read now file = true⟩

def answers : AnyCall → List Answer
  | .check env => env.online.answers
  | .progressive env => progressiveAnswers env.light env.full.answers
  | .clear _ | .softLaunch _ _ => []

def saveTimes : AnyCall → List ℚ
  | .check env => [env.save.now]
  | .progressive env => [env.saveLight.now, env.saveFull.now]
  | .clear _ | .softLaunch _ _ => []

def testedAt : AnyCall → ℚ
  | .check env => env.testAt
  | .progressive env => env.testAt
  | .clear _ => 0
  | .softLaunch _ now => now

end AnyCall

/-- The TypeScript SDK; `parse` is `JSON.parse`. -/
def runtime (parse : String → Option Json) : Runtime where
  Client := AuthClient
  Construction := AuthClientConfig × ConstructEnv
  Call := AnyCall
  product cl := cl.cache.softwareName
  validity cl := cl.cache.cacheValiditySeconds
  productOf x := x.1.softwareName
  construct x file := some (newAuthClient parse x.1 x.2 file)
  act call cl file := some (call.perform cl file)
  answers := AnyCall.answers
  saveTimes := AnyCall.saveTimes
  testedAt := AnyCall.testedAt

theorem dated_buildDeviceId (h : DatedContent τ file.content)
    {softwareName : String} (hs : core softwareName ≠ "__proto__")
    (provided : String) (env : ConstructEnv) :
    DatedContent τ
      (buildDeviceId softwareName provided env file).1.content := by
  have hpersist (id : String) : DatedContent τ
      ((newAuthCache softwareName id 0).persistDeviceId env.persist
        file).1.content :=
    AuthCache.dated_persistDeviceId (c := newAuthCache softwareName id 0) h hs
      env.persist
  rw [buildDeviceId]
  dsimp only
  repeat' split
  all_goals first | exact hpersist _ | exact h

theorem dated_newAuthClient (h : DatedContent τ file.content)
    (parse : String → Option Json) {config : AuthClientConfig}
    (hs : core config.softwareName ≠ "__proto__")
    (env : ConstructEnv) :
    DatedContent τ (newAuthClient parse config env file).1.content ∧
      ∀ cl ∈ (newAuthClient parse config env file).2,
        cl.cache.softwareName = config.softwareName := by
  rw [newAuthClient]
  split
  · exact ⟨h, by simp⟩
  · refine ⟨dated_buildDeviceId h hs config.deviceId env, fun cl hcl => ?_⟩
    obtain ⟨⟨info, deferred⟩, -, rfl⟩ := Option.map_eq_some_iff.mp hcl
    rfl

theorem runtime_sound (parse : String → Option Json) :
    (runtime parse).Sound where
  construct := by
    rintro τ x file file' made hmade hs h
    obtain ⟨rfl, rfl⟩ := Prod.mk.inj (Option.some.inj hmade)
    exact dated_newAuthClient h parse hs x.2
  act := by
    rintro τ call cl file out hout hs h hnow
    obtain rfl := Option.some.inj hout
    have hchecked {out : Checked} {granted : Prop} {testedAt : ℚ}
        (h : out.Dated τ cl.cache granted testedAt) :
        out.client.cache.softwareName = cl.cache.softwareName ∧
          DatedContent τ out.file.content ∧
          (out.result.authorized = true → granted ∨ testedAt <
            τ (core cl.cache.softwareName) +
              cl.cache.cacheValiditySeconds) :=
      ⟨congrArg AuthCache.softwareName h.cache_eq, h.content, h.authorised⟩
    cases call with
    | check env =>
        refine hchecked (dated_checkAuthorization h hs fun hgranted => ?_)
        exact hnow hgranted _ (List.mem_singleton_self _)
    | progressive env =>
        exact hchecked (dated_checkAuthorizationProgressive h hs hnow)
    | clear env =>
        exact ⟨rfl, AuthCache.dated_clearCache h hs env, False.elim⟩
    | softLaunch read now =>
        exact ⟨rfl, h, fun hlaunch => .inr (lt_of_canSoftLaunch h hs hlaunch)⟩

end PyAuth.TypeScript
