import PyAuth.Client.Expiry
import PyAuth.Sdk.Leases
import PyAuth.Sdk.PythonSnapshots

/-!
# Leases of the Python SDK

What the operations of the Python cache do to all timestamps in the state file
of one server, and that constructions and calls keep within the lease.  What a
call reads of its own product is known from `AnyCall.perform_spec`.
-/

namespace PyAuth.Client

open Support Sdk

variable {β : Type} {P : Primitives β} {τ : String → ℚ} {c : AuthCache}
  {url : String} {st st' : Storage β}

/-- No timestamp which can be read is later than `τ` says. -/
abbrev Storage.Dated (P : Primitives β) (url : String) (τ : String → ℚ)
    (st : Storage β) : Prop :=
  DatedContent τ (stateRoot P url st)

/-- The device id in the root is no row. -/
theorem dated_iff : st.Dated P url τ ↔
    DatedContent τ (stateFile P url st).content := by
  have herase (root : Root) : RowsSatisfy (DatedRow τ) (root.erase "device_id") ↔
      RowsSatisfy (DatedRow τ) root := RowsSatisfy.erase_iff (by decide)
  rw [Storage.Dated, stateRoot_eq_content]
  cases (stateFile P url st).content with
  | none => exact Iff.rfl
  | some root =>
      constructor
      · rintro h _ ⟨⟩
        exact (herase root).mp (h _ rfl)
      · rintro h _ ⟨⟩
        exact (herase root).mpr (h _ rfl)

/-- The timestamps of one product among them. -/
theorem Storage.Dated.stampedBy (h : st.Dated P c.serverUrl τ) :
    c.StampedBy P (τ (core c.softwareName)) st := by
  intro x hx
  rw [AuthCache.currentTs, AuthCache.currentRow, AuthCache.rowOf_eq,
    Option.bind_eq_some_iff] at hx
  obtain ⟨row, hrow, hts⟩ := hx
  obtain ⟨d, hd, hget⟩ :=
    Option.bind_eq_some_iff.mp (Option.filter_eq_some_iff.mp hrow).1
  rw [rowLastSuccessTs] at hts
  cases hv : row.get "last_success_at" with
  | none =>
      rw [hv] at hts
      contradiction
  | some v =>
      obtain ⟨ts, hle, hround⟩ :=
        h.of_load (.inr hd) (.refl d) (loads_python d) hget hv
      have hpos : (if (Double.fin ts).isPos then some (Double.fin ts)
          else none) = some x := by
        rw [hv] at hts
        rcases cases_of_rounded hround with rfl | ⟨n, rfl, hn⟩
        · exact hts
        · simpa only [Python.float_int hn] using hts
      exact ⟨ts, hle,
        (Option.some.inj (Option.ite_none_right_eq_some.mp hpos).2).symm⟩

/-! ## The operations on the file -/

namespace AuthCache

theorem stamps_savedRow (authorized : Bool) (now : ℚ) (hb snap : Json) :
    Stamps (if authorized then [now] else [])
      (c.savedRow authorized (.float (.fin now)) hb snap) := by
  refine .of_saved (fun hauth sub => ?_) fun hauth sub => ?_
  · rw [hauth, get_savedRow_last_success_at]
  · rw [hauth, savedRow_false, get_clearedRow]
    simp [bundleProductRevokeKeys]

theorem stamps_clearedRow : Stamps [] c.clearedRow := by
  refine .of_none fun sub => ?_
  rw [get_clearedRow]
  simp [bundleProductRevokeKeys]

end AuthCache

namespace Storage.Dated

theorem of_stateRoot (h : st.Dated P url τ)
    (hroot : stateRoot P url st' = stateRoot P url st) :
    st'.Dated P url τ := by
  rw [Storage.Dated, hroot]
  exact h

theorem saveCache (h : st.Dated P c.serverUrl τ)
    (hs : core c.softwareName ≠ "__proto__") {authorized : Bool}
    (hb snap : Json) {io : SaveEnv}
    (hnow : authorized = true → io.now ≤ τ (core c.softwareName)) :
    (c.saveCache P authorized .null hb snap io st).1.Dated P c.serverUrl τ :=
  h.saves hs (AuthCache.stamps_savedRow authorized io.now hb snap) hnow
    ((AuthCache.saveCache_cases c authorized hb snap io st).imp And.right
      And.right)

theorem saveAttempts (h : st.Dated P c.serverUrl τ)
    (hs : core c.softwareName ≠ "__proto__") {authorized : Bool}
    (hb snap : Json) {ios : List SaveEnv} (hnow : authorized = true →
      ∀ io ∈ ios, io.now ≤ τ (core c.softwareName)) :
    (saveAttempts P c authorized hb snap ios st).1.Dated P c.serverUrl τ := by
  induction ios generalizing st with
  | nil => exact h
  | cons io ios ih =>
      have hsave := h.saveCache hs hb snap fun hauth =>
        hnow hauth io List.mem_cons_self
      rw [Client.saveAttempts]
      dsimp only
      split
      · exact hsave
      · exact ih hsave fun hauth io' hio' =>
          hnow hauth io' (List.mem_cons_of_mem _ hio')

theorem clearCache (h : st.Dated P c.serverUrl τ)
    (hs : core c.softwareName ≠ "__proto__") (io : ClearEnv) :
    (c.clearCache P io st).1.Dated P c.serverUrl τ :=
  h.unstamped hs AuthCache.stamps_clearedRow
    (AuthCache.clearCache_cases c io st)

theorem snapshotAuthRow (h : st.Dated P c.serverUrl τ)
    (hs : core c.softwareName ≠ "__proto__") (io : SnapshotEnv) :
    (c.snapshotAuthRow P io st).1.Dated P c.serverUrl τ := by
  have hread : (c.readRow P io.read st).1.Dated P c.serverUrl τ :=
    h.of_stateRoot (stateRoot_readStateDict _ _)
  have hclear := hread.clearCache hs io.clear
  rw [AuthCache.snapshotAuthRow]
  dsimp only
  repeat' split
  all_goals first | exact hread | exact hclear

end Storage.Dated

/-! ## The calls on the file -/

section

variable {cl : AuthClient} (h : st.Dated P cl.cache.serverUrl τ)
  (hs : core cl.cache.softwareName ≠ "__proto__")

include h hs

namespace Storage.Dated

theorem checkSnapshot (io : SnapshotEnv) :
    (cl.checkSnapshot P io st).1.Dated P cl.cache.serverUrl τ := by
  have hsnapshot := h.snapshotAuthRow hs io
  rw [AuthClient.checkSnapshot]
  rcases hresult : cl.cache.snapshotAuthRow P io st with ⟨st', error | r⟩
  all_goals
    rw [hresult] at hsnapshot
    exact hsnapshot

theorem writeCheckCacheRetries {cl' : AuthClient}
    (hcache : cl'.cache = cl.cache) {authorized : Bool} (times : ℤ)
    {ios : Attempts} (hnow : authorized = true → ∀ io ∈ ios.1,
      io.now ≤ τ (core cl.cache.softwareName)) :
    (cl'.writeCheckCacheRetries P authorized times ios st).1.Dated P
      cl.cache.serverUrl τ := by
  rw [AuthClient.writeCheckCacheRetries, hcache]
  exact h.saveAttempts hs _ _ hnow

theorem onlineOrCached (times : ℤ) (cached : Option CacheData)
    {online : Online} {save : Attempts}
    (hnow : (cl.checkOnline times online).2.2.authorized = true →
      ∀ io ∈ save.1, io.now ≤ τ (core cl.cache.softwareName)) :
    (cl.onlineOrCached P times cached online save st).storage.Dated P
      cl.cache.serverUrl τ := by
  have hcache := (cl.checkOnline_spec times online).1
  rw [AuthClient.onlineOrCached]
  dsimp only
  split
  · exact h.writeCheckCacheRetries hs hcache times hnow
  · rcases cached with _ | cache
    · exact h
    · exact h

theorem completeLight (times : ℤ) {io : ProgressiveEnv}
    (hnow : ∀ io' ∈ io.saveFull.1,
      io'.now ≤ τ (core cl.cache.softwareName)) :
    (cl.completeLight P times io st).storage.Dated P cl.cache.serverUrl
      τ := by
  have hcache := (cl.checkOnline_spec times io.full).1
  have hget : (cl.cache.getCache P io.retest st).1.Dated P
      cl.cache.serverUrl τ := h.of_stateRoot (stateRoot_readStateDict _ _)
  rw [AuthClient.completeLight]
  dsimp only
  split
  · exact h.writeCheckCacheRetries hs hcache times fun _ => hnow
  · rw [hcache]
    rcases hread : cl.cache.getCache P io.retest st with ⟨st', _ | cache⟩
    all_goals rw [hread] at hget
    · exact hget
    · have hvalid : (cl.cache.isCacheValid P io.retestValid io.retestAt
          st').1.Dated P cl.cache.serverUrl τ :=
        hget.of_stateRoot (stateRoot_readStateDict _ _)
      dsimp only
      split
      · exact hvalid
      · exact hvalid

end Storage.Dated

end

/-! ## The answers -/

/-- The answers which a full heartbeat gets. -/
def Online.answers : Online → List Answer
  | .abandoned _ _ => []
  | .posted _ _ answer => [answer]

namespace AnyCall

def answers : AnyCall → List Answer
  | .check io => io.online.answers
  | .progressive io => progressiveAnswers io.light io.full.answers
  | .clear _ | .softLaunch _ _ _ => []

end AnyCall

section

variable {cl : AuthClient} {times : ℤ} {online : Online}

theorem authorized_checkOnline_iff :
    (cl.checkOnline times online).2.2.authorized = true ↔
      ∃ a ∈ online.answers, grants a = true := by
  rcases online with ⟨collected, message⟩ | ⟨collected, publicIp, answer⟩
  · constructor
    · intro hauth
      rcases collected with _ | collected <;> contradiction
    · rintro ⟨a, ha, -⟩
      contradiction
  · have hresult := authorized_toResult answer
    constructor
    · intro hauth
      exact ⟨answer, List.mem_singleton_self _, hresult.symm.trans hauth⟩
    · rintro ⟨a, ha, hgrants⟩
      obtain rfl := List.mem_singleton.mp ha
      exact hresult.trans hgrants

/-- A granted heartbeat has got such an answer. -/
theorem grants_of_checkOnline
    (h : Granted ((cl.checkOnline times online).2.1.map .heartbeat)) :
    ∃ a ∈ online.answers, grants a = true := by
  obtain ⟨hb, hmem, hanswer⟩ := granted_map.mp h
  obtain ⟨-, -, -, hfail, hok⟩ := cl.checkOnline_spec times online
  by_cases hsuccess : (cl.checkOnline times online).2.2.success = true
  · obtain ⟨hb', hsent, hanswer'⟩ := hok hsuccess
    rw [hsent, List.mem_singleton] at hmem
    rw [← hmem, hanswer] at hanswer'
    exact authorized_checkOnline_iff.mp (Option.some.inj hanswer').symm
  · rw [hfail (Bool.eq_false_iff.mpr hsuccess) hb hmem] at hanswer
    contradiction

theorem grants_of_onlineOrCached {cached : Option CacheData} {save : Attempts}
    (h : Granted ((cl.onlineOrCached P times cached online save
      st).heartbeats.map .heartbeat)) :
    ∃ a ∈ online.answers, grants a = true := by
  rw [AuthClient.onlineOrCached] at h
  dsimp only at h
  split at h
  · exact grants_of_checkOnline (granted_recordSave.mp h)
  · rcases cached with _ | cache
    · exact grants_of_checkOnline h
    · exact grants_of_checkOnline h

/-- Whenever a heartbeat of a call is granted, one of the answers grants it. -/
theorem AnyCall.grants_of_granted {call : AnyCall}
    (h : Granted (call.perform P cl st).events) :
    ∃ a ∈ call.answers, grants a = true := by
  cases call with
  | check io => exact grants_of_onlineOrCached h
  | progressive io =>
      change Granted ((cl.checkAuthorizationProgressive P io
        st).heartbeats.map .heartbeat) at h
      rw [AuthClient.checkAuthorizationProgressive] at h
      rw [answers]
      rcases hlight : io.light with message | ⟨authorized, message⟩
      · simp only [hlight, AuthClient.checkOnlineFast, Answer.toResult,
          Bool.false_eq_true, if_false] at h
        obtain ⟨hb, hmem, hanswer⟩ := granted_map.mp h
        rcases List.mem_cons.mp hmem with rfl | hmem
        · contradiction
        · obtain ⟨a, ha, hgrants⟩ := grants_of_onlineOrCached
            (granted_map.mpr ⟨hb, hmem, hanswer⟩)
          exact ⟨a, List.mem_cons_of_mem _ ha, hgrants⟩
      · cases authorized with
        | true => exact ⟨_, List.mem_cons_self, rfl⟩
        | false =>
            simp only [hlight, AuthClient.checkOnlineFast, Answer.toResult,
              Bool.false_eq_true, if_false, if_true] at h
            obtain ⟨hb, hmem, hanswer⟩ :=
              granted_map.mp (granted_recordSave.mp h)
            obtain rfl := List.mem_singleton.mp hmem
            have hfalse : some false = some true := hanswer
            contradiction
  | clear io =>
      obtain ⟨hb, hmem, -⟩ := h
      obtain hcleared := List.mem_singleton.mp hmem
      contradiction
  | softLaunch io ioValid now =>
      obtain ⟨hb, hmem, -⟩ := h
      contradiction

end

/-- What a call does to the file. -/
theorem AnyCall.dated_perform {cl : AuthClient} (call : AnyCall)
    (h : st.Dated P cl.cache.serverUrl τ)
    (hs : core cl.cache.softwareName ≠ "__proto__")
    (hnow : (∃ a ∈ call.answers, grants a = true) →
      ∀ now ∈ call.saveTimes, now ≤ τ (core cl.cache.softwareName)) :
    (call.perform P cl st).storage.Dated P cl.cache.serverUrl τ := by
  cases call with
  | check io =>
      refine (h.checkSnapshot hs io.snapshot).onlineOrCached hs _ _
        fun hauth io' hio' => ?_
      exact hnow (authorized_checkOnline_iff.mp hauth) io'.now
        (List.mem_map_of_mem hio')
  | progressive io =>
      have hsnapshot := h.checkSnapshot hs io.snapshot
      have htimes (hgranted : ∃ a ∈ progressiveAnswers io.light
            io.full.answers, grants a = true) :
          ∀ io' ∈ io.saveLight.1 ++ io.saveFull.1,
            io'.now ≤ τ (core cl.cache.softwareName) :=
        fun io' hio' => hnow hgranted io'.now (List.mem_map_of_mem hio')
      change (cl.checkAuthorizationProgressive P io st).storage.Dated P
        cl.cache.serverUrl τ
      rw [AuthClient.checkAuthorizationProgressive]
      rcases hlight : io.light with message | ⟨authorized, message⟩
      all_goals rw [hlight] at htimes
      · refine hsnapshot.onlineOrCached hs _ _ fun hauth io' hio' => ?_
        obtain ⟨a, ha, hgrants⟩ := authorized_checkOnline_iff.mp hauth
        exact htimes ⟨a, List.mem_cons_of_mem _ ha, hgrants⟩ io'
          (List.mem_append_right _ hio')
      · cases authorized with
        | false =>
            exact hsnapshot.writeCheckCacheRetries hs rfl _
              fun hauth => absurd hauth Bool.false_ne_true
        | true =>
            have hlater := htimes ⟨_, List.mem_cons_self, rfl⟩
            refine (hsnapshot.writeCheckCacheRetries hs rfl _
              fun _ io' hio' => ?_).completeLight hs _ fun io' hio' => ?_
            · exact hlater io' (List.mem_append_left _ hio')
            · exact hlater io' (List.mem_append_right _ hio')
  | clear io => exact h.clearCache hs io
  | softLaunch io ioValid now =>
      have hget : (cl.cache.getCache P io st).1.Dated P cl.cache.serverUrl
          τ := h.of_stateRoot (stateRoot_readStateDict _ _)
      simp only [perform, AuthClient.canSoftLaunch]
      rcases hread : cl.cache.getCache P io st with ⟨st', _ | cache⟩
      all_goals rw [hread] at hget
      · exact hget
      · dsimp only
        split
        · exact hget.of_stateRoot (stateRoot_readStateDict _ _)
        · exact hget

/-! ## The SDK -/

/-- The Python SDK on the state file of the server `url`.  A construction or a
call comes with a storage root which holds the file. -/
def runtime (P : Primitives β) (url : String) : Runtime where
  Client := AuthClient
  Construction := Storage β × ClientConfig × ConstructEnv
  Call := Storage β × AnyCall
  product cl := cl.cache.softwareName
  validity cl := cl.cache.cacheValiditySeconds
  productOf x := x.2.1.softwareName
  construct x file :=
    if stateFile P url x.1 = file ∧ x.2.1.stateUrl = url then
      let made := newAuthClient P x.2.1 x.2.2 x.1
      some (stateFile P url made.1, made.2)
    else none
  act call cl file :=
    if stateFile P url call.1 = file ∧ cl.cache.serverUrl = url then
      let out := call.2.perform P cl call.1
      some ⟨out.client, stateFile P url out.storage, out.reply.Authorises⟩
    else none
  answers call := call.2.answers
  saveTimes call := call.2.saveTimes
  testedAt call := call.2.testedAt

theorem runtime_construct {config : ClientConfig} (io : ConstructEnv)
    (h : config.stateUrl = url) :
    (runtime P url).construct (st, config, io) (stateFile P url st) =
      some (stateFile P url (newAuthClient P config io st).1,
        (newAuthClient P config io st).2) :=
  if_pos ⟨rfl, h⟩

theorem runtime_act {cl : AuthClient} (call : AnyCall)
    (h : cl.cache.serverUrl = url) :
    (runtime P url).act (st, call) cl (stateFile P url st) =
      some ⟨(call.perform P cl st).client,
        stateFile P url (call.perform P cl st).storage,
        (call.perform P cl st).reply.Authorises⟩ :=
  if_pos ⟨rfl, h⟩

/-- Every file is that of a storage root. -/
theorem exists_stateFile_eq (P : Primitives β) (url : String)
    (st : Storage β) (file : StateFile) :
    ∃ raw, stateFile P url (st.put (bundlePath P url) raw) = file := by
  rcases file with _ | _ | d
  · exact ⟨none, stateFile_put none⟩
  · refine ⟨some [], ?_⟩
    rw [stateFile_put]
    rfl
  · refine ⟨some (sealBundle P url d st), ?_⟩
    rw [stateFile_put]
    simp [openBundle_sealBundle]

theorem dated_newAuthClient {config : ClientConfig}
    (h : st.Dated P config.stateUrl τ)
    (hs : core config.softwareName ≠ "__proto__")
    (io : ConstructEnv) :
    (newAuthClient P config io st).1.Dated P config.stateUrl τ ∧
      ∀ cl ∈ (newAuthClient P config io st).2,
        cl.cache.softwareName = config.softwareName := by
  obtain ⟨id, -, hcache, hroot⟩ := stateRoot_newAuthClient config io st
  refine ⟨?_, fun cl hcl => congrArg AuthCache.softwareName (hcache cl hcl)⟩
  rcases hroot with hroot | hroot
  · exact h.of_stateRoot hroot
  · rw [Storage.Dated, hroot]
    exact h.unstamped hs (stamps_deviceId id)
      (rootAfterPersist_cases config.softwareName id io.persist _)

theorem runtime_sound (P : Primitives β) (url : String) :
    (runtime P url).Sound where
  construct := by
    rintro τ ⟨st, config, io⟩ file file' made hmade hs h
    obtain ⟨⟨rfl, rfl⟩, hsome⟩ := Option.ite_none_right_eq_some.mp hmade
    obtain ⟨rfl, rfl⟩ := Prod.mk.inj (Option.some.inj hsome)
    obtain ⟨hdated, hproduct⟩ := dated_newAuthClient (dated_iff.mpr h) hs io
    exact ⟨dated_iff.mp hdated, hproduct⟩
  act := by
    rintro τ ⟨st, call⟩ (cl : AuthClient) file (out : Acted AuthClient) hout
      hs h hnow
    obtain ⟨⟨rfl, rfl⟩, hsome⟩ := Option.ite_none_right_eq_some.mp hout
    obtain rfl := Option.some.inj hsome
    have hdated : st.Dated P cl.cache.serverUrl τ := dated_iff.mpr h
    obtain ⟨hcache, -, hauth, -⟩ := call.perform_spec hdated.stampedBy
      fun hgranted => hnow (AnyCall.grants_of_granted hgranted)
    refine ⟨congrArg AuthCache.softwareName hcache,
      dated_iff.mp (call.dated_perform hdated hs hnow), fun hauthorises => ?_⟩
    exact (hauth hauthorises).imp_left AnyCall.grants_of_granted

end PyAuth.Client
