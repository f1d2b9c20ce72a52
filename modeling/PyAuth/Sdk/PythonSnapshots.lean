import PyAuth.Client.Construction
import PyAuth.Client.DiskFailure
import PyAuth.Sdk.Fleet

/-!
# Snapshots of the Python SDK

What the operations of the Python cache do to the snapshots in the state file
of one server, and that constructions and checks are sound.  A full heartbeat
which the time limit abandons may still complete the information of its client
later.
-/

namespace PyAuth.Client

open Support Sdk

variable {β : Type} {P : Primitives β} {C : Set (Dict String Json)}
  {st : Storage β}

/-! ## The operations on the file -/

/-- What a read returns, or an empty object in its place. -/
theorem within_of_read (read : Bool) (root : Option Root) :
    ∃ d, (d = .empty ∨ root = some d) ∧
      Within d ((if read then root else none).getD .empty) := by
  have hempty : ∃ d, (d = .empty ∨ root = some d) ∧ Within d .empty :=
    ⟨.empty, Or.inl rfl, .refl _⟩
  cases read with
  | false => exact hempty
  | true =>
      cases root with
      | none => exact hempty
      | some d => exact ⟨d, Or.inr rfl, .refl d⟩

/-- What an update leaves when it is written. -/
theorem rewrites_updateRow {content : Option Root} {root m : Root}
    (s : String) (f : Row → Row)
    (hroot : root = .empty ∨ content = some root) (hm : Within root m) :
    Rewrites Python.isSpace content s f
      (some ((updateRow m s f).erase "device_id")) := by
  exact ⟨root, m, _, _, _, hroot, hm, loads_python m,
    rewritten_updateRow_python m s f, rfl,
    (Within.refl (updateRow m s f)).erase _⟩

namespace AuthCache

variable {c : AuthCache}

/-- Writing with a repetition. -/
theorem writeBundle_cases (data : Root) (io : BundleEnv) (st : Storage β) :
    (io.Completes ∧ stateRoot P c.serverUrl
        (c.writeBundleWithRetry P data io st).1 =
          some (data.erase "device_id")) ∨
      (¬io.Completes ∧ Keeps (stateRoot P c.serverUrl st)
        (stateRoot P c.serverUrl (c.writeBundleWithRetry P data io st).1)) := by
  have hroot := (writeBundle_spec (P := P) (c := c) data io st).2
  by_cases hdone : io.Completes
  · rw [if_pos hdone] at hroot
    exact Or.inl ⟨hdone, hroot⟩
  · rw [if_neg hdone] at hroot
    refine Or.inr ⟨hdone, ?_⟩
    rw [hroot]
    split
    · exact Or.inr rfl
    · exact .refl _

theorem saveCache_cases (c : AuthCache) (authorized : Bool) (hb snap : Json)
    (io : SaveEnv) (st : Storage β) :
    (io.write.Completes ∧ Rewrites Python.isSpace (stateRoot P c.serverUrl st)
        c.softwareName (c.savedRow authorized (.float (.fin io.now)) hb snap)
        (stateRoot P c.serverUrl
          (c.saveCache P authorized .null hb snap io st).1)) ∨
      (¬io.write.Completes ∧ Keeps (stateRoot P c.serverUrl st)
        (stateRoot P c.serverUrl
          (c.saveCache P authorized .null hb snap io st).1)) := by
  obtain ⟨root, hroot, hm⟩ :=
    within_of_read io.read.read (stateRoot P c.serverUrl st)
  simp only [saveCache, readStateDict_snd, if_true]
  rcases writeBundle_cases (P := P) (c := c)
      (c.saveRoot authorized (.float (.fin io.now)) hb snap
        ((if io.read.read then stateRoot P c.serverUrl st
          else none).getD .empty))
      io.write (readStateDict P c.serverUrl io.read st).1
    with ⟨hdone, hwritten⟩ | ⟨hfail, hkeeps⟩
  · rw [hwritten]
    exact Or.inl ⟨hdone,
      rewrites_updateRow c.softwareName _ hroot (hm.eraseAll _)⟩
  · rw [stateRoot_readStateDict] at hkeeps
    exact Or.inr ⟨hfail, hkeeps⟩

theorem clearCache_cases (c : AuthCache) (io : ClearEnv) (st : Storage β) :
    Rewrites Python.isSpace (stateRoot P c.serverUrl st) c.softwareName c.clearedRow
        (stateRoot P c.serverUrl (c.clearCache P io st).1) ∨
      Keeps (stateRoot P c.serverUrl st)
        (stateRoot P c.serverUrl (c.clearCache P io st).1) := by
  rw [(clearCache_spec c io st).1, clearOutcome]
  split
  · exact Or.inr (.refl _)
  next d hd =>
    rw [Option.ite_none_right_eq_some] at hd
    split
    · exact Or.inr (.refl _)
    · split
      · split
        · exact Or.inl (rewrites_updateRow c.softwareName _ (Or.inr hd.2)
            ((Within.refl d).eraseAll _))
        · split
          · exact Or.inr (Or.inr rfl)
          · exact Or.inr (.refl _)
      · split
        · exact Or.inr (Or.inr rfl)
        · exact Or.inr (.refl _)

/-! ## The rows they write -/

variable {sub : Row}

theorem rowFrom_clearedRow : RowFrom C (c.clearedRow sub) := by
  apply RowFrom.of_none
  rw [get_clearedRow]
  simp [bundleProductRevokeKeys, bundleProductDeviceInfoSnapshotKey]

/-- An authorisation stores the information it is given, anything else
removes what was stored. -/
theorem rowFrom_savedRow {authorized : Bool} {ts hb : Json}
    {info : Dict String Json} (hinfo : FromCollection C info)
    (hsub : info.isEmpty = false ∨ RowFrom C sub) :
    RowFrom C (c.savedRow authorized ts hb
      (if authorized then Json.ofDict info else .null) sub) := by
  cases authorized with
  | false => exact rowFrom_clearedRow
  | true =>
      by_cases hempty : info.isEmpty = false
      · exact .of_info hinfo (get_savedRow_snapshot hempty)
      · apply (hsub.resolve_left hempty).of_get_eq
        right
        simp only [savedRow, if_true, Json.dict?_ofDict, hempty]
        split <;> simp [Dict.get_set]

end AuthCache

/-! ## What they do to the snapshots -/

section Checks

variable {cl : AuthClient} {url : String}

/-- All snapshots which can be read from the file come from collections. -/
abbrev Storage.From (P : Primitives β) (url : String)
    (C : Set (Dict String Json)) (st : Storage β) : Prop :=
  ContentFrom C (stateRoot P url st)

theorem from_clearCache {c : AuthCache} (h : st.From P c.serverUrl C)
    (io : ClearEnv) : (c.clearCache P io st).1.From P c.serverUrl C := by
  rcases AuthCache.clearCache_cases (P := P) c io st with hr | hk
  · exact h.rewrites hr fun _ _ => AuthCache.rowFrom_clearedRow
  · exact h.keeps hk

theorem from_snapshotAuthRow {c : AuthCache} (h : st.From P c.serverUrl C)
    (io : SnapshotEnv) :
    (c.snapshotAuthRow P io st).1.From P c.serverUrl C := by
  have hread : (c.readRow P io.read st).1.From P c.serverUrl C := by
    rw [AuthCache.readRow]
    exact h.keeps (Or.inl (stateRoot_readStateDict _ _))
  have hclear := from_clearCache hread io.clear
  rw [AuthCache.snapshotAuthRow]
  dsimp only
  repeat' split
  all_goals first | exact hread | exact hclear

theorem from_checkSnapshot (hurl : cl.cache.serverUrl = url)
    (h : st.From P url C) (io : SnapshotEnv) :
    (cl.checkSnapshot P io st).1.From P url C := by
  subst hurl
  have hsnapshot := from_snapshotAuthRow h io
  rw [AuthClient.checkSnapshot]
  split
  next heq =>
    rw [heq] at hsnapshot
    exact hsnapshot
  next heq =>
    rw [heq] at hsnapshot
    exact hsnapshot

/-- An attempt among them completes its write. -/
def Attempts.Completes (ios : Attempts) : Prop :=
  ∃ io ∈ ios.1, io.write.Completes

instance (ios : Attempts) : Decidable ios.Completes :=
  inferInstanceAs (Decidable (∃ io ∈ ios.1, io.write.Completes))

theorem saveAttempts_cases (c : AuthCache) (authorized : Bool)
    (hb snap : Json) (ios : List SaveEnv) (st : Storage β) :
    ((∃ io ∈ ios, io.write.Completes) ∧ ∃ now,
        Rewrites Python.isSpace (stateRoot P c.serverUrl st) c.softwareName
          (c.savedRow authorized (.float (.fin now)) hb snap)
          (stateRoot P c.serverUrl
            (saveAttempts P c authorized hb snap ios st).1)) ∨
      ((¬∃ io ∈ ios, io.write.Completes) ∧
        Keeps (stateRoot P c.serverUrl st) (stateRoot P c.serverUrl
          (saveAttempts P c authorized hb snap ios st).1)) := by
  induction ios generalizing st with
  | nil => exact Or.inr ⟨by simp, .refl _⟩
  | cons io ios ih =>
      have hok : (c.saveCache P authorized .null hb snap io st).2 =
          decide io.write.Completes := (writeBundle_spec _ _ _).1
      simp only [saveAttempts, hok, List.exists_mem_cons_iff]
      rcases AuthCache.saveCache_cases (P := P) c authorized hb snap io st with
        ⟨hdone, hr⟩ | ⟨hfail, hk⟩
      · simp only [hdone, decide_true, if_true, true_or, true_and]
        exact Or.inl ⟨io.now, hr⟩
      · simp only [hfail, decide_false, Bool.false_eq_true, if_false,
          false_or]
        rcases ih (c.saveCache P authorized .null hb snap io st).1 with
          ⟨hany, now, hr⟩ | ⟨hany, hk'⟩
        · exact Or.inl ⟨hany, now, hr.of_keeps hk⟩
        · exact Or.inr ⟨hany, hk.trans hk'⟩

/-! ## Device information -/

/-- What a full heartbeat collects. -/
def Online.collections : Online → Set (Dict String Json)
  | .abandoned none _ => ∅
  | .abandoned (some collected) _ => {collected}
  | .posted collected _ _ => {collected}

/-- A client of the server `url` which, when it is not deferred, holds
information from a collection. -/
structure AuthClient.From (url : String) (C : Set (Dict String Json))
    (cl : AuthClient) : Prop where
  url : cl.cache.serverUrl = url
  info : cl.deviceInfoDeferred = false → FromCollection C cl.deviceInfo

theorem comesFrom_label {c info : Dict String Json} (h : ComesFrom c info)
    (env : ClientEnv) : ComesFrom c (env.label info) :=
  (h.set_label (by decide) _).set_label (by decide) _

theorem isEmpty_label (env : ClientEnv) (info : Dict String Json) :
    (env.label info).isEmpty = false :=
  Dict.isEmpty_set _ _ _

theorem from_ensureFullDeviceInfo (hcl : cl.From url C)
    {collected : Dict String Json} (hmem : collected ∈ C) :
    (cl.ensureFullDeviceInfo collected).From url C ∧
      (cl.ensureFullDeviceInfo collected).deviceInfoDeferred = false ∧
      (cl.deviceInfoDeferred = true →
        (cl.ensureFullDeviceInfo collected).deviceInfo.isEmpty = false) := by
  rw [AuthClient.ensureFullDeviceInfo]
  cases hd : cl.deviceInfoDeferred with
  | true =>
      have hinfo : FromCollection C (cl.env.label collected) :=
        (FromCollection.of_mem hmem).imp fun _ hc => comesFrom_label hc _
      exact ⟨⟨hcl.url, fun _ => hinfo⟩, rfl, fun _ => isEmpty_label _ _⟩
  | false => exact ⟨hcl, hd, fun h => by contradiction⟩

theorem from_rememberPublicIp (hcl : cl.From url C) (publicIp : String) :
    (cl.rememberPublicIp publicIp).From url C := by
  rw [AuthClient.rememberPublicIp]
  by_cases hip : publicIp = ""
  · rw [if_pos hip]
    exact hcl
  · rw [if_neg hip]
    refine ⟨hcl.url, fun hd => (hcl.info hd).imp fun _ hc => ?_⟩
    dsimp only
    rw [AuthClient.networkWith, if_neg hip]
    exact hc.set_publicIp _

theorem isEmpty_rememberPublicIp (h : cl.deviceInfo.isEmpty = false)
    (publicIp : String) :
    (cl.rememberPublicIp publicIp).deviceInfo.isEmpty = false := by
  rw [AuthClient.rememberPublicIp]
  split
  · exact h
  · exact Dict.isEmpty_set _ _ _

theorem deferred_rememberPublicIp (publicIp : String) :
    (cl.rememberPublicIp publicIp).deviceInfoDeferred =
      cl.deviceInfoDeferred := by
  rw [AuthClient.rememberPublicIp]
  split <;> rfl

/-- After a full heartbeat which was posted the information of the client
comes from a collection; that of a deferred one has just been labelled. -/
theorem from_checkOnline (hcl : cl.From url C) (times : ℤ) {online : Online}
    (hcollected : online.collections ⊆ C) :
    (cl.checkOnline times online).1.From url C ∧
      ((cl.checkOnline times online).2.2.success = true →
        FromCollection C (cl.checkOnline times online).1.deviceInfo ∧
        (cl.deviceInfoDeferred = true →
          (cl.checkOnline times online).1.deviceInfo.isEmpty = false)) := by
  cases online with
  | abandoned collected message =>
      cases collected with
      | none => exact ⟨hcl, fun h => by contradiction⟩
      | some collected =>
          exact ⟨(from_ensureFullDeviceInfo hcl
            (Set.singleton_subset_iff.mp hcollected)).1,
            fun h => by contradiction⟩
  | posted collected publicIp answer =>
      obtain ⟨hensure, hdeferred, hempty⟩ := from_ensureFullDeviceInfo hcl
        (Set.singleton_subset_iff.mp hcollected)
      rw [AuthClient.checkOnline]
      dsimp only
      generalize (if (cl.deviceInfoDeferred ||
        lacksPublicIp cl.deviceInfo) = true then publicIp else "") = pub
      have hremember := from_rememberPublicIp hensure pub
      refine ⟨hremember, fun _ => ⟨hremember.info ?_, fun hd => ?_⟩⟩
      · rw [deferred_rememberPublicIp, hdeferred]
      · exact isEmpty_rememberPublicIp (hempty hd) pub

/-! ## Checks -/

theorem from_write (hurl : cl.cache.serverUrl = url)
    (hst : st.From P url C) (authorized : Bool)
    (hinfo : authorized = true → FromCollection C cl.deviceInfo)
    (times : ℤ) (ios : Attempts) :
    (cl.writeCheckCacheRetries P authorized times ios st).1.From P url C := by
  subst hurl
  rcases saveAttempts_cases (P := P) cl.cache authorized
      (if authorized then .int times else .null)
      (if authorized then Json.ofDict cl.deviceInfo else .null) ios.1 st
    with ⟨-, now, hr⟩ | ⟨-, hk⟩
  · refine ContentFromBut.rewrites hst hr fun _ hsub => ?_
    cases authorized with
    | true => exact AuthCache.rowFrom_savedRow (hinfo rfl) (Or.inr hsub)
    | false => exact AuthCache.rowFrom_clearedRow
  · exact ContentFromBut.keeps hst hk

/-- Storing any answer harms at most the own row, and nothing when it is not
stored. -/
theorem but_write (hurl : cl.cache.serverUrl = url)
    (hst : st.From P url C) (authorized : Bool) (times : ℤ)
    (ios : Attempts) :
    ContentFromBut C (some cl.cache.softwareName) (stateRoot P url
        (cl.writeCheckCacheRetries P authorized times ios st).1) ∧
      (¬ios.Completes →
        (cl.writeCheckCacheRetries P authorized times ios st).1.From P url
          C) := by
  subst hurl
  rcases saveAttempts_cases (P := P) cl.cache authorized
      (if authorized then .int times else .null)
      (if authorized then Json.ofDict cl.deviceInfo else .null) ios.1 st
    with ⟨hany, now, hr⟩ | ⟨-, hk⟩
  · exact ⟨ContentFromBut.rewrites_but hst hr, fun hnot => (hnot hany).elim⟩
  · have hkept := ContentFromBut.keeps hst hk
    exact ⟨ContentFromBut.but hkept _, fun _ => hkept⟩

/-- Storing an answer with good information over any row of the product. -/
theorem from_write_over (hurl : cl.cache.serverUrl = url)
    (hst : ContentFromBut C (some cl.cache.softwareName)
      (stateRoot P url st))
    (hinfo : FromCollection C cl.deviceInfo)
    (hempty : cl.deviceInfo.isEmpty = false)
    (hkey : KeepsKey Python.isSpace cl.cache.softwareName)
    (authorized : Bool) (times : ℤ)
    {ios : Attempts} (hios : ios.Completes) :
    (cl.writeCheckCacheRetries P authorized times ios st).1.From P url C := by
  subst hurl
  rcases saveAttempts_cases (P := P) cl.cache authorized
      (if authorized then .int times else .null)
      (if authorized then Json.ofDict cl.deviceInfo else .null) ios.1 st
    with ⟨-, now, hr⟩ | ⟨hany, -⟩
  · exact ContentFromBut.rewrites_over hst hr hkey fun _ =>
      AuthCache.rowFrom_savedRow hinfo (Or.inl hempty)
  · exact (hany hios).elim

/-- The condition on a progressive check: when a deferred client stores the
answer to its light heartbeat, it stores that of the full one too, in the
place of the same row. -/
def AuthClient.CompletesLight (cl : AuthClient) (io : ProgressiveEnv) : Prop :=
  cl.deviceInfoDeferred = true → io.light.toResult.authorized = true →
    io.saveLight.Completes →
      (cl.checkOnline 0 io.full).2.2.success = true ∧
        io.saveFull.Completes ∧ KeepsKey Python.isSpace cl.cache.softwareName

/-- What every check leaves. -/
structure Checked.From (P : Primitives β) (url : String)
    (C : Set (Dict String Json)) (out : Checked β) : Prop where
  storage : out.storage.From P url C
  client : out.client.From url C

theorem from_onlineOrCached (hst : st.From P url C) (hcl : cl.From url C)
    (times : ℤ) (cached : Option CacheData) {online : Online}
    (hcollected : online.collections ⊆ C) (save : Attempts) :
    (cl.onlineOrCached P times cached online save st).From P url C := by
  obtain ⟨hclient, hinfo⟩ := from_checkOnline hcl times hcollected
  rw [AuthClient.onlineOrCached]
  dsimp only
  split
  next hsuccess =>
    exact ⟨from_write hclient.url hst _ (fun _ => (hinfo hsuccess).1) _ _,
      hclient⟩
  next =>
    split
    · exact ⟨hst, hclient⟩
    · exact ⟨hst, hclient⟩

theorem from_checkAuthorization (hst : st.From P url C)
    (hcl : cl.From url C) {io : CheckEnv}
    (hcollected : io.online.collections ⊆ C) :
    (cl.checkAuthorization P io st).From P url C :=
  from_onlineOrCached (from_checkSnapshot hcl.url hst io.snapshot) hcl _ _
    hcollected _

/-- The full heartbeat after a light one whose answer was stored. -/
theorem from_completeLight
    (hst : ContentFromBut C (some cl.cache.softwareName)
      (stateRoot P url st))
    (hcl : cl.From url C) (times : ℤ) {io : ProgressiveEnv}
    (hcollected : io.full.collections ⊆ C)
    (hgood : st.From P url C ∨ (cl.deviceInfoDeferred = true ∧
      (cl.checkOnline 0 io.full).2.2.success = true ∧
        io.saveFull.Completes ∧ KeepsKey Python.isSpace cl.cache.softwareName)) :
    (cl.completeLight P times io st).From P url C := by
  obtain ⟨hclient, hinfo⟩ := from_checkOnline hcl times hcollected
  have hcache := (cl.checkOnline_spec times io.full).1
  rw [AuthClient.completeLight]
  dsimp only
  split
  next hsuccess =>
    refine ⟨?_, hclient⟩
    rcases hgood with hgood | ⟨hdeferred, -, hsave, hkey⟩
    · exact from_write hclient.url hgood _ (fun _ => (hinfo hsuccess).1) _ _
    · rw [← hcache] at hst hkey
      exact from_write_over hclient.url hst (hinfo hsuccess).1
        ((hinfo hsuccess).2 hdeferred) hkey _ _ hsave
  next hfail =>
    -- Only an answer that was not stored may go without a full one.
    have hfrom : st.From P url C := by
      rcases hgood with hgood | ⟨-, hsuccess, -⟩
      · exact hgood
      · rw [(cl.checkOnline_times 0 times io.full).2] at hsuccess
        exact (hfail hsuccess).elim
    have hget : ∀ c : AuthCache, c.serverUrl = url →
        (c.getCache P io.retest st).1.From P url C := by
      rintro c rfl
      simpa [Storage.From, AuthCache.getCache, AuthCache.readRow] using hfrom
    split
    next heq =>
      have hst' := hget _ hclient.url
      rw [heq] at hst'
      exact ⟨hst', hclient⟩
    next st' cache heq =>
      have hst' := hget _ hclient.url
      rw [heq] at hst'
      have hvalid : ∀ c : AuthCache, c.serverUrl = url →
          (c.isCacheValid P io.retestValid io.retestAt st').1.From P url
            C := by
        rintro c rfl
        simpa [Storage.From, AuthCache.isCacheValid, AuthCache.getCache,
          AuthCache.readRow] using hst'
      split
      · exact ⟨hvalid _ hclient.url, hclient⟩
      · exact ⟨hvalid _ hclient.url, hclient⟩

theorem from_checkAuthorizationProgressive (hst : st.From P url C)
    (hcl : cl.From url C) {io : ProgressiveEnv}
    (hcollected : io.full.collections ⊆ C) (hlight : cl.CompletesLight io) :
    (cl.checkAuthorizationProgressive P io st).From P url C := by
  have hsnapshot := from_checkSnapshot hcl.url hst io.snapshot
  rw [AuthClient.checkAuthorizationProgressive]
  simp only [AuthClient.checkOnlineFast]
  generalize (cl.checkSnapshot P io.snapshot st).1 = st₁ at hsnapshot ⊢
  generalize (cl.checkSnapshot P io.snapshot st).2.2 + 1 = times
  by_cases hsuccess : io.light.toResult.success = true
  · simp only [hsuccess, if_true]
    by_cases hauth : io.light.toResult.authorized = true
    · simp only [hauth, if_true]
      obtain ⟨hbut, hkept⟩ :=
        but_write hcl.url hsnapshot true times io.saveLight
      have hfull : (cl.completeLight P (times + 1) io
          (cl.writeCheckCacheRetries P true times io.saveLight st₁).1).From
            P url C := by
        refine from_completeLight hbut hcl _ hcollected ?_
        cases hdeferred : cl.deviceInfoDeferred with
        | false =>
            exact Or.inl (from_write hcl.url hsnapshot _
              (fun _ => hcl.info hdeferred) _ _)
        | true =>
            by_cases hsave : io.saveLight.Completes
            · exact Or.inr ⟨rfl, hlight hdeferred hauth hsave⟩
            · exact Or.inl (hkept hsave)
      exact ⟨hfull.storage, hfull.client⟩
    · simp only [hauth]
      exact ⟨from_write hcl.url hsnapshot _ (fun h => by contradiction) _ _,
        hcl⟩
  · simp only [hsuccess]
    have hfull := from_onlineOrCached hsnapshot hcl times
      (if cl.cache.isCacheValidDict io.testAt
          (cl.checkSnapshot P io.snapshot st).2.1 then
        (cl.checkSnapshot P io.snapshot st).2.1 else none)
      hcollected io.saveFull
    exact ⟨hfull.storage, hfull.client⟩

end Checks

/-! ## Constructions -/

section Construction

variable {url : String}

theorem rootAfterPersist_cases (s id : String) (io : PersistEnv)
    (root : Option Root) :
    Rewrites Python.isSpace root s (·.set "device_id" (.str id))
        (rootAfterPersist s id io root) ∨
      Keeps root (rootAfterPersist s id io root) := by
  obtain ⟨d, hd, hm⟩ := within_of_read io.read.read root
  rw [rootAfterPersist]
  cases io.write with
  | done =>
      left
      have herase : ∀ d' : Root, (d'.erase "device_id").erase "device_id" =
          d'.erase "device_id" := fun d' => Dict.erase_erase d' _
      have hr := rewrites_updateRow s (·.set "device_id" (.str id)) hd hm
      rw [← herase] at hr
      dsimp only
      rw [persistRoot, ← herase]
      exact hr
  | refused => exact Or.inr (.refl _)
  | torn kept => exact Or.inr (Or.inr rfl)

theorem from_loadDeviceInfoSnapshot {c : AuthCache}
    (h : st.From P c.serverUrl C) {io : ReadEnv} {info : Dict String Json}
    (hload : (c.loadDeviceInfoSnapshot P io st).2 = some info) :
    FromCollection C info := by
  simp only [AuthCache.loadDeviceInfoSnapshot, AuthCache.readRow,
    readStateDict_snd, AuthCache.rowOf_eq] at hload
  cases hroot : (if io.read = true then stateRoot P c.serverUrl st
      else none) with
  | none => simp [hroot] at hload
  | some d =>
      have hsnap : SnapshotsFrom C d := by
        rw [Option.ite_none_right_eq_some] at hroot
        exact h d hroot.2
      rw [hroot, Option.bind_some] at hload
      cases hrow : ((loadAppsMap d).get c.softwareName).filter
          fun row => !row.isEmpty with
      | none => simp [hrow] at hload
      | some row =>
          rw [hrow, Option.bind_some] at hload
          have hget := (Option.filter_eq_some_iff.mp hrow).1
          have hfrom := rowFrom_of_load hsnap (loads_python d) hget (by simp)
          cases hs : row.get bundleProductDeviceInfoSnapshotKey with
          | none => simp [hs] at hload
          | some v =>
              obtain ⟨b, hb, hinfo⟩ := hfrom v hs
              have hv : v.dict? = some info := by
                cases v with
                | obj members => simpa [hs] using hload
                | null | bool | int | float | str | arr =>
                    simp [Json.dict?] at hb
              rw [hb, Option.some.injEq] at hv
              exact hv ▸ hinfo

theorem from_newAuthClient {config : ClientConfig} (io : ConstructEnv)
    (hst : st.From P url C) (hconfig : config.deviceInfo = none)
    (hurl : config.stateUrl = url) :
    (newAuthClient P config io st).1.From P url C ∧
      ∀ cl ∈ (newAuthClient P config io st).2, cl.From url C := by
  subst hurl
  have hresolve : (resolveDeviceId P config io st).1.From P config.stateUrl
      C := by
    rcases hres : resolveDeviceId P config io st with ⟨st₁, id⟩
    rcases (resolveDeviceId_spec hres).2 with hroot | hroot
    · exact hst.keeps (Or.inl hroot)
    · rcases rootAfterPersist_cases config.softwareName id io.persist
          (stateRoot P config.stateUrl st) with hr | hk
      · rw [Storage.From, hroot]
        refine hst.rewrites hr fun _ hsub => hsub.of_get_eq (Or.inr ?_)
        exact Dict.get_set_of_ne (by decide)
      · rw [Storage.From, hroot]
        exact hst.keeps hk
  rw [newAuthClient]
  generalize resolveDeviceId P config io st = resolved at hresolve ⊢
  obtain ⟨st₁, id⟩ := resolved
  dsimp only at hresolve ⊢
  split
  · exact ⟨hresolve, by simp⟩
  · simp only [initialDeviceInfo, hconfig]
    have hload : (AuthCache.loadDeviceInfoSnapshot P ⟨config.stateUrl,
        config.softwareName, id, config.cacheValidityDays⟩ io.snapshot
          st₁).1.From P config.stateUrl C := by
      simpa [Storage.From, AuthCache.loadDeviceInfoSnapshot,
        AuthCache.readRow] using hresolve
    split
    next info hinfo =>
      split
      · refine ⟨hload, ?_⟩
        rintro _ ⟨⟩
        exact ⟨rfl, fun h => by contradiction⟩
      · refine ⟨hload, ?_⟩
        rintro _ ⟨⟩
        have hfrom : FromCollection C info :=
          from_loadDeviceInfoSnapshot (c := ⟨config.stateUrl,
            config.softwareName, id, config.cacheValidityDays⟩) hresolve hinfo
        exact ⟨rfl, fun _ => hfrom.imp fun _ hc => comesFrom_label hc _⟩
    next =>
      refine ⟨hload, ?_⟩
      rintro _ ⟨⟩
      exact ⟨rfl, fun h => by contradiction⟩

end Construction

/-! ## The SDK -/

/-- The activities of a client.  `late` is the rest of a full heartbeat after
the check has given it up. -/
inductive Activity
  | check (io : CheckEnv)
  | progressive (io : ProgressiveEnv)
  | clear (io : ClearEnv)
  | late (collected : Dict String Json) (publicIp : String)

def Activity.perform (P : Primitives β) (cl : AuthClient) (st : Storage β) :
    Activity → Storage β × AuthClient
  | .check io =>
      let out := cl.checkAuthorization P io st
      (out.storage, out.client)
  | .progressive io =>
      let out := cl.checkAuthorizationProgressive P io st
      (out.storage, out.client)
  | .clear io => ((cl.clearCache P io st).1, cl)
  | .late collected publicIp =>
      (st, (cl.ensureFullDeviceInfo collected).rememberPublicIp publicIp)

/-- The Python SDK, on the state file of the server `url`. -/
def implementation (P : Primitives β) (url : String) : Implementation where
  File := Storage β
  Client := AuthClient
  Construction := ClientConfig × ConstructEnv
  Activity := Activity
  DeviceInfo := Dict String Json
  members info := info
  content := stateRoot P url
  Plain _ := True
  Proper cl := cl.cache.serverUrl = url
  deviceInfo := AuthClient.deviceInfo
  deferred := AuthClient.deviceInfoDeferred
  construct x st := newAuthClient P x.1 x.2 st
  act a cl st := a.perform P cl st
  Admits x := x.1.deviceInfo = none ∧ x.1.stateUrl = url
  collectedIn _ := ∅
  collectedBy
    | .check io => io.online.collections
    | .progressive io => io.full.collections
    | .clear _ => ∅
    | .late collected _ => {collected}
  Completes cl
    | .progressive io => cl.CompletesLight io
    | .check _ | .clear _ | .late _ _ => True

section

variable {url : String}

theorem fileFrom_iff :
    (implementation P url).FileFrom C st ↔ st.From P url C := by
  have himage : (implementation P url).members '' C = C := Set.image_id' C
  constructor
  · intro h
    have hcontent := h.content
    rw [himage] at hcontent
    exact hcontent
  · intro h
    refine ⟨trivial, ?_⟩
    rw [himage]
    exact h

theorem clientFrom_iff {cl : AuthClient} :
    (implementation P url).ClientFrom C cl ↔ cl.From url C := by
  have himage : (implementation P url).members '' C = C := Set.image_id' C
  constructor
  · intro h
    have hinfo := h.info
    rw [himage] at hinfo
    exact ⟨h.proper, hinfo⟩
  · intro h
    have hinfo := h.info
    rw [← himage] at hinfo
    exact ⟨h.url, hinfo⟩

theorem from_perform {cl : AuthClient} (hst : st.From P url C)
    (hcl : cl.From url C) {a : Activity}
    (hcollected : (implementation P url).collectedBy a ⊆ C)
    (hcompletes : (implementation P url).Completes cl a) :
    (a.perform P cl st).1.From P url C ∧ (a.perform P cl st).2.From url C := by
  cases a with
  | check io =>
      have hout := from_checkAuthorization hst hcl hcollected
      exact ⟨hout.storage, hout.client⟩
  | progressive io =>
      have hout := from_checkAuthorizationProgressive hst hcl hcollected
        hcompletes
      exact ⟨hout.storage, hout.client⟩
  | clear io =>
      refine ⟨?_, hcl⟩
      obtain rfl := hcl.url
      exact from_clearCache hst io
  | late collected publicIp =>
      exact ⟨hst, from_rememberPublicIp (from_ensureFullDeviceInfo hcl
        (Set.singleton_subset_iff.mp hcollected)).1 publicIp⟩

theorem implementation_sound (P : Primitives β) (url : String) :
    (implementation P url).Sound where
  construct := by
    intro C x st hadmits hcollected hst
    obtain ⟨hst', hclient⟩ := from_newAuthClient x.2
      (fileFrom_iff.mp hst) hadmits.1 hadmits.2
    exact ⟨fileFrom_iff.mpr hst',
      fun cl hcl => clientFrom_iff.mpr (hclient cl hcl)⟩
  act := by
    intro C a cl st hcompletes hcollected hst hcl
    obtain ⟨hst', hcl'⟩ := from_perform (fileFrom_iff.mp hst)
      (clientFrom_iff.mp hcl) hcollected hcompletes
    exact ⟨fileFrom_iff.mpr hst', clientFrom_iff.mpr hcl'⟩

end

end PyAuth.Client
