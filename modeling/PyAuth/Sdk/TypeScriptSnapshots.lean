import PyAuth.Sdk.Fleet
import PyAuth.TypeScript.AuthClient

/-!
# Snapshots of the TypeScript SDK

What the operations of the TypeScript cache do to the snapshots in the file,
and that constructions and checks are sound.  A product named `__proto__` is
never stored: the assignment of its row sets a prototype.
-/

namespace PyAuth.TypeScript

open Support Client Sdk

variable {C : Set (Dict String Json)}

/-! ## Roots without prototypes -/

theorem noProto_empty : NoProto .empty := by
  intro k v t row hk
  simp at hk

theorem noProto_within {root root' : Root} (h : NoProto root)
    (hwithin : Within root root') : NoProto root' := by
  obtain ⟨f, hf, hget⟩ := hwithin
  intro k v t row hk happ
  rcases hget k with hnone | heq
  · rw [hnone] at hk
    contradiction
  · rw [heq, Option.map_eq_some_iff] at hk
    obtain ⟨w, hw, rfl⟩ := hk
    obtain ⟨hres, hstrip, hblank, d, hd, -⟩ := appRow?_eq_some_iff.mp happ
    rw [hf.dict?_eq, Option.map_eq_some_iff] at hd
    obtain ⟨d', hd', -⟩ := hd
    exact h k w t _ hw (appRow?_eq_some_iff.mpr ⟨hres, hstrip, hblank, d', hd', rfl⟩)

theorem noProto_rewritten {root root' : Root} {load : String → Option Row}
    {s : String} {row : Row} (h : NoProto root) (hload : Loads isSpace root load)
    (hs : trim s ≠ "__proto__") (hroot : Rewritten root load s row root') :
    NoProto root' := by
  intro k v t d hk happ
  obtain ⟨hres, hstrip, -, w, hw, -⟩ := appRow?_eq_some_iff.mp happ
  rcases hroot.members hk hw with ⟨rfl, -⟩ | ⟨-, hget⟩ | ⟨-, hres', -⟩
  · exact hstrip ▸ hs
  · obtain ⟨k', v', hk', happ'⟩ := hload.sound hget
    have hne := h k' v' _ _ hk' happ'
    rw [← hstrip, (hload.trimmed hget).1]
    exact hne
  · exact (hres hres').elim

/-- Whatever is committed was loaded, or stood in the root. -/
theorem members_commitAppsMap {root : Root} {apps : Apps} {k : String}
    {v : Json} (h : (commitAppsMap root apps).get k = some v) :
    (∃ row, apps.own.get k = some row ∧ v = .ofDict row) ∨
      root.get k = some v := by
  rw [commitAppsMap, Dict.get_update_entries, Dict.get_mapValues,
    Dict.get_filter, Dict.get_erase] at h
  cases hown : apps.own.get k with
  | some row =>
      rw [hown, Option.map_some, Option.some_or, Option.some.injEq] at h
      exact Or.inl ⟨row, rfl, h.symm⟩
  | none =>
      right
      rw [hown, Option.map_none, Option.none_or] at h
      split at h
      · contradiction
      · exact (Option.filter_eq_some_iff.mp h).1

/-! ## The operations on the file -/

/-- The product is stored under its name, or not at all. -/
def Storable (s : String) : Prop := trim s = "__proto__" → s = "__proto__"

instance : DecidablePred Storable := fun _ =>
  inferInstanceAs (Decidable (_ → _))

/-- No member is assigned to `__proto__`. -/
def Plain (file : StateFile) : Prop := ∀ root ∈ file.content, NoProto root

/-- The file has been read, or taken for empty, and its rows have been
committed without that of the product `__proto__`. -/
def Carries (content content' : Option Root) : Prop :=
  ∃ root m root' root'',
    (root = .empty ∨ content = some root) ∧ Within root m ∧
    (∀ k v d, root'.get k = some v → v.dict? = some d →
      (loadAppsMap m).own.get k = some d ∨ m.get k = some v) ∧
    Loads isSpace m (loadAppsMap m).own.get ∧
    content' = some root'' ∧ Within root' root''

/-- What an operation which changes the row of a product by `f` does. -/
def Updates (content : Option Root) (s : String) (f : Row → Row)
    (content' : Option Root) : Prop :=
  (s ≠ "__proto__" ∧ Rewrites isSpace content s f content') ∨
    (s = "__proto__" ∧ Carries content content')

theorem contentFrom_carries {content content' : Option Root}
    {s : Option String} (h : ContentFrom C content)
    (hcarries : Carries content content') :
    ContentFromBut C s content' := by
  obtain ⟨root, m, root', root'', hroot, hm, hmembers, hload, rfl, hwithin⟩ :=
    hcarries
  have hsnap := h.of_read hroot hm
  have hroot' : SnapshotsFrom C root' := by
    intro k v d _ hk hd
    rcases hmembers k v d hk hd with hget | hget
    · exact rowFrom_of_load hsnap hload hget (by simp)
    · exact hsnap k v d (by simp) hget hd
  rintro _ ⟨⟩
  exact (hroot'.but s).within hwithin

/-- What a read returns holds members of the file. -/
theorem within_of_readStateDict {ok : Bool} {file : StateFile} {m : Root}
    (h : readStateDict ok file = some m) :
    ∃ root, file.content = some root ∧ Within root m := by
  cases file with
  | absent => simp [readStateDict] at h
  | unreadable => simp [readStateDict] at h
  | root d =>
      simp only [readStateDict, Option.ite_none_right_eq_some,
        Option.some.injEq] at h
      obtain ⟨-, rfl⟩ := h
      exact ⟨d, rfl, (Within.mapValues d .asDoubles).erase _⟩

theorem within_of_read (ok : Bool) (file : StateFile) :
    ∃ root, (root = .empty ∨ file.content = some root) ∧
      Within root ((readStateDict ok file).getD .empty) := by
  cases hread : readStateDict ok file with
  | none => exact ⟨.empty, Or.inl rfl, .refl _⟩
  | some m =>
      obtain ⟨root, hroot, hm⟩ := within_of_readStateDict hread
      exact ⟨root, Or.inr hroot, hm⟩

theorem noProto_of_read {file : StateFile} (hplain : Plain file)
    {root m : Root} (hroot : root = .empty ∨ file.content = some root)
    (hm : Within root m) : NoProto m := by
  rcases hroot with rfl | hroot
  · exact noProto_within noProto_empty hm
  · exact noProto_within (hplain root hroot) hm

namespace AuthCache

variable {c : AuthCache} {file : StateFile}

/-- The row of `__proto__` is not committed. -/
theorem members_updateApps_proto {m : Root} {f : Row → Row}
    (hname : c.softwareName = "__proto__") {k : String} {v : Json}
    (hk : (commitAppsMap m (c.updateApps m f)).get k = some v) :
    (∃ row, (loadAppsMap m).own.get k = some row ∧ v = .ofDict row) ∨
      m.get k = some v := by
  have hown : (c.updateApps m f).own = (loadAppsMap m).own := by
    simp [updateApps, Apps.assign, hname]
  rw [← hown]
  exact members_commitAppsMap hk

theorem noProto_updateApps_proto {m : Root} {f : Row → Row}
    (hm : NoProto m) (hname : c.softwareName = "__proto__") :
    NoProto (commitAppsMap m (c.updateApps m f)) := by
  intro k v t d hk happ
  rcases members_updateApps_proto hname hk with ⟨row, hrow, -⟩ | hget
  · obtain ⟨k', v', hk', happ'⟩ := (loads_typeScript hm).sound hrow
    obtain ⟨-, hstrip, -⟩ := appRow?_eq_some_iff.mp happ
    rw [← hstrip, ((loads_typeScript hm).trimmed hrow).1]
    exact hm k' v' _ _ hk' happ'
  · exact hm k v t d hget happ

/-- Committing an update. -/
theorem commit_updateApps {root m : Root} (f : Row → Row)
    (hplain : Plain file) (hname : Storable c.softwareName)
    (hroot : root = .empty ∨ file.content = some root) (hm : Within root m) :
    NoProto ((commitAppsMap m (c.updateApps m f)).mapValues stringify) ∧
      Updates file.content c.softwareName f
        (some ((commitAppsMap m (c.updateApps m f)).mapValues stringify)) := by
  have hwithin := Within.mapValues (commitAppsMap m (c.updateApps m f))
    .stringify
  have hproto := noProto_of_read hplain hroot hm
  have hload := loads_typeScript hproto
  by_cases hs : c.softwareName = "__proto__"
  · refine ⟨noProto_within (noProto_updateApps_proto hproto hs) hwithin,
      Or.inr ⟨hs, root, m, _, _, hroot, hm, ?_, hload, rfl, hwithin⟩⟩
    intro k v d hk hd
    rcases members_updateApps_proto hs hk with ⟨row, hrow, rfl⟩ | hget
    · rw [Json.dict?_ofDict] at hd
      exact Or.inl (hd ▸ hrow)
    · exact Or.inr hget
  · have hrewritten := rewritten_updateApps_typeScript c hproto hs f
    have hnoProto := noProto_rewritten hproto hload
      (fun htrim => hs (hname htrim)) hrewritten
    exact ⟨noProto_within hnoProto hwithin, Or.inl ⟨hs, root, m, _, _, _,
      hroot, hm, hload, hrewritten, rfl, hwithin⟩⟩

/-- Writing what an update has made of the file. -/
theorem write_updateApps {root m : Root} (f : Row → Row) (env : WriteEnv)
    (hplain : Plain file) (hname : Storable c.softwareName)
    (hroot : root = .empty ∨ file.content = some root) (hm : Within root m)
    {out : StateFile × Bool} (hout : out = writeStateDictWithRetry
      (commitAppsMap m (c.updateApps m f)) env file) :
    Plain out.1 ∧
      ((env.completes = true ∧
          Updates file.content c.softwareName f out.1.content) ∨
        (env.completes = false ∧ Keeps file.content out.1.content)) := by
  rw [writeStateDictWithRetry] at hout
  have hsnd := StateFile.writeWithRetry_snd
    ((commitAppsMap m (c.updateApps m f)).mapValues stringify) file env
  have hcases := StateFile.writeWithRetry_cases
    ((commitAppsMap m (c.updateApps m f)).mapValues stringify) file env
  rw [← hout] at hsnd hcases
  obtain ⟨hproto, hupdates⟩ := commit_updateApps f hplain hname hroot hm
  rcases hcases with rfl | ⟨hfail, hkeeps⟩
  · refine ⟨?_, Or.inl ⟨hsnd.symm, hupdates⟩⟩
    rintro _ ⟨⟩
    exact hproto
  · refine ⟨?_, Or.inr ⟨hsnd.symm.trans hfail, hkeeps⟩⟩
    intro root' hroot'
    rcases hkeeps with heq | hnone
    · exact hplain root' (heq ▸ hroot')
    · rw [hnone] at hroot'
      contradiction

theorem saveCache_cases (hplain : Plain file) (hname : Storable c.softwareName)
    (authorized : Bool) (hb : Option Double)
    (snapshot : Option (Dict String Json)) (env : SaveEnv) :
    Plain (c.saveCache authorized hb snapshot env file).1 ∧
      ((env.write.completes = true ∧ Updates file.content c.softwareName
          (c.savedRow authorized env.now hb snapshot)
          (c.saveCache authorized hb snapshot env file).1.content) ∨
        (env.write.completes = false ∧ Keeps file.content
          (c.saveCache authorized hb snapshot env file).1.content)) := by
  obtain ⟨root, hroot, hm⟩ := within_of_read env.read file
  exact write_updateApps _ env.write hplain hname hroot (hm.eraseAll _) rfl

theorem clearCache_cases (hplain : Plain file)
    (hname : Storable c.softwareName) (env : ClearEnv) :
    Plain (c.clearCache env file).1 ∧
      (Updates file.content c.softwareName c.clearedRow
          (c.clearCache env file).1.content ∨
        Keeps file.content (c.clearCache env file).1.content) := by
  rw [clearCache]
  cases hread : readStateDict env.read file with
  | none => exact ⟨hplain, Or.inr (.refl _)⟩
  | some d =>
      obtain ⟨root, hroot, hm⟩ := within_of_readStateDict hread
      dsimp only
      split
      · obtain ⟨hplain', hcases⟩ := write_updateApps c.clearedRow env.write
          hplain hname (Or.inr hroot) (hm.eraseAll bundleRootStrayKeys) rfl
        exact ⟨hplain', hcases.imp And.right And.right⟩
      · cases env.unlink with
        | true =>
            refine ⟨?_, Or.inr (Or.inr rfl)⟩
            rintro _ ⟨⟩
        | false => exact ⟨hplain, Or.inr (.refl _)⟩

theorem persistDeviceId_cases (hplain : Plain file)
    (hname : Storable c.softwareName) (env : PersistEnv) :
    Plain (c.persistDeviceId env file).1 ∧
      (Updates file.content c.softwareName
          (·.set "device_id" (.str c.deviceId))
          (c.persistDeviceId env file).1.content ∨
        Keeps file.content (c.persistDeviceId env file).1.content) := by
  obtain ⟨root, hroot, hm⟩ := within_of_read env.read file
  obtain ⟨hplain', hcases⟩ := write_updateApps
    (·.set "device_id" (.str c.deviceId)) env.write hplain hname hroot
    (hm.eraseAll bundleRootStrayKeys) rfl
  exact ⟨hplain', hcases.imp And.right And.right⟩

/-! ## The rows they write -/

variable {sub : Row}

theorem rowFrom_clearedRow : RowFrom C (c.clearedRow sub) := by
  apply RowFrom.of_none
  simp [clearedRow, Dict.get_set, Dict.get_eraseAll,
    bundleProductRevokeKeys, bundleProductDeviceInfoSnapshotKey]

/-- An authorisation stores the information it is given, anything else
removes what was stored. -/
theorem rowFrom_savedRow {authorized : Bool} {now : ℚ} {hb : Option Double}
    {info : Dict String Json} (hinfo : authorized = true →
      FromCollection C info) :
    RowFrom C (c.savedRow authorized now hb
      (if authorized then some info else none) sub) := by
  cases authorized with
  | false =>
      apply RowFrom.of_none
      simp [savedRow, Dict.get_set, Dict.get_eraseAll,
        bundleProductRevokeKeys, bundleProductDeviceInfoSnapshotKey]
  | true =>
      apply RowFrom.of_info
        ((hinfo rfl).mapValues (Rounding.asDoubles.comp .stringify))
      simp [savedRow, bundleProductDeviceInfoSnapshotKey, jsonCopy]

theorem rowFrom_persisted (h : RowFrom C sub) (id : String) :
    RowFrom C (sub.set "device_id" (.str id)) :=
  h.of_get_eq (Or.inr (Dict.get_set_of_ne (by decide)))

end AuthCache

/-! ## What they do to the snapshots -/

/-- No member of the file is assigned to `__proto__`, and its snapshots, but
for those in the member `s`, come from the collections `C`. -/
structure FromBut (C : Set (Dict String Json)) (s : Option String)
    (file : StateFile) : Prop where
  plain : Plain file
  content : ContentFromBut C s file.content

abbrev From (C : Set (Dict String Json)) (file : StateFile) : Prop :=
  FromBut C none file

namespace FromBut

variable {file file' : StateFile} {s : String} {f : Row → Row}

theorem updates (h : From C file) (hplain : Plain file')
    (hupdates : Updates file.content s f file'.content)
    (hf : ∀ sub, RowFrom C sub → RowFrom C (f sub)) : From C file' := by
  refine ⟨hplain, ?_⟩
  rcases hupdates with ⟨-, hr⟩ | ⟨-, hcarries⟩
  · exact h.content.rewrites hr hf
  · exact contentFrom_carries h.content hcarries

theorem keeps (h : From C file) (hplain : Plain file')
    (hkeeps : Keeps file.content file'.content) : From C file' :=
  ⟨hplain, h.content.keeps hkeeps⟩

theorem but (h : From C file) (s : Option String) : FromBut C s file :=
  ⟨h.plain, h.content.but s⟩

end FromBut

section Checks

variable {cl : AuthClient} {file : StateFile}

theorem from_clearCache {c : AuthCache} (h : From C file)
    (hname : Storable c.softwareName) (env : ClearEnv) :
    From C (c.clearCache env file).1 := by
  obtain ⟨hplain, hr | hk⟩ := AuthCache.clearCache_cases h.plain hname env
  · exact h.updates hplain hr fun _ _ => AuthCache.rowFrom_clearedRow
  · exact h.keeps hplain hk

theorem from_persistDeviceId {c : AuthCache} (h : From C file)
    (hname : Storable c.softwareName) (env : PersistEnv) :
    From C (c.persistDeviceId env file).1 := by
  obtain ⟨hplain, hr | hk⟩ := AuthCache.persistDeviceId_cases h.plain hname env
  · exact h.updates hplain hr fun _ hsub => AuthCache.rowFrom_persisted hsub _
  · exact h.keeps hplain hk

theorem from_snapshotForAuthorizationCheck {c : AuthCache} (h : From C file)
    (hname : Storable c.softwareName) (env : SnapshotEnv) :
    From C (c.snapshotForAuthorizationCheck env file).1 := by
  have hclear := from_clearCache h hname env.clear
  rw [AuthCache.snapshotForAuthorizationCheck]
  split
  · exact h
  · split
    · exact h
    · split
      · exact h
      · split
        · exact h
        · exact hclear

/-! ## Checks -/

/-- A client of a product that can be stored which, when it is not deferred,
holds information from a collection. -/
structure AuthClient.From (C : Set (Dict String Json)) (cl : AuthClient) :
    Prop where
  storable : Storable cl.cache.softwareName
  info : cl.deviceInfoDeferred = false → FromCollection C cl.deviceInfo

/-- What a full heartbeat collects. -/
def Online.collections : Online → Set (Dict String Json)
  | .raised _ => ∅
  | .posted collected _ _ => {collected}

theorem comesFrom_label {c info : Dict String Json} (h : ComesFrom c info)
    (softwareVersion runtime : String) :
    ComesFrom c (label softwareVersion runtime info) :=
  (h.set_label (by decide) _).set_label (by decide) _

theorem checkOnline_cache (online : Online) :
    (cl.checkOnline online).1.cache = cl.cache := by
  cases online with
  | raised message => rfl
  | posted collected publicIp answer =>
      simp only [AuthClient.checkOnline, AuthClient.ensureFullDeviceInfo]
      repeat' split
      all_goals rfl

/-- After a full heartbeat which was posted the information of the client
comes from a collection. -/
theorem checkOnline_spec (hcl : cl.From C) {online : Online}
    (hcollected : online.collections ⊆ C) :
    (cl.checkOnline online).1.From C ∧
      ((cl.checkOnline online).2.success = true →
        FromCollection C (cl.checkOnline online).1.deviceInfo) := by
  cases online with
  | raised message =>
      refine ⟨hcl, fun hsuccess => ?_⟩
      contradiction
  | posted collected publicIp answer =>
      have hmem : collected ∈ C := Set.singleton_subset_iff.mp hcollected
      have hensure : FromCollection C
          (cl.ensureFullDeviceInfo collected).deviceInfo := by
        rw [AuthClient.ensureFullDeviceInfo]
        cases hd : cl.deviceInfoDeferred with
        | true =>
            exact (FromCollection.of_mem hmem).imp fun _ hc =>
              comesFrom_label hc _ _
        | false => exact hcl.info hd
      have hinfo : FromCollection C
          (cl.checkOnline (.posted collected publicIp answer)).1.deviceInfo
          := by
        rw [AuthClient.checkOnline]
        dsimp only
        generalize (if (cl.deviceInfoDeferred ||
          !hasPublicIp cl.deviceInfo) = true then publicIp else "") = pub
        split
        · exact hensure
        · exact hensure.imp fun _ hc => hc.set_publicIp _
      refine ⟨⟨?_, fun _ => hinfo⟩, fun _ => hinfo⟩
      rw [checkOnline_cache]
      exact hcl.storable

theorem from_persist (hfile : From C file)
    (hname : Storable cl.cache.softwareName) {authorized : Bool}
    (hinfo : authorized = true → FromCollection C cl.deviceInfo)
    (times : Double) (env : SaveEnv) :
    From C (cl.persistOnlineResult authorized times env file) := by
  obtain ⟨hplain, ⟨-, hr⟩ | ⟨-, hk⟩⟩ := AuthCache.saveCache_cases hfile.plain
    hname authorized (if authorized then some times else none)
    (if authorized then some (jsonCopy cl.deviceInfo) else none) env
  · exact hfile.updates hplain hr fun _ _ => AuthCache.rowFrom_savedRow
      fun hauth => (hinfo hauth).mapValues (Rounding.asDoubles.comp .stringify)
  · exact hfile.keeps hplain hk

/-- The answer is stored in a row. -/
def AuthClient.Stores (cl : AuthClient) (env : SaveEnv) : Prop :=
  cl.cache.softwareName ≠ "__proto__" ∧ env.write.completes = true

/-- Storing any answer harms at most the own row, and nothing when it is not
stored. -/
theorem but_persist (cl : AuthClient) (hfile : From C file)
    (hname : Storable cl.cache.softwareName) (authorized : Bool)
    (times : Double) (env : SaveEnv) :
    FromBut C (some cl.cache.softwareName)
        (cl.persistOnlineResult authorized times env file) ∧
      (¬cl.Stores env →
        From C (cl.persistOnlineResult authorized times env file)) := by
  obtain ⟨hplain, ⟨hdone, hr⟩ | ⟨-, hk⟩⟩ := AuthCache.saveCache_cases
    hfile.plain hname authorized (if authorized then some times else none)
    (if authorized then some (jsonCopy cl.deviceInfo) else none) env
  · rcases hr with ⟨hs, hr⟩ | ⟨-, hcarries⟩
    · exact ⟨⟨hplain, hfile.content.rewrites_but hr⟩,
        fun hnot => (hnot ⟨hs, hdone⟩).elim⟩
    · exact ⟨⟨hplain, contentFrom_carries hfile.content hcarries⟩,
        fun _ => ⟨hplain, contentFrom_carries hfile.content hcarries⟩⟩
  · have hkept := hfile.keeps hplain hk
    exact ⟨hkept.but _, fun _ => hkept⟩

/-- Storing an answer with good information over any row of the product. -/
theorem from_persist_over
    (hfile : FromBut C (some cl.cache.softwareName) file) (hcl : cl.From C)
    (hinfo : FromCollection C cl.deviceInfo)
    (hkey : KeepsKey isSpace cl.cache.softwareName) (authorized : Bool)
    (times : Double) {env : SaveEnv} (hstores : cl.Stores env) :
    From C (cl.persistOnlineResult authorized times env file) := by
  obtain ⟨hplain, ⟨-, hr⟩ | ⟨hfail, -⟩⟩ := AuthCache.saveCache_cases
    hfile.plain hcl.storable authorized
    (if authorized then some times else none)
    (if authorized then some (jsonCopy cl.deviceInfo) else none) env
  · rcases hr with ⟨-, hr⟩ | ⟨hs, -⟩
    · exact ⟨hplain, hfile.content.rewrites_over hr hkey fun _ =>
        AuthCache.rowFrom_savedRow fun _ =>
          hinfo.mapValues (Rounding.asDoubles.comp .stringify)⟩
    · exact (hstores.1 hs).elim
  · rw [hstores.2] at hfail
    contradiction

/-- The condition on a progressive check: when a deferred client stores the
answer to its light heartbeat, it stores that of the full one too, in the
place of the same row. -/
def AuthClient.CompletesLight (cl : AuthClient) (env : ProgressiveEnv) :
    Prop :=
  cl.deviceInfoDeferred = true → env.light.toResult.authorized = true →
    cl.Stores env.saveLight →
      (cl.checkOnline env.full).2.success = true ∧
        env.saveFull.write.completes = true ∧ KeepsKey isSpace cl.cache.softwareName

/-- What every check leaves. -/
structure Checked.From (C : Set (Dict String Json)) (out : Checked) :
    Prop where
  file : TypeScript.From C out.file
  client : out.client.From C

theorem from_checkOnlineAndPersist (hfile : From C file) (hcl : cl.From C)
    (times : Double) {online : Online} (hcollected : online.collections ⊆ C)
    (save : SaveEnv) (orElse : AuthResult → AuthResult) :
    (cl.checkOnlineAndPersist times online save orElse file).From C := by
  obtain ⟨hclient, hinfo⟩ := checkOnline_spec hcl hcollected
  rw [AuthClient.checkOnlineAndPersist]
  dsimp only
  split
  next hsuccess =>
    exact ⟨from_persist hfile hclient.storable (fun _ => hinfo hsuccess) _ _,
      hclient⟩
  next => exact ⟨hfile, hclient⟩

theorem from_checkAuthorization (hfile : From C file) (hcl : cl.From C)
    {env : CheckEnv} (hcollected : env.online.collections ⊆ C) :
    (cl.checkAuthorization env file).From C :=
  from_checkOnlineAndPersist
    (from_snapshotForAuthorizationCheck hfile hcl.storable env.snapshot) hcl _
    hcollected _ _

/-- The full heartbeat after a light one whose answer was stored. -/
theorem from_complete
    (hfile : FromBut C (some cl.cache.softwareName) file) (hcl : cl.From C)
    (times : Double) {online : Online} {save : SaveEnv}
    (orElse : AuthResult → AuthResult) (hcollected : online.collections ⊆ C)
    (hsuccess : (cl.checkOnline online).2.success = true)
    (hstores : cl.Stores save) (hkey : KeepsKey isSpace cl.cache.softwareName) :
    (cl.checkOnlineAndPersist times online save orElse file).From C := by
  obtain ⟨hclient, hinfo⟩ := checkOnline_spec hcl hcollected
  rw [AuthClient.checkOnlineAndPersist]
  simp only [hsuccess, if_true]
  rw [AuthClient.Stores, ← checkOnline_cache online] at hstores
  rw [← checkOnline_cache online] at hfile hkey
  exact ⟨from_persist_over hfile hclient (hinfo hsuccess) hkey _ _ hstores,
    hclient⟩

theorem from_checkAuthorizationProgressive (hfile : From C file)
    (hcl : cl.From C) {env : ProgressiveEnv}
    (hcollected : env.full.collections ⊆ C)
    (hlight : cl.CompletesLight env) :
    (cl.checkAuthorizationProgressive env file).From C := by
  have hfile' := from_snapshotForAuthorizationCheck hfile hcl.storable
    env.snapshot
  rw [AuthClient.checkAuthorizationProgressive]
  dsimp only
  split
  · cases hauth : env.light.toResult.authorized with
    | false =>
        exact ⟨from_persist hfile' hcl.storable
          (fun h => by contradiction) _ _, hcl⟩
    | true =>
        simp only [if_true]
        obtain ⟨hbut, hkept⟩ :=
          but_persist cl hfile' hcl.storable true
            (plusOne (cl.cache.snapshotForAuthorizationCheck env.snapshot
              file).2.2) env.saveLight
        cases hdeferred : cl.deviceInfoDeferred with
        | false =>
            exact from_checkOnlineAndPersist (from_persist hfile'
              hcl.storable (fun _ => hcl.info hdeferred) _ _) hcl _
              hcollected _ _
        | true =>
            by_cases hstores : cl.Stores env.saveLight
            · obtain ⟨hsuccess, hsave, hkey⟩ :=
                hlight hdeferred hauth hstores
              exact from_complete hbut hcl _ _ hcollected hsuccess
                ⟨hstores.1, hsave⟩ hkey
            · exact from_checkOnlineAndPersist (hkept hstores) hcl _
                hcollected _ _
  · exact from_checkOnlineAndPersist hfile' hcl _ hcollected _ _

end Checks

/-! ## Constructions -/

section Construction

variable {file : StateFile}

theorem from_buildDeviceId (hfile : From C file) {softwareName : String}
    (hname : Storable softwareName) (provided : String) (env : ConstructEnv) :
    From C (buildDeviceId softwareName provided env file).1 := by
  have hpersist : ∀ id, From C
      ((newAuthCache softwareName id 0).persistDeviceId env.persist file).1 :=
    fun id => from_persistDeviceId (c := newAuthCache softwareName id 0)
      hfile hname env.persist
  rw [buildDeviceId]
  dsimp only
  repeat' split
  all_goals first | exact hpersist _ | exact hfile

theorem from_loadDeviceInfoSnapshot (hfile : From C file) {c : AuthCache}
    {parse : String → Option Json} {read : Bool} {info : Dict String Json}
    (hname : c.softwareName ≠ "__proto__")
    (h : c.loadDeviceInfoSnapshot parse read file = some info) :
    FromCollection C info := by
  rw [AuthCache.loadDeviceInfoSnapshot, AuthCache.rowOf] at h
  cases hread : readStateDict read file with
  | none => simp [hread] at h
  | some m =>
      obtain ⟨root, hroot, hm⟩ := within_of_readStateDict hread
      have hproto := noProto_of_read hfile.plain (Or.inr hroot) hm
      have hsnap := hfile.content.of_read (Or.inr hroot) hm
      rw [hread, Option.bind_some, lookup_typeScript hproto hname] at h
      cases hrow : (loadAppsMap m).own.get c.softwareName with
      | none => simp [hrow] at h
      | some row =>
          have hfrom := rowFrom_of_load hsnap (loads_typeScript hproto) hrow
            (by simp)
          rw [hrow, Option.bind_some] at h
          cases hs : row.get bundleProductDeviceInfoSnapshotKey with
          | none => simp [hs] at h
          | some v =>
              obtain ⟨d, hd, hinfo⟩ := hfrom v hs
              have hload : v.dict?.map jsonCopy = some info := by
                cases v with
                | obj members => simpa [hs] using h
                | null | bool | int | float | str | arr =>
                    simp [Json.dict?] at hd
              rw [hd, Option.map_some, Option.some.injEq] at hload
              rw [← hload]
              exact hinfo.mapValues (Rounding.asDoubles.comp .stringify)

/-- There is no snapshot of the product `__proto__`. -/
theorem loadDeviceInfoSnapshot_proto (hfile : Plain file) {c : AuthCache}
    (parse : String → Option Json) (read : Bool)
    (hname : c.softwareName = "__proto__") :
    c.loadDeviceInfoSnapshot parse read file = none := by
  rw [AuthCache.loadDeviceInfoSnapshot, AuthCache.rowOf]
  cases hread : readStateDict read file with
  | none => simp
  | some m =>
      obtain ⟨root, hroot, hm⟩ := within_of_readStateDict hread
      have hproto := noProto_of_read hfile (Or.inr hroot) hm
      have hown : (loadAppsMap m).own.get "__proto__" = none := by
        cases hrow : (loadAppsMap m).own.get "__proto__" with
        | none => rfl
        | some row =>
            obtain ⟨k, v, hk, happ⟩ := (loads_typeScript hproto).sound hrow
            exact (hproto k v _ _ hk happ rfl).elim
      have hnone : (loadAppsMap m).proto = none := by
        rw [loadAppsMap_typeScript hproto]
      simp [Apps.lookup, hname, hown, hnone]

theorem from_newAuthClient (hfile : From C file)
    (parse : String → Option Json) {config : AuthClientConfig}
    {env : ConstructEnv} (hconfig : config.deviceInfo = none)
    (hname : Storable config.softwareName)
    (hcollected : ∀ c ∈ env.collected, c ∈ C) :
    From C (newAuthClient parse config env file).1 ∧
      ∀ cl ∈ (newAuthClient parse config env file).2, cl.From C := by
  rw [newAuthClient]
  split
  · exact ⟨hfile, by simp⟩
  · have hbuild := from_buildDeviceId hfile hname config.deviceId env
    refine ⟨hbuild, ?_⟩
    intro cl hcl
    obtain ⟨⟨info, deferred⟩, hinit, rfl⟩ := Option.map_eq_some_iff.mp hcl
    refine ⟨hname, ?_⟩
    rintro rfl
    have hinfo : FromCollection C info := by
      simp only [initialDeviceInfo, hconfig] at hinit
      split at hinit
      · split at hinit
        next snap hsnap =>
          obtain rfl : snap = info := congrArg Prod.fst (Option.some.inj hinit)
          refine from_loadDeviceInfoSnapshot hbuild ?_ hsnap
          intro hproto
          rw [loadDeviceInfoSnapshot_proto hbuild.plain _ _ hproto] at hsnap
          contradiction
        next => simp at hinit
      · obtain ⟨c, hc, heq⟩ := Option.map_eq_some_iff.mp hinit
        obtain rfl : c = info := congrArg Prod.fst heq
        exact .of_mem (hcollected c hc)
    exact hinfo.imp fun _ hc => comesFrom_label hc _ _

end Construction

/-! ## The SDK -/

/-- The activities of a client. -/
inductive Activity
  | check (env : CheckEnv)
  | progressive (env : ProgressiveEnv)
  | clear (env : ClearEnv)

def Activity.perform (cl : AuthClient) (file : StateFile) :
    Activity → StateFile × AuthClient
  | .check env =>
      let out := cl.checkAuthorization env file
      (out.file, out.client)
  | .progressive env =>
      let out := cl.checkAuthorizationProgressive env file
      (out.file, out.client)
  | .clear env => ((cl.cache.clearCache env file).1, cl)

/-- The TypeScript SDK; `parse` is `JSON.parse`. -/
def implementation (parse : String → Option Json) : Implementation where
  File := StateFile
  Client := AuthClient
  Construction := AuthClientConfig × ConstructEnv
  Activity := Activity
  DeviceInfo := Dict String Json
  members info := info
  content := StateFile.content
  Plain := Plain
  Proper cl := Storable cl.cache.softwareName
  deviceInfo := AuthClient.deviceInfo
  deferred := AuthClient.deviceInfoDeferred
  construct x file := newAuthClient parse x.1 x.2 file
  act a cl file := a.perform cl file
  Admits x := x.1.deviceInfo = none ∧ Storable x.1.softwareName
  collectedIn x := {c | x.2.collected = some c}
  collectedBy
    | .check env => env.online.collections
    | .progressive env => env.full.collections
    | .clear _ => ∅
  Completes cl
    | .progressive env => cl.CompletesLight env
    | .check _ | .clear _ => True

theorem fileFrom_iff {parse : String → Option Json} {file : StateFile} :
    (implementation parse).FileFrom C file ↔ From C file := by
  have himage : (implementation parse).members '' C = C := Set.image_id' C
  constructor
  · intro h
    have hcontent := h.content
    rw [himage] at hcontent
    exact ⟨h.plain, hcontent⟩
  · intro h
    have hcontent := h.content
    rw [← himage] at hcontent
    exact ⟨h.plain, hcontent⟩

theorem clientFrom_iff {parse : String → Option Json} {cl : AuthClient} :
    (implementation parse).ClientFrom C cl ↔ cl.From C := by
  have himage : (implementation parse).members '' C = C := Set.image_id' C
  constructor
  · intro h
    have hinfo := h.info
    rw [himage] at hinfo
    exact ⟨h.proper, hinfo⟩
  · intro h
    have hinfo := h.info
    rw [← himage] at hinfo
    exact ⟨h.storable, hinfo⟩

theorem implementation_sound (parse : String → Option Json) :
    (implementation parse).Sound where
  construct := by
    intro C x file hadmits hcollected hfile
    have hcollected' : ∀ c ∈ x.2.collected, c ∈ C :=
      fun c hc => hcollected hc
    obtain ⟨hfile', hclient⟩ := from_newAuthClient
      (fileFrom_iff.mp hfile) parse hadmits.1 hadmits.2 hcollected'
    exact ⟨fileFrom_iff.mpr hfile',
      fun cl hcl => clientFrom_iff.mpr (hclient cl hcl)⟩
  act := by
    intro C a cl file hcompletes hcollected hfile hcl
    replace hfile := fileFrom_iff.mp hfile
    replace hcl := clientFrom_iff.mp hcl
    have hperform : From C (a.perform cl file).1 ∧
        (a.perform cl file).2.From C := by
      cases a with
      | check env =>
          have hout := from_checkAuthorization hfile hcl hcollected
          exact ⟨hout.file, hout.client⟩
      | progressive env =>
          have hout := from_checkAuthorizationProgressive hfile hcl hcollected
            hcompletes
          exact ⟨hout.file, hout.client⟩
      | clear env => exact ⟨from_clearCache hfile hcl.storable env, hcl⟩
    exact ⟨fileFrom_iff.mpr hperform.1, clientFrom_iff.mpr hperform.2⟩

end PyAuth.TypeScript
