import PyAuth.Go.AuthClient
import PyAuth.Sdk.Fleet

/-!
# Snapshots of the Go SDK

What the operations of the Go cache do to the snapshots in the file, and that
constructions and checks are sound.
-/

namespace PyAuth.Go

open Support Client Sdk

variable {C : Set (Dict String Json)}

/-! ## The operations on the file -/

theorem unmarshal_eq {d m : Root} (h : unmarshal d = some m) :
    m = d.mapValues Json.asDoubles := by
  simp only [unmarshal, Option.ite_none_right_eq_some, Option.some.injEq] at h
  exact h.2.symm

/-- What a read returns holds members of the file. -/
theorem within_of_readStateDict {env : ReadEnv} {file : StateFile} {m : Root}
    (h : readStateDict env file = .ok (some m)) :
    ∃ root, file.content = some root ∧ Within root m := by
  cases file with
  | absent => simp [readStateDict] at h
  | unreadable =>
      simp only [readStateDict] at h
      split at h <;> simp at h
  | root d =>
      refine ⟨d, rfl, ?_⟩
      simp only [readStateDict] at h
      split at h
      · simp only [Except.ok.injEq, Option.map_eq_some_iff] at h
        obtain ⟨m', hm', rfl⟩ := h
        rw [unmarshal_eq hm']
        exact (Within.mapValues d .asDoubles).erase _
      · contradiction

theorem within_of_readOrNil (env : ReadEnv) (file : StateFile) :
    ∃ root, (root = .empty ∨ file.content = some root) ∧
      Within root ((readOrNil env file).getD .empty) := by
  have hempty : ∃ root : Root, (root = .empty ∨ file.content = some root) ∧
      Within root .empty := ⟨.empty, Or.inl rfl, .refl _⟩
  rw [readOrNil]
  rcases hread : readStateDict env file with _ | (_ | m)
  · exact hempty
  · exact hempty
  · obtain ⟨root, hroot, hwithin⟩ := within_of_readStateDict hread
    exact ⟨root, Or.inr hroot, hwithin⟩

namespace AuthCache

variable {c : AuthCache} {file : StateFile}

/-- Writing what an update has made of the file. -/
theorem writeWithRetry_updateRow {root m : Root} (range : Range)
    (f : Row → Row) (root'' : Root) (env : WriteEnv)
    (hroot : root = .empty ∨ file.content = some root) (hm : Within root m)
    (hwithin : Within (c.updateRow range m f) root'') :
    (env.completes = true ∧ Rewrites isSpace file.content c.softwareName f
        (file.writeWithRetry root'' env).1.content) ∨
      (env.completes = false ∧ Keeps file.content
        (file.writeWithRetry root'' env).1.content) := by
  rcases StateFile.writeWithRetry_cases root'' file env with
    hdone | ⟨hfail, hkeeps⟩
  · left
    have hsnd := StateFile.writeWithRetry_snd root'' file env
    rw [hdone] at hsnd ⊢
    exact ⟨hsnd.symm, root, m, _, _, root'', hroot, hm, loads_go range m,
      rewritten_updateRow_go c range m f, rfl, hwithin⟩
  · rw [StateFile.writeWithRetry_snd] at hfail
    exact Or.inr ⟨hfail, hkeeps⟩

theorem saveCache_cases (c : AuthCache) (authorized : Bool) (hb : Option ℤ)
    (snapshot : Option (Dict String Json)) (env : SaveEnv)
    (file : StateFile) :
    (env.write.completes = true ∧ Rewrites isSpace file.content c.softwareName
        (c.savedRow authorized env.now hb snapshot)
        (c.saveCache authorized hb snapshot env file).1.content) ∨
      (env.write.completes = false ∧ Keeps file.content
        (c.saveCache authorized hb snapshot env file).1.content) := by
  obtain ⟨root, hroot, hm⟩ := within_of_readOrNil env.read file
  exact writeWithRetry_updateRow _ _ _ env.write hroot (hm.eraseAll _)
    (.refl _)

theorem clearCache_cases (c : AuthCache) (env : ClearEnv)
    (file : StateFile) :
    Rewrites isSpace file.content c.softwareName c.clearedRow
        (c.clearCache env file).1.content ∨
      Keeps file.content (c.clearCache env file).1.content := by
  rw [clearCache]
  rcases hread : readStateDict env.read file with _ | (_ | m)
  · exact Or.inr (.refl _)
  · exact Or.inr (.refl _)
  · obtain ⟨root, hroot, hm⟩ := within_of_readStateDict hread
    dsimp only
    split
    · exact (writeWithRetry_updateRow env.read.range c.clearedRow _ env.write
        (Or.inr hroot) (hm.eraseAll bundleRootStrayKeys) (.refl _)).imp
          And.right And.right
    · right
      cases env.remove with
      | true => exact Or.inr rfl
      | false => exact .refl _

theorem persistDeviceID_cases (c : AuthCache) (env : PersistEnv)
    (file : StateFile) :
    Rewrites isSpace file.content c.softwareName
        (·.set "device_id" (.str c.deviceID))
        (c.persistDeviceID env file).1.content ∨
      Keeps file.content (c.persistDeviceID env file).1.content := by
  obtain ⟨root, hroot, hm⟩ := within_of_readOrNil env.read file
  exact (writeWithRetry_updateRow env.read.range _ _ env.write hroot hm
    ((Within.refl _).erase _)).imp And.right And.right

/-! ## The rows they write -/

variable {sub : Row}

theorem rowFrom_clearedRow : RowFrom C (c.clearedRow sub) := by
  apply RowFrom.of_none
  simp [clearedRow, Dict.get_set, Dict.get_eraseAll,
    bundleProductClearRowKeys, bundleProductDeviceInfoSnapshotKey]

/-- An authorisation stores the information it is given, anything else
removes what was stored. -/
theorem rowFrom_savedRow {authorized : Bool} {now : ℚ} {hb : Option ℤ}
    {info : Dict String Json} (hinfo : FromCollection C info)
    (hsub : info.isEmpty = false ∨ RowFrom C sub) :
    RowFrom C (c.savedRow authorized now hb
      (if authorized then some info else none) sub) := by
  cases authorized with
  | false =>
      apply RowFrom.of_none
      simp [savedRow, Dict.get_set, Dict.get_eraseAll,
        bundleProductRevokeKeys, bundleProductDeviceInfoSnapshotKey]
  | true =>
      by_cases hempty : info.isEmpty = false
      · apply RowFrom.of_info (hinfo.mapValues .asDoubles)
        simp [savedRow, hempty, bundleProductDeviceInfoSnapshotKey]
      · apply (hsub.resolve_left hempty).of_get_eq
        right
        cases hb <;> simp [savedRow, hempty, Dict.get_set]

theorem rowFrom_persisted (h : RowFrom C sub) (id : String) :
    RowFrom C (sub.set "device_id" (.str id)) :=
  h.of_get_eq (Or.inr (Dict.get_set_of_ne (by decide)))

/-! ## What they do to the snapshots -/

theorem contentFrom_clearCache (h : ContentFrom C file.content)
    (env : ClearEnv) :
    ContentFrom C (c.clearCache env file).1.content := by
  rcases clearCache_cases c env file with hr | hk
  · exact h.rewrites hr fun _ _ => rowFrom_clearedRow
  · exact h.keeps hk

theorem contentFrom_persistDeviceID (h : ContentFrom C file.content)
    (env : PersistEnv) :
    ContentFrom C (c.persistDeviceID env file).1.content := by
  rcases persistDeviceID_cases c env file with hr | hk
  · exact h.rewrites hr fun _ hsub => rowFrom_persisted hsub _
  · exact h.keeps hk

theorem contentFrom_snapshotAuthRow (h : ContentFrom C file.content)
    (env : SnapshotEnv) :
    ContentFrom C (c.snapshotAuthRow env file).1.content := by
  have hclear := contentFrom_clearCache (c := c) h env.clear
  rw [snapshotAuthRow]
  repeat' split
  all_goals first | exact h | exact hclear

end AuthCache

/-- An attempt among them completes its write. -/
def Attempts.completes (envs : Attempts) : Bool :=
  envs.1.any fun env => env.write.completes

theorem saveAttempts_cases (c : AuthCache) (authorized : Bool)
    (hb : Option ℤ) (snapshot : Option (Dict String Json))
    (envs : List SaveEnv) (file : StateFile) :
    (envs.any (fun env => env.write.completes) = true ∧
        ∃ now, Rewrites isSpace file.content c.softwareName
          (c.savedRow authorized now hb snapshot)
          (saveAttempts c authorized hb snapshot envs file).content) ∨
      (envs.any (fun env => env.write.completes) = false ∧
        Keeps file.content
          (saveAttempts c authorized hb snapshot envs file).content) := by
  induction envs generalizing file with
  | nil => exact Or.inr ⟨rfl, .refl _⟩
  | cons env envs ih =>
      have hok : (c.saveCache authorized hb snapshot env file).2 =
          env.write.completes := StateFile.writeWithRetry_snd _ _ _
      rw [saveAttempts, List.any_cons]
      simp only [hok]
      rcases AuthCache.saveCache_cases c authorized hb snapshot env file with
        ⟨hdone, hr⟩ | ⟨hfail, hk⟩
      · simp only [hdone, if_true, Bool.true_or, true_and]
        exact Or.inl ⟨env.now, hr⟩
      · simp only [hfail, Bool.false_eq_true, if_false, Bool.false_or]
        rcases ih (c.saveCache authorized hb snapshot env file).1 with
          ⟨hany, now, hr⟩ | ⟨hany, hk'⟩
        · exact Or.inl ⟨hany, now, hr.of_keeps hk⟩
        · exact Or.inr ⟨hany, hk.trans hk'⟩

/-! ## Device information -/

theorem lookup_blockMember (name : String)
    (block : Option (Dict String Json)) (k : String) :
    (blockMember name block).reverse.lookup k =
      if k = name then block.map Json.ofDict else none := by
  cases block with
  | none => simp [blockMember]
  | some d =>
      change [(name, Json.ofDict d)].lookup k = _
      rw [Dict.lookup_cons_eq]
      rfl

/-- The members of a marshalled device information, but for the labels. -/
theorem get_marshal (info : DeviceInfo) {k : String} (hk : k ∉ labelKeys) :
    info.marshal.get k =
      if k = "system" then info.sys.map Json.ofDict
      else if k = "network" then info.network.map Json.ofDict
      else if k = "memory" then info.memory.map Json.ofDict
      else if k = "disk" then info.disk.map Json.ofDict
      else if k = "cpu" then info.cpu.map Json.ofDict
      else none := by
  have hversion : k ≠ "software_version" := by
    rintro rfl
    simp [labelKeys] at hk
  have hsdk : k ≠ "sdk" := by
    rintro rfl
    simp [labelKeys] at hk
  have hlabel : (if info.softwareVersion = "" then []
      else [("software_version", Json.str info.softwareVersion)]).reverse.lookup
        k = none := by
    split <;> simp [List.lookup_cons, hversion, beq_eq_false_iff_ne.mpr]
  rw [DeviceInfo.marshal, Dict.get_ofList]
  simp only [List.reverse_append, List.lookup_append, lookup_blockMember,
    hlabel, hsdk, if_false, Option.none_or]
  split_ifs <;> simp_all

theorem networkOf_marshal (info : DeviceInfo) :
    networkOf info.marshal = info.network.getD .empty := by
  rw [networkOf, get_marshal info (by decide)]
  cases info.network <;> simp

/-- What the labels do not touch decides where an information comes from. -/
theorem comesFrom_label {c : Dict String Json} {info : DeviceInfo}
    (h : ComesFrom c info.marshal) (softwareVersion runtime : String) :
    ComesFrom c (info.label softwareVersion runtime).marshal := by
  apply h.of_labels
  intro k hk
  rw [get_marshal _ hk, get_marshal _ hk]
  rfl

theorem comesFrom_setPublicIP {c : Dict String Json} {info : DeviceInfo}
    (h : ComesFrom c info.marshal) (ip : String) :
    ComesFrom c (info.setPublicIP ip).marshal := by
  apply h.of_publicIp
  · intro k hk hne
    simp only [get_marshal _ hk, hne, if_false]
    rfl
  · intro m hm
    rw [networkOf_marshal, networkOf_marshal]
    exact Dict.get_set_of_ne hm

theorem isEmpty_marshal_label (info : DeviceInfo)
    (softwareVersion runtime : String) :
    (info.label softwareVersion runtime).marshal.isEmpty = false := by
  have hget : (info.label softwareVersion runtime).marshal.get "sdk" =
      some (.ofDict (sdkInfo runtime)) := by
    rw [DeviceInfo.marshal, Dict.get_ofList]
    simp only [List.reverse_append, List.lookup_append, lookup_blockMember]
    rfl
  exact Dict.isEmpty_eq_false_of_get hget

theorem isEmpty_marshal_setPublicIP (info : DeviceInfo) (ip : String) :
    (info.setPublicIP ip).marshal.isEmpty = false := by
  apply Dict.isEmpty_eq_false_of_get (k := "network")
  rw [get_marshal _ (by decide)]
  rfl

/-- Reading a stored information back loses none of its blocks. -/
theorem comesFrom_unmarshal {c info : DeviceInfo} {d : Dict String Json}
    (h : ComesFrom c.marshal d) (hread : unmarshalDeviceInfo d = some info) :
    ComesFrom c.marshal info.marshal := by
  simp only [unmarshalDeviceInfo, Option.bind_eq_bind,
    Option.bind_eq_some_iff] at hread
  obtain ⟨sys, hsys, network, hnetwork, memory, hmemory, disk, hdisk, cpu,
    hcpu, version, -, sdk, -, hinfo⟩ := hread
  obtain rfl := Option.some.inj hinfo
  have hblock : ∀ {k : String} {block block' : Option (Dict String Json)},
      unmarshalBlock (d.get k) = some block →
      (d.get k).map rounded = (block'.map Json.ofDict).map rounded →
      (block.map Json.ofDict).map rounded =
        (block'.map Json.ofDict).map rounded := by
    intro k block block' hread hround
    rw [← hround]
    cases hget : d.get k with
    | none =>
        rw [hget] at hread
        obtain rfl := Option.some.inj hread
        rfl
    | some v =>
        rw [hget] at hread hround
        cases block' with
        | none => simp at hround
        | some b =>
            simp only [Option.map_some, Option.some.injEq] at hround
            cases hv : v.dict? with
            | some b' =>
                have hbv := eq_ofDict_of_rounded_eq hround hv
                subst hbv
                have hb : unmarshalBlock (some (Json.ofDict b')) =
                    some (some b') :=
                  congrArg (Option.map some) hv
                rw [hb, Option.some.injEq] at hread
                rw [← hread]
                rfl
            | none =>
                cases v with
                | null => contradiction
                | obj => contradiction
                | bool | int | float | str | arr =>
                    simp [unmarshalBlock, Json.dict?] at hread
  constructor
  · intro k hk hne
    have hmem := h.members k hk hne
    rw [get_marshal c hk] at hmem
    rw [get_marshal _ hk, get_marshal c hk]
    simp only [hne, if_false] at hmem ⊢
    split_ifs at hmem ⊢ with h₁ h₂ h₃ h₄
    · subst h₁
      exact hblock hsys hmem
    · subst h₂
      exact hblock hmemory hmem
    · subst h₃
      exact hblock hdisk hmem
    · subst h₄
      exact hblock hcpu hmem
    · rfl
  · have heq : networkOf (DeviceInfo.marshal
        ⟨sys, network, memory, disk, cpu, version, sdk⟩) = networkOf d := by
      rw [networkOf_marshal, networkOf]
      cases hget : d.get "network" with
      | none =>
          rw [hget] at hnetwork
          obtain rfl := Option.some.inj hnetwork
          rfl
      | some v =>
          rw [hget] at hnetwork
          cases v with
          | obj members =>
              obtain rfl := Option.some.inj hnetwork
              rfl
          | null =>
              obtain rfl := Option.some.inj hnetwork
              rfl
          | bool | int | float | str | arr =>
              simp [unmarshalBlock, Json.dict?] at hnetwork
    rw [heq]
    exact h.network

/-! ## Clients -/

section Checks

variable {D : Set DeviceInfo} {cl : AuthClient} {file : StateFile}

/-- A client that is not deferred holds information from a collection. -/
def AuthClient.InfoFrom (D : Set DeviceInfo) (cl : AuthClient) : Prop :=
  cl.deviceInfoDeferred = false →
    FromCollection (DeviceInfo.marshal '' D) cl.deviceInfo.marshal

abbrev StateFile.From (D : Set DeviceInfo) (file : StateFile) : Prop :=
  ContentFrom (DeviceInfo.marshal '' D) file.content

/-- After a full heartbeat the information of the client comes from a
collection, the client is not deferred, and its cache settings are those it
had. -/
theorem checkOnline_spec (hcl : cl.InfoFrom D) {online : Online}
    (hcollected : online.collected ∈ D) :
    (cl.checkOnline online).1.deviceInfoDeferred = false ∧
      FromCollection (DeviceInfo.marshal '' D)
        (cl.checkOnline online).1.deviceInfo.marshal ∧
      (cl.checkOnline online).1.cache = cl.cache ∧
      (cl.deviceInfoDeferred = true →
        (cl.checkOnline online).1.deviceInfo.marshal.isEmpty = false) := by
  have hensure : (cl.ensureFullDeviceInfo online.collected).deviceInfoDeferred =
        false ∧
      FromCollection (DeviceInfo.marshal '' D)
        (cl.ensureFullDeviceInfo online.collected).deviceInfo.marshal ∧
      (cl.ensureFullDeviceInfo online.collected).cache = cl.cache ∧
      (cl.deviceInfoDeferred = true →
        (cl.ensureFullDeviceInfo
          online.collected).deviceInfo.marshal.isEmpty = false) := by
    rw [AuthClient.ensureFullDeviceInfo]
    cases hd : cl.deviceInfoDeferred with
    | true =>
        have hmem : FromCollection (DeviceInfo.marshal '' D)
            online.collected.marshal :=
          .of_mem (Set.mem_image_of_mem _ hcollected)
        exact ⟨rfl, hmem.imp fun _ hc => comesFrom_label hc _ _, rfl,
          fun _ => isEmpty_marshal_label _ _ _⟩
    | false => exact ⟨hd, hcl hd, rfl, fun h => by contradiction⟩
  obtain ⟨hdeferred, hfrom, hcache, hempty⟩ := hensure
  rw [AuthClient.checkOnline]
  dsimp only
  generalize (if (cl.deviceInfoDeferred ||
    deviceInfoPublicIPUnset cl.deviceInfo) = true then online.publicIP
    else "") = pub
  by_cases hpub : pub = ""
  · simp only [hpub, if_true]
    exact ⟨hdeferred, hfrom, hcache, hempty⟩
  · simp only [hpub, if_false]
    exact ⟨hdeferred, hfrom.imp fun _ hc => comesFrom_setPublicIP hc _,
      hcache, fun _ => isEmpty_marshal_setPublicIP _ _⟩

/-- Storing an answer with good information. -/
theorem from_persist (hfile : StateFile.From D file)
    (hinfo : FromCollection (DeviceInfo.marshal '' D) cl.deviceInfo.marshal)
    (authorized : Bool) (hb : Option ℤ) (envs : Attempts) :
    StateFile.From D
      (cl.persistHeartbeatResult authorized hb envs file) := by
  rcases saveAttempts_cases cl.cache authorized hb
      (if authorized then some cl.deviceInfo.marshal else none) envs.1 file
    with ⟨-, now, hr⟩ | ⟨-, hk⟩
  · exact ContentFromBut.rewrites hfile hr fun _ hsub =>
      AuthCache.rowFrom_savedRow hinfo (Or.inr hsub)
  · exact ContentFromBut.keeps hfile hk

/-- Storing any answer harms at most the own row, and nothing when it is not
stored. -/
theorem but_persist (cl : AuthClient) (hfile : StateFile.From D file)
    (authorized : Bool) (hb : Option ℤ) (envs : Attempts) :
    ContentFromBut (DeviceInfo.marshal '' D) (some cl.cache.softwareName)
        (cl.persistHeartbeatResult authorized hb envs file).content ∧
      (envs.completes = false → StateFile.From D
        (cl.persistHeartbeatResult authorized hb envs file)) := by
  rcases saveAttempts_cases cl.cache authorized hb
      (if authorized then some cl.deviceInfo.marshal else none) envs.1 file
    with ⟨hany, now, hr⟩ | ⟨-, hk⟩
  · refine ⟨ContentFromBut.rewrites_but hfile hr, fun hnot => ?_⟩
    rw [Attempts.completes, hany] at hnot
    contradiction
  · have hkept : StateFile.From D
        (cl.persistHeartbeatResult authorized hb envs file) :=
      ContentFromBut.keeps hfile hk
    exact ⟨hkept.but _, fun _ => hkept⟩

/-- Storing an answer with good information over any row of the product. -/
theorem from_persist_over
    (hfile : ContentFromBut (DeviceInfo.marshal '' D)
      (some cl.cache.softwareName) file.content)
    (hinfo : FromCollection (DeviceInfo.marshal '' D) cl.deviceInfo.marshal)
    (hempty : cl.deviceInfo.marshal.isEmpty = false)
    (hname : KeepsKey isSpace cl.cache.softwareName) (authorized : Bool)
    (hb : Option ℤ) {envs : Attempts} (henvs : envs.completes = true) :
    StateFile.From D
      (cl.persistHeartbeatResult authorized hb envs file) := by
  rcases saveAttempts_cases cl.cache authorized hb
      (if authorized then some cl.deviceInfo.marshal else none) envs.1 file
    with ⟨-, now, hr⟩ | ⟨hany, -⟩
  · exact ContentFromBut.rewrites_over hfile hr hname fun _ =>
      AuthCache.rowFrom_savedRow hinfo (Or.inl hempty)
  · rw [Attempts.completes, hany] at henvs
    contradiction

/-- The condition on a progressive check: when a deferred client stores the
answer to its light heartbeat, it stores that of the full one too, in the
place of the same row. -/
def AuthClient.CompletesLight (cl : AuthClient) (env : ProgressiveEnv) :
    Prop :=
  cl.deviceInfoDeferred = true → env.light.toResult.authorized = true →
    env.saveLight.completes = true →
      env.full.answer.toResult.success = true ∧
        env.saveFull.completes = true ∧ KeepsKey isSpace cl.cache.softwareName

/-- What every check leaves. -/
def Checked.From (D : Set DeviceInfo) (out : Checked) : Prop :=
  StateFile.From D out.file ∧ out.client.InfoFrom D

theorem from_checkOnlineAndPersist (hfile : StateFile.From D file)
    (hcl : cl.InfoFrom D) (times : ℤ) {online : Online}
    (hcollected : online.collected ∈ D) (save : Attempts) :
    (cl.checkOnlineAndPersist times online save file).From D := by
  obtain ⟨-, hinfo, -, -⟩ := checkOnline_spec hcl hcollected
  rw [AuthClient.checkOnlineAndPersist]
  dsimp only
  split
  · exact ⟨from_persist hfile hinfo _ _ _, fun _ => hinfo⟩
  · exact ⟨hfile, fun _ => hinfo⟩

theorem from_orCached {cached : Option CacheData} {out : Checked}
    (h : out.From D) : (AuthClient.orCached cached out).From D := by
  unfold AuthClient.orCached
  split
  · exact h
  · split
    · exact h
    · exact h

theorem from_checkAuthorization (hfile : StateFile.From D file)
    (hcl : cl.InfoFrom D) {env : CheckEnv}
    (hcollected : env.online.collected ∈ D) :
    (cl.checkAuthorization env file).From D := by
  rw [AuthClient.checkAuthorization]
  exact from_orCached (from_checkOnlineAndPersist
    (AuthCache.contentFrom_snapshotAuthRow hfile _) hcl _ hcollected _)

/-- The full heartbeat after a light one whose answer was stored. -/
theorem from_completeLight
    (hfile : ContentFromBut (DeviceInfo.marshal '' D)
      (some cl.cache.softwareName) file.content)
    (hcl : cl.InfoFrom D) (times : ℤ) {env : ProgressiveEnv}
    (hcollected : env.full.collected ∈ D)
    (hgood : StateFile.From D file ∨ (cl.deviceInfoDeferred = true ∧
      env.full.answer.toResult.success = true ∧
        env.saveFull.completes = true ∧ KeepsKey isSpace cl.cache.softwareName)) :
    (cl.completeLight times env file).From D := by
  have hfull : (cl.checkOnlineAndPersist times env.full env.saveFull
      file).From D := by
    rcases hgood with hgood | ⟨hdeferred, hsuccess, hsave, hname⟩
    · exact from_checkOnlineAndPersist hgood hcl times hcollected _
    · obtain ⟨-, hinfo, hcache, hempty⟩ := checkOnline_spec hcl hcollected
      have hresult : (cl.checkOnline env.full).2 =
          env.full.answer.toResult := rfl
      rw [AuthClient.checkOnlineAndPersist]
      simp only [hresult, hsuccess, if_true]
      refine ⟨?_, fun _ => hinfo⟩
      rw [← hcache] at hfile hname
      exact from_persist_over hfile hinfo (hempty hdeferred) hname _ _ hsave
  rw [AuthClient.completeLight]
  repeat' split
  all_goals exact hfull

theorem from_checkOnlineProgressive (hfile : StateFile.From D file)
    (hcl : cl.InfoFrom D) (nextHb : ℤ) {env : ProgressiveEnv}
    (hcollected : env.full.collected ∈ D) (hlight : cl.CompletesLight env) :
    (cl.checkOnlineProgressive nextHb env file).From D := by
  rw [AuthClient.checkOnlineProgressive]
  dsimp only
  by_cases hsuccess : env.light.toResult.success = true
  · simp only [hsuccess, if_true]
    by_cases hauth : env.light.toResult.authorized = true
    · simp only [hauth, if_true]
      obtain ⟨hbut, hkept⟩ :=
        but_persist cl hfile true (some nextHb) env.saveLight
      refine from_completeLight hbut hcl _ hcollected ?_
      cases hdeferred : cl.deviceInfoDeferred with
      | false => exact Or.inl (from_persist hfile (hcl hdeferred) _ _ _)
      | true =>
          cases hsave : env.saveLight.completes with
          | false => exact Or.inl (hkept hsave)
          | true => exact Or.inr ⟨rfl, hlight hdeferred hauth hsave⟩
    · simp only [hauth]
      refine ⟨?_, hcl⟩
      rcases saveAttempts_cases cl.cache false none none env.saveLight.1 file
        with ⟨-, now, hr⟩ | ⟨-, hk⟩
      · refine ContentFromBut.rewrites hfile hr fun _ _ => ?_
        apply RowFrom.of_none
        simp [AuthCache.savedRow, Dict.get_set, Dict.get_eraseAll,
          bundleProductRevokeKeys, bundleProductDeviceInfoSnapshotKey]
      · exact ContentFromBut.keeps hfile hk
  · simp only [hsuccess]
    exact from_checkOnlineAndPersist hfile hcl _ hcollected _

theorem from_checkAuthorizationProgressive (hfile : StateFile.From D file)
    (hcl : cl.InfoFrom D) {env : ProgressiveEnv}
    (hcollected : env.full.collected ∈ D) (hlight : cl.CompletesLight env) :
    (cl.checkAuthorizationProgressive env file).From D := by
  rw [AuthClient.checkAuthorizationProgressive]
  exact from_orCached (from_checkOnlineProgressive
    (AuthCache.contentFrom_snapshotAuthRow hfile _) hcl _ hcollected hlight)

end Checks

/-! ## Constructions -/

section Construction

variable {D : Set DeviceInfo} {file : StateFile}

theorem from_buildDeviceID (hfile : StateFile.From D file)
    (softwareName provided persisted : String) (env : ConstructEnv) :
    StateFile.From D
      (buildDeviceID softwareName provided persisted env file).1 := by
  have hpersist : ∀ id, StateFile.From D
      ((newAuthCache softwareName id 0).persistDeviceID env.persist file).1 :=
    fun id => AuthCache.contentFrom_persistDeviceID hfile env.persist
  rw [buildDeviceID]
  dsimp only
  repeat' split
  all_goals first | exact hpersist _ | exact hfile

theorem comesFrom_loadDeviceInfoSnapshot (hfile : StateFile.From D file)
    {c : AuthCache} {parse : String → Option Json} {env : ReadEnv}
    {info : DeviceInfo}
    (h : c.loadDeviceInfoSnapshot parse env file = some info) :
    FromCollection (DeviceInfo.marshal '' D) info.marshal := by
  obtain ⟨root, hroot, hm⟩ := within_of_readOrNil env file
  have hsnap := ContentFromBut.of_read hfile hroot hm
  rw [AuthCache.loadDeviceInfoSnapshot, AuthCache.rowOf] at h
  cases hread : readOrNil env file with
  | none => simp [hread] at h
  | some m =>
      rw [hread, Option.getD_some] at hsnap
      rw [hread, Option.bind_some] at h
      cases hrow : (loadAppsMap env.range m).get c.softwareName with
      | none => simp [hrow] at h
      | some row =>
          have hfrom := rowFrom_of_load hsnap (loads_go env.range m) hrow
            (by simp)
          rw [hrow, Option.bind_some] at h
          cases hs : row.get bundleProductDeviceInfoSnapshotKey with
          | none => simp [hs] at h
          | some v =>
              obtain ⟨d, hd, ⟨_, ⟨c', hc', rfl⟩, hcomes⟩⟩ := hfrom v hs
              rw [hs] at h
              cases v with
              | obj members =>
                  dsimp only at h
                  rw [hd, Option.bind_some] at h
                  exact ⟨_, Set.mem_image_of_mem _ hc',
                    comesFrom_unmarshal hcomes h⟩
              | null | bool | int | float | str | arr =>
                  simp [Json.dict?] at hd

theorem from_newAuthClient (hfile : StateFile.From D file)
    (parse : String → Option Json) {config : AuthClientConfig}
    {env : ConstructEnv} (hconfig : config.deviceInfo = none)
    (hcollected : env.collected ∈ D) :
    StateFile.From D (newAuthClient parse config env file).1 ∧
      ∀ cl ∈ (newAuthClient parse config env file).2, cl.InfoFrom D := by
  rw [newAuthClient]
  split
  · exact ⟨hfile, by simp⟩
  · dsimp only
    generalize (if config.deviceID = "" then _ else _ : String) = hint
    have hbuild := from_buildDeviceID hfile config.softwareName
      config.deviceID hint env
    rcases hres : buildDeviceID config.softwareName config.deviceID hint env
      file with ⟨file', _ | deviceID⟩
    · rw [hres] at hbuild
      exact ⟨hbuild, by simp⟩
    · rw [hres] at hbuild
      refine ⟨hbuild, ?_⟩
      rintro _ ⟨⟩ hdeferred
      dsimp only at hbuild hdeferred ⊢
      simp only [initialDeviceInfo, hconfig] at hdeferred ⊢
      split at hdeferred
      next hneed =>
        simp only [hneed, if_true]
        have hmem : FromCollection (DeviceInfo.marshal '' D)
            env.collected.marshal :=
          .of_mem (Set.mem_image_of_mem _ hcollected)
        exact hmem.imp fun _ hc => comesFrom_label hc _ _
      next hneed =>
        simp only [hneed]
        split at hdeferred
        next snap hsnap =>
          exact (comesFrom_loadDeviceInfoSnapshot hbuild hsnap).imp
            fun _ hc => comesFrom_label hc _ _
        next => contradiction

end Construction

/-! ## The SDK -/

/-- The activities of a client. -/
inductive Activity
  | check (env : CheckEnv)
  | progressive (env : ProgressiveEnv)
  | clear (env : ClearEnv)

def Activity.perform (cl : AuthClient) (file : StateFile) :
    Activity → StateFile × AuthClient
  | .check env =>
      let out := cl.checkAuthorization env file
      (out.file, out.client)
  | .progressive env =>
      let out := cl.checkAuthorizationProgressive env file
      (out.file, out.client)
  | .clear env => ((cl.cache.clearCache env file).1, cl)

/-- The Go SDK; `parse` reads JSON texts. -/
def implementation (parse : String → Option Json) : Implementation where
  File := StateFile
  Client := AuthClient
  Construction := AuthClientConfig × ConstructEnv
  Activity := Activity
  DeviceInfo := DeviceInfo
  members := DeviceInfo.marshal
  content := StateFile.content
  Plain _ := True
  Proper _ := True
  deviceInfo := AuthClient.deviceInfo
  deferred := AuthClient.deviceInfoDeferred
  construct x file := newAuthClient parse x.1 x.2 file
  act a cl file := a.perform cl file
  Admits x := x.1.deviceInfo = none
  collectedIn x := {x.2.collected}
  collectedBy
    | .check env => {env.online.collected}
    | .progressive env => {env.full.collected}
    | .clear _ => ∅
  Completes cl
    | .progressive env => cl.CompletesLight env
    | .check _ | .clear _ => True

theorem implementation_sound (parse : String → Option Json) :
    (implementation parse).Sound where
  construct := by
    intro D x file hadmits hcollected hfile
    obtain ⟨hfile', hclient⟩ := from_newAuthClient hfile.content parse
      hadmits (Set.singleton_subset_iff.mp hcollected)
    exact ⟨⟨trivial, hfile'⟩, fun cl hcl => ⟨trivial, hclient cl hcl⟩⟩
  act := by
    intro D a cl file hcompletes hcollected hfile hcl
    have hperform : StateFile.From D (a.perform cl file).1 ∧
        (a.perform cl file).2.InfoFrom D := by
      cases a with
      | check env =>
          exact from_checkAuthorization hfile.content hcl.info
            (Set.singleton_subset_iff.mp hcollected)
      | progressive env =>
          exact from_checkAuthorizationProgressive hfile.content hcl.info
            (Set.singleton_subset_iff.mp hcollected) hcompletes
      | clear env =>
          exact ⟨AuthCache.contentFrom_clearCache hfile.content env, hcl.info⟩
    exact ⟨⟨trivial, hperform.1⟩, ⟨trivial, hperform.2⟩⟩

end PyAuth.Go
