import PyAuth.Client.Frame

/-!
# What a product saves it reads back

A cache which has saved an authorisation, and another cache of the same server
and product which reads it.  Rows are loaded under trimmed names, but stored
and looked up under the name as it was given, next to the reserved root keys:
a saved row is read back exactly under a trimmed, non-empty, non-reserved
name, and with a positive timestamp.
-/

namespace PyAuth.Client

open Support

section

variable {β : Type} {P : Primitives β} {c : AuthCache} {st : Storage β}
  {lastSuccessAt : Option Double} {n : ℤ} {info : Dict String Json}
  {io : SaveEnv}

/-- The argument `last_success_at`. -/
def timestampArgument (lastSuccessAt : Option Double) : Json :=
  match lastSuccessAt with
  | some ts => .float ts
  | none => .null

/-- The timestamp which `save_cache` writes. -/
def savedTimestamp (lastSuccessAt : Option Double) (io : SaveEnv) : Double :=
  lastSuccessAt.getD (.fin io.now)

/-- What a cache reads of the storage when no read fails. -/
def Reads (P : Primitives β) (c : AuthCache) (st : Storage β)
    (entry : Option CacheData × ℤ) (snapshot : Option (Dict String Json)) :
    Prop :=
  (∀ io : SnapshotEnv, io.read.read = true →
    (c.snapshotAuthRow P io st).2 = .ok entry) ∧
  ∀ io : ReadEnv, io.read = true →
    (c.loadDeviceInfoSnapshot P io st).2 = snapshot

/-- Every cache of the same server and product reads this. -/
def ReadBack (P : Primitives β) (c : AuthCache) (st : Storage β)
    (entry : Option CacheData × ℤ) (snapshot : Option (Dict String Json)) :
    Prop :=
  ∀ c' : AuthCache, c'.serverUrl = c.serverUrl →
    c'.softwareName = c.softwareName → Reads P c' st entry snapshot

/-! ## Reading a row -/

theorem readRow_eq (io : ReadEnv) (hio : io.read = true) :
    (c.readRow P io st).2 = c.currentRow P st := by
  simp only [AuthCache.readRow, readStateDict_snd, hio, if_true,
    AuthCache.currentRow]

/-- Of no row nothing is read. -/
theorem reads_of_no_row (h : c.currentRow P st = none) :
    Reads P c st (none, 0) none := by
  constructor
  · intro io hio
    simp only [AuthCache.snapshotAuthRow, readRow_eq io.read hio, h]
  · intro io hio
    simp only [AuthCache.loadDeviceInfoSnapshot, readRow_eq io hio, h,
      Option.bind_none]

/-- Of a cleared row nothing is read. -/
theorem reads_of_clearedRow {c' : AuthCache} {row : Row}
    (h : c.currentRow P st = some (c'.clearedRow row)) :
    Reads P c st (none, 0) none := by
  constructor
  · intro io hio
    simp only [AuthCache.snapshotAuthRow, readRow_eq io.read hio, h,
      AuthCache.rowLastSuccessTs_clearedRow, if_true]
  · intro io hio
    have hsnapshot : (c'.clearedRow row).get
        bundleProductDeviceInfoSnapshotKey = none := by
      rw [AuthCache.get_clearedRow]
      simp [bundleProductDeviceInfoSnapshotKey, bundleProductRevokeKeys]
    simp only [AuthCache.loadDeviceInfoSnapshot, readRow_eq io hio, h,
      Option.bind_some, hsnapshot]

theorem rowLastSuccessTs_savedRow_float {ts : Double} {hb snap : Json}
    {sub : Row} :
    rowLastSuccessTs (c.savedRow true (.float ts) hb snap sub) =
      if ts.isPos then some ts else none := by
  rw [rowLastSuccessTs, AuthCache.get_savedRow_last_success_at]
  simp only [Python.float_float]

/-- Of a saved row the saved values are read. -/
theorem reads_of_savedRow {c' : AuthCache} {ts : Double} {row : Row}
    (h : c.currentRow P st = some (c'.savedRow true (.float ts) (.int n)
      (.ofDict info) row))
    (hn : 1 ≤ n) (hinfo : info.isEmpty = false) (hts : ts.isPos = true) :
    Reads P c st (some ⟨true, "设备已授权", ts⟩, n) (some info) := by
  have hlast : rowLastSuccessTs (c'.savedRow true (.float ts) (.int n)
      (.ofDict info) row) = some ts := by
    rw [rowLastSuccessTs_savedRow_float, if_pos hts]
  constructor
  · intro io hio
    have hlt : ¬ n < 1 := by omega
    simp only [AuthCache.snapshotAuthRow, readRow_eq io.read hio, h, hlast,
      AuthCache.storedCount_savedRow, reduceCtorEq, if_false, hlt,
      AuthCache.cacheDictFromRow, Option.bind_some, Option.map_some]
  · intro io hio
    simp only [AuthCache.loadDeviceInfoSnapshot, readRow_eq io hio, h,
      Option.bind_some, AuthCache.get_savedRow_snapshot hinfo]
    rw [← Json.dict?_ofDict info]
    rfl

/-! ## Saving a row -/

/-- The row that can be read after a save which reported success. -/
theorem currentRow_saveCache_of_ok {authorized : Bool}
    {lastSuccessAt hb snap : Json}
    (hok : (c.saveCache P authorized lastSuccessAt hb snap io st).2 = true) :
    ∃ sub, c.currentRow P
        (c.saveCache P authorized lastSuccessAt hb snap io st).1 =
      if IsProductKey c.softwareName then
        some (c.savedRow authorized
          (if lastSuccessAt = .null then .float (.fin io.now)
            else lastSuccessAt) hb snap sub)
      else none := by
  refine ⟨(c.rowOf (readStateDict P c.serverUrl io.read st).2).getD .empty, ?_⟩
  have hroot : stateRoot P c.serverUrl
      (c.saveCache P authorized lastSuccessAt hb snap io st).1 =
        some ((c.saveRoot authorized
          (if lastSuccessAt = .null then .float (.fin io.now)
            else lastSuccessAt) hb snap
          ((readStateDict P c.serverUrl io.read st).2.getD .empty)).erase
            "device_id") :=
    stateRoot_writeBundle_of_ok hok
  rw [AuthCache.currentRow, hroot]
  refine AuthCache.rowOf_updateRow _ _ (by decide) ?_
    AuthCache.isEmpty_savedRow
  apply AuthCache.get_savedRow_software_name
  rw [← AuthCache.ownRow_getD]
  exact ownRow_get_software_name _ _

theorem timestampArgument_eq (lastSuccessAt : Option Double) (io : SaveEnv) :
    (if timestampArgument lastSuccessAt = .null then .float (.fin io.now)
      else timestampArgument lastSuccessAt) =
      Json.float (savedTimestamp lastSuccessAt io) := by
  cases lastSuccessAt with
  | none => rfl
  | some ts => rfl

/-- A saved revocation leaves nothing to read, whatever the name. -/
theorem readBack_saveCache_false {lastSuccessAt hb snap : Json}
    (hok : (c.saveCache P false lastSuccessAt hb snap io st).2 = true) :
    ReadBack P c (c.saveCache P false lastSuccessAt hb snap io st).1
      (none, 0) none := by
  intro c' hurl hname
  obtain ⟨sub, hrow⟩ := currentRow_saveCache_of_ok hok
  rw [← AuthCache.currentRow_congr hurl hname] at hrow
  split at hrow
  · rw [AuthCache.savedRow_false] at hrow
    exact reads_of_clearedRow hrow
  · exact reads_of_no_row hrow

/-- A saved authorisation is read back exactly when the name is that of a row
and the timestamp is positive. -/
theorem readBack_saveCache_true_iff (hn : 1 ≤ n)
    (hinfo : info.isEmpty = false)
    (hok : (c.saveCache P true (timestampArgument lastSuccessAt) (.int n)
      (.ofDict info) io st).2 = true) :
    ReadBack P c (c.saveCache P true (timestampArgument lastSuccessAt) (.int n)
        (.ofDict info) io st).1
      (some ⟨true, "设备已授权", savedTimestamp lastSuccessAt io⟩, n)
      (some info) ↔
    IsProductKey c.softwareName ∧
      (savedTimestamp lastSuccessAt io).isPos = true := by
  obtain ⟨sub, hrow⟩ := currentRow_saveCache_of_ok hok
  rw [timestampArgument_eq] at hrow
  constructor
  · intro hread
    have hsnapshot := (hread c rfl rfl).1 .success rfl
    simp only [AuthCache.snapshotAuthRow, SnapshotEnv.success,
      readRow_eq ReadEnv.success rfl] at hsnapshot
    by_cases hs : IsProductKey c.softwareName
    · refine ⟨hs, ?_⟩
      by_contra hpos
      rw [if_pos hs] at hrow
      simp only [hrow, rowLastSuccessTs_savedRow_float, if_neg hpos,
        if_true] at hsnapshot
      simp at hsnapshot
    · rw [if_neg hs] at hrow
      simp [hrow] at hsnapshot
  · rintro ⟨hs, hpos⟩ c' hurl hname
    rw [if_pos hs, ← AuthCache.currentRow_congr hurl hname] at hrow
    exact reads_of_savedRow hrow hn hinfo hpos

/-- **What a product saves it reads back**, exactly under a trimmed, non-empty
and non-reserved name, and with a positive timestamp.  `st'` is the storage at
the time of the revocation. -/
theorem saved_read_back_iff (hn : 1 ≤ n) (hinfo : info.isEmpty = false)
    (hok : (c.saveCache P true (timestampArgument lastSuccessAt) (.int n)
      (.ofDict info) io st).2 = true)
    {lastSuccessAt' hb snap : Json} {io' : SaveEnv} {st' : Storage β}
    (hok' : (c.saveCache P false lastSuccessAt' hb snap io' st').2 = true) :
    (ReadBack P c (c.saveCache P true (timestampArgument lastSuccessAt)
          (.int n) (.ofDict info) io st).1
        (some ⟨true, "设备已授权", savedTimestamp lastSuccessAt io⟩, n)
        (some info) ∧
      ReadBack P c (c.saveCache P false lastSuccessAt' hb snap io' st').1
        (none, 0) none) ↔
    IsProductKey c.softwareName ∧
      (savedTimestamp lastSuccessAt io).isPos = true := by
  rw [readBack_saveCache_true_iff hn hinfo hok]
  exact and_iff_left (readBack_saveCache_false hok')

end

/-! ## Examples -/

def exampleCache (softwareName : String) : AuthCache :=
  ⟨"https://auth.example", softwareName, "device", 7⟩

def exampleInfo : Dict String Json := .ofList [("hostname", .str "host")]

theorem saved_read_back_iff_editor :
    (ReadBack .symbolic (exampleCache "editor")
        ((exampleCache "editor").saveCache .symbolic true
          (timestampArgument none) (.int 3) (.ofDict exampleInfo)
          (.success 100) Storage.fresh).1
        (some ⟨true, "设备已授权", savedTimestamp none (.success 100)⟩, 3)
        (some exampleInfo) ∧
      ReadBack .symbolic (exampleCache "editor")
        ((exampleCache "editor").saveCache .symbolic false .null .null .null
          (.success 200) Storage.fresh).1 (none, 0) none) ↔
    IsProductKey (exampleCache "editor").softwareName ∧
      (savedTimestamp none (.success 100)).isPos = true :=
  saved_read_back_iff (by decide) (by decide) (by decide +kernel)
    (by decide +kernel)

/-- The constructor accepts the name, and an authorisation under it is reported
as saved and not read back. -/
def LosesSaved (softwareName : String) : Prop :=
  (newAuthClient .symbolic
      ⟨"https://auth.example", softwareName, "device", none, "secret", 7,
        ⟨.str "1.0.0", "host", "linux", "0.1.0", "3.12.0"⟩⟩
      ⟨.success, [], "", .success, .success⟩ Storage.fresh).2.isSome = true ∧
    ((exampleCache softwareName).saveCache .symbolic true
        (timestampArgument none) (.int 3) (.ofDict exampleInfo)
        (.success 100) Storage.fresh).2 = true ∧
    ¬ReadBack .symbolic (exampleCache softwareName)
      ((exampleCache softwareName).saveCache .symbolic true
        (timestampArgument none) (.int 3) (.ofDict exampleInfo)
        (.success 100) Storage.fresh).1
      (some ⟨true, "设备已授权", savedTimestamp none (.success 100)⟩, 3)
      (some exampleInfo)

/-- A name with a trailing space, blank names, and the names of reserved root
keys. -/
theorem saved_not_read_back :
    LosesSaved "editor " ∧ LosesSaved " " ∧ LosesSaved "" ∧
      LosesSaved "apps" ∧ LosesSaved "device_id" := by
  have hloses : ∀ softwareName ∈ ["editor ", " ", "", "apps", "device_id"],
      LosesSaved softwareName := by
    have hnames : ∀ softwareName ∈
        ["editor ", " ", "", "apps", "device_id"],
        (newAuthClient .symbolic
            ⟨"https://auth.example", softwareName, "device", none, "secret",
              7, ⟨.str "1.0.0", "host", "linux", "0.1.0", "3.12.0"⟩⟩
            ⟨.success, [], "", .success, .success⟩ Storage.fresh).2.isSome =
          true ∧
        ((exampleCache softwareName).saveCache .symbolic true
            (timestampArgument none) (.int 3) (.ofDict exampleInfo)
            (.success 100) Storage.fresh).2 = true ∧
        ¬IsProductKey softwareName := by
      decide +kernel
    intro softwareName hmem
    obtain ⟨hnew, hok, hkey⟩ := hnames softwareName hmem
    refine ⟨hnew, hok, ?_⟩
    rw [readBack_saveCache_true_iff (by decide) (by decide) hok]
    exact fun h => hkey h.1
  simpa using hloses

end PyAuth.Client
