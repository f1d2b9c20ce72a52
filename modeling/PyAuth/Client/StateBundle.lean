import Mathlib.Logic.Function.Basic
import PyAuth.Support.Python

/-!
# The state bundle: products and their rows

One JSON object holds the local state of every product which uses the same
server.  Its members are rows keyed by `software_name`; a few root keys are
reserved.  This file follows `state_bundle.py`: how the rows are loaded, how
they are committed, and how the bundle is read from and written to disk.
-/

namespace PyAuth.Client

open Support

abbrev Root := Dict String Json
abbrev Row := Dict String Json
abbrev AppsMap := Dict String Row

def reservedRootKeys : List String :=
  ["apps", "heartbeat_times", "device_id", "last_success_at"]

def bundleRootStrayKeys : List String :=
  ["heartbeat_times", "device_id", "last_success_at"]

def bundleProductDeviceInfoSnapshotKey : String := "device_info_snapshot"

def bundleProductRevokeKeys : List String :=
  ["heartbeat_times", "last_success_at", bundleProductDeviceInfoSnapshotKey]

/-! ## Loading and committing rows -/

/-- The row contributed by one member of the root, under its product name.  What
is trimmed from the name depends on the language. -/
def appRow? (isSpace : Char → Bool) (e : String × Json) :
    Option (String × Row) :=
  if e.1 ∈ reservedRootKeys then none
  else
    match e.2.dict? with
    | none => none
    | some v =>
        let name := strip isSpace e.1
        if name = "" then none else some (name, v.erase "software_name")

/-- `load_apps_map`: of two members with the same trimmed name the later one
is kept. -/
def loadAppsMap (root : Root) : AppsMap :=
  Dict.ofList (root.entries.filterMap (appRow? Python.isSpace))

/-- `commit_apps_map`: drop the rows which are no longer in `apps`, then write
every row of `apps`. -/
def commitAppsMap (root : Root) (apps : AppsMap) : Root :=
  let root := root.erase "apps"
  let root := root.filter fun k v =>
    decide (k ∈ reservedRootKeys) || !v.isDict || apps.contains k
  root.update (apps.mapValues Json.ofDict).entries

/-- `row_last_success_ts`.  The `OverflowError` of a huge integer is not
caught here but by every caller, which then goes on as without a timestamp. -/
def rowLastSuccessTs (row : Row) : Option Double :=
  match row.get "last_success_at" with
  | none | some .null => none
  | some v =>
      match Python.float v with
      | .ok f => if f.isPos then some f else none
      | .error _ => none

/-- `row_device_id_str`. -/
def rowDeviceIdStr (row : Row) : Option String :=
  match row.get "device_id" with
  | some (.str s) => if Python.strip s = "" then none else some (Python.strip s)
  | _ => none

/-! ## What loading reads -/

theorem appRow?_eq_some_iff {isSpace : Char → Bool} {k t : String} {v : Json}
    {row : Row} :
    appRow? isSpace (k, v) = some (t, row) ↔
      k ∉ reservedRootKeys ∧ strip isSpace k = t ∧ t ≠ "" ∧
        ∃ d, v.dict? = some d ∧ d.erase "software_name" = row := by
  by_cases hk : k ∈ reservedRootKeys
  · simp [appRow?, hk]
  · cases hv : v.dict? with
    | none => simp [appRow?, hk, hv]
    | some d =>
        by_cases hname : strip isSpace k = ""
        · simp only [appRow?, hk, hv, hname, if_true, if_false,
            reduceCtorEq, false_iff]
          rintro ⟨-, rfl, hne, -⟩
          exact hne rfl
        · simp only [appRow?, hk, hv, hname, if_false, Option.some.injEq,
            Prod.mk.injEq, not_false_eq_true, true_and, exists_eq_left']
          constructor
          · rintro ⟨rfl, rfl⟩
            exact ⟨rfl, hname, rfl⟩
          · rintro ⟨rfl, -, rfl⟩
            exact ⟨rfl, rfl⟩

theorem exists_appRow?_of_get_loadAppsMap {root : Root} {t : String} {row : Row}
    (h : (loadAppsMap root).get t = some row) :
    ∃ k v, root.get k = some v ∧ appRow? Python.isSpace (k, v) = some (t, row) := by
  obtain ⟨⟨k, v⟩, hkv, happ⟩ :=
    List.mem_filterMap.mp (Dict.mem_of_get_ofList h)
  exact ⟨k, v, Dict.get_eq_some_iff.mpr hkv, happ⟩

/-- Product names in the loaded map are trimmed and not blank. -/
theorem trimmed_of_get_loadAppsMap {root : Root} {t : String} {row : Row}
    (h : (loadAppsMap root).get t = some row) :
    Python.strip t = t ∧ t ≠ "" := by
  obtain ⟨k, v, -, happ⟩ := exists_appRow?_of_get_loadAppsMap h
  obtain ⟨-, rfl, hne, -⟩ := appRow?_eq_some_iff.mp happ
  exact ⟨Python.strip_strip k, hne⟩

theorem get_loadAppsMap_eq_none {root : Root} {t : String}
    (h : ∀ k v row, root.get k = some v →
      appRow? Python.isSpace (k, v) ≠ some (t, row)) :
    (loadAppsMap root).get t = none := by
  cases hget : (loadAppsMap root).get t with
  | none => rfl
  | some row =>
      obtain ⟨k, v, hk, happ⟩ := exists_appRow?_of_get_loadAppsMap hget
      exact (h k v row hk happ).elim

/-- When only one member of the root carries the product name `t`, that
member is the row of `t`. -/
theorem get_loadAppsMap_of_unique {root : Root} {k t : String} {v : Json}
    {row : Row} (hk : root.get k = some v)
    (happ : appRow? Python.isSpace (k, v) = some (t, row))
    (hunique : ∀ k' v' row', root.get k' = some v' →
      appRow? Python.isSpace (k', v') = some (t, row') → k' = k) :
    (loadAppsMap root).get t = some row := by
  cases hget : (loadAppsMap root).get t with
  | none =>
      rw [loadAppsMap, Dict.get_eq_none_iff] at hget
      exfalso
      apply hget
      have hmem : (t, row) ∈ root.entries.filterMap (appRow? Python.isSpace) :=
        List.mem_filterMap.mpr ⟨(k, v), Dict.get_eq_some_iff.mp hk, happ⟩
      by_contra hnot
      have hnone := Dict.get_eq_none_iff.mpr hnot
      rw [Dict.get_ofList, List.lookup_eq_none_iff] at hnone
      have := hnone (t, row) (List.mem_reverse.mpr hmem)
      simp at this
  | some row' =>
      obtain ⟨k', v', hk', happ'⟩ := exists_appRow?_of_get_loadAppsMap hget
      obtain rfl := hunique k' v' row' hk' happ'
      rw [hk, Option.some.injEq] at hk'
      subst hk'
      rw [happ, Option.some.injEq, Prod.mk.injEq] at happ'
      rw [happ'.2]

theorem erase_software_name_of_get_loadAppsMap {root : Root} {t : String}
    {row : Row} (h : (loadAppsMap root).get t = some row) :
    row.erase "software_name" = row := by
  obtain ⟨k, v, -, happ⟩ := exists_appRow?_of_get_loadAppsMap h
  obtain ⟨-, -, -, d, -, rfl⟩ := appRow?_eq_some_iff.mp happ
  exact Dict.erase_erase d "software_name"

/-- Removing members which carry no row does not change the loaded map. -/
theorem loadAppsMap_filter {root : Root} {p : String → Json → Bool}
    (h : ∀ k v, p k v = false → appRow? Python.isSpace (k, v) = none) :
    loadAppsMap (root.filter p) = loadAppsMap root := by
  have hmap : (root.entries.filter fun e => p e.1 e.2).filterMap
        (appRow? Python.isSpace) =
      root.entries.filterMap (appRow? Python.isSpace) := by
    rw [List.filterMap_filter]
    apply List.filterMap_congr
    rintro ⟨k, v⟩ -
    cases hp : p k v with
    | true => simp
    | false => simp [h k v hp]
  simp only [loadAppsMap, Dict.filter, hmap]

theorem loadAppsMap_erase {root : Root} {k : String}
    (hk : k ∈ reservedRootKeys) :
    loadAppsMap (root.erase k) = loadAppsMap root := by
  apply loadAppsMap_filter
  intro k' v hk'
  obtain rfl : k' = k := by simpa using hk'
  simp [appRow?, hk]

theorem loadAppsMap_eraseAll {root : Root} {ks : List String}
    (hks : ∀ k ∈ ks, k ∈ reservedRootKeys) :
    loadAppsMap (root.eraseAll ks) = loadAppsMap root := by
  induction ks generalizing root with
  | nil => rfl
  | cons k ks ih =>
      change loadAppsMap ((root.erase k).eraseAll ks) = _
      rw [ih fun k' hk' => hks k' (List.mem_cons_of_mem k hk'),
        loadAppsMap_erase (hks k List.mem_cons_self)]

/-! ## What committing writes -/

theorem get_commitAppsMap (root : Root) (apps : AppsMap) (k : String) :
    (commitAppsMap root apps).get k =
      ((apps.get k).map Json.ofDict).or
        (if k = "apps" then none
          else (root.get k).filter fun v =>
            decide (k ∈ reservedRootKeys) || !v.isDict) := by
  rw [commitAppsMap, Dict.get_update_entries, Dict.get_mapValues]
  cases happ : apps.get k with
  | some row => simp
  | none =>
      simp only [Option.map_none, Option.none_or]
      rw [Dict.get_filter, Dict.get_erase]
      by_cases hk : k = "apps"
      · simp [hk]
      · simp [hk, Dict.contains_eq, happ]

/-- After a commit, the members which carry a row are the committed ones. -/
theorem get_apps_of_appRow?_commit {root : Root} {apps : AppsMap}
    {k t : String} {v : Json} {row : Row}
    (hk : (commitAppsMap root apps).get k = some v)
    (happ : appRow? Python.isSpace (k, v) = some (t, row)) :
    ∃ d, apps.get k = some d ∧ v = Json.ofDict d := by
  obtain ⟨hres, -, -, d, hd, -⟩ := appRow?_eq_some_iff.mp happ
  rw [get_commitAppsMap] at hk
  cases happs : apps.get k with
  | some d' =>
      rw [happs] at hk
      exact ⟨d', rfl, (Option.some.inj hk).symm⟩
  | none =>
      exfalso
      rw [happs] at hk
      have hdict : v.isDict = true := by simp [Json.isDict, hd]
      by_cases hkapps : k = "apps"
      · simp [hkapps] at hk
      · cases hroot : root.get k with
        | none => simp [hroot, hkapps] at hk
        | some w =>
            simp [hroot, hkapps, Option.filter_eq_some_iff] at hk
            obtain ⟨rfl, hw⟩ := hk
            rcases hw with hw | hw
            · exact hres hw
            · rw [hdict] at hw
              contradiction

/-- A name under which a row can be read back. -/
def IsKey (isSpace : Char → Bool) (s : String) : Prop :=
  s ∉ reservedRootKeys ∧ strip isSpace s = s ∧ s ≠ ""

instance (isSpace : Char → Bool) : DecidablePred (IsKey isSpace) := fun _ =>
  inferInstanceAs (Decidable (_ ∧ _ ∧ _))

/-- A software name under which a row can be read back. -/
abbrev IsProductKey (s : String) : Prop := IsKey Python.isSpace s

section Commit

variable {root : Root} {s t : String} {sub : Row}

/-- In a committed map every product other than `s` is stored under its own
trimmed name. -/
theorem key_eq_of_appRow?_commit {k : String} {v : Json} {row : Row}
    (hk : (commitAppsMap root ((loadAppsMap root).set s sub)).get k = some v)
    (happ : appRow? Python.isSpace (k, v) = some (t, row)) (hks : k ≠ s) :
    k = t ∧ ∃ d, (loadAppsMap root).get t = some d ∧ v = Json.ofDict d := by
  obtain ⟨d, hd, rfl⟩ := get_apps_of_appRow?_commit hk happ
  rw [Dict.get_set_of_ne hks] at hd
  obtain ⟨-, hstrip, -, -⟩ := appRow?_eq_some_iff.mp happ
  obtain rfl : k = t := (trimmed_of_get_loadAppsMap hd).1.symm.trans hstrip
  exact ⟨rfl, d, hd, rfl⟩

/-- Committing a row of `s` leaves the row of every other product alone. -/
theorem get_loadAppsMap_commit_of_ne (ht : t ∉ reservedRootKeys)
    (hne : Python.strip s ≠ Python.strip t) :
    (loadAppsMap (commitAppsMap root ((loadAppsMap root).set s sub))).get t =
      (loadAppsMap root).get t := by
  have hkey : ∀ k v row,
      (commitAppsMap root ((loadAppsMap root).set s sub)).get k = some v →
      appRow? Python.isSpace (k, v) = some (t, row) → k ≠ s := by
    rintro k v row - happ rfl
    obtain ⟨-, hstrip, -, -⟩ := appRow?_eq_some_iff.mp happ
    apply hne
    rw [← hstrip]
    exact (Python.strip_strip k).symm
  cases hload : (loadAppsMap root).get t with
  | none =>
      apply get_loadAppsMap_eq_none
      intro k v row hk happ
      obtain ⟨-, d, hd, -⟩ :=
        key_eq_of_appRow?_commit hk happ (hkey k v row hk happ)
      rw [hload] at hd
      contradiction
  | some row =>
      obtain ⟨htrim, hblank⟩ := trimmed_of_get_loadAppsMap hload
      have hts : t ≠ s := by
        rintro rfl
        exact hne rfl
      have hget : (commitAppsMap root ((loadAppsMap root).set s sub)).get t =
          some (Json.ofDict row) := by
        rw [get_commitAppsMap, Dict.get_set_of_ne hts, hload]
        rfl
      apply get_loadAppsMap_of_unique hget
      · rw [appRow?_eq_some_iff]
        exact ⟨ht, htrim, hblank, row, Json.dict?_ofDict row,
          erase_software_name_of_get_loadAppsMap hload⟩
      · intro k v row' hk happ
        exact (key_eq_of_appRow?_commit hk happ (hkey k v row' hk happ)).1

/-- The committed row of `s` is read back exactly when `s` is a product
key; under any other name nothing is read back. -/
theorem get_loadAppsMap_commit_self :
    (loadAppsMap (commitAppsMap root ((loadAppsMap root).set s sub))).get s =
      if IsProductKey s then some (sub.erase "software_name") else none := by
  have hget : (commitAppsMap root ((loadAppsMap root).set s sub)).get s =
      some (Json.ofDict sub) := by
    rw [get_commitAppsMap, Dict.get_set_self]
    rfl
  split
  next hs =>
    apply get_loadAppsMap_of_unique hget
    · rw [appRow?_eq_some_iff]
      exact ⟨hs.1, hs.2.1, hs.2.2, sub, Json.dict?_ofDict sub, rfl⟩
    · intro k v row' hk happ
      by_contra hks
      exact hks (key_eq_of_appRow?_commit hk happ hks).1
  next hs =>
    apply get_loadAppsMap_eq_none
    intro k v row hk happ
    obtain ⟨hres, hstrip, hblank, -⟩ := appRow?_eq_some_iff.mp happ
    have hks : k ≠ s := by
      rintro rfl
      exact hs ⟨hres, hstrip, hblank⟩
    obtain ⟨rfl, -⟩ := key_eq_of_appRow?_commit hk happ hks
    exact hks rfl

end Commit

/-! ## Rewriting the row of one product -/

/-- The row of `s`, without its `software_name`; empty when there is none. -/
def ownRow (root : Root) (s : String) : Row :=
  (((loadAppsMap root).get s).getD .empty).erase "software_name"

/-- The common part of every operation which changes the row of one product:
load all rows, replace that of `s`, commit. -/
def updateRow (root : Root) (s : String) (f : Row → Row) : Root :=
  commitAppsMap root ((loadAppsMap root).set s (f (ownRow root s)))

theorem get_loadAppsMap_updateRow_of_ne {root : Root} {s t : String}
    {f : Row → Row} (ht : t ∉ reservedRootKeys)
    (hne : Python.strip s ≠ Python.strip t) :
    (loadAppsMap (updateRow root s f)).get t = (loadAppsMap root).get t :=
  get_loadAppsMap_commit_of_ne ht hne

theorem get_loadAppsMap_updateRow_self {root : Root} {s : String}
    {f : Row → Row} :
    (loadAppsMap (updateRow root s f)).get s =
      if IsProductKey s then
        some ((f (ownRow root s)).erase "software_name")
      else none :=
  get_loadAppsMap_commit_self

theorem ownRow_get_software_name (root : Root) (s : String) :
    (ownRow root s).get "software_name" = none :=
  Dict.get_erase_self _ _

end PyAuth.Client
