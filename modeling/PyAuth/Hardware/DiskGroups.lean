import PyAuth.Hardware.Disks
import PyAuth.Support.Grouping

/-!
# Volumes grouped by model

The volumes are collected under their trimmed models, and those without a
model under names of their own.  The names are kept apart from each other, but
not from the models.
-/

namespace PyAuth.Hardware

open Support

/-! ## The code -/

/-- A volume with the model of its disk.  An empty device stands for a missing
one. -/
structure DiskEntry where
  model : String
  mount : String
  device : String
  totalGb : Double
  freeGb : Double
deriving DecidableEq

/-- A volume as it is listed. -/
structure DiskVolume where
  mount : String
  device : String
  totalGb : Double
  freeGb : Double
deriving DecidableEq

def DiskEntry.volume (e : DiskEntry) : DiskVolume :=
  ⟨e.mount, e.device, e.totalGb, e.freeGb⟩

section

variable (trim : String → String)

/-- The key of a volume, and the used names after it. -/
def entryKey (e : DiskEntry) (used : Finset String) : String × Finset String :=
  if trim e.model ≠ "" then (trim e.model, used)
  else diskVolumeMapKey trim "" e.mount e.device used

/-- One turn of the loop over the volumes. -/
def addEntry (acc : Finset String × Dict String (List DiskEntry))
    (e : DiskEntry) : Finset String × Dict String (List DiskEntry) :=
  let (k, used) := entryKey trim e acc.1
  (used, acc.2.append k e)

def groupEntries (entries : List DiskEntry) : Dict String (List DiskEntry) :=
  (entries.foldl (addEntry trim) (∅, .empty)).2

end

/-- A stable sort by mount point. -/
def sortByMount (C : Collation) (sl : List DiskEntry) : List DiskEntry :=
  sl.insertionSort fun a b => C.le a.mount b.mount = true

/-- `_entries_to_models_map`. -/
def Python.entriesToModelsMap (entries : List DiskEntry) :
    Dict String (List DiskVolume) :=
  (groupEntries Python.strip entries).mapValues fun sl =>
    (sortByMount .codePoint sl).map DiskEntry.volume

/-- `sort.Slice` by mount point, which leaves open how volumes of one mount
point are ordered. -/
structure Go.SliceSort where
  sort : List DiskEntry → List DiskEntry
  perm : ∀ sl, (sort sl).Perm sl
  ordered : ∀ sl, (sort sl).Pairwise fun a b => a.mount ≤ b.mount

def Go.foldDiskVolumesByModel (S : Go.SliceSort) (entries : List DiskEntry) :
    Dict String (List DiskVolume) :=
  (groupEntries Go.trimSpace entries).mapValues fun sl =>
    (S.sort sl).map DiskEntry.volume

/-- `localeCompare` orders as the collation `C` does.  The own members of the
result lack `__proto__`, whose assignment sets the prototype. -/
def TypeScript.groupDiskEntriesToModels (C : Collation)
    (entries : List DiskEntry) : Dict String (List DiskVolume) :=
  ((groupEntries TypeScript.trim entries).filter fun k _ =>
      decide (k ≠ "__proto__")).mapValues fun sl =>
    (sortByMount C sl).map DiskEntry.volume

/-! ## Groups by model -/

/-- The volumes are grouped by the keys: the group of a key holds the volumes
with that key, ordered by mount point, and two volumes have the same key
exactly when they have the same model. -/
structure GroupedByModel (trim : String → String) (C : Collation)
    (entries : List DiskEntry) (out : Dict String (List DiskVolume))
    (key : Fin entries.length → String) : Prop where
  once : ∀ k, (out.group k).Perm
    (((List.finRange entries.length).filter fun i => key i = k).map fun i =>
      (entries.get i).volume)
  ordered : ∀ k volumes, out.get k = some volumes →
    volumes.Pairwise fun a b => C.le a.mount b.mount = true
  separate : ∀ i j, i ≠ j → (key i = key j ↔
    trim (entries.get i).model = trim (entries.get j).model ∧
      trim (entries.get i).model ≠ "")

/-- The result is a partition of the volumes by model. -/
def PartitionsByModel (trim : String → String) (C : Collation)
    (entries : List DiskEntry) (out : Dict String (List DiskVolume)) : Prop :=
  ∃ key, GroupedByModel trim C entries out key

section

variable (trim : String → String)

/-- The names which the volumes without a model get, in turn. -/
def fallbackKeys : Finset String → List DiskEntry → List String
  | _, [] => []
  | used, e :: es =>
      if trim e.model ≠ "" then fallbackKeys used es
      else
        let (k, used) := diskVolumeMapKey trim "" e.mount e.device used
        k :: fallbackKeys used es

/-- No model is the name of a volume without a model. -/
def NamesApart (entries : List DiskEntry) : Prop :=
  ∀ e ∈ entries, trim e.model ≠ "" →
    trim e.model ∉ fallbackKeys trim ∅ entries

/-- No model and no name is `__proto__`. -/
def NoProto (entries : List DiskEntry) : Prop :=
  "__proto__" ∉ fallbackKeys trim ∅ entries ∧
    ∀ e ∈ entries, trim e.model ≠ "__proto__"

/-! ## The keys of a run -/

/-- The keys which the loop gives to the volumes. -/
def entryKeys : Finset String → List DiskEntry → List String
  | _, [] => []
  | used, e :: es =>
      (entryKey trim e used).1 :: entryKeys (entryKey trim e used).2 es

theorem length_entryKeys (used : Finset String) (entries : List DiskEntry) :
    (entryKeys trim used entries).length = entries.length := by
  induction entries generalizing used with
  | nil => rfl
  | cons e entries ih => rw [entryKeys, List.length_cons, ih, List.length_cons]

variable {trim}

theorem foldl_addEntry (used : Finset String)
    (groups : Dict String (List DiskEntry)) (entries : List DiskEntry) :
    (entries.foldl (addEntry trim) (used, groups)).2 =
      ((entryKeys trim used entries).zip entries).foldl
        (fun d e => d.append e.1 e.2) groups := by
  induction entries generalizing used groups with
  | nil => rfl
  | cons e entries ih =>
      rw [List.foldl_cons, entryKeys, List.zip_cons_cons, List.foldl_cons]
      exact ih _ _

/-- A model is the key of its volume. -/
theorem fst_of_mem_entryKeys {used : Finset String} {entries : List DiskEntry}
    {p : String × DiskEntry} (hp : p ∈ (entryKeys trim used entries).zip entries)
    (hmodel : trim p.2.model ≠ "") : p.1 = trim p.2.model := by
  induction entries generalizing used with
  | nil => simp at hp
  | cons e entries ih =>
      rw [entryKeys, List.zip_cons_cons, List.mem_cons] at hp
      rcases hp with rfl | hp
      · simp only at hmodel ⊢
        rw [entryKey, if_pos hmodel]
      · exact ih hp

theorem entryKey_of_no_model {e : DiskEntry} (h : trim e.model = "")
    (used : Finset String) :
    entryKey trim e used = diskVolumeMapKey trim "" e.mount e.device used := by
  rw [entryKey, if_neg (by simpa using h)]

/-- The keys of the volumes without a model are their names. -/
theorem fallbackKeys_eq (used : Finset String) (entries : List DiskEntry) :
    fallbackKeys trim used entries =
      (((entryKeys trim used entries).zip entries).filter fun p =>
        trim p.2.model = "").map Prod.fst := by
  induction entries generalizing used with
  | nil => rfl
  | cons e entries ih =>
      rw [fallbackKeys, entryKeys, List.zip_cons_cons]
      by_cases h : trim e.model = ""
      · rw [if_neg (by simpa using h), List.filter_cons_of_pos (by simpa using h),
          List.map_cons, entryKey_of_no_model h, ← ih]
      · rw [if_pos h, List.filter_cons_of_neg (by simpa using h), ← ih,
          entryKey, if_pos h]

/-- The name of a volume without a model was not used before. -/
theorem notMem_of_mem_entryKeys {used : Finset String}
    {entries : List DiskEntry} {p : String × DiskEntry}
    (hp : p ∈ (entryKeys trim used entries).zip entries)
    (hmodel : trim p.2.model = "") : p.1 ∉ used := by
  induction entries generalizing used with
  | nil => simp at hp
  | cons e entries ih =>
      rw [entryKeys, List.zip_cons_cons, List.mem_cons] at hp
      rcases hp with rfl | hp
      · simp only at hmodel ⊢
        rw [entryKey_of_no_model hmodel]
        exact (endsFresh_diskVolumeMapKey trim _ _ _ _).fresh
      · intro hused
        refine ih hp ?_
        rw [entryKey]
        split
        · exact hused
        · rw [(endsFresh_diskVolumeMapKey trim _ _ _ _).adds]
          exact Finset.mem_insert_of_mem hused

/-- Volumes without a model get different names. -/
theorem pairwise_entryKeys (used : Finset String) (entries : List DiskEntry) :
    ((entryKeys trim used entries).zip entries).Pairwise fun p q =>
      trim p.2.model = "" → trim q.2.model = "" → p.1 ≠ q.1 := by
  induction entries generalizing used with
  | nil => exact List.Pairwise.nil
  | cons e entries ih =>
      rw [entryKeys, List.zip_cons_cons, List.pairwise_cons]
      refine ⟨fun q hq he hmodel heq => ?_, ih _⟩
      apply notMem_of_mem_entryKeys hq hmodel
      rw [← heq]
      simp only at he
      rw [entryKey_of_no_model he,
        (endsFresh_diskVolumeMapKey trim _ _ _ _).adds]
      exact Finset.mem_insert_self _ _

variable {entries : List DiskEntry}

variable (trim entries) in
/-- The key of the volume at a position. -/
def keyAt (i : Fin entries.length) : String :=
  (entryKeys trim ∅ entries).get (i.cast (length_entryKeys trim ∅ entries).symm)

theorem zip_entryKeys :
    (entryKeys trim ∅ entries).zip entries =
      (List.finRange entries.length).map fun i =>
        (keyAt trim entries i, entries.get i) := by
  apply List.ext_getElem
  · simp [length_entryKeys]
  · intro i h h'
    simp [keyAt]

theorem mem_zip_entryKeys (i : Fin entries.length) :
    (keyAt trim entries i, entries.get i) ∈
      (entryKeys trim ∅ entries).zip entries := by
  rw [zip_entryKeys]
  exact List.mem_map_of_mem (List.mem_finRange i)

theorem keyAt_of_model {i : Fin entries.length}
    (h : trim (entries.get i).model ≠ "") :
    keyAt trim entries i = trim (entries.get i).model :=
  fst_of_mem_entryKeys (mem_zip_entryKeys i) h

theorem mem_fallbackKeys_iff {k : String} :
    k ∈ fallbackKeys trim ∅ entries ↔
      ∃ i, trim (entries.get i).model = "" ∧ keyAt trim entries i = k := by
  rw [fallbackKeys_eq, zip_entryKeys]
  simp only [List.mem_map, List.mem_filter, List.mem_finRange, true_and,
    decide_eq_true_eq]
  constructor
  · rintro ⟨p, ⟨⟨i, rfl⟩, hmodel⟩, rfl⟩
    exact ⟨i, hmodel, rfl⟩
  · rintro ⟨i, hmodel, rfl⟩
    exact ⟨_, ⟨⟨i, rfl⟩, hmodel⟩, rfl⟩

/-- Two volumes without a model have different keys. -/
theorem keyAt_ne_of_no_model {i j : Fin entries.length} (hij : i ≠ j)
    (hi : trim (entries.get i).model = "")
    (hj : trim (entries.get j).model = "") :
    keyAt trim entries i ≠ keyAt trim entries j := by
  have hpairwise : ∀ i j : Fin entries.length, i < j →
      trim (entries.get i).model = "" → trim (entries.get j).model = "" →
      keyAt trim entries i ≠ keyAt trim entries j := by
    intro i j hlt
    have h : ((entryKeys trim ∅ entries).zip entries).Pairwise fun p q =>
        trim p.2.model = "" → trim q.2.model = "" → p.1 ≠ q.1 :=
      pairwise_entryKeys ∅ entries
    rw [zip_entryKeys, List.pairwise_map, List.pairwise_iff_getElem] at h
    simpa using h i j (by simp) (by simp) hlt
  rcases lt_or_gt_of_ne hij with hlt | hlt
  · exact hpairwise i j hlt hi hj
  · exact (hpairwise j i hlt hj hi).symm

/-- The volumes under a key, in the order of the list. -/
theorem group_groupEntries (k : String) :
    (groupEntries trim entries).group k =
      ((List.finRange entries.length).filter fun i =>
        keyAt trim entries i = k).map entries.get := by
  rw [groupEntries, foldl_addEntry, Dict.group_foldl_append, zip_entryKeys,
    List.filter_map, List.map_map]
  rfl

/-! ## Keys and models -/

variable (trim entries) in
/-- The model of a volume, or the volume itself when it has none. -/
def modelClass (i : Fin entries.length) : String ⊕ Fin entries.length :=
  if trim (entries.get i).model = "" then .inr i
  else .inl (trim (entries.get i).model)

theorem modelClass_eq_iff {i j : Fin entries.length} :
    modelClass trim entries i = modelClass trim entries j ↔
      i = j ∨ trim (entries.get i).model = trim (entries.get j).model ∧
        trim (entries.get i).model ≠ "" := by
  rw [modelClass, modelClass]
  by_cases hi : trim (entries.get i).model = "" <;>
    by_cases hj : trim (entries.get j).model = ""
  · rw [if_pos hi, if_pos hj, Sum.inr.injEq]
    exact ⟨Or.inl, fun h => h.resolve_right fun h => h.2 hi⟩
  · rw [if_pos hi, if_neg hj]
    refine iff_of_false (by simp) ?_
    rintro (rfl | h)
    · exact hj hi
    · exact h.2 hi
  · rw [if_neg hi, if_pos hj]
    refine iff_of_false (by simp) ?_
    rintro (rfl | h)
    · exact hi hj
    · exact h.2 (h.1.trans hj)
  · rw [if_neg hi, if_neg hj, Sum.inl.injEq]
    refine ⟨fun h => Or.inr ⟨h, hi⟩, ?_⟩
    rintro (rfl | h)
    · rfl
    · exact h.1

/-- Volumes of one model have one key. -/
theorem keyAt_eq_of_modelClass_eq {i j : Fin entries.length}
    (h : modelClass trim entries i = modelClass trim entries j) :
    keyAt trim entries i = keyAt trim entries j := by
  rcases modelClass_eq_iff.mp h with rfl | ⟨heq, hmodel⟩
  · rfl
  · rw [keyAt_of_model hmodel, heq, keyAt_of_model (heq ▸ hmodel)]

/-- The keys tell the models apart exactly when no name is a model. -/
theorem namesApart_iff :
    NamesApart trim entries ↔ ∀ i j,
      keyAt trim entries i = keyAt trim entries j →
        modelClass trim entries i = modelClass trim entries j := by
  constructor
  · intro h i j hkey
    rw [modelClass_eq_iff]
    by_cases hi : trim (entries.get i).model = "" <;>
      by_cases hj : trim (entries.get j).model = ""
    · exact Or.inl (by_contra fun hij => keyAt_ne_of_no_model hij hi hj hkey)
    · have hmem := mem_fallbackKeys_iff.mpr ⟨i, hi, hkey⟩
      rw [keyAt_of_model hj] at hmem
      exact absurd hmem (h _ (entries.get_mem j) hj)
    · have hmem := mem_fallbackKeys_iff.mpr ⟨j, hj, hkey.symm⟩
      rw [keyAt_of_model hi] at hmem
      exact absurd hmem (h _ (entries.get_mem i) hi)
    · rw [keyAt_of_model hi, keyAt_of_model hj] at hkey
      exact Or.inr ⟨hkey, hi⟩
  · intro h e he hmodel hmem
    obtain ⟨j, rfl⟩ := List.get_of_mem he
    obtain ⟨i, hi, hkey⟩ := mem_fallbackKeys_iff.mp hmem
    rw [← keyAt_of_model hmodel] at hkey
    have hclass := h i j hkey
    rw [modelClass, modelClass, if_pos hi, if_neg hmodel] at hclass
    cases hclass

theorem noProto_iff :
    NoProto trim entries ↔ ∀ i, keyAt trim entries i ≠ "__proto__" := by
  constructor
  · rintro ⟨hfallback, hmodels⟩ i hkey
    by_cases hi : trim (entries.get i).model = ""
    · exact hfallback (mem_fallbackKeys_iff.mpr ⟨i, hi, hkey⟩)
    · rw [keyAt_of_model hi] at hkey
      exact hmodels _ (entries.get_mem i) hkey
  · intro h
    constructor
    · intro hmem
      obtain ⟨i, -, hkey⟩ := mem_fallbackKeys_iff.mp hmem
      exact h i hkey
    · intro e he hmodel
      obtain ⟨i, rfl⟩ := List.get_of_mem he
      have hne : trim (entries.get i).model ≠ "" := by
        rw [hmodel]
        decide
      exact h i ((keyAt_of_model hne).trans hmodel)

/-! ## When the groups are those of the models -/

section

variable {C : Collation} {sort : List DiskEntry → List DiskEntry}
  {kept : String → Bool} {out : Dict String (List DiskVolume)}

/-- The result consists of the sorted groups of the kept keys. -/
structure SortsGroups (trim : String → String) (C : Collation)
    (sort : List DiskEntry → List DiskEntry) (kept : String → Bool)
    (entries : List DiskEntry) (out : Dict String (List DiskVolume)) :
    Prop where
  perm : ∀ sl, (sort sl).Perm sl
  ordered : ∀ sl, (sort sl).Pairwise fun a b => C.le a.mount b.mount = true
  get_eq : ∀ k, out.get k =
    if kept k then ((groupEntries trim entries).get k).map fun sl =>
      (sort sl).map DiskEntry.volume
    else none

/-- The group of a key that is kept. -/
theorem SortsGroups.group_perm
    (h : SortsGroups trim C sort kept entries out) {k : String}
    (hk : kept k = true) :
    (out.group k).Perm (((List.finRange entries.length).filter fun i =>
      keyAt trim entries i = k).map fun i => (entries.get i).volume) := by
  have hgroup : (out.group k).Perm
      (((groupEntries trim entries).group k).map DiskEntry.volume) := by
    rw [Dict.group, h.get_eq, if_pos hk, Dict.group]
    cases (groupEntries trim entries).get k with
    | none => exact .refl _
    | some sl => exact (h.perm sl).map _
  rw [group_groupEntries, List.map_map] at hgroup
  exact hgroup

theorem SortsGroups.group_of_not_kept
    (h : SortsGroups trim C sort kept entries out) {k : String}
    (hk : kept k ≠ true) : out.group k = [] := by
  rw [Dict.group, h.get_eq, if_neg hk]
  rfl

theorem card_filter_eq_length (key : Fin entries.length → String)
    (k : String) :
    (Finset.univ.filter fun i => key i = k).card =
      (((List.finRange entries.length).filter fun i => key i = k).map fun i =>
        (entries.get i).volume).length := by
  rw [List.length_map]
  rfl

theorem SortsGroups.groupedByModel
    (h : SortsGroups trim C sort kept entries out)
    (hkept : ∀ i, kept (keyAt trim entries i) = true)
    (hapart : NamesApart trim entries) :
    GroupedByModel trim C entries out (keyAt trim entries) := by
  refine ⟨fun k => ?_, fun k volumes hget => ?_, fun i j hij => ?_⟩
  · by_cases hk : kept k = true
    · exact h.group_perm hk
    · rw [h.group_of_not_kept hk, List.filter_eq_nil_iff.mpr]
      · exact .refl _
      · intro i _ hi
        exact hk (of_decide_eq_true hi ▸ hkept i)
  · rw [h.get_eq] at hget
    split at hget
    · obtain ⟨sl, -, rfl⟩ := Option.map_eq_some_iff.mp hget
      exact List.pairwise_map.mpr (h.ordered sl)
    · cases hget
  · have hclass : modelClass trim entries i = modelClass trim entries j ↔ _ :=
      modelClass_eq_iff
    rw [or_iff_right hij] at hclass
    rw [← hclass]
    exact ⟨namesApart_iff.mp hapart i j, keyAt_eq_of_modelClass_eq⟩

theorem SortsGroups.length_group_le
    (h : SortsGroups trim C sort kept entries out) (k : String) :
    (out.group k).length ≤
      (Finset.univ.filter fun i => keyAt trim entries i = k).card := by
  by_cases hk : kept k = true
  · rw [card_filter_eq_length, (h.group_perm hk).length_eq]
  · rw [h.group_of_not_kept hk]
    exact Nat.zero_le _

theorem GroupedByModel.length_group {key : Fin entries.length → String}
    (hkey : GroupedByModel trim C entries out key) (k : String) :
    (Finset.univ.filter fun i => key i = k).card = (out.group k).length := by
  rw [card_filter_eq_length, (hkey.once k).length_eq]

/-- A partition by model has a group for every key of the code. -/
theorem SortsGroups.kept_of_groupedByModel
    (h : SortsGroups trim C sort kept entries out)
    {key : Fin entries.length → String}
    (hkey : GroupedByModel trim C entries out key) (i : Fin entries.length) :
    kept (keyAt trim entries i) = true := by
  by_contra hk
  have hlength := card_fiber_eq_of_le hkey.length_group h.length_group_le i
  rw [h.group_of_not_kept hk, List.length_nil] at hlength
  have hmem : i ∈ Finset.univ.filter fun j =>
      keyAt trim entries j = keyAt trim entries i := by simp
  rw [Finset.card_eq_zero.mp hlength.symm] at hmem
  exact absurd hmem (Finset.notMem_empty i)

theorem SortsGroups.namesApart_of_groupedByModel
    (h : SortsGroups trim C sort kept entries out)
    {key : Fin entries.length → String}
    (hkey : GroupedByModel trim C entries out key) :
    NamesApart trim entries := by
  have hclass (i j : Fin entries.length) : key i = key j ↔
      modelClass trim entries i = modelClass trim entries j := by
    rw [modelClass_eq_iff]
    by_cases hij : i = j
    · simp [hij]
    · rw [hkey.separate i j hij, or_iff_right hij]
  -- The keys of the code name groups of the result, so there are enough.
  have hsubset : Finset.univ.image key ⊆
      Finset.univ.image (keyAt trim entries) := by
    intro k hk
    obtain ⟨i, -, rfl⟩ := Finset.mem_image.mp hk
    have hpos : 0 < (Finset.univ.filter fun j => key j = key i).card :=
      Finset.card_pos.mpr ⟨i, by simp⟩
    rw [hkey.length_group] at hpos
    obtain ⟨j, hj⟩ := Finset.card_pos.mp (hpos.trans_le (h.length_group_le _))
    rw [Finset.mem_filter] at hj
    exact Finset.mem_image.mpr ⟨j, hj⟩
  have hcard : (Finset.univ.image (modelClass trim entries)).card ≤
      (Finset.univ.image (keyAt trim entries)).card :=
    (card_image_le_of_coarser fun i j => (hclass i j).mp).trans
      (Finset.card_le_card hsubset)
  rw [namesApart_iff]
  intro i j
  exact eq_of_coarser_of_card_le (fun i j => keyAt_eq_of_modelClass_eq) hcard

theorem SortsGroups.partitionsByModel_iff
    (h : SortsGroups trim C sort kept entries out) :
    PartitionsByModel trim C entries out ↔
      NamesApart trim entries ∧
        ∀ i, kept (keyAt trim entries i) = true := by
  constructor
  · rintro ⟨key, hkey⟩
    exact ⟨h.namesApart_of_groupedByModel hkey, h.kept_of_groupedByModel hkey⟩
  · rintro ⟨hapart, hkept⟩
    exact ⟨_, h.groupedByModel hkept hapart⟩

end

/-! ## The three SDKs -/

theorem perm_sortByMount (C : Collation) (sl : List DiskEntry) :
    (sortByMount C sl).Perm sl :=
  List.perm_insertionSort _ sl

theorem pairwise_sortByMount (C : Collation) (sl : List DiskEntry) :
    (sortByMount C sl).Pairwise fun a b => C.le a.mount b.mount = true := by
  have : Std.Total fun a b : DiskEntry => C.le a.mount b.mount = true :=
    ⟨fun a b => C.total a.mount b.mount⟩
  have : IsTrans DiskEntry fun a b => C.le a.mount b.mount = true :=
    ⟨fun a b c => C.trans a.mount b.mount c.mount⟩
  exact List.pairwise_insertionSort _ sl

end

/-- A stable sort is one of those `sort.Slice` may be. -/
def Go.SliceSort.stable : Go.SliceSort where
  sort := sortByMount .codePoint
  perm := perm_sortByMount _
  ordered sl := (pairwise_sortByMount .codePoint sl).imp fun h =>
    of_decide_eq_true h

theorem Python.sortsGroups (entries : List DiskEntry) :
    SortsGroups Python.strip .codePoint (sortByMount .codePoint)
      (fun _ => true) entries (Python.entriesToModelsMap entries) where
  perm := perm_sortByMount _
  ordered := pairwise_sortByMount _
  get_eq k := by
    rw [if_pos rfl, Python.entriesToModelsMap, Dict.get_mapValues]

theorem Go.sortsGroups (S : Go.SliceSort) (entries : List DiskEntry) :
    SortsGroups Go.trimSpace .codePoint S.sort (fun _ => true) entries
      (Go.foldDiskVolumesByModel S entries) where
  perm := S.perm
  ordered sl := (S.ordered sl).imp fun h => decide_eq_true h
  get_eq k := by
    rw [if_pos rfl, Go.foldDiskVolumesByModel, Dict.get_mapValues]

theorem TypeScript.sortsGroups (C : Collation) (entries : List DiskEntry) :
    SortsGroups TypeScript.trim C (sortByMount C)
      (fun k => decide (k ≠ "__proto__")) entries
      (TypeScript.groupDiskEntriesToModels C entries) where
  perm := perm_sortByMount C
  ordered := pairwise_sortByMount C
  get_eq k := by
    rw [TypeScript.groupDiskEntriesToModels, Dict.get_mapValues,
      Dict.get_filter]
    by_cases hk : k = "__proto__"
    · cases (groupEntries TypeScript.trim entries).get k <;> simp [hk]
    · cases (groupEntries TypeScript.trim entries).get k <;> simp [hk]

/-- **When the volumes are grouped by model.**  In all three SDKs every volume
is listed once, each group is ordered by mount point, and two volumes share a
group exactly when they have the same model, if and only if, as each language
trims them, no model is the name of a volume without a model, and in TypeScript
no group is named `__proto__`. -/
theorem disks_grouped_by_model_iff (entries : List DiskEntry)
    (S : Go.SliceSort) (C : Collation) :
    (PartitionsByModel Python.strip .codePoint entries
        (Python.entriesToModelsMap entries) ∧
      PartitionsByModel Go.trimSpace .codePoint entries
        (Go.foldDiskVolumesByModel S entries) ∧
      PartitionsByModel TypeScript.trim C entries
        (TypeScript.groupDiskEntriesToModels C entries)) ↔
      NamesApart Python.strip entries ∧ NamesApart Go.trimSpace entries ∧
        NamesApart TypeScript.trim entries ∧
          NoProto TypeScript.trim entries := by
  rw [(Python.sortsGroups entries).partitionsByModel_iff,
    (Go.sortsGroups S entries).partitionsByModel_iff,
    (TypeScript.sortsGroups C entries).partitionsByModel_iff, noProto_iff]
  simp only [implies_true, and_true, decide_eq_true_eq]

/-- A volume without a model on a device that is called like the model of
another volume. -/
def clashingVolumes : List DiskEntry :=
  [⟨"", "/data", "Disk 1", .fin 8, .fin 4⟩,
    ⟨"Disk 1", "/", "/dev/sda1", .fin 16, .fin 2⟩]

/-- The volumes come under one disk; in TypeScript, a disk whose model is
`__proto__` is lost. -/
theorem volume_without_model_under_other_disk :
    (Python.entriesToModelsMap clashingVolumes = .ofList [("Disk 1",
          [⟨"/", "/dev/sda1", .fin 16, .fin 2⟩,
            ⟨"/data", "Disk 1", .fin 8, .fin 4⟩])] ∧
        ¬PartitionsByModel Python.strip .codePoint clashingVolumes
          (Python.entriesToModelsMap clashingVolumes)) ∧
      ¬PartitionsByModel Go.trimSpace .codePoint clashingVolumes
        (Go.foldDiskVolumesByModel .stable clashingVolumes) ∧
      ¬PartitionsByModel TypeScript.trim .codePoint clashingVolumes
        (TypeScript.groupDiskEntriesToModels .codePoint clashingVolumes) ∧
      TypeScript.groupDiskEntriesToModels .codePoint
          [⟨"__proto__", "/", "", .fin 16, .fin 2⟩] = .empty := by
  have hclash {trim : String → String}
      (hmodel : trim "Disk 1" ≠ "")
      (hname : trim "Disk 1" ∈ fallbackKeys trim ∅ clashingVolumes) :
      ¬NamesApart trim clashingVolumes := by
    intro h
    exact h ⟨"Disk 1", "/", "/dev/sda1", .fin 16, .fin 2⟩ (by
      simp [clashingVolumes]) hmodel hname
  rw [(Python.sortsGroups _).partitionsByModel_iff,
    (Go.sortsGroups _ _).partitionsByModel_iff,
    (TypeScript.sortsGroups _ _).partitionsByModel_iff]
  exact ⟨⟨by decide +kernel,
      fun h => hclash (by decide +kernel) (by decide +kernel) h.1⟩,
    fun h => hclash (by decide +kernel) (by decide +kernel) h.1,
    fun h => hclash (by decide +kernel) (by decide +kernel) h.1,
    by decide +kernel⟩

end PyAuth.Hardware
