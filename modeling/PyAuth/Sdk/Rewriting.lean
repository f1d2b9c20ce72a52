import PyAuth.Go.AuthCache
import PyAuth.TypeScript.AuthCache

/-!
# Rewriting one row, in whatever order the rows are loaded

Every operation of every SDK loads the rows of a root, replaces that of its
product, and commits.  `Loads` says what all three loaders have in common, each
with the white space of its language, and `Rewritten` what their commits leave;
the developments on several SDKs use only these two notions.
-/

namespace PyAuth.Sdk

open Support Client

/-! ## Loading -/

section

variable {isSpace : Char → Bool}

/-- `load` finds the row of every product which some member carries, and no
other rows. -/
structure Loads (isSpace : Char → Bool) (root : Root)
    (load : String → Option Row) : Prop where
  sound : ∀ {t row}, load t = some row →
    ∃ k v, root.get k = some v ∧ appRow? isSpace (k, v) = some (t, row)
  complete : ∀ {k v t row}, root.get k = some v →
    appRow? isSpace (k, v) = some (t, row) → (load t).isSome

section Loads

variable {root : Root} {load load' : String → Option Row} {t : String}
  {row : Row}

/-- Rows collected from the members in any order. -/
theorem loads_ofList {es : List (String × Json)}
    (hes : es.Perm root.entries) :
    Loads isSpace root
      (Dict.ofList (es.filterMap (appRow? isSpace))).get where
  sound := by
    intro t row h
    obtain ⟨⟨k, v⟩, hkv, happ⟩ :=
      List.mem_filterMap.mp (Dict.mem_of_get_ofList h)
    exact ⟨k, v, Dict.get_eq_some_iff.mpr (hes.mem_iff.mp hkv), happ⟩
  complete := by
    intro k v t row hk happ
    have hmem : (t, row) ∈ es.filterMap (appRow? isSpace) :=
      List.mem_filterMap.mpr
        ⟨(k, v), hes.mem_iff.mpr (Dict.get_eq_some_iff.mp hk), happ⟩
    rw [Option.isSome_iff_ne_none]
    intro hnone
    rw [Dict.get_ofList, List.lookup_eq_none_iff] at hnone
    simpa using hnone (t, row) (List.mem_reverse.mpr hmem)

/-- No two members carry the same product. -/
def Distinct (isSpace : Char → Bool) (root : Root) : Prop :=
  ∀ {k v k' v' t row row'}, root.get k = some v →
    appRow? isSpace (k, v) = some (t, row) → root.get k' = some v' →
    appRow? isSpace (k', v') = some (t, row') → k = k'

/-- A member carries the same row for all who trim its name alike. -/
theorem appRow?_congr {isSpace' : Char → Bool} {k : String} {v : Json}
    (h : v.isDict = true → strip isSpace k = strip isSpace' k) :
    appRow? isSpace (k, v) = appRow? isSpace' (k, v) := by
  rw [appRow?, appRow?]
  cases hv : v.dict? with
  | none => rfl
  | some d => simp only [h (by simp [Json.isDict, hv])]

namespace Loads

theorem congr {isSpace' : Char → Bool} (h : Loads isSpace root load)
    (hroot : ∀ k v, root.get k = some v → v.isDict = true →
      strip isSpace k = strip isSpace' k) : Loads isSpace' root load where
  sound := by
    intro t row ht
    obtain ⟨k, v, hk, happ⟩ := h.sound ht
    exact ⟨k, v, hk, appRow?_congr (hroot k v hk) ▸ happ⟩
  complete := by
    intro k v t row hk happ
    exact h.complete hk (appRow?_congr (hroot k v hk) ▸ happ)

/-- The loaded rows stand under trimmed names, without `software_name`. -/
theorem trimmed (h : Loads isSpace root load) (ht : load t = some row) :
    strip isSpace t = t ∧ t ≠ "" ∧ row.erase "software_name" = row := by
  obtain ⟨k, v, -, happ⟩ := h.sound ht
  obtain ⟨-, rfl, hne, d, -, rfl⟩ := appRow?_eq_some_iff.mp happ
  exact ⟨strip_strip k, hne, Dict.erase_erase d _⟩

/-- When no two members carry the same product the order does not matter. -/
theorem eq_of_distinct (h : Loads isSpace root load)
    (h' : Loads isSpace root load') (hroot : Distinct isSpace root) :
    load = load' := by
  funext t
  cases ht : load t with
  | none =>
      cases ht' : load' t with
      | none => rfl
      | some row =>
          obtain ⟨k, v, hk, happ⟩ := h'.sound ht'
          have hsome := h.complete hk happ
          rw [ht] at hsome
          contradiction
  | some row =>
      obtain ⟨k, v, hk, happ⟩ := h.sound ht
      obtain ⟨row', ht'⟩ := Option.isSome_iff_exists.mp (h'.complete hk happ)
      obtain ⟨k', v', hk', happ'⟩ := h'.sound ht'
      obtain rfl := hroot hk happ hk' happ'
      rw [hk, Option.some.injEq] at hk'
      subst hk'
      rw [happ, Option.some.injEq, Prod.mk.injEq] at happ'
      rw [ht', happ'.2]

end Loads

end Loads

/-! ## Committing -/

/-- `root'` holds the loaded rows of `root`, with `row` under the name `s`;
of the other members those which carry no row. -/
def Rewritten (root : Root) (load : String → Option Row) (s : String)
    (row : Row) (root' : Root) : Prop :=
  ∀ k, root'.get k =
    ((if k = s then some row else load k).map Json.ofDict).or
      (if k = "apps" then none
        else (root.get k).filter fun v =>
          decide (k ∈ reservedRootKeys) || !v.isDict)

namespace Rewritten

variable {root root' : Root} {load : String → Option Row} {s : String}
  {row : Row}

theorem get_self (h : Rewritten root load s row root') :
    root'.get s = some (.ofDict row) := by
  rw [h s]
  simp

/-- The objects in a rewritten root: the new row, the loaded rows, and what
stood under reserved keys. -/
theorem members (h : Rewritten root load s row root') {k : String} {v : Json}
    {d : Dict String Json} (hk : root'.get k = some v)
    (hd : v.dict? = some d) :
    (k = s ∧ d = row) ∨ (k ≠ s ∧ load k = some d) ∨
      (k ≠ s ∧ k ∈ reservedRootKeys ∧ root.get k = some v) := by
  rw [h k] at hk
  by_cases hks : k = s
  · left
    simp only [hks, if_true, Option.map_some, Option.some_or,
      Option.some.injEq] at hk
    rw [← hk, Json.dict?_ofDict, Option.some.injEq] at hd
    exact ⟨hks, hd.symm⟩
  · right
    simp only [hks, if_false] at hk
    cases hload : load k with
    | some row' =>
        rw [hload, Option.map_some, Option.some_or, Option.some.injEq] at hk
        rw [← hk, Json.dict?_ofDict] at hd
        exact Or.inl ⟨hks, hd⟩
    | none =>
        right
        have hdict : v.isDict = true := by simp [Json.isDict, hd]
        rw [hload, Option.map_none, Option.none_or] at hk
        split at hk
        · contradiction
        · obtain ⟨hget, hkeep⟩ := Option.filter_eq_some_iff.mp hk
          simp only [hdict, Bool.not_true, Bool.or_false,
            decide_eq_true_eq] at hkeep
          exact ⟨hks, hkeep, hget⟩

/-- In a rewritten root every row stands under its own name. -/
theorem appRow?_eq (h : Rewritten root load s row root')
    (hload : Loads isSpace root load) (hs : IsKey isSpace s) {k t : String}
    {v : Json} {d : Row} (hk : root'.get k = some v)
    (happ : appRow? isSpace (k, v) = some (t, d)) :
    k = t ∧ ((t = s ∧ d = row.erase "software_name") ∨
      (t ≠ s ∧ load t = some d)) := by
  obtain ⟨hres, hstrip, -, w, hw, hwd⟩ := appRow?_eq_some_iff.mp happ
  rcases h.members hk hw with ⟨hks, hwrow⟩ | ⟨hks, hget⟩ | ⟨-, hres', -⟩
  · have hkt : k = t := by rw [← hstrip, hks, hs.2.1]
    rw [← hwrow, ← hkt]
    exact ⟨rfl, Or.inl ⟨hks, hwd.symm⟩⟩
  · obtain ⟨htrim, -, hname⟩ := hload.trimmed hget
    have hkt : k = t := htrim.symm.trans hstrip
    rw [hname] at hwd
    rw [← hkt, ← hwd]
    exact ⟨rfl, Or.inr ⟨hks, hget⟩⟩
  · exact (hres hres').elim

theorem distinct (h : Rewritten root load s row root')
    (hload : Loads isSpace root load) (hs : IsKey isSpace s) :
    Distinct isSpace root' := by
  intro k v k' v' t row₁ row₂ hk happ hk' happ'
  exact (h.appRow?_eq hload hs hk happ).1.trans
    (h.appRow?_eq hload hs hk' happ').1.symm

/-- What is loaded from a rewritten root. -/
theorem load_eq (h : Rewritten root load s row root')
    (hload : Loads isSpace root load) (hs : IsKey isSpace s)
    {load' : String → Option Row} (hload' : Loads isSpace root' load')
    (t : String) :
    load' t =
      if t = s then some (row.erase "software_name")
      else if t ∈ reservedRootKeys then none else load t := by
  have hunique : ∀ {k v row'}, root'.get k = some v →
      appRow? isSpace (k, v) = some (t, row') → load' t = some row' := by
    intro k v row' hk happ
    obtain ⟨row₁, hrow₁⟩ :=
      Option.isSome_iff_exists.mp (hload'.complete hk happ)
    obtain ⟨k₁, v₁, hk₁, happ₁⟩ := hload'.sound hrow₁
    obtain rfl := h.distinct hload hs hk happ hk₁ happ₁
    rw [hk, Option.some.injEq] at hk₁
    subst hk₁
    rw [happ, Option.some.injEq, Prod.mk.injEq] at happ₁
    rw [hrow₁, happ₁.2]
  have hnone : (∀ k v row', root'.get k = some v →
      appRow? isSpace (k, v) ≠ some (t, row')) → load' t = none := by
    intro hno
    cases ht : load' t with
    | none => rfl
    | some row' =>
        obtain ⟨k, v, hk, happ⟩ := hload'.sound ht
        exact (hno k v row' hk happ).elim
  by_cases hts : t = s
  · rw [if_pos hts]
    apply hunique (h.get_self)
    rw [appRow?_eq_some_iff, hts]
    exact ⟨hs.1, hs.2.1, hs.2.2, row, Json.dict?_ofDict row, rfl⟩
  · rw [if_neg hts]
    by_cases hres : t ∈ reservedRootKeys
    · rw [if_pos hres]
      apply hnone
      intro k v row' hk happ
      obtain ⟨rfl, -⟩ := h.appRow?_eq hload hs hk happ
      exact (appRow?_eq_some_iff.mp happ).1 hres
    · rw [if_neg hres]
      cases ht : load t with
      | some row' =>
          obtain ⟨htrim, hblank, hname⟩ := hload.trimmed ht
          apply hunique (k := t) (v := .ofDict row')
          · rw [h t, if_neg hts, ht]
            rfl
          · rw [appRow?_eq_some_iff]
            exact ⟨hres, htrim, hblank, row', Json.dict?_ofDict row', hname⟩
      | none =>
          apply hnone
          intro k v row' hk happ
          rcases (h.appRow?_eq hload hs hk happ).2 with ⟨h', -⟩ | ⟨-, h'⟩
          · exact hts h'
          · rw [ht] at h'
            contradiction

end Rewritten

end

/-! ## The three SDKs -/

theorem loads_python (root : Root) :
    Loads Python.isSpace root (Client.loadAppsMap root).get :=
  loads_ofList (.refl _)

theorem rewritten_python (root : Root) (s : String) (row : Row) :
    Rewritten root (Client.loadAppsMap root).get s row
      (Client.commitAppsMap root ((Client.loadAppsMap root).set s row)) := by
  intro k
  rw [Client.get_commitAppsMap, Dict.get_set]

theorem loads_go (range : Go.Range) (m : Root) :
    Loads Go.isSpace m (Go.loadAppsMap range m).get := by
  rw [Go.loadAppsMap_eq]
  exact loads_ofList (range.perm m)

theorem rewritten_go (range : Go.Range) (m : Root) (s : String) (row : Row) :
    Rewritten m (Go.loadAppsMap range m).get s row
      (Go.commitAppsMap m ((Go.loadAppsMap range m).set s row)) := by
  intro k
  rw [Go.get_commitAppsMap, Client.get_commitAppsMap, Dict.get_set]

/-! ### Changing the row of a product -/

theorem rewritten_updateRow_python (m : Root) (s : String) (f : Row → Row) :
    Rewritten m (Client.loadAppsMap m).get s
      (f (((Client.loadAppsMap m).get s).getD .empty))
      (Client.updateRow m s f) := by
  have hown : Client.ownRow m s =
      ((Client.loadAppsMap m).get s).getD .empty := by
    rw [Client.ownRow]
    cases hrow : (Client.loadAppsMap m).get s with
    | none => rfl
    | some row => exact erase_software_name_of_get_loadAppsMap hrow
  rw [Client.updateRow, hown]
  exact rewritten_python _ _ _

theorem rewritten_updateRow_go (c : Go.AuthCache) (range : Go.Range)
    (m : Root) (f : Row → Row) :
    Rewritten m (Go.loadAppsMap range m).get c.softwareName
      (f (((Go.loadAppsMap range m).get c.softwareName).getD .empty))
      (c.updateRow range m f) := by
  have hown : c.ownRow (Go.loadAppsMap range m) =
      ((Go.loadAppsMap range m).get c.softwareName).getD .empty := by
    rw [Go.AuthCache.ownRow]
    cases hrow : (Go.loadAppsMap range m).get c.softwareName with
    | none => rfl
    | some row => exact ((loads_go range m).trimmed hrow).2.2
  rw [Go.AuthCache.updateRow, hown]
  exact rewritten_go _ _ _ _

section TypeScript

open TypeScript

theorem objectEntries_perm (d : Dict String Json) :
    (objectEntries d).Perm d.entries := by
  rw [objectEntries]
  exact ((List.perm_insertionSort _ _).append_right _).trans
    (List.filter_append_perm _ _)

/-- No member is assigned to `__proto__`. -/
def NoProto (root : Root) : Prop :=
  ∀ k v t row, root.get k = some v →
    appRow? TypeScript.isSpace (k, v) = some (t, row) → t ≠ "__proto__"

theorem loadRow_eq (out : Apps) (e : String × Json) :
    loadRow out e =
      match appRow? isSpace e with
      | none => out
      | some r => out.assign r.1 r.2 := by
  rw [loadRow, appRow?]
  by_cases hres : e.1 ∈ reservedRootKeys
  · rw [if_pos hres]
    exact if_pos hres
  · rw [if_neg hres, if_neg (show ¬e.1 ∈ reservedBundleRoot from hres)]
    cases e.2.dict? with
    | none => rfl
    | some d =>
        dsimp only [trim]
        split <;> rfl

theorem foldl_loadRow {es : List (String × Json)}
    (hes : ∀ e ∈ es, ∀ t row, appRow? isSpace e = some (t, row) →
      t ≠ "__proto__") (out : Apps) :
    es.foldl loadRow out =
      ⟨out.own.update (es.filterMap (appRow? isSpace)), out.proto⟩ := by
  induction es generalizing out with
  | nil => rfl
  | cons e es ih =>
      rw [List.forall_mem_cons] at hes
      have hstep : loadRow out e =
          ⟨out.own.update (appRow? isSpace e).toList, out.proto⟩ := by
        rw [loadRow_eq]
        cases happ : appRow? isSpace e with
        | none => rfl
        | some r => exact if_neg (hes.1 _ _ happ)
      rw [List.foldl_cons, hstep, ih hes.2]
      congr 1
      cases happ : appRow? isSpace e with
      | none => rw [List.filterMap_cons_none happ]; rfl
      | some p => rw [List.filterMap_cons_some happ]; rfl

theorem loadAppsMap_typeScript {root : Root} (h : NoProto root) :
    TypeScript.loadAppsMap root =
      ⟨Dict.ofList ((objectEntries root).filterMap (appRow? isSpace)),
        none⟩ := by
  apply foldl_loadRow
  rintro ⟨k, v⟩ hmem t row happ
  exact h k v t row (Dict.get_eq_some_iff.mpr
    ((objectEntries_perm root).mem_iff.mp hmem)) happ

theorem loads_typeScript {root : Root} (h : NoProto root) :
    Loads isSpace root (TypeScript.loadAppsMap root).own.get := by
  rw [loadAppsMap_typeScript h]
  exact loads_ofList (objectEntries_perm root)

theorem lookup_typeScript {root : Root} (h : NoProto root) {s : String}
    (hs : s ≠ "__proto__") :
    ((TypeScript.loadAppsMap root).lookup s).bind Json.dict? =
      (TypeScript.loadAppsMap root).own.get s := by
  rw [loadAppsMap_typeScript h, Apps.lookup]
  dsimp only
  cases (Dict.ofList
    ((objectEntries root).filterMap (appRow? isSpace))).get s with
  | some row => simp
  | none => simp [hs]

theorem rewritten_typeScript {root : Root} (h : NoProto root) {s : String}
    (hs : s ≠ "__proto__") (row : Row) :
    Rewritten root (TypeScript.loadAppsMap root).own.get s row
      (TypeScript.commitAppsMap root
        ((TypeScript.loadAppsMap root).assign s row)) := by
  intro k
  have hload := loads_typeScript h
  rw [loadAppsMap_typeScript h] at hload ⊢
  rw [Apps.assign, if_neg hs, TypeScript.commitAppsMap]
  dsimp only at hload ⊢
  rw [Dict.get_update_entries, Dict.get_mapValues, Dict.get_set,
    Dict.get_filter, Dict.get_erase]
  generalize Dict.ofList
    ((objectEntries root).filterMap (appRow? isSpace)) = apps at hload ⊢
  cases hrow : (if k = s then some row else apps.get k) with
  | some row' => rfl
  | none =>
      rw [Option.map_none, Option.none_or, Option.none_or]
      by_cases hk : k = "apps"
      · simp [hk]
      · simp only [hk, if_false]
        cases hget : root.get k with
        | none => rfl
        | some v =>
            by_cases hkeep : k ∈ reservedRootKeys ∨ v.isDict = false
            · have hres : k ∈ reservedBundleRoot ↔ k ∈ reservedRootKeys :=
                Iff.rfl
              rcases hkeep with hkeep | hkeep <;>
                simp [Option.filter, hres, hkeep]
            · rw [not_or, Bool.not_eq_false] at hkeep
              obtain ⟨hres, hdict⟩ := hkeep
              -- A member which carries a row and stands under an inherited
              -- name is loaded under that name.
              have hnot : k ≠ s ∧ apps.get k = none := by
                by_cases hks : k = s
                · simp [hks] at hrow
                · exact ⟨hks, by simpa [hks] using hrow⟩
              have hproto : k ∉ objectPrototype := by
                intro hmem
                obtain ⟨d, hd⟩ := Option.isSome_iff_exists.mp hdict
                have htrim : ∀ n ∈ objectPrototype,
                    strip isSpace n = n ∧ n ≠ "" := by decide
                have hsome := hload.complete hget
                  (appRow?_eq_some_iff.mpr ⟨hres, (htrim k hmem).1,
                    (htrim k hmem).2, d, hd, rfl⟩)
                rw [hnot.2] at hsome
                contradiction
              have hkey : Apps.hasKey ⟨apps.set s row, none⟩ k = false := by
                simp [Apps.hasKey, Dict.contains_eq, Dict.get_set, hnot.1,
                  hnot.2, hproto]
              have hres' : ¬k ∈ reservedBundleRoot := hres
              simp [Option.filter, hres, hres', hdict, hkey]

theorem rewritten_updateApps_typeScript (c : TypeScript.AuthCache)
    {m : Root} (hm : NoProto m) (hname : c.softwareName ≠ "__proto__")
    (f : Row → Row) :
    Rewritten m (TypeScript.loadAppsMap m).own.get c.softwareName
      (f (((TypeScript.loadAppsMap m).own.get c.softwareName).getD .empty))
      (TypeScript.commitAppsMap m (c.updateApps m f)) := by
  have hown : c.ownRow (TypeScript.loadAppsMap m) =
      ((TypeScript.loadAppsMap m).own.get c.softwareName).getD .empty := by
    rw [TypeScript.AuthCache.ownRow, lookup_typeScript hm hname]
    cases hrow : (TypeScript.loadAppsMap m).own.get c.softwareName with
    | none => rfl
    | some row => exact ((loads_typeScript hm).trimmed hrow).2.2
  rw [TypeScript.AuthCache.updateApps, hown]
  exact rewritten_typeScript hm hname _

end TypeScript

end PyAuth.Sdk
