import PyAuth.Sdk.Provenance

/-!
# What a commit of the TypeScript SDK leaves in the file

`commitAppsMap` drops the objects whose names are not `in` the object of rows,
and a name is also found on the prototype of that object: on the row which was
assigned to `__proto__`, and on `Object.prototype`.  The members that stay for
this reason are loaded again at the next read, perhaps in place of the row
which was written.  `leftover` is what stays, apart from the rows of other
products, and what is read of the product after a commit is read from it.
-/

namespace PyAuth.TypeScript

open Support Client Sdk

/-! ## Loading under one name -/

/-- The row a member gives to the product `t`. -/
def rowNamed (t : String) (e : String × Json) : Option Row :=
  (appRow? isSpace e).bind fun r => if r.1 = t then some r.2 else none

theorem rowNamed_eq_some_iff {t k : String} {v : Json} {row : Row} :
    rowNamed t (k, v) = some row ↔ appRow? isSpace (k, v) = some (t, row) := by
  rw [rowNamed, Option.bind_eq_some_iff]
  constructor
  · rintro ⟨⟨n, row'⟩, happ, hname⟩
    obtain ⟨rfl, hrow⟩ := Option.ite_none_right_eq_some.mp hname
    rw [happ, ← Option.some.inj hrow]
  · intro happ
    exact ⟨_, happ, if_pos rfl⟩

theorem own_foldl_loadRow (es : List (String × Json)) (out : Apps)
    {t : String} (ht : t ≠ "__proto__") :
    (es.foldl loadRow out).own.get t =
      ((es.filterMap (rowNamed t)).getLast?).or (out.own.get t) := by
  induction es generalizing out with
  | nil => rfl
  | cons e es ih =>
      rw [List.foldl_cons, ih, loadRow_eq, List.filterMap_cons, rowNamed]
      cases appRow? isSpace e with
      | none => rfl
      | some r =>
          obtain ⟨n, row⟩ := r
          dsimp only [Option.bind_some]
          rw [Apps.assign]
          by_cases hname : n = t
          · subst hname
            rw [if_neg ht, if_pos rfl, Dict.get_set_self]
            dsimp only
            rw [List.getLast?_cons]
            cases (es.filterMap (rowNamed n)).getLast? <;> rfl
          · rw [if_neg hname]
            split
            · rfl
            · rw [Dict.get_set_of_ne (Ne.symm hname)]

theorem proto_foldl_loadRow (es : List (String × Json)) (out : Apps) :
    (es.foldl loadRow out).proto =
        ((es.filterMap (rowNamed "__proto__")).getLast?).or out.proto ∧
      (es.foldl loadRow out).own.get "__proto__" =
        out.own.get "__proto__" := by
  induction es generalizing out with
  | nil => exact ⟨rfl, rfl⟩
  | cons e es ih =>
      rw [List.foldl_cons, (ih _).1, (ih _).2, loadRow_eq, List.filterMap_cons,
        rowNamed]
      cases appRow? isSpace e with
      | none => exact ⟨rfl, rfl⟩
      | some r =>
          obtain ⟨n, row⟩ := r
          dsimp only [Option.bind_some]
          rw [Apps.assign]
          by_cases hname : n = "__proto__"
          · subst hname
            rw [if_pos rfl, if_pos rfl]
            dsimp only
            rw [List.getLast?_cons]
            cases (es.filterMap (rowNamed "__proto__")).getLast? <;>
              exact ⟨rfl, rfl⟩
          · rw [if_neg hname, if_neg hname]
            exact ⟨rfl, Dict.get_set_of_ne (Ne.symm hname)⟩

/-! ## The order of the members -/

theorem isSpace_of_isDigit {c : Char} (h : c.isDigit = true) :
    isSpace c = false := by
  have hcode : 48 ≤ c.toNat ∧ c.toNat ≤ 57 := by
    rw [Char.isDigit, Bool.and_eq_true, decide_eq_true_iff,
      decide_eq_true_iff] at h
    exact h
  simp only [isSpace, Bool.or_eq_false_iff, Bool.and_eq_false_iff,
    decide_eq_false_iff_not, beq_eq_false_iff_ne]
  omega

/-- An array index is not trimmed. -/
theorem strip_of_arrayIndex? {k : String} (h : (arrayIndex? k).isSome) :
    strip isSpace k = k := by
  rw [arrayIndex?] at h
  split at h
  next n _ =>
    split at h
    next hn =>
      rw [← hn.1, show toString n = String.ofList (Nat.toDigits 10 n) from rfl]
      exact strip_eq_self fun c hc => isSpace_of_isDigit
        (Nat.isDigit_of_mem_toDigits (by decide) (by decide) hc)
    · contradiction
  · contradiction

/-- Two arrangements of at most one element are equal. -/
theorem eq_of_perm_of_length_le_one {α : Type*} {xs ys : List α}
    (h : xs.Perm ys) (hlength : ys.length ≤ 1) : xs = ys := by
  match ys with
  | [] => exact List.perm_nil.mp h
  | [y] => exact List.perm_singleton.mp h
  | _ :: _ :: _ => simp at hlength

theorem length_filterMap_le_one {β : Type*} {g : String × Json → Option β}
    {t : String} {es : List (String × Json)} (hes : (es.map Prod.fst).Nodup)
    (hg : ∀ e ∈ es, g e ≠ none → e.1 = t) : (es.filterMap g).length ≤ 1 := by
  induction es with
  | nil => simp
  | cons e es ih =>
      rw [List.map_cons, List.nodup_cons] at hes
      rw [List.forall_mem_cons] at hg
      rw [List.filterMap_cons]
      cases he : g e with
      | none => exact ih hes.2 hg.2
      | some b =>
          have hname : e.1 = t := hg.1 (by simp [he])
          have hnil : es.filterMap g = [] := by
            rw [List.filterMap_eq_nil_iff]
            intro e' he'
            by_contra hne
            have hname' := hg.2 e' he' hne
            exact hes.1 (List.mem_map.mpr ⟨e', he', hname'.trans hname.symm⟩)
          simp [hnil]

/-- Members visited under a name come in the order of the object, but for one
whose name is an array index. -/
theorem filterMap_objectEntries {β : Type*} {g : String × Json → Option β}
    {t : String} {d : Dict String Json}
    (hg : ∀ e, g e ≠ none → (arrayIndex? e.1).isSome → e.1 = t) :
    (objectEntries d).filterMap g =
      (d.entries.filter fun e => (arrayIndex? e.1).isSome).filterMap g ++
        (d.entries.filter fun e => !(arrayIndex? e.1).isSome).filterMap g := by
  rw [objectEntries, List.filterMap_append]
  congr 1
  apply eq_of_perm_of_length_le_one
  · exact (List.perm_insertionSort _ _).filterMap g
  · apply length_filterMap_le_one (t := t)
    · exact d.nodup.sublist (List.filter_sublist.map Prod.fst)
    · intro e he hne
      exact hg e hne (List.mem_filter.mp he).2

/-! ## The rows that are loaded -/

theorem own_loadAppsMap (m : Root) {t : String} (ht : t ≠ "__proto__") :
    (loadAppsMap m).own.get t =
      ((objectEntries m).filterMap (rowNamed t)).getLast? := by
  rw [loadAppsMap, own_foldl_loadRow _ _ ht]
  exact Option.or_none

theorem proto_loadAppsMap (m : Root) :
    (loadAppsMap m).proto =
      ((objectEntries m).filterMap (rowNamed "__proto__")).getLast? := by
  rw [loadAppsMap, (proto_foldl_loadRow _ _).1]
  exact Option.or_none

theorem own_proto_loadAppsMap (m : Root) :
    (loadAppsMap m).own.get "__proto__" = none :=
  (proto_foldl_loadRow _ _).2

/-- Whatever is loaded, a member carries it. -/
theorem carrier_of_getLast? {m : Root} {t : String} {row : Row}
    (h : ((objectEntries m).filterMap (rowNamed t)).getLast? = some row) :
    ∃ k v, m.get k = some v ∧ appRow? isSpace (k, v) = some (t, row) := by
  obtain ⟨⟨k, v⟩, hmem, hrow⟩ :=
    List.mem_filterMap.mp (List.mem_of_getLast? h)
  exact ⟨k, v, Dict.get_eq_some_iff.mpr ((objectEntries_perm m).mem_iff.mp hmem),
    rowNamed_eq_some_iff.mp hrow⟩

theorem ne_proto_of_own {m : Root} {t : String} {row : Row}
    (h : (loadAppsMap m).own.get t = some row) : t ≠ "__proto__" := by
  rintro rfl
  rw [own_proto_loadAppsMap] at h
  contradiction

theorem carrier_of_own {m : Root} {t : String} {row : Row}
    (h : (loadAppsMap m).own.get t = some row) :
    ∃ k v, m.get k = some v ∧ appRow? isSpace (k, v) = some (t, row) := by
  rw [own_loadAppsMap m (ne_proto_of_own h)] at h
  exact carrier_of_getLast? h

theorem carrier_of_proto {m : Root} {row : Row}
    (h : (loadAppsMap m).proto = some row) :
    ∃ k v, m.get k = some v ∧
      appRow? isSpace (k, v) = some ("__proto__", row) := by
  rw [proto_loadAppsMap] at h
  exact carrier_of_getLast? h

/-- Rows stand under trimmed names. -/
theorem trimmed_of_own {m : Root} {t : String} {row : Row}
    (h : (loadAppsMap m).own.get t = some row) :
    strip isSpace t = t ∧ t ≠ "__proto__" := by
  obtain ⟨k, v, -, happ⟩ := carrier_of_own h
  obtain ⟨-, hstrip, -⟩ := appRow?_eq_some_iff.mp happ
  rw [← hstrip]
  exact ⟨strip_strip k, hstrip ▸ ne_proto_of_own h⟩

theorem of_rowNamed {t : String} {e : String × Json} (h : rowNamed t e ≠ none) :
    e.1 ∉ reservedRootKeys ∧ strip isSpace e.1 = t ∧ e.2.isDict = true := by
  obtain ⟨row, hrow⟩ := Option.ne_none_iff_exists'.mp h
  obtain ⟨hres, hstrip, -, d, hd, -⟩ :=
    appRow?_eq_some_iff.mp (rowNamed_eq_some_iff.mp hrow)
  exact ⟨hres, hstrip, by simp [Json.isDict, hd]⟩

theorem eq_of_arrayIndex? (t : String) (e : String × Json)
    (h : rowNamed t e ≠ none) (hindex : (arrayIndex? e.1).isSome) :
    e.1 = t :=
  (strip_of_arrayIndex? hindex).symm.trans (of_rowNamed h).2.1

/-- A member under a reserved name is not read. -/
theorem rowNamed_erase {k : String} (hk : k ∈ reservedRootKeys) (d : Root)
    (t : String) :
    (objectEntries (d.erase k)).filterMap (rowNamed t) =
      (objectEntries d).filterMap (rowNamed t) := by
  have hkeep : ∀ e ∈ d.entries, rowNamed t e ≠ none → ∀ b : Bool,
      (b && decide (e.1 ≠ k)) = b := by
    intro e _ he b
    have hne : e.1 ≠ k := fun heq => (of_rowNamed he).1 (heq ▸ hk)
    rw [decide_eq_true hne, Bool.and_true]
  rw [filterMap_objectEntries (eq_of_arrayIndex? t),
    filterMap_objectEntries (eq_of_arrayIndex? t)]
  simp only [Dict.erase, Dict.filter, List.filter_filter]
  congr 1
  all_goals
    apply Dict.filterMap_filter_congr
    intro e he hne
    exact hkeep e he hne _

/-- What the rows under the names `t` are made of. -/
theorem filterMap_mapValues (d : Root) (f : Json → Json)
    (q : String → Bool) (t : String) :
    ((d.mapValues f).entries.filter fun e => q e.1).filterMap (rowNamed t) =
      d.entries.filterMap fun e =>
        if q e.1 then rowNamed t (e.1, f e.2) else none := by
  rw [Dict.mapValues, List.filter_map, List.filterMap_map,
    List.filterMap_filter]
  rfl

theorem rowNamed_mapValues (d : Root) (f : Json → Json) (t : String) :
    (objectEntries (d.mapValues f)).filterMap (rowNamed t) =
      (d.entries.filterMap fun e =>
        if (arrayIndex? e.1).isSome then rowNamed t (e.1, f e.2) else none) ++
      d.entries.filterMap fun e =>
        if !(arrayIndex? e.1).isSome then rowNamed t (e.1, f e.2)
        else none := by
  rw [filterMap_objectEntries (eq_of_arrayIndex? t), filterMap_mapValues d f
    (fun k => (arrayIndex? k).isSome), filterMap_mapValues d f
    (fun k => !(arrayIndex? k).isSome)]

/-! ## Loading rounded members -/

/-- `JSON.parse(JSON.stringify(v))`. -/
def reparse (v : Json) : Json := (stringify v).asDoubles

theorem rounding_reparse : Rounding reparse :=
  Rounding.asDoubles.comp .stringify

section

variable {f : Json → Json} (hf : Rounding f)

include hf

theorem rowNamed_rounded (t k : String) (v : Json) :
    rowNamed t (k, f v) = (rowNamed t (k, v)).map (·.mapValues f) := by
  rw [rowNamed, rowNamed, appRow?, appRow?]
  dsimp only
  rw [hf.dict?_eq]
  split
  · rfl
  · cases v.dict? with
    | none => rfl
    | some sub =>
        dsimp only [Option.map_some]
        split
        · rfl
        · rw [Option.bind_some, Option.bind_some, ← Dict.mapValues_erase]
          split <;> rfl

theorem filterMap_rounded (d : Root) (t : String) :
    (objectEntries (d.mapValues f)).filterMap (rowNamed t) =
      ((objectEntries d).filterMap (rowNamed t)).map (·.mapValues f) := by
  have hid : d = d.mapValues fun v => v :=
    Dict.ext (by simp [Dict.mapValues])
  conv_rhs => rw [hid]
  rw [rowNamed_mapValues, rowNamed_mapValues, List.map_append,
    List.map_filterMap, List.map_filterMap]
  simp only [rowNamed_rounded hf,
    apply_ite (Option.map fun row : Row => row.mapValues f), Option.map_none]

theorem own_rounded (d : Root) (t : String) :
    (loadAppsMap (d.mapValues f)).own.get t =
      ((loadAppsMap d).own.get t).map (·.mapValues f) := by
  by_cases ht : t = "__proto__"
  · rw [ht, own_proto_loadAppsMap, own_proto_loadAppsMap, Option.map_none]
  · rw [own_loadAppsMap _ ht, own_loadAppsMap _ ht, filterMap_rounded hf,
      List.getLast?_map]

theorem proto_rounded (d : Root) :
    (loadAppsMap (d.mapValues f)).proto =
      (loadAppsMap d).proto.map (·.mapValues f) := by
  rw [proto_loadAppsMap, proto_loadAppsMap, filterMap_rounded hf,
    List.getLast?_map]

/-- Rounding the members of the root rounds the row that is found. -/
theorem AuthCache.rowOf_rounded (c : AuthCache) (d : Root) :
    c.rowOf (some (d.mapValues f)) =
      (c.rowOf (some d)).map (·.mapValues f) := by
  rw [rowOf, rowOf, Option.bind_some, Option.bind_some, Apps.lookup,
    Apps.lookup, own_rounded hf, proto_rounded hf]
  cases (loadAppsMap d).own.get c.softwareName with
  | some row => simp
  | none =>
      dsimp only [Option.map_none]
      cases (loadAppsMap d).proto with
      | none =>
          dsimp only [Option.map_none, Option.bind_none]
          split
          · rw [Option.bind_some, Json.dict?_ofDict]
            rfl
          · rfl
      | some p =>
          dsimp only [Option.map_some, Option.bind_some]
          rw [Dict.get_mapValues]
          cases p.get c.softwareName with
          | some v => exact hf.dict?_eq v
          | none =>
              dsimp only [Option.map_none]
              split
              · rw [Option.bind_some, Option.bind_some, Option.getD_some,
                  Option.getD_some, Json.dict?_ofDict, Json.dict?_ofDict,
                  Option.map_some]
              · rfl

end

/-! ## What a commit leaves -/

namespace AuthCache

/-- The prototype of the object of rows once the row of the product has been
assigned. -/
def prototype (c : AuthCache) (m : Root) (row : Row) : Option Row :=
  if c.softwareName = "__proto__" then some row else (loadAppsMap m).proto

/-- What stays in the root when `row` is committed, but for the rows of other
products: the member of the product, and the objects whose names are found on
the prototype of the object of rows. -/
def leftover (c : AuthCache) (m : Root) (row : Row) : Root :=
  let stays := m.filter fun k v =>
    decide (k = c.softwareName) || (v.isDict &&
      ((c.prototype m row).any (·.contains k) ||
        decide (k ∈ objectPrototype)))
  if c.softwareName = "__proto__" then stays
  else stays.set c.softwareName (.ofDict row)

variable {c : AuthCache} {m : Root} {row : Row}

theorem assign_proto (c : AuthCache) (m : Root) (row : Row) :
    ((loadAppsMap m).assign c.softwareName row).proto = c.prototype m row := by
  rw [Apps.assign, prototype]
  split <;> rfl

theorem assign_own (c : AuthCache) (m : Root) (row : Row) :
    ((loadAppsMap m).assign c.softwareName row).own =
      if c.softwareName = "__proto__" then (loadAppsMap m).own
      else (loadAppsMap m).own.set c.softwareName row := by
  rw [Apps.assign]
  split <;> rfl

section

variable {β : Type*} {g : String × Json → Option β}
  (hg : ∀ e, g e ≠ none → e.1 ∉ reservedRootKeys ∧ e.2.isDict = true ∧
    (strip isSpace e.1 = c.softwareName ∨ strip isSpace e.1 = "__proto__"))

include hg

/-- The rows of other products are of no account. -/
theorem eq_none_of_own {k : String} (hk : (loadAppsMap m).own.get k ≠ none)
    (hne : k ≠ c.softwareName) (v : Json) : g (k, v) = none := by
  obtain ⟨sub, hsub⟩ := Option.ne_none_iff_exists'.mp hk
  obtain ⟨htrim, hproto⟩ := trimmed_of_own hsub
  by_contra hsome
  rcases (hg _ hsome).2.2 with heq | heq
  · exact hne (htrim.symm.trans heq)
  · exact hproto (htrim.symm.trans heq)

/-- Of the members that matter a commit keeps those which stay. -/
theorem keeps_iff {e : String × Json} (he : g e ≠ none) :
    (decide (e.1 ≠ "apps") && (decide (e.1 ∈ reservedBundleRoot) ||
        !e.2.isDict ||
        ((loadAppsMap m).assign c.softwareName row).hasKey e.1)) =
      (decide (e.1 = c.softwareName) || (e.2.isDict &&
        ((c.prototype m row).any (·.contains e.1) ||
          decide (e.1 ∈ objectPrototype)))) := by
  obtain ⟨hres, hdict, -⟩ := hg _ he
  have happs : e.1 ≠ "apps" := by
    intro heq
    exact hres (heq ▸ by decide)
  have hres' : e.1 ∉ reservedBundleRoot := hres
  rw [Apps.hasKey, assign_proto, assign_own]
  by_cases hks : e.1 = c.softwareName
  · rw [hks] at happs
    by_cases hs : c.softwareName = "__proto__"
    · have hmem : "__proto__" ∈ objectPrototype := by decide
      simp [hks, hs, hmem]
    · simp [hks, happs, hs, Dict.contains_eq]
  · have hnone : (loadAppsMap m).own.get e.1 = none := by
      by_contra hsome
      exact he (eq_none_of_own hg hsome hks e.2)
    have hown : (if c.softwareName = "__proto__" then (loadAppsMap m).own
        else (loadAppsMap m).own.set c.softwareName row).contains e.1 =
          false := by
      rw [Dict.contains_eq]
      split
      · rw [hnone]
        rfl
      · rw [Dict.get_set_of_ne hks, hnone]
        rfl
    simp [happs, hres', hdict, hks, hown]

theorem filterMap_commit :
    (commitAppsMap m ((loadAppsMap m).assign c.softwareName
        row)).entries.filterMap g =
      (c.leftover m row).entries.filterMap g := by
  have hother {k : String} {v : Json} (hmem : (k, v) ∈
      (((loadAppsMap m).assign c.softwareName row).own.mapValues
        Json.ofDict).entries) (hne : k ≠ c.softwareName) (w : Json) :
      g (k, w) = none := by
    refine eq_none_of_own (m := m) hg ?_ hne w
    have hget := Dict.get_eq_some_iff.mpr hmem
    rw [Dict.get_mapValues, assign_own] at hget
    intro hnone
    split at hget
    · rw [hnone] at hget
      contradiction
    · rw [Dict.get_set_of_ne hne, hnone] at hget
      contradiction
  rw [commitAppsMap, leftover]
  by_cases hs : c.softwareName = "__proto__"
  · rw [if_pos hs, Dict.filterMap_update_of_none]
    · simp only [Dict.filter, Dict.erase, List.filter_filter]
      apply Dict.filterMap_filter_congr
      intro e _ he
      rw [Bool.and_comm]
      exact keeps_iff hg he
    · rintro ⟨k, v⟩ hmem w
      by_cases hks : k = c.softwareName
      · have hget := Dict.get_eq_some_iff.mpr hmem
        rw [Dict.get_mapValues, assign_own, if_pos hs, hks, hs,
          own_proto_loadAppsMap] at hget
        contradiction
      · exact hother hmem hks w
  · have hmem : (c.softwareName, Json.ofDict row) ∈
        (((loadAppsMap m).assign c.softwareName row).own.mapValues
          Json.ofDict).entries := by
      rw [← Dict.get_eq_some_iff, Dict.get_mapValues, assign_own, if_neg hs,
        Dict.get_set_self, Option.map_some]
    rw [if_neg hs, Dict.filterMap_update (Dict.nodup _) hmem
      fun e he hne => hother he hne]
    simp only [Dict.set, Dict.filter, Dict.erase, List.filter_filter]
    by_cases hres : c.softwareName ∈ reservedRootKeys
    · have hnone (v : Json) : g (c.softwareName, v) = none := by
        by_contra hsome
        exact (hg _ hsome).1 hres
      rw [Dict.filterMap_setEntries_of_none hnone,
        Dict.filterMap_setEntries_of_none hnone]
      apply Dict.filterMap_filter_congr
      intro e _ he
      rw [Bool.and_comm]
      exact keeps_iff hg he
    · apply Dict.filterMap_setEntries_filter
      · intro v
        have happs : c.softwareName ≠ "apps" := by
          intro heq
          exact hres (heq ▸ by decide)
        simp [happs, Apps.hasKey, assign_own, hs, Dict.contains_eq]
      · intro e _ he
        rw [Bool.and_comm]
        exact keeps_iff hg he

end

/-- **What is read after a commit**, of the row of the product and of the
prototype. -/
theorem rowOf_written (c : AuthCache) (m : Root) (f : Row → Row) :
    c.rowOf (readStateDict true (.root ((commitAppsMap m
        (c.updateApps m f)).mapValues stringify))) =
      c.rowOf (some ((c.leftover m
        (f (c.ownRow (loadAppsMap m)))).mapValues reparse)) := by
  have hread {t : String} (ht : t = c.softwareName ∨ t = "__proto__") :
      (objectEntries ((((commitAppsMap m (c.updateApps m f)).mapValues
          stringify).mapValues Json.asDoubles).erase "device_id")).filterMap
          (rowNamed t) =
        (objectEntries ((c.leftover m
          (f (c.ownRow (loadAppsMap m)))).mapValues reparse)).filterMap
          (rowNamed t) := by
    have hmap : ((commitAppsMap m (c.updateApps m f)).mapValues
        stringify).mapValues Json.asDoubles =
          (commitAppsMap m (c.updateApps m f)).mapValues reparse :=
      Dict.ext (by simp [Dict.mapValues, reparse])
    have hg (q : String → Bool) (e : String × Json)
        (he : (if q e.1 then rowNamed t (e.1, reparse e.2) else none) ≠ none) :
        e.1 ∉ reservedRootKeys ∧ e.2.isDict = true ∧
          (strip isSpace e.1 = c.softwareName ∨
            strip isSpace e.1 = "__proto__") := by
      have he : rowNamed t (e.1, reparse e.2) ≠ none := by
        intro hnone
        rw [hnone, ite_self] at he
        exact he rfl
      obtain ⟨hres, hname, hdict⟩ := of_rowNamed he
      refine ⟨hres, ?_, ht.imp hname.trans hname.trans⟩
      rwa [Json.isDict, rounding_reparse.dict?_eq, Option.isSome_map] at hdict
    rw [rowNamed_erase (by decide), hmap, rowNamed_mapValues,
      rowNamed_mapValues, updateApps, filterMap_commit
        (hg fun k => (arrayIndex? k).isSome), filterMap_commit
        (hg fun k => !(arrayIndex? k).isSome)]
  have hown : (loadAppsMap ((((commitAppsMap m (c.updateApps m f)).mapValues
      stringify).mapValues Json.asDoubles).erase "device_id")).own.get
        c.softwareName = (loadAppsMap ((c.leftover m
          (f (c.ownRow (loadAppsMap m)))).mapValues reparse)).own.get
            c.softwareName := by
    by_cases hs : c.softwareName = "__proto__"
    · rw [hs, own_proto_loadAppsMap, own_proto_loadAppsMap]
    · rw [own_loadAppsMap _ hs, own_loadAppsMap _ hs, hread (.inl rfl)]
  simp only [readStateDict, if_true, rowOf, Option.bind_some, Apps.lookup,
    hown, proto_loadAppsMap, hread (.inr rfl)]

/-- The timestamp that is found under the name of the product in what stays in
the root when `row` is committed. -/
def leftTs (c : AuthCache) (m : Root) (row : Row) : Option ℚ :=
  (c.rowOf (some (c.leftover m row))).bind rowLastSuccessTs

theorem rowLastSuccessTs_reparse (row : Row) :
    rowLastSuccessTs (row.mapValues reparse) = rowLastSuccessTs row := by
  rw [rowLastSuccessTs, rowLastSuccessTs, Dict.get_mapValues]
  cases row.get "last_success_at" with
  | none => rfl
  | some v =>
      cases v with
      | float x => cases x <;> rfl
      | null | bool | int | str => rfl
      | arr | obj => rfl

/-- **What is read after a commit.** -/
theorem currentTs_written (c : AuthCache) (m : Root) (f : Row → Row) :
    (c.rowOf (readStateDict true (.root ((commitAppsMap m
        (c.updateApps m f)).mapValues stringify)))).bind rowLastSuccessTs =
      c.leftTs m (f (c.ownRow (loadAppsMap m))) := by
  rw [rowOf_written, rowOf_rounded rounding_reparse, leftTs]
  cases c.rowOf (some (c.leftover m (f (c.ownRow (loadAppsMap m))))) with
  | none => rfl
  | some row => exact rowLastSuccessTs_reparse row

end AuthCache

end PyAuth.TypeScript
