import Mathlib.Data.List.Basic
import Mathlib.Data.List.Nodup

/-!
# Insertion-ordered dictionaries

A finite map which remembers the order in which its keys were first written,
as the dictionaries of Python and the objects of JSON do.  A key is never
stored twice: assigning to a key that is present replaces its value in place,
and assigning to a new key appends it.

The module is independent of what is stored.  Every operation comes with one
lookup lemma, so later proofs never unfold the underlying list.
-/

namespace Support

universe u v

/-- A list of key-value pairs in which no key occurs twice. -/
@[ext]
structure Dict (κ : Type u) (α : Type v) where
  entries : List (κ × α)
  nodup : (entries.map Prod.fst).Nodup

namespace Dict

variable {κ : Type u} {α : Type v} [DecidableEq κ]

instance [DecidableEq α] : DecidableEq (Dict κ α) := fun d e =>
  decidable_of_iff (d.entries = e.entries) Dict.ext_iff.symm

/-! ## Operations -/

def empty : Dict κ α := ⟨[], List.nodup_nil⟩

instance : Inhabited (Dict κ α) := ⟨empty⟩

def isEmpty (d : Dict κ α) : Bool := d.entries.isEmpty

def keys (d : Dict κ α) : List κ := d.entries.map Prod.fst

/-- The value stored under `k`. -/
def get (d : Dict κ α) (k : κ) : Option α := d.entries.lookup k

def contains (d : Dict κ α) (k : κ) : Bool := (d.get k).isSome

/-- Assignment on the underlying list: in place, or at the end. -/
def setEntries (k : κ) (v : α) : List (κ × α) → List (κ × α)
  | [] => [(k, v)]
  | (k', v') :: es =>
      if k' = k then (k, v) :: es else (k', v') :: setEntries k v es

theorem mem_keys_setEntries {k x : κ} {v : α} {es : List (κ × α)} :
    x ∈ (setEntries k v es).map Prod.fst ↔
      x = k ∨ x ∈ es.map Prod.fst := by
  induction es with
  | nil => simp [setEntries]
  | cons e es ih =>
      obtain ⟨k', v'⟩ := e
      by_cases h : k' = k
      · subst h
        simp [setEntries]
      · rw [setEntries, if_neg h, List.map_cons, List.mem_cons, ih,
          List.map_cons, List.mem_cons]
        tauto

theorem nodup_setEntries {k : κ} {v : α} {es : List (κ × α)}
    (h : (es.map Prod.fst).Nodup) :
    ((setEntries k v es).map Prod.fst).Nodup := by
  induction es with
  | nil => simp [setEntries]
  | cons e es ih =>
      obtain ⟨k', v'⟩ := e
      rw [List.map_cons, List.nodup_cons] at h
      by_cases hk : k' = k
      · subst hk
        simpa [setEntries] using h
      · rw [setEntries, if_neg hk, List.map_cons, List.nodup_cons]
        refine ⟨?_, ih h.2⟩
        rw [mem_keys_setEntries]
        rintro (heq | hmem)
        · exact hk heq
        · exact h.1 hmem

/-- `d[k] = v`. -/
def set (d : Dict κ α) (k : κ) (v : α) : Dict κ α :=
  ⟨setEntries k v d.entries, nodup_setEntries d.nodup⟩

/-- Keep the pairs satisfying `p`. -/
def filter (p : κ → α → Bool) (d : Dict κ α) : Dict κ α :=
  ⟨d.entries.filter fun e => p e.1 e.2,
    d.nodup.sublist (List.filter_sublist.map Prod.fst)⟩

/-- `d.pop(k, None)`. -/
def erase (d : Dict κ α) (k : κ) : Dict κ α :=
  d.filter fun k' _ => decide (k' ≠ k)

/-- `for k in ks: d.pop(k, None)`. -/
def eraseAll (d : Dict κ α) (ks : List κ) : Dict κ α := ks.foldl erase d

/-- `for k, v in es: d[k] = v`. -/
def update (d : Dict κ α) (es : List (κ × α)) : Dict κ α :=
  es.foldl (fun d e => d.set e.1 e.2) d

/-- Apply `f` to every value. -/
def mapValues {β : Type*} (f : α → β) (d : Dict κ α) : Dict κ β :=
  ⟨d.entries.map fun e => (e.1, f e.2), by
    simpa [List.map_map, Function.comp_def] using d.nodup⟩

/-- The dictionary denoted by a list of pairs: a later pair overrides an
earlier one with the same key. -/
def ofList (es : List (κ × α)) : Dict κ α := update empty es

/-! ## Lookup in the underlying list -/

theorem lookup_cons_eq {k x : κ} {v : α} {es : List (κ × α)} :
    ((k, v) :: es).lookup x = if x = k then some v else es.lookup x := by
  rw [List.lookup_cons]
  by_cases h : x = k
  · simp [h]
  · have hbeq : (x == k) = false := beq_eq_false_iff_ne.mpr h
    simp [hbeq, h]

theorem lookup_eq_none_of_notMem {x : κ} {es : List (κ × α)}
    (h : x ∉ es.map Prod.fst) : es.lookup x = none := by
  induction es with
  | nil => rfl
  | cons e es ih =>
      rw [List.map_cons, List.mem_cons, not_or] at h
      rw [lookup_cons_eq, if_neg h.1, ih h.2]

theorem lookup_setEntries {k x : κ} {v : α} {es : List (κ × α)} :
    (setEntries k v es).lookup x =
      if x = k then some v else es.lookup x := by
  induction es with
  | nil => rw [setEntries, lookup_cons_eq]
  | cons e es ih =>
      obtain ⟨k', v'⟩ := e
      by_cases hk : k' = k
      · subst hk
        rw [setEntries, if_pos rfl, lookup_cons_eq, lookup_cons_eq]
        split <;> rfl
      · rw [setEntries, if_neg hk, lookup_cons_eq, lookup_cons_eq, ih]
        by_cases hx : x = k'
        · subst hx
          simp [hk]
        · simp [hx]

theorem lookup_filter {p : κ → α → Bool} {x : κ} {es : List (κ × α)}
    (h : (es.map Prod.fst).Nodup) :
    (es.filter fun e => p e.1 e.2).lookup x =
      (es.lookup x).filter (p x) := by
  induction es with
  | nil => simp
  | cons e es ih =>
      obtain ⟨k, v⟩ := e
      rw [List.map_cons, List.nodup_cons] at h
      rw [List.filter_cons, lookup_cons_eq]
      by_cases hx : x = k
      · subst hx
        have hnone : es.lookup x = none := lookup_eq_none_of_notMem h.1
        by_cases hp : p x v = true
        · simp [hp, Option.filter]
        · simp [hp, ih h.2, hnone, Option.filter]
      · by_cases hp : p k v = true
        · rw [if_pos hp, lookup_cons_eq, if_neg hx, if_neg hx, ih h.2]
        · rw [if_neg hp, if_neg hx, ih h.2]

/-! ## Lookup lemmas -/

@[simp] theorem get_empty (k : κ) : (empty : Dict κ α).get k = none := rfl

theorem get_set (d : Dict κ α) (k x : κ) (v : α) :
    (d.set k v).get x = if x = k then some v else d.get x :=
  lookup_setEntries

@[simp] theorem get_set_self (d : Dict κ α) (k : κ) (v : α) :
    (d.set k v).get k = some v := by
  simp [get_set]

theorem get_set_of_ne {d : Dict κ α} {k x : κ} {v : α} (h : x ≠ k) :
    (d.set k v).get x = d.get x := by
  simp [get_set, h]

theorem get_filter (d : Dict κ α) (p : κ → α → Bool) (x : κ) :
    (d.filter p).get x = (d.get x).filter (p x) :=
  lookup_filter d.nodup

theorem get_mapValues {β : Type*} (f : α → β) (d : Dict κ α) (x : κ) :
    (d.mapValues f).get x = (d.get x).map f := by
  obtain ⟨es, h⟩ := d
  change (es.map fun e => (e.1, f e.2)).lookup x = (es.lookup x).map f
  clear h
  induction es with
  | nil => rfl
  | cons e es ih =>
      obtain ⟨k, v⟩ := e
      rw [List.map_cons, lookup_cons_eq, lookup_cons_eq, ih]
      split <;> rfl

theorem get_erase (d : Dict κ α) (k x : κ) :
    (d.erase k).get x = if x = k then none else d.get x := by
  rw [erase, get_filter]
  by_cases h : x = k
  · simp [h]
  · cases d.get x <;> simp [h, Option.filter]

@[simp] theorem get_erase_self (d : Dict κ α) (k : κ) :
    (d.erase k).get k = none := by
  simp [get_erase]

theorem get_erase_of_ne {d : Dict κ α} {k x : κ} (h : x ≠ k) :
    (d.erase k).get x = d.get x := by
  simp [get_erase, h]

@[simp] theorem erase_erase (d : Dict κ α) (k : κ) :
    (d.erase k).erase k = d.erase k := by
  apply Dict.ext
  simp [erase, filter]

theorem get_eraseAll (d : Dict κ α) (ks : List κ) (x : κ) :
    (d.eraseAll ks).get x = if x ∈ ks then none else d.get x := by
  induction ks generalizing d with
  | nil => simp [eraseAll]
  | cons k ks ih =>
      have h := ih (d.erase k)
      rw [eraseAll] at h ⊢
      rw [List.foldl_cons, h, get_erase]
      by_cases hx : x = k <;> by_cases hxs : x ∈ ks <;> simp [hx, hxs]

theorem get_update (d : Dict κ α) (es : List (κ × α)) (x : κ) :
    (d.update es).get x = (es.reverse.lookup x).or (d.get x) := by
  induction es generalizing d with
  | nil => simp [update]
  | cons e es ih =>
      obtain ⟨k, v⟩ := e
      have h := ih (d.set k v)
      rw [update] at h ⊢
      rw [List.foldl_cons, h, List.reverse_cons, List.lookup_append,
        get_set, Option.or_assoc, lookup_cons_eq]
      by_cases hx : x = k <;> simp [hx]

theorem get_ofList (es : List (κ × α)) (x : κ) :
    (ofList es : Dict κ α).get x = es.reverse.lookup x := by
  simp [ofList, get_update]

theorem contains_eq (d : Dict κ α) (k : κ) :
    d.contains k = (d.get k).isSome := rfl

theorem get_eq_some_iff {d : Dict κ α} {k : κ} {v : α} :
    d.get k = some v ↔ (k, v) ∈ d.entries := by
  obtain ⟨es, h⟩ := d
  change es.lookup k = some v ↔ (k, v) ∈ es
  induction es with
  | nil => simp
  | cons e es ih =>
      obtain ⟨k', v'⟩ := e
      rw [List.map_cons, List.nodup_cons] at h
      rw [lookup_cons_eq, List.mem_cons, Prod.mk.injEq]
      by_cases hk : k = k'
      · subst hk
        have hnot : (k, v) ∉ es := fun hmem =>
          h.1 (List.mem_map.mpr ⟨(k, v), hmem, rfl⟩)
        simp [hnot, eq_comm]
      · simp [hk, ih h.2]

theorem get_eq_none_iff {d : Dict κ α} {k : κ} :
    d.get k = none ↔ k ∉ d.keys := by
  rw [Option.eq_none_iff_forall_not_mem]
  simp only [Option.mem_def, get_eq_some_iff, keys, List.mem_map,
    Prod.exists, exists_and_right, exists_eq_right, not_exists]

omit [DecidableEq κ] in
theorem mem_of_lookup [BEq κ] [LawfulBEq κ] {k : κ} {v : α}
    {es : List (κ × α)} (h : es.lookup k = some v) : (k, v) ∈ es := by
  obtain ⟨_, _, hsplit, _⟩ := List.lookup_eq_some_iff.mp h
  simp [hsplit]

theorem lookup_of_mem {k : κ} {v : α} {es : List (κ × α)}
    (hes : (es.map Prod.fst).Nodup) (h : (k, v) ∈ es) :
    es.lookup k = some v :=
  get_eq_some_iff (d := ⟨es, hes⟩).mpr h

theorem mem_of_get_ofList {k : κ} {v : α} {es : List (κ × α)}
    (h : (ofList es).get k = some v) : (k, v) ∈ es := by
  rw [get_ofList] at h
  exact List.mem_reverse.mp (mem_of_lookup h)

/-- A list without repeated keys is read the same from both ends. -/
theorem lookup_reverse {es : List (κ × α)}
    (h : (es.map Prod.fst).Nodup) (x : κ) :
    es.reverse.lookup x = es.lookup x := by
  have hrev : ((es.reverse).map Prod.fst).Nodup := by
    rw [List.map_reverse]
    exact List.nodup_reverse.mpr h
  apply Option.ext
  intro v
  have hfwd := get_eq_some_iff (d := ⟨es, h⟩) (k := x) (v := v)
  have hbwd := get_eq_some_iff (d := ⟨es.reverse, hrev⟩) (k := x) (v := v)
  change es.lookup x = some v ↔ (x, v) ∈ es at hfwd
  change es.reverse.lookup x = some v ↔ (x, v) ∈ es.reverse at hbwd
  rw [hbwd, hfwd, List.mem_reverse]

theorem get_update_entries (d m : Dict κ α) (x : κ) :
    (d.update m.entries).get x = (m.get x).or (d.get x) := by
  rw [get_update, lookup_reverse m.nodup]
  rfl

/-! ## Rebuilding a dictionary from its pairs -/

theorem setEntries_of_notMem {k : κ} {v : α} {es : List (κ × α)}
    (h : k ∉ es.map Prod.fst) :
    setEntries k v es = es ++ [(k, v)] := by
  induction es with
  | nil => rfl
  | cons e es ih =>
      obtain ⟨k', v'⟩ := e
      rw [List.map_cons, List.mem_cons, not_or] at h
      rw [setEntries, if_neg (Ne.symm h.1), ih h.2, List.cons_append]

theorem entries_update_of_fresh (d : Dict κ α) (es : List (κ × α))
    (h : ((d.entries ++ es).map Prod.fst).Nodup) :
    (d.update es).entries = d.entries ++ es := by
  induction es generalizing d with
  | nil => simp [update]
  | cons e es ih =>
      obtain ⟨k, v⟩ := e
      have hk : k ∉ d.entries.map Prod.fst := by
        rw [List.map_append, List.map_cons] at h
        have hdis := (List.nodup_append.mp h).2.2
        intro hmem
        exact hdis k hmem k List.mem_cons_self rfl
      have hset : (d.set k v).entries = d.entries ++ [(k, v)] :=
        setEntries_of_notMem hk
      have hrec := ih (d.set k v) (by
        rw [hset, List.append_assoc]
        exact h)
      rw [update] at hrec ⊢
      rw [List.foldl_cons, hrec, hset, List.append_assoc, List.cons_append,
        List.nil_append]

@[simp] theorem ofList_entries (d : Dict κ α) : ofList d.entries = d := by
  apply Dict.ext
  exact entries_update_of_fresh empty d.entries (by simpa [empty] using d.nodup)

omit [DecidableEq κ] in
@[simp] theorem isEmpty_empty : (empty : Dict κ α).isEmpty = true := rfl

omit [DecidableEq κ] in
theorem isEmpty_iff {d : Dict κ α} : d.isEmpty = true ↔ d = empty := by
  rw [isEmpty, List.isEmpty_iff, Dict.ext_iff]
  rfl

theorem erase_eq_self {d : Dict κ α} {k : κ} (h : d.get k = none) :
    d.erase k = d := by
  rw [get_eq_none_iff] at h
  apply Dict.ext
  rw [erase, filter, List.filter_eq_self]
  intro e he
  rw [decide_eq_true_iff]
  rintro rfl
  exact h (List.mem_map_of_mem he)

theorem isEmpty_eq_false_of_get {d : Dict κ α} {k : κ} {v : α}
    (h : d.get k = some v) : d.isEmpty = false := by
  rw [Bool.eq_false_iff, ne_eq, isEmpty_iff]
  rintro rfl
  simp at h

/-- Assigning what is there changes nothing. -/
theorem set_of_get {d : Dict κ α} {k : κ} {v : α} (h : d.get k = some v) :
    d.set k v = d := by
  obtain ⟨es, hes⟩ := d
  apply Dict.ext
  change setEntries k v es = es
  change es.lookup k = some v at h
  clear hes
  induction es with
  | nil => cases h
  | cons e es ih =>
      obtain ⟨k', v'⟩ := e
      rw [lookup_cons_eq] at h
      by_cases hk : k = k'
      · rw [if_pos hk, Option.some.injEq] at h
        rw [setEntries, if_pos hk.symm, hk, h]
      · rw [if_neg hk] at h
        rw [setEntries, if_neg (Ne.symm hk), ih h]

@[simp] theorem isEmpty_set (d : Dict κ α) (k : κ) (v : α) :
    (d.set k v).isEmpty = false :=
  isEmpty_eq_false_of_get (get_set_self d k v)

/-! ## Lists made of the pairs -/

section FilterMap

variable {β : Type*} {g : κ × α → Option β} {s k : κ} {r v : α}
  {p q : κ × α → Bool} {es : List (κ × α)}

theorem filterMap_setEntries_of_none (h : ∀ v, g (k, v) = none) :
    (setEntries k v es).filterMap g = es.filterMap g := by
  induction es with
  | nil => simp [setEntries, h]
  | cons e es ih =>
      obtain ⟨k', v'⟩ := e
      by_cases hk : k' = k
      · subst hk
        simp [setEntries, h]
      · rw [setEntries, if_neg hk, List.filterMap_cons, ih,
          List.filterMap_cons]

/-- Assigning to a key of no account leaves the place of another key. -/
theorem filterMap_setEntries_setEntries (hne : k ≠ s)
    (h : ∀ v, g (k, v) = none) :
    (setEntries s r (setEntries k v es)).filterMap g =
      (setEntries s r es).filterMap g := by
  induction es with
  | nil => simp [setEntries, hne, h]
  | cons e es ih =>
      obtain ⟨k', v'⟩ := e
      by_cases hk : k' = k
      · subst hk
        simp [setEntries, hne, h]
      · rw [setEntries, if_neg hk]
        by_cases hs : k' = s
        · rw [setEntries, if_pos hs, setEntries, if_pos hs,
            List.filterMap_cons, filterMap_setEntries_of_none h,
            List.filterMap_cons]
        · rw [setEntries, if_neg hs, setEntries, if_neg hs,
            List.filterMap_cons, ih, List.filterMap_cons]

theorem filterMap_update_of_none {d : Dict κ α}
    (h : ∀ e ∈ es, ∀ v, g (e.1, v) = none) :
    (d.update es).entries.filterMap g = d.entries.filterMap g := by
  induction es generalizing d with
  | nil => rfl
  | cons e es ih =>
      rw [List.forall_mem_cons] at h
      change ((d.set e.1 e.2).update es).entries.filterMap g = _
      rw [ih h.2]
      exact filterMap_setEntries_of_none h.1

/-- Of several assignments only the one to `s` is of account. -/
theorem filterMap_update {d : Dict κ α} (hes : (es.map Prod.fst).Nodup)
    (hmem : (s, r) ∈ es) (h : ∀ e ∈ es, e.1 ≠ s → ∀ v, g (e.1, v) = none) :
    (d.update es).entries.filterMap g = (d.set s r).entries.filterMap g := by
  induction es generalizing d with
  | nil => contradiction
  | cons e es ih =>
      obtain ⟨k, v⟩ := e
      rw [List.map_cons, List.nodup_cons] at hes
      rw [List.forall_mem_cons] at h
      change ((d.set k v).update es).entries.filterMap g = _
      rcases List.mem_cons.mp hmem with heq | hmem
      · obtain ⟨rfl, rfl⟩ := Prod.mk.inj heq
        apply filterMap_update_of_none
        intro e he
        refine h.2 e he fun heq => hes.1 ?_
        exact List.mem_map.mpr ⟨e, he, heq⟩
      · have hne : k ≠ s := by
          rintro rfl
          exact hes.1 (List.mem_map.mpr ⟨_, hmem, rfl⟩)
        rw [ih hes.2 hmem h.2]
        exact filterMap_setEntries_setEntries hne (h.1 hne)

omit [DecidableEq κ] in
theorem filterMap_filter_congr (h : ∀ e ∈ es, g e ≠ none → p e = q e) :
    (es.filter p).filterMap g = (es.filter q).filterMap g := by
  rw [List.filterMap_filter, List.filterMap_filter]
  apply List.filterMap_congr
  intro e he
  cases hg : g e with
  | none => simp
  | some b => rw [h e he (by simp [hg])]

theorem filterMap_setEntries_filter (hs : ∀ v, p (s, v) = q (s, v))
    (h : ∀ e ∈ es, g e ≠ none → p e = q e) :
    (setEntries s r (es.filter p)).filterMap g =
      (setEntries s r (es.filter q)).filterMap g := by
  induction es with
  | nil => rfl
  | cons e es ih =>
      obtain ⟨k, v⟩ := e
      rw [List.forall_mem_cons] at h
      by_cases hk : k = s
      · subst hk
        rw [List.filter_cons, List.filter_cons, hs]
        split
        · rw [setEntries, if_pos rfl, setEntries, if_pos rfl,
            List.filterMap_cons, filterMap_filter_congr h.2,
            List.filterMap_cons]
        · exact ih h.2
      · have hcons (p : κ × α → Bool) :
            (setEntries s r (((k, v) :: es).filter p)).filterMap g =
              (if p (k, v) then (g (k, v)).toList else []) ++
                (setEntries s r (es.filter p)).filterMap g := by
          rw [List.filter_cons]
          split
          · rw [setEntries, if_neg hk, List.filterMap_cons]
            cases g (k, v) <;> rfl
          · rfl
        rw [hcons, hcons, ih h.2]
        cases hg : g (k, v) with
        | none => simp
        | some b => rw [h.1 (by simp [hg])]

end FilterMap

end Dict

end Support
