import PyAuth.Client.AuthClient
import PyAuth.Sdk.Products
import PyAuth.Sdk.Rewriting

/-!
# The table in a file

`tableOf` is the table a root stands for.  Roots in which no product is
carried twice, all languages trim the names alike, nothing is assigned to
`__proto__` and the rows hold numbers that doubles represent stand for the same
table in every SDK, and remain such roots when a row is rewritten.
-/

namespace PyAuth.Sdk

open Support Client

/-! ## Fields of a row -/

/-- The fields of a row of a file. -/
def fieldsOf (row : Row) : Fields := fun k => (row.get k).map Json.byValue

/-- The table a root stands for. -/
def tableOf (root : Root) : Table := fun t =>
  ((Client.loadAppsMap root).get t).map fieldsOf

section Fields

variable {row : Row} {k : String} {v : Json}

@[simp] theorem fieldsOf_empty : fieldsOf .empty = Fields.empty := by
  funext k
  simp [fieldsOf, Fields.empty]

theorem fieldsOf_set (row : Row) (k : String) (v : Json) :
    fieldsOf (row.set k v) = (fieldsOf row).set k v.byValue := by
  funext x
  rw [fieldsOf, Dict.get_set, Fields.set]
  split <;> rfl

theorem fieldsOf_eraseAll (row : Row) (ks : List String) :
    fieldsOf (row.eraseAll ks) = (fieldsOf row).eraseAll ks := by
  funext x
  rw [fieldsOf, Dict.get_eraseAll, Fields.eraseAll]
  split <;> rfl

theorem fieldsOf_getD (row : Option Row) :
    fieldsOf (row.getD .empty) = (row.map fieldsOf).getD .empty := by
  cases row <;> simp

end Fields

/-! ## Numbers which doubles represent -/

/-- All numbers of the value are finite doubles. -/
structure Representable (v : Json) : Prop where
  finite : v.asDoubles.allNumbers Json.finiteNumber = true
  exact : v.asDoubles = v.byValue

theorem asDoubles_asDoubles (v : Json) : v.asDoubles.asDoubles = v.asDoubles :=
  Json.mapNumbers_mapNumbers v

theorem representable_str (s : String) : Representable (.str s) := by
  constructor <;>
    simp only [Json.asDoubles, Json.byValue, Json.mapNumbers, Json.allNumbers]

theorem representable_float (q : ℚ) : Representable (.float (.fin q)) := by
  constructor <;>
    simp only [Json.asDoubles, Json.byValue, Json.mapNumbers,
      Json.allNumbers, Json.finiteNumber]

theorem ofInt_of_le {n : ℤ} (h : 0 ≤ n) (hn : n ≤ 2 ^ 53) :
    Double.ofInt n = .fin n := by
  rcases lt_or_eq_of_le hn with hlt | rfl
  · apply Double.ofInt_of_natAbs_lt
    omega
  · decide +kernel

theorem representable_int {n : ℤ} (h : 0 ≤ n) (hn : n ≤ 2 ^ 53) :
    Representable (.int n) := by
  have hdouble : (Json.int n).asDoubles = .float (.fin n) := by
    rw [Json.asDoubles, Json.mapNumbers, ofInt_of_le h hn]
  constructor
  · rw [hdouble]
    rfl
  · rw [hdouble, Json.byValue, Json.mapNumbers]

namespace Representable

theorem asDoubles {v : Json} (h : Representable v) :
    Representable v.asDoubles := by
  constructor
  · rw [asDoubles_asDoubles]
    exact h.finite
  · rw [asDoubles_asDoubles, Json.byValue_asDoubles]

theorem ofDict {d : Dict String Json}
    (h : ∀ k v, d.get k = some v → Representable v) :
    Representable (.ofDict d) := by
  constructor
  · rw [Json.asDoubles_ofDict, Json.allNumbers_ofDict]
    intro k v hk
    rw [Dict.get_mapValues, Option.map_eq_some_iff] at hk
    obtain ⟨w, hw, rfl⟩ := hk
    exact (h k w hw).finite
  · rw [Json.asDoubles_ofDict, Json.byValue_ofDict]
    have hvalues : d.mapValues Json.asDoubles = d.mapValues Json.byValue := by
      apply Dict.ext
      simp only [Dict.mapValues]
      apply List.map_congr_left
      rintro ⟨k, v⟩ hmem
      rw [(h k v (Dict.get_eq_some_iff.mpr hmem)).exact]
    rw [hvalues]

end Representable

/-- A row as the SDKs read it. -/
structure SoundRow (row : Row) : Prop where
  representable : ∀ k v, row.get k = some v → Representable v
  unnamed : row.get "software_name" = none

namespace SoundRow

variable {row : Row}

theorem empty : SoundRow .empty :=
  ⟨fun k v h => by simp at h, Dict.get_empty _⟩

theorem set (h : SoundRow row) {k : String} {v : Json}
    (hk : k ≠ "software_name") (hv : Representable v) :
    SoundRow (row.set k v) := by
  constructor
  · intro x w hx
    rw [Dict.get_set] at hx
    split at hx
    · exact Option.some.inj hx ▸ hv
    · exact h.representable x w hx
  · rw [Dict.get_set_of_ne (Ne.symm hk)]
    exact h.unnamed

theorem eraseAll (h : SoundRow row) (ks : List String) :
    SoundRow (row.eraseAll ks) := by
  constructor
  · intro x w hx
    rw [Dict.get_eraseAll] at hx
    split at hx
    · contradiction
    · exact h.representable x w hx
  · rw [Dict.get_eraseAll]
    split
    · rfl
    · exact h.unnamed

end SoundRow

/-! ## Clean roots -/

/-- A root which stands for the same table in every SDK. -/
structure Clean (root : Root) : Prop where
  distinct : Distinct Python.isSpace root
  alike : ∀ k v, root.get k = some v → v.isDict = true → TrimsAlike k
  noProto : NoProto root
  finite : ∀ k v, root.get k = some v →
    v.asDoubles.allNumbers Json.finiteNumber = true
  exact : ∀ t row, (Client.loadAppsMap root).get t = some row →
    ∀ k v, row.get k = some v → v.asDoubles = v.byValue

/-- Whether a root is clean can be computed. -/
theorem clean_iff {root : Root} :
    Clean root ↔
      (∀ e ∈ root.entries, ∀ e' ∈ root.entries,
        ∀ r ∈ appRow? Python.isSpace e, ∀ r' ∈ appRow? Python.isSpace e',
          r.1 = r'.1 → e.1 = e'.1) ∧
      (∀ e ∈ root.entries, e.2.isDict = true → TrimsAlike e.1) ∧
      (∀ e ∈ root.entries, ∀ r ∈ appRow? TypeScript.isSpace e,
        r.1 ≠ "__proto__") ∧
      (∀ e ∈ root.entries,
        e.2.asDoubles.allNumbers Json.finiteNumber = true) ∧
      ∀ app ∈ (Client.loadAppsMap root).entries, ∀ e ∈ app.2.entries,
        e.2.asDoubles = e.2.byValue := by
  constructor
  · intro h
    refine ⟨?_, ?_, ?_, ?_, ?_⟩
    · rintro ⟨k, v⟩ hk ⟨k', v'⟩ hk' ⟨t, row⟩ hrow ⟨t', row'⟩ hrow' rfl
      exact h.distinct (Dict.get_eq_some_iff.mpr hk) hrow
        (Dict.get_eq_some_iff.mpr hk') hrow'
    · rintro ⟨k, v⟩ hk
      exact h.alike k v (Dict.get_eq_some_iff.mpr hk)
    · rintro ⟨k, v⟩ hk ⟨t, row⟩ hrow
      exact h.noProto k v t row (Dict.get_eq_some_iff.mpr hk) hrow
    · rintro ⟨k, v⟩ hk
      exact h.finite k v (Dict.get_eq_some_iff.mpr hk)
    · rintro ⟨t, row⟩ ht ⟨k, v⟩ hk
      exact h.exact t row (Dict.get_eq_some_iff.mpr ht) k v
        (Dict.get_eq_some_iff.mpr hk)
  · rintro ⟨hdistinct, halike, hproto, hfinite, hexact⟩
    constructor
    · intro k v k' v' t row row' hk hrow hk' hrow'
      exact hdistinct (k, v) (Dict.get_eq_some_iff.mp hk) (k', v')
        (Dict.get_eq_some_iff.mp hk') _ hrow _ hrow' rfl
    · intro k v hk
      exact halike (k, v) (Dict.get_eq_some_iff.mp hk)
    · intro k v t row hk hrow
      exact hproto (k, v) (Dict.get_eq_some_iff.mp hk) _ hrow
    · intro k v hk
      exact hfinite (k, v) (Dict.get_eq_some_iff.mp hk)
    · intro t row ht k v hk
      exact hexact (t, row) (Dict.get_eq_some_iff.mp ht) (k, v)
        (Dict.get_eq_some_iff.mp hk)

instance : DecidablePred Clean := fun _ => decidable_of_iff _ clean_iff.symm

section Clean

variable {root m root' : Root} {load : String → Option Row} {t : String}
  {row : Row}

/-- Every SDK loads the rows which Python loads. -/
theorem Clean.loads_go (h : Clean root) (range : Go.Range) :
    Loads Python.isSpace root (Go.loadAppsMap range root).get :=
  (Sdk.loads_go range root).congr fun k v hk hv => (h.alike k v hk hv).1

theorem Clean.loads_typeScript (h : Clean root) :
    Loads Python.isSpace root (TypeScript.loadAppsMap root).own.get :=
  (Sdk.loads_typeScript h.noProto).congr fun k v hk hv =>
    (h.alike k v hk hv).2

theorem Clean.load_eq (h : Clean root) (hload : Loads Python.isSpace root load) :
    load = (Client.loadAppsMap root).get :=
  hload.eq_of_distinct (loads_python root) h.distinct

theorem Clean.soundRow (h : Clean root)
    (ht : (Client.loadAppsMap root).get t = some row) : SoundRow row := by
  obtain ⟨k, v, hk, happ⟩ := (loads_python root).sound ht
  obtain ⟨-, -, -, d, hd, rfl⟩ := appRow?_eq_some_iff.mp happ
  constructor
  · intro x w hx
    refine ⟨?_, h.exact t _ ht x w hx⟩
    have hdict : v.asDoubles.dict? = some (d.mapValues Json.asDoubles) := by
      rw [Json.dict?_asDoubles, hd, Option.map_some]
    have hall := Json.allNumbers_of_dict? hdict (h.finite k v hk)
    rw [Dict.get_erase] at hx
    split at hx
    · contradiction
    · rw [Json.allNumbers_ofDict] at hall
      apply hall x
      rw [Dict.get_mapValues, hx]
      rfl
  · exact Dict.get_erase_self _ _

theorem Clean.soundRow_own (h : Clean root) (s : String) :
    SoundRow (((Client.loadAppsMap root).get s).getD .empty) := by
  cases hs : (Client.loadAppsMap root).get s with
  | none => exact .empty
  | some row => exact h.soundRow hs

theorem own_tableOf (root : Root) (s : String) :
    (tableOf root).own s =
      fieldsOf (((Client.loadAppsMap root).get s).getD .empty) :=
  (fieldsOf_getD _).symm

/-! ## Reading -/

theorem appRow?_asDoubles (isSpace : Char → Bool) (k : String) (v : Json) :
    appRow? isSpace (k, v.asDoubles) = (appRow? isSpace (k, v)).map fun e =>
      (e.1, e.2.mapValues Json.asDoubles) := by
  rw [appRow?, appRow?]
  dsimp only
  rw [Json.dict?_asDoubles]
  split
  · rfl
  · cases v.dict? with
    | none => rfl
    | some d =>
        dsimp only [Option.map_some]
        split
        · rfl
        · rw [Option.map_some, Dict.mapValues_erase]

theorem get_loadAppsMap_asDoubles (root : Root) (t : String) :
    (Client.loadAppsMap (root.mapValues Json.asDoubles)).get t =
      ((Client.loadAppsMap root).get t).map
        (·.mapValues Json.asDoubles) := by
  have hentries : (root.mapValues Json.asDoubles).entries.filterMap
        (appRow? Python.isSpace) =
      (root.entries.filterMap (appRow? Python.isSpace)).map fun e =>
        (e.1, e.2.mapValues Json.asDoubles) := by
    rw [Dict.mapValues, List.filterMap_map, List.map_filterMap]
    congr 1
    funext e
    exact appRow?_asDoubles Python.isSpace e.1 e.2
  rw [Client.loadAppsMap, hentries,
    ← Dict.mapValues_ofList fun row : Row => row.mapValues Json.asDoubles,
    Dict.get_mapValues]
  rfl

theorem clean_asDoubles (h : Clean root) :
    Clean (root.mapValues Json.asDoubles) := by
  have hget : ∀ {k v}, (root.mapValues Json.asDoubles).get k = some v →
      ∃ w, root.get k = some w ∧ w.asDoubles = v := by
    intro k v hk
    rwa [Dict.get_mapValues, Option.map_eq_some_iff] at hk
  have happ : ∀ {isSpace k w t row},
      appRow? isSpace (k, Json.asDoubles w) = some (t, row) →
        ∃ row', appRow? isSpace (k, w) = some (t, row') := by
    intro isSpace k w t row h
    rw [appRow?_asDoubles, Option.map_eq_some_iff] at h
    obtain ⟨⟨t', row'⟩, h', heq⟩ := h
    obtain ⟨rfl, -⟩ := Prod.mk.inj heq
    exact ⟨row', h'⟩
  constructor
  · intro k v k' v' t row row' hk hrow hk' hrow'
    obtain ⟨w, hw, rfl⟩ := hget hk
    obtain ⟨w', hw', rfl⟩ := hget hk'
    obtain ⟨r, hr⟩ := happ hrow
    obtain ⟨r', hr'⟩ := happ hrow'
    exact h.distinct hw hr hw' hr'
  · intro k v hk hdict
    obtain ⟨w, hw, rfl⟩ := hget hk
    rw [Json.isDict, Json.dict?_asDoubles, Option.isSome_map] at hdict
    exact h.alike k w hw hdict
  · intro k v t row hk hrow
    obtain ⟨w, hw, rfl⟩ := hget hk
    obtain ⟨r, hr⟩ := happ hrow
    exact h.noProto k w t r hw hr
  · intro k v hk
    obtain ⟨w, hw, rfl⟩ := hget hk
    rw [asDoubles_asDoubles]
    exact h.finite k w hw
  · intro t row ht k v hk
    rw [get_loadAppsMap_asDoubles, Option.map_eq_some_iff] at ht
    obtain ⟨r, -, rfl⟩ := ht
    rw [Dict.get_mapValues, Option.map_eq_some_iff] at hk
    obtain ⟨w, -, rfl⟩ := hk
    rw [asDoubles_asDoubles, Json.byValue_asDoubles]

theorem tableOf_asDoubles (h : Clean root) :
    tableOf (root.mapValues Json.asDoubles) = tableOf root := by
  funext t
  rw [tableOf, tableOf, get_loadAppsMap_asDoubles, Option.map_map]
  cases ht : (Client.loadAppsMap root).get t with
  | none => rfl
  | some row =>
      rw [Option.map_some, Option.map_some, Option.some.injEq]
      funext k
      simp only [Function.comp_apply, fieldsOf, Dict.get_mapValues,
        Option.map_map]
      cases hk : row.get k with
      | none => rfl
      | some v =>
          rw [Option.map_some, Option.map_some, Function.comp_apply,
            Json.byValue_asDoubles, h.exact t row ht k v hk]

theorem clean_eraseAll (h : Clean root) {ks : List String}
    (hks : ∀ k ∈ ks, k ∈ reservedRootKeys) : Clean (root.eraseAll ks) := by
  have hget : ∀ {k v}, (root.eraseAll ks).get k = some v →
      root.get k = some v := by
    intro k v hk
    rw [Dict.get_eraseAll] at hk
    split at hk
    · contradiction
    · exact hk
  constructor
  · intro k v k' v' t row row' hk hrow hk' hrow'
    exact h.distinct (hget hk) hrow (hget hk') hrow'
  · intro k v hk
    exact h.alike k v (hget hk)
  · intro k v t row hk hrow
    exact h.noProto k v t row (hget hk) hrow
  · intro k v hk
    exact h.finite k v (hget hk)
  · intro t row ht
    rw [Client.loadAppsMap_eraseAll hks] at ht
    exact h.exact t row ht

theorem tableOf_eraseAll {ks : List String}
    (hks : ∀ k ∈ ks, k ∈ reservedRootKeys) :
    tableOf (root.eraseAll ks) = tableOf root := by
  funext t
  rw [tableOf, tableOf, Client.loadAppsMap_eraseAll hks]

theorem clean_erase_deviceId (h : Clean root) :
    Clean (root.erase "device_id") :=
  show Clean (root.eraseAll ["device_id"]) from
    clean_eraseAll h (by decide)

theorem tableOf_erase_deviceId :
    tableOf (root.erase "device_id") = tableOf root :=
  show tableOf (root.eraseAll ["device_id"]) = tableOf root from
    tableOf_eraseAll (by decide)

/-! ## Rewriting -/

/-- Rewriting a row of a clean root stores it in the table. -/
theorem tableOf_rewritten (hm : Clean m)
    (hload : Loads Python.isSpace m load) {s : String} (hs : IsProductKey s)
    (hrow : SoundRow row) (h : Rewritten m load s row root') :
    tableOf root' = (tableOf m).store s (fieldsOf row) := by
  funext t
  rw [tableOf, h.load_eq hload hs (loads_python root') t, Table.store,
    hm.load_eq hload]
  by_cases hts : t = s
  · rw [if_pos hts, if_pos hts, Option.map_some,
      Dict.erase_eq_self hrow.unnamed]
  · rw [if_neg hts, if_neg hts]
    split <;> rfl

/-- The names of a rewritten root are still trimmed alike. -/
theorem alike_rewritten (hm : Clean m) (hload : Loads Python.isSpace m load)
    {s : String} (hs : TrimsAlike s) (h : Rewritten m load s row root')
    {k : String} {v : Json} (hk : root'.get k = some v)
    (hdict : v.isDict = true) : TrimsAlike k := by
  obtain ⟨d, hd⟩ := Option.isSome_iff_exists.mp hdict
  rcases h.members hk hd with ⟨rfl, -⟩ | ⟨-, hget⟩ | ⟨-, -, hget⟩
  · exact hs
  · obtain ⟨k', v', hk', happ⟩ := hload.sound hget
    obtain ⟨-, rfl, -, d', hd', -⟩ := appRow?_eq_some_iff.mp happ
    exact trimsAlike_strip (hm.alike k' v' hk' (by simp [Json.isDict, hd']))
  · exact hm.alike k v hget hdict

theorem clean_rewritten (hm : Clean m) (hload : Loads Python.isSpace m load)
    {s : String} (hs : IsProductKey s) (halike : TrimsAlike s)
    (hproto : s ≠ "__proto__") (hrow : SoundRow row)
    (h : Rewritten m load s row root') : Clean root' := by
  obtain rfl := hm.load_eq hload
  constructor
  · exact h.distinct hload hs
  · exact fun k v => alike_rewritten hm hload halike h
  · intro k v t d hk happ
    rw [← appRow?_congr fun hdict =>
      (alike_rewritten hm hload halike h hk hdict).2.symm] at happ
    obtain ⟨rfl, ⟨rfl, -⟩ | ⟨-, ht⟩⟩ := h.appRow?_eq hload hs hk happ
    · exact hproto
    · obtain ⟨k', v', hk', happ'⟩ := hload.sound ht
      rw [appRow?_congr fun hdict => (hm.alike k' v' hk' hdict).2.symm] at happ'
      exact hm.noProto k' v' k d hk' happ'
  · intro k v hk
    rw [h k] at hk
    cases hrow' : (if k = s then some row
        else (Client.loadAppsMap m).get k) with
    | some row' =>
        rw [hrow', Option.map_some, Option.some_or, Option.some.injEq] at hk
        have hsound : SoundRow row' := by
          split at hrow'
          · exact Option.some.inj hrow' ▸ hrow
          · exact hm.soundRow hrow'
        rw [← hk]
        exact (Representable.ofDict hsound.representable).finite
    | none =>
        rw [hrow', Option.map_none, Option.none_or] at hk
        split at hk
        · contradiction
        · exact hm.finite k v (Option.filter_eq_some_iff.mp hk).1
  · intro t d ht
    rw [h.load_eq hload hs (loads_python root') t] at ht
    have hsound : SoundRow d := by
      split at ht
      · rw [Dict.erase_eq_self hrow.unnamed] at ht
        exact Option.some.inj ht ▸ hrow
      · split at ht
        · contradiction
        · exact hm.soundRow ht
    exact fun k v hk => (hsound.representable k v hk).exact

end Clean

/-! ## Files -/

/-- The file holds a clean root which stands for the table. -/
def Stands (file : StateFile) (T : Table) : Prop :=
  ∃ root, file.content = some root ∧ Clean root ∧ tableOf root = T

/-- What Go and TypeScript read of a root. -/
def readRoot (root : Root) : Root :=
  (root.mapValues Json.asDoubles).erase "device_id"

section Files

variable {root : Root} {t : String} {row : Row}

/-- The file is that of its table. -/
theorem Stands.eq_root {file : StateFile} {T : Table} (h : Stands file T) :
    ∃ root, file = .root root ∧ Clean root ∧ tableOf root = T := by
  obtain ⟨root, hroot, hclean, htable⟩ := h
  cases file with
  | root d =>
      obtain rfl := Option.some.inj hroot
      exact ⟨d, rfl, hclean, htable⟩
  | absent | unreadable => contradiction

theorem clean_readRoot (h : Clean root) : Clean (readRoot root) :=
  clean_erase_deviceId (clean_asDoubles h)

theorem tableOf_readRoot (h : Clean root) :
    tableOf (readRoot root) = tableOf root := by
  rw [readRoot, tableOf_erase_deviceId, tableOf_asDoubles h]

/-- The rows they read hold their fields. -/
theorem get_of_load_readRoot
    (ht : (Client.loadAppsMap (readRoot root)).get t = some row) :
    row.get = fieldsOf row := by
  funext k
  rw [readRoot, loadAppsMap_erase (by decide), get_loadAppsMap_asDoubles,
    Option.map_eq_some_iff] at ht
  obtain ⟨r, -, rfl⟩ := ht
  rw [fieldsOf, Dict.get_mapValues, Option.map_map]
  cases r.get k with
  | none => rw [Option.map_none, Option.map_none]
  | some v =>
      rw [Option.map_some, Option.map_some, Function.comp_apply,
        Json.byValue_asDoubles]

end Files

/-! ## Replies -/

/-- A result without its message. -/
def verdictOf (result : AuthResult) : Verdict :=
  ⟨result.authorized, result.success, result.fromCache⟩

/-- The answer a result reports, if there was one. -/
def answerOf (result : AuthResult) : Option Bool :=
  if result.success then some result.authorized else none

/-- The verdict of a heartbeat. -/
theorem verdictOf_toResult (answer : Answer) :
    verdictOf answer.toResult =
      match answerOf answer.toResult with
      | some authorized => ⟨authorized, true, false⟩
      | none => ⟨false, false, false⟩ := by
  cases answer <;> rfl

theorem answerOf_eq_some {result : AuthResult} {authorized : Bool} :
    answerOf result = some authorized ↔
      result.success = true ∧ result.authorized = authorized := by
  rw [answerOf, Option.ite_none_right_eq_some, Option.some.injEq]

theorem answerOf_eq_none {result : AuthResult} :
    answerOf result = none ↔ result.success = false := by
  rw [answerOf]
  cases result.success <;> simp

/-- The information of a client as a field. -/
def infoOf (info : Dict String Json) : Json := (Json.ofDict info).byValue

/-- An information which every SDK stores as it is. -/
structure Storable (info : Dict String Json) : Prop where
  representable : Representable (.ofDict info)
  nonempty : info.isEmpty = false

theorem Storable.asDoubles_eq {info : Dict String Json} (h : Storable info) :
    Json.ofDict (info.mapValues Json.asDoubles) = infoOf info := by
  rw [← Json.asDoubles_ofDict, h.representable.exact, infoOf]

end PyAuth.Sdk
