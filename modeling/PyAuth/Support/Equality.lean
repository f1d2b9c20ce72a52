import PyAuth.Support.Numbers
import PyAuth.Support.Python

/-!
# Deep equality of JSON values

Python's `==` compares numbers by value and dictionaries regardless of order.
Two dictionaries are equal when they compare equal under every key, where what
is identical counts as equal.  The comparison is transitive; on values which
repeat no key it is symmetric, and every one but NaN equals itself.
-/

namespace Support

namespace Json

/-! ## Values without repeated keys -/

mutual

/-- No object inside the value repeats a key. -/
def distinctKeys : Json → Bool
  | .null | .bool _ | .int _ | .float _ | .str _ => true
  | .arr items => distinctItems items
  | .obj members =>
      decide (members.map Prod.fst).Nodup && distinctMembers members

def distinctItems : List Json → Bool
  | [] => true
  | v :: vs => distinctKeys v && distinctItems vs

def distinctMembers : List (String × Json) → Bool
  | [] => true
  | (_, v) :: es => distinctKeys v && distinctMembers es

end

theorem distinctMembers_iff {es : List (String × Json)} :
    distinctMembers es = true ↔ ∀ e ∈ es, e.2.distinctKeys = true := by
  induction es with
  | nil => simp [distinctMembers]
  | cons e es ih => simp [distinctMembers, ih]

theorem distinctKeys_ofDict_iff {d : Dict String Json} :
    (ofDict d).distinctKeys = true ↔
      ∀ k v, d.get k = some v → v.distinctKeys = true := by
  rw [ofDict, distinctKeys, decide_eq_true d.nodup, Bool.true_and,
    distinctMembers_iff]
  simp [Dict.get_eq_some_iff]

end Json

namespace Python

/-! ## What is compared -/

theorem numberEq_iff {x y : Double} :
    numberEq x y = true ↔ x = y ∧ x ≠ .nan := by
  cases x <;> cases y <;> simp [numberEq]

theorem eq_arr_iff {as : List Json} {b : Json} :
    eq (.arr as) b = true ↔ ∃ bs, b = .arr bs ∧ eqItems as bs = true := by
  cases b <;> simp [eq, number?]

theorem eq_obj_iff {as : List (String × Json)} {b : Json} :
    eq (.obj as) b = true ↔
      ∃ bs, b = .obj bs ∧ as.length = bs.length ∧
        eqMembers as bs = true := by
  cases b <;> simp [eq, number?]

@[simp] theorem eq_null_iff {b : Json} : eq .null b = true ↔ b = .null := by
  cases b <;> simp [eq, number?]

@[simp] theorem eq_str_iff {s : String} {b : Json} :
    eq (.str s) b = true ↔ b = .str s := by
  cases b <;> simp [eq, number?, eq_comm]

/-- Whatever is equal to a number is the same number. -/
theorem eq_number_iff {a b : Json} {x : Double} (ha : number? a = some x) :
    eq a b = true ↔ number? b = some x ∧ x ≠ .nan := by
  have heq : eq a b = true ↔ ∃ y, number? b = some y ∧ numberEq x y = true := by
    cases a <;> cases b <;> simp_all [eq, number?]
  rw [heq]
  constructor
  · rintro ⟨y, hb, hxy⟩
    obtain ⟨rfl, hx⟩ := numberEq_iff.mp hxy
    exact ⟨hb, hx⟩
  · rintro ⟨hb, hx⟩
    exact ⟨x, hb, numberEq_iff.mpr ⟨rfl, hx⟩⟩

theorem eqMembers_iff {as bs : List (String × Json)} :
    eqMembers as bs = true ↔
      ∀ k a, (k, a) ∈ as →
        ∃ b, bs.lookup k = some b ∧ itemEq a b = true := by
  induction as with
  | nil => simp [eqMembers]
  | cons e as ih =>
      obtain ⟨k, a⟩ := e
      rw [eqMembers, Bool.and_eq_true, ih]
      constructor
      · rintro ⟨hhead, htail⟩ k' a' hmem
        rcases List.mem_cons.mp hmem with heq | hmem
        · obtain ⟨rfl, rfl⟩ := Prod.mk.inj heq
          cases hlookup : bs.lookup k' with
          | none => simp [hlookup] at hhead
          | some b => exact ⟨b, rfl, by simpa [hlookup, itemEq] using hhead⟩
        · exact htail k' a' hmem
      · intro h
        obtain ⟨b, hlookup, hab⟩ := h k a List.mem_cons_self
        rw [itemEq] at hab
        exact ⟨by simpa [hlookup] using hab,
          fun k' a' hmem => h k' a' (List.mem_cons_of_mem _ hmem)⟩

theorem eqItems_cons_iff {a b : Json} {as bs : List Json} :
    eqItems (a :: as) (b :: bs) = true ↔
      itemEq a b = true ∧ eqItems as bs = true := by
  rw [eqItems, Bool.and_eq_true, itemEq]

/-- Inside a container NaN is equal to NaN, and anything else as outside. -/
theorem itemEq_iff {a b : Json} :
    itemEq a b = true ↔
      (a = .float .nan ∧ b = .float .nan) ∨ eq a b = true := by
  rw [itemEq, sameNan, Bool.or_eq_true, decide_eq_true_iff]

@[simp] theorem itemEq_ofDict (a : Dict String Json) (b : Json) :
    itemEq (.ofDict a) b = eq (.ofDict a) b := rfl

/-! ## Laws -/

theorem number_trans {a b c : Json} {x : Double} (ha : number? a = some x)
    (hab : eq a b = true) (hbc : eq b c = true) : eq a c = true := by
  obtain ⟨hb, hx⟩ := (eq_number_iff ha).mp hab
  exact (eq_number_iff ha).mpr ((eq_number_iff hb).mp hbc)

/-- Nothing is equal to NaN, and NaN to nothing. -/
theorem eq_nan_left {b : Json} : ¬eq (.float .nan) b = true := by
  rw [eq_number_iff rfl]
  exact fun h => h.2 rfl

theorem eq_nan_right {a : Json} : ¬eq a (.float .nan) = true := by
  cases a <;> simp [eq, number?, numberEq_iff]

theorem itemEq_trans {a b c : Json}
    (htrans : eq a b = true → eq b c = true → eq a c = true)
    (hab : itemEq a b = true) (hbc : itemEq b c = true) :
    itemEq a c = true := by
  rw [itemEq_iff] at hab hbc ⊢
  rcases hab with ⟨rfl, rfl⟩ | hab
  · rcases hbc with ⟨-, rfl⟩ | hbc
    · exact Or.inl ⟨rfl, rfl⟩
    · exact (eq_nan_left hbc).elim
  · rcases hbc with ⟨rfl, rfl⟩ | hbc
    · exact (eq_nan_right hab).elim
    · exact Or.inr (htrans hab hbc)

theorem itemEq_symm {a b : Json} (hsymm : eq a b = true → eq b a = true)
    (h : itemEq a b = true) : itemEq b a = true := by
  rw [itemEq_iff] at h ⊢
  exact h.imp And.symm hsymm

mutual

theorem eq_trans {a b c : Json} (hab : eq a b = true) (hbc : eq b c = true) :
    eq a c = true := by
  cases a with
  | arr as =>
      obtain ⟨bs, rfl, hab⟩ := eq_arr_iff.mp hab
      obtain ⟨cs, rfl, hbc⟩ := eq_arr_iff.mp hbc
      exact eq_arr_iff.mpr ⟨cs, rfl, eqItems_trans hab hbc⟩
  | obj as =>
      obtain ⟨bs, rfl, hlength, hab⟩ := eq_obj_iff.mp hab
      obtain ⟨cs, rfl, hlength', hbc⟩ := eq_obj_iff.mp hbc
      exact eq_obj_iff.mpr
        ⟨cs, rfl, hlength.trans hlength', eqMembers_trans hab hbc⟩
  | null => rwa [eq_null_iff.mp hab] at hbc
  | str s => rwa [eq_str_iff.mp hab] at hbc
  | bool b => exact number_trans rfl hab hbc
  | int n => exact number_trans rfl hab hbc
  | float x => exact number_trans rfl hab hbc
termination_by structural a

theorem eqItems_trans {as bs cs : List Json} (hab : eqItems as bs = true)
    (hbc : eqItems bs cs = true) : eqItems as cs = true := by
  match as, bs, cs with
  | [], [], [] => rfl
  | a :: as, b :: bs, c :: cs =>
      rw [eqItems_cons_iff] at hab hbc ⊢
      exact ⟨itemEq_trans eq_trans hab.1 hbc.1, eqItems_trans hab.2 hbc.2⟩
termination_by structural as

theorem eqMembers_trans {as bs cs : List (String × Json)}
    (hab : eqMembers as bs = true) (hbc : eqMembers bs cs = true) :
    eqMembers as cs = true := by
  match as with
  | [] => rfl
  | (k, a) :: as =>
      obtain ⟨b, hb, hab'⟩ := eqMembers_iff.mp hab k a List.mem_cons_self
      obtain ⟨c, hc, hbc'⟩ := eqMembers_iff.mp hbc k b (Dict.mem_of_lookup hb)
      have hac := itemEq_trans eq_trans hab' hbc'
      rw [itemEq] at hac
      rw [eqMembers, Bool.and_eq_true] at hab ⊢
      exact ⟨by simpa [hc] using hac, eqMembers_trans hab.2 hbc⟩
termination_by structural as

end

/-- Members which are equal stand under the same keys. -/
theorem keys_perm_of_eqMembers {as bs : List (String × Json)}
    (has : (as.map Prod.fst).Nodup) (hlength : as.length = bs.length)
    (h : eqMembers as bs = true) :
    (as.map Prod.fst).Perm (bs.map Prod.fst) := by
  have hsub : as.map Prod.fst ⊆ bs.map Prod.fst := by
    intro k hk
    obtain ⟨⟨k, a⟩, hmem, rfl⟩ := List.mem_map.mp hk
    obtain ⟨b, hb, -⟩ := eqMembers_iff.mp h k a hmem
    exact List.mem_map.mpr ⟨(k, b), Dict.mem_of_lookup hb, rfl⟩
  exact (List.subperm_of_subset has hsub).perm_of_length_le (by simp [hlength])

/-- Comparing members is symmetric where comparing their values is. -/
theorem eqMembers_symm_of {as bs : List (String × Json)}
    (has : (as.map Prod.fst).Nodup) (hlength : as.length = bs.length)
    (hsymm : ∀ e ∈ as, ∀ b, itemEq e.2 b = true → itemEq b e.2 = true)
    (h : eqMembers as bs = true) : eqMembers bs as = true := by
  have hperm := keys_perm_of_eqMembers has hlength h
  rw [eqMembers_iff]
  intro k b hmem
  have hk : k ∈ as.map Prod.fst :=
    hperm.mem_iff.mpr (List.mem_map_of_mem hmem)
  obtain ⟨⟨k, a⟩, hmem', rfl⟩ := List.mem_map.mp hk
  obtain ⟨b', hb', hab⟩ := eqMembers_iff.mp h k a hmem'
  obtain rfl : b' = b :=
    Option.some.inj (hb'.symm.trans (Dict.lookup_of_mem (hperm.nodup has) hmem))
  exact ⟨a, Dict.lookup_of_mem has hmem', hsymm _ hmem' _ hab⟩

theorem number_symm {a b : Json} {x : Double} (ha : number? a = some x)
    (h : eq a b = true) : eq b a = true := by
  obtain ⟨hb, hx⟩ := (eq_number_iff ha).mp h
  exact (eq_number_iff hb).mpr ⟨ha, hx⟩

mutual

theorem eq_symm {a b : Json} (ha : a.distinctKeys = true)
    (h : eq a b = true) : eq b a = true := by
  cases a with
  | arr as =>
      obtain ⟨bs, rfl, h⟩ := eq_arr_iff.mp h
      exact eq_arr_iff.mpr ⟨as, rfl, eqItems_symm ha h⟩
  | obj as =>
      obtain ⟨bs, rfl, hlength, h⟩ := eq_obj_iff.mp h
      rw [Json.distinctKeys, Bool.and_eq_true, decide_eq_true_iff] at ha
      exact eq_obj_iff.mpr ⟨as, rfl, hlength.symm,
        eqMembers_symm_of ha.1 hlength (members_symm ha.2) h⟩
  | null => rw [eq_null_iff.mp h, eq_null_iff]
  | str s => rw [eq_str_iff.mp h, eq_str_iff]
  | bool b => exact number_symm rfl h
  | int n => exact number_symm rfl h
  | float x => exact number_symm rfl h

theorem eqItems_symm {as bs : List Json} (ha : Json.distinctItems as = true)
    (h : eqItems as bs = true) : eqItems bs as = true := by
  match as, bs with
  | [], [] => rfl
  | a :: as, b :: bs =>
      rw [Json.distinctItems, Bool.and_eq_true] at ha
      rw [eqItems_cons_iff] at h ⊢
      exact ⟨itemEq_symm (eq_symm ha.1) h.1, eqItems_symm ha.2 h.2⟩

theorem members_symm {as : List (String × Json)}
    (ha : Json.distinctMembers as = true) :
    ∀ e ∈ as, ∀ b, itemEq e.2 b = true → itemEq b e.2 = true := by
  match as with
  | [] => simp
  | (k, a) :: as =>
      rw [Json.distinctMembers, Bool.and_eq_true] at ha
      intro e he b h
      rcases List.mem_cons.mp he with rfl | he
      · exact itemEq_symm (eq_symm ha.1) h
      · exact members_symm ha.2 e he b h

end

theorem itemEq_self_of {a : Json} (h : a ≠ .float .nan → eq a a = true) :
    itemEq a a = true := by
  rw [itemEq_iff]
  by_cases hnan : a = .float .nan
  · exact Or.inl ⟨hnan, hnan⟩
  · exact Or.inr (h hnan)

theorem eqMembers_self {as : List (String × Json)}
    (has : (as.map Prod.fst).Nodup)
    (hself : ∀ e ∈ as, itemEq e.2 e.2 = true) : eqMembers as as = true := by
  rw [eqMembers_iff]
  intro k a hmem
  exact ⟨a, Dict.lookup_of_mem has hmem, hself _ hmem⟩

mutual

/-- Every value but NaN equals itself. -/
theorem eq_self {a : Json} (ha : a.distinctKeys = true)
    (hnan : a ≠ .float .nan) : eq a a = true := by
  cases a with
  | arr as => exact eqItems_self ha
  | obj as =>
      rw [Json.distinctKeys, Bool.and_eq_true, decide_eq_true_iff] at ha
      rw [eq, decide_eq_true rfl, Bool.true_and]
      exact eqMembers_self ha.1 (members_self ha.2)
  | null | str s => simp
  | bool b => exact (eq_number_iff rfl).mpr ⟨rfl, by simp⟩
  | int n => exact (eq_number_iff rfl).mpr ⟨rfl, by simp⟩
  | float x => exact (eq_number_iff rfl).mpr ⟨rfl, fun h => hnan (h ▸ rfl)⟩

theorem eqItems_self {as : List Json} (ha : Json.distinctItems as = true) :
    eqItems as as = true := by
  match as with
  | [] => rfl
  | a :: as =>
      rw [Json.distinctItems, Bool.and_eq_true] at ha
      exact eqItems_cons_iff.mpr
        ⟨itemEq_self_of (eq_self ha.1), eqItems_self ha.2⟩

theorem members_self {as : List (String × Json)}
    (ha : Json.distinctMembers as = true) :
    ∀ e ∈ as, itemEq e.2 e.2 = true := by
  match as with
  | [] => simp
  | (k, a) :: as =>
      rw [Json.distinctMembers, Bool.and_eq_true] at ha
      exact List.forall_mem_cons.mpr
        ⟨itemEq_self_of (eq_self ha.1), members_self ha.2⟩

end

/-! ## Dictionaries -/

section Dictionaries

variable {a b : Dict String Json}

/-- Two dictionaries are equal when they are under every key. -/
theorem eq_ofDict_iff :
    eq (.ofDict a) (.ofDict b) = true ↔
      ∀ k, Option.Rel (fun v w => itemEq v w = true) (a.get k) (b.get k) := by
  rw [Json.ofDict, Json.ofDict, eq_obj_iff]
  constructor
  · rintro ⟨_, heq, hlength, hmembers⟩ k
    obtain rfl := Json.obj.inj heq
    have hperm := keys_perm_of_eqMembers a.nodup hlength hmembers
    cases ha : a.get k with
    | some v =>
        obtain ⟨w, hw, hvw⟩ :=
          eqMembers_iff.mp hmembers k v (Dict.get_eq_some_iff.mp ha)
        have hb : b.get k = some w := hw
        rw [hb]
        exact .some hvw
    | none =>
        have hb : b.get k = none := by
          rw [Dict.get_eq_none_iff] at ha ⊢
          exact fun hk => ha (hperm.mem_iff.mpr hk)
        rw [hb]
        exact .none
  · intro h
    have hkeys : a.keys.Perm b.keys := by
      refine (List.perm_ext_iff_of_nodup a.nodup b.nodup).mpr fun k => ?_
      change k ∈ a.keys ↔ k ∈ b.keys
      have hk := h k
      by_contra hne
      cases ha : a.get k <;> cases hb : b.get k <;>
        simp_all [← Dict.get_eq_none_iff, ← not_iff_not]
    refine ⟨b.entries, rfl, by simpa [Dict.keys] using hkeys.length_eq, ?_⟩
    rw [eqMembers_iff]
    intro k v hmem
    have hk := h k
    rw [Dict.get_eq_some_iff.mpr hmem] at hk
    cases hb : b.get k with
    | none => rw [hb] at hk; cases hk
    | some w =>
        rw [hb] at hk
        exact ⟨w, hb, by simpa using hk⟩

/-- Assignments to one key are compared apart from what else there is. -/
theorem eq_ofDict_set_iff {k : String} {v w : Json} :
    eq (.ofDict (a.set k v)) (.ofDict (b.set k w)) = true ↔
      itemEq v w = true ∧
        eq (.ofDict (a.erase k)) (.ofDict (b.erase k)) = true := by
  rw [eq_ofDict_iff, eq_ofDict_iff]
  constructor
  · intro h
    refine ⟨by simpa using h k, fun x => ?_⟩
    by_cases hx : x = k
    · simp [hx]
    · simpa [Dict.get_set, Dict.get_erase, hx] using h x
  · rintro ⟨hvw, h⟩ x
    by_cases hx : x = k
    · simpa [hx] using hvw
    · simpa [Dict.get_set, Dict.get_erase, hx] using h x

/-- Equality asks only what stands under the keys. -/
theorem eq_ofDict_congr {a' b' : Dict String Json} (ha : a.get = a'.get)
    (hb : b.get = b'.get) :
    eq (.ofDict a) (.ofDict b) = eq (.ofDict a') (.ofDict b') := by
  rw [Bool.eq_iff_iff, eq_ofDict_iff, eq_ofDict_iff, ha, hb]

end Dictionaries

end Python

end Support
