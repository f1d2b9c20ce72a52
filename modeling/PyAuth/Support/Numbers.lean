import PyAuth.Support.Json

/-!
# The numbers inside a JSON value

Python reads integers exactly; Go and JavaScript read every number as a
double.  `Json.asDoubles` is what they read, `Json.byValue` forgets how a
number is written, and `Json.exact` says that nothing is lost between them.
-/

namespace Support

universe u v w

namespace Dict

variable {κ : Type u} {α : Type v} {β : Type w} [DecidableEq κ]

theorem setEntries_map (f : α → β) (k : κ) (a : α) (es : List (κ × α)) :
    setEntries k (f a) (es.map fun e => (e.1, f e.2)) =
      (setEntries k a es).map fun e => (e.1, f e.2) := by
  induction es with
  | nil => rfl
  | cons e es ih =>
      rw [List.map_cons, setEntries, setEntries]
      split
      · rfl
      · rw [List.map_cons, ih]

theorem mapValues_set (f : α → β) (d : Dict κ α) (k : κ) (a : α) :
    (d.set k a).mapValues f = (d.mapValues f).set k (f a) :=
  Dict.ext (setEntries_map f k a d.entries).symm

theorem mapValues_update (f : α → β) (d : Dict κ α) (es : List (κ × α)) :
    (d.update es).mapValues f =
      (d.mapValues f).update (es.map fun e => (e.1, f e.2)) := by
  induction es generalizing d with
  | nil => rfl
  | cons e es ih =>
      have hstep := ih (d.set e.1 e.2)
      rw [mapValues_set] at hstep
      exact hstep

theorem mapValues_ofList (f : α → β) (es : List (κ × α)) :
    (ofList es : Dict κ α).mapValues f =
      ofList (es.map fun e => (e.1, f e.2)) :=
  mapValues_update f empty es

theorem mapValues_erase (f : α → β) (d : Dict κ α) (k : κ) :
    (d.erase k).mapValues f = (d.mapValues f).erase k := by
  apply Dict.ext
  simp only [erase, filter, mapValues, List.filter_map]
  rfl

end Dict

namespace Json

/-! ## Replacing the numbers -/

mutual

/-- Replace every double `x` by `f x` and every integer `n` by `g n`. -/
def mapNumbers (f : Double → Json) (g : ℤ → Json) : Json → Json
  | .null => .null
  | .bool b => .bool b
  | .int n => g n
  | .float x => f x
  | .str s => .str s
  | .arr items => .arr (mapItems f g items)
  | .obj members => .obj (mapMembers f g members)

def mapItems (f : Double → Json) (g : ℤ → Json) : List Json → List Json
  | [] => []
  | v :: vs => mapNumbers f g v :: mapItems f g vs

def mapMembers (f : Double → Json) (g : ℤ → Json) :
    List (String × Json) → List (String × Json)
  | [] => []
  | (k, v) :: es => (k, mapNumbers f g v) :: mapMembers f g es

end

section

variable {f f' : Double → Json} {g g' : ℤ → Json}

theorem mapMembers_eq (es : List (String × Json)) :
    mapMembers f g es = es.map fun e => (e.1, mapNumbers f g e.2) := by
  induction es with
  | nil => rfl
  | cons e es ih => rw [mapMembers, ih, List.map_cons]

theorem mapNumbers_ofDict (d : Dict String Json) :
    mapNumbers f g (ofDict d) = ofDict (d.mapValues (mapNumbers f g)) := by
  rw [ofDict, mapNumbers, mapMembers_eq]
  rfl

/-- `f` and `g` never yield an object. -/
def Scalar (f : Double → Json) (g : ℤ → Json) : Prop :=
  (∀ x, (f x).dict? = none) ∧ ∀ n, (g n).dict? = none

theorem dict?_mapNumbers (h : Scalar f g) (v : Json) :
    (mapNumbers f g v).dict? = v.dict?.map (·.mapValues (mapNumbers f g)) := by
  cases v with
  | obj members =>
      rw [mapNumbers, mapMembers_eq, dict?, dict?, Option.map_some,
        Dict.mapValues_ofList]
  | int n => exact h.2 n
  | float x => exact h.1 x
  | null | bool | str | arr => rfl

mutual

theorem mapNumbers_mapNumbers (v : Json) :
    mapNumbers f g (mapNumbers f' g' v) =
      mapNumbers (fun x => mapNumbers f g (f' x))
        (fun n => mapNumbers f g (g' n)) v := by
  cases v with
  | arr items => rw [mapNumbers, mapNumbers, mapNumbers, mapItems_mapItems]
  | obj members =>
      rw [mapNumbers, mapNumbers, mapNumbers, mapMembers_mapMembers]
  | null | bool | int | float | str => rfl

theorem mapItems_mapItems (vs : List Json) :
    mapItems f g (mapItems f' g' vs) =
      mapItems (fun x => mapNumbers f g (f' x))
        (fun n => mapNumbers f g (g' n)) vs := by
  cases vs with
  | nil => rfl
  | cons v vs =>
      rw [mapItems, mapItems, mapItems, mapNumbers_mapNumbers,
        mapItems_mapItems]

theorem mapMembers_mapMembers (es : List (String × Json)) :
    mapMembers f g (mapMembers f' g' es) =
      mapMembers (fun x => mapNumbers f g (f' x))
        (fun n => mapNumbers f g (g' n)) es := by
  cases es with
  | nil => rfl
  | cons e es =>
      rw [mapMembers, mapMembers, mapMembers, mapNumbers_mapNumbers,
        mapMembers_mapMembers]

end

end

/-- What Go and JavaScript read. -/
def asDoubles (v : Json) : Json :=
  mapNumbers .float (fun n => .float (.ofInt n)) v

/-- The value with its numbers as numbers, however they are written. -/
def byValue (v : Json) : Json := mapNumbers .float (fun n => .float (.fin n)) v

theorem dict?_asDoubles (v : Json) :
    v.asDoubles.dict? = v.dict?.map (·.mapValues asDoubles) :=
  dict?_mapNumbers ⟨fun _ => rfl, fun _ => rfl⟩ v

theorem asDoubles_ofDict (d : Dict String Json) :
    (ofDict d).asDoubles = ofDict (d.mapValues asDoubles) :=
  mapNumbers_ofDict d

theorem byValue_ofDict (d : Dict String Json) :
    (ofDict d).byValue = ofDict (d.mapValues byValue) :=
  mapNumbers_ofDict d

@[simp] theorem byValue_str (s : String) : (str s).byValue = .str s := by
  rw [byValue, mapNumbers]

@[simp] theorem byValue_float (x : Double) :
    (float x).byValue = .float x := by
  rw [byValue, mapNumbers]

@[simp] theorem byValue_int (n : ℤ) : (int n).byValue = .float (.fin n) := by
  rw [byValue, mapNumbers]

@[simp] theorem byValue_byValue (v : Json) : v.byValue.byValue = v.byValue :=
  mapNumbers_mapNumbers v

/-- A value whose numbers are doubles already. -/
theorem byValue_asDoubles (v : Json) : v.asDoubles.byValue = v.asDoubles :=
  mapNumbers_mapNumbers v

/-! ## Conditions on the numbers -/

mutual

/-- `p` holds of every number of the value. -/
def allNumbers (p : Double → Bool) : Json → Bool
  | .null | .bool _ | .str _ => true
  | .int n => p (.fin n)
  | .float x => p x
  | .arr items => allItems p items
  | .obj members => allMembers p members

def allItems (p : Double → Bool) : List Json → Bool
  | [] => true
  | v :: vs => allNumbers p v && allItems p vs

def allMembers (p : Double → Bool) : List (String × Json) → Bool
  | [] => true
  | (_, v) :: es => allNumbers p v && allMembers p es

end

/-- A number which a double holds exactly; what is no integer was read from a
double. -/
def exactNumber : Double → Bool
  | .fin q => decide (q.den = 1 → Double.ofInt q.num = .fin q)
  | _ => false

def finiteNumber : Double → Bool
  | .fin _ => true
  | _ => false

/-- All numbers of the value are doubles. -/
def exact (v : Json) : Bool := v.allNumbers exactNumber

section

variable {p q : Double → Bool}

mutual

theorem allNumbers_mono (hpq : ∀ x, p x = true → q x = true) (v : Json)
    (h : v.allNumbers p = true) : v.allNumbers q = true := by
  cases v with
  | int n => exact hpq _ h
  | float x => exact hpq _ h
  | arr items => exact allItems_mono hpq items h
  | obj members => exact allMembers_mono hpq members h
  | null | bool | str => rfl

theorem allItems_mono (hpq : ∀ x, p x = true → q x = true) (vs : List Json)
    (h : allItems p vs = true) : allItems q vs = true := by
  cases vs with
  | nil => rfl
  | cons v vs =>
      rw [allItems, Bool.and_eq_true] at h ⊢
      exact ⟨allNumbers_mono hpq v h.1, allItems_mono hpq vs h.2⟩

theorem allMembers_mono (hpq : ∀ x, p x = true → q x = true)
    (es : List (String × Json)) (h : allMembers p es = true) :
    allMembers q es = true := by
  cases es with
  | nil => rfl
  | cons e es =>
      rw [allMembers, Bool.and_eq_true] at h ⊢
      exact ⟨allNumbers_mono hpq e.2 h.1, allMembers_mono hpq es h.2⟩

end

mutual

theorem allNumbers_byValue (v : Json) :
    v.byValue.allNumbers p = v.allNumbers p := by
  cases v with
  | arr items => exact allItems_byValue items
  | obj members => exact allMembers_byValue members
  | null | bool | int | float | str => rfl

theorem allItems_byValue (vs : List Json) :
    allItems p (mapItems .float (fun n => .float (.fin n)) vs) =
      allItems p vs := by
  cases vs with
  | nil => rfl
  | cons v vs =>
      have hv := allNumbers_byValue v
      rw [byValue] at hv
      rw [mapItems, allItems, allItems, hv, allItems_byValue]

theorem allMembers_byValue (es : List (String × Json)) :
    allMembers p (mapMembers .float (fun n => .float (.fin n)) es) =
      allMembers p es := by
  cases es with
  | nil => rfl
  | cons e es =>
      have hv := allNumbers_byValue e.2
      rw [byValue] at hv
      rw [mapMembers, allMembers, allMembers, hv, allMembers_byValue]

end

section

variable {f : Double → Json}

mutual

/-- Numbers which survive a replacement of the doubles. -/
theorem mapNumbers_eq_self (hf : ∀ x, p x = true → f x = .float x) (v : Json)
    (h : v.asDoubles.allNumbers p = true) : mapNumbers f .int v = v := by
  cases v with
  | float x =>
      rw [asDoubles, mapNumbers, allNumbers] at h
      exact hf x h
  | arr items =>
      rw [asDoubles, mapNumbers, allNumbers] at h
      rw [mapNumbers, mapItems_eq_self hf items h]
  | obj members =>
      rw [asDoubles, mapNumbers, allNumbers] at h
      rw [mapNumbers, mapMembers_eq_self hf members h]
  | null | bool | int | str => rw [mapNumbers]

theorem mapItems_eq_self (hf : ∀ x, p x = true → f x = .float x)
    (vs : List Json) (h : allItems p (mapItems .float
      (fun n => .float (.ofInt n)) vs) = true) : mapItems f .int vs = vs := by
  cases vs with
  | nil => rw [mapItems]
  | cons v vs =>
      rw [mapItems, allItems, Bool.and_eq_true] at h
      rw [mapItems, mapNumbers_eq_self hf v h.1, mapItems_eq_self hf vs h.2]

theorem mapMembers_eq_self (hf : ∀ x, p x = true → f x = .float x)
    (es : List (String × Json)) (h : allMembers p (mapMembers .float
      (fun n => .float (.ofInt n)) es) = true) :
    mapMembers f .int es = es := by
  cases es with
  | nil => rw [mapMembers]
  | cons e es =>
      rw [mapMembers, allMembers, Bool.and_eq_true] at h
      rw [mapMembers, mapNumbers_eq_self hf e.2 h.1,
        mapMembers_eq_self hf es h.2]

end

end

theorem allMembers_iff {es : List (String × Json)} :
    allMembers p es = true ↔ ∀ e ∈ es, e.2.allNumbers p = true := by
  induction es with
  | nil => simp [allMembers]
  | cons e es ih =>
      rw [allMembers, Bool.and_eq_true, ih, List.forall_mem_cons]

/-- The numbers of an object are those of its members. -/
theorem allNumbers_ofDict {d : Dict String Json} :
    (ofDict d).allNumbers p = true ↔
      ∀ k v, d.get k = some v → v.allNumbers p = true := by
  rw [ofDict, allNumbers, allMembers_iff]
  constructor
  · intro h k v hk
    exact h (k, v) (Dict.get_eq_some_iff.mp hk)
  · rintro h ⟨k, v⟩ hmem
    exact h k v (Dict.get_eq_some_iff.mpr hmem)

/-- What an object denotes has no more numbers than the object. -/
theorem allNumbers_of_dict? {v : Json} {d : Dict String Json}
    (hd : v.dict? = some d) (h : v.allNumbers p = true) :
    (ofDict d).allNumbers p = true := by
  cases v with
  | obj members =>
      obtain rfl := Option.some.inj hd
      rw [allNumbers, allMembers_iff] at h
      rw [allNumbers_ofDict]
      intro k w hk
      exact h (k, w) (Dict.mem_of_get_ofList hk)
  | null | bool | int | float | str | arr => contradiction

end

end Json

end Support
