import Mathlib.Data.List.Nodup
import Mathlib.Data.List.ReduceOption

/-!
# Iterating over a set which changes

A hash set is a table of slots, and an iterator over it keeps a position in
that table together with the size the set had when the iteration began.
Before each item it compares the sizes, and gives up when they differ.  As long
as a member stays in its slot, a pass over the table meets it exactly once,
whatever happens to the other slots.
-/

namespace Support

/-! ## Tables of slots -/

/-- The slots of a hash set; `none` is a free slot. -/
structure SlotTable (α : Type*) where
  slots : List (Option α)
  nodup : slots.reduceOption.Nodup
deriving DecidableEq

namespace SlotTable

variable {α : Type*} {t t' : SlotTable α} {a b : α} {i j : ℕ}

def members (t : SlotTable α) : List α := t.slots.reduceOption

def size (t : SlotTable α) : ℕ := t.members.length

/-- A table whose slots are all free. -/
def empty : SlotTable α := ⟨[], List.nodup_nil⟩

/-- The slot `i` holds `a`. -/
def HoldsAt (t : SlotTable α) (i : ℕ) (a : α) : Prop :=
  t.slots[i]? = some (some a)

theorem mem_members_iff : a ∈ t.members ↔ ∃ i, t.HoldsAt i a := by
  rw [members, List.reduceOption_mem_iff, List.mem_iff_getElem?]
  rfl

/-- No item stands in two slots. -/
theorem HoldsAt.index_eq (hi : t.HoldsAt i a) (hj : t.HoldsAt j a) :
    i = j := by
  have hnodup := t.nodup
  rw [HoldsAt] at hi hj
  generalize t.slots = slots at hi hj hnodup
  induction slots generalizing i j with
  | nil => simp at hi
  | cons s slots ih =>
      cases s with
      | none =>
          rw [List.reduceOption_cons_of_none] at hnodup
          cases i with
          | zero => simp at hi
          | succ i =>
              cases j with
              | zero => simp at hj
              | succ j => rw [ih hi hj hnodup]
      | some b =>
          rw [List.reduceOption_cons_of_some, List.nodup_cons] at hnodup
          have hfresh : ∀ k : ℕ, slots[k]? = some (some a) → b ≠ a := by
            rintro k hk rfl
            exact hnodup.1 (List.reduceOption_mem_iff.mpr
              (List.mem_of_getElem? hk))
          cases i with
          | zero =>
              cases j with
              | zero => rfl
              | succ j => exact absurd (by simpa using hi) (hfresh j hj)
          | succ i =>
              cases j with
              | zero => exact absurd (by simpa using hj) (hfresh i hi)
              | succ j => rw [ih hi hj hnodup.2]

/-- `t'` arises when `a` is added to `t`.  Where the new item is put, and
whether the others are moved for it, depends on the hashes. -/
def Adds (t : SlotTable α) (a : α) (t' : SlotTable α) : Prop :=
  (a ∈ t.members ∧ t' = t) ∨
    (a ∉ t.members ∧ t'.members.Perm (a :: t.members))

instance [DecidableEq α] : Decidable (t.Adds a t') :=
  inferInstanceAs (Decidable (_ ∨ _))

/-- No member of `t` is moved. -/
def Keeps (t t' : SlotTable α) : Prop :=
  ∀ i a, t.HoldsAt i a → t'.HoldsAt i a

variable [DecidableEq α]

/-- Free the slot of `a`, if there is one. -/
def discard (t : SlotTable α) (a : α) : SlotTable α where
  slots := t.slots.map fun s => if s = some a then none else s
  nodup := by
    have hsub : (t.slots.map fun s =>
        if s = some a then none else s).reduceOption.Sublist
          t.slots.reduceOption := by
      induction t.slots with
      | nil => exact List.Sublist.refl _
      | cons s slots ih =>
          cases s with
          | none => simpa using ih
          | some b =>
              by_cases hb : b = a
              · simpa [hb] using ih.trans (List.sublist_cons_self _ _)
              · simpa [hb] using ih.cons_cons b
    exact t.nodup.sublist hsub

theorem holdsAt_discard_iff :
    (t.discard a).HoldsAt i b ↔ t.HoldsAt i b ∧ b ≠ a := by
  simp only [HoldsAt, discard, List.getElem?_map, Option.map_eq_some_iff]
  constructor
  · rintro ⟨s, hs, hb⟩
    split at hb
    · contradiction
    · next hne =>
        subst hb
        exact ⟨hs, fun h => hne (by rw [h])⟩
  · rintro ⟨hb, hne⟩
    exact ⟨some b, hb, if_neg (by simpa using hne)⟩

theorem mem_discard_iff :
    b ∈ (t.discard a).members ↔ b ∈ t.members ∧ b ≠ a := by
  simp only [mem_members_iff, holdsAt_discard_iff, exists_and_right]

theorem holdsAt_discard_of_mem (hb : t.HoldsAt i b)
    (hmem : b ∈ (t.discard a).members) : (t.discard a).HoldsAt i b :=
  holdsAt_discard_iff.mpr ⟨hb, (mem_discard_iff.mp hmem).2⟩

theorem mem_of_mem_foldl_discard {as : List α}
    (h : b ∈ (as.foldl discard t).members) : b ∈ t.members := by
  induction as generalizing t with
  | nil => exact h
  | cons a as ih => exact (mem_discard_iff.mp (ih h)).1

/-- A member that is still there after several removals stands where it
stood. -/
theorem holdsAt_foldl_discard {as : List α} (hb : t.HoldsAt i b)
    (hmem : b ∈ (as.foldl discard t).members) :
    (as.foldl discard t).HoldsAt i b := by
  induction as generalizing t with
  | nil => exact hb
  | cons a as ih =>
      exact ih (holdsAt_discard_of_mem hb (mem_of_mem_foldl_discard hmem)) hmem

end SlotTable

/-! ## Iterators -/

/-- Where an iteration stands, and the size of the set when it began. -/
structure SetIterator where
  pos : ℕ
  used : ℕ
deriving DecidableEq

/-- What an iterator does next. -/
inductive SetIterator.Next (α : Type*)
  | changedSize
  | stop
  | item (a : α) (it : SetIterator)
deriving DecidableEq

namespace SetIterator

variable {α : Type*} {t : SlotTable α} {it it' : SetIterator} {a b : α}
  {i k : ℕ}

/-- An iterator over the set as it is now. -/
def start (t : SlotTable α) : SetIterator := ⟨0, t.size⟩

/-- The first occupied slot of `slots`, where counting starts at `k`. -/
def firstOccupied : List (Option α) → ℕ → Option (ℕ × α)
  | [], _ => none
  | some a :: _, k => some (k, a)
  | none :: slots, k => firstOccupied slots (k + 1)

def next (t : SlotTable α) (it : SetIterator) : Next α :=
  if t.size = it.used then
    match firstOccupied (t.slots.drop it.pos) it.pos with
    | none => .stop
    | some (i, a) => .item a ⟨i + 1, it.used⟩
  else .changedSize

theorem firstOccupied_eq_some {slots : List (Option α)}
    (h : firstOccupied slots k = some (i, a)) :
    ∃ d, i = k + d ∧ slots[d]? = some (some a) ∧
      ∀ j b, slots[j]? = some (some b) → d ≤ j := by
  induction slots generalizing k with
  | nil => contradiction
  | cons s slots ih =>
      cases s with
      | some b =>
          simp only [firstOccupied, Option.some.injEq, Prod.mk.injEq] at h
          obtain ⟨rfl, rfl⟩ := h
          exact ⟨0, rfl, rfl, fun _ _ _ => Nat.zero_le _⟩
      | none =>
          obtain ⟨d, rfl, hd, hfirst⟩ := ih h
          refine ⟨d + 1, by omega, hd, ?_⟩
          intro j b hj
          cases j with
          | zero => simp at hj
          | succ j => exact Nat.succ_le_succ (hfirst j b hj)

theorem firstOccupied_eq_none {slots : List (Option α)}
    (h : firstOccupied slots k = none) (j : ℕ) (b : α) :
    slots[j]? ≠ some (some b) := by
  induction slots generalizing k j with
  | nil => simp
  | cons s slots ih =>
      cases s with
      | some b => contradiction
      | none =>
          cases j with
          | zero => simp
          | succ j => exact ih h j

/-- The iterator gives up exactly when the size has changed. -/
theorem next_eq_changedSize_iff :
    it.next t = .changedSize ↔ t.size ≠ it.used := by
  rw [next]
  by_cases h : t.size = it.used
  · rw [if_pos h]
    cases firstOccupied (t.slots.drop it.pos) it.pos <;> simp [h]
  · simp [h]

/-- The next item stands in the first occupied slot from the position on. -/
theorem next_eq_item (h : it.next t = .item a it') :
    ∃ i, it.pos ≤ i ∧ t.HoldsAt i a ∧ it' = ⟨i + 1, it.used⟩ ∧
      ∀ j b, t.HoldsAt j b → it.pos ≤ j → i ≤ j := by
  rw [next] at h
  split at h
  · cases hfirst : firstOccupied (t.slots.drop it.pos) it.pos with
    | none => simp [hfirst] at h
    | some entry =>
        obtain ⟨i, a'⟩ := entry
        simp only [hfirst, Next.item.injEq] at h
        obtain ⟨rfl, rfl⟩ := h
        obtain ⟨d, rfl, hd, hleast⟩ := firstOccupied_eq_some hfirst
        rw [List.getElem?_drop] at hd
        refine ⟨it.pos + d, by omega, hd, rfl, ?_⟩
        intro j b hj hpos
        have hjd : (t.slots.drop it.pos)[j - it.pos]? = some (some b) := by
          rw [List.getElem?_drop, Nat.add_sub_cancel' hpos]
          exact hj
        have := hleast _ b hjd
        omega
  · contradiction

/-- An iteration ends when no slot from the position on is occupied. -/
theorem next_eq_stop (h : it.next t = .stop) (hi : t.HoldsAt i a) :
    i < it.pos := by
  rw [next] at h
  split at h
  · cases hfirst : firstOccupied (t.slots.drop it.pos) it.pos with
    | some entry => simp [hfirst] at h
    | none =>
        by_contra hpos
        have hle : it.pos ≤ i := Nat.le_of_not_lt hpos
        apply firstOccupied_eq_none hfirst (i - it.pos) a
        rw [List.getElem?_drop, Nat.add_sub_cancel' hle]
        exact hi
  · contradiction

/-! ## What a pass has met -/

/-- Of the items `met` so far, `a` is one exactly when its slot `i` has been
passed, and it was met once. -/
def Met (it : SetIterator) (i : ℕ) (a : α) [DecidableEq α] (met : List α) :
    Prop :=
  met.count a = if i < it.pos then 1 else 0

variable [DecidableEq α] {met : List α}

theorem met_start : (start t).Met i a [] := by
  simp [Met, start]

/-- One more item; a member which stays in its slot is met there and nowhere
else. -/
theorem Met.next (h : it.Met i a met) (ha : t.HoldsAt i a)
    (hnext : it.next t = .item b it') : it'.Met i a (met ++ [b]) := by
  obtain ⟨j, hpos, hj, rfl, hleast⟩ := next_eq_item hnext
  rw [Met] at h ⊢
  rw [List.count_append, h]
  by_cases hab : b = a
  · subst hab
    obtain rfl := ha.index_eq hj
    simp [Nat.not_lt.mpr hpos]
  · have hne : i ≠ j := by
      rintro rfl
      rw [SlotTable.HoldsAt, ha] at hj
      simp only [Option.some.injEq] at hj
      exact hab hj.symm
    have hcount : [b].count a = 0 := by simp [hab]
    rw [hcount]
    by_cases hi : it.pos ≤ i
    · have hji := hleast i a ha hi
      have hlt : ¬i < j + 1 := by omega
      simp [Nat.not_lt.mpr hi, hlt]
    · have hlt : i < j + 1 := by omega
      simp [Nat.lt_of_not_le hi, hlt]

theorem Met.stop (h : it.Met i a met) (ha : t.HoldsAt i a)
    (hnext : it.next t = .stop) : met.count a = 1 := by
  rw [h, if_pos (next_eq_stop hnext ha)]

end SetIterator

end Support
