import Mathlib.Data.List.Sort

/-!
# Stable sorting

Insertion sort keeps equal elements in the order they came in.  So the sorted
list, restricted to some elements, is the sorted list of these elements, and
what is found first among them depends only on how they compare to each other.
-/

namespace Support

universe u

variable {α : Type u} {r s : α → α → Prop} [DecidableRel r] [DecidableRel s]

theorem filter_orderedInsert [IsTrans α r] (p : α → Bool) (a : α)
    {l : List α} (hl : l.Pairwise r) :
    (l.orderedInsert r a).filter p =
      if p a then (l.filter p).orderedInsert r a else l.filter p := by
  induction l with
  | nil => by_cases ha : p a <;> simp [ha]
  | cons b l ih =>
      rw [List.pairwise_cons] at hl
      by_cases hab : r a b
      · -- `a` precedes the whole list, hence also what is left of it.
        have hall : ∀ c ∈ (b :: l).filter p, r a c := by
          intro c hc
          rcases List.mem_cons.mp (List.mem_of_mem_filter hc) with rfl | hc
          · exact hab
          · exact IsTrans.trans _ _ _ hab (hl.1 c hc)
        rw [List.orderedInsert_cons, if_pos hab]
        by_cases ha : p a
        · rw [if_pos ha, List.filter_cons_of_pos ha]
          cases hfilter : (b :: l).filter p with
          | nil => rfl
          | cons c cs =>
              rw [List.orderedInsert_cons,
                if_pos (hall c (by simp [hfilter]))]
        · rw [if_neg ha, List.filter_cons_of_neg ha]
      · rw [List.orderedInsert_cons, if_neg hab]
        by_cases hb : p b
        · rw [List.filter_cons_of_pos hb, List.filter_cons_of_pos hb, ih hl.2]
          by_cases ha : p a
          · rw [if_pos ha, if_pos ha, List.orderedInsert_cons, if_neg hab]
          · rw [if_neg ha, if_neg ha]
        · rw [List.filter_cons_of_neg hb, List.filter_cons_of_neg hb, ih hl.2]

theorem filter_insertionSort [Std.Total r] [IsTrans α r] (p : α → Bool)
    (l : List α) :
    (l.insertionSort r).filter p = (l.filter p).insertionSort r := by
  induction l with
  | nil => rfl
  | cons a l ih =>
      rw [List.insertionSort_cons,
        filter_orderedInsert p a (List.pairwise_insertionSort r l), ih]
      by_cases ha : p a
      · rw [if_pos ha, List.filter_cons_of_pos ha, List.insertionSort_cons]
      · rw [if_neg ha, List.filter_cons_of_neg ha]

/-- Two orders that agree on the elements with a property find the same one of
them first. -/
theorem find?_insertionSort_eq [Std.Total r] [IsTrans α r] [Std.Total s]
    [IsTrans α s] {p : α → Bool} {l : List α}
    (h : ∀ a ∈ l, ∀ b ∈ l, p a = true → p b = true → (r a b ↔ s a b)) :
    (l.insertionSort r).find? p = (l.insertionSort s).find? p := by
  rw [← List.head?_filter, ← List.head?_filter, filter_insertionSort,
    filter_insertionSort]
  have hsort := List.map_insertionSort r s id (l.filter p) (by
    intro a ha b hb
    rw [List.mem_filter] at ha hb
    exact h a ha.1 b hb.1 ha.2 hb.2)
  rw [List.map_id, List.map_id] at hsort
  rw [hsort]

end Support
