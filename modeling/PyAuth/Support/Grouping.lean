import Mathlib.Algebra.BigOperators.Group.Finset.Basic
import Mathlib.Algebra.Order.BigOperators.Group.Finset
import PyAuth.Support.Dict

/-!
# Grouping by keys

A dictionary of lists collects elements under keys, in the order in which they
come.  What the group of a key holds is the sublist of the elements with that
key.  Two ways of choosing keys form the same groups when they tell the same
elements apart, which can be seen from the number of groups.
-/

namespace Support

universe u v w

section Append

variable {κ : Type u} {α : Type v} [DecidableEq κ]

/-- `d.setdefault(k, []).append(a)`. -/
def Dict.append (d : Dict κ (List α)) (k : κ) (a : α) : Dict κ (List α) :=
  d.set k ((d.get k).getD [] ++ [a])

/-- The elements under `k`. -/
def Dict.group (d : Dict κ (List α)) (k : κ) : List α := (d.get k).getD []

theorem Dict.group_append (d : Dict κ (List α)) (k x : κ) (a : α) :
    (d.append k a).group x = if x = k then d.group x ++ [a] else d.group x := by
  rw [group, append, get_set]
  split
  next h => rw [h, Option.getD_some, group]
  next => rfl

/-- The elements added under `k`, in their order. -/
theorem Dict.group_foldl_append (d : Dict κ (List α)) (es : List (κ × α))
    (k : κ) :
    (es.foldl (fun d e => d.append e.1 e.2) d).group k =
      d.group k ++ (es.filter fun e => e.1 = k).map Prod.snd := by
  induction es generalizing d with
  | nil => simp
  | cons e es ih =>
      rw [List.foldl_cons, ih, group_append]
      by_cases h : e.1 = k
      · rw [if_pos h.symm, List.filter_cons_of_pos (by simpa using h)]
        simp
      · rw [if_neg (Ne.symm h), List.filter_cons_of_neg (by simpa using h)]

end Append

section Classes

variable {ι : Type u} {κ : Type v} {γ : Type w} [Fintype ι] [DecidableEq κ]
  [DecidableEq γ] {f : ι → κ} {g : ι → γ}

/-- A coarser choice of keys has at most as many keys. -/
theorem card_image_le_of_coarser (h : ∀ i j, g i = g j → f i = f j) :
    (Finset.univ.image f).card ≤ (Finset.univ.image g).card := by
  classical
  rcases isEmpty_or_nonempty ι with hempty | ⟨⟨i⟩⟩
  · simp
  have : Nonempty κ := ⟨f i⟩
  obtain ⟨e, rfl⟩ := (Function.factorsThrough_iff f).mp h
  rw [← Finset.image_image]
  exact Finset.card_image_le

/-- A coarser choice of keys with as many keys is not coarser. -/
theorem eq_of_coarser_of_card_le (h : ∀ i j, g i = g j → f i = f j)
    (hcard : (Finset.univ.image g).card ≤ (Finset.univ.image f).card)
    {i j : ι} (hij : f i = f j) : g i = g j := by
  classical
  have : Nonempty κ := ⟨f i⟩
  obtain ⟨e, rfl⟩ := (Function.factorsThrough_iff f).mp h
  rw [← Finset.image_image] at hcard
  have hinj := Finset.card_image_iff.mp (le_antisymm Finset.card_image_le hcard)
  exact hinj (by simp) (by simp) hij

/-- Groups which hold at most the elements with their keys, and yet all
elements, hold those with their keys. -/
theorem card_fiber_eq_of_le {f' : ι → κ} {size : κ → ℕ}
    (hsize : ∀ k, (Finset.univ.filter fun i => f i = k).card = size k)
    (hle : ∀ k, size k ≤ (Finset.univ.filter fun i => f' i = k).card)
    (i : ι) : size (f' i) = (Finset.univ.filter fun j => f' j = f' i).card := by
  set keys := Finset.univ.image f ∪ Finset.univ.image f'
  have hcard (f : ι → κ) (hf : Finset.univ.image f ⊆ keys) :
      (Finset.univ : Finset ι).card =
        ∑ k ∈ keys, (Finset.univ.filter fun i => f i = k).card :=
    Finset.card_eq_sum_card_fiberwise fun i _ =>
      hf (Finset.mem_image_of_mem f (Finset.mem_univ i))
  have hsum : ∑ k ∈ keys, size k =
      ∑ k ∈ keys, (Finset.univ.filter fun i => f' i = k).card := by
    rw [← hcard f' Finset.subset_union_right, hcard f Finset.subset_union_left]
    exact Finset.sum_congr rfl fun k _ => (hsize k).symm
  refine (Finset.sum_eq_sum_iff_of_le fun k _ => hle k).mp hsum _ ?_
  exact Finset.mem_union_right _ (Finset.mem_image_of_mem _ (Finset.mem_univ i))

end Classes

end Support
