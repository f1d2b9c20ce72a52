import PyAuth.Support.Strip

/-!
# Two kinds of trailing elements

Where the elements of two disjoint kinds are removed from the right end in
turn, what is left depends on the number of turns.  It no longer does once
nothing of the first kind is left at the end.
-/

namespace Support

open List

variable {α : Type*} {p q : α → Bool} {l : List α}

/-! ## One kind -/

theorem rdropWhile_append_of_all {s : List α} (h : ∀ x ∈ s, q x = true) :
    (l ++ s).rdropWhile q = l.rdropWhile q := by
  induction s using List.reverseRecOn with
  | nil => rw [append_nil]
  | append_singleton s x ih =>
      rw [← append_assoc, rdropWhile_concat_pos _ _ _ (h x (by simp))]
      exact ih fun y hy => h y (by simp [hy])

theorem rdropWhile_append_of_none {s : List α} (hs : s ≠ [])
    (h : ∀ x ∈ s, q x = false) : (l ++ s).rdropWhile q = l ++ s := by
  rw [rdropWhile_eq_self_iff]
  intro _
  rw [getLast_append_of_ne_nil _ hs, h _ (getLast_mem hs)]
  exact Bool.false_ne_true

/-- What is removed from the right end. -/
theorem exists_append_rdropWhile (q : α → Bool) (l : List α) :
    ∃ s, l = l.rdropWhile q ++ s ∧ ∀ x ∈ s, q x = true :=
  ⟨l.rtakeWhile q, rdropWhile_append_rtakeWhile.symm,
    fun _ hx => mem_rtakeWhile_imp hx⟩

/-- Removing from the left and from the right end commute. -/
theorem dropWhile_rdropWhile :
    (l.rdropWhile q).dropWhile p = (l.dropWhile p).rdropWhile q := by
  induction l using List.reverseRecOn with
  | nil => rfl
  | append_singleton l x ih =>
      by_cases hx : q x = true
      · rw [rdropWhile_concat_pos _ _ _ hx, ih, dropWhile_append]
        split
        next hempty =>
          have hall : ∀ y ∈ [x].dropWhile p, q y = true := by
            intro y hy
            rw [mem_singleton.mp ((dropWhile_suffix p).subset hy)]
            exact hx
          rw [List.isEmpty_iff.mp hempty, rdropWhile_eq_nil_iff.mpr hall,
            rdropWhile_nil]
        · rw [rdropWhile_concat_pos _ _ _ hx]
      · rw [rdropWhile_concat_neg _ _ _ hx, eq_comm, rdropWhile_eq_self_iff]
        intro hne
        have hlast : ((l ++ [x]).dropWhile p).getLast hne = x := by
          rw [(dropWhile_suffix p).getLast hne, getLast_concat]
        rwa [hlast]

/-! ## Two kinds -/

section

variable (hdisjoint : ∀ x, p x = true → q x = false)

include hdisjoint

/-- A list does not end with elements of both kinds. -/
theorem rdropWhile_eq_self_or (l : List α) :
    l.rdropWhile p = l ∨ l.rdropWhile q = l := by
  induction l using List.reverseRecOn with
  | nil => exact Or.inl rfl
  | append_singleton l x _ =>
      cases hx : p x with
      | false => exact Or.inl (rdropWhile_concat_neg _ _ _ (by simp [hx]))
      | true =>
          exact Or.inr (rdropWhile_concat_neg _ _ _ (by
            simp [hdisjoint x hx]))

omit hdisjoint in
/-- A further turn changes nothing exactly if nothing of the first kind is
left. -/
theorem rdropWhile_rdropWhile_eq_iff {m : List α}
    (hm : m.rdropWhile q = m) :
    (m.rdropWhile p).rdropWhile q = m ↔ m.rdropWhile p = m := by
  constructor
  · intro h
    have hle := List.IsPrefix.length_le <|
      rdropWhile_prefix q (m.rdropWhile p)
    rw [h] at hle
    exact List.IsPrefix.eq_of_length_le ( rdropWhile_prefix p m) hle
  · intro h
    rw [h, hm]

/-- Starting with either kind leaves the same, if nothing of the first kind
is left. -/
theorem rdropWhile_turns_eq
    (h : (((l.rdropWhile q).rdropWhile p).rdropWhile q).rdropWhile p =
      ((l.rdropWhile q).rdropWhile p).rdropWhile q) :
    (((l.rdropWhile p).rdropWhile q).rdropWhile p).rdropWhile q =
      ((l.rdropWhile q).rdropWhile p).rdropWhile q := by
  rcases rdropWhile_eq_self_or hdisjoint l with hl | hl
  · rw [hl]
  · rw [hl] at h ⊢
    rw [h, rdropWhile_idempotent]

end

/-- The list ends with an element of no kind, then some of the first, some of
the second, some of the first kind and any number of the second. -/
def EndsInTurns (p q : α → Bool) (l : List α) : Prop :=
  ∃ a x s₁ s₂ s₃ s₄, l = a ++ [x] ++ s₁ ++ s₂ ++ s₃ ++ s₄ ∧ p x = false ∧
    (s₁ ≠ [] ∧ ∀ y ∈ s₁, p y = true) ∧ (s₂ ≠ [] ∧ ∀ y ∈ s₂, q y = true) ∧
    (s₃ ≠ [] ∧ ∀ y ∈ s₃, p y = true) ∧ ∀ y ∈ s₄, q y = true

section

variable (hdisjoint : ∀ x, p x = true → q x = false)

include hdisjoint

omit hdisjoint in
theorem dropWhile_append_of_neg {a s : List α} {x : α} (hx : p x = false) :
    (a ++ [x] ++ s).dropWhile p = (a ++ [x]).dropWhile p ++ s := by
  rw [dropWhile_append, if_neg]
  intro hempty
  rw [List.isEmpty_iff, dropWhile_eq_nil_iff] at hempty
  have := hempty x (by simp)
  simp [hx] at this

/-- Three turns leave elements of the first kind at the end of such a list. -/
theorem EndsInTurns.rdropWhile_ne (h : EndsInTurns p q l) :
    (((l.dropWhile p).rdropWhile q).rdropWhile p).rdropWhile q ≠
      ((((l.dropWhile p).rdropWhile q).rdropWhile p).rdropWhile q).rdropWhile
        p := by
  obtain ⟨a, x, s₁, s₂, s₃, s₄, rfl, hx, ⟨hs₁, h₁⟩, ⟨hs₂, h₂⟩, ⟨hs₃, h₃⟩, h₄⟩ := h
  have hp₂ : ∀ y ∈ s₂, p y = false := by
    intro y hy
    by_contra hpy
    rw [Bool.not_eq_false] at hpy
    simpa [hdisjoint y hpy] using h₂ y hy
  simp only [← dropWhile_rdropWhile]
  rw [rdropWhile_append_of_all h₄,
    rdropWhile_append_of_none hs₃ fun y hy => hdisjoint y (h₃ y hy),
    rdropWhile_append_of_all h₃, rdropWhile_append_of_none hs₂ hp₂,
    rdropWhile_append_of_all h₂,
    rdropWhile_append_of_none hs₁ fun y hy => hdisjoint y (h₁ y hy),
    rdropWhile_append_of_all h₁, rdropWhile_concat_neg _ _ _ (by simp [hx]),
    dropWhile_append_of_neg hx]
  exact fun heq => hs₁ (append_right_eq_self.mp heq)

omit hdisjoint in
/-- Only at the end of such a list three turns leave elements of the first
kind. -/
theorem endsInTurns_of_ne
    (h : ((((l.dropWhile p).rdropWhile q).rdropWhile p).rdropWhile q).rdropWhile
        p ≠ (((l.dropWhile p).rdropWhile q).rdropWhile p).rdropWhile q) :
    EndsInTurns p q l := by
  simp only [← dropWhile_rdropWhile] at h
  obtain ⟨s₄, hl, h₄⟩ := exists_append_rdropWhile q l
  obtain ⟨s₃, hr, h₃⟩ := exists_append_rdropWhile p (l.rdropWhile q)
  obtain ⟨s₂, ht, h₂⟩ :=
    exists_append_rdropWhile q ((l.rdropWhile q).rdropWhile p)
  obtain ⟨s₁, hA, h₁⟩ :=
    exists_append_rdropWhile p (((l.rdropWhile q).rdropWhile p).rdropWhile q)
  set A := ((l.rdropWhile q).rdropWhile p).rdropWhile q with hAdef
  have hne : A.rdropWhile p ≠ A := fun heq => h (by rw [heq])
  have hsome : A.rdropWhile p ≠ [] := by
    intro hnil
    rw [hnil] at h
    rw [rdropWhile_eq_nil_iff] at hnil
    exact h (dropWhile_eq_nil_iff.mpr hnil).symm
  have hs₁ : s₁ ≠ [] := by
    rintro rfl
    exact hne (by simpa using hA.symm)
  have hs₂ : s₂ ≠ [] := by
    rintro rfl
    rw [append_nil] at ht
    exact hne (by rw [← ht, rdropWhile_idempotent])
  have hs₃ : s₃ ≠ [] := by
    rintro rfl
    rw [append_nil] at hr
    have hA' : A = l.rdropWhile q := by
      rw [hAdef, ← hr, rdropWhile_idempotent]
    rw [← hr, ← hA'] at ht
    exact hs₂ (append_right_eq_self.mp ht.symm)
  refine ⟨(A.rdropWhile p).dropLast, (A.rdropWhile p).getLast hsome, s₁, s₂, s₃,
    s₄, ?_, by simpa using rdropWhile_last_not p A hsome, ⟨hs₁, h₁⟩, ⟨hs₂, h₂⟩,
    ⟨hs₃, h₃⟩, h₄⟩
  rw [dropLast_append_getLast, ← hA, ← ht, ← hr, ← hl]

end

end Support
