import Mathlib.Data.List.Perm.Basic
import Mathlib.Data.List.Sort

/-!
# Paging through a sorted table

Every page is cut out of an order of its own: rows with equal keys may come in
any order, and in another one on the next page.  The pages list every row once
in all such orders if and only if no page boundary runs between rows with equal
keys.
-/

namespace Support

universe u

variable {α : Type u}

/-- The pages of `size` rows, where page `k` is taken from the order `o k`. -/
def concatPages (size pages : ℕ) (o : ℕ → List α) : List α :=
  (List.range pages).flatMap fun k => ((o k).drop (k * size)).take size

/-- The rows in an order allowed by the keys. -/
def SortedBy (le : α → α → Prop) (rows o : List α) : Prop :=
  o.Perm rows ∧ o.Pairwise le

/-- No rows with equal keys stand on both sides of the position `a`. -/
def CleanCut (le : α → α → Prop) [DecidableRel le] (rows : List α) (a : ℕ) :
    Prop :=
  ∀ d ∈ rows, a ≤ rows.countP (fun x => ¬le d x) ∨
    rows.countP (fun x => le x d) ≤ a

instance (le : α → α → Prop) [DecidableRel le] (rows : List α) (a : ℕ) :
    Decidable (CleanCut le rows a) :=
  inferInstanceAs (Decidable (∀ d ∈ rows, _ ∨ _))

section

variable {le : α → α → Prop} [DecidableRel le] {rows o : List α} {a : ℕ}

/-- What precedes a clean cut is the same in every order. -/
theorem take_eq_filter_of_cleanCut (hrefl : ∀ x, le x x)
    (ho : SortedBy le rows o) (hcut : CleanCut le rows a) :
    o.take a = o.filter fun d => rows.countP (fun x => le x d) ≤ a := by
  have hsorted := ho.2
  rw [← List.take_append_drop a o, List.pairwise_append] at hsorted
  obtain ⟨-, hdrop, hcross⟩ := hsorted
  have hcount (p : α → Bool) : rows.countP p =
      (o.take a).countP p + (o.drop a).countP p := by
    rw [← List.countP_append, List.take_append_drop]
    exact (ho.1.countP_eq p).symm
  have hfirst : ((o.take a).filter fun d =>
      rows.countP (fun x => le x d) ≤ a) = o.take a := by
    rw [List.filter_eq_self]
    intro d hd
    have hmem : d ∈ rows := ho.1.subset (List.mem_of_mem_take hd)
    -- Only rows before the cut come before `d`, and `d` is not one of them.
    have hbefore : rows.countP (fun x => ¬le d x) < a := by
      have hnone : (o.drop a).countP (fun x => ¬le d x) = 0 := by
        rw [List.countP_eq_zero]
        intro x hx
        simpa using hcross d hd x hx
      have hsome : (o.take a).countP (fun x => ¬le d x) < (o.take a).length := by
        apply lt_of_le_of_ne List.countP_le_length
        intro heq
        have hd := List.countP_eq_length.mp heq d hd
        exact of_decide_eq_true hd (hrefl d)
      rw [List.length_take] at hsome
      rw [hcount, hnone]
      omega
    have hupto := (hcut d hmem).resolve_left (by omega)
    simpa using hupto
  have hrest : ((o.drop a).filter fun d =>
      rows.countP (fun x => le x d) ≤ a) = [] := by
    rw [List.filter_eq_nil_iff]
    intro d hd
    -- All rows before the cut come before `d`, and so does `d`.
    have hall : (o.take a).countP (fun x => le x d) = (o.take a).length := by
      rw [List.countP_eq_length]
      intro x hx
      simpa using hcross x hx d hd
    have hself : 0 < (o.drop a).countP (fun x => le x d) := by
      rw [List.countP_pos_iff]
      exact ⟨d, hd, by simpa using hrefl d⟩
    have hlength := List.length_pos_of_mem hd
    rw [List.length_drop] at hlength
    rw [List.length_take] at hall
    have hupto := hcount fun x => le x d
    rw [hall] at hupto
    simp only [decide_eq_true_eq, not_le]
    omega
  conv_rhs => rw [← List.take_append_drop a o, List.filter_append, hfirst,
    hrest, List.append_nil]

theorem take_perm_of_cleanCut {o o' : List α} (hrefl : ∀ x, le x x)
    (ho : SortedBy le rows o) (ho' : SortedBy le rows o')
    (hcut : CleanCut le rows a) : (o.take a).Perm (o'.take a) := by
  rw [take_eq_filter_of_cleanCut hrefl ho hcut,
    take_eq_filter_of_cleanCut hrefl ho' hcut]
  exact (ho.1.trans ho'.1.symm).filter _

end

section

variable {le : α → α → Prop} [DecidableRel le] {rows : List α}
  {o : ℕ → List α} {size pages : ℕ}

theorem concatPages_succ (size pages : ℕ) (o : ℕ → List α) :
    concatPages size (pages + 1) o =
      concatPages size pages o ++
        ((o pages).drop (pages * size)).take size := by
  rw [concatPages, List.range_succ, List.flatMap_append,
    List.flatMap_singleton]
  rfl

/-- The pages so far are the rows before the next cut. -/
theorem concatPages_perm_take (hrefl : ∀ x, le x x)
    (ho : ∀ k, SortedBy le rows (o k))
    (hcut : ∀ k ≤ pages, CleanCut le rows (k * size)) {o' : List α}
    (ho' : SortedBy le rows o') :
    (concatPages size pages o).Perm (o'.take (pages * size)) := by
  induction pages generalizing o' with
  | zero => simp [concatPages]
  | succ pages ih =>
      rw [concatPages_succ]
      -- What came before this page is what precedes it in its own order.
      have hpages := (ih (fun k hk => hcut k (by omega))
        (ho pages)).append_right (((o pages).drop (pages * size)).take size)
      rw [← List.take_add, ← Nat.succ_mul] at hpages
      exact hpages.trans
        (take_perm_of_cleanCut hrefl (ho pages) ho' (hcut _ le_rfl))

theorem cleanCut_of_length_le {a : ℕ} (h : rows.length ≤ a) :
    CleanCut le rows a :=
  fun _ _ => .inr (List.countP_le_length.trans h)

theorem cleanCut_zero : CleanCut le rows 0 := fun _ _ => .inl (Nat.zero_le _)

/-- Clean cuts make the pages list every row once. -/
theorem concatPages_perm (hrefl : ∀ x, le x x)
    (ho : ∀ k, SortedBy le rows (o k)) (hall : rows.length ≤ pages * size)
    (hcut : ∀ k, 0 < k → k < pages → CleanCut le rows (k * size)) :
    (concatPages size pages o).Perm rows := by
  have hcuts : ∀ k ≤ pages, CleanCut le rows (k * size) := by
    intro k hk
    rcases hk.eq_or_lt with rfl | hlt
    · exact cleanCut_of_length_le hall
    · rcases k.eq_zero_or_pos with rfl | hpos
      · rw [Nat.zero_mul]
        exact cleanCut_zero
      · exact hcut k hpos hlt
  have hperm := concatPages_perm_take hrefl ho hcuts (ho 0)
  rw [List.take_of_length_le (by rw [(ho 0).1.length_eq]; exact hall)] at hperm
  exact hperm.trans (ho 0).1

/-- Two rows with equal keys stand next to a cut that is not clean. -/
theorem exists_tie_of_not_cleanCut {o : List α} {a : ℕ}
    (htrans : ∀ x y z, le x y → le y z → le x z) (ho : SortedBy le rows o)
    (hcut : ¬CleanCut le rows (a + 1)) :
    ∃ l x y r, o = l ++ x :: y :: r ∧ l.length = a ∧ le y x := by
  rw [CleanCut] at hcut
  push Not at hcut
  obtain ⟨d, -, hbefore, hupto⟩ := hcut
  have hlength : a + 1 < o.length := by
    rw [ho.1.length_eq]
    exact hupto.trans_le List.countP_le_length
  obtain ⟨l, x, y, r, rfl, rfl⟩ :
      ∃ l x y r, o = l ++ x :: y :: r ∧ l.length = a := by
    refine ⟨o.take a, o[a], o[a + 1], o.drop (a + 2), ?_, ?_⟩
    · rw [← List.drop_eq_getElem_cons, ← List.drop_eq_getElem_cons,
        List.take_append_drop]
    · rw [List.length_take]
      omega
  refine ⟨l, x, y, r, rfl, rfl, ?_⟩
  have hsorted := ho.2
  rw [List.pairwise_append, List.pairwise_cons, List.pairwise_cons] at hsorted
  obtain ⟨-, ⟨hx, hy, -⟩, hl⟩ := hsorted
  rw [← ho.1.countP_eq, List.countP_append, List.countP_cons] at hbefore hupto
  have hdx : le d x := by
    by_contra hdx
    have hall : l.countP (fun z => ¬le d z) = l.length := by
      rw [List.countP_eq_length]
      intro z hz
      have hdz : ¬le d z := fun hdz =>
        hdx (htrans _ _ _ hdz (hl z hz x List.mem_cons_self))
      simpa using hdz
    rw [hall, if_pos (by simpa using hdx)] at hbefore
    omega
  have hyd : le y d := by
    by_contra hyd
    have hnone : (y :: r).countP (fun z => le z d) = 0 := by
      rw [List.countP_eq_zero]
      intro z hz
      have hzd : ¬le z d := by
        intro hzd
        rcases List.mem_cons.mp hz with rfl | hz
        · exact hyd hzd
        · exact hyd (htrans _ _ _ (hy z hz) hzd)
      simpa using hzd
    have hle : l.countP (fun z => le z d) ≤ l.length := List.countP_le_length
    rw [hnone] at hupto
    split at hupto <;> omega
  exact htrans _ _ _ hyd hdx

omit [DecidableRel le] in
/-- Orders of the rows that agree except that two neighbours with equal keys
change places. -/
theorem sortedBy_swap {l r : List α} {x y : α}
    (ho : SortedBy le rows (l ++ x :: y :: r)) (hyx : le y x) :
    SortedBy le rows (l ++ y :: x :: r) := by
  constructor
  · exact ((List.Perm.swap x y r).append_left l).trans ho.1
  · have hsorted := ho.2
    simp only [List.pairwise_append, List.pairwise_cons, List.mem_cons,
      forall_eq_or_imp] at hsorted ⊢
    obtain ⟨hl, ⟨⟨-, hx⟩, hy, hr⟩, hcross⟩ := hsorted
    refine ⟨hl, ⟨⟨hyx, hy⟩, hx, hr⟩, fun z hz => ?_⟩
    obtain ⟨hzx, hzy, hzr⟩ := hcross z hz
    exact ⟨hzy, hzx, hzr⟩

omit [DecidableRel le] in
/-- The row before a page boundary ends the page before it. -/
theorem mem_page {l r : List α} {x : α} {k : ℕ} (hsize : 0 < size)
    (hl : l.length + 1 = (k + 1) * size) :
    x ∈ ((l ++ x :: r).drop (k * size)).take size := by
  rw [Nat.succ_mul] at hl
  have hlength : (l.drop (k * size) ++ [x]).length = size := by
    rw [List.length_append, List.length_drop, List.length_singleton]
    omega
  rw [List.drop_append_of_le_length (by omega), List.append_cons,
    List.take_left' hlength]
  simp

/-- Rows with equal keys on both sides of a page boundary let one of them come
twice. -/
theorem exists_not_perm_concatPages
    (htrans : ∀ x y z, le x y → le y z → le x z)
    (htotal : ∀ x y, le x y ∨ le y x) (hnodup : rows.Nodup) {k : ℕ}
    (hk : k + 1 < pages) (hsize : 0 < size)
    (hcut : ¬CleanCut le rows ((k + 1) * size)) :
    ∃ o : ℕ → List α, (∀ k, SortedBy le rows (o k)) ∧
      ¬(concatPages size pages o).Perm rows := by
  have : Std.Total le := ⟨htotal⟩
  have : IsTrans α le := ⟨htrans⟩
  have ho : SortedBy le rows (rows.insertionSort le) :=
    ⟨List.perm_insertionSort le rows, List.pairwise_insertionSort le rows⟩
  obtain ⟨a, ha⟩ : ∃ a, (k + 1) * size = a + 1 :=
    Nat.exists_eq_succ_of_ne_zero (Nat.mul_pos k.succ_pos hsize).ne'
  obtain ⟨l, x, y, r, heq, rfl, hyx⟩ :=
    exists_tie_of_not_cleanCut htrans ho (ha ▸ hcut)
  rw [heq] at ho
  refine ⟨fun j => if j = k + 1 then l ++ y :: x :: r else l ++ x :: y :: r,
    fun j => ?_, fun hperm => ?_⟩
  · dsimp only
    split
    · exact sortedBy_swap ho hyx
    · exact ho
  · -- The row `x` ends one page and begins the next one.
    have hpages := hperm.nodup_iff.mpr hnodup
    rw [concatPages, List.nodup_flatMap, List.pairwise_iff_getElem] at hpages
    have hdisjoint := hpages.2 k (k + 1) (by rw [List.length_range]; omega)
      (by rw [List.length_range]; omega) (by omega)
    have hnext : (l ++ y :: x :: r).drop ((k + 1) * size) = x :: r := by
      rw [ha, List.append_cons]
      exact List.drop_left' (by simp)
    rw [List.getElem_range, List.getElem_range, Function.onFun_apply,
      if_neg (by omega), if_pos rfl, hnext] at hdisjoint
    refine hdisjoint (mem_page hsize ha.symm) ?_
    obtain ⟨size, rfl⟩ := Nat.exists_eq_succ_of_ne_zero hsize.ne'
    exact List.mem_cons_self

/-- **The pages list every row once** in all orders if and only if every page
boundary is a clean cut. -/
theorem concatPages_perm_iff (htrans : ∀ x y z, le x y → le y z → le x z)
    (htotal : ∀ x y, le x y ∨ le y x) (hnodup : rows.Nodup)
    (hsize : 0 < size) (hall : rows.length ≤ pages * size) :
    (∀ o : ℕ → List α, (∀ k, SortedBy le rows (o k)) →
        (concatPages size pages o).Perm rows) ↔
      ∀ k, 0 < k → k < pages → CleanCut le rows (k * size) := by
  constructor
  · intro hperm k hpos hk
    obtain ⟨k, rfl⟩ := Nat.exists_eq_succ_of_ne_zero hpos.ne'
    by_contra hcut
    obtain ⟨o, ho, hnot⟩ := exists_not_perm_concatPages htrans htotal hnodup
      hk hsize hcut
    exact hnot (hperm o ho)
  · intro hcut o ho
    exact concatPages_perm (fun x => (htotal x x).elim id id) ho hall hcut

end

end Support
