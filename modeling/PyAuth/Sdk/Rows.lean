import PyAuth.Sdk.Provenance

/-!
# What holds of all rows

Every operation of every SDK reads the rows, changes that of its own product
and writes all of them back, perhaps with rounded numbers.  A property of rows
which survives rounding therefore holds of all rows of the file for ever, when
it holds of them at first and the changes to single rows keep it.  A row
belongs to what all languages leave of its name.
-/

namespace PyAuth.Sdk

open Support Client

variable {isSpace : Char → Bool} [WhiteSpace isSpace]
  {R R' : String → Row → Prop} {root root' : Root}
  {content content' : Option Root} {load : String → Option Row}
  {f : Row → Row} {s t : String} {row : Row}

/-- Every row of the root satisfies `R`. -/
def RowsSatisfy (R : String → Row → Prop) (root : Root) : Prop :=
  ∀ k v row, root.get k = some v → k ∉ reservedRootKeys →
    v.dict? = some row → R (core k) (row.erase "software_name")

/-- The property does not depend on the precision of numbers. -/
def SurvivesRounding (R : String → Row → Prop) : Prop :=
  ∀ t row f, Rounding f → R t row → R t (row.mapValues f)

namespace RowsSatisfy

theorem mono (h : RowsSatisfy R root) (hsub : ∀ t row, R t row → R' t row) :
    RowsSatisfy R' root :=
  fun k v row hk hres hrow => hsub _ _ (h k v row hk hres hrow)

theorem empty : RowsSatisfy R .empty := by
  intro k v row hk
  rw [Dict.get_empty] at hk
  contradiction

theorem of_load (h : RowsSatisfy R root) (hload : Loads isSpace root load)
    (ht : load t = some row) : R (core t) row := by
  obtain ⟨k, v, hk, happ⟩ := hload.sound ht
  obtain ⟨hres, rfl, -, d, hd, rfl⟩ := appRow?_eq_some_iff.mp happ
  rw [core_strip]
  exact h k v d hk hres hd

theorem within (h : RowsSatisfy R root) (hR : SurvivesRounding R)
    (hroot : Within root root') : RowsSatisfy R root' := by
  obtain ⟨g, hg, hget⟩ := hroot
  intro k v row hk hres hrow
  rcases hget k with hnone | heq
  · rw [hnone] at hk
    contradiction
  · rw [heq, Option.map_eq_some_iff] at hk
    obtain ⟨w, hw, rfl⟩ := hk
    rw [hg.dict?_eq, Option.map_eq_some_iff] at hrow
    obtain ⟨d, hd, rfl⟩ := hrow
    rw [← Dict.mapValues_erase]
    exact hR _ _ g hg (h k w d hw hres hd)

/-- Members under a reserved name are no rows. -/
theorem erase_iff {k : String} (hk : k ∈ reservedRootKeys) :
    RowsSatisfy R (root.erase k) ↔ RowsSatisfy R root := by
  constructor
  · intro h k' v row hk' hres
    have hne : k' ≠ k := by
      rintro rfl
      exact hres hk
    exact h k' v row (by rw [Dict.get_erase_of_ne hne, hk']) hres
  · intro h k' v row hk' hres
    rw [Dict.get_erase] at hk'
    split at hk'
    · contradiction
    · exact h k' v row hk' hres

theorem rewritten (h : RowsSatisfy R root) (hload : Loads isSpace root load)
    (hroot : Rewritten root load s row root')
    (hrow : R (core s) (row.erase "software_name")) :
    RowsSatisfy R root' := by
  intro k v d hk hres hd
  rcases hroot.members hk hd with ⟨rfl, rfl⟩ | ⟨-, hget⟩ | ⟨-, hres', -⟩
  · exact hrow
  · rw [(hload.trimmed hget).2.2]
    exact h.of_load hload hget
  · exact (hres hres').elim

end RowsSatisfy

/-- Every row that can be loaded from what can be read satisfies `R`. -/
def ContentSatisfies (R : String → Row → Prop) (content : Option Root) :
    Prop :=
  ∀ root, content = some root → RowsSatisfy R root

namespace ContentSatisfies

theorem mono (h : ContentSatisfies R content)
    (hsub : ∀ t row, R t row → R' t row) : ContentSatisfies R' content :=
  fun root hroot => (h root hroot).mono hsub

theorem keeps (h : ContentSatisfies R content)
    (hkeeps : Keeps content content') : ContentSatisfies R content' := by
  rcases hkeeps with rfl | rfl
  · exact h
  · intro root hroot
    contradiction

/-- What an operation goes on with. -/
theorem of_read (h : ContentSatisfies R content) (hR : SurvivesRounding R)
    {m : Root} (hroot : root = .empty ∨ content = some root)
    (hm : Within root m) : RowsSatisfy R m := by
  rcases hroot with rfl | hroot
  · exact RowsSatisfy.empty.within hR hm
  · exact (h root hroot).within hR hm

theorem rewrites (h : ContentSatisfies R content) (hR : SurvivesRounding R)
    (hrewrites : Rewrites isSpace content s f content')
    (hempty : R (core s) .empty)
    (hf : ∀ sub, R (core s) sub →
      R (core s) ((f sub).erase "software_name")) :
    ContentSatisfies R content' := by
  obtain ⟨root, m, load, root', root'', hroot, hm, hload, hrewritten, rfl,
    hwithin⟩ := hrewrites
  have hrows := h.of_read hR hroot hm
  have hown : R (core s) ((load s).getD .empty) := by
    cases hs : load s with
    | none => exact hempty
    | some row => exact hrows.of_load hload hs
  rintro _ ⟨⟩
  exact (hrows.rewritten hload hrewritten (hf _ hown)).within hR hwithin

end ContentSatisfies

end PyAuth.Sdk
