import Mathlib.Data.List.DropRight

/-!
# Stripping characters from the ends of a string

`strip p` removes the characters satisfying `p` from both ends, `rstrip p`
only from the right one.  What counts as such a character is a parameter: the
results hold for the white space of every language alike.
-/

namespace Support

variable {p : Char → Bool}

def strip (p : Char → Bool) (s : String) : String :=
  String.ofList ((s.toList.dropWhile p).rdropWhile p)

def rstrip (p : Char → Bool) (s : String) : String :=
  String.ofList (s.toList.rdropWhile p)

@[simp] theorem toList_strip (s : String) :
    (strip p s).toList = (s.toList.dropWhile p).rdropWhile p := by
  simp [strip]

@[simp] theorem toList_rstrip (s : String) :
    (rstrip p s).toList = s.toList.rdropWhile p := by
  simp [rstrip]

/-- A prefix of a list which begins outside `p` begins outside `p`. -/
theorem dropWhile_eq_self_of_prefix {xs ys : List Char}
    (hpre : xs <+: ys) (hys : ys.dropWhile p = ys) :
    xs.dropWhile p = xs := by
  rw [List.dropWhile_eq_self_iff] at hys ⊢
  intro hpos
  obtain ⟨zs, rfl⟩ := hpre
  have hhead := hys (by simp; omega)
  simpa [List.getElem_append_left hpos] using hhead

theorem strip_strip (s : String) : strip p (strip p s) = strip p s := by
  have hdrop : ((s.toList.dropWhile p).rdropWhile p).dropWhile p =
      (s.toList.dropWhile p).rdropWhile p :=
    dropWhile_eq_self_of_prefix (List.rdropWhile_prefix _ _)
      (List.dropWhile_idempotent _ _)
  rw [strip, toList_strip, hdrop, List.rdropWhile_idempotent]
  rfl

/-- A text without such characters is left alone. -/
theorem strip_eq_self {cs : List Char} (h : ∀ c ∈ cs, p c = false) :
    strip p (String.ofList cs) = String.ofList cs := by
  have hdrop : cs.dropWhile p = cs := by
    rw [List.dropWhile_eq_self_iff]
    intro hpos
    simp [h _ (List.getElem_mem hpos)]
  have hrdrop : cs.rdropWhile p = cs := by
    rw [List.rdropWhile_eq_self_iff]
    intro hne
    simp [h _ (List.getLast_mem hne)]
  rw [strip, String.toList_ofList, hdrop, hrdrop]

/-- Characters of `q` around a text make no difference to stripping them. -/
theorem strip_append {q : Char → Bool} {xs ys zs : List Char}
    (hxs : ∀ c ∈ xs, q c = true) (hzs : ∀ c ∈ zs, q c = true) :
    strip q (String.ofList (xs ++ ys ++ zs)) = strip q (String.ofList ys) := by
  have hdrop (ws : List Char) : (xs ++ ws).dropWhile q = ws.dropWhile q :=
    List.dropWhile_append_of_pos hxs
  have hrdrop (ws : List Char) : (ws ++ zs).rdropWhile q = ws.rdropWhile q := by
    rw [List.rdropWhile, List.reverse_append,
      List.dropWhile_append_of_pos fun c hc => hzs c (List.mem_reverse.mp hc),
      List.rdropWhile]
  rw [strip, strip, String.toList_ofList, String.toList_ofList,
    List.append_assoc, hdrop, List.dropWhile_append]
  split
  · next hall =>
      rw [List.isEmpty_iff.mp hall, List.dropWhile_eq_nil_iff.mpr hzs]
  · rw [hrdrop]

/-- Stripping less before does not change what is left. -/
theorem strip_strip_of_imp {q : Char → Bool}
    (h : ∀ c, p c = true → q c = true) (s : String) :
    strip q (strip p s) = strip q s := by
  have hsplit : s = String.ofList (s.toList.takeWhile p ++
      (s.toList.dropWhile p).rdropWhile p ++
        (s.toList.dropWhile p).rtakeWhile p) := by
    rw [List.append_assoc, List.rdropWhile_append_rtakeWhile,
      List.takeWhile_append_dropWhile, String.ofList_toList]
  conv_rhs => rw [hsplit]
  exact (strip_append (fun c hc => h c (List.mem_takeWhile_imp hc))
    fun c hc => h c (List.mem_rtakeWhile_imp hc)).symm

end Support
