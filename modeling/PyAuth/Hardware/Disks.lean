import Mathlib.Data.List.Sort
import PyAuth.Go.StateBundle
import PyAuth.Support.Collation
import PyAuth.Support.Loop
import PyAuth.TypeScript.StateBundle

/-!
# The volumes of the disks

A volume is listed under the model of its disk.  A volume without a model gets
a name made of its device or its mount point, and the SDKs try names until
they find one which no such volume was given before.  The three SDKs differ in
how they trim and in how they sort the volumes of a disk by mount point.
-/

namespace PyAuth.Hardware

open Support

/-! ## Names for volumes without a model -/

section

variable (trim : String → String)

/-- The name which is tried first. -/
def volumeBase (model mount device : String) : String :=
  if trim model ≠ "" then trim model
  else if trim device ≠ "" then trim device
  else if trim mount ≠ "" then trim mount
  else "unknown"

/-- The name and the suffix after one turn of the loop. -/
def nextKey (base mount : String) (s : String × ℕ) : String × ℕ :=
  let suffix := s.2 + 1
  (if suffix = 1 then base ++ " @ " ++ mount
    else base ++ " @ " ++ mount ++ " (" ++ toString suffix ++ ")", suffix)

/-- The loop over the names, given up after `turns` tests. -/
def searchKey (model mount device : String) (used : Finset String)
    (turns : ℕ) : Option (String × ℕ) :=
  let base := volumeBase trim model mount device
  loop (fun s => decide (s.1 ∈ used)) (nextKey base mount) turns (base, 0)

/-- The name with a given suffix. -/
def numberedKey (base mount : String) : ℕ → String
  | 0 => base
  | suffix + 1 => (nextKey base mount ("", suffix)).1

theorem iterate_nextKey (base mount : String) (n : ℕ) :
    (nextKey base mount)^[n] (base, 0) = (numberedKey base mount n, n) := by
  induction n with
  | zero => rfl
  | succ n ih => rw [Function.iterate_succ_apply', ih]; rfl

theorem length_numberedKey (base mount : String) (n : ℕ) :
    (numberedKey base mount n).length =
      base.length + (if n = 0 then 0 else 3 + mount.length) +
        if n ≤ 1 then 0 else 3 + (toString n).length := by
  have hat : " @ ".length = 3 := by decide
  have hparens : " (".length = 2 ∧ ")".length = 1 := by decide
  match n with
  | 0 => rfl
  | 1 =>
      rw [numberedKey, nextKey, if_pos rfl]
      simp only [String.length_append, hat, one_ne_zero, if_false, le_refl,
        if_true]
      omega
  | n + 2 =>
      have hsuffix : n + 1 + 1 = n + 2 := rfl
      rw [numberedKey, nextKey, if_neg (by omega), if_neg (by omega),
        if_neg (by omega)]
      simp only [String.length_append, hat, hparens, hsuffix]
      omega

theorem toString_injective : Function.Injective (toString : ℕ → String) := by
  intro m n h
  have hdigits := congrArg (fun s : String => Nat.ofDigitChars 10 s.toList 0) h
  simpa [Nat.toString_eq_ofList_toDigits] using hdigits

/-- Different suffixes give different names. -/
theorem numberedKey_injective (base mount : String) :
    Function.Injective (numberedKey base mount) := by
  intro m n h
  have hlength := congrArg String.length h
  rw [length_numberedKey, length_numberedKey] at hlength
  match m, n with
  | 0, 0 | 1, 1 => rfl
  | 0, n + 1 | m + 1, 0 | 1, n + 2 | m + 2, 1 =>
      exfalso
      split_ifs at hlength <;> omega
  | m + 2, n + 2 =>
      have htext : toString (m + 2) = toString (n + 2) := by
        simpa [numberedKey, nextKey, String.append_assoc] using h
      exact toString_injective htext

/-- The search ends before there are more turns than names to avoid. -/
theorem exists_searchKey (model mount device : String)
    (used : Finset String) : ∃ n ≤ used.card,
      numberedKey (volumeBase trim model mount device) mount n ∉ used ∧
      ∀ turns, used.card < turns →
        searchKey trim model mount device used turns =
          some (numberedKey (volumeBase trim model mount device) mount n,
            n) := by
  set base := volumeBase trim model mount device
  obtain ⟨n, hn, hfresh⟩ := exists_notMem_of_injective
    (numberedKey_injective base mount) used
  have hend : decide (((nextKey base mount)^[n] (base, 0)).1 ∈ used) = false := by
    rw [iterate_nextKey]
    simpa using hfresh
  obtain ⟨m, hm, hstop, hloop⟩ := exists_loop_eq_some
    (fun s : String × ℕ => decide (s.1 ∈ used)) hend
  rw [iterate_nextKey] at hstop hloop
  refine ⟨m, hm.trans hn, by simpa using hstop, fun turns hturns => ?_⟩
  exact hloop turns (by omega)

theorem isSome_searchKey (model mount device : String)
    (used : Finset String) :
    (searchKey trim model mount device used (used.card + 1)).isSome := by
  obtain ⟨n, -, -, hsearch⟩ := exists_searchKey trim model mount device used
  rw [hsearch _ (Nat.lt_succ_self _)]
  rfl

/-- The name, and the set of used names after it. -/
def diskVolumeMapKey (model mount device : String) (used : Finset String) :
    String × Finset String :=
  let k := ((searchKey trim model mount device used (used.card + 1)).get
    (isSome_searchKey trim model mount device used)).1
  (k, insert k used)

/-- A search that ends, whatever the number of turns it may take beyond the
used names, finds a name which was not used, and uses it. -/
structure EndsFresh (search : ℕ → Option (String × ℕ))
    (used : Finset String) (result : String × Finset String) : Prop where
  ends : ∃ suffix ≤ used.card, ∀ turns, used.card < turns →
    search turns = some (result.1, suffix)
  fresh : result.1 ∉ used
  adds : result.2 = insert result.1 used

theorem endsFresh_diskVolumeMapKey (model mount device : String)
    (used : Finset String) :
    EndsFresh (searchKey trim model mount device used) used
      (diskVolumeMapKey trim model mount device used) := by
  obtain ⟨n, hn, hfresh, hsearch⟩ :=
    exists_searchKey trim model mount device used
  have hkey : (diskVolumeMapKey trim model mount device used).1 =
      numberedKey (volumeBase trim model mount device) mount n := by
    simp only [diskVolumeMapKey, hsearch _ (Nat.lt_succ_self _),
      Option.get_some]
  refine ⟨⟨n, hn, fun turns hturns => ?_⟩, ?_, rfl⟩
  · rw [hsearch turns hturns, hkey]
  · rw [hkey]
    exact hfresh

end

/-- `_disk_volume_map_key`. -/
def Python.diskVolumeMapKey : String → String → String → Finset String →
    String × Finset String :=
  Hardware.diskVolumeMapKey Python.strip

def Go.diskVolumeMapKey : String → String → String → Finset String →
    String × Finset String :=
  Hardware.diskVolumeMapKey Go.trimSpace

def TypeScript.diskVolumeMapKey : String → String → String → Finset String →
    String × Finset String :=
  Hardware.diskVolumeMapKey TypeScript.trim

/-- **The search for a name ends with a fresh one.**  For every finite set of
used names, in each SDK, the loop ends after at most one turn more than there
are used names; so its counter never exceeds their number. -/
theorem fallback_key_is_fresh (model mount device : String)
    (used : Finset String) :
    EndsFresh (searchKey Python.strip model mount device used) used
        (Python.diskVolumeMapKey model mount device used) ∧
      EndsFresh (searchKey Go.trimSpace model mount device used) used
        (Go.diskVolumeMapKey model mount device used) ∧
      EndsFresh (searchKey TypeScript.trim model mount device used) used
        (TypeScript.diskVolumeMapKey model mount device used) :=
  ⟨endsFresh_diskVolumeMapKey _ model mount device used,
    endsFresh_diskVolumeMapKey _ model mount device used,
    endsFresh_diskVolumeMapKey _ model mount device used⟩

example : Python.diskVolumeMapKey "" "/" "disk" {"disk", "disk @ /"} =
    ("disk @ / (2)", {"disk @ / (2)", "disk", "disk @ /"}) := by
  decide +kernel

end PyAuth.Hardware
