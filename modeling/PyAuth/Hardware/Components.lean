import PyAuth.Client.DeviceId
import PyAuth.Hardware.Sizes

/-!
# The components of the device id

Every SDK hashes what it finds of the hardware: the MAC address, the id of the
disk, the number of processors, the sizes of the memory and of the disk, the
system, the machine and the name of the software.
-/

namespace PyAuth.Hardware

open Support

/-- What an SDK is told about the machine.  A size is in bytes, `none` if it
cannot be read. -/
structure Machine where
  mac : String
  diskId : String
  cpuCount : ℕ
  memoryTotal : Option ℕ
  diskTotal : Option ℕ
  system : String
  machine : String

/-- The text that is hashed, if there is any component. -/
def hashedText (parts : List String) : Option String :=
  if parts.isEmpty then none else some ("-".intercalate parts)

/-! ## The code -/

namespace Python

/-- The components of `build_device_id` before the name of the software. -/
def hardware (m : Machine) : List (Option String) :=
  [some m.mac, some m.diskId,
    some (if m.cpuCount = 0 then "" else toString m.cpuCount),
    some (strOr (totalGb m.memoryTotal)), some (strOr (totalGb m.diskTotal)),
    some m.system, some m.machine]

/-- `if c`. -/
def keep (c : Option String) : Option String :=
  match c with
  | some s => if s = "" then none else some s
  | none => none

def filtered (m : Machine) (softwareName : String) : List String :=
  (hardware m ++ [some softwareName]).filterMap keep

end Python

def given (s : String) : List String := if s ≠ "" then [s] else []

def pythonStyleComponents (memoryTotalGB diskTotalGB : ℚ) (text : ℚ → String)
    (m : Machine) : List String :=
  given m.mac ++ given m.diskId ++
  (if m.cpuCount ≠ 0 then [toString m.cpuCount] else []) ++
  (if memoryTotalGB ≠ 0 then [text memoryTotalGB] else []) ++
  (if diskTotalGB ≠ 0 then [text diskTotalGB] else []) ++
  given m.system ++ given m.machine

namespace Go

def buildPythonStyleDeviceComponents (m : Machine) (softwareName : String) :
    List String :=
  pythonStyleComponents (totalGB m.memoryTotal) (totalGB m.diskTotal)
    (fun v => pyStyleFloatStr (round2 v)) m ++ given softwareName

end Go

namespace TypeScript

def buildPythonStyleDeviceComponents (m : Machine) : List String :=
  pythonStyleComponents (totalGB m.memoryTotal) (totalGB m.diskTotal)
    (fun v => pyStyleFloatStr (round2 v)) m

/-- The `parts` of `buildDeviceId`. -/
def parts (m : Machine) (softwareName : String) : List String :=
  buildPythonStyleDeviceComponents m ++ given softwareName

end TypeScript

/-- The id which Python derives is that of the text. -/
theorem hardwareDeviceId_eq {β : Type} (P : Client.Primitives β) (m : Machine)
    (softwareName uuid4 : String) :
    Client.hardwareDeviceId P softwareName (Python.hardware m) uuid4 =
      (hashedText (Python.filtered m softwareName)).elim uuid4 fun text =>
        .ofList ((P.hexdigest text).toList.take 32) := by
  rw [hashedText]
  by_cases hempty : (Python.filtered m softwareName).isEmpty
  · rw [if_pos hempty]
    exact if_pos hempty
  · rw [if_neg hempty]
    exact if_neg hempty

/-! ## Components -/

/-- The components of a machine whose sizes have these hundredths. -/
def componentsOf (m : Machine) (softwareName : String) (memory disk : ℤ) :
    List String :=
  given m.mac ++ given m.diskId ++
    (if m.cpuCount ≠ 0 then [toString m.cpuCount] else []) ++
  (sizeText memory ++ (sizeText disk ++
    (given m.system ++ given m.machine ++ given softwareName)))

section

variable {m : Machine} {softwareName : String} {total : Option ℕ} {n : ℤ}

theorem given_of_ne {s : String} (h : s ≠ "") : given s = [s] := if_pos h

theorem given_strOr (h : Below8TiB total) :
    given (Python.strOr (Python.totalGb total)) =
      sizeText (hundredthsEven total) := by
  obtain ⟨⟨hnonneg, hle⟩, -⟩ := rounded_bounds h
  obtain ⟨htotal, -, -⟩ := totals_eq h
  rw [← ite_hundredths hnonneg hle fun hpos => (text_hundredths hpos hle).1]
  rcases hgb : Python.totalGb total with _ | x
  · rw [hgb, Option.getD_none] at htotal
    rw [← htotal, if_neg (not_not.mpr rfl)]
    rfl
  · rw [hgb, Option.getD_some] at htotal
    rw [Python.strOr, htotal]
    by_cases hzero : hundredths (hundredthsEven total) = 0
    · rw [if_pos hzero, if_neg (not_not.mpr hzero)]
      rfl
    · have hpos := hnonneg.lt_of_ne'
        ((hundredths_ne_zero_iff hnonneg hle).mp hzero)
      rw [if_neg hzero, if_pos hzero, given_of_ne]
      rw [(text_hundredths hpos hle).1]
      exact Decimal.pointed_ne_empty _

theorem filterMap_keep_cons (s : String) (cs : List (Option String)) :
    (some s :: cs).filterMap Python.keep = given s ++ cs.filterMap Python.keep := by
  rw [List.filterMap_cons, given, Python.keep]
  by_cases hs : s = ""
  · rw [if_pos hs, if_neg (not_not.mpr hs)]
    rfl
  · rw [if_neg hs, if_pos hs]
    rfl

theorem Python.filtered_eq (hmemory : Below8TiB m.memoryTotal)
    (hdisk : Below8TiB m.diskTotal) :
    filtered m softwareName = componentsOf m softwareName
      (hundredthsEven m.memoryTotal) (hundredthsEven m.diskTotal) := by
  have hcpu : given (if m.cpuCount = 0 then "" else toString m.cpuCount) =
      if m.cpuCount ≠ 0 then [toString m.cpuCount] else [] := by
    by_cases hzero : m.cpuCount = 0
    · rw [if_pos hzero, if_neg (not_not.mpr hzero)]
      rfl
    · rw [if_neg hzero, if_pos hzero]
      exact given_of_ne Nat.repr_ne_empty
  rw [filtered, hardware]
  simp only [List.cons_append, List.nil_append, filterMap_keep_cons,
    given_strOr hmemory, given_strOr hdisk, hcpu, List.filterMap_nil,
    List.append_nil]
  simp only [componentsOf, List.append_assoc]

theorem pythonStyleComponents_eq {text : ℚ → String} {memory disk : ℤ}
    (hmemory : 0 ≤ memory ∧ memory ≤ 2 ^ 20)
    (hdisk : 0 ≤ disk ∧ disk ≤ 2 ^ 20)
    (htext : ∀ n, 0 < n → n ≤ 2 ^ 20 →
      text (hundredths n) = (Decimal.shortest (hundredths n)).pointed) :
    pythonStyleComponents (hundredths memory) (hundredths disk) text m ++
      given softwareName = componentsOf m softwareName memory disk := by
  rw [pythonStyleComponents,
    ite_hundredths hmemory.1 hmemory.2 fun hpos => htext _ hpos hmemory.2,
    ite_hundredths hdisk.1 hdisk.2 fun hpos => htext _ hpos hdisk.2,
    componentsOf]
  simp only [List.append_assoc]

theorem Go.components_eq (hmemory : Below8TiB m.memoryTotal)
    (hdisk : Below8TiB m.diskTotal) :
    buildPythonStyleDeviceComponents m softwareName = componentsOf m softwareName
      (hundredthsUp m.memoryTotal) (hundredthsUp m.diskTotal) := by
  rw [buildPythonStyleDeviceComponents, (totals_eq hmemory).2.1,
    (totals_eq hdisk).2.1]
  exact pythonStyleComponents_eq (rounded_bounds hmemory).2
    (rounded_bounds hdisk).2 fun n hpos hle => (text_hundredths hpos hle).2.1

theorem TypeScript.parts_eq (hmemory : Below8TiB m.memoryTotal)
    (hdisk : Below8TiB m.diskTotal) :
    parts m softwareName = componentsOf m softwareName
      (hundredthsUp m.memoryTotal) (hundredthsUp m.diskTotal) := by
  rw [parts, buildPythonStyleDeviceComponents, (totals_eq hmemory).2.2,
    (totals_eq hdisk).2.2]
  exact pythonStyleComponents_eq (rounded_bounds hmemory).2
    (rounded_bounds hdisk).2 fun n hpos hle => (text_hundredths hpos hle).2.2

end

/-! ## Joined texts -/

section

variable {before after after' : List String} {text text' : String}

/-- The text before the first hyphen. -/
theorem takeWhile_intercalate (h : '-' ∉ text.toList) :
    ("-".intercalate (text :: after)).toList.takeWhile (· ≠ '-') =
      text.toList := by
  have hall : ∀ c ∈ text.toList, (decide (c ≠ '-')) = true := fun c hc =>
    decide_eq_true fun hhyphen => h (hhyphen ▸ hc)
  rcases eq_or_ne after [] with rfl | hne
  · rw [String.intercalate_singleton, List.takeWhile_eq_self_iff.mpr hall]
  · rw [String.intercalate_cons_of_ne_nil hne, String.toList_append,
      String.toList_append, List.append_assoc, List.takeWhile_append_of_pos hall]
    exact List.append_nil _

/-- Joined components differ where a component without hyphens does. -/
theorem hashedText_ne (h : '-' ∉ text.toList) (h' : '-' ∉ text'.toList)
    (hne : text ≠ text') :
    hashedText (before ++ text :: after) ≠
      hashedText (before ++ text' :: after') := by
  have hnonempty : ∀ t l, (before ++ t :: l).isEmpty = false := fun t l =>
    List.isEmpty_eq_false_iff.mpr (by simp)
  intro heq
  rw [hashedText, hashedText, hnonempty, hnonempty] at heq
  have hjoined := Option.some.inj heq
  have htail : "-".intercalate (text :: after) = "-".intercalate (text' :: after') := by
    rcases eq_or_ne before [] with rfl | hbefore
    · exact hjoined
    · rw [String.intercalate_append_of_ne_nil hbefore (List.cons_ne_nil _ _),
        String.intercalate_append_of_ne_nil hbefore (List.cons_ne_nil _ _)]
        at hjoined
      exact (String.append_right_inj _).mp hjoined
  apply hne
  rw [← String.toList_inj, ← takeWhile_intercalate h, htail,
    takeWhile_intercalate h']

end

/-! ## The same text in every SDK -/

/-- The three SDKs hash the same text. -/
def SameText (m : Machine) (softwareName : String) : Prop :=
  hashedText (Python.filtered m softwareName) =
      hashedText (Go.buildPythonStyleDeviceComponents m softwareName) ∧
    hashedText (Go.buildPythonStyleDeviceComponents m softwareName) =
      hashedText (TypeScript.parts m softwareName)

section

variable {m : Machine} {softwareName : String} {n n' disk disk' memory : ℤ}

theorem hyphen_not_mem_pointed (d : Decimal) : '-' ∉ d.pointed.toList :=
  Decimal.not_mem_pointed (by decide) (by decide)

/-- The texts differ where the sizes of the memory do. -/
theorem hashedText_memory_ne (hn : 0 < n ∧ n ≤ 2 ^ 20)
    (hn' : 0 < n' ∧ n' ≤ 2 ^ 20) (hne : n ≠ n') :
    hashedText (componentsOf m softwareName n disk) ≠
      hashedText (componentsOf m softwareName n' disk') := by
  rw [componentsOf, componentsOf, sizeText_of_ne hn.1.ne',
    sizeText_of_ne hn'.1.ne']
  exact hashedText_ne (hyphen_not_mem_pointed _) (hyphen_not_mem_pointed _)
    fun h => hne (pointed_hundredths_inj hn.1 hn.2 hn'.1 hn'.2 h)

/-- The texts differ where the sizes of the disk do. -/
theorem hashedText_disk_ne (hn : 0 < n ∧ n ≤ 2 ^ 20)
    (hn' : 0 < n' ∧ n' ≤ 2 ^ 20) (hne : n ≠ n') :
    hashedText (componentsOf m softwareName memory n) ≠
      hashedText (componentsOf m softwareName memory n') := by
  rw [componentsOf, componentsOf, sizeText_of_ne hn.1.ne',
    sizeText_of_ne hn'.1.ne', ← List.append_assoc _ (sizeText memory),
    ← List.append_assoc _ (sizeText memory)]
  exact hashedText_ne (hyphen_not_mem_pointed _) (hyphen_not_mem_pointed _)
    fun h => hne (pointed_hundredths_inj hn.1 hn.2 hn'.1 hn'.2 h)

end

/-- **When the SDKs agree.**  The same hardware has the same text in every SDK
unless the size of the memory or of the disk is halfway between two hundredths
of a GB and the lower one is even. -/
theorem same_text_iff (m : Machine) (softwareName : String)
    (hmemory : Below8TiB m.memoryTotal) (hdisk : Below8TiB m.diskTotal) :
    SameText m softwareName ↔
      ¬RoundedDown m.memoryTotal ∧ ¬RoundedDown m.diskTotal := by
  rw [SameText, Python.filtered_eq hmemory hdisk, Go.components_eq hmemory hdisk,
    TypeScript.parts_eq hmemory hdisk, and_iff_left rfl]
  obtain ⟨⟨-, heven⟩, -, hup⟩ := rounded_bounds hmemory
  obtain ⟨⟨-, heven'⟩, -, hup'⟩ := rounded_bounds hdisk
  constructor
  · intro htext
    have hagree : ¬RoundedDown m.memoryTotal := fun hdown =>
      hashedText_memory_ne ⟨(rounded_pos hdown).1, heven⟩
        ⟨(rounded_pos hdown).2, hup⟩
        (fun h => hundredthsEven_eq_hundredthsUp_iff.mp h hdown) htext
    refine ⟨hagree, fun hdown => ?_⟩
    rw [hundredthsEven_eq_hundredthsUp_iff.mpr hagree] at htext
    exact hashedText_disk_ne ⟨(rounded_pos hdown).1, heven'⟩
      ⟨(rounded_pos hdown).2, hup'⟩
      (fun h => hundredthsEven_eq_hundredthsUp_iff.mp h hdown) htext
  · rintro ⟨hagree, hagree'⟩
    rw [hundredthsEven_eq_hundredthsUp_iff.mpr hagree,
      hundredthsEven_eq_hundredthsUp_iff.mpr hagree']

def exampleMachine (memoryTotal diskTotal : ℕ) : Machine where
  mac := "02:42:ac:11:00:02"
  diskId := ""
  cpuCount := 2
  memoryTotal := some memoryTotal
  diskTotal := some diskTotal
  system := "Linux"
  machine := "x86_64"

theorem below8TiB_some {b : ℕ} (h : b < 2 ^ 43) : Below8TiB (some b) := by
  intro b' hb'
  obtain rfl := Option.some.inj hb'
  exact h

theorem not_roundedDown_some {b : ℕ} (h : b % 2 ^ 29 ≠ 2 ^ 27) :
    ¬RoundedDown (some b) := by
  rintro ⟨b', hb', hmod⟩
  obtain rfl := Option.some.inj hb'
  exact h hmod

theorem same_text_iff_laptop :
    SameText (exampleMachine 16653586432 510027366400) "editor" :=
  (same_text_iff _ "editor" (below8TiB_some (by decide))
    (below8TiB_some (by decide))).mpr
      ⟨not_roundedDown_some (by decide), not_roundedDown_some (by decide)⟩

/-- A virtual machine of 128 MiB. -/
theorem texts_of_small_machine :
    (Below8TiB (some 134217728) ∧ Below8TiB (some 21474836480)) ∧
    hashedText (Python.filtered (exampleMachine 134217728 21474836480) "editor") =
      some "02:42:ac:11:00:02-2-0.12-20.0-Linux-x86_64-editor" ∧
    hashedText (Go.buildPythonStyleDeviceComponents
      (exampleMachine 134217728 21474836480) "editor") =
        some "02:42:ac:11:00:02-2-0.13-20.0-Linux-x86_64-editor" ∧
    ¬SameText (exampleMachine 134217728 21474836480) "editor" := by
  have hpython : hashedText (Python.filtered
      (exampleMachine 134217728 21474836480) "editor") =
        some "02:42:ac:11:00:02-2-0.12-20.0-Linux-x86_64-editor" := by
    decide +kernel
  have hgo : hashedText (Go.buildPythonStyleDeviceComponents
      (exampleMachine 134217728 21474836480) "editor") =
        some "02:42:ac:11:00:02-2-0.13-20.0-Linux-x86_64-editor" := by
    decide +kernel
  refine ⟨⟨below8TiB_some (by decide), below8TiB_some (by decide)⟩, hpython, hgo,
    fun h => ?_⟩
  rw [SameText, hpython, hgo] at h
  exact absurd h.1 (by decide)

end PyAuth.Hardware
