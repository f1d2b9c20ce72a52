import Mathlib.Data.Finset.Card
import PyAuth.Hardware.Network

/-!
# The processor

Go and TypeScript read `/proc/cpuinfo` line by line.  The lines `model name`,
`model` and `hardware` all give the name of the processor, and the first one
with a value wins.  A block is flushed when the next one starts.
-/

namespace PyAuth.Hardware

open Support

/-! ## Lines -/

/-- What the scan makes of one line. -/
inductive CpuLine
  | processor
  | field (key val : String)
  | other
deriving DecidableEq

/-- `"\r\n"` replaced by `"\n"`. -/
def replaceCrlf : List Char → List Char
  | '\r' :: '\n' :: cs => '\n' :: replaceCrlf cs
  | c :: cs => c :: replaceCrlf cs
  | [] => []

def readCpuLine (trim toLower : String → String) (line : String) : CpuLine :=
  let line := trim line
  let low := toLower line
  if startsWith low "processor" ∧ ':' ∈ line.toList then .processor
  else if ':' ∈ line.toList then
    let key := line.toList.takeWhile (· ≠ ':')
    let val := line.toList.drop (key.length + 1)
    .field (toLower (trim (.ofList key))) (trim (.ofList val))
  else .other

def cpuLines (trim toLower : String → String) (text : String) : List CpuLine :=
  ((replaceCrlf text.toList).splitOn '\n').map fun cs =>
    readCpuLine trim toLower (.ofList cs)

/-! ## The scan -/

/-- The variables of the loop, where `M` is what a frequency is read as. -/
structure CpuScan (M : Type) where
  model : Option String := none
  mhz : Option M := none
  seen : Finset String := ∅
  physID : String := ""
  coreID : String := ""
  blockStarted : Bool := false

variable {M : Type}

def CpuScan.flush (s : CpuScan M) : CpuScan M :=
  if s.blockStarted then
    { s with seen := insert (s.physID ++ "/" ++ s.coreID) s.seen }
  else s

/-- A name is kept unless it is blank. -/
def CpuScan.setModel (s : CpuScan M) (val : String) : CpuScan M :=
  if s.model.getD "" = "" then { s with model := some val } else s

def CpuScan.step (readMhz : String → Option M) (s : CpuScan M) :
    CpuLine → CpuScan M
  | .processor =>
      { s.flush with blockStarted := true, physID := "", coreID := "" }
  | .field "model name" val => s.setModel val
  | .field "model" val => s.setModel val
  | .field "hardware" val => s.setModel val
  | .field "physical id" val => { s with physID := val }
  | .field "core id" val => { s with coreID := val }
  | .field "cpu mhz" val =>
      if s.mhz.isNone then { s with mhz := readMhz val } else s
  | .field _ _ => s
  | .other => s

/-- The loop and the last flush. -/
def scanCpuLines (readMhz : String → Option M) (lines : List CpuLine) :
    CpuScan M :=
  (lines.foldl (CpuScan.step readMhz) {}).flush

namespace Go

def cpuLines (toLower : String → String) (text : String) : List CpuLine :=
  Hardware.cpuLines Go.trimSpace toLower text

/-- `parseLinuxProcCPUInfo`, where a missing name is blank and a missing
frequency is zero. -/
def parseLinuxProcCPUInfo (toLower : String → String)
    (readMhz : String → Option M) (text : String) : String × ℕ × Option M :=
  let s := scanCpuLines readMhz (cpuLines toLower text)
  (s.model.getD "", if 0 < s.seen.card then s.seen.card else 0, s.mhz)

end Go

namespace TypeScript

def cpuLines (toLower : String → String) (text : String) : List CpuLine :=
  Hardware.cpuLines TypeScript.trim toLower text

structure CpuInfo (M : Type) where
  model : Option String
  physicalCount : Option ℕ
  freqMaxMhz : Option M

def parseLinuxProcCpuInfo (toLower : String → String)
    (readMhz : String → Option M) (text : String) : CpuInfo M :=
  let s := scanCpuLines readMhz (cpuLines toLower text)
  { model := s.model
    physicalCount := if 0 < s.seen.card then some s.seen.card else none
    freqMaxMhz := s.mhz }

end TypeScript

/-! ## What a text says -/

/-- The value that a line gives to one of some keys, unless it is blank. -/
def CpuLine.value? (keys : List String) : CpuLine → Option String
  | .field key val => if key ∈ keys ∧ val ≠ "" then some val else none
  | _ => none

/-- The first value of some keys that is not blank. -/
def firstValue (keys : List String) (lines : List CpuLine) : Option String :=
  lines.findSome? (CpuLine.value? keys)

/-- The name of the processor. -/
def modelName (lines : List CpuLine) : Option String :=
  firstValue ["model name"] lines

/-- The lines before the name of the processor. -/
def beforeModelName (lines : List CpuLine) : List CpuLine :=
  lines.takeWhile fun line => (line.value? ["model name"]).isNone

/-- The blocks started by the processor lines. -/
def cpuBlocks (lines : List CpuLine) : List (List CpuLine) :=
  (lines.splitOnP (· = .processor)).tail

/-- The last value of a key, or `init` if there is none. -/
def lastValue (key init : String) (block : List CpuLine) : String :=
  block.foldl (fun val line =>
    match line with
    | .field k v => if k = key then v else val
    | _ => val) init

/-- The physical id and the core id of a block. -/
def corePair (block : List CpuLine) : String × String :=
  (lastValue "physical id" "" block, lastValue "core id" "" block)

/-- The number of cores. -/
def coreCount (lines : List CpuLine) : ℕ :=
  ((cpuBlocks lines).map corePair).toFinset.card

/-- A pair as the scan stores it. -/
def joinedPair (pair : String × String) : String := pair.1 ++ "/" ++ pair.2

/-- No other name stands before that of the processor. -/
def NameFirst (lines : List CpuLine) (name : String) : Prop :=
  ∀ other, firstValue ["model", "hardware"] (beforeModelName lines) =
    some other → other = name

/-- Different pairs are stored as different texts. -/
def PairsApart (lines : List CpuLine) : Prop :=
  ∀ b ∈ cpuBlocks lines, ∀ b' ∈ cpuBlocks lines,
    joinedPair (corePair b) = joinedPair (corePair b') →
      corePair b = corePair b'

/-! ## The name -/

section

variable (readMhz : String → Option M) {lines : List CpuLine}

/-- The keys that give the name of the processor. -/
def nameKeys : List String := ["model name", "model", "hardware"]

theorem value?_ne {keys : List String} {line : CpuLine} {val : String}
    (h : line.value? keys = some val) : val ≠ "" := by
  cases line with
  | processor => cases h
  | other => cases h
  | field key w =>
      rw [CpuLine.value?] at h
      split at h
      · next hw =>
          cases h
          exact hw.2
      · cases h

theorem firstValue_cons (keys : List String) (line : CpuLine)
    (lines : List CpuLine) :
    firstValue keys (line :: lines) =
      (line.value? keys).or (firstValue keys lines) := by
  rw [firstValue, List.findSome?_cons]
  cases line.value? keys <;> rfl

/-- The name comes from a `model name` line or from one of the others. -/
theorem value?_nameKeys (line : CpuLine) :
    line.value? nameKeys =
      (line.value? ["model name"]).or (line.value? ["model", "hardware"]) := by
  cases line with
  | processor => rfl
  | other => rfl
  | field key val =>
      simp only [CpuLine.value?, nameKeys, List.mem_cons, List.not_mem_nil,
        or_false]
      by_cases hkey : key = "model name"
      · simp only [hkey, true_or, true_and]
        by_cases hval : val = "" <;> simp [hval]
      · simp only [hkey, false_or, false_and, if_false, Option.none_or]

theorem flush_model (s : CpuScan M) : s.flush.model = s.model := by
  rw [CpuScan.flush]
  split <;> rfl

theorem setModel_model (s : CpuScan M) (val : String) :
    (s.setModel val).model.getD "" =
      if s.model.getD "" = "" then val else s.model.getD "" := by
  rw [CpuScan.setModel]
  split <;> rfl

/-- One line changes a blank name only. -/
theorem step_model (s : CpuScan M) (line : CpuLine) :
    (s.step readMhz line).model.getD "" =
      if s.model.getD "" = "" then (line.value? nameKeys).getD ""
      else s.model.getD "" := by
  have hname {key val : String} (hkey : key ∈ nameKeys) :
      (s.setModel val).model.getD "" =
        if s.model.getD "" = "" then
          (CpuLine.value? nameKeys (.field key val)).getD ""
        else s.model.getD "" := by
    rw [setModel_model, CpuLine.value?]
    by_cases hval : val = ""
    · simp [hval]
    · simp [hkey, hval]
  have hkeep {line : CpuLine} (hline : line.value? nameKeys = none) :
      s.model.getD "" = if s.model.getD "" = "" then
        (line.value? nameKeys).getD "" else s.model.getD "" := by
    rw [hline]
    split
    · next h => exact h
    · rfl
  have hother {key val : String} (hkey : key ∉ nameKeys) :
      CpuLine.value? nameKeys (.field key val) = none :=
    if_neg fun h => hkey h.1
  rw [CpuScan.step.eq_def]
  split
  · rw [flush_model]
    exact hkeep rfl
  · exact hname (by decide)
  · exact hname (by decide)
  · exact hname (by decide)
  · exact hkeep (hother (by decide))
  · exact hkeep (hother (by decide))
  · rw [apply_ite CpuScan.model, ite_self]
    exact hkeep (hother (by decide))
  · next key val h₁ h₂ h₃ _ _ _ =>
      apply hkeep (hother _)
      simpa [nameKeys] using ⟨h₁, h₂, h₃⟩
  · exact hkeep rfl

/-- The scan keeps the first name. -/
theorem foldl_model (s : CpuScan M) (lines : List CpuLine) :
    (lines.foldl (CpuScan.step readMhz) s).model.getD "" =
      if s.model.getD "" = "" then (firstValue nameKeys lines).getD ""
      else s.model.getD "" := by
  induction lines generalizing s with
  | nil =>
      rw [List.foldl_nil]
      split
      · next h => exact h
      · rfl
  | cons line lines ih =>
      rw [List.foldl_cons, ih, step_model, firstValue_cons]
      by_cases hs : s.model.getD "" = ""
      · rw [if_pos hs, if_pos hs]
        cases hline : line.value? nameKeys with
        | none => exact if_pos rfl
        | some val => exact if_neg (value?_ne hline)
      · rw [if_neg hs, if_neg hs, if_neg hs]

/-- The first name is that of a `model name` line or of a line before it. -/
theorem firstValue_nameKeys {name : String} (h : modelName lines = some name) :
    firstValue nameKeys lines =
      some ((firstValue ["model", "hardware"] (beforeModelName lines)).getD
        name) := by
  induction lines with
  | nil => cases h
  | cons line lines ih =>
      rw [modelName, firstValue_cons] at h
      rw [beforeModelName, List.takeWhile_cons, firstValue_cons,
        value?_nameKeys]
      cases hline : line.value? ["model name"] with
      | some val =>
          rw [hline, Option.some_or, Option.some.injEq] at h
          rw [h]
          rfl
      | none =>
          rw [hline, Option.none_or] at h
          rw [Option.isNone_none, if_pos rfl, firstValue_cons, Option.none_or,
            ih h]
          cases line.value? ["model", "hardware"] <;> rfl

/-- The scan reports the first name. -/
theorem scan_model {name : String} (h : firstValue nameKeys lines = some name) :
    (scanCpuLines readMhz lines).model = some name := by
  have hne : name ≠ "" := by
    obtain ⟨line, -, hline⟩ := List.exists_of_findSome?_eq_some h
    exact value?_ne hline
  have hname : (lines.foldl (CpuScan.step readMhz) {}).model.getD "" = name := by
    rw [foldl_model, if_pos (by rfl), h, Option.getD_some]
  rw [scanCpuLines, flush_model]
  cases hmodel : (lines.foldl (CpuScan.step readMhz) {}).model with
  | none =>
      rw [hmodel] at hname
      exact absurd hname.symm hne
  | some found =>
      rw [hmodel] at hname
      exact congrArg some hname

/-- The scan reports the name unless a line before it gives another one. -/
theorem scan_model_iff {name : String} (h : modelName lines = some name) :
    (scanCpuLines readMhz lines).model = some name ↔ NameFirst lines name := by
  rw [scan_model readMhz (firstValue_nameKeys h), Option.some.injEq, NameFirst]
  cases firstValue ["model", "hardware"] (beforeModelName lines) with
  | none => simp
  | some found => simp

end

/-! ## The cores -/

section

variable (readMhz : String → Option M) {lines : List CpuLine}

/-- What is stored when the current block ends with these lines. -/
def CpuScan.pending (s : CpuScan M) (block : List CpuLine) : Finset String :=
  if s.blockStarted then
    {joinedPair (lastValue "physical id" s.physID block,
      lastValue "core id" s.coreID block)}
  else ∅

theorem flush_seen (s : CpuScan M) : s.flush.seen = s.pending [] ∪ s.seen := by
  rw [CpuScan.flush, CpuScan.pending]
  split
  · rfl
  · rw [Finset.empty_union]

theorem setModel_seen (s : CpuScan M) (val : String) (block : List CpuLine) :
    (s.setModel val).seen = s.seen ∧
      (s.setModel val).pending block = s.pending block := by
  rw [CpuScan.setModel]
  split <;> exact ⟨rfl, rfl⟩

/-- A line of a block is kept for its end. -/
theorem step_seen (s : CpuScan M) {line : CpuLine} (hline : line ≠ .processor)
    (block : List CpuLine) :
    (s.step readMhz line).seen = s.seen ∧
      (s.step readMhz line).pending block = s.pending (line :: block) := by
  rw [CpuScan.step.eq_def]
  split
  · exact absurd rfl hline
  · exact setModel_seen s _ block
  · exact setModel_seen s _ block
  · exact setModel_seen s _ block
  · exact ⟨rfl, rfl⟩
  · exact ⟨rfl, rfl⟩
  · split <;> exact ⟨rfl, rfl⟩
  · next key val _ _ _ h₄ h₅ _ =>
      refine ⟨rfl, ?_⟩
      simp only [CpuScan.pending, lastValue, List.foldl_cons, if_neg h₄,
        if_neg h₅]
  · exact ⟨rfl, rfl⟩

/-- The pairs stored by a scan are those of the blocks, and that of the block it
starts in. -/
theorem foldl_seen (s : CpuScan M) (lines : List CpuLine) :
    (lines.foldl (CpuScan.step readMhz) s).flush.seen =
      s.seen ∪ s.pending ((lines.splitOnP (· = .processor)).headD []) ∪
        ((cpuBlocks lines).map fun b => joinedPair (corePair b)).toFinset := by
  induction lines generalizing s with
  | nil =>
      rw [List.foldl_nil, flush_seen, Finset.union_comm]
      exact (Finset.union_empty _).symm
  | cons line lines ih =>
      obtain ⟨block, blocks, hsplit⟩ := List.exists_cons_of_ne_nil
        (List.splitOnP_ne_nil (· = CpuLine.processor) lines)
      rw [List.foldl_cons, ih, cpuBlocks, cpuBlocks,
        List.splitOnP_cons_eq_if_modifyHead, hsplit]
      by_cases hline : line = .processor
      · subst hline
        have hstored : (s.step readMhz .processor).seen = s.flush.seen := rfl
        have hstarted : (s.step readMhz .processor).pending block =
            {joinedPair (corePair block)} := rfl
        rw [if_pos (by simp), List.headD_cons, List.headD_cons, List.tail_cons,
          List.tail_cons, List.map_cons, List.toFinset_cons, hstored, hstarted,
          flush_seen, Finset.insert_eq, Finset.union_comm (s.pending [])]
        ac_rfl
      · obtain ⟨hseen, hpending⟩ := step_seen readMhz s hline block
        rw [if_neg (by simpa using hline), List.modifyHead_cons,
          List.headD_cons, List.headD_cons, hseen, hpending]
        rfl

/-- The number of cores unless two pairs are stored as one text. -/
theorem scan_seen_iff :
    (scanCpuLines readMhz lines).seen.card = coreCount lines ↔
      PairsApart lines := by
  have hseen : (scanCpuLines readMhz lines).seen =
      ((cpuBlocks lines).map corePair).toFinset.image joinedPair := by
    have hempty : (({} : CpuScan M).seen ∪ ({} : CpuScan M).pending
        ((lines.splitOnP (· = .processor)).headD [])) = ∅ := rfl
    rw [scanCpuLines, foldl_seen, hempty, Finset.empty_union]
    ext text
    simp
  rw [hseen, coreCount, Finset.card_image_iff]
  constructor
  · intro h b hb b' hb' heq
    apply h _ _ heq
    · simpa using ⟨b, hb, rfl⟩
    · simpa using ⟨b', hb', rfl⟩
  · intro h pair hpair pair' hpair' heq
    obtain ⟨b, hb, rfl⟩ : ∃ b ∈ cpuBlocks lines, corePair b = pair := by
      simpa using hpair
    obtain ⟨b', hb', rfl⟩ : ∃ b ∈ cpuBlocks lines, corePair b = pair' := by
      simpa using hpair'
    exact h b hb b' hb' heq

end

/-- **When the processor is reported.**  Both parsers report the name and the
number of cores if and only if no other name stands first and the pairs of the
blocks stay apart; TypeScript leaves a count of zero out. -/
theorem cpu_reported_iff {M N : Type} (goLower tsLower : String → String)
    (goMhz : String → Option M) (tsMhz : String → Option N) (text : String) :
    (∀ name, modelName (Go.cpuLines goLower text) = some name →
      ((Go.parseLinuxProcCPUInfo goLower goMhz text).1 = name ∧
          (Go.parseLinuxProcCPUInfo goLower goMhz text).2.1 =
            coreCount (Go.cpuLines goLower text) ↔
        NameFirst (Go.cpuLines goLower text) name ∧
          PairsApart (Go.cpuLines goLower text))) ∧
    (∀ name, modelName (TypeScript.cpuLines tsLower text) = some name →
      ((TypeScript.parseLinuxProcCpuInfo tsLower tsMhz text).model =
            some name ∧
          (TypeScript.parseLinuxProcCpuInfo tsLower tsMhz
              text).physicalCount.getD 0 =
            coreCount (TypeScript.cpuLines tsLower text) ↔
        NameFirst (TypeScript.cpuLines tsLower text) name ∧
          PairsApart (TypeScript.cpuLines tsLower text))) := by
  constructor
  · intro name hname
    have hscan := scan_model goMhz (firstValue_nameKeys hname)
    have hmodel : (Go.parseLinuxProcCPUInfo goLower goMhz text).1 = name ↔
        NameFirst (Go.cpuLines goLower text) name := by
      rw [← scan_model_iff goMhz hname, Go.parseLinuxProcCPUInfo, hscan,
        Option.getD_some, Option.some.injEq]
    have hcount : (Go.parseLinuxProcCPUInfo goLower goMhz text).2.1 =
        (scanCpuLines goMhz (Go.cpuLines goLower text)).seen.card := by
      have hpositive (n : ℕ) : (if 0 < n then n else 0) = n := by
        split <;> omega
      exact hpositive _
    rw [hmodel, hcount, scan_seen_iff]
  · intro name hname
    have hcount : (TypeScript.parseLinuxProcCpuInfo tsLower tsMhz
        text).physicalCount.getD 0 =
          (scanCpuLines tsMhz (TypeScript.cpuLines tsLower text)).seen.card := by
      rw [TypeScript.parseLinuxProcCpuInfo]
      split
      · rfl
      · rw [Option.getD_none]
        omega
    rw [hcount, scan_seen_iff, ← scan_model_iff tsMhz hname]
    rfl

/-- A text of one block that only has the name. -/
def plainCpuInfo : String := "processor\t: 0\nmodel name\t: Core i7\ncore id\t: 0\n"

theorem cpu_reported_iff_plain :
    ((Go.parseLinuxProcCPUInfo String.toLower (fun _ => (none : Option Unit))
          plainCpuInfo).1 = "Core i7" ∧
        (Go.parseLinuxProcCPUInfo String.toLower (fun _ => (none : Option Unit))
          plainCpuInfo).2.1 = coreCount (Go.cpuLines String.toLower plainCpuInfo) ↔
      NameFirst (Go.cpuLines String.toLower plainCpuInfo) "Core i7" ∧
        PairsApart (Go.cpuLines String.toLower plainCpuInfo)) ∧
    ((TypeScript.parseLinuxProcCpuInfo String.toLower
          (fun _ => (none : Option Unit)) plainCpuInfo).model = some "Core i7" ∧
        (TypeScript.parseLinuxProcCpuInfo String.toLower
          (fun _ => (none : Option Unit)) plainCpuInfo).physicalCount.getD 0 =
            coreCount (TypeScript.cpuLines String.toLower plainCpuInfo) ↔
      NameFirst (TypeScript.cpuLines String.toLower plainCpuInfo) "Core i7" ∧
        PairsApart (TypeScript.cpuLines String.toLower plainCpuInfo)) := by
  have h := cpu_reported_iff String.toLower String.toLower
    (fun _ => (none : Option Unit)) (fun _ => (none : Option Unit)) plainCpuInfo
  exact ⟨h.1 "Core i7" (by decide +kernel), h.2 "Core i7" (by decide +kernel)⟩

/-- On a usual machine the number of the model is reported for its name. -/
theorem model_number_for_name :
    modelName (Go.cpuLines String.toLower
        "processor\t: 0\nmodel\t\t: 158\nmodel name\t: Core i7\n") =
      some "Core i7" ∧
    (Go.parseLinuxProcCPUInfo String.toLower (fun _ => (none : Option Unit))
        "processor\t: 0\nmodel\t\t: 158\nmodel name\t: Core i7\n").1 =
      "158" ∧
    (TypeScript.parseLinuxProcCpuInfo String.toLower
        (fun _ => (none : Option Unit))
        "processor\t: 0\nmodel\t\t: 158\nmodel name\t: Core i7\n").model =
      some "158" := by
  decide +kernel

end PyAuth.Hardware
