import PyAuth.Client.Storage

/-!
# The content of the state file

The Go and TypeScript SDKs share the file of the Python SDK.  Here the octets
are left out: the file is absent, or holds a JSON object, or holds anything
else.  `stateFile` gives this view of a storage root, and writing commutes
with it.
-/

namespace PyAuth.Sdk

open Support Client

/-- What the state file of one server holds.  A JSON value which is no object
is removed by the next read; it counts as unreadable. -/
inductive StateFile
  | absent
  | unreadable
  | root (d : Root)
deriving DecidableEq

/-- How the disk answers a write with its repetition, which is tried on
Windows only: there the old file may be removed before it. -/
structure WriteEnv where
  first : WriteOutcome
  retry : Option (Bool × WriteOutcome)
deriving DecidableEq

def WriteEnv.success : WriteEnv := ⟨.done, none⟩

/-- The write or its repetition is completed. -/
def WriteEnv.completes (env : WriteEnv) : Bool :=
  decide (env.first = .done) ||
    env.retry.any fun second => decide (second.2 = .done)

/-- The file does not stay as it is. -/
def WriteEnv.Touches (env : WriteEnv) : Prop :=
  env.first ≠ .refused ∨
    ∃ second ∈ env.retry, second.1 = true ∨ second.2 ≠ .refused

instance (env : WriteEnv) : Decidable env.Touches :=
  inferInstanceAs (Decidable (_ ∨ _))

theorem WriteEnv.touches_of_completes {env : WriteEnv}
    (h : env.completes = true) : env.Touches := by
  simp only [completes, Bool.or_eq_true, decide_eq_true_eq] at h
  rcases h with h | h
  · exact Or.inl (by simp [h])
  · cases hretry : env.retry with
    | none => simp [hretry] at h
    | some second =>
        have hdone : second.2 = .done := by simpa [hretry] using h
        exact Or.inr ⟨second, hretry, Or.inr (by simp [hdone])⟩

namespace StateFile

/-- The object in the file. -/
def content : StateFile → Option Root
  | .root d => some d
  | .absent | .unreadable => none

/-- One write. -/
def write (data : Root) : WriteOutcome → StateFile → StateFile × Bool
  | .done, _ => (.root data, true)
  | .refused, file => (file, false)
  | .torn _, _ => (.unreadable, false)

/-- A write and its repetition. -/
def writeWithRetry (data : Root) (env : WriteEnv) (file : StateFile) :
    StateFile × Bool :=
  let (file, ok) := file.write data env.first
  if ok then (file, true)
  else
    match env.retry with
    | none => (file, false)
    | some (removed, second) =>
        (if removed then absent else file).write data second

@[simp] theorem content_root (d : Root) : (root d).content = some d := rfl

section

variable (data : Root) (file : StateFile)

/-- A write which succeeds leaves the object, and one which fails leaves what
was there or nothing that can be read. -/
theorem write_cases (outcome : WriteOutcome) :
    file.write data outcome = (.root data, true) ∨
      ((file.write data outcome).2 = false ∧
        ((file.write data outcome).1 = file ∨
          (file.write data outcome).1 = .unreadable)) := by
  cases outcome with
  | done => exact Or.inl rfl
  | refused => exact Or.inr ⟨rfl, Or.inl rfl⟩
  | torn kept => exact Or.inr ⟨rfl, Or.inr rfl⟩

theorem writeWithRetry_cases (env : WriteEnv) :
    file.writeWithRetry data env = (.root data, true) ∨
      ((file.writeWithRetry data env).2 = false ∧
        ((file.writeWithRetry data env).1.content = file.content ∨
          (file.writeWithRetry data env).1.content = none)) := by
  rw [writeWithRetry]
  rcases write_cases data file env.first with hdone | ⟨hfail, hfile⟩
  · left
    simp [hdone]
  · simp only [hfail, Bool.false_eq_true, if_false]
    have hcontent : (file.write data env.first).1.content = file.content ∨
        (file.write data env.first).1.content = none := by
      rcases hfile with h | h
      · exact Or.inl (congrArg content h)
      · exact Or.inr (congrArg content h)
    rcases env.retry with _ | ⟨removed, second⟩
    · exact Or.inr ⟨rfl, hcontent⟩
    · rcases write_cases data
          (if removed then absent else (file.write data env.first).1) second
        with hdone | ⟨hfail₂, hfile₂⟩
      · exact Or.inl hdone
      · right
        refine ⟨hfail₂, ?_⟩
        rcases hfile₂ with h | h
        · dsimp only
          rw [h]
          cases removed with
          | true => exact Or.inr rfl
          | false => exact hcontent
        · exact Or.inr (congrArg content h)

theorem write_snd (outcome : WriteOutcome) :
    (file.write data outcome).2 = decide (outcome = .done) := by
  cases outcome <;> rfl

@[simp] theorem writeWithRetry_snd (env : WriteEnv) :
    (file.writeWithRetry data env).2 = env.completes := by
  rw [writeWithRetry, WriteEnv.completes]
  by_cases hfirst : env.first = .done
  · simp [write_snd, hfirst]
  · cases hretry : env.retry <;> simp [write_snd, hfirst]

/-- What can be read after a write and its repetition. -/
theorem content_writeWithRetry (env : WriteEnv) :
    (file.writeWithRetry data env).1.content =
      if env.completes then some data
      else if env.Touches then none
      else file.content := by
  obtain ⟨first, retry⟩ := env
  simp only [writeWithRetry, WriteEnv.completes, WriteEnv.Touches]
  cases first with
  | done => simp [write]
  | refused =>
      rcases retry with _ | ⟨removed, second⟩
      · simp [write]
      · cases removed <;> cases second <;> simp [write, content]
  | torn kept =>
      rcases retry with _ | ⟨removed, second⟩
      · simp [write, content]
      · cases removed <;> cases second <;> simp [write, content]

end

end StateFile

/-! ## The view of a storage root -/

section

variable {β : Type} (P : Primitives β) (serverUrl : String)

/-- The state file of a storage root. -/
def stateFile (st : Storage β) : StateFile :=
  match st.files (bundlePath P serverUrl) with
  | none => .absent
  | some raw =>
      match (openBundle P serverUrl raw).bind Json.dict? with
      | none => .unreadable
      | some d => .root d

variable {P serverUrl} {st : Storage β}

theorem stateFile_put (raw : Option (List β)) :
    stateFile P serverUrl (st.put (bundlePath P serverUrl) raw) =
      match raw with
      | none => .absent
      | some raw =>
          match (openBundle P serverUrl raw).bind Json.dict? with
          | none => .unreadable
          | some d => .root d := by
  rw [stateFile, Storage.files_put]

/-- What the Python client reads. -/
theorem stateRoot_eq_content :
    stateRoot P serverUrl st =
      (stateFile P serverUrl st).content.map (·.erase "device_id") := by
  rw [stateRoot_eq, stateFile]
  cases st.files (bundlePath P serverUrl) with
  | none => rfl
  | some raw =>
      simp only [Option.bind_some]
      cases openBundle P serverUrl raw with
      | none => rfl
      | some v =>
          simp only [Option.bind_some]
          cases v.dict? <;> rfl

/-- Writing commutes with the view. -/
theorem stateFile_writeStateDict (data : Root) (outcome : WriteOutcome) :
    stateFile P serverUrl (writeStateDict P serverUrl data outcome st).1 =
        ((stateFile P serverUrl st).write data outcome).1 ∧
      (writeStateDict P serverUrl data outcome st).2 =
        ((stateFile P serverUrl st).write data outcome).2 := by
  cases outcome with
  | done =>
      refine ⟨?_, rfl⟩
      change stateFile P serverUrl (st.drawn.put _ _) = _
      rw [stateFile_put]
      simp [openBundle_sealBundle, StateFile.write]
  | refused => exact ⟨rfl, rfl⟩
  | torn kept =>
      refine ⟨?_, rfl⟩
      have hlen : nonceLen + 16 + 1 ≤
          (sealBundle P serverUrl data st).length := length_sealBundle data st
      change stateFile P serverUrl (st.drawn.put _ _) = _
      rw [stateFile_put]
      dsimp only
      rw [openBundle_take_sealBundle (by omega)]
      rfl

end

end PyAuth.Sdk
