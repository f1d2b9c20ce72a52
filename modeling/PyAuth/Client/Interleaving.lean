import PyAuth.Client.Frame
import PyAuth.Support.Run

/-!
# Processes which share one state file

Every operation reads the whole bundle, and later writes it back from its
private copy.  Between the two steps other processes may write.  The row of a
product is the one left by its own last operation as long as no process
writes back a copy in which the row of another product has become stale.
-/

namespace PyAuth.Client

open Support

namespace Operation

/-- Every file operation of the operation succeeds. -/
def Succeeds : Operation → Prop
  | .save _ _ _ _ io => io = .success io.now
  | .clear io => io = .success
  | .persist io => io = .success

instance : DecidablePred Succeeds
  | .save _ _ _ _ _ => inferInstanceAs (Decidable (_ = _))
  | .clear _ => inferInstanceAs (Decidable (_ = _))
  | .persist _ => inferInstanceAs (Decidable (_ = _))

variable {β : Type} (P : Primitives β) (c : AuthCache)

/-- The write step of an operation whose read returned `d`, of a client with a
device id. -/
def writeBack (op : Operation) (d : Option Root) (st : Storage β) :
    Storage β :=
  match op.rewritten c d with
  | some data => (writeStateDict P c.serverUrl data .done st).1
  | none => st

variable {P c}

/-- Without interference an operation is its read step followed by its write
step. -/
theorem perform_eq_writeBack {op : Operation} (hop : op.Succeeds)
    (hdev : Python.strip c.deviceId ≠ "") (st : Storage β) :
    (op.perform P c st).1 =
      op.writeBack P c (readStateDict P c.serverUrl .success st).2
        (readStateDict P c.serverUrl .success st).1 := by
  have hwrite : ∀ data st, (c.writeBundleWithRetry P data .success st).1 =
      (writeStateDict P c.serverUrl data .done st).1 := by
    intro data st
    rw [AuthCache.writeBundleWithRetry]
    simp [BundleEnv.success]
  cases op with
  | save authorized lastSuccessAt heartbeatTimes deviceInfoSnapshot io =>
      simp only [perform, AuthCache.saveCache]
      rw [show io = .success io.now from hop]
      exact hwrite _ _
  | clear io =>
      obtain rfl : io = .success := hop
      simp only [perform, AuthCache.clearCache, ClearEnv.success, writeBack,
        rewritten]
      cases (readStateDict P c.serverUrl .success st).2 with
      | none => rfl
      | some d =>
          simp only [anyAppDevice_clearApps hdev, if_true]
          cases d.isEmpty with
          | true => rfl
          | false => exact hwrite _ _
  | persist io =>
      obtain rfl : io = .success := hop
      rfl

/-- What can be read of another product after a write step: its row in the
copy, or, when nothing was written, its row before. -/
theorem row_writeBack {op : Operation} {d : Option Root} {t : String}
    (ht : t ∉ reservedRootKeys)
    (hne : Python.strip c.softwareName ≠ Python.strip t) (st : Storage β) :
    rowIn t (stateRoot P c.serverUrl (op.writeBack P c d st)) =
      if (op.rewritten c d).isSome then rowIn t d
      else rowIn t (stateRoot P c.serverUrl st) := by
  rw [writeBack]
  cases hd : op.rewritten c d with
  | none => rfl
  | some data =>
      rw [stateRoot_write_done, rowIn_erase_device_id,
        rowIn_rewritten ht hne hd]
      rfl

end Operation

/-! ## The processes -/

/-- A step of process `i`: it reads the bundle for an operation, or writes
back what became of the copy. -/
inductive ProcessStep (ι : Type)
  | read (i : ι) (op : Operation)
  | write (i : ι)

/-- The disk, the operations under way with the copies they have read, and
for each process the row its last operation left. -/
structure Processes (ι β : Type) where
  storage : Storage β
  pending : ι → Option (Operation × Option Root)
  left : ι → Option Row

namespace Processes

variable {ι β : Type} [DecidableEq ι] (P : Primitives β) (cs : ι → AuthCache)

/-- No operation is under way. -/
def start (st : Storage β) : Processes ι β where
  storage := st
  pending _ := none
  left i := rowIn (cs i).softwareName (stateRoot P (cs i).serverUrl st)

def step (w : Processes ι β) : ProcessStep ι → Option (Processes ι β)
  | .read i op =>
      if (w.pending i).isNone ∧ op.Succeeds then
        let (st, d) := readStateDict P (cs i).serverUrl .success w.storage
        some ⟨st, Function.update w.pending i (some (op, d)), w.left⟩
      else none
  | .write i =>
      match w.pending i with
      | none => none
      | some (op, d) =>
          let st := op.writeBack P (cs i) d w.storage
          some ⟨st, Function.update w.pending i none,
            Function.update w.left i
              (rowIn (cs i).softwareName (stateRoot P (cs i).serverUrl st))⟩

/-- The copies of process `i` still hold the rows of the other products as
they are in the file. -/
def Undisturbed (w : Processes ι β) (i : ι) : Prop :=
  ∀ op d, w.pending i = some (op, d) → ∀ j, j ≠ i →
    rowIn (cs j).softwareName d =
      rowIn (cs j).softwareName (stateRoot P (cs i).serverUrl w.storage)

/-- A step in which no stale copy is written back. -/
def UndisturbedStep (w : Processes ι β) (a : ProcessStep ι)
    (w' : Processes ι β) : Prop :=
  w.step P cs a = some w' ∧ ∀ i, a = .write i → w.Undisturbed P cs i

/-- The row of each product is the one left by its own last operation. -/
def RowsAreOwn (w : Processes ι β) : Prop :=
  ∀ i, rowIn (cs i).softwareName (stateRoot P (cs i).serverUrl w.storage) =
    w.left i

variable {P cs}

/-! ## Copies which are up to date -/

/-- The copy of process `i` is the bundle as it is in the file. -/
def UpToDate (P : Primitives β) (cs : ι → AuthCache) (w : Processes ι β)
    (i : ι) : Prop :=
  ∀ op d, w.pending i = some (op, d) →
    d = stateRoot P (cs i).serverUrl w.storage

omit [DecidableEq ι] in
theorem UpToDate.undisturbed {w : Processes ι β} {i : ι}
    (h : w.UpToDate P cs i) : w.Undisturbed P cs i := by
  intro op d hpending j _
  rw [h op d hpending]

/-- Only a write of another process can make a copy stale. -/
theorem UpToDate.step {serverUrl : String}
    (hurl : ∀ i, (cs i).serverUrl = serverUrl) {w w' : Processes ι β} {i : ι}
    {a : ProcessStep ι} (h : w.UpToDate P cs i)
    (hstep : w.step P cs a = some w') (ha : ∀ j, a = .write j → j = i) :
    w'.UpToDate P cs i := by
  cases a with
  | read j op =>
      simp only [Processes.step, Option.ite_none_right_eq_some,
        Option.some.injEq] at hstep
      obtain ⟨-, rfl⟩ := hstep
      intro op' d' hpending
      dsimp only at hpending ⊢
      rw [hurl i, ← hurl j, stateRoot_readStateDict]
      by_cases hij : i = j
      · subst hij
        rw [Function.update_self, Option.some.injEq, Prod.mk.injEq] at hpending
        exact hpending.2.symm
      · rw [Function.update_of_ne hij] at hpending
        rw [hurl j, ← hurl i]
        exact h op' d' hpending
  | write j =>
      obtain rfl := ha j rfl
      intro op' d' hpending'
      cases hpending : w.pending j with
      | none => simp [Processes.step, hpending] at hstep
      | some copy =>
          simp only [Processes.step, hpending, Option.some.injEq] at hstep
          subst hstep
          simp at hpending'

/-- An operation whose two steps follow each other writes no stale copy. -/
theorem run_undisturbed_of_read_write {serverUrl : String}
    (hurl : ∀ i, (cs i).serverUrl = serverUrl) {w : Processes ι β} {i : ι}
    {op : Operation} (hidle : w.pending = fun _ => none)
    (hop : op.Succeeds) :
    ∃ w', Run (UndisturbedStep P cs) w [.read i op, .write i] w' ∧
      w'.pending = fun _ => none := by
  have hread : ∃ w₁, w.step P cs (.read i op) = some w₁ ∧
      ∃ d, w₁.pending = Function.update w.pending i (some (op, d)) := by
    simp only [Processes.step, hidle, Option.isNone_none, hop, and_self,
      if_true]
    exact ⟨_, rfl, _, rfl⟩
  obtain ⟨w₁, hw₁, d, hpending⟩ := hread
  have hcurrent : w₁.UpToDate P cs i := by
    refine UpToDate.step hurl ?_ hw₁ (by simp)
    intro op' d' hnone
    simp [hidle] at hnone
  have hwrite : ∃ w₂, w₁.step P cs (.write i) = some w₂ ∧
      w₂.pending = Function.update w₁.pending i none := by
    simp [Processes.step, hpending]
  obtain ⟨w₂, hw₂, hpending₂⟩ := hwrite
  refine ⟨w₂, .snoc (.snoc .nil ⟨hw₁, by simp⟩) ⟨hw₂, ?_⟩, ?_⟩
  · intro j hj
    obtain rfl := ProcessStep.write.inj hj
    exact hcurrent.undisturbed
  · rw [hpending₂, hpending, Function.update_idem, hidle]
    exact Function.update_eq_self i _

/-! ## Runs without stale copies -/

theorem rowsAreOwn_step {serverUrl : String}
    (hurl : ∀ i, (cs i).serverUrl = serverUrl)
    (hkey : ∀ i, (cs i).softwareName ∉ reservedRootKeys ∧
      Python.strip (cs i).softwareName = (cs i).softwareName)
    (hne : ∀ i j, i ≠ j → (cs i).softwareName ≠ (cs j).softwareName)
    (w : Processes ι β) (a : ProcessStep ι) (w' : Processes ι β)
    (hw : w.RowsAreOwn P cs) (hstep : w.UndisturbedStep P cs a w') :
    w'.RowsAreOwn P cs := by
  obtain ⟨hstep, hquiet⟩ := hstep
  cases a with
  | read i op =>
      simp only [step, Option.ite_none_right_eq_some, Option.some.injEq] at hstep
      obtain ⟨-, rfl⟩ := hstep
      intro j
      rw [hurl j, ← hurl i, stateRoot_readStateDict, hurl i, ← hurl j]
      exact hw j
  | write i =>
      cases hpending : w.pending i with
      | none => simp [step, hpending] at hstep
      | some copy =>
          obtain ⟨op, d⟩ := copy
          simp only [step, hpending, Option.some.injEq] at hstep
          subst hstep
          intro j
          by_cases hij : j = i
          · subst hij
            simp
          · have hstrip : Python.strip (cs i).softwareName ≠
                Python.strip (cs j).softwareName := by
              rw [(hkey i).2, (hkey j).2]
              exact hne i j (Ne.symm hij)
            have hfresh := hquiet i rfl op d hpending j hij
            dsimp only
            rw [Function.update_of_ne hij, ← hw j, hurl j, ← hurl i,
              Operation.row_writeBack (hkey j).1 hstrip, hfresh, ite_self]

/-- **Products keep their own rows.**  In a run in which no stale copy is
written back, the row of each product is at any time the one left by its own
last operation. -/
theorem rowsAreOwn_of_undisturbed {serverUrl : String}
    (hurl : ∀ i, (cs i).serverUrl = serverUrl)
    (hkey : ∀ i, (cs i).softwareName ∉ reservedRootKeys ∧
      Python.strip (cs i).softwareName = (cs i).softwareName)
    (hne : ∀ i j, i ≠ j → (cs i).softwareName ≠ (cs j).softwareName)
    (st : Storage β) {steps : List (ProcessStep ι)} {w : Processes ι β}
    (hrun : Run (UndisturbedStep P cs) (start P cs st) steps w) :
    w.RowsAreOwn P cs :=
  hrun.invariant (fun _ => rfl) (rowsAreOwn_step hurl hkey hne)

end Processes

/-! ## Two products on one disk -/

/-- The clients of two products, `editor` and `player`. -/
def exampleProcesses : Bool → AuthCache
  | true => (exampleClient "D").cache
  | false => { (exampleClient "E").cache with softwareName := "player" }

/-- The server revokes `editor` and authorises `player`. -/
def exampleRevoke : Operation := .save false .null .null .null (.success 300)

def exampleAuthorise : Operation :=
  .save true .null (.int 2) .null (.success 300)

theorem rowsAreOwn_of_undisturbed_one_after_another :
    ∃ w, Run (Processes.UndisturbedStep .symbolic exampleProcesses)
        (.start .symbolic exampleProcesses
          (.holding "https://auth.example" exampleRoot))
        [.read true exampleRevoke, .write true, .read false exampleAuthorise,
          .write false] w ∧
      w.RowsAreOwn .symbolic exampleProcesses := by
  have hurl : ∀ i, (exampleProcesses i).serverUrl = "https://auth.example" := by
    decide
  obtain ⟨w₁, hrun₁, hidle₁⟩ := Processes.run_undisturbed_of_read_write
    (P := .symbolic) (w := .start .symbolic exampleProcesses
      (.holding "https://auth.example" exampleRoot)) hurl rfl
    (show exampleRevoke.Succeeds from rfl)
  obtain ⟨w₂, hrun₂, -⟩ := Processes.run_undisturbed_of_read_write
    (P := .symbolic) hurl hidle₁ (show exampleAuthorise.Succeeds from rfl)
  have hrun := hrun₁.trans hrun₂
  exact ⟨w₂, hrun, Processes.rowsAreOwn_of_undisturbed hurl (by decide)
    (by decide) _ hrun⟩

/-- The write of `player` brings the revoked row of `editor` back. -/
theorem revoked_row_brought_back :
    (([.read false exampleAuthorise, .read true exampleRevoke, .write true,
        .write false] : List (ProcessStep Bool)).foldlM
          (Processes.step .symbolic exampleProcesses)
          (.start .symbolic exampleProcesses
            (.holding "https://auth.example" exampleRoot))).map
        (fun w => (w.left true,
          rowIn "editor" (stateRoot .symbolic "https://auth.example"
            w.storage))) =
      some (some (.ofList [("device_id", .str "D")]),
        some (exampleRow "D" 100)) := by
  decide +kernel

end PyAuth.Client
