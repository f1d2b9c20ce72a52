import PyAuth.Sdk.GoLeases
import PyAuth.Sdk.PythonLeases
import PyAuth.Sdk.Snapshots
import PyAuth.Sdk.TypeScriptLeases

/-!
# One lease for the three SDKs

Programs which use the Python, the Go and the TypeScript SDK may run under one
product name on one state file.  An authorisation that one of them saves lets
all of them go on, but none of them for longer than its own validity.
-/

namespace PyAuth.Sdk

open Support Client

section

variable {β : Type} (P : Primitives β) (url : String)
  (unmarshal parse : String → Option Json)

/-- The SDK of a language on the state file of the server `url`; `unmarshal`
and `parse` read JSON texts in Go and TypeScript. -/
def Language.runtime : Language → Runtime
  | .python => Client.runtime P url
  | .go => Go.runtime unmarshal
  | .typeScript => TypeScript.runtime parse

theorem Language.runtime_sound (lang : Language) :
    (lang.runtime P url unmarshal parse).Sound := by
  cases lang with
  | python => exact Client.runtime_sound P url
  | go => exact Go.runtime_sound unmarshal
  | typeScript => exact TypeScript.runtime_sound parse

/-- **The SDKs share a lease.**  Programs of the three SDKs are started and
call their clients on one state file, in any order, whatever the disk and the
server do.  When a call lets its program go on and none of its heartbeats was
granted, then a granted call of some SDK has tried to save an authorisation of
the product, or the file held one before the run, and the validity had not yet
passed since then.  The name of a product is taken without the white space
around it. -/
theorem sdks_share_lease {τ : String → ℚ} {file : StateFile}
    (hfile : DatedContent τ file.content) {ι : Type} [DecidableEq ι]
    {es : List (MixedStep (Language.runtime P url unmarshal parse) ι)}
    {w : MixedFleet (Language.runtime P url unmarshal parse) ι}
    (hrun : Run (fun w e w' => e.Named ∧ w.Step e w') (.start file) es w)
    {i : ι} {lang : Language}
    {cl : (lang.runtime P url unmarshal parse).Client}
    (hcl : w.clients i = some ⟨lang, cl⟩)
    {call : (lang.runtime P url unmarshal parse).Call}
    {out : Acted (lang.runtime P url unmarshal parse).Client}
    (hact : (lang.runtime P url unmarshal parse).act call cl w.file = some out)
    (hauth : out.authorises)
    (hnot : ¬(lang.runtime P url unmarshal parse).Granted call) :
    let L := lang.runtime P url unmarshal parse
    ∃ saved, L.testedAt call < saved + L.validity cl ∧
      (saved = τ (L.key cl) ∨
        ∃ j lang' cl' call', MixedStep.act j lang' cl' call' ∈ es ∧
          let L' := Language.runtime P url unmarshal parse lang'
          L'.key cl' = L.key cl ∧ L'.Granted call' ∧
            saved ∈ L'.saveTimes call') := by
  intro L
  refine ⟨_, MixedFleet.authorised_within_lease
    (Language.runtime_sound P url unmarshal parse) hfile hrun hcl hact hauth
    hnot, ?_⟩
  refine (lastRenewal_eq es (L.key cl)).imp_right ?_
  rintro ⟨e, he, hsaved⟩
  cases e with
  | construct j lang' x => contradiction
  | act j lang' cl' call' =>
      rw [MixedStep.renewals, List.mem_ite_nil_right] at hsaved
      exact ⟨j, lang', cl', call', he, hsaved.1.1, hsaved.1.2, hsaved.2⟩

end

/-! ## A program that is ported -/

abbrev portedRuntime : Language → Runtime :=
  Language.runtime .symbolic "https://auth.example" noText noText

/-- The storage root after the Python client has been constructed. -/
def portedStorage : Storage Symbol :=
  (newAuthClient .symbolic (exampleConfig "D") exampleConstruct .fresh).1

/-- A progressive check which is granted. -/
def portedCheck : Client.AnyCall :=
  .progressive (.success 100 (.answered true "") 100
    (.posted collectedInfo "" (.answered true "")) 100 100)

/-- A Python program is granted an authorisation; then it is replaced by one
in TypeScript. -/
def portedRun : List (MixedStep portedRuntime Bool) :=
  [.construct false .python (.fresh, exampleConfig "D", exampleConstruct),
    .act false .python (exampleClient "D") (portedStorage, portedCheck),
    .construct true .typeScript typeScriptConstruction]

/-- What the new program finds. -/
def portedOutcome : Outcome Symbol :=
  portedCheck.perform .symbolic (exampleClient "D") portedStorage

def portedFile : StateFile :=
  stateFile .symbolic "https://auth.example" portedOutcome.storage

def portedClient : StateFile × Option TypeScript.AuthClient :=
  TypeScript.newAuthClient noText typeScriptConstruction.1
    typeScriptConstruction.2 portedFile

/-- It does not reach the server. -/
def silentCheck : TypeScript.AnyCall :=
  .check (.success 300 (.raised "连接失败") 300)

/-- The run, state by state. -/
def portedStart : MixedFleet portedRuntime Bool := .start .absent

def pythonStarted : MixedFleet portedRuntime Bool where
  file := stateFile .symbolic "https://auth.example" portedStorage
  clients := Function.update portedStart.clients false
    (some ⟨Language.python, exampleClient "D"⟩)

def pythonGranted : MixedFleet portedRuntime Bool where
  file := portedFile
  clients := Function.update pythonStarted.clients false
    (some ⟨Language.python, portedOutcome.client⟩)

def typeScriptStarted : MixedFleet portedRuntime Bool where
  file := portedClient.1
  clients := Function.update pythonGranted.clients true
    (portedClient.2.map fun cl => ⟨Language.typeScript, cl⟩)

theorem run_portedRun :
    Run (fun (w : MixedFleet portedRuntime Bool) e w' => e.Named ∧ w.Step e w')
      portedStart portedRun typeScriptStarted := by
  have hname : core "editor" ≠ "__proto__" := by decide
  have hurl : (exampleConfig "D").stateUrl = "https://auth.example" := by
    decide +kernel
  have hfresh : stateFile .symbolic "https://auth.example" Storage.fresh =
      .absent := by
    decide +kernel
  have hpython : (portedRuntime .python).construct
      (.fresh, exampleConfig "D", exampleConstruct) .absent =
        some (stateFile .symbolic "https://auth.example" portedStorage,
          some (exampleClient "D")) := by
    rw [← hfresh, ← newAuthClient_exampleConfig]
    exact runtime_construct exampleConstruct hurl
  have hcheck : (portedRuntime .python).act (portedStorage, portedCheck)
      (exampleClient "D")
      (stateFile .symbolic "https://auth.example" portedStorage) =
        some ⟨portedOutcome.client, portedFile,
          portedOutcome.reply.Authorises⟩ :=
    runtime_act portedCheck rfl
  have htypeScript : (portedRuntime .typeScript).construct
      typeScriptConstruction portedFile =
        some (portedClient.1, portedClient.2) := rfl
  have hstep₁ : portedStart.Step (.construct false .python
      (.fresh, exampleConfig "D", exampleConstruct)) pythonStarted :=
    MixedFleet.Step.construct (w := portedStart) hpython
  have hstep₂ : pythonStarted.Step (.act false .python (exampleClient "D")
      (portedStorage, portedCheck)) pythonGranted :=
    MixedFleet.Step.act (w := pythonStarted) (Function.update_self _ _ _) hcheck
  have hstep₃ : pythonGranted.Step (.construct true .typeScript
      typeScriptConstruction) typeScriptStarted :=
    MixedFleet.Step.construct (w := pythonGranted) htypeScript
  exact .snoc (.snoc (.snoc .nil ⟨hname, hstep₁⟩) ⟨trivial, hstep₂⟩)
    ⟨hname, hstep₃⟩

/-- The new program goes on from what the old one has saved. -/
theorem sdks_share_lease_ported :
    ∃ (cl : TypeScript.AuthClient) (out : Acted TypeScript.AuthClient),
      typeScriptStarted.clients true = some ⟨.typeScript, cl⟩ ∧
      (portedRuntime .typeScript).act silentCheck cl typeScriptStarted.file =
        some out ∧
      out.authorises ∧
      ∃ saved, 300 < saved + (portedRuntime .typeScript).validity cl ∧
        (saved = 0 ∨ ∃ j lang' cl' call', .act j lang' cl' call' ∈ portedRun ∧
          (portedRuntime lang').key cl' = "editor" ∧
          (portedRuntime lang').Granted call' ∧
            saved ∈ (portedRuntime lang').saveTimes call') := by
  have hgoes : portedClient.2.any (fun cl =>
      decide (cl.cache.softwareName = "editor") &&
        (cl.checkAuthorization (.success 300 (.raised "连接失败") 300)
          portedClient.1).result.authorized) = true := by
    decide +kernel
  obtain ⟨cl, hclient, hgoes⟩ := (Option.any_eq_true _ _).mp hgoes
  obtain ⟨hname, hauth⟩ := Bool.and_eq_true_iff.mp hgoes
  have hkey : (portedRuntime .typeScript).key cl = "editor" := by
    change core cl.cache.softwareName = "editor"
    rw [of_decide_eq_true hname]
    decide
  have hclients : typeScriptStarted.clients true = some ⟨.typeScript, cl⟩ := by
    let client (cl : TypeScript.AuthClient) :
        Σ lang, (portedRuntime lang).Client := ⟨.typeScript, cl⟩
    have hself : typeScriptStarted.clients true = portedClient.2.map client :=
      rfl
    rw [hself, hclient]
    rfl
  have hact : (portedRuntime .typeScript).act silentCheck cl
      typeScriptStarted.file = some (silentCheck.perform cl portedClient.1) :=
    rfl
  have hdated : DatedContent (fun _ => 0) StateFile.absent.content := by
    rintro _ ⟨⟩
  have hnot : ¬(portedRuntime .typeScript).Granted silentCheck := by
    rintro ⟨a, ha, -⟩
    exact List.not_mem_nil ha
  obtain ⟨saved, htested, hsaved⟩ := sdks_share_lease .symbolic
    "https://auth.example" noText noText hdated run_portedRun hclients hact
    hauth hnot
  rw [hkey] at hsaved
  exact ⟨cl, _, hclients, hact, hauth, saved, htested, hsaved⟩

end PyAuth.Sdk
