import PyAuth.Sdk.GoSnapshots
import PyAuth.Sdk.PythonSnapshots
import PyAuth.Sdk.TypeScriptSnapshots

/-!
# Stored snapshots come from collections

A light heartbeat of a deferred client stores the placeholder the client still
holds.  When its check then stores the answer to a full heartbeat as well, in
all three SDKs every snapshot in the file comes from a collection.  When the
full heartbeat fails the placeholder stays, and the next client takes it for
collected.
-/

namespace PyAuth.Sdk

open Support Client

/-! ## Placeholders -/

/-- Nothing but the labels. -/
def IsPlaceholder (info : Dict String Json) : Prop :=
  ∀ e ∈ info.entries, e.1 ∈ labelKeys

/-- A member besides the labels and the `network` block. -/
def HasOwnMember (info : Dict String Json) : Prop :=
  ∃ e ∈ info.entries, e.1 ∉ labelKeys ∧ e.1 ≠ "network"

instance : DecidablePred IsPlaceholder := fun info =>
  inferInstanceAs (Decidable (∀ e ∈ info.entries, e.1 ∈ labelKeys))

instance : DecidablePred HasOwnMember := fun info =>
  inferInstanceAs (Decidable (∃ e ∈ info.entries, _ ∧ _))

theorem FromCollection.not_isPlaceholder {C : Set (Dict String Json)}
    {info : Dict String Json} (h : FromCollection C info)
    (hC : ∀ c ∈ C, HasOwnMember c) : ¬IsPlaceholder info := by
  intro hplaceholder
  obtain ⟨c, hc, hfrom⟩ := h
  obtain ⟨⟨k, v⟩, hmem, hk, hne⟩ := hC c hc
  have hget : c.get k ≠ none := by
    rw [Dict.get_eq_some_iff.mpr hmem]
    simp
  obtain ⟨k', hk', hget'⟩ := hfrom.exists_member ⟨k, hk, hne, hget⟩
  obtain ⟨v', hv'⟩ := Option.ne_none_iff_exists'.mp hget'
  exact hk' (hplaceholder (k', v') (Dict.get_eq_some_iff.mp hv'))

/-- The snapshot stored under the name `s`. -/
def storedSnapshot (content : Option Root) (s : String) :
    Option (Dict String Json) :=
  let row := (content.bind (·.get s)).bind Json.dict?
  (row.bind (·.get "device_info_snapshot")).bind Json.dict?

/-- The placeholder is stored for the product `s`, and the client `i` holds it
as if it had been collected. -/
def Fleet.TakesPlaceholder {S : Implementation} {ι : Type} (w : Fleet S ι)
    (s : String) (i : ι) : Prop :=
  (∃ info ∈ storedSnapshot (S.content w.file) s, IsPlaceholder info) ∧
    ∃ cl ∈ w.clients i, S.deferred cl = false ∧
      IsPlaceholder (S.members (S.deviceInfo cl))

instance {S : Implementation} {ι : Type} (w : Fleet S ι) (s : String)
    (i : ι) : Decidable (w.TakesPlaceholder s i) :=
  inferInstanceAs (Decidable (_ ∧ _))

/-! ## The three SDKs -/

inductive Language
  | python
  | go
  | typeScript
deriving DecidableEq

section

variable {β : Type} (P : Primitives β) (url : String)
  (parse : String → Option Json)

/-- The SDK of a language: for Python on the state file of the server `url`
with the primitives `P`, for the others with a reader of JSON texts. -/
def Language.implementation : Language → Implementation
  | .python => Client.implementation P url
  | .go => Go.implementation parse
  | .typeScript => TypeScript.implementation parse

theorem Language.sound (lang : Language) :
    (lang.implementation P url parse).Sound := by
  cases lang with
  | python => exact Client.implementation_sound P url
  | go => exact Go.implementation_sound parse
  | typeScript => exact TypeScript.implementation_sound parse

/-- **Where snapshots come from.**  A file holds snapshots from the
collections `C`, and clients are constructed and act on it, in any order and
with any outcomes of heartbeats and disk accesses.  When every deferred client
which stores the answer to a light heartbeat stores that to the full one too,
every snapshot in the file and the information of every client that is not
deferred comes from `C` or a collection made in the run; it is never the
placeholder when the collections have members of their own. -/
theorem snapshots_from_collections (lang : Language) {ι : Type}
    [DecidableEq ι]
    (C : Set (lang.implementation P url parse).DeviceInfo)
    {file : (lang.implementation P url parse).File}
    (hfile : (lang.implementation P url parse).FileFrom C file)
    {steps : List (FleetStep (lang.implementation P url parse) ι)}
    {w : Fleet (lang.implementation P url parse) ι}
    (hrun : Run (fun w e w' => w.Completes e ∧ w.step e = some w')
      (Fleet.start file) steps w) :
    let S := lang.implementation P url parse
    let collected := S.members '' (C ∪ {c | ∃ e ∈ steps, c ∈ e.collected})
    ContentFrom collected (S.content w.file) ∧
      (∀ i, ∀ cl ∈ w.clients i, S.deferred cl = false →
        FromCollection collected (S.members (S.deviceInfo cl))) ∧
      ((∀ c ∈ collected, HasOwnMember c) →
        (∀ s, ∀ info ∈ storedSnapshot (S.content w.file) s,
          ¬IsPlaceholder info) ∧
        ∀ s i, ¬w.TakesPlaceholder s i) := by
  intro S collected
  have hinv := Fleet.inv_run (lang.sound P url parse) hfile hrun
  have hstored : ∀ s, ∀ info ∈ storedSnapshot (S.content w.file) s,
      FromCollection collected info := by
    intro s info hinfo
    simp only [storedSnapshot, Option.mem_def,
      Option.bind_eq_some_iff] at hinfo
    obtain ⟨snap, ⟨row, ⟨v, ⟨root, hroot, hv⟩, hrow⟩, hsnap⟩, hdict⟩ := hinfo
    obtain ⟨info', hinfo', hfrom⟩ :=
      hinv.file.content root hroot s v row (by simp) hv hrow snap hsnap
    rw [hdict, Option.some.injEq] at hinfo'
    exact hinfo' ▸ hfrom
  refine ⟨hinv.file.content, fun i cl hcl => (hinv.clients i cl hcl).info,
    fun hown => ⟨?_, ?_⟩⟩
  · intro s info hinfo
    exact (hstored s info hinfo).not_isPlaceholder hown
  · rintro s i ⟨⟨info, hinfo, hplaceholder⟩, -⟩
    exact (hstored s info hinfo).not_isPlaceholder hown hplaceholder

end

/-! ## A full heartbeat which fails -/

/-- A client with an explicit device id is constructed, makes one progressive
check whose light heartbeat is authorised, and is constructed anew. -/
def restartAfterCheck {S : Implementation} (x : S.Construction)
    (check : S.Activity) : List (FleetStep S Unit) :=
  [.construct () x, .act () check, .construct () x]

def collectedInfo : Dict String Json :=
  .ofList [("hostname", .str "host"),
    ("system", .ofDict (.ofList [("os", .str "linux")]))]

def pythonConstruction : ClientConfig × Client.ConstructEnv :=
  (exampleConfig "D", exampleConstruct)

/-- The full heartbeat ends with `answer`. -/
def pythonCheck (answer : Answer) : Client.Activity :=
  .progressive (.success 100 (.answered true "") 100
    (.posted collectedInfo "" answer) 100 100)

def goInfo : Go.DeviceInfo :=
  { Go.DeviceInfo.zero with sys := some collectedInfo }

def goConstruction : Go.AuthClientConfig × Go.ConstructEnv :=
  (⟨"https://auth.example", "editor", "1.0.0", "D", none, "secret", 7,
      "go1.21"⟩,
    ⟨.success .forward, .success .forward, "", .success .forward, goInfo,
      .success .forward⟩)

def goCheck (answer : Answer) : Go.Activity :=
  .progressive (.success .forward 100 (.answered true "") 100
    ⟨goInfo, "", answer⟩ 100 100)

def typeScriptConstruction :
    TypeScript.AuthClientConfig × TypeScript.ConstructEnv :=
  (⟨"https://auth.example", "editor", "1.0.0", "D", none, "secret", 7,
      "node18"⟩,
    ⟨true, true, "", .success, some collectedInfo, true⟩)

def typeScriptCheck (answer : Answer) : TypeScript.Activity :=
  .progressive (.success 100 (.answered true "") 100
    (.posted collectedInfo "" answer) 100 100)

/-- No text is read as JSON. -/
def noText : String → Option Json := fun _ => none

abbrev exampleImplementation (lang : Language) : Implementation :=
  lang.implementation .symbolic "https://auth.example" noText

/-- The run of `restartAfterCheck` in each language, on an empty storage
root. -/
def exampleFile : (lang : Language) → (exampleImplementation lang).File
  | .python => Storage.fresh
  | .go => StateFile.absent
  | .typeScript => StateFile.absent

def exampleRun (answer : Answer) : (lang : Language) →
    List (FleetStep (exampleImplementation lang) Unit)
  | .python => restartAfterCheck pythonConstruction (pythonCheck answer)
  | .go => restartAfterCheck goConstruction (goCheck answer)
  | .typeScript =>
      restartAfterCheck typeScriptConstruction (typeScriptCheck answer)

/-- The run with a failing full heartbeat leaves a placeholder which the last
client takes for collected, although all that was collected has members of its
own. -/
def TakesPlaceholder (lang : Language) : Prop :=
  (∀ e ∈ exampleRun (.failed "连接失败") lang, e.Admitted ∧
      ∀ c ∈ e.collected, HasOwnMember ((exampleImplementation lang).members c)) ∧
    ∃ w, Run (fun w e w' => w.step e = some w')
        (Fleet.start (exampleFile lang))
        (exampleRun (.failed "连接失败") lang) w ∧
      w.TakesPlaceholder "editor" ()

theorem takesPlaceholder (lang : Language) : TakesPlaceholder lang := by
  constructor
  · have hown : HasOwnMember collectedInfo ∧ HasOwnMember goInfo.marshal := by
      decide +kernel
    cases lang with
    | python =>
        simp only [exampleRun, restartAfterCheck, List.forall_mem_cons]
        refine ⟨⟨⟨rfl, rfl⟩, ?_⟩, ⟨trivial, ?_⟩, ⟨⟨rfl, rfl⟩, ?_⟩, by simp⟩
        · rintro _ ⟨⟩
        · rintro _ rfl
          exact hown.1
        · rintro _ ⟨⟩
    | go =>
        simp only [exampleRun, restartAfterCheck, List.forall_mem_cons]
        refine ⟨⟨rfl, ?_⟩, ⟨trivial, ?_⟩, ⟨rfl, ?_⟩, by simp⟩
        all_goals
          rintro _ rfl
          exact hown.2
    | typeScript =>
        simp only [exampleRun, restartAfterCheck, List.forall_mem_cons]
        refine ⟨⟨⟨rfl, by decide⟩, ?_⟩, ⟨trivial, ?_⟩,
          ⟨⟨rfl, by decide⟩, ?_⟩, by simp⟩
        · rintro _ ⟨⟩
          exact hown.1
        · rintro _ rfl
          exact hown.1
        · rintro _ ⟨⟩
          exact hown.1
  · have htakes : ∃ w ∈ (exampleRun (.failed "连接失败") lang).foldlM
        Fleet.step (Fleet.start (exampleFile lang)),
        w.TakesPlaceholder "editor" () := by
      cases lang <;> decide +kernel
    obtain ⟨w, hw, htakes⟩ := htakes
    exact ⟨w, .of_foldlM hw, htakes⟩

/-- **A placeholder is stored and taken for collected**, in all three SDKs. -/
theorem placeholder_taken_for_collected :
    TakesPlaceholder .python ∧ TakesPlaceholder .go ∧
      TakesPlaceholder .typeScript :=
  ⟨takesPlaceholder .python, takesPlaceholder .go,
    takesPlaceholder .typeScript⟩

theorem snapshots_from_collections_answered :
    ∃ w, Run (fun w e w' => w.Completes e ∧ w.step e = some w')
        (Fleet.start (exampleFile .go))
        (exampleRun (.answered true "") .go) w ∧
      ¬w.TakesPlaceholder "editor" () := by
  have hclient : ∀ cl ∈ (Go.newAuthClient noText goConstruction.1
      goConstruction.2 .absent).2, KeepsKey Go.isSpace cl.cache.softwareName := by
    decide +kernel
  have hcompletes : ∀ cl : Go.AuthClient, KeepsKey Go.isSpace cl.cache.softwareName →
      (exampleImplementation .go).Completes cl
        (goCheck (.answered true "")) :=
    fun cl hkey _ _ _ => ⟨rfl, rfl, hkey⟩
  have hrun : ∃ w, Run (fun w e w' => w.Completes e ∧ w.step e = some w')
      (Fleet.start (exampleFile .go))
      (exampleRun (.answered true "") .go) w := by
    refine ⟨_, .snoc (.snoc (.snoc .nil ⟨rfl, rfl⟩) ⟨?_, rfl⟩) ⟨rfl, rfl⟩⟩
    intro cl hcl
    exact hcompletes cl (hclient cl hcl)
  obtain ⟨w, hrun⟩ := hrun
  have hfile : (exampleImplementation .go).FileFrom ∅ (exampleFile .go) := by
    refine ⟨trivial, ?_⟩
    rintro _ ⟨⟩
  have hfrom := snapshots_from_collections .symbolic "https://auth.example"
    noText .go ∅ hfile hrun
  refine ⟨w, hrun, (hfrom.2.2 ?_).2 "editor" ()⟩
  rintro _ ⟨c, hc, rfl⟩
  rcases hc with hc | ⟨e, he, hc⟩
  · contradiction
  · have hown : HasOwnMember goInfo.marshal := by decide +kernel
    have hgo : c = goInfo := by
      simp only [exampleRun, restartAfterCheck, List.mem_cons,
        List.not_mem_nil, or_false] at he
      rcases he with rfl | rfl | rfl <;> exact hc
    exact hgo ▸ hown

end PyAuth.Sdk
