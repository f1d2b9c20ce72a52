import PyAuth.Sdk.Provenance
import PyAuth.Support.Run

/-!
# Fleets of clients which share a state file

Clients are constructed and act one after another on one file.  `Implementation` is
what the development needs of an SDK: what its constructions and activities do to
the file and to a client, which collections they make, and when an activity is
known to leave no placeholder behind.  For a sound SDK every snapshot in the
file comes from a collection, after every run of such activities.
-/

namespace PyAuth.Sdk

open Support Client

/-- An SDK, as far as device information is concerned. -/
structure Implementation where
  File : Type
  Client : Type
  Construction : Type
  Activity : Type
  DeviceInfo : Type
  /-- A device information as a JSON object. -/
  members : DeviceInfo → Dict String Json
  /-- The object which can be read from the file. -/
  content : File → Option Root
  /-- What the SDK expects of a file. -/
  Plain : File → Prop
  /-- What it expects of a client. -/
  Proper : Client → Prop
  deviceInfo : Client → DeviceInfo
  deferred : Client → Bool
  construct : Construction → File → File × Option Client
  act : Activity → Client → File → File × Client
  /-- The construction is given no device information, and makes a proper
  client. -/
  Admits : Construction → Prop
  collectedIn : Construction → Set DeviceInfo
  collectedBy : Activity → Set DeviceInfo
  /-- The activity does not leave a placeholder behind. -/
  Completes : Client → Activity → Prop

namespace Implementation

variable (S : Implementation)

/-- All snapshots which can be read from the file come from collections. -/
structure FileFrom (C : Set S.DeviceInfo) (file : S.File) : Prop where
  plain : S.Plain file
  content : ContentFrom (S.members '' C) (S.content file)

/-- So does the information of a client that is not deferred. -/
structure ClientFrom (C : Set S.DeviceInfo) (cl : S.Client) : Prop where
  proper : S.Proper cl
  info : S.deferred cl = false →
    FromCollection (S.members '' C) (S.members (S.deviceInfo cl))

/-- What one construction and one activity have to preserve. -/
structure Sound : Prop where
  construct : ∀ {C x file}, S.Admits x → S.collectedIn x ⊆ C →
    S.FileFrom C file →
    S.FileFrom C (S.construct x file).1 ∧
      ∀ cl ∈ (S.construct x file).2, S.ClientFrom C cl
  act : ∀ {C a cl file}, S.Completes cl a → S.collectedBy a ⊆ C →
    S.FileFrom C file → S.ClientFrom C cl →
    S.FileFrom C (S.act a cl file).1 ∧
      S.ClientFrom C (S.act a cl file).2

end Implementation

/-! ## Runs -/

/-- The file, and the clients which exist. -/
structure Fleet (S : Implementation) (ι : Type) where
  file : S.File
  clients : ι → Option S.Client

/-- A construction which takes the place of client `i`, or an activity of
client `i`. -/
inductive FleetStep (S : Implementation) (ι : Type)
  | construct (i : ι) (x : S.Construction)
  | act (i : ι) (a : S.Activity)

namespace FleetStep

variable {S : Implementation} {ι : Type}

/-- The collections made in a step. -/
def collected : FleetStep S ι → Set S.DeviceInfo
  | .construct _ x => S.collectedIn x
  | .act _ a => S.collectedBy a

/-- No construction is given a device information. -/
def Admitted : FleetStep S ι → Prop
  | .construct _ x => S.Admits x
  | .act _ _ => True

end FleetStep

namespace Fleet

variable {S : Implementation} {ι : Type} [DecidableEq ι]

/-- No client exists yet. -/
def start (file : S.File) : Fleet S ι := ⟨file, fun _ => none⟩

def step (w : Fleet S ι) : FleetStep S ι → Option (Fleet S ι)
  | .construct i x =>
      let (file, cl) := S.construct x w.file
      some ⟨file, Function.update w.clients i cl⟩
  | .act i a =>
      (w.clients i).map fun cl =>
        let (file, cl) := S.act a cl w.file
        ⟨file, Function.update w.clients i (some cl)⟩

omit [DecidableEq ι] in
/-- The step leaves no placeholder behind. -/
def Completes (w : Fleet S ι) : FleetStep S ι → Prop
  | .construct _ x => S.Admits x
  | .act i a => ∀ cl ∈ w.clients i, S.Completes cl a

/-- The invariant: what is stored and what clients hold comes from the
collections `C`. -/
structure Inv (C : Set S.DeviceInfo) (w : Fleet S ι) : Prop where
  file : S.FileFrom C w.file
  clients : ∀ i, ∀ cl ∈ w.clients i, S.ClientFrom C cl

theorem Inv.step {C : Set S.DeviceInfo} (hS : S.Sound)
    {w w' : Fleet S ι} {e : FleetStep S ι} (hw : w.Inv C)
    (hcollected : e.collected ⊆ C) (hcompletes : w.Completes e)
    (hstep : w.step e = some w') : w'.Inv C := by
  have hupdate : ∀ (i : ι) (new : Option S.Client),
      (∀ cl ∈ new, S.ClientFrom C cl) →
      ∀ j, ∀ cl ∈ Function.update w.clients i new j, S.ClientFrom C cl := by
    intro i new hnew j cl hcl
    by_cases hji : j = i
    · rw [hji, Function.update_self] at hcl
      exact hnew cl hcl
    · rw [Function.update_of_ne hji] at hcl
      exact hw.clients j cl hcl
  cases e with
  | construct i x =>
      obtain ⟨hfile, hclient⟩ := hS.construct hcompletes hcollected hw.file
      obtain rfl := Option.some.inj hstep
      exact ⟨hfile, hupdate i _ hclient⟩
  | act i a =>
      obtain ⟨cl, hcl, rfl⟩ := Option.map_eq_some_iff.mp hstep
      obtain ⟨hfile, hclient⟩ := hS.act (hcompletes cl hcl) hcollected
        hw.file (hw.clients i cl hcl)
      refine ⟨hfile, hupdate i _ ?_⟩
      rintro _ ⟨⟩
      exact hclient

omit [DecidableEq ι] in
theorem Inv.mono {C C' : Set S.DeviceInfo} (hsub : C ⊆ C') {w : Fleet S ι}
    (hw : w.Inv C) : w.Inv C' := by
  have hfrom : ∀ {info}, FromCollection (S.members '' C) info →
      FromCollection (S.members '' C') info :=
    fun ⟨c, hc, h⟩ => ⟨c, Set.image_mono hsub hc, h⟩
  constructor
  · refine ⟨hw.file.plain, ?_⟩
    intro root hroot k v row hk hget hrow s hs
    obtain ⟨info, hinfo, h⟩ := hw.file.content root hroot k v row hk hget hrow
      s hs
    exact ⟨info, hinfo, hfrom h⟩
  · intro i cl hcl
    exact ⟨(hw.clients i cl hcl).proper,
      fun hd => hfrom ((hw.clients i cl hcl).info hd)⟩

/-- Everything comes from the collections made before the run, or in it. -/
theorem inv_run (hS : S.Sound) {C : Set S.DeviceInfo} {file : S.File}
    (hfile : S.FileFrom C file) {steps : List (FleetStep S ι)}
    {w : Fleet S ι}
    (hrun : Run (fun w e w' => w.Completes e ∧ w.step e = some w')
      (start file) steps w) :
    w.Inv (C ∪ {c | ∃ e ∈ steps, c ∈ e.collected}) := by
  induction hrun with
  | nil =>
      exact .mono Set.subset_union_left
        ⟨hfile, fun _ _ h => by simp [start] at h⟩
  | @snoc es e w w' _ hlast ih =>
      have hsub : C ∪ {c | ∃ e ∈ es, c ∈ e.collected} ⊆
          C ∪ {c | ∃ e' ∈ es ++ [e], c ∈ e'.collected} := by
        apply Set.union_subset_union_right
        rintro c ⟨e', he', hc⟩
        exact ⟨e', List.mem_append_left _ he', hc⟩
      refine (ih.mono hsub).step hS ?_ hlast.1 hlast.2
      intro c hc
      exact Or.inr ⟨e, by simp, hc⟩

end Fleet

end PyAuth.Sdk
