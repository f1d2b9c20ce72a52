import PyAuth.Client.AuthClient
import PyAuth.Sdk.Rows
import PyAuth.Support.Lease

/-!
# Licences as leases

A row tells when an authorisation of its product was saved last, and a program
may go on without the server until the validity has passed since then.
`Runtime` is what the development needs of an SDK to see this: what its
constructions and calls do to the state file, which answers they get, when they
save and when they test what they read.  Programs of any sound SDKs may share a
file: whatever they do, no program goes on for longer than the validity after
an authorisation of its product was saved.  The names of a product may differ
in the white space around them.
-/

namespace PyAuth.Sdk

open Support Client

variable {isSpace : Char → Bool} [WhiteSpace isSpace]
  {τ τ' : String → ℚ} {content content' : Option Root} {s t : String}
  {row sub : Row} {f : Row → Row} {times : List ℚ} {v : Json} {x ts : ℚ}

/-! ## Timestamps -/

/-- A number which is at most `x`, rounded or not. -/
def Dated (x : ℚ) (v : Json) : Prop :=
  ∃ ts ≤ x, rounded v = .float (.fin ts)

theorem dated_float (h : ts ≤ x) : Dated x (.float (.fin ts)) := ⟨ts, h, rfl⟩

/-- Such a number is written as a double or as an integer. -/
theorem cases_of_rounded (h : rounded v = .float (.fin ts)) :
    v = .float (.fin ts) ∨ ∃ n, v = .int n ∧ Double.ofInt n = .fin ts := by
  have hkeep {y : Double} (hy : keepFinite y = .float (.fin ts)) :
      y = .fin ts := by
    unfold keepFinite at hy
    split at hy
    · exact Json.float.inj hy
    · contradiction
  cases v with
  | float y =>
      rw [rounded, Json.mapNumbers] at h
      exact .inl (congrArg Json.float (hkeep h))
  | int n =>
      rw [rounded, Json.mapNumbers] at h
      exact .inr ⟨n, rfl, hkeep h⟩
  | null | bool | str | arr | obj => contradiction

/-- The timestamp of a row of the product `t` is at most `τ t`.  No row stands
under `__proto__`, where TypeScript would look for others. -/
def DatedRow (τ : String → ℚ) (t : String) (row : Row) : Prop :=
  t ≠ "__proto__" ∧
    ∀ v, row.get "last_success_at" = some v → Dated (τ t) v

theorem DatedRow.mono (h : DatedRow τ t row) (hle : τ ≤ τ') :
    DatedRow τ' t row := by
  refine ⟨h.1, fun v hv => ?_⟩
  obtain ⟨ts, hts, hround⟩ := h.2 v hv
  exact ⟨ts, hts.trans (hle t), hround⟩

theorem datedRow_empty (ht : t ≠ "__proto__") : DatedRow τ t .empty := by
  refine ⟨ht, fun v hv => ?_⟩
  rw [Dict.get_empty] at hv
  contradiction

theorem survivesRounding_datedRow : SurvivesRounding (DatedRow τ) := by
  intro t row f hf h
  refine ⟨h.1, fun v hv => ?_⟩
  rw [Dict.get_mapValues, Option.map_eq_some_iff] at hv
  obtain ⟨w, hw, rfl⟩ := hv
  obtain ⟨ts, hts, hround⟩ := h.2 w hw
  exact ⟨ts, hts, (hf.rounded_eq w).trans hround⟩

/-- `f` keeps the timestamp, removes it, or sets it to one of the times. -/
def Stamps (times : List ℚ) (f : Row → Row) : Prop :=
  ∀ sub v, (f sub).get "last_success_at" = some v →
    sub.get "last_success_at" = some v ∨
      ∃ now ∈ times, v = .float (.fin now)

theorem Stamps.of_none (h : ∀ sub, (f sub).get "last_success_at" = none) :
    Stamps times f := by
  intro sub v hv
  rw [h sub] at hv
  contradiction

theorem Stamps.of_eq (h : ∀ sub, (f sub).get "last_success_at" =
    sub.get "last_success_at") : Stamps times f :=
  fun sub _ hv => .inl ((h sub).symm.trans hv)

/-- An authorisation is saved with its time, and anything else without. -/
theorem Stamps.of_saved {authorized : Bool} {now : ℚ}
    (hsaved : authorized = true → ∀ sub,
      (f sub).get "last_success_at" = some (.float (.fin now)))
    (hrevoked : authorized = false → ∀ sub,
      (f sub).get "last_success_at" = none) :
    Stamps (if authorized then [now] else []) f := by
  by_cases hauth : authorized = true
  · intro sub v hv
    rw [hsaved hauth] at hv
    rw [if_pos hauth]
    exact .inr ⟨now, List.mem_singleton_self now, (Option.some.inj hv).symm⟩
  · exact .of_none (hrevoked (Bool.eq_false_iff.mpr hauth))

theorem stamps_deviceId (id : String) :
    Stamps [] fun sub : Row => sub.set "device_id" (.str id) :=
  .of_eq fun _ => Dict.get_set_of_ne (by decide)

theorem DatedRow.stamps (h : DatedRow τ t sub) (hf : Stamps times f)
    (htimes : ∀ now ∈ times, now ≤ τ t) :
    DatedRow τ t ((f sub).erase "software_name") := by
  refine ⟨h.1, fun v hv => ?_⟩
  rw [Dict.get_erase_of_ne (by decide)] at hv
  rcases hf sub v hv with hv | ⟨now, hnow, rfl⟩
  · exact h.2 v hv
  · exact dated_float (htimes now hnow)

/-! ## Files -/

/-- No timestamp in what can be read is later than `τ` says. -/
abbrev DatedContent (τ : String → ℚ) (content : Option Root) : Prop :=
  ContentSatisfies (DatedRow τ) content

namespace DatedContent

theorem later (h : DatedContent τ content) (hle : τ ≤ τ') :
    DatedContent τ' content :=
  h.mono fun _ _ hrow => hrow.mono hle

/-- The row of a product is changed. -/
theorem changes (h : DatedContent τ content) (hs : core s ≠ "__proto__")
    (hrewrites : Rewrites isSpace content s f content')
    (hf : Stamps times f)
    (htimes : ∀ now ∈ times, now ≤ τ (core s)) :
    DatedContent τ content' :=
  h.rewrites survivesRounding_datedRow hrewrites (datedRow_empty hs)
    fun _ hsub => hsub.stamps hf htimes

theorem changes_or_keeps (h : DatedContent τ content)
    (hs : core s ≠ "__proto__") (hf : Stamps times f)
    (htimes : ∀ now ∈ times, now ≤ τ (core s))
    (hcases : Rewrites isSpace content s f content' ∨ Keeps content content') :
    DatedContent τ content' := by
  rcases hcases with hrewrites | hkeeps
  · exact h.changes hs hrewrites hf htimes
  · exact h.keeps hkeeps

/-- An answer is saved. -/
theorem saves (h : DatedContent τ content) (hs : core s ≠ "__proto__")
    {authorized : Bool} {now : ℚ}
    (hf : Stamps (if authorized then [now] else []) f)
    (hnow : authorized = true → now ≤ τ (core s))
    (hcases : Rewrites isSpace content s f content' ∨ Keeps content content') :
    DatedContent τ content' := by
  refine h.changes_or_keeps hs hf (fun now' hmem => ?_) hcases
  by_cases hauth : authorized = true
  · rw [if_pos hauth, List.mem_singleton] at hmem
    exact hmem ▸ hnow hauth
  · rw [if_neg hauth] at hmem
    exact absurd hmem List.not_mem_nil

/-- The timestamp is kept or removed. -/
theorem unstamped (h : DatedContent τ content)
    (hs : core s ≠ "__proto__") (hf : Stamps [] f)
    (hcases : Rewrites isSpace content s f content' ∨ Keeps content content') :
    DatedContent τ content' :=
  h.changes_or_keeps hs hf
    (fun _ hmem => absurd hmem List.not_mem_nil) hcases

/-- The timestamp of a loaded row. -/
theorem of_load (h : DatedContent τ content) {root m : Root}
    {load : String → Option Row} (hroot : root = .empty ∨ content = some root)
    (hm : Within root m) (hload : Loads isSpace m load)
    (hrow : load s = some row)
    (hv : row.get "last_success_at" = some v) :
    ∃ ts ≤ τ (core s), rounded v = .float (.fin ts) :=
  ((h.of_read survivesRounding_datedRow hroot hm).of_load hload hrow).2 v hv

end DatedContent

/-! ## SDKs -/

/-- The answer is an authorisation. -/
def grants : Answer → Bool
  | .answered authorized _ => authorized
  | .failed _ => false

theorem authorized_toResult (a : Answer) : a.toResult.authorized = grants a := by
  rcases a with authorized | message <;> rfl

/-- The answers to a light heartbeat and to the full one, which is sent unless
the light one was refused. -/
def progressiveAnswers (light : Answer) (full : List Answer) : List Answer :=
  match light with
  | .answered false _ => [light]
  | _ => light :: full

/-- What a call leaves behind; `authorises` says that the program may go on. -/
structure Acted (C : Type) where
  client : C
  file : StateFile
  authorises : Prop

/-- An SDK, as far as licences are concerned.  A construction or a call may be
impossible on a file. -/
structure Runtime where
  Client : Type
  Construction : Type
  Call : Type
  product : Client → String
  validity : Client → ℚ
  productOf : Construction → String
  construct : Construction → StateFile → Option (StateFile × Option Client)
  act : Call → Client → StateFile → Option (Acted Client)
  /-- The answers which the heartbeats of the call get. -/
  answers : Call → List Answer
  /-- The clock readings at which the call saves an answer. -/
  saveTimes : Call → List ℚ
  /-- The clock reading at which the call tests what it has read. -/
  testedAt : Call → ℚ

namespace Runtime

variable (L : Runtime)

/-- One of the answers is an authorisation. -/
def Granted (call : L.Call) : Prop := ∃ a ∈ L.answers call, grants a = true

instance (call : L.Call) : Decidable (L.Granted call) :=
  inferInstanceAs (Decidable (∃ a ∈ L.answers call, grants a = true))

/-- The product of a client, without white space around it. -/
def key (cl : L.Client) : String := core (L.product cl)

/-- What one construction and one call have to preserve. -/
structure Sound : Prop where
  construct : ∀ {τ : String → ℚ} {x : L.Construction} {file file' : StateFile}
    {made : Option L.Client}, L.construct x file = some (file', made) →
    core (L.productOf x) ≠ "__proto__" →
    DatedContent τ file.content →
    DatedContent τ file'.content ∧ ∀ cl ∈ made, L.product cl = L.productOf x
  act : ∀ {τ : String → ℚ} {call : L.Call} {cl : L.Client} {file : StateFile}
    {out : Acted L.Client}, L.act call cl file = some out →
    L.key cl ≠ "__proto__" → DatedContent τ file.content →
    (L.Granted call → ∀ now ∈ L.saveTimes call, now ≤ τ (L.key cl)) →
    L.product out.client = L.product cl ∧
      DatedContent τ out.file.content ∧
      (out.authorises → L.Granted call ∨
        L.testedAt call < τ (L.key cl) + L.validity cl)

end Runtime

/-! ## Programs of several SDKs on one file -/

/-- The file, and the clients which exist, each of one of the SDKs. -/
structure MixedFleet {Λ : Type} (L : Λ → Runtime) (ι : Type) where
  file : StateFile
  clients : ι → Option (Σ l, (L l).Client)

/-- A construction which takes the place of client `i`, or a call of client
`i`, which is `cl`. -/
inductive MixedStep {Λ : Type} (L : Λ → Runtime) (ι : Type)
  | construct (i : ι) (l : Λ) (x : (L l).Construction)
  | act (i : ι) (l : Λ) (cl : (L l).Client) (call : (L l).Call)

namespace MixedStep

variable {Λ ι : Type} {L : Λ → Runtime}

/-- No product is called `__proto__`. -/
def Named : MixedStep L ι → Prop
  | .construct _ l x => core ((L l).productOf x) ≠ "__proto__"
  | .act _ _ _ _ => True

/-- When an authorisation of the product `t` is saved. -/
def renewals : MixedStep L ι → String → List ℚ
  | .construct _ _ _, _ => []
  | .act _ l cl call, t =>
      if (L l).key cl = t ∧ (L l).Granted call then (L l).saveTimes call else []

end MixedStep

namespace MixedFleet

variable {Λ ι : Type} {L : Λ → Runtime} [DecidableEq ι]

/-- No client exists yet. -/
def start (file : StateFile) : MixedFleet L ι := ⟨file, fun _ => none⟩

inductive Step (w : MixedFleet L ι) :
    MixedStep L ι → MixedFleet L ι → Prop
  | construct {i : ι} {l : Λ} {x : (L l).Construction} {file : StateFile}
      {made : Option (L l).Client}
      (h : (L l).construct x w.file = some (file, made)) :
      Step w (.construct i l x)
        ⟨file, Function.update w.clients i (made.map (Sigma.mk l))⟩
  | act {i : ι} {l : Λ} {cl : (L l).Client} {call : (L l).Call}
      {out : Acted (L l).Client} (hcl : w.clients i = some ⟨l, cl⟩)
      (h : (L l).act call cl w.file = some out) :
      Step w (.act i l cl call)
        ⟨out.file, Function.update w.clients i (some ⟨l, out.client⟩)⟩

omit [DecidableEq ι] in
/-- What is known of the file and the clients. -/
structure Bounded (τ : String → ℚ) (w : MixedFleet L ι) : Prop where
  file : DatedContent τ w.file.content
  named : ∀ i l cl, w.clients i = some ⟨l, cl⟩ → (L l).key cl ≠ "__proto__"

/-- A client takes the place of client `i`. -/
theorem named_update {clients : ι → Option (Σ l, (L l).Client)}
    (h : ∀ i l cl, clients i = some ⟨l, cl⟩ → (L l).key cl ≠ "__proto__")
    {i : ι} {new : Option (Σ l, (L l).Client)}
    (hnew : ∀ l cl, new = some ⟨l, cl⟩ → (L l).key cl ≠ "__proto__")
    (j : ι) (l : Λ) (cl : (L l).Client)
    (hj : Function.update clients i new j = some ⟨l, cl⟩) :
    (L l).key cl ≠ "__proto__" := by
  by_cases hji : j = i
  · rw [hji, Function.update_self] at hj
    exact hnew l cl hj
  · rw [Function.update_of_ne hji] at hj
    exact h j l cl hj

/-- Every step keeps the bound, once it is raised to what is saved. -/
theorem bounds (hL : ∀ l, (L l).Sound) :
    Bounds (fun (w : MixedFleet L ι) e w' => e.Named ∧ w.Step e w')
      MixedStep.renewals Bounded where
  mono hle hw := ⟨hw.file.later hle, hw.named⟩
  keep := by
    rintro τ w e w' hw ⟨hnamed, hstep⟩ htimes
    cases hstep with
    | @construct i l x file made h =>
        obtain ⟨hfile, hmade⟩ := (hL l).construct h hnamed hw.file
        refine ⟨hfile, named_update hw.named fun l' cl hcl => ?_⟩
        obtain ⟨cl', hcl', heq⟩ := Option.map_eq_some_iff.mp hcl
        cases heq
        rw [Runtime.key, hmade cl' hcl']
        exact hnamed
    | @act i l cl call out hcl h =>
        obtain ⟨hproduct, hfile, -⟩ :=
          (hL l).act h (hw.named i l cl hcl) hw.file fun hgranted now hnow =>
            htimes ((L l).key cl) now (by
              rw [MixedStep.renewals, if_pos ⟨rfl, hgranted⟩]
              exact hnow)
        refine ⟨hfile, named_update hw.named fun l' cl' hcl' => ?_⟩
        cases hcl'
        rw [Runtime.key, hproduct]
        exact hw.named i l cl hcl

/-- **No program goes on for longer than its lease.**  Programs of any sound
SDKs share a state file, they are started and call their SDKs in any order, and
the disk does what it likes.  A call that was not granted an authorisation lets
its program go on only when it tested the file before the validity had passed
since an authorisation of the product was saved last. -/
theorem authorised_within_lease (hL : ∀ l, (L l).Sound) {file : StateFile}
    (hfile : DatedContent τ file.content) {es : List (MixedStep L ι)}
    {w : MixedFleet L ι}
    (hrun : Run (fun w e w' => e.Named ∧ w.Step e w') (start file) es w)
    {i : ι} {l : Λ} {cl : (L l).Client} (hcl : w.clients i = some ⟨l, cl⟩)
    {call : (L l).Call} {out : Acted (L l).Client}
    (hact : (L l).act call cl w.file = some out) (hauth : out.authorises)
    (hnot : ¬(L l).Granted call) :
    (L l).testedAt call <
      lastRenewal MixedStep.renewals τ es ((L l).key cl) +
        (L l).validity cl := by
  have hstart : (start file : MixedFleet L ι).Bounded τ :=
    ⟨hfile, fun _ _ _ h => by contradiction⟩
  have hw := (bounds hL).run hstart hrun
  obtain ⟨-, -, hlease⟩ := (hL l).act hact (hw.named i l cl hcl) hw.file
    fun hgranted => absurd hgranted hnot
  exact (hlease hauth).resolve_left hnot

end MixedFleet

end PyAuth.Sdk
