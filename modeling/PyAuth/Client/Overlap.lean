import PyAuth.Client.Licence
import PyAuth.Client.Offline
import PyAuth.Support.Run

/-!
# Overlapping checks of one product

The thread pool may run several checks of a product at once.  Receiving an
answer and saving it are separate steps, and nothing orders the saves of
different calls: the row is that of the answer which was saved last, which
need not be the answer the server gave last.
-/

namespace PyAuth.Client

open Support

/-- The heartbeats of a check: the only one of a plain check, the light one
of a progressive check, or the full one which follows it. -/
inductive Stage
  | plain
  | light
  | full
deriving DecidableEq

/-- How far a call has come.  An answer which was received is known by its
position among all answers of the server. -/
inductive Phase
  | idle
  | sending (stage : Stage) (times : ℤ)
  | received (stage : Stage) (times : ℤ) (position : ℕ) (authorized : Bool)
  | returned
deriving DecidableEq

/-- A step of call `i`. -/
inductive CallStep (ι : Type)
  | snapshot (i : ι) (progressive : Bool)
  | answer (i : ι) (collected : Dict String Json) (publicIp : String)
      (authorized : Bool) (message : String)
  | save (i : ι) (now : ℚ)

/-- The clients of a product with their common disk, the calls under way, the
answers of the server in the order in which they were given, and the
positions of the answers in the order in which they were saved. -/
structure Overlap (ι κ β : Type) where
  clients : κ → AuthClient
  storage : Storage β
  phase : ι → Phase
  answers : List Bool
  saved : List ℕ

namespace Overlap

variable {ι κ β : Type} [DecidableEq ι] [DecidableEq κ]

/-- No call has begun. -/
def start (clients : κ → AuthClient) (st : Storage β) : Overlap ι κ β :=
  ⟨clients, st, fun _ => .idle, [], []⟩

/-- One step of a call; `owner` tells which client makes the call. -/
def step (P : Primitives β) (owner : ι → κ) (w : Overlap ι κ β) :
    CallStep ι → Option (Overlap ι κ β)
  | .snapshot i progressive =>
      match w.phase i with
      | .idle =>
          let (st, _, storedHb) :=
            (w.clients (owner i)).checkSnapshot P .success w.storage
          let stage := if progressive then Stage.light else .plain
          some { w with
            storage := st
            phase := Function.update w.phase i (.sending stage (storedHb + 1)) }
      | _ => none
  | .answer i collected publicIp authorized message =>
      match w.phase i with
      | .sending stage times =>
          let cl := w.clients (owner i)
          let online := Online.posted collected publicIp
            (.answered authorized message)
          let cl := if stage = .light then cl else (cl.checkOnline times online).1
          some { w with
            clients := Function.update w.clients (owner i) cl
            phase := Function.update w.phase i
              (.received stage times w.answers.length authorized)
            answers := w.answers ++ [authorized] }
      | _ => none
  | .save i now =>
      match w.phase i with
      | .received stage times position authorized =>
          let (st, _) := (w.clients (owner i)).writeCheckCacheRetries P
            authorized times (.success now) w.storage
          let next :=
            if stage = .light ∧ authorized then Phase.sending .full (times + 1)
            else .returned
          some { w with
            storage := st
            phase := Function.update w.phase i next
            saved := w.saved ++ [position] }
      | _ => none

variable {P : Primitives β} {owner : ι → κ} {serverUrl softwareName : String}

/-! ## A call on its own -/

/-- The steps of a plain check, taken without a break, are the check. -/
theorem storage_plain_check {w : Overlap ι κ β} {i : ι}
    (hidle : w.phase i = .idle) (collected : Dict String Json)
    (publicIp message : String) (authorized : Bool) (testAt now : ℚ) :
    ∃ w', ([.snapshot i false,
          .answer i collected publicIp authorized message, .save i now] :
            List (CallStep ι)).foldlM (step P owner) w = some w' ∧
      w'.storage = ((w.clients (owner i)).checkAuthorization P
        (.success testAt (.posted collected publicIp
          (.answered authorized message)) now) w.storage).storage := by
  refine ⟨_, by simp [step, hidle]; rfl, ?_⟩
  rfl

/-- So are those of a progressive check whose two heartbeats are answered. -/
theorem storage_progressive_check {w : Overlap ι κ β} {i : ι}
    (hidle : w.phase i = .idle) (collected : Dict String Json)
    (publicIp message : String) (authorized : Bool)
    (testAt saveLightAt saveFullAt retestAt : ℚ) :
    ∃ w', ([.snapshot i true, .answer i .empty "" true message,
          .save i saveLightAt,
          .answer i collected publicIp authorized message,
          .save i saveFullAt] : List (CallStep ι)).foldlM (step P owner) w =
        some w' ∧
      w'.storage = ((w.clients (owner i)).checkAuthorizationProgressive P
        (.success testAt (.answered true message) saveLightAt
          (.posted collected publicIp (.answered authorized message))
          saveFullAt retestAt) w.storage).storage := by
  refine ⟨_, by simp [step, hidle]; rfl, ?_⟩
  rfl

/-! ## The row is that of the answer saved last -/

/-- The invariant of overlapping checks of one product. -/
structure Inv (P : Primitives β) (serverUrl softwareName : String)
    (w : Overlap ι κ β) : Prop where
  product : ∀ k, (w.clients k).cache.serverUrl = serverUrl ∧
    (w.clients k).cache.softwareName = softwareName
  received : ∀ i stage times position authorized,
    w.phase i = .received stage times position authorized →
      w.answers[position]? = some authorized
  saved_lt : ∀ position ∈ w.saved, position < w.answers.length
  accounted : ∀ position, position < w.answers.length →
    position ∈ w.saved ∨ ∃ i stage times authorized,
      w.phase i = .received stage times position authorized
  row : ∀ c : AuthCache, c.serverUrl = serverUrl →
    c.softwareName = softwareName → c.currentTs P w.storage ≠ none →
      ∀ position, w.saved.getLast? = some position →
        w.answers[position]? = some true

omit [DecidableEq ι] [DecidableEq κ] in
theorem inv_start {clients : κ → AuthClient} {st : Storage β}
    (hclients : ∀ k, (clients k).cache.serverUrl = serverUrl ∧
      (clients k).cache.softwareName = softwareName) :
    (start clients st : Overlap ι κ β).Inv P serverUrl softwareName where
  product := hclients
  received := by simp [start]
  saved_lt := by simp [start]
  accounted := by simp [start]
  row := by simp [start]

theorem Inv.snapshot {w w' : Overlap ι κ β} {i : ι} {progressive : Bool}
    (hw : w.Inv P serverUrl softwareName)
    (hstep : w.step P owner (.snapshot i progressive) = some w') :
    w'.Inv P serverUrl softwareName := by
  cases hphase : w.phase i with
  | idle =>
      simp only [step, hphase, Option.some.injEq] at hstep
      subst hstep
      have hother : ∀ j stage times position authorized,
          Function.update w.phase i
              (.sending (if progressive then Stage.light else .plain)
                (((w.clients (owner i)).checkSnapshot P .success
                  w.storage).2.2 + 1)) j =
            .received stage times position authorized ↔
          w.phase j = .received stage times position authorized := by
        intro j stage times position authorized
        by_cases hj : j = i
        · subst hj
          simp [hphase]
        · rw [Function.update_of_ne hj]
      refine ⟨hw.product, ?_, hw.saved_lt, ?_, ?_⟩
      · intro j stage times position authorized hj
        exact hw.received j _ _ _ _ ((hother _ _ _ _ _).mp hj)
      · intro position hlt
        rcases hw.accounted position hlt with h | ⟨j, st, t, a, hj⟩
        · exact Or.inl h
        · exact Or.inr ⟨j, st, t, a, (hother _ _ _ _ _).mpr hj⟩
      · intro c hurl hname hts
        apply hw.row c hurl hname
        obtain ⟨hurl', hname'⟩ := hw.product (owner i)
        rw [AuthCache.currentTs_congr (hurl.trans hurl'.symm)
          (hname.trans hname'.symm)] at hts ⊢
        rcases currentTs_checkSnapshot (P := P) (w.clients (owner i))
          w.storage with h | h
        · exact (hts h).elim
        · rwa [h] at hts
  | sending | received | returned => simp [step, hphase] at hstep

theorem Inv.answer {w w' : Overlap ι κ β} {i : ι}
    {collected : Dict String Json} {publicIp message : String}
    {authorized : Bool} (hw : w.Inv P serverUrl softwareName)
    (hstep : w.step P owner
      (.answer i collected publicIp authorized message) = some w') :
    w'.Inv P serverUrl softwareName := by
  cases hphase : w.phase i with
  | sending stage times =>
      simp only [step, hphase, Option.some.injEq] at hstep
      subst hstep
      have hkeep : ∀ {position : ℕ} {a : Bool},
          w.answers[position]? = some a →
            (w.answers ++ [authorized])[position]? = some a := by
        intro position a h
        rw [List.getElem?_append_left (List.getElem?_eq_some_iff.mp h).choose]
        exact h
      refine ⟨?_, ?_, ?_, ?_, ?_⟩
      · intro k
        by_cases hk : k = owner i
        · subst hk
          dsimp only
          rw [Function.update_self]
          split
          · exact hw.product _
          · rw [((w.clients (owner i)).checkOnline_spec times _).1]
            exact hw.product _
        · dsimp only
          rw [Function.update_of_ne hk]
          exact hw.product k
      · intro j stage' times' position a hj
        dsimp only at hj ⊢
        by_cases hji : j = i
        · subst hji
          rw [Function.update_self, Phase.received.injEq] at hj
          obtain ⟨-, -, rfl, rfl⟩ := hj
          simp
        · rw [Function.update_of_ne hji] at hj
          exact hkeep (hw.received j _ _ _ _ hj)
      · intro position hmem
        rw [List.length_append]
        exact Nat.lt_add_right _ (hw.saved_lt position hmem)
      · intro position hlt
        dsimp only at hlt ⊢
        rw [List.length_append, List.length_singleton,
          Nat.lt_succ_iff_lt_or_eq] at hlt
        rcases hlt with hlt | rfl
        · rcases hw.accounted position hlt with h | ⟨j, st, t, a, hj⟩
          · exact Or.inl h
          · refine Or.inr ⟨j, st, t, a, ?_⟩
            rw [Function.update_of_ne]
            · exact hj
            · rintro rfl
              rw [hphase] at hj
              contradiction
        · exact Or.inr ⟨i, stage, times, authorized, Function.update_self _ _ _⟩
      · intro c hurl hname hts position hlast
        exact hkeep (hw.row c hurl hname hts position hlast)
  | idle | received | returned => simp [step, hphase] at hstep

theorem Inv.save {w w' : Overlap ι κ β} {i : ι} {now : ℚ}
    (hw : w.Inv P serverUrl softwareName)
    (hstep : w.step P owner (.save i now) = some w') :
    w'.Inv P serverUrl softwareName := by
  cases hphase : w.phase i with
  | received stage times position authorized =>
      simp only [step, hphase, Option.some.injEq] at hstep
      subst hstep
      have hanswer := hw.received i _ _ _ _ hphase
      have hnext : ∀ stage' times' position' authorized',
          (if stage = .light ∧ authorized = true
            then Phase.sending .full (times + 1) else .returned) ≠
            .received stage' times' position' authorized' := by
        intro stage' times' position' authorized'
        split <;> simp
      refine ⟨hw.product, ?_, ?_, ?_, ?_⟩
      · intro j stage' times' position' a hj
        dsimp only at hj
        by_cases hji : j = i
        · subst hji
          rw [Function.update_self] at hj
          exact (hnext _ _ _ _ hj).elim
        · rw [Function.update_of_ne hji] at hj
          exact hw.received j _ _ _ _ hj
      · intro position' hmem
        rcases List.mem_append.mp hmem with hmem | hmem
        · exact hw.saved_lt position' hmem
        · obtain rfl := List.mem_singleton.mp hmem
          exact (List.getElem?_eq_some_iff.mp hanswer).choose
      · intro position' hlt
        dsimp only
        rcases hw.accounted position' hlt with h | ⟨j, st, t, a, hj⟩
        · exact Or.inl (List.mem_append_left _ h)
        · by_cases hji : j = i
          · subst hji
            rw [hphase, Phase.received.injEq] at hj
            obtain ⟨-, -, rfl, -⟩ := hj
            exact Or.inl (by simp)
          · refine Or.inr ⟨j, st, t, a, ?_⟩
            rw [Function.update_of_ne hji]
            exact hj
      · intro c hurl hname hts position' hlast
        dsimp only at hts hlast ⊢
        rw [List.getLast?_concat, Option.some.injEq] at hlast
        subst hlast
        rw [hanswer]
        obtain ⟨hurl', hname'⟩ := hw.product (owner i)
        rw [AuthCache.currentTs_congr (hurl.trans hurl'.symm)
          (hname.trans hname'.symm), writeCheckCacheRetries_success] at hts
        cases authorized with
        | true => rfl
        | false => exact (hts AuthCache.currentTs_saveCache_false).elim
  | idle | sending | returned => simp [step, hphase] at hstep

theorem inv_run {clients : κ → AuthClient} {st : Storage β}
    (hclients : ∀ k, (clients k).cache.serverUrl = serverUrl ∧
      (clients k).cache.softwareName = softwareName)
    {steps : List (CallStep ι)} {w : Overlap ι κ β}
    (hrun : Run (fun w a w' => w.step P owner a = some w')
      (start clients st) steps w) : w.Inv P serverUrl softwareName := by
  refine hrun.invariant (inv_start hclients) ?_
  intro w a w' hw hstep
  cases a with
  | snapshot i progressive => exact hw.snapshot hstep
  | answer i collected publicIp authorized message => exact hw.answer hstep
  | save i now => exact hw.save hstep

/-- Of increasing numbers up to `n`, one of which is `n`, this is the last. -/
theorem getLast?_of_pairwise_lt {l : List ℕ} {n : ℕ}
    (hsorted : l.Pairwise (· < ·)) (hle : ∀ k ∈ l, k ≤ n) (hmem : n ∈ l) :
    l.getLast? = some n := by
  induction l using List.reverseRecOn with
  | nil => simp at hmem
  | append_singleton l k =>
      rw [List.getLast?_concat, Option.some.injEq]
      rcases List.mem_append.mp hmem with hmem | hmem
      · have hlt : n < k := (List.pairwise_append.mp hsorted).2.2 n hmem k
          List.mem_cons_self
        have hk := hle k (by simp)
        omega
      · exact (List.mem_singleton.mp hmem).symm

/-- **The answer saved last wins on disk.**  Once all calls have returned, the
row is authorised only if the answer which was saved last was an
authorisation; and when the answers were saved in the order in which the
server gave them, only if its last answer was. -/
theorem authorised_of_last_saved {clients : κ → AuthClient} {st : Storage β}
    (hclients : ∀ k, (clients k).cache.serverUrl = serverUrl ∧
      (clients k).cache.softwareName = softwareName)
    {steps : List (CallStep ι)} {w : Overlap ι κ β}
    (hrun : Run (fun w a w' => w.step P owner a = some w')
      (start clients st) steps w)
    (hdone : ∀ i, w.phase i = .idle ∨ w.phase i = .returned)
    (hanswers : w.answers ≠ []) (k : κ)
    (hauthorised : (w.clients k).cache.currentTs P w.storage ≠ none) :
    (∃ position, w.saved.getLast? = some position ∧
        w.answers[position]? = some true) ∧
      (w.saved.Pairwise (· < ·) → w.answers.getLast? = some true) := by
  have hw := inv_run hclients hrun
  obtain ⟨hurl, hname⟩ := hw.product k
  have hall : ∀ position, position < w.answers.length →
      position ∈ w.saved := by
    intro position hlt
    rcases hw.accounted position hlt with h | ⟨i, stage, times, a, hi⟩
    · exact h
    · rcases hdone i with h | h <;> simp [h] at hi
  have hlength : w.answers.length - 1 < w.answers.length := by
    have := List.length_pos_iff.mpr hanswers
    omega
  have hmem := hall _ hlength
  constructor
  · have hlast := List.getLast?_eq_some_getLast (List.ne_nil_of_mem hmem)
    exact ⟨_, hlast, hw.row _ hurl hname hauthorised _ hlast⟩
  · intro hsorted
    have hlast := getLast?_of_pairwise_lt hsorted
      (fun position h => Nat.le_sub_one_of_lt (hw.saved_lt position h)) hmem
    rw [List.getLast?_eq_getElem?]
    exact hw.row _ hurl hname hauthorised _ hlast

end Overlap

/-- Calls of one client on an empty disk. -/
def exampleOverlap (steps : List (CallStep Bool)) :
    Option (Overlap Bool Unit Symbol) :=
  steps.foldlM (Overlap.step .symbolic fun _ => ())
    (.start (fun _ => exampleClient "D") .fresh)

/-- Two plain checks, the second of which is authorised. -/
def exampleCallSteps : List (CallStep Bool) :=
  [.snapshot true false, .answer true .empty "" false "", .save true 100,
    .snapshot false false, .answer false .empty "" true "", .save false 200]

theorem exampleOverlap_isSome :
    (exampleOverlap exampleCallSteps).isSome = true := by
  decide +kernel

theorem authorised_of_last_saved_two_checks :
    let w := (exampleOverlap exampleCallSteps).get exampleOverlap_isSome
    (∃ position, w.saved.getLast? = some position ∧
        w.answers[position]? = some true) ∧
      (w.saved.Pairwise (· < ·) → w.answers.getLast? = some true) :=
  Overlap.authorised_of_last_saved (fun _ => ⟨rfl, rfl⟩)
    (Run.of_foldlM (Option.some_get exampleOverlap_isSome).symm)
    (by decide +kernel) (by decide +kernel) () (by decide +kernel)

/-- The server authorises and then revokes; the revocation is saved first, and
the row ends up authorised. -/
theorem revocation_overtaken :
    (exampleOverlap [.snapshot true false, .snapshot false false,
        .answer true .empty "" true "", .answer false .empty "" false "",
        .save false 100, .save true 100]).map
      (fun w => (w.phase true, w.phase false, w.answers.getLast?,
        (exampleClient "D").cache.currentTs .symbolic w.storage)) =
      some (.returned, .returned, some false, some (.fin 100)) := by
  decide +kernel

end PyAuth.Client
