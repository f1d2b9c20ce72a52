import PyAuth.Client.Expiry
import PyAuth.Client.Offline
import PyAuth.Support.Lease

/-!
# Which device earned the cached authorisation

Several clients of one product, built one after another over the same disk,
which may fail at any point.  They share one row, and no read of it compares
the stored device id with the reader's own.  An authorisation taken from the
cache was therefore earned by the product: the heartbeat behind it carried the
id of one of the clients built so far, not necessarily the reader's.  While
the disk does not fail, it is also the last answer that any of them got.
-/

namespace PyAuth.Client

open Support

/-- All clients built so far, their common disk, and what has happened. -/
structure Fleet (β : Type) where
  clients : List AuthClient
  storage : Storage β
  history : List Event

/-- Build another client, or let one of the existing clients make a call; the
disk may fail at any point. -/
inductive AnyStep
  | construct (config : ClientConfig) (io : ConstructEnv)
  | call (i : ℕ) (call : AnyCall)

/-- The same with calls on a disk which does not fail. -/
inductive FleetStep
  | construct (config : ClientConfig) (io : ConstructEnv)
  | call (i : ℕ) (call : Call)

def Call.toAny : Call → AnyCall
  | .check testAt online saveAt => .check (.success testAt online saveAt)
  | .progressive testAt light saveLightAt full saveFullAt retestAt =>
      .progressive
        (.success testAt light saveLightAt full saveFullAt retestAt)
  | .clear => .clear .success
  | .softLaunch testAt => .softLaunch .success .success testAt

theorem perform_toAny {β : Type} {P : Primitives β} {cl : AuthClient}
    {st : Storage β} (call : Call) :
    call.toAny.perform P cl st = call.perform P cl st := by
  cases call <;> rfl

def FleetStep.toAny : FleetStep → AnyStep
  | .construct config io => .construct config io
  | .call i request => .call i request.toAny

/-- A step which stays with one server and one product. -/
def AnyStep.StaysWith (serverUrl softwareName : String) : AnyStep → Prop
  | .construct config _ =>
      config.stateUrl = serverUrl ∧ config.softwareName = softwareName
  | .call _ _ => True

def FleetStep.StaysWith (serverUrl softwareName : String) : FleetStep → Prop
  | .construct config _ =>
      config.stateUrl = serverUrl ∧ config.softwareName = softwareName
  | .call _ _ => True

theorem FleetStep.StaysWith.toAny {serverUrl softwareName : String}
    {a : FleetStep} (h : a.StaysWith serverUrl softwareName) :
    a.toAny.StaysWith serverUrl softwareName := by
  cases a <;> exact h

namespace Fleet

variable {β : Type} (P : Primitives β)

def stepAny (w : Fleet β) : AnyStep → Fleet β
  | .construct config io =>
      match newAuthClient P config io w.storage with
      | (st, some cl) => ⟨w.clients ++ [cl], st, w.history⟩
      | (st, none) => ⟨w.clients, st, w.history⟩
  | .call i call =>
      match w.clients[i]? with
      | none => w
      | some cl =>
          let out := call.perform P cl w.storage
          ⟨w.clients.set i out.client, out.storage, w.history ++ out.events⟩

/-- The fleet after a sequence of steps over an initial disk. -/
def runAny (st : Storage β) (steps : List AnyStep) : Fleet β :=
  steps.foldl (stepAny P) ⟨[], st, []⟩

def step (w : Fleet β) : FleetStep → Fleet β
  | .construct config io =>
      match newAuthClient P config io w.storage with
      | (st, some cl) => ⟨w.clients ++ [cl], st, w.history⟩
      | (st, none) => ⟨w.clients, st, w.history⟩
  | .call i call =>
      match w.clients[i]? with
      | none => w
      | some cl =>
          let out := call.perform P cl w.storage
          ⟨w.clients.set i out.client, out.storage, w.history ++ out.events⟩

def run (st : Storage β) (steps : List FleetStep) : Fleet β :=
  steps.foldl (step P) ⟨[], st, []⟩

variable {P}

/-- A disk which does not fail is one of the disks which may. -/
theorem stepAny_toAny (w : Fleet β) (a : FleetStep) :
    w.stepAny P a.toAny = w.step P a := by
  cases a with
  | construct config io => rfl
  | call i call => simp only [FleetStep.toAny, stepAny, step, perform_toAny]

theorem runAny_toAny (st : Storage β) (steps : List FleetStep) :
    runAny P st (steps.map FleetStep.toAny) = run P st steps := by
  rw [runAny, run, List.foldl_map]
  simp only [stepAny_toAny]

/-- The invariant of a fleet of one product: every heartbeat was sent by one of
the clients, all timestamps of the product lie before some moment, and without
an authorisation there are none. -/
structure Inv (P : Primitives β) (serverUrl softwareName : String)
    (w : Fleet β) : Prop where
  product : ∀ cl ∈ w.clients,
    cl.cache.serverUrl = serverUrl ∧ cl.cache.softwareName = softwareName
  sender : ∀ hb, Event.heartbeat hb ∈ w.history →
    ∃ cl ∈ w.clients, hb.deviceId = cl.cache.deviceId
  stamped : ∃ τ, ∀ c : AuthCache, c.serverUrl = serverUrl →
    c.softwareName = softwareName → c.StampedBy P τ w.storage
  unstamped : ¬Granted w.history → ∀ c : AuthCache, c.serverUrl = serverUrl →
    c.softwareName = softwareName → c.currentTs P w.storage = none

variable {serverUrl softwareName : String} {w : Fleet β}

/-! ## Constructions -/

/-- A construction leaves the timestamp of its product or none. -/
theorem currentTs_construct {config : ClientConfig} (io : ConstructEnv)
    {c : AuthCache} (hurl : c.serverUrl = config.stateUrl)
    (hname : c.softwareName = config.softwareName) :
    c.currentTs P (w.stepAny P (.construct config io)).storage = none ∨
      c.currentTs P (w.stepAny P (.construct config io)).storage =
        c.currentTs P w.storage := by
  have hts := currentTs_newAuthClient (P := P) io w.storage hurl hname
  rcases hconstruct : newAuthClient P config io w.storage with ⟨st, built⟩
  rw [hconstruct] at hts
  cases built <;> simpa only [stepAny, hconstruct] using hts

theorem history_construct (config : ClientConfig) (io : ConstructEnv) :
    (w.stepAny P (.construct config io)).history = w.history := by
  rw [stepAny]
  split <;> rfl

theorem mem_clients_construct {config : ClientConfig} {io : ConstructEnv}
    {cl : AuthClient}
    (h : cl ∈ (w.stepAny P (.construct config io)).clients) :
    cl ∈ w.clients ∨ cl.cache.serverUrl = config.stateUrl ∧
      cl.cache.softwareName = config.softwareName := by
  have hnew := fun cl
    (hbuilt : (newAuthClient P config io w.storage).2 = some cl) =>
      cache_newAuthClient hbuilt
  rcases hconstruct : newAuthClient P config io w.storage with ⟨st, built⟩
  rw [hconstruct] at hnew
  cases built with
  | none =>
      simp only [stepAny, hconstruct] at h
      exact Or.inl h
  | some cl' =>
      simp only [stepAny, hconstruct] at h
      rcases List.mem_append.mp h with h | h
      · exact Or.inl h
      · obtain rfl := List.mem_singleton.mp h
        have hcache := (hnew cl rfl).1
        rw [hcache]
        exact Or.inr ⟨rfl, rfl⟩

theorem clients_subset_construct (config : ClientConfig) (io : ConstructEnv) :
    w.clients ⊆ (w.stepAny P (.construct config io)).clients := by
  rw [stepAny]
  split
  · exact List.subset_append_left _ _
  · exact List.Subset.refl _

theorem Inv.construct (hw : w.Inv P serverUrl softwareName)
    {config : ClientConfig} (io : ConstructEnv)
    (hurl : config.stateUrl = serverUrl)
    (hname : config.softwareName = softwareName) :
    (w.stepAny P (.construct config io)).Inv P serverUrl softwareName := by
  have hts := fun (c : AuthCache) (hcurl : c.serverUrl = serverUrl)
    (hcname : c.softwareName = softwareName) =>
      currentTs_construct (w := w) (P := P) io (hcurl.trans hurl.symm)
        (hcname.trans hname.symm)
  refine ⟨fun cl hcl => ?_, ?_, ?_, ?_⟩
  · rcases mem_clients_construct hcl with hcl | ⟨hcurl, hcname⟩
    · exact hw.product cl hcl
    · exact ⟨hcurl.trans hurl, hcname.trans hname⟩
  · rw [history_construct]
    intro hb hmem
    obtain ⟨cl, hcl, hid⟩ := hw.sender hb hmem
    exact ⟨cl, clients_subset_construct config io hcl, hid⟩
  · obtain ⟨τ, hτ⟩ := hw.stamped
    refine ⟨τ, fun c hcurl hcname => ?_⟩
    rcases hts c hcurl hcname with h | h
    · exact .of_none h
    · exact (hτ c hcurl hcname).of_currentTs h
  · rw [history_construct]
    intro hgranted c hcurl hcname
    rcases hts c hcurl hcname with h | h
    · exact h
    · exact h.trans (hw.unstamped hgranted c hcurl hcname)

/-! ## Calls -/

/-- Some moment lies after every timestamp there is and will be. -/
theorem exists_bound {c : AuthCache} {st : Storage β} {τ : ℚ}
    (h : c.StampedBy P τ st) (call : AnyCall) :
    ∃ τ', c.StampedBy P τ' st ∧ ∀ now ∈ call.saveTimes, now ≤ τ' := by
  exact ⟨call.saveTimes.foldl max τ, h.mono (le_foldl_max _ _),
    fun now hnow => le_foldl_max_of_mem hnow _⟩

/-- Only an authorisation leaves a timestamp where there was none. -/
theorem currentTs_perform {cl : AuthClient} {st : Storage β} (call : AnyCall)
    (hst : cl.cache.currentTs P st = none)
    (hgranted : ¬Granted (call.perform P cl st).events) :
    cl.cache.currentTs P (call.perform P cl st).storage = none := by
  cases hts : cl.cache.currentTs P (call.perform P cl st).storage with
  | none => rfl
  | some x =>
      -- The timestamp would lie before every moment.
      exfalso
      have hbound (τ : ℚ) : ∃ ts, ts ≤ τ ∧ x = .fin ts :=
        (call.perform_spec (τ := τ) (.of_none hst)
          fun h => (hgranted h).elim).2.1 x hts
      obtain ⟨ts, -, rfl⟩ := hbound 0
      obtain ⟨ts', hlt, heq⟩ := hbound (ts - 1)
      obtain rfl := Double.fin.inj heq
      linarith

/-- Without a timestamp a call lets the program go on only when it was
granted an authorisation. -/
theorem granted_of_authorises {cl : AuthClient} {st : Storage β}
    (call : AnyCall) (hst : cl.cache.currentTs P st = none)
    (hauth : (call.perform P cl st).reply.Authorises) :
    Granted (call.perform P cl st).events := by
  by_contra hgranted
  have hbound := (call.perform_spec
    (τ := call.testedAt - cl.cache.cacheValiditySeconds) (.of_none hst)
    fun h => (hgranted h).elim).2.2.1 hauth
  rcases hbound with h | h
  · exact hgranted h
  · linarith

theorem Inv.perform_keeps {cl : AuthClient} (hcl : cl ∈ w.clients)
    (hw : w.Inv P serverUrl softwareName) (call : AnyCall) :
    (call.perform P cl w.storage).client.cache = cl.cache ∧
      ∀ hb, .heartbeat hb ∈ (call.perform P cl w.storage).events →
        hb.deviceId = cl.cache.deviceId := by
  obtain ⟨hurl, hname⟩ := hw.product cl hcl
  obtain ⟨τ, hτ⟩ := hw.stamped
  obtain ⟨τ', hstamped, hsave⟩ := exists_bound (hτ _ hurl hname) call
  obtain ⟨hcache, -, -, hsender⟩ := call.perform_spec hstamped fun _ => hsave
  exact ⟨hcache, hsender⟩

theorem granted_append {es es' : List Event} :
    Granted (es ++ es') ↔ Granted es ∨ Granted es' := by
  simp only [Granted, List.mem_append, or_and_right, exists_or]

/-- What a call of a client of the fleet leaves behind. -/
theorem stepAny_call {i : ℕ} {cl : AuthClient} (hi : w.clients[i]? = some cl)
    (call : AnyCall) :
    w.stepAny P (.call i call) =
      ⟨w.clients.set i (call.perform P cl w.storage).client,
        (call.perform P cl w.storage).storage,
        w.history ++ (call.perform P cl w.storage).events⟩ := by
  simp only [stepAny, hi]

theorem stepAny_call_none {i : ℕ} (hi : w.clients[i]? = none) (call : AnyCall) :
    w.stepAny P (.call i call) = w := by
  simp only [stepAny, hi]

theorem Inv.call (hw : w.Inv P serverUrl softwareName) (i : ℕ)
    (call : AnyCall) :
    (w.stepAny P (.call i call)).Inv P serverUrl softwareName := by
  cases hi : w.clients[i]? with
  | none =>
      rw [stepAny_call_none hi]
      exact hw
  | some cl =>
      have hmem : cl ∈ w.clients := List.mem_of_getElem? hi
      obtain ⟨hurl, hname⟩ := hw.product cl hmem
      obtain ⟨hcache, hsender⟩ := hw.perform_keeps hmem call
      have hlt : i < w.clients.length :=
        (List.getElem?_eq_some_iff.mp hi).choose
      -- Replacing the caller by itself keeps every device id in the fleet.
      have hkeep : ∀ cl' ∈ w.clients,
          ∃ cl'' ∈ w.clients.set i (call.perform P cl w.storage).client,
            cl''.cache.deviceId = cl'.cache.deviceId := by
        intro cl' hcl'
        obtain ⟨j, hj, rfl⟩ := List.mem_iff_getElem.mp hcl'
        by_cases hij : i = j
        · subst hij
          rw [List.getElem?_eq_getElem hj, Option.some.injEq] at hi
          exact ⟨_, List.mem_set hlt _, by rw [hcache, hi]⟩
        · refine ⟨w.clients[j], ?_, rfl⟩
          rw [List.mem_iff_getElem]
          exact ⟨j, by simpa using hj, List.getElem_set_ne hij _⟩
      rw [stepAny_call hi]
      refine ⟨fun cl' hcl' => ?_, fun hb hhb => ?_, ?_, fun hgranted => ?_⟩
      · rcases List.mem_or_eq_of_mem_set hcl' with hcl' | rfl
        · exact hw.product cl' hcl'
        · rw [hcache]
          exact ⟨hurl, hname⟩
      · rcases List.mem_append.mp hhb with hhb | hhb
        · obtain ⟨cl', hcl', hid⟩ := hw.sender hb hhb
          obtain ⟨cl'', hcl'', hid'⟩ := hkeep cl' hcl'
          exact ⟨cl'', hcl'', hid.trans hid'.symm⟩
        · obtain ⟨cl'', hcl'', hid'⟩ := hkeep cl hmem
          exact ⟨cl'', hcl'', (hsender hb hhb).trans hid'.symm⟩
      · obtain ⟨τ, hτ⟩ := hw.stamped
        obtain ⟨τ', hstamped, hsave⟩ := exists_bound (hτ _ hurl hname) call
        refine ⟨τ', fun c hcurl hcname x hx => ?_⟩
        rw [AuthCache.currentTs_congr (hcurl.trans hurl.symm)
          (hcname.trans hname.symm)] at hx
        exact (call.perform_spec hstamped fun _ => hsave).2.1 x hx
      · rw [granted_append, not_or] at hgranted
        intro c hcurl hcname
        rw [AuthCache.currentTs_congr (hcurl.trans hurl.symm)
          (hcname.trans hname.symm)]
        exact currentTs_perform call
          (hw.unstamped hgranted.1 cl.cache hurl hname) hgranted.2

theorem Inv.stepAny (hw : w.Inv P serverUrl softwareName) {a : AnyStep}
    (hstay : a.StaysWith serverUrl softwareName) :
    (w.stepAny P a).Inv P serverUrl softwareName := by
  cases a with
  | construct config io =>
      obtain ⟨hurl, hname⟩ := hstay
      exact hw.construct io hurl hname
  | call i call => exact hw.call i call

theorem Inv.step (hw : w.Inv P serverUrl softwareName) {a : FleetStep}
    (hstay : a.StaysWith serverUrl softwareName) :
    (w.step P a).Inv P serverUrl softwareName := by
  rw [← stepAny_toAny]
  exact hw.stepAny hstay.toAny

/-! ## While no file operation fails -/

/-- The disk is backed by the licence of the history. -/
def IsBacked (P : Primitives β) (serverUrl softwareName : String)
    (w : Fleet β) : Prop :=
  ∀ c : AuthCache, c.serverUrl = serverUrl → c.softwareName = softwareName →
    Backed P c w.storage (licence w.history)

theorem IsBacked.construct (hw : w.IsBacked P serverUrl softwareName)
    {config : ClientConfig} (io : ConstructEnv)
    (hurl : config.stateUrl = serverUrl)
    (hname : config.softwareName = softwareName) :
    (w.step P (.construct config io)).IsBacked P serverUrl softwareName := by
  intro c hcurl hcname
  have hhistory : (w.step P (.construct config io)).history = w.history :=
    history_construct config io
  rw [hhistory]
  rcases currentTs_construct (w := w) (P := P) io (hcurl.trans hurl.symm)
    (hcname.trans hname.symm) with h | h
  · exact .of_currentTs_none h
  · intro x hx
    apply hw c hcurl hcname x
    rw [← h]
    exact hx

theorem IsBacked.call (hinv : w.Inv P serverUrl softwareName)
    (hw : w.IsBacked P serverUrl softwareName) (i : ℕ) (call : Call) :
    (w.step P (.call i call)).IsBacked P serverUrl softwareName := by
  cases hi : w.clients[i]? with
  | none =>
      simp only [Fleet.step, hi]
      exact hw
  | some cl =>
      obtain ⟨hurl, hname⟩ := hinv.product cl (List.mem_of_getElem? hi)
      simp only [Fleet.step, hi]
      intro c hcurl hcname x hx
      rw [licence_append]
      rw [AuthCache.currentTs_congr (hcurl.trans hurl.symm)
        (hcname.trans hname.symm)] at hx
      exact (perform_spec call (hw cl.cache hurl hname)).2.1 x hx

/-! ## Runs -/

variable {st : Storage β}

/-- Without a state file the product has no timestamp. -/
theorem inv_start (hfile : st.files (bundlePath P serverUrl) = none) :
    Inv P serverUrl softwareName ⟨[], st, []⟩ := by
  have hnone : ∀ c : AuthCache, c.serverUrl = serverUrl →
      c.currentTs P st = none := by
    intro c hcurl
    exact currentTs_of_no_file (by rw [hcurl]; exact hfile)
  exact ⟨by simp, by simp, ⟨0, fun c hcurl _ => .of_none (hnone c hcurl)⟩,
    fun _ c hcurl _ => hnone c hcurl⟩

theorem inv_runAny (hfile : st.files (bundlePath P serverUrl) = none)
    {steps : List AnyStep}
    (hsteps : ∀ a ∈ steps, a.StaysWith serverUrl softwareName) :
    (runAny P st steps).Inv P serverUrl softwareName := by
  apply List.foldlRecOn (motive := fun w : Fleet β =>
    w.Inv P serverUrl softwareName)
  · exact inv_start hfile
  · intro w hw a ha
    exact hw.stepAny (hsteps a ha)

theorem isBacked_run (hfile : st.files (bundlePath P serverUrl) = none)
    {steps : List FleetStep}
    (hsteps : ∀ a ∈ steps, a.StaysWith serverUrl softwareName) :
    (run P st steps).IsBacked P serverUrl softwareName := by
  have hboth : (run P st steps).Inv P serverUrl softwareName ∧
      (run P st steps).IsBacked P serverUrl softwareName := by
    apply List.foldlRecOn (motive := fun w : Fleet β =>
      w.Inv P serverUrl softwareName ∧ w.IsBacked P serverUrl softwareName)
    · refine ⟨inv_start hfile, fun c hcurl _ => ?_⟩
      exact .of_currentTs_none
        (currentTs_of_no_file (by rw [hcurl]; exact hfile))
    · rintro w ⟨hinv, hw⟩ a ha
      refine ⟨hinv.step (hsteps a ha), ?_⟩
      cases a with
      | construct config io =>
          obtain ⟨hurl, hname⟩ := hsteps _ ha
          exact hw.construct io hurl hname
      | call i call => exact hw.call hinv i call
  exact hboth.2

end Fleet

theorem Reply.Offline.authorises {reply : Reply} (h : reply.Offline) :
    reply.Authorises := by
  cases reply with
  | checked result => exact h.1
  | cleared ok => exact h
  | softLaunch ok => exact h

/-- The heartbeat carried the id of a client of the fleet, and so the reader's
own id when all of them have it. -/
def Fleet.EarnedBy {β : Type} (w : Fleet β) (cl : AuthClient)
    (hb : Heartbeat) : Prop :=
  (∃ cl' ∈ w.clients, hb.deviceId = cl'.cache.deviceId) ∧
    ((∀ cl' ∈ w.clients, cl'.cache.deviceId = cl.cache.deviceId) →
      hb.deviceId = cl.cache.deviceId)

/-- **Cached authorisation belongs to the product.**  Whenever a client of a
fleet goes on without the server, whatever the disk did, some client was
granted an authorisation by a heartbeat which carried the id of one of the
clients of the run.  When no file operation has failed, that was the last
answer which any client got. -/
theorem offline_authorisation_of_product {β : Type} {P : Primitives β}
    (serverUrl softwareName : String) {st : Storage β}
    (hfile : st.files (bundlePath P serverUrl) = none)
    (steps : List AnyStep)
    (hsteps : ∀ a ∈ steps, a.StaysWith serverUrl softwareName)
    {w : Fleet β} (hw : Fleet.runAny P st steps = w)
    (i : ℕ) (cl : AuthClient) (hcl : w.clients[i]? = some cl) (call : AnyCall)
    (hoffline : (call.perform P cl w.storage).reply.Offline) :
    (∃ hb, .heartbeat hb ∈ (w.stepAny P (.call i call)).history ∧
      hb.answer = some true ∧ w.EarnedBy cl hb) ∧
    ∀ (fleetSteps : List FleetStep) (fleetCall : Call),
      steps = fleetSteps.map FleetStep.toAny → call = fleetCall.toAny →
      ∃ pre hb post,
        (w.stepAny P (.call i call)).history =
            pre ++ Event.heartbeat hb :: post ∧
          hb.answer = some true ∧ (∀ e ∈ post, e.Unanswered) ∧
          w.EarnedBy cl hb := by
  have hinv := Fleet.inv_runAny hfile hsteps
  rw [hw] at hinv
  have hmem : cl ∈ w.clients := List.mem_of_getElem? hcl
  obtain ⟨hurl, hname⟩ := hinv.product cl hmem
  have hearned (hb : Heartbeat)
      (hhb : .heartbeat hb ∈ (w.stepAny P (.call i call)).history) :
      w.EarnedBy cl hb := by
    have hsender : ∃ cl' ∈ w.clients, hb.deviceId = cl'.cache.deviceId := by
      rw [Fleet.stepAny_call hcl] at hhb
      rcases List.mem_append.mp hhb with hhb | hhb
      · exact hinv.sender hb hhb
      · exact ⟨cl, hmem, (hinv.perform_keeps hmem call).2 hb hhb⟩
    refine ⟨hsender, fun hall => ?_⟩
    obtain ⟨cl', hcl', hid⟩ := hsender
    exact hid.trans (hall cl' hcl')
  constructor
  · have hgranted : Granted (w.stepAny P (.call i call)).history := by
      rw [Fleet.stepAny_call hcl, Fleet.granted_append]
      by_cases hbefore : Granted w.history
      · exact Or.inl hbefore
      · exact Or.inr (Fleet.granted_of_authorises call
          (hinv.unstamped hbefore cl.cache hurl hname) hoffline.authorises)
    obtain ⟨hb, hhb, hanswer⟩ := hgranted
    exact ⟨hb, hhb, hanswer, hearned hb hhb⟩
  · rintro fleetSteps fleetCall rfl rfl
    have hstays : ∀ a ∈ fleetSteps, a.StaysWith serverUrl softwareName := by
      intro a ha
      have hstay := hsteps _ (List.mem_map_of_mem ha)
      cases a <;> exact hstay
    have hbacked := Fleet.isBacked_run hfile hstays
    rw [← Fleet.runAny_toAny, hw] at hbacked
    rw [perform_toAny] at hoffline
    obtain ⟨pre, hb, post, ts, hsplit, hgrant, hpost, -, -⟩ :=
      exists_grant_of_offline (hbacked cl.cache hurl hname) fleetCall hoffline
    have hhistory : (w.stepAny P (.call i fleetCall.toAny)).history =
        pre ++ Event.heartbeat hb :: post := by
      rw [Fleet.stepAny_call hcl, perform_toAny]
      exact hsplit
    exact ⟨pre, hb, post, hhistory, hgrant, hpost,
      hearned hb (by rw [hhistory]; simp)⟩

theorem offline_authorisation_of_product_single_device :
    let steps : List FleetStep :=
      [.construct (exampleConfig "A") exampleConstruct,
        .call 0 (answeredCheck true 100)]
    let w := Fleet.runAny .symbolic .fresh (steps.map FleetStep.toAny)
    let cl : AuthClient := { exampleClient "A" with deviceInfoDeferred := false }
    let history := (w.stepAny .symbolic
      (.call 0 (unansweredCheck 200).toAny)).history
    (∃ hb, .heartbeat hb ∈ history ∧ hb.answer = some true ∧
      w.EarnedBy cl hb) ∧
    ∃ pre hb post, history = pre ++ Event.heartbeat hb :: post ∧
      hb.answer = some true ∧ (∀ e ∈ post, e.Unanswered) ∧
      w.EarnedBy cl hb := by
  intro steps w cl history
  have hcl : w.clients[0]? = some cl := by
    decide +kernel
  have hreply : ((unansweredCheck 200).toAny.perform .symbolic cl
      w.storage).reply = .checked ⟨true, "设备已授权", true, true⟩ := by
    decide +kernel
  obtain ⟨hgranted, hlast⟩ :=
    offline_authorisation_of_product "https://auth.example" "editor" rfl
      (steps.map FleetStep.toAny)
      (List.forall_mem_cons.mpr ⟨⟨by decide +kernel, rfl⟩,
        List.forall_mem_singleton.mpr trivial⟩)
      rfl 0 cl hcl (unansweredCheck 200).toAny
      (by rw [hreply]; exact ⟨rfl, rfl⟩)
  exact ⟨hgranted, hlast steps _ rfl rfl⟩

/-- The event is an authorisation of this device. -/
def Event.grants (deviceId : String) : Event → Bool
  | .heartbeat hb => hb.deviceId = deviceId && hb.answer = some true
  | .cleared => false

/-- Device `A` is authorised, and a client for device `B` finds the server
gone: it goes on although no heartbeat with its own id was ever answered. -/
theorem offline_authorisation_of_other_device :
    let w := Fleet.run .symbolic .fresh
      [.construct (exampleConfig "A") exampleConstruct,
        .call 0 (answeredCheck true 100),
        .construct (exampleConfig "B") exampleConstruct]
    let cl : AuthClient := { exampleClient "B" with deviceInfoDeferred := false }
    w.clients[1]? = some cl ∧
      ((unansweredCheck 200).perform .symbolic cl w.storage).reply =
        .checked ⟨true, "设备已授权", true, true⟩ ∧
      ((Call.softLaunch 200).perform .symbolic cl w.storage).reply =
        .softLaunch true ∧
      ∀ e ∈ (w.step .symbolic (.call 1 (unansweredCheck 200))).history,
        e.grants "B" = false := by
  decide +kernel

end PyAuth.Client
