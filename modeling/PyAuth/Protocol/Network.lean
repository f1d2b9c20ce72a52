import PyAuth.Client.Post
import PyAuth.Support.Run

/-!
# Heartbeats over a network that replays

Any number of clients and the server share one secret.  Tokens cannot be
forged: whatever decrypts was sent before.  But the network decides which
token reaches whom and when.  A reply names neither its request nor its
device, so a client accepts every token that was ever sent; what it reports
is the authorisation found at some earlier processing, or a refusal.
-/

namespace PyAuth.Protocol

open Support Client Server

/-- What a client posts. -/
structure HeartbeatData where
  deviceId : String
  softwareName : String
  deviceInfo : Dict String Json
  times : ℤ
deriving DecidableEq

def HeartbeatData.request (hb : HeartbeatData) : Json :=
  requestData hb.deviceId hb.softwareName hb.deviceInfo hb.times

/-- What happened: client `i` sent a request for its device; the server
processed a request and found the device authorised or not; a client finished
a request with the response it was given. -/
inductive NetEvent (ι κ : Type)
  | posted (i : ι) (deviceId : String) (token : κ)
  | processed (request : κ) (deviceId : String) (authorized : Bool) (reply : κ)
  | finished (i : ι) (deviceId : String) (request : κ) (response : Response κ)
      (result : Posted)
deriving DecidableEq

/-- The token an event puts on the network. -/
def NetEvent.token? {ι κ : Type} : NetEvent ι κ → Option κ
  | .posted _ _ token => some token
  | .processed _ _ _ reply => some reply
  | .finished _ _ _ _ _ => none

/-- All tokens sent so far. -/
def sentTokens {ι κ : Type} (history : List (NetEvent ι κ)) : List κ :=
  history.filterMap NetEvent.token?

/-- The server's tables, the requests under way with their tokens, and what
has happened. -/
structure Network (ι κ : Type) where
  db : Database
  pending : ι → Option (HeartbeatData × κ)
  history : List (NetEvent ι κ)

/-- A step of a client, the server, the administrators or the network. -/
inductive NetStep (ι κ : Type)
  | post (i : ι) (hb : HeartbeatData) (salt : ℕ)
  | serve (token : κ) (salt : ℕ) (env : ProcessEnv)
  | administer (db : Database)
  | receive (i : ι) (response : Response κ)

namespace Network

variable {ι κ : Type} [DecidableEq ι] [DecidableEq κ] (T : Transport κ)
  (clientSecret : String)

/-- Nobody has sent anything under this secret. -/
def start (db : Database) : Network ι κ := ⟨db, fun _ => none, []⟩

/-- Nobody can make a token that decrypts but the holders of the secret. -/
def Authentic (history : List (NetEvent ι κ)) (token : κ) : Prop :=
  token ∈ sentTokens history ∨ T.decrypt clientSecret token = none

instance (history : List (NetEvent ι κ)) (token : κ) :
    Decidable (Authentic T clientSecret history token) :=
  inferInstanceAs (Decidable (_ ∨ _))

/-- A response the network can deliver. -/
def Deliverable (history : List (NetEvent ι κ)) (response : Response κ) : Prop :=
  ∀ token ∈ response.token?, Authentic T clientSecret history token

instance (history : List (NetEvent ι κ)) (response : Response κ) :
    Decidable (Deliverable T clientSecret history response) :=
  inferInstanceAs (Decidable (∀ token ∈ response.token?, _))

/-- One step.  New tokens are fresh, since each contains random bytes; a
request that cannot be read is answered without a token. -/
def step (w : Network ι κ) : NetStep ι κ → Option (Network ι κ)
  | .post i hb salt =>
      let token := T.encrypt clientSecret salt hb.request
      if (w.pending i).isNone ∧ token ∉ sentTokens w.history then
        some ⟨w.db, Function.update w.pending i (some (hb, token)),
          w.history ++ [.posted i hb.deviceId token]⟩
      else none
  | .serve token salt env =>
      if Authentic T clientSecret w.history token then
        match (T.decrypt clientSecret token).bind deviceAuthRequest with
        | none => some w
        | some request =>
            let (db, device, _) := processDevice request env w.db
            let reply := T.encrypt clientSecret salt (responseData device)
            if reply ∉ sentTokens w.history then
              some ⟨db, w.pending, w.history ++
                [.processed token request.deviceId device.isAuthorized reply]⟩
            else none
      else none
  | .administer db => some ⟨db, w.pending, w.history⟩
  | .receive i response =>
      match w.pending i with
      | none => none
      | some (hb, token) =>
          if Deliverable T clientSecret w.history response then
            some ⟨w.db, Function.update w.pending i none, w.history ++
              [.finished i hb.deviceId token response
                (readReply T clientSecret response)]⟩
          else none

variable {T clientSecret}

omit [DecidableEq κ] in
/-- Serving a request is what the endpoint does. -/
theorem heartbeat_eq_of_request {token : κ} (hsecret : clientSecret ≠ "")
    (salt : ℕ) (env : ProcessEnv) (db : Database) :
    (∀ request, (T.decrypt clientSecret token).bind deviceAuthRequest =
        some request →
      Server.heartbeat T clientSecret salt env (.encrypted token) db =
        ((processDevice request env db).1,
          ⟨200, some (.encrypted (T.encrypt clientSecret salt
            (responseData (processDevice request env db).2.1)))⟩)) ∧
    ((T.decrypt clientSecret token).bind deviceAuthRequest = none →
      (Server.heartbeat T clientSecret salt env (.encrypted token) db).1 = db ∧
        (Server.heartbeat T clientSecret salt env (.encrypted token)
          db).2.token? = none) := by
  constructor
  · intro request hrequest
    obtain ⟨data, hdata, hparse⟩ := Option.bind_eq_some_iff.mp hrequest
    exact heartbeat_of_request hsecret hdata (truthy_of_deviceAuthRequest hparse)
      hparse salt env db
  · intro hnone
    simp only [Server.heartbeat, decryptRequestData, hsecret, if_false]
    cases hdata : T.decrypt clientSecret token with
    | none => exact ⟨rfl, rfl⟩
    | some data =>
        rw [hdata, Option.bind_some] at hnone
        simp only [hnone]
        split <;> exact ⟨rfl, rfl⟩

/-! ## What every event of a history stands on -/

/-- How an event comes from what happened before it. -/
def Legal (T : Transport κ) (clientSecret : String)
    (before : List (NetEvent ι κ)) : NetEvent ι κ → Prop
  | .posted _ deviceId token =>
      token ∉ sentTokens before ∧ ∃ hb : HeartbeatData, ∃ salt,
        hb.deviceId = deviceId ∧ token = T.encrypt clientSecret salt hb.request
  | .processed request deviceId authorized reply =>
      request ∈ sentTokens before ∧
        (∃ r, (T.decrypt clientSecret request).bind deviceAuthRequest = some r ∧
          r.deviceId = deviceId) ∧
        ∃ device salt, authorized = device.isAuthorized ∧
          reply = T.encrypt clientSecret salt (responseData device)
  | .finished i deviceId request response result =>
      NetEvent.posted i deviceId request ∈ before ∧
        (∀ token ∈ response.token?, Authentic T clientSecret before token) ∧
        result = readReply T clientSecret response

/-- The invariant: every event is legal, and every request under way was
posted. -/
structure Inv (T : Transport κ) (clientSecret : String) (w : Network ι κ) :
    Prop where
  legal : Along (Legal T clientSecret) w.history
  posted : ∀ i hb token, w.pending i = some (hb, token) →
    NetEvent.posted i hb.deviceId token ∈ w.history

omit [DecidableEq ι] [DecidableEq κ] in
theorem inv_start (db : Database) :
    (start db : Network ι κ).Inv T clientSecret where
  legal := .nil
  posted := by simp [start]

theorem Inv.step {w w' : Network ι κ} {a : NetStep ι κ}
    (hw : w.Inv T clientSecret) (hstep : w.step T clientSecret a = some w') :
    w'.Inv T clientSecret := by
  cases a with
  | post i hb salt =>
      simp only [Network.step, Option.ite_none_right_eq_some,
        Option.some.injEq] at hstep
      obtain ⟨⟨-, hfresh⟩, rfl⟩ := hstep
      refine ⟨hw.legal.snoc ⟨hfresh, hb, salt, rfl, rfl⟩, ?_⟩
      intro j hb' token hj
      dsimp only at hj ⊢
      by_cases hji : j = i
      · subst hji
        rw [Function.update_self, Option.some.injEq, Prod.mk.injEq] at hj
        obtain ⟨rfl, rfl⟩ := hj
        simp
      · rw [Function.update_of_ne hji] at hj
        exact List.mem_append_left _ (hw.posted j hb' token hj)
  | serve token salt env =>
      simp only [Network.step, Option.ite_none_right_eq_some] at hstep
      obtain ⟨hauthentic, hstep⟩ := hstep
      cases hrequest : (T.decrypt clientSecret token).bind
          deviceAuthRequest with
      | none =>
          simp only [hrequest, Option.some.injEq] at hstep
          exact hstep ▸ hw
      | some request =>
          simp only [hrequest, Option.ite_none_right_eq_some,
            Option.some.injEq] at hstep
          obtain ⟨-, rfl⟩ := hstep
          have hsent : token ∈ sentTokens w.history := by
            rcases hauthentic with h | h
            · exact h
            · rw [h] at hrequest
              contradiction
          refine ⟨hw.legal.snoc ⟨hsent, ⟨request, hrequest, rfl⟩, _, salt, rfl,
            rfl⟩, ?_⟩
          intro j hb' token' hj
          exact List.mem_append_left _ (hw.posted j hb' token' hj)
  | administer db =>
      simp only [Network.step, Option.some.injEq] at hstep
      subst hstep
      exact ⟨hw.legal, hw.posted⟩
  | receive i response =>
      cases hpending : w.pending i with
      | none => simp [Network.step, hpending] at hstep
      | some request =>
          obtain ⟨hb, token⟩ := request
          simp only [Network.step, hpending, Option.ite_none_right_eq_some,
            Option.some.injEq] at hstep
          obtain ⟨hdeliver, rfl⟩ := hstep
          refine ⟨hw.legal.snoc ⟨hw.posted i hb token hpending, hdeliver, rfl⟩,
            ?_⟩
          intro j hb' token' hj
          dsimp only at hj ⊢
          by_cases hji : j = i
          · subst hji
            simp at hj
          · rw [Function.update_of_ne hji] at hj
            exact List.mem_append_left _ (hw.posted j hb' token' hj)

theorem inv_run {db : Database} {steps : List (NetStep ι κ)}
    {w : Network ι κ}
    (hrun : Run (fun w a w' => w.step T clientSecret a = some w') (start db)
      steps w) : w.Inv T clientSecret :=
  hrun.invariant (inv_start db) fun _ _ _ hw hstep => hw.step hstep

end Network

end PyAuth.Protocol
