import PyAuth.Protocol.Network

/-!
# What an accepted reply says

An accepted reply was made by the server at some processing of some device,
or is a request that was reflected.  Only when the network delivers the reply
to the request itself does it tell how the device stands now.
-/

namespace PyAuth.Protocol

open Support Client Server

variable {ι κ : Type} [DecidableEq ι] [DecidableEq κ] {T : Transport κ}
  {clientSecret : String}

namespace Network

omit [DecidableEq ι] [DecidableEq κ] in
theorem exists_event_of_sent {history : List (NetEvent ι κ)} {token : κ}
    (h : token ∈ sentTokens history) :
    (∃ i deviceId, NetEvent.posted i deviceId token ∈ history) ∨
      ∃ request deviceId authorized,
        NetEvent.processed request deviceId authorized token ∈ history := by
  obtain ⟨e, he, htoken⟩ := List.mem_filterMap.mp h
  cases e with
  | posted i deviceId token' =>
      obtain rfl := Option.some.inj htoken
      exact Or.inl ⟨i, deviceId, he⟩
  | processed request deviceId authorized reply =>
      obtain rfl := Option.some.inj htoken
      exact Or.inr ⟨request, deviceId, authorized, he⟩
  | finished => contradiction

omit [DecidableEq ι] [DecidableEq κ] in
/-- What a client reads from the token of an event. -/
theorem readDecrypted_of_event {history : List (NetEvent ι κ)}
    (hlegal : Along (Legal T clientSecret) history) (token : κ) :
    (∀ i deviceId, NetEvent.posted i deviceId token ∈ history →
      readDecrypted (T.decrypt clientSecret token) =
        .accepted (.bool false) (.str "")) ∧
    (∀ request deviceId authorized,
      NetEvent.processed request deviceId authorized token ∈ history →
        ∃ message, readDecrypted (T.decrypt clientSecret token) =
          .accepted (.bool authorized) message) := by
  constructor
  · intro i deviceId hmem
    obtain ⟨pre, post, -, -, hb, salt, -, rfl⟩ := hlegal.of_mem hmem
    rw [T.decrypt_encrypt]
    exact readDecrypted_requestData
  · intro request deviceId authorized hmem
    obtain ⟨pre, post, -, -, -, device, salt, rfl, rfl⟩ := hlegal.of_mem hmem
    rw [T.decrypt_encrypt, readDecrypted_responseData]
    exact ⟨_, rfl⟩

omit [DecidableEq ι] [DecidableEq κ] in
/-- The reply to a request is made for its device, and after it was sent. -/
theorem processed_after_posted {history : List (NetEvent ι κ)}
    (hlegal : Along (Legal T clientSecret) history) {i : ι}
    {deviceId deviceId' : String} {request reply : κ} {authorized : Bool}
    (hposted : NetEvent.posted i deviceId request ∈ history)
    (hprocessed :
      NetEvent.processed request deviceId' authorized reply ∈ history) :
    deviceId' = deviceId ∧ ∃ before after,
      history = before ++ NetEvent.posted i deviceId request :: after ∧
        NetEvent.processed request deviceId' authorized reply ∈ after := by
  obtain ⟨before, after, hsplit, hfresh, hb, salt, rfl, hrequest⟩ :=
    hlegal.of_mem hposted
  constructor
  · obtain ⟨_, _, -, -, ⟨r, hr, rfl⟩, -⟩ := hlegal.of_mem hprocessed
    rw [hrequest, T.decrypt_encrypt, Option.bind_some,
      HeartbeatData.request, deviceAuthRequest_requestData,
      Option.some.injEq] at hr
    rw [← hr]
  · refine ⟨before, after, hsplit, ?_⟩
    rw [hsplit, List.mem_append, List.mem_cons] at hprocessed
    rcases hprocessed with hmem | heq | hmem
    · -- The request was fresh, so nothing before it can have processed it.
      rw [hsplit] at hlegal
      obtain ⟨pre, post, hbefore, hsent, -, -⟩ :=
        hlegal.append_left.of_mem hmem
      refine (hfresh ?_).elim
      rw [hbefore, sentTokens, List.filterMap_append]
      exact List.mem_append_left _ hsent
    · contradiction
    · exact hmem

/-- **What an accepted reply says.**  Whenever a client finishes with success,
the token it accepted was sent before: by the server for some device, whose
authorisation at that processing is reported, or by a client, and then a
refusal is reported.  When it is the server's reply to the very request, it
was made for the device of the request, after the request was sent. -/
theorem accepted_reply_was_sent {db : Database} {steps : List (NetStep ι κ)}
    {w : Network ι κ}
    (hrun : Run (fun w a w' => w.step T clientSecret a = some w') (start db)
      steps w)
    {before after : List (NetEvent ι κ)} {i : ι} {deviceId : String}
    {request : κ} {response : Response κ} {authorized message : Json}
    (hhistory : w.history = before ++ NetEvent.finished i deviceId request
      response (.accepted authorized message) :: after) :
    ∃ token, response.token? = some token ∧
      ((∃ request' deviceId' granted,
          NetEvent.processed request' deviceId' granted token ∈ before ∧
            authorized = .bool granted) ∨
        (∃ j deviceId', NetEvent.posted j deviceId' token ∈ before) ∧
          authorized = .bool false) ∧
      ∀ deviceId' granted,
        NetEvent.processed request deviceId' granted token ∈ before →
          deviceId' = deviceId ∧ authorized = .bool granted ∧
            ∃ earlier between,
              before = earlier ++ NetEvent.posted i deviceId request :: between ∧
                NetEvent.processed request deviceId' granted token ∈
                  between := by
  have hlegal := (inv_run hrun).legal
  obtain ⟨hposted, hdeliver, hread⟩ := hlegal before _ after hhistory
  rw [hhistory] at hlegal
  have hbefore := hlegal.append_left
  obtain ⟨token, v, htoken, hdecrypt, haccepted⟩ :=
    readReply_accepted hread.symm
  have hsent : token ∈ sentTokens before := by
    rcases hdeliver token htoken with h | h
    · exact h
    · rw [h] at hdecrypt
      contradiction
  obtain ⟨hreflected, hreply⟩ := readDecrypted_of_event hbefore token
  rw [hdecrypt, haccepted] at hreflected hreply
  have hgranted : ∀ request' deviceId' granted,
      NetEvent.processed request' deviceId' granted token ∈ before →
        authorized = .bool granted := by
    intro request' deviceId' granted hmem
    obtain ⟨message', heq⟩ := hreply _ _ _ hmem
    exact (Posted.accepted.inj heq).1
  refine ⟨token, htoken, ?_, ?_⟩
  · rcases exists_event_of_sent hsent with ⟨j, deviceId', hmem⟩ |
      ⟨request', deviceId', granted, hmem⟩
    · exact Or.inr ⟨⟨j, deviceId', hmem⟩,
        (Posted.accepted.inj (hreflected _ _ hmem)).1⟩
    · exact Or.inl ⟨request', deviceId', granted, hmem,
        hgranted _ _ _ hmem⟩
  · intro deviceId' granted hmem
    obtain ⟨hdevice, horder⟩ := processed_after_posted hbefore hposted hmem
    exact ⟨hdevice, hgranted _ _ _ hmem, horder⟩

/-! ## Runs -/

/-- Device `E` is authorised, device `D` as given. -/
def exampleDatabase (authorized : Bool) : Database where
  devices :=
    [⟨1, "D", some "editor", .null, none, authorized, 0, 0, none⟩,
      ⟨2, "E", some "editor", .null, none, true, 0, 0, none⟩]
  config := .empty
  unique := by simp

def exampleHeartbeat (deviceId : String) (times : ℤ) : HeartbeatData :=
  ⟨deviceId, "editor", .empty, times⟩

/-- The token of a request, sealed with its counter as salt. -/
def exampleRequest (deviceId : String) (times : ℕ) : String × ℕ × Json :=
  ("secret", times, (exampleHeartbeat deviceId times).request)

/-- The response to an authorised device. -/
def exampleResponse (salt : ℕ) : Response (String × ℕ × Json) :=
  ⟨200, some (.encrypted ("secret", salt, Json.ofDict (.ofList
    [("authorized", .bool true), ("message", .str "设备已授权")])))⟩

/-- Clients are named after their devices; at first both are authorised. -/
def exampleRun (steps : List (NetStep String (String × ℕ × Json))) :
    Option (Network String (String × ℕ × Json)) :=
  steps.foldlM (Network.step .symbolic "secret") (start (exampleDatabase true))

/-- A heartbeat of `D` is answered; then `D` is revoked. -/
def exampleSteps : List (NetStep String (String × ℕ × Json)) :=
  [.post "D" (exampleHeartbeat "D" 1) 1,
    .serve (exampleRequest "D" 1) 10 ⟨1, 1, 1, 1⟩,
    .receive "D" (exampleResponse 10),
    .administer (exampleDatabase false)]

theorem accepted_reply_was_sent_once :
    ∃ token, (exampleResponse 10).token? = some token ∧
      ∀ deviceId' granted,
        NetEvent.processed (exampleRequest "D" 1) deviceId' granted token ∈
          [NetEvent.posted "D" "D" (exampleRequest "D" 1),
            .processed (exampleRequest "D" 1) "D" true token] →
          deviceId' = "D" ∧ Json.bool true = .bool granted := by
  have hsome : (exampleRun exampleSteps).isSome := by decide +kernel
  have hhistory : (exampleRun exampleSteps).map (·.history) =
      some ([NetEvent.posted "D" "D" (exampleRequest "D" 1),
        .processed (exampleRequest "D" 1) "D" true
          ("secret", 10, Json.ofDict (.ofList
            [("authorized", .bool true), ("message", .str "设备已授权")]))] ++
      NetEvent.finished "D" "D" (exampleRequest "D" 1) (exampleResponse 10)
        (.accepted (.bool true) (.str "设备已授权")) :: []) := by
    decide +kernel
  obtain ⟨w, hw⟩ := Option.isSome_iff_exists.mp hsome
  rw [hw, Option.map_some, Option.some.injEq] at hhistory
  obtain ⟨token, htoken, -, hreply⟩ :=
    accepted_reply_was_sent (Run.of_foldlM hw) hhistory
  obtain rfl := Option.some.inj htoken
  refine ⟨_, rfl, fun deviceId' granted hmem => ?_⟩
  obtain ⟨hdevice, hgranted, -⟩ := hreply deviceId' granted hmem
  exact ⟨hdevice, hgranted⟩

/-- The old reply is accepted after the revocation, the reply made for another
device is accepted, and so is the reflected request. -/
theorem reply_not_bound_to_request :
    ((exampleRun (exampleSteps ++
      [.post "D" (exampleHeartbeat "D" 2) 2,
        .receive "D" (exampleResponse 10)])).map (·.history.drop 3) =
      some [.posted "D" "D" (exampleRequest "D" 2),
        .finished "D" "D" (exampleRequest "D" 2) (exampleResponse 10)
          (.accepted (.bool true) (.str "设备已授权"))]) ∧
    ((exampleRun
      [.administer (exampleDatabase false),
        .post "D" (exampleHeartbeat "D" 1) 1,
        .post "E" (exampleHeartbeat "E" 2) 2,
        .serve (exampleRequest "E" 2) 10 ⟨1, 1, 1, 1⟩,
        .receive "D" (exampleResponse 10)]).map (·.history.drop 3) =
      some [.finished "D" "D" (exampleRequest "D" 1) (exampleResponse 10)
        (.accepted (.bool true) (.str "设备已授权"))]) ∧
    ((exampleRun
      [.post "D" (exampleHeartbeat "D" 1) 1,
        .receive "D" ⟨200, some (.encrypted (exampleRequest "D" 1))⟩]).map
          (·.history) =
      some [.posted "D" "D" (exampleRequest "D" 1),
        .finished "D" "D" (exampleRequest "D" 1)
          ⟨200, some (.encrypted (exampleRequest "D" 1))⟩
          (.accepted (.bool false) (.str ""))]) := by
  refine ⟨?_, ?_, ?_⟩ <;> decide +kernel

end Network

end PyAuth.Protocol
