import PyAuth.Client.AuthClient
import PyAuth.Server.Heartbeat

/-!
# Posting a heartbeat

What `_post_heartbeat` sends, and how it reads the response.
-/

namespace PyAuth.Client

open Support Server

/-- `request_data`. -/
def requestData (deviceId softwareName : String) (info : Dict String Json)
    (times : ℤ) : Json :=
  Json.ofDict (.ofList
    [("device_id", .str deviceId), ("software_name", .str softwareName),
      ("device_info", Json.ofDict (AuthClient.stampHeartbeat info times))])

def heartbeatUrl (serverUrl : String) : String :=
  serverUrl ++ "/api/auth/heartbeat"

/-- The result of `_post_heartbeat`: an accepted reply (`success=True`) with
its members, or a failure.  A failure without a message stands for one whose
message is the text of an exception. -/
inductive Posted
  | accepted (authorized message : Json)
  | failed (message : Option Json)
deriving DecidableEq

section

variable {κ : Type} (T : Transport κ) (clientSecret : String)

/-- What `_post_heartbeat` makes of a decrypted reply. -/
def readDecrypted : Option Json → Posted
  | none => .failed (some (.str "解密响应失败"))
  | some decrypted =>
      if !Python.truthy decrypted then .failed (some (.str "解密响应失败"))
      else
        match decrypted.dict? with
        | none => .failed none
        | some d =>
            .accepted ((d.get "authorized").getD (.bool false))
              ((d.get "message").getD (.str ""))

/-- What `_post_heartbeat` makes of a response. -/
def readReply (response : Response κ) : Posted :=
  if response.status = 200 then
    match response.body with
    | none => .failed none
    | some (.encrypted token) => readDecrypted (T.decrypt clientSecret token)
    | some (.other document) =>
        if document.isDict then readDecrypted none else .failed none
  else
    let serverError := Json.str ("服务器错误: " ++ toString response.status)
    if response.status = 403 then
      match response.body with
      | some (.encrypted _) => .failed (some serverError)
      | some (.other document) =>
          match document.dict? with
          | some d => .failed (some ((d.get "detail").getD serverError))
          | none => .failed none
      | none => .failed none
    else .failed (some serverError)

end

/-- Only a token that decrypts is accepted. -/
theorem readReply_accepted {κ : Type} {T : Transport κ} {clientSecret : String}
    {response : Response κ} {authorized message : Json}
    (h : readReply T clientSecret response = .accepted authorized message) :
    ∃ token v, response.token? = some token ∧
      T.decrypt clientSecret token = some v ∧
      readDecrypted (some v) = .accepted authorized message := by
  obtain ⟨status, body⟩ := response
  rw [readReply] at h
  split at h
  · rcases body with _ | ⟨token | document⟩
    · contradiction
    · cases hdecrypt : T.decrypt clientSecret token with
      | none => simp [hdecrypt, readDecrypted] at h
      | some v =>
          simp only [hdecrypt] at h
          exact ⟨token, v, rfl, hdecrypt, h⟩
    · dsimp only at h
      split at h <;> simp [readDecrypted] at h
  · dsimp only at h
    split at h
    · rcases body with _ | ⟨token | document⟩
      · contradiction
      · contradiction
      · dsimp only at h
        split at h <;> contradiction
    · contradiction

/-! ## Requests and replies fit together -/

section

variable {deviceId softwareName : String} {info : Dict String Json} {times : ℤ}

theorem truthy_requestData :
    Python.truthy (requestData deviceId softwareName info times) = true := rfl

theorem dict?_requestData :
    (requestData deviceId softwareName info times).dict? =
      some (.ofList
        [("device_id", .str deviceId), ("software_name", .str softwareName),
          ("device_info",
            Json.ofDict (AuthClient.stampHeartbeat info times))]) :=
  Json.dict?_ofDict _

/-- The server reads every request as it was meant. -/
theorem deviceAuthRequest_requestData :
    deviceAuthRequest (requestData deviceId softwareName info times) =
      some ⟨deviceId, some softwareName,
        some (AuthClient.stampHeartbeat info times)⟩ := by
  rw [deviceAuthRequest, dict?_requestData]
  simp [Dict.get_ofList, Dict.lookup_cons_eq]

/-- A reply is read as it was meant. -/
theorem readDecrypted_responseData (device : Device) :
    readDecrypted (some (responseData device)) =
      .accepted (.bool device.isAuthorized)
        (.str (if device.isAuthorized then "设备已授权" else "设备未授权")) := by
  rw [readDecrypted, responseData, Json.dict?_ofDict]
  simp [Dict.get_ofList, Dict.lookup_cons_eq]
  rfl

/-- A request which comes back as a reply is accepted as a refusal. -/
theorem readDecrypted_requestData :
    readDecrypted (some (requestData deviceId softwareName info times)) =
      .accepted (.bool false) (.str "") := by
  rw [readDecrypted, dict?_requestData, truthy_requestData]
  simp [Dict.get_ofList, Dict.lookup_cons_eq]

/-- A reply which comes back as a request is not one. -/
theorem deviceAuthRequest_responseData (device : Device) :
    deviceAuthRequest (responseData device) = none := by
  rw [deviceAuthRequest, responseData, Json.dict?_ofDict]
  simp [Dict.get_ofList, Dict.lookup_cons_eq]

end

end PyAuth.Client
