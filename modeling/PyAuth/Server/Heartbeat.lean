import PyAuth.Server.Database

/-!
# The heartbeat endpoint

Requests and replies are JSON documents sealed under the shared secret.  The
endpoint opens the request, registers or updates the device, and seals its
authorisation.
-/

namespace PyAuth.Server

open Support

/-! ## Sealed documents -/

/-- The JSON text codec and Fernet.  `κ` are the strings that may stand in
`encrypted_data`; `salt` is the time and the random bytes that go into a
token. -/
structure Transport (κ : Type) where
  /-- `Fernet(key).encrypt(json.dumps(data).encode("utf-8"))`. -/
  encrypt : (secret : String) → (salt : ℕ) → Json → κ
  /-- `json.loads(Fernet(key).decrypt(token))`, `none` when a step raises. -/
  decrypt : (secret : String) → κ → Option Json
  decrypt_encrypt : ∀ secret salt data,
    decrypt secret (encrypt secret salt data) = some data

/-- Tokens which show their secret, their salt and their content. -/
def Transport.symbolic : Transport (String × ℕ × Json) where
  encrypt secret salt data := (secret, salt, data)
  decrypt secret token := if token.1 = secret then some token.2.2 else none
  decrypt_encrypt _ _ _ := if_pos rfl

/-- A JSON body: an object whose `encrypted_data` is a string, or any other
document. -/
inductive Body (κ : Type)
  | encrypted (token : κ)
  | other (document : Json)
deriving DecidableEq

/-- An HTTP response.  A `body` of `none` is not JSON. -/
structure Response (κ : Type) where
  status : ℕ
  body : Option (Body κ)
deriving DecidableEq

/-- The token a response carries. -/
def Response.token? {κ : Type} (response : Response κ) : Option κ :=
  match response.body with
  | some (.encrypted token) => some token
  | _ => none

/-- The response FastAPI makes of an `HTTPException`. -/
def httpException {κ : Type} (status : ℕ) (detail : String) : Response κ :=
  ⟨status, some (.other (Json.ofDict (.ofList [("detail", .str detail)])))⟩

/-- The response to a body which is not an `EncryptedRequest`; of the error only
its location is kept. -/
def requestValidationError {κ : Type} (document : Json) : Response κ :=
  let location : List Json :=
    if document.isDict then [.str "body", .str "encrypted_data"]
    else [.str "body"]
  ⟨422, some (.other (Json.ofDict (.ofList
    [("detail", .arr [Json.ofDict (.ofList [("loc", .arr location)])])])))⟩

/-- The response to an exception which no handler catches. -/
def internalServerError {κ : Type} : Response κ := ⟨500, none⟩

/-! ## Requests -/

structure DeviceAuthRequest where
  deviceId : String
  softwareName : Option String
  deviceInfo : Option (Dict String Json)
deriving DecidableEq

/-- `Optional[str]`, when the member is `v`. -/
def optionalStr : Option Json → Option (Option String)
  | none | some .null => some none
  | some (.str s) => some (some s)
  | some _ => none

/-- `Optional[dict[str, Any]]`, when the member is `v`. -/
def optionalDict : Option Json → Option (Option (Dict String Json))
  | none | some .null => some none
  | some v => v.dict?.map some

@[simp] theorem optionalStr_str (s : String) :
    optionalStr (some (.str s)) = some (some s) := rfl

@[simp] theorem optionalDict_ofDict (d : Dict String Json) :
    optionalDict (some (Json.ofDict d)) = some (some d) := by
  change (Json.ofDict d).dict?.map some = _
  rw [Json.dict?_ofDict, Option.map_some]

/-- `DeviceAuthRequest(**data)`; `none` when it raises. -/
def deviceAuthRequest (data : Json) : Option DeviceAuthRequest :=
  match data.dict? with
  | none => none
  | some data =>
      match data.get "device_id", optionalStr (data.get "software_name"),
          optionalDict (data.get "device_info") with
      | some (.str deviceId), some softwareName, some deviceInfo =>
          some ⟨deviceId, softwareName, deviceInfo⟩
      | _, _, _ => none

theorem truthy_of_deviceAuthRequest {data : Json} {request : DeviceAuthRequest}
    (h : deviceAuthRequest data = some request) :
    Python.truthy data = true := by
  cases data with
  | obj members =>
      cases members with
      | nil =>
          have hnone : (Dict.ofList [] : Dict String Json).get "device_id" =
              none := rfl
          simp [deviceAuthRequest, Json.dict?, hnone] at h
      | cons member members => rfl
  | null | bool | int | float | str | arr =>
      simp [deviceAuthRequest, Json.dict?] at h

/-! ## Devices -/

/-- The clock readings of one `_process_device`. -/
structure ProcessEnv where
  changedAt : ℚ
  checkedAt : ℚ
  createdAt : ℚ
  updatedAt : ℚ
deriving DecidableEq

/-- The request names a software other than the stored one. -/
def DeviceAuthRequest.changesName (request : DeviceAuthRequest)
    (device : Device) : Bool :=
  decide (request.softwareName.isSome ∧
    request.softwareName ≠ device.softwareName)

/-- The request carries information other than the stored one. -/
def DeviceAuthRequest.changesInfo (request : DeviceAuthRequest)
    (device : Device) : Bool :=
  match request.deviceInfo with
  | none => false
  | some info => !Python.eq (Json.ofDict info) device.deviceInfo

/-- What a heartbeat makes of the row of a known device. -/
def DeviceAuthRequest.refresh (request : DeviceAuthRequest) (env : ProcessEnv)
    (device : Device) : Device :=
  { device with
    softwareName :=
      if request.changesName device then request.softwareName
      else device.softwareName
    deviceInfo :=
      match request.deviceInfo with
      | some info =>
          if request.changesInfo device then Json.ofDict info
          else device.deviceInfo
      | none => device.deviceInfo
    updatedAt :=
      if request.changesName device || request.changesInfo device then
        env.changedAt
      else device.updatedAt
    lastCheck := some env.checkedAt }

theorem DeviceAuthRequest.deviceId_refresh (request : DeviceAuthRequest)
    (env : ProcessEnv) (device : Device) :
    (request.refresh env device).deviceId = device.deviceId := rfl

/-- The row of a device seen for the first time. -/
def DeviceAuthRequest.register (request : DeviceAuthRequest) (env : ProcessEnv)
    (db : Database) : Device :=
  { id := db.nextId
    deviceId := request.deviceId
    softwareName := request.softwareName
    deviceInfo :=
      match request.deviceInfo with
      | some info => Json.ofDict info
      | none => .null
    remark := none
    isAuthorized := db.defaultAuthorization
    createdAt := env.createdAt
    updatedAt := env.updatedAt
    lastCheck := some env.checkedAt }

theorem DeviceAuthRequest.deviceId_register (request : DeviceAuthRequest)
    (env : ProcessEnv) (db : Database) :
    (request.register env db).deviceId = request.deviceId := rfl

/-- `_process_device`: the tables, the device and whether it is new. -/
def processDevice (request : DeviceAuthRequest) (env : ProcessEnv)
    (db : Database) : Database × Device × Bool :=
  match h : db.device? request.deviceId with
  | some device =>
      (db.update request.deviceId (request.refresh env)
          (request.deviceId_refresh env),
        request.refresh env device, false)
  | none =>
      (db.insert (request.register env db)
          (by rw [request.deviceId_register]; exact h),
        request.register env db, true)

/-! ## The endpoint -/

/-- The data of a reply. -/
def responseData (device : Device) : Json :=
  Json.ofDict (.ofList
    [("authorized", .bool device.isAuthorized),
      ("message", .str (if device.isAuthorized then "设备已授权"
        else "设备未授权"))])

section

variable {κ : Type} (T : Transport κ) (clientSecret : String)

/-- `decrypt_request_data`. -/
def decryptRequestData (token : κ) : Option Json :=
  if clientSecret = "" then none else T.decrypt clientSecret token

/-- `encrypt_response_data`. -/
def encryptResponseData (salt : ℕ) (data : Json) : Option κ :=
  if clientSecret = "" then none else some (T.encrypt clientSecret salt data)

/-- `heartbeat`, when no WebSocket client is connected. -/
def heartbeat (salt : ℕ) (env : ProcessEnv) (body : Body κ) (db : Database) :
    Database × Response κ :=
  match body with
  | .other document => (db, requestValidationError document)
  | .encrypted token =>
      match decryptRequestData T clientSecret token with
      | none => (db, httpException 403 "解密失败，无法验证设备")
      | some data =>
          if !Python.truthy data then
            (db, httpException 403 "解密失败，无法验证设备")
          else
            match deviceAuthRequest data with
            | none => (db, internalServerError)
            | some request =>
                let (db, device, _) := processDevice request env db
                match encryptResponseData T clientSecret salt
                    (responseData device) with
                | none => (db, httpException 500 "加密响应失败")
                | some token => (db, ⟨200, some (.encrypted token)⟩)

end

/-! ## What a heartbeat does -/

/-- After a heartbeat the table holds the device that is reported. -/
theorem device?_processDevice (request : DeviceAuthRequest) (env : ProcessEnv)
    (db : Database) :
    (processDevice request env db).1.device? request.deviceId =
      some (processDevice request env db).2.1 := by
  rw [processDevice]
  split
  next device h =>
    dsimp only
    rw [Database.device?_update_self, h]
    rfl
  next h =>
    exact Database.device?_insert_self (d := request.register env db) h

theorem processDevice_of_some {request : DeviceAuthRequest} {env : ProcessEnv}
    {db : Database} {device : Device}
    (h : db.device? request.deviceId = some device) :
    processDevice request env db =
      (db.update request.deviceId (request.refresh env)
          (request.deviceId_refresh env),
        request.refresh env device, false) := by
  rw [processDevice]
  split
  next device' h' =>
    obtain rfl := Option.some.inj (h.symm.trans h')
    rfl
  next h' =>
    rw [h] at h'
    cases h'

theorem processDevice_of_none {request : DeviceAuthRequest} {env : ProcessEnv}
    {db : Database} (h : db.device? request.deviceId = none) :
    processDevice request env db =
      (db.insert (request.register env db) h, request.register env db,
        true) := by
  rw [processDevice]
  split
  next device h' =>
    rw [h] at h'
    cases h'
  next => rfl

/-- A heartbeat never changes the authorisation of a known device, and gives
a new one the configured default. -/
theorem isAuthorized_processDevice (request : DeviceAuthRequest)
    (env : ProcessEnv) (db : Database) :
    (processDevice request env db).2.1.isAuthorized =
      match db.device? request.deviceId with
      | some device => device.isAuthorized
      | none => db.defaultAuthorization := by
  rw [processDevice]
  split
  next device h =>
    change device.isAuthorized = _
    rw [h]
  next h =>
    change db.defaultAuthorization = _
    rw [h]

/-- A request that can be opened and read is answered with the authorisation
of its device. -/
theorem heartbeat_of_request {κ : Type} {T : Transport κ}
    {clientSecret : String} (hsecret : clientSecret ≠ "") {token : κ}
    {data : Json} {request : DeviceAuthRequest}
    (hdecrypt : T.decrypt clientSecret token = some data)
    (htruthy : Python.truthy data = true)
    (hrequest : deviceAuthRequest data = some request) (salt : ℕ)
    (env : ProcessEnv) (db : Database) :
    heartbeat T clientSecret salt env (.encrypted token) db =
      ((processDevice request env db).1,
        ⟨200, some (.encrypted (T.encrypt clientSecret salt
          (responseData (processDevice request env db).2.1)))⟩) := by
  simp [heartbeat, decryptRequestData, encryptResponseData, hsecret, hdecrypt,
    htruthy, hrequest]

end PyAuth.Server
