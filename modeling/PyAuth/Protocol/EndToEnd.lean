import PyAuth.Protocol.Network
import PyAuth.Server.App

/-!
# A heartbeat from end to end

A client posts a heartbeat to the origin at which the application is served,
and the network delivers the request and its response.  The clients post to
`/api/auth/heartbeat`, but the application registers the endpoint under the
prefix twice, so the heartbeat never arrives there.  At the registered path
everything else fits together.
-/

namespace PyAuth.Protocol

open Support Routing Client Server

/-- An origin `scheme://host:port`; it does not end in a slash. -/
structure Origin where
  url : String
  trimmed : rstrip (· == '/') url = url

/-- The path of a URL at the origin. -/
def Origin.path (origin : Origin) (url : String) : String :=
  String.ofList (url.toList.drop origin.url.toList.length)

/-- What is served: whether the front end was built, and what the endpoints
other than the heartbeat do. -/
structure Deployment (κ : Type) where
  web : Frontend
  others : Endpoint → Database → Database × Response κ

/-- What the environment decides during one exchange. -/
structure ExchangeEnv where
  requestSalt : ℕ
  replySalt : ℕ
  process : ProcessEnv

section

variable {κ : Type} (T : Transport κ) (clientSecret : String)
  (dep : Deployment κ) (env : ExchangeEnv)

/-- The application's response to a post. -/
def respond (path : String) (body : Body κ) (db : Database) :
    Database × Response κ :=
  match dispatch (createApplication dep.web) .post path with
  | .endpoint .heartbeat =>
      Server.heartbeat T clientSecret env.replySalt env.process body db
  | .endpoint other => dep.others other db
  | .methodNotAllowed => (db, httpException 405 "Method Not Allowed")
  | .redirect _ => (db, ⟨307, none⟩)
  | .notFound => (db, httpException 404 "Not Found")

/-- The response the client gets: a redirect is followed. -/
def exchange (path : String) (body : Body κ) (db : Database) :
    Database × Response κ :=
  match dispatch (createApplication dep.web) .post path with
  | .redirect path' => respond T clientSecret dep env path' body db
  | _ => respond T clientSecret dep env path body db

/-- A heartbeat posted to `path`: the tables after it, and its result. -/
def postTo (path : String) (hb : HeartbeatData) (db : Database) :
    Database × Posted :=
  let token := T.encrypt clientSecret env.requestSalt hb.request
  let (db, response) := exchange T clientSecret dep env path (.encrypted token) db
  (db, readReply T clientSecret response)

/-- The path to which a client for this origin posts its heartbeats. -/
def heartbeatPath (origin : Origin) : String :=
  origin.path (heartbeatUrl (rstrip (· == '/') origin.url))

/-- The heartbeat is dispatched to its endpoint and answered with the
authorisation which the tables then hold for the device; for a new device
that is the configured default. -/
def WorksAt (path : String) (hb : HeartbeatData) (db : Database) : Prop :=
  dispatch (createApplication dep.web) .post path = .endpoint .heartbeat ∧
    ∃ device message,
      (postTo T clientSecret dep env path hb db).1.device? hb.deviceId =
          some device ∧
        (postTo T clientSecret dep env path hb db).2 =
          .accepted (.bool device.isAuthorized) message ∧
        (db.device? hb.deviceId = none →
          device.isAuthorized = db.defaultAuthorization)

end

/-! ## The posted path -/

theorem heartbeatPath_eq (origin : Origin) :
    heartbeatPath origin = "/api/auth/heartbeat" := by
  rw [heartbeatPath, origin.trimmed, heartbeatUrl, Origin.path,
    String.toList_append, List.drop_left, String.ofList_toList]

/-- What a client sees of its heartbeat. -/
theorem postTo_heartbeatPath {κ : Type} (T : Transport κ)
    (clientSecret : String) (dep : Deployment κ) (env : ExchangeEnv)
    (origin : Origin) (hb : HeartbeatData) (db : Database) :
    postTo T clientSecret dep env (heartbeatPath origin) hb db =
      (db, .failed (some (.str (if dep.web.dist && dep.web.index
        then "服务器错误: 405" else "服务器错误: 404")))) := by
  have h404 : "服务器错误: " ++ Nat.repr 404 = "服务器错误: 404" := by decide
  have h405 : "服务器错误: " ++ Nat.repr 405 = "服务器错误: 405" := by decide
  rw [heartbeatPath_eq, postTo, exchange, respond, dispatch_heartbeat]
  cases dep.web.dist && dep.web.index <;>
    simp [readReply, httpException, h404, h405]

/-- **No heartbeat works end to end.**  Whatever is deployed, whatever the
tables hold and whatever the client sends, its heartbeat is not dispatched to
the endpoint and does not succeed. -/
theorem not_worksAt_heartbeatPath {κ : Type} (T : Transport κ)
    (clientSecret : String) (dep : Deployment κ) (env : ExchangeEnv)
    (origin : Origin) (hb : HeartbeatData) (db : Database) :
    ¬ WorksAt T clientSecret dep env (heartbeatPath origin) hb db ∧
      dispatch (createApplication dep.web) .post (heartbeatPath origin) ≠
        .endpoint .heartbeat ∧
      ∃ message, (postTo T clientSecret dep env (heartbeatPath origin) hb
        db).2 = .failed message := by
  have hdispatch : dispatch (createApplication dep.web) .post
      (heartbeatPath origin) ≠ .endpoint .heartbeat := by
    rw [heartbeatPath_eq, dispatch_heartbeat]
    split <;> simp
  have hposted :=
    postTo_heartbeatPath T clientSecret dep env origin hb db
  exact ⟨fun h => hdispatch h.1, hdispatch, _, congrArg Prod.snd hposted⟩

/-- A server without a front end, with empty tables. -/
theorem heartbeat_not_found :
    let origin : Origin := ⟨"http://127.0.0.1:8000", by decide⟩
    let dep : Deployment (String × ℕ × Json) :=
      ⟨⟨false, false, false⟩, fun _ db => (db, internalServerError)⟩
    let env : ExchangeEnv := ⟨1, 2, ⟨100, 100, 100, 100⟩⟩
    let db : Database := ⟨[], .empty, List.nodup_nil⟩
    dispatch (createApplication dep.web) .post (heartbeatPath origin) =
        .notFound ∧
      postTo .symbolic "secret" dep env (heartbeatPath origin)
          ⟨"D", "editor", .empty, 1⟩ db =
        (db, .failed (some (.str "服务器错误: 404"))) := by
  decide +kernel

/-! ## The registered path -/

/-- At the path at which the endpoint is registered every heartbeat works. -/
theorem worksAt_registered_path {κ : Type} (T : Transport κ)
    {clientSecret : String} (hsecret : clientSecret ≠ "")
    (dep : Deployment κ) (env : ExchangeEnv) (hb : HeartbeatData)
    (db : Database) :
    WorksAt T clientSecret dep env "/api/auth/api/auth/heartbeat" hb db := by
  have hdispatch := dispatch_heartbeat_twice dep.web
  have hrequest := heartbeat_of_request hsecret
    (T.decrypt_encrypt clientSecret env.requestSalt hb.request)
    truthy_requestData deviceAuthRequest_requestData env.replySalt env.process
    db
  have hpost : postTo T clientSecret dep env "/api/auth/api/auth/heartbeat" hb
      db =
      ((processDevice ⟨hb.deviceId, some hb.softwareName,
          some (AuthClient.stampHeartbeat hb.deviceInfo hb.times)⟩
          env.process db).1,
        readDecrypted (some (responseData (processDevice ⟨hb.deviceId,
          some hb.softwareName,
          some (AuthClient.stampHeartbeat hb.deviceInfo hb.times)⟩
          env.process db).2.1))) := by
    simp only [postTo, exchange, respond, hdispatch, hrequest, readReply,
      if_true, T.decrypt_encrypt]
  refine ⟨hdispatch, ?_⟩
  rw [hpost, readDecrypted_responseData]
  refine ⟨_, _, device?_processDevice _ _ _, rfl, ?_⟩
  intro hnew
  rw [isAuthorized_processDevice, hnew]

end PyAuth.Protocol
