import PyAuth.Support.Routing

/-!
# The routes of the application

The routers carry their own prefixes, and `create_application` includes them
under a prefix once more.  What is served besides depends on whether the
front end was built.
-/

namespace PyAuth.Server

open Support Routing

inductive Endpoint
  | openapi
  | swaggerUi
  | swaggerUiRedirect
  | redoc
  | heartbeat
  | getConfigs
  | updateConfigs
  | getUsers
  | getOperationLogs
  | cleanupOperationLogs
  | createUser
  | updateUser
  | deleteUser
  | login
  | getMe
  | verifyToken
  | changePassword
  | deviceEvents
  | root
  | assets
  | serveIndex
  | serveSpa
  | healthCheck
deriving DecidableEq

/-- `app.routers.auth.router`. -/
def authRouter : Router Endpoint where
  ownPrefix := "/api/auth"
  routes := [⟨.http .post, [.literal "/heartbeat"], .heartbeat⟩]

/-- `app.routers.admin.router`. -/
def adminRouter : Router Endpoint where
  ownPrefix := "/api/admin"
  routes :=
    [⟨.http .get, [.literal "/config"], .getConfigs⟩,
      ⟨.http .put, [.literal "/config"], .updateConfigs⟩,
      ⟨.http .get, [.literal "/users"], .getUsers⟩,
      ⟨.http .get, [.literal "/logs"], .getOperationLogs⟩,
      ⟨.http .delete, [.literal "/logs"], .cleanupOperationLogs⟩,
      ⟨.http .post, [.literal "/users"], .createUser⟩,
      ⟨.http .put, [.literal "/users/", .segment], .updateUser⟩,
      ⟨.http .delete, [.literal "/users/", .segment], .deleteUser⟩]

/-- `app.routers.user.router`. -/
def userRouter : Router Endpoint where
  ownPrefix := "/api/user"
  routes :=
    [⟨.http .post, [.literal "/login"], .login⟩,
      ⟨.http .get, [.literal "/me"], .getMe⟩,
      ⟨.http .post, [.literal "/verify"], .verifyToken⟩,
      ⟨.http .post, [.literal "/change-password"], .changePassword⟩]

/-- `app.routers.ws.router`. -/
def wsRouter : Router Endpoint where
  ownPrefix := ""
  routes := [⟨.websocket, [.literal "/ws"], .deviceEvents⟩]

/-- The routes FastAPI itself adds. -/
def documentationRoutes : List (Route Endpoint) :=
  [⟨.http .get, [.literal "/openapi.json"], .openapi⟩,
    ⟨.http .get, [.literal "/docs"], .swaggerUi⟩,
    ⟨.http .get, [.literal "/docs/oauth2-redirect"], .swaggerUiRedirect⟩,
    ⟨.http .get, [.literal "/redoc"], .redoc⟩]

/-- Which parts of the built front end exist. -/
structure Frontend where
  dist : Bool
  assets : Bool
  index : Bool
deriving DecidableEq

/-- `configure_static_files`. -/
def staticRoutes (web : Frontend) : List (Route Endpoint) :=
  if web.dist then
    (if web.assets then [⟨.mount, [.literal "/assets/", .rest], .assets⟩]
      else []) ++
    (if web.index then
      [⟨.http .get, [.literal "/"], .serveIndex⟩,
        ⟨.http .get, [.literal "/", .rest], .serveSpa⟩]
      else [])
  else [⟨.http .get, [.literal "/"], .root⟩]

/-- `create_application`: all routes in the order of their registration. -/
def createApplication (web : Frontend) : List (Route Endpoint) :=
  documentationRoutes ++
    includeRouter "/api/auth" authRouter ++
    includeRouter "/api/admin" adminRouter ++
    includeRouter "/api/user" userRouter ++
    includeRouter "/ws" wsRouter ++
    staticRoutes web ++
    [⟨.http .get, [.literal "/health"], .healthCheck⟩]

/-- The path the clients post to is that of no route for posts. -/
theorem dispatch_heartbeat (web : Frontend) :
    dispatch (createApplication web) .post "/api/auth/heartbeat" =
      if web.dist && web.index then .methodNotAllowed else .notFound := by
  rcases web with ⟨_ | _, _ | _, _ | _⟩ <;> decide +kernel

/-- The heartbeat endpoint is registered under the prefix twice. -/
theorem dispatch_heartbeat_twice (web : Frontend) :
    dispatch (createApplication web) .post "/api/auth/api/auth/heartbeat" =
      .endpoint .heartbeat := by
  rcases web with ⟨_ | _, _ | _, _ | _⟩ <;> decide +kernel

end PyAuth.Server
