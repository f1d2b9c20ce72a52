import Mathlib.Data.List.DropRight

/-!
# Dispatching a request to a route

The rules by which the web framework chooses a route: the first route whose
path and method fit, else a "method not allowed" of the first route whose path
fits, else a redirect to the path with or without its trailing slash, else
"not found".
-/

namespace Support.Routing

inductive Method
  | get
  | post
  | put
  | delete
deriving DecidableEq

/-- A piece of a path template: literal text, a parameter which contains no
slash, or a parameter which matches everything. -/
inductive Piece
  | literal (text : String)
  | segment
  | rest
deriving DecidableEq

/-- The template matches the whole path. -/
def matchesPath : List Piece → List Char → Bool
  | [], cs => cs.isEmpty
  | .literal text :: ps, cs =>
      text.toList.isPrefixOf cs && matchesPath ps (cs.drop text.toList.length)
  | .segment :: ps, cs =>
      (List.range cs.length).any fun n =>
        (cs.take (n + 1)).all (· ≠ '/') && matchesPath ps (cs.drop (n + 1))
  | .rest :: ps, cs =>
      (List.range (cs.length + 1)).any fun n => matchesPath ps (cs.drop n)

/-- What a route serves: HTTP requests of one method, HTTP requests of every
method (a mounted application), or WebSocket connections. -/
inductive Kind
  | http (method : Method)
  | mount
  | websocket
deriving DecidableEq

structure Route (α : Type) where
  kind : Kind
  path : List Piece
  endpoint : α

/-- A router with its own prefix. -/
structure Router (α : Type) where
  ownPrefix : String
  routes : List (Route α)

/-- `include_router(router, prefix=p)`: each route is registered under `p`
followed by the router's own prefix and the path of the route. -/
def includeRouter {α : Type} (p : String) (router : Router α) :
    List (Route α) :=
  router.routes.map fun route =>
    { route with
      path := .literal p :: .literal router.ownPrefix :: route.path }

/-- What becomes of an HTTP request. -/
inductive Dispatch (α : Type)
  | endpoint (handler : α)
  | methodNotAllowed
  | redirect (path : String)
  | notFound
deriving DecidableEq

section

variable {α : Type}

/-- The path of an HTTP request fits the route, whatever its method. -/
def Route.fitsPath (route : Route α) (path : String) : Bool :=
  decide (route.kind ≠ .websocket) && matchesPath route.path path.toList

def Route.fitsMethod (route : Route α) (method : Method) : Bool :=
  decide (route.kind = .http method ∨ route.kind = .mount)

/-- The path with its trailing slashes removed, or with one added. -/
def toggleSlash (path : String) : String :=
  if path.toList.getLast? = some '/' then
    String.ofList (path.toList.rdropWhile (· == '/'))
  else path ++ "/"

def dispatch (routes : List (Route α)) (method : Method) (path : String) :
    Dispatch α :=
  match routes.find? fun r => r.fitsPath path && r.fitsMethod method with
  | some route => .endpoint route.endpoint
  | none =>
      if routes.any (·.fitsPath path) then .methodNotAllowed
      else if path ≠ "/" ∧ routes.any (·.fitsPath (toggleSlash path)) then
        .redirect (toggleSlash path)
      else .notFound

end

end Support.Routing
