import ErrorBoundary.Http.Message

/-!
# ErrorBoundary.Http.Router

Routes by path and method. A path is matched segment by segment as it was sent, nothing decoded; a
capture takes one segment that is not empty. Of the patterns that match a path the most special one
counts, whatever the order of the routes, and all routes with this pattern answer at the path, each
to its method. A route below a root sees its own part of the path.

* `Route`           — a path, a method and what answers there.
* `Route.under`     — the same route below a root.
* `Router.routesAt` — the routes that answer at a path.
* `Router.handler`  — not found, not allowed, or the answer of the route.
* `Handler.framed`  — what leaves the server: some methods get no body.
-/

namespace ErrorBoundary

inductive Segment where
  | literal (s : String)
  | capture
deriving DecidableEq

/-- The method of a route. -/
inductive Verb where
  | connect
  | delete
  | get
  | head
  | options
  | patch
  | post
  | put
  | trace
deriving DecidableEq

namespace Verb

def name : Verb → String
  | .connect => "CONNECT"
  | .delete => "DELETE"
  | .get => "GET"
  | .head => "HEAD"
  | .options => "OPTIONS"
  | .patch => "PATCH"
  | .post => "POST"
  | .put => "PUT"
  | .trace => "TRACE"

/-- The methods that a route answers to. What answers to `GET` answers to `HEAD` too. -/
def allow : Verb → String
  | .get => "GET,HEAD"
  | v => v.name

end Verb

/-- A route; its handler gets the segments that were captured. -/
structure Route where
  path : List Segment
  verb : Verb
  handler : List String → Handler

namespace Route

/-- The segments captured by a pattern, when it matches. -/
def capture? : List Segment → List String → Option (List String)
  | [], [] => some []
  | .literal s :: pattern, t :: rest => if s = t then capture? pattern rest else none
  | .capture :: pattern, t :: rest =>
    if t.isEmpty then none else (capture? pattern rest).map (t :: ·)
  | _, _ => none

/-- Where two patterns differ first, the more special one names the segment and the other one
captures it. -/
def isMoreSpecial : List Segment → List Segment → Bool
  | .literal _ :: _, .capture :: _ => true
  | .literal s :: p, .literal t :: q => s == t && isMoreSpecial p q
  | .capture :: p, .capture :: q => isMoreSpecial p q
  | _, _ => false

end Route

/-- The target with the leading segment `root` taken off its path. -/
def Uri.below (root : String) (u : Uri) : Uri :=
  match ('/' :: root.toList).isPrefixOf? u.path.toList with
  | some [] => { u with path := "/" }
  | some rest => { u with path := String.ofList rest }
  | none => u

/-- A request as it is seen below `root`; the whole target stays beside the rest of it. -/
def Request.below (root : String) (r : Request) : Request :=
  { r with uri := r.uri.below root, outerUri := some r.target }

/-- The same route below a leading segment. -/
def Route.under (root : String) (r : Route) : Route where
  path := .literal root :: r.path
  verb := r.verb
  handler captured request := r.handler captured (request.below root)

namespace Router

/-- The segments of a path that begins with a slash. -/
def segments (path : String) : Option (List String) :=
  match path.toList with
  | '/' :: rest => some ((rest.splitOn '/').map String.ofList)
  | _ => none

/-- The routes that answer at a path, with what they capture. -/
def routesAt (routes : List Route) (path : String) : List (Route × List String) :=
  match segments path with
  | none => []
  | some segments =>
    let found := routes.filterMap fun r =>
      (Route.capture? r.path segments).map fun captured => (r, captured)
    found.filter fun m => found.all fun n => !Route.isMoreSpecial n.1.path m.1.path

/-- The one that answers to a method. A route of its own for `HEAD` goes before one for `GET`. -/
def serving? (found : List (Route × List String)) (method : String) :
    Option (Route × List String) :=
  match found.find? fun m => m.1.verb.name = method with
  | some m => some m
  | none => if method = "HEAD" then found.find? fun m => m.1.verb = .get else none

/-- The route that a path and a method name, and what it captures. -/
def find? (routes : List Route) (path method : String) : Option (Route × List String) :=
  serving? (routesAt routes path) method

def notFound : Response := .empty .notFound

def notAllowed (found : List (Route × List String)) : Response :=
  { Response.empty .methodNotAllowed with
    allow := some (",".intercalate (found.map fun m => m.1.verb.allow)) }

/-- The answer of the route that the path and the method name. -/
def handler (routes : List Route) : Handler := fun request =>
  match routesAt routes request.uri.path with
  | [] => .silent notFound
  | found =>
    match serving? found request.method with
    | some (route, captured) => route.handler captured request
    | none => .silent (notAllowed found)

end Router

/-- A response to `HEAD` has no body, and neither has a success to `CONNECT`. -/
def Handler.framed (next : Handler) : Handler := fun request =>
  (next request).map fun response =>
    if request.method = "HEAD" ∨
        (request.method = "CONNECT" ∧ 200 ≤ response.status.code ∧ response.status.code < 300) then
      { response with body := "" }
    else response

end ErrorBoundary
