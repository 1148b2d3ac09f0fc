import ErrorBoundary.Boundary.Layers
import ErrorBoundary.Config.Settings
import ErrorBoundary.Failure.Startup
import ErrorBoundary.Health
import ErrorBoundary.Http.Router

/-!
# ErrorBoundary.Boundary.Server

A server from its settings: the table of statuses is built once, and every route lies below `/api`
behind the boundary and the log of requests.

* `Server.ofSettings` — the state that all requests share, unless the settings are invalid.
* `Server.around`     — the layers around whatever answers.
* `Server.handler`    — the health check and further routes.
-/

namespace ErrorBoundary

structure Server where
  settings : Settings
  responder : Responder

namespace Server

/-- The state of a server. Settings that name a status which is no error status are invalid. -/
def ofSettings (s : Settings) : Logged (Except StartupError Server) :=
  s.errors.table.map fun r =>
    match r with
    | .ok table => .ok ⟨s, ⟨table⟩⟩
    | .error e => .error (.configuration e.message)

def healthRoute : Route where
  path := [.literal "health"]
  verb := .get
  handler _ := .pure (.json .ok ((Success.ofData Health.current).toJson Health.toJson).compact)

/-- Whatever answers inside, behind the boundary and the log of requests. -/
def around (s : Server) (inner : Handler) : Handler :=
  (requestLog (exceptionBoundary s.responder inner)).framed

/-- What the router answers, with further routes next to the health check. -/
def routed (routes : List Route) : Handler :=
  Router.handler ((healthRoute :: routes).map (Route.under "api"))

def handler (s : Server) (routes : List Route) : Handler := s.around (routed routes)

def build (s : Settings) : Logged (Except StartupError Handler) :=
  (ofSettings s).map fun r =>
    match r with
    | .ok server => .ok (server.handler [])
    | .error e => .error e

end Server
end ErrorBoundary
