import ErrorBoundary.Boundary.Responder

/-!
# ErrorBoundary.Boundary.Layers

What lies around every route: the boundary, which answers raised errors, and around it the
log of requests.

* `Request.url`       — the URL that the log names: scheme, host and path, and no query.
* `exceptionBoundary` — answers a raised error.
* `requestLog`        — one event for each request.
-/

namespace ErrorBoundary

namespace Request

/-- The authority of the target, else the one that the `host` header names. -/
def authority? (r : Request) : Option String :=
  match r.target.authority with
  | some a => some a
  | none => (r.header? "host").bind Uri.authorityOf?

def pathUrl (r : Request) : Uri := (Uri.ofParts? none none r.target.path).getD .root

/-- Scheme, authority and path; without an authority, or where these do not make a target, the path
alone. -/
def url (r : Request) : Uri :=
  match r.authority? with
  | some a =>
    (Uri.ofParts? (some (r.target.scheme.getD "http")) (some a) r.target.path).getD r.pathUrl
  | none => r.pathUrl

end Request

/-- Replaces the placeholder of a raised error by its answer; every other response passes. -/
def exceptionBoundary (t : Responder) (next : Handler) : Handler := fun request =>
  (next request).andThen fun response =>
    match response.raised with
    | some e => (t.dispatch request.url e).map ErrorResponse.toResponse
    | none => .silent response

/-- One event after each request; an error of the server warns. -/
def requestLog (next : Handler) : Handler := fun request =>
  (next request).andThen fun response =>
    let event :=
      if response.status.IsServerError then
        Event.requestFailed request.method request.uri.path response.status
      else .requestServed request.method request.uri.path response.status
    ⟨[event], response⟩

end ErrorBoundary
