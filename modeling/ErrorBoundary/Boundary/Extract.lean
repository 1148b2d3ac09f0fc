import ErrorBoundary.Http.MediaType
import ErrorBoundary.Http.Message
import ErrorBoundary.Http.Multipart
import ErrorBoundary.Json.Decode

/-!
# ErrorBoundary.Boundary.Extract

What a route takes from a request before it runs. The content type is looked at first, then the
body is read, and only then is it decoded; each step refuses in its own way.

* `Request.json`      — a JSON body of a type; `Handler.takingJson` is a route that takes one.
* `Request.multipart` — the parts of an upload.
* `Request.text`      — a body that is text.
-/

namespace ErrorBoundary
namespace Request

/-- How many bytes of a body are read when a route names no limit. -/
def defaultLimit : Nat := 2097152

def mediaType? (r : Request) : Option MediaType :=
  (r.header? "content-type").bind MediaType.ofString?

def jsonBody (limit : Nat) (decode : Decoder α) (r : Request) : Except JsonRejection α :=
  if !r.mediaType?.any MediaType.isJson then .error .contentType
  else
    match r.body.read limit with
    | .error e => .error (.body e)
    | .ok bytes =>
      match Decode.document decode (.ofBytes bytes) with
      | .ok a => .ok a
      | .error (.fault f) => .error (.malformed f.message)
      | .error (.mismatch e) => .error (.mismatch e.message)

def json (limit : Nat) (decode : Decoder α) (r : Request) : Except ApiError α :=
  match r.jsonBody limit decode with
  | .ok a => .ok a
  | .error e => .error (.ofJsonRejection e)

/-- The boundary that the content type of an upload names. -/
def boundary? (r : Request) : Option String :=
  match r.mediaType? with
  | some m => if m.isFormData then m.parameter? "boundary" else none
  | none => none

/-- The parts of an upload. The body is read to its end before the first part is looked at. -/
def multipart (limit : Nat) (r : Request) : Except ApiError (List Part) :=
  match r.boundary? with
  | none => .error .multipartRejected
  | some boundary =>
    match r.body.read limit with
    | .error e => .error (.multipart (.stream e))
    | .ok bytes =>
      match Multipart.parts boundary bytes with
      | .ok parts => .ok parts
      | .error e => .error (.multipart e)

/-- A body that is text, or the answer when it is not. -/
def text (limit : Nat) (r : Request) : Except Response String :=
  match r.body.read limit with
  | .error e =>
    let status := match e with
      | .tooLong => Status.payloadTooLarge
      | .broken _ => .badRequest
    .error (.text status s!"Failed to buffer the request body: {e.text}")
  | .ok bytes =>
    match Utf8.decode? bytes with
    | some s => .ok s
    | none => .error (.text .badRequest "Request body didn't contain valid UTF-8")

end Request

/-- A route that takes a JSON body. It runs on the decoded value, or the error is raised. -/
def Handler.takingJson (limit : Nat) (decode : Decoder α) (next : α → Handler) : Handler :=
  fun request =>
    match request.json limit decode with
    | .ok a => next a request
    | .error e => .silent (.ofError e)

end ErrorBoundary
