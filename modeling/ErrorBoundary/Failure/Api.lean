import ErrorBoundary.Failure.Raised
import ErrorBoundary.Status
import ErrorBoundary.Text.Quoted

/-!
# ErrorBoundary.Failure.Api

The errors that a route may end with. They fall into six kinds by what the client is told: a
classified error tells its message, any other error only its class, a body that cannot be decoded
nothing of what is in it, a refused request its status, and a failed upload its innermost cause.

* `JsonRejection`      — a JSON body that does not come through.
* `MultipartError`     — an upload that cannot be read to its end.
* `ApiError`            — any error of a route.
* `ApiError.cause`      — how it shows.
-/

namespace ErrorBoundary

inductive BodyError where
  | tooLong
  | broken (reason : String)
deriving DecidableEq

namespace BodyError

def text : BodyError → String
  | .tooLong => "length limit exceeded"
  | .broken reason => reason

/-- The error of the body inside `wrappers` layers that show the same text. -/
def cause (e : BodyError) : Nat → Cause
  | 0 => .root e.text
  | n + 1 => .because e.text (cause e n)

end BodyError

inductive JsonRejection where
  | contentType
  | body (e : BodyError)
  /-- The body is no JSON. -/
  | malformed (detail : String)
  /-- The body is JSON of another shape. -/
  | mismatch (detail : String)
deriving DecidableEq

namespace JsonRejection

/-- The status that goes with the rejection when nothing answers it. -/
def status : JsonRejection → Status
  | .contentType => .unsupportedMediaType
  | .body .tooLong => .payloadTooLarge
  | .body (.broken _) => .badRequest
  | .malformed _ => .badRequest
  | .mismatch _ => .unprocessableEntity

def cause : JsonRejection → Cause
  | .contentType => .root "Expected request with `Content-Type: application/json`"
  | .body .tooLong =>
    .because "Failed to buffer the request body: length limit exceeded"
      (BodyError.cause .tooLong 1)
  | .body (.broken reason) =>
    .because s!"Failed to buffer the request body: {reason}" (BodyError.cause (.broken reason) 2)
  | .malformed detail =>
    .because s!"Failed to parse the request body as JSON: {detail}" (.root detail)
  | .mismatch detail =>
    .because s!"Failed to deserialize the JSON body into the target type: {detail}" (.root detail)

end JsonRejection

inductive MultipartError where
  | stream (e : BodyError)
  | headers (reason : String)
  | incompleteStream
  /-- A field whose data is not closed, and its name if it has one. -/
  | incompleteField (name : Option String)
  /-- Any other error, with whatever causes it has. -/
  | other (e : Cause)
deriving DecidableEq

namespace MultipartError

/-- What went wrong while reading, without the wrapper that every such error has. -/
def inner : MultipartError → Cause
  | .stream .tooLong => .because "failed to read stream" (BodyError.cause .tooLong 1)
  | .stream (.broken reason) =>
    .because "failed to read stream" (BodyError.cause (.broken reason) 3)
  | .headers reason => .because "failed to read headers" (.root reason)
  | .incompleteStream => .root "incomplete multipart stream"
  | .incompleteField name =>
    let shown := quote (name.getD "<unknown>")
    .root s!"field {shown} received with incomplete data"
  | .other e => e

def cause (e : MultipartError) : Cause :=
  .because "Error parsing `multipart/form-data` request" e.inner

end MultipartError

/-- An upload whose content type names no boundary. -/
def multipartRejectionCause : Cause :=
  .root "Invalid `boundary` for `multipart/form-data` request"

inductive ApiError where
  | server (e : ServerError)
  | unclassified (e : Failure)
  | malformedBody (r : JsonRejection)
  | jsonRejected (r : JsonRejection)
  | multipartRejected
  | multipart (e : MultipartError)
deriving DecidableEq

namespace ApiError

/-- A body that was read but does not decode is malformed; one that was not read is rejected. -/
def ofJsonRejection (r : JsonRejection) : ApiError :=
  match r with
  | .malformed _ => .malformedBody r
  | .mismatch _ => .malformedBody r
  | _ => .jsonRejected r

def ofInputOutput (e : InputOutputError) : ApiError := .unclassified (.inputOutput e)

def ofJson (message : String) : ApiError := .unclassified (.json message)

def name : ApiError → String
  | .server _ => "Server"
  | .unclassified _ => "Unclassified"
  | .malformedBody _ => "MalformedBody"
  | .jsonRejected _ => "JsonRejected"
  | .multipartRejected => "MultipartRejected"
  | .multipart _ => "Multipart"

/-- The error as its texts show it. An unclassified error shows no cause. -/
def cause : ApiError → Cause
  | .server e => e.cause
  | .unclassified e => .root e.cause.text
  | .malformedBody r => r.cause
  | .jsonRejected r => r.cause
  | .multipartRejected => multipartRejectionCause
  | .multipart e => e.cause

end ApiError
end ErrorBoundary
