import ErrorBoundary.ErrorInfo
import ErrorBoundary.Http.Message
import ErrorBoundary.StatusTable

/-!
# ErrorBoundary.Boundary.Responder

From a raised error to the response that a client gets. Each answer writes one event with the
class of the error and the URL of the request, and never a message.

* `Responder.dispatch` — any error of a route.
* `Responder.classified`, `Responder.malformedBody`, `Responder.rejection`,
  `Responder.multipartFailure` — what it chooses from.
-/

namespace ErrorBoundary

structure ErrorResponse where
  status : Status
  body : ErrorInfo
deriving DecidableEq

namespace ErrorResponse

def toResponse (r : ErrorResponse) : Response := .json r.status r.body.wire

end ErrorResponse

structure Responder where
  table : StatusTable

namespace Responder

def answer (url : Uri) (exceptionClass : String) (status : Status) (body : ErrorInfo) :
    Logged ErrorResponse :=
  ⟨[.exceptionHandled exceptionClass url.text], ⟨status, body⟩⟩

/-- The status of the classification, or the default; the body tells of the error itself. -/
def classified (t : Responder) (url : Uri) (e : Failure) : Logged ErrorResponse :=
  answer url e.exceptionClass (t.table.statusOf? e.classification) (.ofFailure e)

/-- Always a bad request, whose body tells nothing of what was wrong with the one that came. -/
def malformedBody (url : Uri) (typeName : String) : Logged ErrorResponse :=
  answer url typeName .badRequest (.ofFailure .messageNotReadable)

/-- A request that was refused before its handler ran keeps the status of the refusal. -/
def rejection (url : Uri) (status : Status) (typeName : String) : Logged ErrorResponse :=
  answer url typeName status (.unclassified typeName)

/-- Always a bad request, whose body tells the innermost cause. -/
def multipartFailure (url : Uri) (typeName : String) (cause : Cause) : Logged ErrorResponse :=
  answer url typeName .badRequest (.ofFailure (.multipartUploadFailed cause.rootCause))

def dispatch (t : Responder) (url : Uri) : ApiError → Logged ErrorResponse
  | .server e => t.classified url (.server e)
  | .unclassified e => t.classified url e
  | .malformedBody _ => malformedBody url TypeName.jsonRejection
  | .jsonRejected r => rejection url r.status TypeName.jsonRejection
  | .multipartRejected =>
    multipartFailure url TypeName.multipartRejection multipartRejectionCause
  | .multipart e => multipartFailure url TypeName.multipart e.cause

end Responder
end ErrorBoundary
