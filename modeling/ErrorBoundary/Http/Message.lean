import ErrorBoundary.Event
import ErrorBoundary.Failure.Api
import ErrorBoundary.Http.Uri
import ErrorBoundary.Members
import ErrorBoundary.Text.Utf8

/-!
# ErrorBoundary.Http.Message

Requests and responses in memory. A response may carry the error that was raised on the way; who
sits further out decides what becomes of it.

* `Request.target`  — the whole target, whatever part of it a route sees.
* `Request.header?` — the first header of a name, when it is readable text.
* `Body.read`       — a body up to a limit.
* `Handler`         — from a request to a response, with the events on the way.
-/

namespace ErrorBoundary

/-- The bytes of a request body, and the error with which its stream breaks off after them. -/
structure Body where
  bytes : List UInt8
  failure : Option String

namespace Body

def empty : Body := ⟨[], none⟩

/-- The whole body. One that grows beyond the limit is refused before a later break shows. -/
def read (limit : Nat) (b : Body) : Except BodyError (List UInt8) :=
  if limit < b.bytes.length then .error .tooLong
  else
    match b.failure with
    | some reason => .error (.broken reason)
    | none => .ok b.bytes

end Body

structure Request where
  method : String
  uri : Uri
  /-- Names in lower case, in the order they came. -/
  headers : List (String × String)
  body : Body
  /-- The target before a router took its own part off. -/
  outerUri : Option Uri

namespace Request

def target (r : Request) : Uri := r.outerUri.getD r.uri

def isMethod (method : String) : Bool := isToken method

/-- A header's value may hold anything but controls; a tab is none. -/
def isHeaderValue (value : String) : Bool :=
  value.toList.all fun c => c == '\t' || (0x20 ≤ c.toNat && c.toNat != 0x7F)

/-- The first header of a name; it counts only when it is readable text. -/
def header? (r : Request) (name : String) : Option String :=
  match r.headers.find? fun h => h.1 = name with
  | some (_, value) => if value.toList.all isReadable then some value else none
  | none => none

end Request

structure Response where
  status : Status
  contentType : Option String
  allow : Option String
  /-- Every other header, names in lower case. -/
  headers : Members String
  body : String
  /-- An error that waits for its answer. -/
  raised : Option ApiError

namespace Response

def jsonType : String := "application/json"

def textType : String := "text/plain; charset=utf-8"

def empty (status : Status) : Response := ⟨status, none, none, [], "", none⟩

def text (status : Status) (body : String) : Response :=
  ⟨status, some textType, none, [], body, none⟩

def json (status : Status) (body : String) : Response :=
  ⟨status, some jsonType, none, [], body, none⟩

/-- The placeholder for an error until it is answered. -/
def ofError (e : ApiError) : Response := { empty .internalServerError with raised := some e }

def withStatus (status : Status) (r : Response) : Response := { r with status := status }

/-- The same response with a header set, in place of any of that name. -/
def withHeader (name value : String) (r : Response) : Response :=
  if name = "content-type" then { r with contentType := some value }
  else if name = "allow" then { r with allow := some value }
  else { r with headers := r.headers.put name value }

end Response

abbrev Handler := Request → Logged Response

namespace Handler

def pure (r : Response) : Handler := fun _ => .silent r

/-- The answer, or the placeholder of the error that was raised. -/
def ofExcept (f : Request → Except ApiError Response) : Handler := fun request =>
  match f request with
  | .ok response => .silent response
  | .error e => .silent (.ofError e)

end Handler
end ErrorBoundary
