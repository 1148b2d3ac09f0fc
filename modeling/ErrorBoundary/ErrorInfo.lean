import ErrorBoundary.Failure.Raised
import ErrorBoundary.Json.Decode

/-!
# ErrorBoundary.ErrorInfo

The body of an error response. It always has three members, and one that is absent is `null`.

* `ErrorInfo.ofFailure`    — what a client is told of an error.
* `ErrorInfo.unclassified` — what it is told of an error of which only the type is known.
* `ErrorInfo.wire`, `ErrorInfo.decode` — as text, and back.
-/

namespace ErrorBoundary

structure ErrorInfo where
  message : Option String
  exceptionClass : String
  errorCode : Option String
deriving DecidableEq

namespace ErrorInfo

/-- Only a classified error shows its message and its code, and an empty message is none. -/
def ofFailure (e : Failure) : ErrorInfo where
  message :=
    match e.classification with
    | some _ => if e.cause.text.isEmpty then none else some e.cause.text
    | none => none
  exceptionClass := e.exceptionClass
  errorCode := e.classification.map Classification.key

def unclassified (typeName : String) : ErrorInfo := ⟨none, typeName, none⟩

def toJson (e : ErrorInfo) : Json :=
  .object [("message", .ofOption e.message), ("exceptionClass", .string e.exceptionClass),
    ("errorCode", .ofOption e.errorCode)]

def wire (e : ErrorInfo) : String := e.toJson.compact

def record : Record ErrorInfo where
  name := "ErrorInfo"
  blank := ⟨none, "", none⟩
  fields := [
    ⟨"message", true,
      fun form d e => (Decode.optional Decode.string form d).map fun v => { e with message := v }⟩,
    ⟨"exceptionClass", false,
      fun form d e => (Decode.string form d).map fun v => { e with exceptionClass := v }⟩,
    ⟨"errorCode", true,
      fun form d e =>
        (Decode.optional Decode.string form d).map fun v => { e with errorCode := v }⟩]
  mayBeShort := false

def decode : Decoder ErrorInfo := record.decode

end ErrorInfo
end ErrorBoundary
