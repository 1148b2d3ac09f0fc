import ErrorBoundary.Classification
import ErrorBoundary.Failure.Cause
import ErrorBoundary.Failure.SystemError

/-!
# ErrorBoundary.Failure.Raised

The errors that arise while a request is handled. Each has a cause chain and the name of its type;
some have a classification. What the boundary may say of an error hangs on its classification.

* `ServerError`  — a classified error of the application.
* `InputOutputError` — an error of the operating system or of a stream.
* `Failure`      — any error, as the boundary sees it.
-/

namespace ErrorBoundary

/-! ## Names of types, as they show in answers and events -/

namespace TypeName

def serverError : String := "rollout_core::exception::ServerError"
def messageNotReadable : String := "rollout_core::exception::MessageNotReadable"
def multipartUploadFailed : String := "rollout_core::exception::MultipartUploadFailed"
def inputOutput : String := "core::io::error::Error"
def json : String := "serde_json::error::Error"
def jsonRejection : String := "axum::extract::rejection::JsonRejection"
def multipartRejection : String := "axum::extract::multipart::MultipartRejection"
def multipart : String := "axum::extract::multipart::MultipartError"

end TypeName

/-! ## Errors -/

/-- A classified error with a message for the client and a cause that stays inside. -/
structure ServerError where
  classification : Classification
  message : String
  source : Option Cause
deriving DecidableEq

namespace ServerError

def withMessage (c : Classification) (message : String) : ServerError := ⟨c, message, none⟩

def withSource (c : Classification) (message : String) (source : Cause) : ServerError :=
  ⟨c, message, some source⟩

def new (c : Classification) : ServerError := withMessage c c.defaultMessage

def entityNotExists (message : String) : ServerError := withMessage .entityNotExists message

def entityAlreadyExists (message : String) : ServerError :=
  withMessage .entityAlreadyExists message

def insufficientPermission (message : String) : ServerError :=
  withMessage .insufficientPermission message

def entityLocked (message : String) : ServerError := withMessage .entityLocked message

def cause (e : ServerError) : Cause := .ofSource e.message e.source

end ServerError

inductive InputOutputError where
  | message (text : String)
  | system (code : Int)
  /-- It shows as the error it wraps and goes on with that one's cause. -/
  | wrapping (e : Cause)
deriving DecidableEq

namespace InputOutputError

def text : InputOutputError → String
  | .message t => t
  | .system code => s!"{systemErrorText code} (os error {code})"
  | .wrapping e => e.text

def source? : InputOutputError → Option Cause
  | .wrapping e => e.source?
  | _ => none

def cause (e : InputOutputError) : Cause := .ofSource e.text e.source?

end InputOutputError

/-- An error as the boundary sees it: its classification, if it has one, the class that is
reported, the name of its type, and its chain. -/
structure Failure where
  classification : Option Classification
  exceptionClass : String
  typeName : String
  cause : Cause
deriving DecidableEq

namespace Failure

/-- An error that reports its type's name as its class. -/
def ofType (typeName : String) (classification : Option Classification) (cause : Cause) :
    Failure :=
  ⟨classification, typeName, typeName, cause⟩

def server (e : ServerError) : Failure :=
  ofType TypeName.serverError (some e.classification) e.cause

def inputOutput (e : InputOutputError) : Failure := ofType TypeName.inputOutput none e.cause

/-- A text that is no JSON, or not of the shape asked for. -/
def json (message : String) : Failure := ofType TypeName.json none (.root message)

/-- A request body that cannot be read. It carries nothing of what was wrong with it. -/
def messageNotReadable : Failure :=
  ofType TypeName.messageNotReadable (some .restBodyNotReadable)
    (.root Classification.restBodyNotReadable.defaultMessage)

/-- A failed upload; it shows as the error that it is given. -/
def multipartUploadFailed (cause : Cause) : Failure :=
  ofType TypeName.multipartUploadFailed (some .artifactUploadFailed) (.root cause.text)

end Failure
end ErrorBoundary
