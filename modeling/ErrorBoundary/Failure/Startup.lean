import ErrorBoundary.Failure.Raised
import ErrorBoundary.Text.Quoted

/-!
# ErrorBoundary.Failure.Startup

Errors that keep the server from starting or from running on. No client ever sees them.

* `StartupError`  — the kind of error, a message and a cause.
* `SettingsError` — a source of settings that cannot be used.
-/

namespace ErrorBoundary

inductive StartupErrorKind where
  | configuration
  | inputOutput
deriving DecidableEq

namespace StartupErrorKind

def text : StartupErrorKind → String
  | .configuration => "CONFIGURATION"
  | .inputOutput => "IO"

end StartupErrorKind

/-- A source of settings that cannot be used. -/
inductive SettingsError where
  | message (text : String)
  | missingField (name : String)
  | frozen
  /-- A file that cannot be read, and where it lies if that is known. -/
  | file (reason : String) (location : Option String)
deriving DecidableEq

namespace SettingsError

def text : SettingsError → String
  | .message t => t
  | .missingField name => s!"missing configuration field {quote name}"
  | .frozen => "configuration is frozen"
  | .file reason none => reason
  | .file reason (some location) => s!"{reason} in {location}"

def cause (e : SettingsError) : Cause := .root e.text

end SettingsError

structure StartupError where
  kind : StartupErrorKind
  message : String
  source : Option Cause
deriving DecidableEq

namespace StartupError

def new (kind : StartupErrorKind) (message : String) : StartupError := ⟨kind, message, none⟩

def withSource (kind : StartupErrorKind) (message : String) (source : Cause) : StartupError :=
  ⟨kind, message, some source⟩

def configuration (message : String) : StartupError := new .configuration message

def ofInputOutput (e : InputOutputError) : StartupError :=
  withSource .inputOutput s!"I/O error: {e.text}" e.cause

def ofSettings (e : SettingsError) : StartupError :=
  withSource .configuration s!"Configuration error: {e.text}" e.cause

def text (e : StartupError) : String := s!"{e.kind.text}: {e.message}"

def cause (e : StartupError) : Cause := .ofSource e.text e.source

end StartupError
end ErrorBoundary
