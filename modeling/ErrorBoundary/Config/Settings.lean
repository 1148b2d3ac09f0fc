import ErrorBoundary.Classification.Decode
import ErrorBoundary.StatusTable

/-!
# ErrorBoundary.Config.Settings

The settings of the server. Every section and every field has a default, so an empty text is a
valid configuration, and one that says little is the default with what it says written over it.

* `ServerSettings`, `LoggingSettings`, `ErrorSettings` — the sections.
* `Settings`                                           — all of them.
* `Settings.decode`, `Settings.toJson`                 — from and to JSON, likewise each section.
-/

namespace ErrorBoundary

structure ServerSettings where
  host : String
  port : UInt16

structure LoggingSettings where
  level : String
  format : String

structure ErrorSettings where
  defaultStatus : UInt16
  overrides : Overrides

structure Settings where
  server : ServerSettings
  logging : LoggingSettings
  errors : ErrorSettings

/-! ## Server -/

namespace ServerSettings

def defaultHost : String := "0.0.0.0"

def defaultPort : UInt16 := 8080

def default : ServerSettings := ⟨defaultHost, defaultPort⟩

def address (s : ServerSettings) : String := s!"{s.host}:{s.port.toNat}"

def hostField : Field ServerSettings :=
  ⟨"host", true, fun form d s => (Decode.string form d).map fun v => { s with host := v }⟩

def portField : Field ServerSettings :=
  ⟨"port", true, fun form d s => (Decode.word form d).map fun v => { s with port := v }⟩

/-- A field that is left out has a default of its own. -/
def record : Record ServerSettings :=
  ⟨"ServerConfig", ⟨defaultHost, defaultPort⟩, [hostField, portField], true⟩

def decode : Decoder ServerSettings := record.decode

def toJson (s : ServerSettings) : Json :=
  .object [("host", .string s.host), ("port", .nat s.port.toNat)]

end ServerSettings

/-! ## Logging -/

namespace LoggingSettings

def defaultLevel : String := "info"

def defaultFormat : String := "json"

def default : LoggingSettings := ⟨defaultLevel, defaultFormat⟩

def levelField : Field LoggingSettings :=
  ⟨"level", true, fun form d s => (Decode.string form d).map fun v => { s with level := v }⟩

def formatField : Field LoggingSettings :=
  ⟨"format", true, fun form d s => (Decode.string form d).map fun v => { s with format := v }⟩

def record : Record LoggingSettings :=
  ⟨"LoggingConfig", ⟨defaultLevel, defaultFormat⟩, [levelField, formatField], true⟩

def decode : Decoder LoggingSettings := record.decode

def toJson (s : LoggingSettings) : Json :=
  .object [("level", .string s.level), ("format", .string s.format)]

end LoggingSettings

/-! ## Errors -/

namespace Overrides

/-- Entries in the order they stand; of two for one classification the last counts. -/
def decodeMembers (form : Form) (o : Overrides) :
    List (Except Fault String × Draft) → Except Rejection Overrides
  | [] => .ok o
  | (.error f, _) :: _ => .error (.fault f)
  | (.ok key, d) :: rest =>
    match Classification.named key with
    | .error e => .error e
    | .ok c =>
      match Decode.word form d with
      | .error e => .error e
      | .ok code => decodeMembers form (o.insert c code) rest

/-- An object from names of classifications to numbers. -/
def decode : Decoder Overrides
  | form, .object members stop =>
    match decodeMembers form empty members with
    | .error e => .error e
    | .ok o =>
      match Decode.finish stop with
      | .error e => .error e
      | .ok () => .ok o
  | _, d => .error (Decode.wrongType "a map" d)

def toJson (o : Overrides) : Json :=
  .object (o.entries.map fun e => (e.1.name, .nat e.2.toNat))

end Overrides

namespace ErrorSettings

def standardStatus : UInt16 := 500

def default : ErrorSettings := ⟨standardStatus, .empty⟩

def defaultStatusField : Field ErrorSettings :=
  ⟨"default_status", true,
    fun form d s => (Decode.word form d).map fun v => { s with defaultStatus := v }⟩

def overridesField : Field ErrorSettings :=
  ⟨"overrides", true,
    fun form d s => (Overrides.decode form d).map fun v => { s with overrides := v }⟩

def record : Record ErrorSettings :=
  ⟨"ErrorMappingConfig", ⟨standardStatus, .empty⟩, [defaultStatusField, overridesField], true⟩

def decode : Decoder ErrorSettings := record.decode

def toJson (s : ErrorSettings) : Json :=
  .object [("default_status", .nat s.defaultStatus.toNat), ("overrides", s.overrides.toJson)]

def table (s : ErrorSettings) : Logged (Except TableError StatusTable) :=
  StatusTable.ofSettings s.defaultStatus s.overrides

end ErrorSettings

/-! ## All settings -/

namespace Settings

def default : Settings := ⟨.default, .default, .default⟩

def serverField : Field Settings :=
  ⟨"server", true,
    fun form d s => (ServerSettings.decode form d).map fun v => { s with server := v }⟩

def loggingField : Field Settings :=
  ⟨"logging", true,
    fun form d s => (LoggingSettings.decode form d).map fun v => { s with logging := v }⟩

def errorsField : Field Settings :=
  ⟨"errors", true,
    fun form d s => (ErrorSettings.decode form d).map fun v => { s with errors := v }⟩

def record : Record Settings :=
  ⟨"AppConfig", ⟨.default, .default, .default⟩, [serverField, loggingField, errorsField], true⟩

def decode : Decoder Settings := record.decode

def toJson (s : Settings) : Json :=
  .object [("server", s.server.toJson), ("logging", s.logging.toJson), ("errors", s.errors.toJson)]

end Settings
end ErrorBoundary
