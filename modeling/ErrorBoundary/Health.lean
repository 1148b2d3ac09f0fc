import ErrorBoundary.Event
import ErrorBoundary.Json.Decode

/-!
# ErrorBoundary.Health

The answer of the health check: the server is up, and which version it is.
-/

namespace ErrorBoundary

structure Health where
  status : String
  version : String
deriving DecidableEq

/-- The wrapper around the data of a successful answer. -/
structure Success (α : Type) where
  success : Bool
  data : α
deriving DecidableEq

namespace Health

def current : Health := ⟨"ok", Event.version⟩

def toJson (h : Health) : Json :=
  .object [("status", .string h.status), ("version", .string h.version)]

def record : Record Health where
  name := "HealthResponse"
  blank := ⟨"", ""⟩
  fields := [
    ⟨"status", false, fun form d h => (Decode.string form d).map fun v => { h with status := v }⟩,
    ⟨"version", false, fun form d h => (Decode.string form d).map fun v => { h with version := v }⟩]
  mayBeShort := false

def decode : Decoder Health := record.decode

end Health

namespace Success

def ofData (data : α) : Success α := ⟨true, data⟩

def toJson (encode : α → Json) (r : Success α) : Json :=
  .object [("success", .bool r.success), ("data", encode r.data)]

def record (blank : α) (decode : Decoder α) : Record (Success α) where
  name := "ApiResponse"
  blank := ⟨false, blank⟩
  fields := [
    ⟨"success", false, fun form d r => (Decode.bool form d).map fun v => { r with success := v }⟩,
    ⟨"data", false, fun form d r => (decode form d).map fun v => { r with data := v }⟩]
  mayBeShort := false

end Success
end ErrorBoundary
