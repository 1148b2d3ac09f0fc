import ErrorBoundary.Classification
import ErrorBoundary.Json.Basic
import ErrorBoundary.Status

/-!
# ErrorBoundary.Event

What the server writes to its log. An event is one of a few things that can happen; its level, its
target, its message and its fields follow from it. A computation that logs is a value together
with the events, in the order they happened.
-/

namespace ErrorBoundary

inductive Level where
  | trace
  | debug
  | info
  | warn
  | error
deriving DecidableEq

namespace Level

def name : Level → String
  | .trace => "TRACE"
  | .debug => "DEBUG"
  | .info => "INFO"
  | .warn => "WARN"
  | .error => "ERROR"

end Level

inductive Event where
  | overrideApplied (c : Classification) (status : Status)
  | exceptionHandled (exception url : String)
  | requestServed (method path : String) (status : Status)
  | requestFailed (method path : String) (status : Status)
  | bindFailed (address reason : String)
  | listening (address : String)
  | shutdownRequested
  | stopped
  | starting (environment : String)
  | serverFailed (reason : String)
deriving DecidableEq

namespace Event

def version : String := "0.1.0"

def level : Event → Level
  | .exceptionHandled _ _ => .debug
  | .requestFailed _ _ _ => .warn
  | .bindFailed _ _ => .error
  | .serverFailed _ => .error
  | _ => .info

/-- The part of the server that an event comes from; filters go by it. -/
def target : Event → String
  | .overrideApplied _ _ => "rollout_core::status"
  | .exceptionHandled _ _ => "rollout_api::exception::translator"
  | .requestServed _ _ _ => "rollout_api::middleware::logging"
  | .requestFailed _ _ _ => "rollout_api::middleware::logging"
  | .bindFailed _ _ => "rollout_api::app"
  | .listening _ => "rollout_api::app"
  | .shutdownRequested => "rollout_api::app"
  | .stopped => "rollout_api::app"
  | .starting _ => "rollout_server"
  | .serverFailed _ => "rollout_server"

def message : Event → String
  | .overrideApplied _ _ => "Status override applied"
  | .exceptionHandled _ _ => "Handling exception of request"
  | .requestServed _ _ _ => "HTTP request"
  | .requestFailed _ _ _ => "HTTP request failed"
  | .bindFailed _ reason => s!"Failed to bind: {reason}"
  | .listening address => s!"Rollout server listening on {address}"
  | .shutdownRequested => "Shutdown signal received, starting graceful shutdown..."
  | .stopped => "Rollout server shut down gracefully"
  | .starting environment => s!"Starting Rollout v{version} (env: {environment})"
  | .serverFailed reason => s!"Server error: {reason}"

/-- What an event tells beside its message, as far as no clock is needed. -/
def fields : Event → List (String × Json)
  | .overrideApplied c status =>
    [("classification", .string c.key), ("status", .nat status.code)]
  | .exceptionHandled exception url =>
    [("exception", .string exception), ("url", .string url)]
  | .requestServed method path status =>
    [("method", .string method), ("path", .string path), ("status", .nat status.code)]
  | .requestFailed method path status =>
    [("method", .string method), ("path", .string path), ("status", .nat status.code)]
  | .bindFailed address _ => [("addr", .string address)]
  | _ => []

/-- All of it: the event of a request also tells how many milliseconds the request took. -/
def timedFields (milliseconds : Nat) (e : Event) : List (String × Json) :=
  match e with
  | .requestServed _ _ _ | .requestFailed _ _ _ =>
    e.fields ++ [("duration_ms", .nat milliseconds)]
  | _ => e.fields

end Event

/-- A value and the events on the way to it. -/
structure Logged (α : Type) where
  events : List Event
  value : α

namespace Logged

def silent (a : α) : Logged α := ⟨[], a⟩

def map (f : α → β) (x : Logged α) : Logged β := ⟨x.events, f x.value⟩

/-- One computation after another; the events of the first come first. -/
def andThen (x : Logged α) (f : α → Logged β) : Logged β :=
  ⟨x.events ++ (f x.value).events, (f x.value).value⟩

end Logged
end ErrorBoundary
