import ErrorBoundary.Boundary.Server

/-!
# ErrorBoundary.Launch.Attempt

Starting the server. Settings that are invalid end it before any address is asked for; then exactly
one address is asked for, and the server listens or the error says why it does not.

* `Attempt`              — what was done, in order, and what came of it.
* `Server.launch`        — one attempt, given how the system answers.
* `Attempt.untilStopped` — the events up to the end of a server that is asked to stop.
-/

namespace ErrorBoundary

/-- How the system answers when a process asks to listen at an address. -/
abbrev Network := String → Except InputOutputError Unit

namespace Network

/-- The port of an address stands behind its last colon. -/
def port? (address : String) : Option Nat :=
  natOfDigits? (address.toList.reverse.takeWhile (· != ':')).reverse

/-- Ports up to this one are kept from processes without privileges; port `0` stands for any. -/
def lastPrivilegedPort : Nat := 1023

/-- The error number of a refused permission. -/
def permissionDenied : Int := 13

/-- A network that lets a process without privileges listen at any address. -/
def unprivileged : Network := fun address =>
  match port? address with
  | none => .error (.message "invalid socket address")
  | some port =>
    if 0 < port ∧ port ≤ lastPrivilegedPort then .error (.system permissionDenied) else .ok ()

end Network

/-- What a starting server does that shows outside. -/
inductive Deed where
  | logged (e : Event)
  | asked (address : String)
deriving DecidableEq

/-- An attempt to start: what was done, first things first, and the server or what went wrong. -/
structure Attempt where
  deeds : List Deed
  outcome : Except StartupError Handler

namespace Server

def launch (network : Network) (s : Settings) : Attempt :=
  let address := s.server.address
  match build s with
  | ⟨events, .error e⟩ => ⟨events.map .logged, .error e⟩
  | ⟨events, .ok handler⟩ =>
    match network address with
    | .error e =>
      ⟨events.map .logged ++ [.asked address, .logged (.bindFailed address e.text)],
        .error (.ofInputOutput e)⟩
    | .ok () =>
      ⟨events.map .logged ++ [.asked address, .logged (.listening address)], .ok handler⟩

end Server

namespace Attempt

def events (a : Attempt) : List Event :=
  a.deeds.filterMap fun d => match d with
    | .logged e => some e
    | .asked _ => none

/-- The addresses that were asked for. -/
def asked (a : Attempt) : List String :=
  a.deeds.filterMap fun d => match d with
    | .logged _ => none
    | .asked address => some address

/-- A server that was started is told to stop, and stops. -/
def stopEvents (a : Attempt) : List Event :=
  match a.outcome with
  | .ok _ => [.shutdownRequested, .stopped]
  | .error _ => []

def untilStopped (a : Attempt) : List Event := a.events ++ a.stopEvents

end Attempt
end ErrorBoundary
