import ErrorBoundary.Config.Load
import ErrorBoundary.Launch.Attempt
import ErrorBoundary.Launch.LogFilter

/-!
# ErrorBoundary.Launch.Program

A run of the whole program: it loads the settings of its deployment, starts its log and then the
server. Without settings there is no log, and the reason goes to the standard error output.

* `Report`      — what a run shows, its log if it came to have one, and how it ends if it does.
* `Program.run` — a run, given the files, the variables and the network, and how the readers of
  files word what is wrong with one.
-/

namespace ErrorBoundary

inductive LogFormat where
  | json
  | pretty
deriving DecidableEq

namespace LogFormat

/-- Any name but that of the first format stands for the second. -/
def ofSetting (s : String) : LogFormat := if s = "json" then .json else .pretty

def line (f : LogFormat) (e : Event) : String :=
  match f with
  | .json =>
    (Json.object [("level", .string e.level.name),
      ("fields", .object (("message", .string e.message) :: e.fields)),
      ("target", .string e.target)]).compact
  | .pretty =>
    let fields := e.fields.map fun m => s!", {m.1}: {m.2.compact}"
    s!"{e.level.name} {e.target}: {e.message}{String.join fields}"

end LogFormat

/-- A log that was started, with the events that it shows; `lastEvents` come once a server that
runs is asked to stop. -/
structure Log where
  format : LogFormat
  events : List Event
  lastEvents : List Event

/-- What a run of the program shows. When there is no exit code the server runs. -/
structure Report where
  standardError : List String
  log : Option Log
  exitCode : Option Nat

namespace Report

def format (r : Report) : LogFormat := (r.log.map Log.format).getD .json

def events (r : Report) : List Event := (r.log.map Log.events).getD []

def lastEvents (r : Report) : List Event := (r.log.map Log.lastEvents).getD []

end Report

namespace Program

def deploymentVariable : String := "ROLLOUT_ENV"

def defaultDeployment : String := "development"

/-- The variable with a filter that goes before the settings. -/
def filterVariable : String := "RUST_LOG"

def deployment (vars : Environment) : String :=
  (vars.get? deploymentVariable).getD defaultDeployment

/-- The filter of the log and the remarks on it. A filter in the environment counts if nothing is
wrong with it. -/
def logFilter (vars : Environment) (s : LoggingSettings) : LogFilter × List String :=
  match (vars.get? filterVariable).bind LogFilter.ofText? with
  | some f => (f, [])
  | none => (LogFilter.lenient s.level, LogFilter.remarks s.level)

/-- The events of a run with these settings, whether they show or not. -/
def events (deployment : String) (a : Attempt) : List Event :=
  .starting deployment :: a.events ++
    match a.outcome with
    | .ok _ => []
    | .error e => [.serverFailed e.text]

def exitCode (a : Attempt) : Option Nat :=
  match a.outcome with
  | .ok _ => none
  | .error _ => some 1

def run (wording : ConfigFile → String) (files : Directory) (vars : Environment)
    (network : Network) : Report :=
  match Settings.load files vars (deployment vars) with
  | .error e =>
    ⟨[s!"Failed to load configuration: {(StartupError.ofLoad wording e).text}"], none, some 1⟩
  | .ok s =>
    match logFilter vars s.logging with
    | (filter, remarks) =>
      let a := Server.launch network s
      ⟨remarks, some ⟨.ofSetting s.logging.format,
        (events (deployment vars) a).filter filter.shows, a.stopEvents.filter filter.shows⟩,
        exitCode a⟩

end Program
end ErrorBoundary
