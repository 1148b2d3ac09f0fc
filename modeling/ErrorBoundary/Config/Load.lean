import ErrorBoundary.Config.Environment
import ErrorBoundary.Config.File
import ErrorBoundary.Config.Read
import ErrorBoundary.Failure.Startup

/-!
# ErrorBoundary.Config.Load

The settings of a deployment. Three sources are laid over each other: the default file, the file
of the deployment, and the variables of the environment. A file that is missing says nothing.

* `Config.entries` — what the sources say, the weakest first.
* `Settings.load`   — the settings that come of it.
-/

namespace ErrorBoundary

inductive LoadError where
  /-- A file that is no text of its format. -/
  | unreadable (file : ConfigFile)
  | misfit (e : Misfit)

namespace LoadError

/-- The reader of a format says in its own words what is wrong with a text; these are `wording`. -/
def message (wording : ConfigFile → String) : LoadError → String
  | .unreadable f =>
    let e : SettingsError := .file (wording f) (some f.path)
    s!"Failed to build config: {e.text}"
  | .misfit e => s!"Failed to deserialize config: {e.message}"

end LoadError

namespace Config

/-- The name of the file that every deployment shares. -/
def defaultName : String := "default"

def fileEntries (files : Directory) (name : String) : Except LoadError (List Tree.Entry) :=
  match ConfigFile.locate? files name with
  | none => .ok []
  | some f =>
    match f.entries? with
    | none => .error (.unreadable f)
    | some entries => .ok entries

/-- What all sources of a deployment say; what comes later wins. -/
def entries (files : Directory) (vars : Environment) (deployment : String) :
    Except LoadError (List Tree.Entry) :=
  match fileEntries files defaultName with
  | .error e => .error e
  | .ok shared =>
    match fileEntries files deployment with
    | .error e => .error e
    | .ok own => .ok (shared ++ own ++ Environment.entries vars)

end Config

namespace Settings

def ofEntries (entries : List Tree.Entry) : Except Misfit Settings :=
  ofTree (Tree.empty.apply entries)

def load (files : Directory) (vars : Environment) (deployment : String) :
    Except LoadError Settings :=
  match Config.entries files vars deployment with
  | .error e => .error e
  | .ok entries =>
    match ofEntries entries with
    | .error e => .error (.misfit e)
    | .ok s => .ok s

end Settings

namespace StartupError

def ofLoad (wording : ConfigFile → String) (e : LoadError) : StartupError :=
  configuration (e.message wording)

end StartupError
end ErrorBoundary
