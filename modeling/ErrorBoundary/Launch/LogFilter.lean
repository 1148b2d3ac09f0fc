import ErrorBoundary.Launch.Directive

/-!
# ErrorBoundary.Launch.LogFilter

Which events the log shows. A filter is a list of directives with commas between them. Of those
that are about an event one decides, and an event that none is about does not show.

* `LogFilter.ofText?` — a filter without a wrong directive.
* `LogFilter.lenient` — a filter that passes over wrong directives.
* `LogFilter.remarks` — what there is to say about those.
* `LogFilter.shows`   — whether an event shows.
-/

namespace ErrorBoundary

structure LogFilter where
  directives : List Directive

namespace LogFilter

def parts (s : String) : List String :=
  ((s.toList.splitOn ',').map String.ofList).filter fun p => !p.isEmpty

def ofParts? : List String → Option (List Directive)
  | [] => some []
  | p :: rest =>
    match Directive.ofText p with
    | .error _ => none
    | .ok d => (ofParts? rest).map (d :: ·)

/-- A filter without any directive shows nothing. -/
def ofText? (s : String) : Option LogFilter := (ofParts? (parts s)).map LogFilter.mk

def errors : Directive := { Directive.blank with verbosity := Level.error.verbosity }

/-- The filter of the directives that are right; where there are none, errors show. -/
def lenient (s : String) : LogFilter :=
  match (parts s).filterMap fun p => (Directive.ofText p).toOption with
  | [] => ⟨[errors]⟩
  | ds => ⟨ds⟩

/-- A remark on each directive that is passed over. -/
def remarks (s : String) : List String :=
  (parts s).filterMap fun p =>
    match Directive.ofText p with
    | .error e => some s!"ignoring `{p}`: {e.message}"
    | .ok _ => none

/-- Of two directives the one that decides, the second coming later. -/
def heavier (best : Option Directive) (d : Directive) : Option Directive :=
  match best with
  | none => some d
  | some b => if d.overrules b then some d else some b

/-- The directive that decides about an event. -/
def decisive? (f : LogFilter) (e : Event) : Option Directive :=
  (f.directives.filter fun d => d.covers e).foldl heavier none

def shows (f : LogFilter) (e : Event) : Bool :=
  match f.decisive? e with
  | none => false
  | some d => e.level.verbosity ≤ d.verbosity

end LogFilter
end ErrorBoundary
