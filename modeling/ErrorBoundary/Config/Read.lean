import ErrorBoundary.Config.Path
import ErrorBoundary.Config.Settings
import ErrorBoundary.Decimal.Shortest
import ErrorBoundary.Decimal.Written
import ErrorBoundary.Text.Quoted

/-!
# ErrorBoundary.Config.Read

What a tree of settings means. Numbers and texts stand for each other where the meaning is plain;
what does not fit is refused, with the path to it and, if it stands in a source as it is, with that
source.

* `Misfit`        — a setting that does not fit, with its message.
* `Tree.natural`, `Tree.word`, `Tree.string` — the scalar types.
* `Section.read`  — a section, from a table or from an array of its settings.
* `Settings.ofTree` — all settings.
-/

namespace ErrorBoundary

inductive Present where
  | signed (n : Int)
  | unsigned (n : Nat)
  | bool (b : Bool)
  | integer (n : Int)
  | real (x : Binary64)
  | text (s : String)
  | absent
  | sequence
  | map

namespace Present

def describe : Present → String
  | .signed n => s!"64-bit integer `{n}`"
  | .unsigned n => s!"64-bit unsigned integer `{n}`"
  | .bool b => s!"boolean `{b}`"
  | .integer n => s!"integer `{n}`"
  | .real x =>
    let digits := match x with
      | .finite .. => String.ofList (Binary64.withPoint x.positional.toList)
      | _ => x.positional
    s!"floating point `{digits}`"
  | .text s => s!"string {quote s}"
  | .absent => "unit value"
  | .sequence => "sequence"
  | .map => "map"

end Present

inductive MisfitKind where
  | wrongType (found : Present) (expected : String)
  | unknownClassification (name : String)

/-- A setting that does not fit: what is wrong, where it stands, and where that comes from. -/
structure Misfit where
  kind : MisfitKind
  path : List Step
  origin : Option Origin

namespace MisfitKind

def message : MisfitKind → String
  | .wrongType found expected => s!"invalid type: {found.describe}, expected {expected}"
  | .unknownClassification name =>
    s!"enum ErrorClassification does not have variant constructor {name}"

end MisfitKind

namespace Misfit

def message (e : Misfit) : String :=
  let place := match e.path with
    | [] => ""
    | path => s!" for key `{Step.pathText path}`"
  let source := match e.origin with
    | none => ""
    | some origin => s!" in {origin.text}"
  e.kind.message ++ place ++ source

end Misfit

abbrev SettingReader (α : Type) := List Step → Tree → Except Misfit α

namespace Tree

/-! ## Scalars -/

def misfit (found : Present) (expected : String) (path : List Step) (origin : Option Origin) :
    Except Misfit α :=
  .error ⟨.wrongType found expected, path, origin⟩

def presentOf : Scalar → Present
  | .absent => .absent
  | .bool b => .bool b
  | .integer n => .integer n
  | .real x => .real x
  | .text s => .text s

/-- The number that a text stands for: a word for yes or no, or digits. -/
def naturalOfText? (s : String) : Option Nat :=
  let word := lowerAscii s
  if word = "true" ∨ word = "on" ∨ word = "yes" then some 1
  else if word = "false" ∨ word = "off" ∨ word = "no" then some 0
  else (natOfText? s).filter fun n => n ≤ Binary64.maxNat

/-- A natural number of 64 bits. A double is rounded; a negative whole number is refused. -/
def natural : SettingReader Nat
  | path, .scalar (.integer n) origin =>
    if n < 0 then misfit (.signed n) "an unsigned 64 bit or less integer" path origin
    else .ok n.toNat
  | path, .scalar (.text s) origin =>
    match naturalOfText? s with
    | some n => .ok n
    | none => misfit (.text s) "an integer" path origin
  | _, .scalar (.bool b) _ => .ok b.toNat
  | _, .scalar (.real x) _ => .ok x.roundToNat
  | path, .scalar .absent origin => misfit .absent "an integer" path origin
  | path, .array _ origin => misfit .sequence "an integer" path origin
  | path, .table _ origin => misfit .map "an integer" path origin

/-- A natural number of 16 bits. A larger one is refused, never reduced. -/
def word : SettingReader UInt16
  | path, t =>
    match natural path t with
    | .error e => .error e
    | .ok n =>
      if n < 65536 then .ok (UInt16.ofNat n)
      else misfit (.unsigned n) "an unsigned 16 bit integer" path none

def string : SettingReader String
  | _, .scalar (.text s) _ => .ok s
  | _, .scalar (.bool b) _ => .ok (toString b)
  | _, .scalar (.integer n) _ => .ok (toString n)
  | _, .scalar (.real x) _ => .ok x.positional
  | path, .scalar .absent origin => misfit .absent "a string" path origin
  | path, .array _ origin => misfit .sequence "a string" path origin
  | path, .table _ origin => misfit .map "a string" path origin

end Tree

/-! ## Sections -/

/-- A setting of a section that is being filled in. -/
structure Setting (α : Type) where
  name : String
  write : List Step → Tree → α → Except Misfit α

/-- A setting that reads a part of the section and sets it. -/
def Setting.part (name : String) (read : SettingReader β) (set : β → α → α) : Setting α :=
  ⟨name, fun path t a => (read path t).map fun x => set x a⟩

/-- A section: what holds when nothing is written, and its settings in order. -/
structure Section (α : Type) where
  name : String
  blank : α
  settings : List (Setting α)

namespace Section

/-- A table; settings it does not name keep their value, and names of no setting do not count. -/
def readTable (path : List Step) (members : Members Tree) (value : α) :
    List (Setting α) → Except Misfit α
  | [] => .ok value
  | setting :: rest =>
    match Members.find? setting.name members with
    | none => readTable path members value rest
    | some t =>
      match setting.write (path ++ [.key setting.name]) t value with
      | .error e => .error e
      | .ok value => readTable path members value rest

/-- An array with the settings in order, from the one at `i` on. It may be short or long. -/
def readArray (path : List Step) (i : Nat) (value : α) :
    List (Setting α) → List Tree → Except Misfit α
  | setting :: rest, t :: ts =>
    match setting.write (path ++ [.index i]) t value with
    | .error e => .error e
    | .ok value => readArray path (i + 1) value rest ts
  | _, _ => .ok value

def read (s : Section α) : SettingReader α
  | path, .table members _ => readTable path members s.blank s.settings
  | path, .array items _ => readArray path 0 s.blank s.settings items
  | path, .scalar v _ => Tree.misfit (Tree.presentOf v) s!"struct {s.name}" path none

end Section

namespace ServerSettings

def layout : Section ServerSettings :=
  ⟨record.name, record.blank,
    [.part "host" Tree.string fun v s => { s with host := v },
     .part "port" Tree.word fun v s => { s with port := v }]⟩

end ServerSettings

namespace LoggingSettings

def layout : Section LoggingSettings :=
  ⟨record.name, record.blank,
    [.part "level" Tree.string fun v s => { s with level := v },
     .part "format" Tree.string fun v s => { s with format := v }]⟩

end LoggingSettings

namespace Overrides

def readMembers (path : List Step) (o : Overrides) :
    Members Tree → Except Misfit Overrides
  | [] => .ok o
  | (name, t) :: rest =>
    match Classification.ofName? name with
    | none => .error ⟨.unknownClassification name, path, none⟩
    | some c =>
      match Tree.word (path ++ [.key name]) t with
      | .error e => .error e
      | .ok code => readMembers path (o.insert c code) rest

def ofTree : SettingReader Overrides
  | path, .table members _ => readMembers path empty members
  | path, .array _ _ => Tree.misfit .sequence "a map" path none
  | path, .scalar v _ => Tree.misfit (Tree.presentOf v) "a map" path none

end Overrides

namespace ErrorSettings

def layout : Section ErrorSettings :=
  ⟨record.name, record.blank,
    [.part "default_status" Tree.word fun v s => { s with defaultStatus := v },
     .part "overrides" Overrides.ofTree fun v s => { s with overrides := v }]⟩

end ErrorSettings

namespace Settings

def layout : Section Settings :=
  ⟨record.name, record.blank,
    [.part "server" ServerSettings.layout.read fun v s => { s with server := v },
     .part "logging" LoggingSettings.layout.read fun v s => { s with logging := v },
     .part "errors" ErrorSettings.layout.read fun v s => { s with errors := v }]⟩

def ofTree (t : Tree) : Except Misfit Settings := layout.read [] t

end Settings
end ErrorBoundary
