import ErrorBoundary.Decimal.Written
import ErrorBoundary.Event
import ErrorBoundary.Text.Alphanumeric
import ErrorBoundary.Text.Blank
import ErrorBoundary.Text.Utf8

/-!
# ErrorBoundary.Launch.Directive

One directive of a log filter. It is a level, or it has up to three parts: the name with which
targets begin, in brackets a span and in braces one of its fields, and behind an equals sign the
level.

* `Verbosity.ofText?` — the level of a name or a number.
* `Directive.ofText`  — a directive, or what is wrong with it.
* `Directive.covers`  — whether a directive is about an event.
-/

namespace ErrorBoundary

/-- How many of the five levels show, the gravest first; none when nothing shows. -/
abbrev Verbosity := Nat

namespace Level

def verbosity : Level → Verbosity
  | .error => 1
  | .warn => 2
  | .info => 3
  | .debug => 4
  | .trace => 5

end Level

namespace Verbosity

/-- The verbosity at which everything shows. -/
def full : Verbosity := 5

def ofText? (s : String) : Option Verbosity :=
  match natOfText? s with
  | some n => if n ≤ full then some n else none
  | none =>
    let name := lowerAscii s
    if name = "off" then some 0
    else if name = "error" then some 1
    else if name = "warn" then some 2
    else if name = "info" then some 3
    else if name = "debug" then some 4
    else if name = "trace" then some 5
    else none

end Verbosity

/-- A field by name, and its value if one is asked for. -/
structure FieldTest where
  name : String
  value : Option String
deriving DecidableEq

namespace FieldTest

/-- A name, or a name and a value with an equals sign between them; a second such sign ends the
value. -/
def ofText (s : String) : FieldTest :=
  let cs := s.toList
  let name := String.ofList (cs.takeWhile (· != '='))
  match cs.dropWhile (· != '=') with
  | [] => ⟨name, none⟩
  | _ :: rest => ⟨name, some (String.ofList (rest.takeWhile (· != '=')))⟩

end FieldTest

structure Directive where
  target : Option String
  span : Option String
  field : Option FieldTest
  verbosity : Verbosity
deriving DecidableEq

inductive DirectiveError where
  | malformed
  | badLevel
deriving DecidableEq

namespace DirectiveError

def message : DirectiveError → String
  | .malformed => "invalid filter directive"
  | .badLevel =>
    "error parsing level filter: expected one of \"off\", \"error\", \"warn\", \"info\", " ++
    "\"debug\", \"trace\", or a number 0-5"

end DirectiveError

/-- Which part of a directive is being read. The bytes of an open part begin at `start`. -/
inductive DirectivePhase where
  | start
  /-- A level or a target. -/
  | word
  | span (start : Nat)
  | field (start : Nat)
  /-- The bracket behind a field is due. -/
  | closing
  /-- The brackets are closed. -/
  | closed
  | level (start : Nat)

namespace Directive

def blank : Directive := ⟨none, none, none, .full⟩

/-- A character that a directive may begin with. -/
def mayBegin (c : Char) : Bool := isAlphanumeric c || c == '-' || c == ':' || c == '_'

/-- The bytes of a text from `start` to `stop`, unless one of these is inside a character. -/
def slice (text : List Char) (start stop : Nat) : Except DirectiveError String :=
  match (Utf8.dropBytes? start text).bind (Utf8.takeBytes? (stop - start)) with
  | some cs => .ok (String.ofList cs)
  | none => .error .malformed

/-- One character, whose first byte is at `place`. -/
def step (text : List Char) (d : Directive) (phase : DirectivePhase) (place : Nat) (c : Char) :
    Except DirectiveError (Directive × DirectivePhase) :=
  match phase with
  | .start =>
    if c = '[' then .ok (d, .span (place + 1))
    else if mayBegin c then .ok (d, .word)
    else .error .malformed
  | .word =>
    if c = '=' then
      (slice text 0 place).map fun s => ({ d with target := some s }, .level (place + 1))
    else if c = '[' then
      (slice text 0 place).map fun s => ({ d with target := some s }, .span (place + 1))
    else .ok (d, phase)
  | .span start =>
    if c = ']' then
      (slice text start place).map fun s => ({ d with span := some s }, .closed)
    else if c = '\x7b' then
      (slice text start place).map fun s =>
        ({ d with span := if s.isEmpty then none else some s }, .field (place + 1))
    else .ok (d, phase)
  | .field start =>
    if c = '\x7d' then
      match slice text start place with
      | .error e => .error e
      | .ok s =>
        if s.isEmpty then .error .malformed
        else .ok ({ d with field := some (.ofText s) }, .closing)
    else .ok (d, phase)
  | .closing => if c = ']' then .ok (d, .closed) else .error .malformed
  | .closed => if c = '=' then .ok (d, .level (place + 1)) else .error .malformed
  | .level _ => .ok (d, phase)

/-- The end of a directive. A word that is no level names a target, which then shows everything; so
does a directive with no level at all. -/
def finish (text : List Char) (d : Directive) (phase : DirectivePhase) :
    Except DirectiveError Directive :=
  match phase with
  | .word =>
    match Verbosity.ofText? (String.ofList text) with
    | some v => .ok { d with verbosity := v }
    | none => .ok { d with target := some (String.ofList text) }
  | .level start =>
    match Utf8.dropBytes? start text with
    | none => .error .malformed
    | some [] => .ok d
    | some level =>
      match Verbosity.ofText? (String.ofList level) with
      | some v => .ok { d with verbosity := v }
      | none => .error .badLevel
  | .closed => .ok d
  | _ => .error .malformed

def scan (text : List Char) (d : Directive) (phase : DirectivePhase) (place : Nat) :
    List Char → Except DirectiveError Directive
  | [] => finish text d phase
  | c :: rest =>
    match step text d phase place c with
    | .error e => .error e
    | .ok (d, phase) => scan text d phase (place + c.utf8Size) rest

/-- A directive. The signs between its parts are looked for in the text without the blanks around
it, but the parts themselves are cut out of the whole text at the places so found: blanks in front
move every part. -/
def ofText (s : String) : Except DirectiveError Directive :=
  scan s.toList blank .start 0 (trimmed s.toList)

/-- Whether a directive can be about events at all, not only about spans. -/
def isForEvents (d : Directive) : Bool := d.span.isNone && d.field.all fun f => f.value.isNone

/-- Whether a directive is about an event: its target begins with the name, and it has the field.
The message counts as a field, and so does the time that a request took, whatever it is. -/
def covers (d : Directive) (e : Event) : Bool :=
  d.isForEvents && d.target.all (fun name => name.toList.isPrefixOf e.target.toList) &&
    d.field.all fun f => f.name == "message" || (e.timedFields 0).any fun m => m.1 == f.name

/-- How special the targets are that a directive is for. -/
def reach (d : Directive) : Nat :=
  match d.target with
  | none => 0
  | some name => name.utf8ByteSize + 1

/-- The name of the field that a directive asks for, empty if it asks for none. -/
def fieldName (d : Directive) : String :=
  match d.field with
  | none => ""
  | some f => f.name

/-- Whether a directive decides instead of one that stands before it, where both are about an
event: the one for more special targets does, or else the one with the greater field name, or else
the later. -/
def overrules (d before : Directive) : Bool :=
  decide (before.reach < d.reach) ||
    (before.reach == d.reach && decide (before.fieldName ≤ d.fieldName))

end Directive
end ErrorBoundary
