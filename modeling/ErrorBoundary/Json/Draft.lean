import ErrorBoundary.Json.Basic
import ErrorBoundary.Json.Fault

/-!
# ErrorBoundary.Json.Draft

What can be told of a JSON text before it is known which parts of it matter. A value that is put
to use is held to more rules than one that is skipped: a string must be text, a number must fit a
double. A draft keeps both readings, and a text that breaks off or goes wrong is drafted up to
that place, so that whoever walks through it in order meets the first thing that is wrong.

* `Draft`        — a value as written, or as far as it goes.
* `Draft.ofJson` — the draft of a value, with nothing wrong in it.
* `Draft.skip`   — passing over a value.
* `Draft.read`   — putting a whole value to use.
-/

namespace ErrorBoundary

/-- The place where a text goes wrong, as it shows to one who uses the value there and to one who
skips it. -/
structure Break where
  kept : Fault
  skipped : Fault
deriving DecidableEq

namespace Break

/-- A place that is wrong for everyone in the same way. -/
def both (f : Fault) : Break := ⟨f, f⟩

end Break

/-- A value as far as its text goes. A container that is not closed holds the place where it
breaks, and what comes before. -/
inductive Draft where
  | null
  | bool (b : Bool)
  /-- A number, unless it is too large for a double. -/
  | number (n : Except Fault Number)
  /-- A string, unless it stands for no text. -/
  | string (s : Except Fault String)
  | array (items : List Draft) (stop : Option Break)
  | object (members : List (Except Fault String × Draft)) (stop : Option Break)
  /-- A number or a literal that goes wrong after its first character. -/
  | word (stop : Break)
  /-- No value, or a string that goes wrong. -/
  | broken (stop : Break)

namespace Draft

/-- The place where a value breaks, if it does. -/
def stop? : Draft → Option Break
  | .array _ stop => stop
  | .object _ stop => stop
  | .word stop => some stop
  | .broken stop => some stop
  | _ => none

/-- Passing over a value fails only where its text is no JSON at all. -/
def skip (d : Draft) : Except Fault Unit :=
  match d.stop? with
  | some stop => .error stop.skipped
  | none => .ok ()

/-- The end of a container, for one who has used all that comes before. -/
def finish (stop : Option Break) : Except Fault Unit :=
  match stop with
  | some stop => .error stop.kept
  | none => .ok ()

mutual

def ofJson : Json → Draft
  | .null => .null
  | .bool b => .bool b
  | .number n => .number (.ok n)
  | .string s => .string (.ok s)
  | .array items => .array (ofItems items) none
  | .object members => .object (ofMembers members) none

def ofItems : List Json → List Draft
  | [] => []
  | v :: rest => ofJson v :: ofItems rest

def ofMembers : List (String × Json) → List (Except Fault String × Draft)
  | [] => []
  | (k, v) :: rest => (.ok k, ofJson v) :: ofMembers rest

end

/-- How deep containers may be nested in a value that is put to use. -/
def maxDepth : Nat := 127

mutual

/-- A whole value, with at most `depth` containers inside each other. Keys may repeat; the last
of them counts. -/
def readWithin (depth : Nat) : Draft → Except Fault Json
  | .null => .ok .null
  | .bool b => .ok (.bool b)
  | .number (.ok n) => .ok (.number n)
  | .number (.error f) => .error f
  | .string (.ok s) => .ok (.string s)
  | .string (.error f) => .error f
  | .array items stop =>
    match depth with
    | 0 => .error (.unplaced .tooDeep)
    | depth + 1 =>
      match readItems depth [] items with
      | .error f => .error f
      | .ok vs =>
        match finish stop with
        | .error f => .error f
        | .ok () => .ok (.array vs)
  | .object members stop =>
    match depth with
    | 0 => .error (.unplaced .tooDeep)
    | depth + 1 =>
      match readMembers depth [] members with
      | .error f => .error f
      | .ok ms =>
        match finish stop with
        | .error f => .error f
        | .ok () => .ok (.object (Json.sortMembers ms))
  | .word stop => .error stop.kept
  | .broken stop => .error stop.kept

def readItems (depth : Nat) (done : List Json) : List Draft → Except Fault (List Json)
  | [] => .ok done.reverse
  | d :: rest =>
    match readWithin depth d with
    | .error f => .error f
    | .ok v => readItems depth (v :: done) rest

def readMembers (depth : Nat) (done : List (String × Json)) :
    List (Except Fault String × Draft) → Except Fault (List (String × Json))
  | [] => .ok done.reverse
  | (.error f, _) :: _ => .error f
  | (.ok k, d) :: rest =>
    match readWithin depth d with
    | .error f => .error f
    | .ok v => readMembers depth ((k, v) :: done) rest

end

def read (d : Draft) : Except Fault Json := readWithin maxDepth d

end Draft

/-- A text: the value it begins with, and where something other than blanks follows it. -/
structure Document where
  root : Draft
  trailing : Option Place

namespace Document

def ofJson (v : Json) : Document := ⟨.ofJson v, none⟩

/-- Nothing but blanks may follow the value. -/
def finish (d : Document) : Except Fault Unit :=
  match d.trailing with
  | some place => .error ⟨.trailingCharacters, place⟩
  | none => .ok ()

/-- The value of a text, put to use whole. -/
def read (d : Document) : Except Fault Json :=
  match d.root.read with
  | .error f => .error f
  | .ok v =>
    match d.finish with
    | .error f => .error f
    | .ok () => .ok v

end Document
end ErrorBoundary
