import ErrorBoundary.Json.Reader
import ErrorBoundary.Json.Printer

/-!
# ErrorBoundary.Json.Decode

From JSON to the types of the domain. A value decodes either from a tree that is there already or
from a text while it is read; the two differ only where a text has no way to look ahead. Parts are
visited in order and the first thing that is wrong is reported, be it the text or the value.

* `DecodeError`   — a value of the wrong shape, with its message.
* `Rejection`     — a fault of the text, or a wrong shape.
* `Decode.string`, `Decode.bool`, `Decode.word`, `Decode.optional` — the scalar types.
* `Record.decode` — a record, from an object or from an array of its fields.
-/

namespace ErrorBoundary

/-- What stands where something else was expected. -/
inductive Found where
  | null
  | bool (b : Bool)
  | number (n : Number)
  | string (s : String)
  | sequence
  | map

inductive DecodeError where
  | wrongType (found : Found) (expected : String)
  | outOfRange (n : Int) (expected : String)
  | notOneKey
  | unknownName (name : String) (known : List String)
  | duplicateField (name : String)
  | missingField (name : String)
  | badLength (length : Nat) (expected : String)

/-- A value is refused for its text or for its shape. -/
inductive Rejection where
  | fault (f : Fault)
  | mismatch (e : DecodeError)

inductive Form where
  | tree
  | text
deriving DecidableEq

namespace Found

def text : Found → String
  | .null => "null"
  | .bool b => s!"boolean `{b}`"
  | .number (.whole n) => s!"integer `{n}`"
  | .number (.real x) => s!"floating point `{x.scientific}`"
  | .string s => s!"string {quote s}"
  | .sequence => "sequence"
  | .map => "map"

end Found

namespace DecodeError

def message : DecodeError → String
  | .wrongType found expected => s!"invalid type: {found.text}, expected {expected}"
  | .outOfRange n expected => s!"invalid value: integer `{n}`, expected {expected}"
  | .notOneKey => "invalid value: map, expected map with a single key"
  | .unknownName name known =>
    let names := ", ".intercalate (known.map fun k => s!"`{k}`")
    s!"unknown variant `{name}`, expected one of {names}"
  | .duplicateField name => s!"duplicate field `{name}`"
  | .missingField name => s!"missing field `{name}`"
  | .badLength length expected => s!"invalid length {length}, expected {expected}"

end DecodeError

namespace Rejection

def message : Rejection → String
  | .fault f => f.message
  | .mismatch e => e.message

end Rejection

abbrev Decoder (α : Type) := Form → Draft → Except Rejection α

namespace Decode

/-- What stands in a place, told as far as a message needs it: a container is not looked into. -/
def found : Draft → Except Fault Found
  | .null => .ok .null
  | .bool b => .ok (.bool b)
  | .number (.ok n) => .ok (.number n)
  | .number (.error f) => .error f
  | .string (.ok s) => .ok (.string s)
  | .string (.error f) => .error f
  | .array _ _ => .ok .sequence
  | .object _ _ => .ok .map
  | .word stop => .error stop.kept
  | .broken stop => .error stop.kept

def wrongType (expected : String) (d : Draft) : Rejection :=
  match found d with
  | .ok x => .mismatch (.wrongType x expected)
  | .error f => .fault f

def string : Decoder String
  | _, .string (.ok s) => .ok s
  | _, d => .error (wrongType "a string" d)

def bool : Decoder Bool
  | _, .bool b => .ok b
  | _, d => .error (wrongType "a boolean" d)

/-- A whole number of 16 bits. No other number is taken for one. -/
def word : Decoder UInt16
  | _, .number (.ok (.whole n)) =>
    if 0 ≤ n ∧ n < 65536 then .ok (UInt16.ofNat n.toNat)
    else .error (.mismatch (.outOfRange n "u16"))
  | _, d => .error (wrongType "u16" d)

/-- `null` stands for no value. -/
def optional (decode : Decoder α) : Decoder (Option α)
  | _, .null => .ok none
  | form, d => (decode form d).map some

/-- The end of a container whose parts have all been visited. -/
def finish (stop : Option Break) : Except Rejection Unit :=
  match Draft.finish stop with
  | .ok () => .ok ()
  | .error f => .error (.fault f)

end Decode

/-! ## Records -/

/-- A field of a record that is being filled in. -/
structure Field (α : Type) where
  name : String
  /-- An object may leave the field out. -/
  mayMiss : Bool
  write : Form → Draft → α → Except Rejection α

/-- A record type: a blank value and the fields in their order. -/
structure Record (α : Type) where
  name : String
  blank : α
  fields : List (Field α)
  /-- An array may leave out fields at the end. -/
  mayBeShort : Bool

namespace Record

def expected (r : Record α) : String := s!"struct {r.name}"

def expectedLength (r : Record α) : String :=
  match r.fields.length with
  | 1 => s!"struct {r.name} with 1 element"
  | n => s!"struct {r.name} with {n} elements"

def field? (r : Record α) (key : String) : Option (Field α) :=
  r.fields.find? fun f => f.name = key

/-- The members of an object, in their order: a field is written once, any other member is passed
over. The second part is the keys of the fields written. -/
def writeMembers (r : Record α) (form : Form) (value : α) (seen : List String) :
    List (Except Fault String × Draft) → Except Rejection (α × List String)
  | [] => .ok (value, seen)
  | (.error f, _) :: _ => .error (.fault f)
  | (.ok key, d) :: rest =>
    match r.field? key with
    | none =>
      match d.skip with
      | .error f => .error (.fault f)
      | .ok () => writeMembers r form value seen rest
    | some field =>
      if seen.contains key then .error (.mismatch (.duplicateField key))
      else
        match field.write form d value with
        | .error e => .error e
        | .ok value' => writeMembers r form value' (key :: seen) rest

def missing? (r : Record α) (seen : List String) : Option String :=
  (r.fields.find? fun f => !f.mayMiss && !seen.contains f.name).map Field.name

/-- The items of an array, one for each field. A tree tells how many items are too many; a text
ends where the bracket should have closed. -/
def writeItems (r : Record α) (form : Form) (total : Nat) (stop : Option Break) (value : α) :
    List (Field α) → List Draft → Except Rejection α
  | [], [] =>
    match Decode.finish stop with
    | .error e => .error e
    | .ok () => .ok value
  | [], _ :: _ =>
    match form with
    | .tree => .error (.mismatch (.badLength total "fewer elements in array"))
    | .text => .error (.fault (.unplaced .trailingCharacters))
  | fields, [] =>
    match Decode.finish stop with
    | .error e => .error e
    | .ok () =>
      if r.mayBeShort then .ok value
      else .error (.mismatch (.badLength (r.fields.length - fields.length) r.expectedLength))
  | field :: fields, d :: rest =>
    match field.write form d value with
    | .error e => .error e
    | .ok value' => writeItems r form total stop value' fields rest

/-- A record, from an object or from an array of its fields in order. -/
def decode (r : Record α) : Decoder α
  | form, .object members stop =>
    match r.writeMembers form r.blank [] members with
    | .error e => .error e
    | .ok (value, seen) =>
      match Decode.finish stop with
      | .error e => .error e
      | .ok () =>
        match r.missing? seen with
        | some name => .error (.mismatch (.missingField name))
        | none => .ok value
  | form, .array items stop => r.writeItems form items.length stop r.blank r.fields items
  | _, d => .error (Decode.wrongType r.expected d)

end Record

namespace Decode

def tree (decode : Decoder α) (v : Json) : Except Rejection α := decode .tree (.ofJson v)

/-- A text that is read as it is decoded; nothing may follow the value. -/
def document (decode : Decoder α) (d : Document) : Except Rejection α :=
  match decode .text d.root with
  | .error e => .error e
  | .ok a =>
    match d.finish with
    | .error f => .error (.fault f)
    | .ok () => .ok a

end Decode
end ErrorBoundary
