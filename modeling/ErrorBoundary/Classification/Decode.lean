import ErrorBoundary.Classification
import ErrorBoundary.Json.Decode

/-!
# ErrorBoundary.Classification.Decode

A classification in JSON: its name as a string, or an object with the name as its one key and
nothing, that is `null`, under it.
-/

namespace ErrorBoundary
namespace Classification

/-- The classification of a name, or the list of names there are. -/
def named (s : String) : Except Rejection Classification :=
  match ofName? s with
  | some c => .ok c
  | none => .error (.mismatch (.unknownName s (all.map name)))

/-- What stands under the name in an object. -/
def nothing : Draft → Except Rejection Unit
  | .null => .ok ()
  | d => .error (Decode.wrongType "unit" d)

/-- The object form. A tree shows at once how many keys there are; a text shows it only behind the
first one. -/
def decodeObject (form : Form) (members : List (Except Fault String × Draft))
    (stop : Option Break) : Except Rejection Classification :=
  match form, members with
  | .tree, [(.ok key, d)] =>
    match named key with
    | .error e => .error e
    | .ok c =>
      match nothing d with
      | .error e => .error e
      | .ok () => .ok c
  | .tree, _ => .error (.mismatch .notOneKey)
  | .text, [] =>
    match Decode.finish stop with
    | .error e => .error e
    | .ok () => .error (.fault (.unplaced .noValue))
  | .text, (.error f, _) :: _ => .error (.fault f)
  | .text, (.ok key, d) :: rest =>
    match named key with
    | .error e => .error e
    | .ok c =>
      match nothing d with
      | .error e => .error e
      | .ok () =>
        match rest with
        | _ :: _ => .error (.fault (.unplaced .noValue))
        | [] =>
          match Decode.finish stop with
          | .error e => .error e
          | .ok () => .ok c

def decode : Decoder Classification
  | _, .string (.ok s) => named s
  | _, .string (.error f) => .error (.fault f)
  | _, .broken stop => .error (.fault stop.kept)
  | form, .object members stop => decodeObject form members stop
  | .tree, d => .error (Decode.wrongType "string or map" d)
  | .text, _ => .error (.fault (.unplaced .noValue))

def toJson (c : Classification) : Json := .string c.name

end Classification
end ErrorBoundary
