import ErrorBoundary.Boundary.Extract
import ErrorBoundary.Boundary.Server
import ErrorBoundary.Text.Percent

/-!
# ErrorBoundary.Showcase

A small API behind the boundary, with a route for each way in which a request can end: classified
errors, errors without a classification, bodies that do not decode, uploads that break off.
-/

namespace ErrorBoundary
namespace Showcase

structure NewTarget where
  controllerId : String
deriving DecidableEq

namespace NewTarget

def record : Record NewTarget where
  name := "NewTarget"
  blank := ⟨""⟩
  fields := [⟨"controllerId", false,
    fun form d t => (Decode.string form d).map fun v => { t with controllerId := v }⟩]
  mayBeShort := false

def decode : Decoder NewTarget := record.decode

def toJson (t : NewTarget) : Json := .object [("controllerId", .string t.controllerId)]

end NewTarget

def anyJson : Decoder Json := fun _ d =>
  match d.read with
  | .ok v => .ok v
  | .error f => .error (.fault f)

def answer (v : Json) : Response := .json .ok v.compact

def createTarget (limit : Nat) : Handler :=
  .takingJson limit NewTarget.decode fun t => .pure (answer t.toJson)

/-- A target that cannot be had, for the reason that its name gives. -/
def targetError (id : String) : ServerError :=
  if id = "duplicate" then .entityAlreadyExists s!"Target {id} already exists"
  else if id = "forbidden" then .insufficientPermission "Missing READ_TARGET"
  else if id = "locked" then .entityLocked s!"Target {id} is locked"
  else .entityNotExists s!"Target {id} does not exist"

def readTarget (captured : List String) : Handler :=
  match Percent.decodeText? (captured.head?.getD "") with
  | some id => .pure (.ofError (.server (targetError id)))
  | none => .pure (.text .badRequest "Invalid URL: Invalid UTF-8 in `id`")

def partJson (p : Part) : Json :=
  .array [.ofOption p.name, .ofOption p.fileName, .nat p.data.length]

def uploadArtifacts : Handler := .ofExcept fun r =>
  (r.multipart Request.defaultLimit).map fun parts =>
    answer (.object [("parts", .array (parts.map partJson))])

/-- The storage is never there. -/
def readStorage : Handler := .pure (.ofError (.ofInputOutput (.message "storage unavailable")))

def kindOfBody : Handler :=
  .takingJson Request.defaultLimit anyJson fun v => .pure (answer (.string v.kind))

/-- Raises the classification that the body names. -/
def raise : Handler :=
  .takingJson Request.defaultLimit Classification.decode fun c =>
    .pure (.ofError (.server (.new c)))

def echoErrorSettings : Handler :=
  .takingJson Request.defaultLimit ErrorSettings.decode fun s => .pure (answer s.toJson.sorted)

def parseText : Handler := .ofExcept fun r =>
  match r.text Request.defaultLimit with
  | .error response => .ok response
  | .ok s =>
    match Json.ofText s with
    | .ok v => .ok (answer (.bool (v.kind == "object")))
    | .error f => .error (.ofJson f.message)

def smallLimit : Nat := 32

def routes : List Route := [
  ⟨[.literal "targets"], .post, fun _ => createTarget Request.defaultLimit⟩,
  ⟨[.literal "targets", .capture], .get, readTarget⟩,
  ⟨[.literal "artifacts"], .post, fun _ => uploadArtifacts⟩,
  ⟨[.literal "storage"], .get, fun _ => readStorage⟩,
  ⟨[.literal "any"], .post, fun _ => kindOfBody⟩,
  ⟨[.literal "raise"], .post, fun _ => raise⟩,
  ⟨[.literal "errors"], .post, fun _ => echoErrorSettings⟩,
  ⟨[.literal "parse"], .post, fun _ => parseText⟩,
  ⟨[.literal "small"], .post, fun _ => createTarget smallLimit⟩]

end Showcase
end ErrorBoundary
