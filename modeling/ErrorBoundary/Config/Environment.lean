import ErrorBoundary.Config.Path
import ErrorBoundary.Decimal.Written
import ErrorBoundary.Text.Utf8

/-!
# ErrorBoundary.Config.Environment

Settings in environment variables. `ROLLOUT__SERVER__PORT` writes `server.port`; the case of the
name does not matter. A value that reads as a truth value or as a number is one.

* `Scalar.ofVariable`    — the value of a variable.
* `Environment.path?`    — the path that a variable writes to.
* `Environment.entries`  — what all variables say.
* `Environment.ofBlock`  — the variables as the system hands them over.
-/

namespace ErrorBoundary

abbrev Environment := List (String × String)

/-- A truth value, a whole number of 64 bits, a double, or else the text itself. -/
def Scalar.ofVariable (s : String) : Scalar :=
  let name := lowerAscii s
  if name = "true" then .bool true
  else if name = "false" then .bool false
  else
    match (intOfText? s).filter fun n => decide (IsSigned64 n) with
    | some n => .integer n
    | none =>
      match Binary64.ofText? s with
      | some x => .real x
      | none => .text s

namespace Environment

/-- The beginning of the names that are settings, in lower case. -/
def beginning : List Char := "rollout__".toList

/-- Lower case. The Kelvin sign is the one character outside ASCII whose lower case is an ASCII
letter; no other can be part of a setting's name. -/
def lower (c : Char) : Char := if c = '\u212a' then 'k' else c.toLower

def separate : List Char → List Char
  | '_' :: '_' :: rest => '.' :: separate rest
  | c :: rest => c :: separate rest
  | [] => []

/-- The path that a variable of this name writes to, unless the name is no setting's. -/
def path? (name : String) : Option (List Step) :=
  let cs := name.toList.map lower
  if cs.take beginning.length = beginning then
    some (Step.ofText (String.ofList (separate (cs.drop beginning.length))))
  else none

def entry? (v : String × String) : Option Tree.Entry :=
  (path? v.1).map fun path => ⟨path, .scalar (.ofVariable v.2) (some .environment)⟩

/-- What the variables say, in their order: of two names of one path the later counts. -/
def entries (vars : Environment) : List Tree.Entry := vars.filterMap entry?

def splitZeros (bytes : List UInt8) : List (List UInt8) :=
  let (last, before) := bytes.foldr (fun b (part, parts) =>
    if b = 0 then ([], part :: parts) else (b :: part, parts)) ([], [])
  last :: before

/-- A variable written as its name, an equals sign and its value. -/
def assignment? (s : String) : Option (String × String) :=
  let cs := s.toList
  let name := cs.takeWhile (· != '=')
  match cs.dropWhile (· != '=') with
  | _ :: value => if name.isEmpty then none else some (String.ofList name, String.ofList value)
  | [] => none

/-- The variables of a block with a zero byte behind each. One that is no text is left out. -/
def ofBlock (bytes : List UInt8) : Environment :=
  (splitZeros bytes).filterMap fun part => (Utf8.decode? part).bind assignment?

def get? (name : String) (vars : Environment) : Option String := Members.find? name vars

end Environment
end ErrorBoundary
