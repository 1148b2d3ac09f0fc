import ErrorBoundary.Decimal.Shortest

/-!
# ErrorBoundary.Json.Basic

JSON values. A number keeps whether it was written as a whole number within 64 bits, because the
settings and classifications accept whole numbers only and never a double that happens to be one.
The members of an object keep their order and may repeat a key; `Json.sorted` is the form in which
each key stands once and the keys increase.
-/

namespace ErrorBoundary

/-- Whole numbers reach from `-2 ^ 63` to `2 ^ 64 - 1`; every other number is a double. -/
inductive Number where
  | whole (n : Int)
  | real (x : Binary64)
deriving DecidableEq

inductive Json where
  | null
  | bool (b : Bool)
  | number (n : Number)
  | string (s : String)
  | array (items : List Json)
  | object (members : List (String × Json))

namespace Json

def nat (n : Nat) : Json := .number (.whole n)

def ofOption (s : Option String) : Json :=
  match s with
  | some s => .string s
  | none => .null

/-- Of neighbours with one key, the last. -/
def keepLast (members : List (String × α)) : List (String × α) :=
  members.foldr (fun m rest =>
    match rest with
    | n :: _ => if m.1 = n.1 then rest else m :: rest
    | [] => [m]) []

/-- Members by increasing key; of several with one key the last stays. -/
def sortMembers (members : List (String × α)) : List (String × α) :=
  keepLast (members.mergeSort fun a b => decide (a.1 ≤ b.1))

def member? (key : String) : Json → Option Json
  | .object members => (members.find? fun m => m.1 = key).map Prod.snd
  | _ => none

def kind : Json → String
  | .null => "null"
  | .bool _ => "bool"
  | .number _ => "number"
  | .string _ => "string"
  | .array _ => "array"
  | .object _ => "object"

end Json
end ErrorBoundary
