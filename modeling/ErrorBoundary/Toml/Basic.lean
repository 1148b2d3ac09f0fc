import ErrorBoundary.Decimal.Binary64
import ErrorBoundary.Members
import ErrorBoundary.Toml.Moment

/-!
# ErrorBoundary.Toml.Basic

The values of a TOML document, and the tables of one that is still being written. Headers and
dotted keys make tables as they go, and how a table was made decides what may still be added to
it.

* `Toml`            — a value.
* `TomlNode`        — what stands under a key while the document is being read.
* `TomlNode.within` — the tables that a path leads through.
* `TomlNode.assign`, `TomlNode.openTable`, `TomlNode.openElement` — the three statements.
-/

namespace ErrorBoundary

inductive Toml where
  | string (s : String)
  | integer (n : Int)
  | real (x : Binary64)
  | bool (b : Bool)
  | moment (m : Moment)
  | array (items : List Toml)
  | table (members : List (String × Toml))

/-- How a table came to be: by a header of its own, on the way to one, or by a dotted key. -/
inductive TableOrigin where
  | header
  | implied
  | dotted
deriving DecidableEq

/-- What stands under a key. Of an array of tables only the last can still grow. -/
inductive TomlNode where
  | value (v : Toml)
  | table (origin : TableOrigin) (members : List (String × TomlNode))
  | tables (earlier : List Toml) (last : List (String × TomlNode))

namespace TomlNode

mutual

def toToml : TomlNode → Toml
  | .value v => v
  | .table _ members => .table (sealMembers members)
  | .tables earlier last => .array (earlier ++ [.table (sealMembers last)])

def sealMembers : List (String × TomlNode) → List (String × Toml)
  | [] => []
  | (key, node) :: rest => (key, node.toToml) :: sealMembers rest

end

/-- Changes the members at the end of a path and makes the tables that are missing on it. A step
into an array of tables enters the last one. Dotted keys may not enter a table that has a header,
nor end in an array of tables; the table that they end in counts as made by them. -/
def within (dotted : Bool) (change : Members TomlNode → Option (Members TomlNode)) :
    List String → Members TomlNode → Option (Members TomlNode)
  | [], members => change members
  | key :: path, members =>
    match Members.find? key members with
    | none =>
      (within dotted change path []).map fun inner =>
        Members.put key (.table (if dotted then .dotted else .implied) inner) members
    | some (.table origin inner) =>
      if dotted ∧ origin = .header then none
      else
        (within dotted change path inner).map fun inner =>
          Members.put key (.table (if dotted ∧ path = [] then .dotted else origin) inner) members
    | some (.tables earlier last) =>
      if dotted ∧ path = [] then none
      else
        (within dotted change path last).map fun last =>
          Members.put key (.tables earlier last) members
    | some (.value _) => none

/-- Writes a value under a dotted key. A key is written once. -/
def assign (path : List String) (key : String) (v : Toml) :
    Members TomlNode → Option (Members TomlNode) :=
  within true (fun members =>
    if (Members.find? key members).isSome then none
    else some (Members.put key (.value v) members)) path

/-- The table that a header names. It may stand on the way to an earlier header already. -/
def openTable (path : List String) (key : String) :
    Members TomlNode → Option (Members TomlNode) :=
  within false (fun members =>
    match Members.find? key members with
    | none => some (Members.put key (.table .header []) members)
    | some (.table .implied inner) => some (Members.put key (.table .header inner) members)
    | _ => none) path

/-- One more table in the array of tables that a header names. -/
def openElement (path : List String) (key : String) :
    Members TomlNode → Option (Members TomlNode) :=
  within false (fun members =>
    match Members.find? key members with
    | none => some (Members.put key (.tables [] []) members)
    | some (.tables earlier last) =>
      some (Members.put key (.tables (earlier ++ [.table (sealMembers last)]) []) members)
    | _ => none) path

end TomlNode
end ErrorBoundary
