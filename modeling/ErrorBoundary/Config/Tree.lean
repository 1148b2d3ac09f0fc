import ErrorBoundary.Json.Basic
import ErrorBoundary.Members
import ErrorBoundary.Toml.Basic

/-!
# ErrorBoundary.Config.Tree

Settings as they are written, before they mean anything: a tree whose parts remember where they
come from. Sources are laid over each other, one after the other.

* `Tree.merge` — tables are merged key by key, anything else replaces what was there.
* `Tree.set`   — lays a tree over what stands at a path, and makes the way there.
* `Tree.apply` — all that a source says, in order.
-/

namespace ErrorBoundary

inductive Origin where
  | file (path : String)
  | environment
deriving DecidableEq

namespace Origin

def text : Origin → String
  | .file path => path
  | .environment => "the environment"

end Origin

/-- A setting without parts. -/
inductive Scalar where
  | absent
  | bool (b : Bool)
  | integer (n : Int)
  | real (x : Binary64)
  | text (s : String)
deriving DecidableEq

/-- A part that was only made to hold others has no origin. -/
inductive Tree where
  | scalar (v : Scalar) (origin : Option Origin)
  | array (items : List Tree) (origin : Option Origin)
  | table (members : List (String × Tree)) (origin : Option Origin)

/-- A step on the way to a setting. An index counts from the end when it is negative. -/
inductive Step where
  | key (name : String)
  | index (i : Int)
deriving DecidableEq

namespace Tree

/-- What stands where nothing was written. -/
def absent : Tree := .scalar .absent none

def empty : Tree := .table [] none

/-! ## From the formats -/

mutual

/-- Every part of a file has the file as its origin. -/
def ofToml (origin : Origin) : Toml → Tree
  | .string s => .scalar (.text s) (some origin)
  | .integer n => .scalar (.integer n) (some origin)
  | .real x => .scalar (.real x) (some origin)
  | .bool b => .scalar (.bool b) (some origin)
  | .moment m => .scalar (.text m.text) (some origin)
  | .array items => .array (ofTomlItems origin items) (some origin)
  | .table members => .table (ofTomlMembers origin members) (some origin)

def ofTomlItems (origin : Origin) : List Toml → List Tree
  | [] => []
  | v :: rest => ofToml origin v :: ofTomlItems origin rest

def ofTomlMembers (origin : Origin) : List (String × Toml) → List (String × Tree)
  | [] => []
  | (key, v) :: rest => (key, ofToml origin v) :: ofTomlMembers origin rest

end

mutual

def ofJson (origin : Origin) : Json → Tree
  | .null => .scalar .absent (some origin)
  | .bool b => .scalar (.bool b) (some origin)
  | .number (.whole n) => .scalar (.integer n) (some origin)
  | .number (.real x) => .scalar (.real x) (some origin)
  | .string s => .scalar (.text s) (some origin)
  | .array items => .array (ofJsonItems origin items) (some origin)
  | .object members => .table (ofJsonMembers origin members) (some origin)

def ofJsonItems (origin : Origin) : List Json → List Tree
  | [] => []
  | v :: rest => ofJson origin v :: ofJsonItems origin rest

def ofJsonMembers (origin : Origin) : List (String × Json) → List (String × Tree)
  | [] => []
  | (key, v) :: rest => (key, ofJson origin v) :: ofJsonMembers origin rest

end

/-! ## Laying one over another -/

/-- The members of a table and its origin; anything else gives way to a new table. -/
def members : Tree → Members Tree × Option Origin
  | .table ms origin => (ms, origin)
  | _ => ([], none)

/-- The items of an array and its origin; anything else gives way to a new array. -/
def items : Tree → List Tree × Option Origin
  | .array ts origin => (ts, origin)
  | _ => ([], none)

mutual

/-- `below.merge top` is what holds when `top` is written over `below`. -/
def merge (below : Tree) : Tree → Tree
  | .table ms _ =>
    match below.members with
    | (old, origin) => .table (mergeMembers old ms) origin
  | top => top

def mergeMembers (old : Members Tree) : List (String × Tree) → Members Tree
  | [] => old
  | (key, t) :: rest =>
    mergeMembers (Members.put key (((Members.find? key old).getD absent).merge t) old) rest

end

/-- The items with room for an index, and where it points. Nothing stands in the new places. -/
def slot (i : Int) (ts : List Tree) : List Tree × Nat :=
  if 0 ≤ i then (ts ++ List.replicate (i.toNat + 1 - ts.length) absent, i.toNat)
  else if 0 ≤ i + ts.length then (ts, (i + ts.length).toNat)
  else (List.replicate (-(i + ts.length)).toNat absent ++ ts, 0)

/-- Lays `top` over what stands at the end of a path. -/
def set (top : Tree) : List Step → Tree → Tree
  | [], t => t.merge top
  | .key name :: path, t =>
    match t.members with
    | (ms, origin) =>
      .table (Members.put name (set top path ((Members.find? name ms).getD absent)) ms) origin
  | .index i :: path, t =>
    match t.items with
    | (ts, origin) =>
      match slot i ts with
      | (ts, n) => .array (ts.set n (set top path (ts.getD n absent))) origin

structure Entry where
  path : List Step
  tree : Tree

def apply (t : Tree) (entries : List Entry) : Tree :=
  entries.foldl (fun t e => set e.tree e.path t) t

end Tree
end ErrorBoundary
