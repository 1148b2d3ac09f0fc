import ErrorBoundary.Config.Tree
import ErrorBoundary.Decimal.Power
import ErrorBoundary.Text.Ascii

/-!
# ErrorBoundary.Config.Path

Paths to settings, as keys write them and as messages show them. A path begins with a name; names
follow behind points and indices in brackets.

* `Step.ofText`   — the path of a key; a key that writes none is a name as a whole.
* `Step.pathText` — a path in a message.
-/

namespace ErrorBoundary

inductive PathPhase where
  | start
  | name (reversed : List Char)
  | opened
  | sign
  | digits (negative : Bool) (n : Nat)
  | closing (i : Int)
  | closed

/-- A path part way through, its steps newest first. -/
structure PathReading where
  phase : PathPhase
  done : List Step

namespace Step

def isNameChar (c : Char) : Bool := c.isAlphanum || c == '_' || c == '-'

def isBlank (c : Char) : Bool := c == ' ' || c == '\t'

def signed (negative : Bool) (n : Nat) : Int := if negative then -(n : Int) else n

/-- Indices have 64 bits. -/
def close? (i : Int) (done : List Step) : Option PathReading :=
  if IsSigned64 i then some ⟨.closed, .index i :: done⟩ else none

def follow? (c : Char) (done : List Step) : Option PathReading :=
  if c = '.' then some ⟨.start, done⟩
  else if c = '[' then some ⟨.opened, done⟩
  else none

def step? (r : PathReading) (c : Char) : Option PathReading :=
  match r.phase with
  | .start => if isNameChar c then some ⟨.name [c], r.done⟩ else none
  | .name cs =>
    if isNameChar c then some ⟨.name (c :: cs), r.done⟩
    else follow? c (.key (String.ofList cs.reverse) :: r.done)
  | .opened =>
    if isBlank c then some r
    else if c = '-' then some ⟨.sign, r.done⟩
    else (digitValue? c).map fun d => ⟨.digits false d, r.done⟩
  | .sign => (digitValue? c).map fun d => ⟨.digits true d, r.done⟩
  | .digits negative n =>
    match digitValue? c with
    | some d => some ⟨.digits negative (10 * n + d), r.done⟩
    | none =>
      if isBlank c then some ⟨.closing (signed negative n), r.done⟩
      else if c = ']' then close? (signed negative n) r.done
      else none
  | .closing i =>
    if isBlank c then some r
    else if c = ']' then close? i r.done
    else none
  | .closed => follow? c r.done

/-- The steps of a path that may end here. -/
def finish? (r : PathReading) : Option (List Step) :=
  match r.phase with
  | .name cs => some (.key (String.ofList cs.reverse) :: r.done).reverse
  | .closed => some r.done.reverse
  | _ => none

def read? (r : PathReading) : List Char → Option (List Step)
  | [] => finish? r
  | c :: rest => (step? r c).bind fun r => read? r rest

def ofText? (s : String) : Option (List Step) := read? ⟨.start, []⟩ s.toList

/-- A key that is no path stands for itself. -/
def ofText (s : String) : List Step := (ofText? s).getD [.key s]

/-- A point stands between a name and a name behind it. -/
def pathText : List Step → String
  | [] => ""
  | .key name :: rest =>
    let tail := pathText rest
    if tail.toList.head?.all (· == '[') then name ++ tail else s!"{name}.{tail}"
  | .index i :: rest => s!"[{i}]" ++ pathText rest

end Step
end ErrorBoundary
