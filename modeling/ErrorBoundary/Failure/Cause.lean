/-!
# ErrorBoundary.Failure.Cause

Errors and their causes. Every error shows as a text and may be because of another one. The way
from an error to its innermost cause is walked step by step; `Cause.chain` says what the walk
comes to.

* `Cause.walk`      — the error, then each of its causes, outermost first.
* `Cause.rootCause` — the last of them.
-/

namespace ErrorBoundary

inductive Cause where
  | root (text : String)
  | because (text : String) (source : Cause)
deriving DecidableEq

namespace Cause

def text : Cause → String
  | .root t => t
  | .because t _ => t

def source? : Cause → Option Cause
  | .root _ => none
  | .because _ s => some s

/-- An error with the text `t`, because of `source` if there is one. -/
def ofSource (t : String) (source : Option Cause) : Cause :=
  match source with
  | some s => .because t s
  | none => .root t

/-- Texts, each because of the next; the last has no cause. -/
def ofTexts (first : String) (rest : List String) : Cause :=
  match (first :: rest).reverse with
  | [] => .root first
  | last :: before => before.foldl (fun e t => .because t e) (.root last)

/-- Puts wrappers around an error; the first text ends up outermost. -/
def wrapIn (texts : List String) (e : Cause) : Cause := texts.foldr .because e

def chain : Cause → List Cause
  | .root t => [.root t]
  | .because t s => .because t s :: chain s

/-- Follows the causes of `e` after those seen already, newest first. -/
def walkFrom (seen : List Cause) (e : Cause) : List Cause :=
  match e with
  | .root t => (.root t :: seen).reverse
  | .because t s => walkFrom (.because t s :: seen) s

/-- The error followed by each of its causes. -/
def walk (e : Cause) : List Cause := walkFrom [] e

/-- The innermost cause; the error itself when it has none. -/
def rootCause (e : Cause) : Cause := e.walk.getLast?.getD e

def texts (e : Cause) : List String := e.walk.map text

end Cause
end ErrorBoundary
