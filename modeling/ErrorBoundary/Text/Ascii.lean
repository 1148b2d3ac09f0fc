/-!
# ErrorBoundary.Text.Ascii

Character classes and case folding that the wire formats define over ASCII. A character outside
ASCII belongs to no class and folds to itself, except where a rule says otherwise.
-/

namespace ErrorBoundary

/-- A character of a header line that can be read as text: visible ASCII, blank or tab. -/
def isReadable (c : Char) : Bool := (0x20 ≤ c.toNat && c.toNat < 0x7F) || c == '\t'

/-- A character of a token: of methods, header names and media types. -/
def isTokenChar (c : Char) : Bool :=
  c.isAlphanum || "!#$%&'*+-.^_\x60|~".toList.contains c

def lowerAscii (s : String) : String := String.ofList (s.toList.map Char.toLower)

def isToken (s : String) : Bool := !s.isEmpty && s.toList.all isTokenChar

def hexValue? (c : Char) : Option Nat :=
  if '0' ≤ c ∧ c ≤ '9' then some (c.toNat - '0'.toNat)
  else if 'a' ≤ c ∧ c ≤ 'f' then some (c.toNat - 'a'.toNat + 10)
  else if 'A' ≤ c ∧ c ≤ 'F' then some (c.toNat - 'A'.toNat + 10)
  else none

def digitValue? (c : Char) : Option Nat :=
  if '0' ≤ c ∧ c ≤ '9' then some (c.toNat - '0'.toNat) else none

/-- The number that a run of decimal digits writes; `none` for no digits or another character. -/
def natOfDigits? (cs : List Char) : Option Nat :=
  if cs.isEmpty then none
  else cs.foldl (fun acc c => match acc, digitValue? c with
    | some n, some d => some (10 * n + d)
    | _, _ => none) (some 0)

end ErrorBoundary
