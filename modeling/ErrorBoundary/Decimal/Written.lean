import ErrorBoundary.Decimal.Binary64
import ErrorBoundary.Text.Ascii

/-!
# ErrorBoundary.Decimal.Written

Numbers as people write them into settings: a sign of either kind, and for doubles a point on
either side of the digits, an exponent, and names for infinity and for no number.

* `intOfText?`        — a whole number with a sign or without.
* `natOfText?`        — a natural number, which may have a plus sign.
* `Binary64.ofText?`  — a double.
-/

namespace ErrorBoundary

/-- A natural number; a plus sign may stand in front. -/
def natOfText? (s : String) : Option Nat :=
  match s.toList with
  | '+' :: ds => natOfDigits? ds
  | ds => natOfDigits? ds

def intOfText? (s : String) : Option Int :=
  match s.toList with
  | '-' :: ds => (natOfDigits? ds).map fun n => -(n : Int)
  | '+' :: ds => (natOfDigits? ds).map fun n => (n : Int)
  | ds => (natOfDigits? ds).map fun n => (n : Int)

namespace Binary64

/-- The power of ten behind the digits: none at all, or a mark and a whole number. -/
def exponentOfChars? : List Char → Option Int
  | [] => some 0
  | _ :: rest => intOfText? (String.ofList rest)

/-- The digits in front of a point, behind it and the exponent; there is at least one digit. -/
def ofChars? (negative : Bool) (cs : List Char) : Option Binary64 :=
  let whole := cs.takeWhile Char.isDigit
  let (fraction, rest) := match cs.dropWhile Char.isDigit with
    | '.' :: rest => (rest.takeWhile Char.isDigit, rest.dropWhile Char.isDigit)
    | rest => ([], rest)
  if rest.head?.all fun c => c == 'e' || c == 'E' then
    match natOfDigits? (whole ++ fraction), exponentOfChars? rest with
    | some n, some e => some (ofDecimal negative n (e - fraction.length))
    | _, _ => none
  else none

/-- The double that a text writes, if it writes one. -/
def ofText? (s : String) : Option Binary64 :=
  let (negative, cs) := match s.toList with
    | '-' :: cs => (true, cs)
    | '+' :: cs => (false, cs)
    | cs => (false, cs)
  let name := String.ofList (cs.map Char.toLower)
  if name = "inf" ∨ name = "infinity" then some (.infinite negative)
  else if name = "nan" then some .nan
  else ofChars? negative cs

end Binary64
end ErrorBoundary
