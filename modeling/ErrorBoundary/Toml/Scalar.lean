import ErrorBoundary.Toml.Basic

/-!
# ErrorBoundary.Toml.Scalar

Values that are written without quotes: truth values, dates and times, whole numbers and doubles.

* `Toml.ofWord?` — the value of a word.
-/

namespace ErrorBoundary
namespace Toml

/-- Digits with single underscores between them; the digits alone. -/
def digits? (isDigit : Char → Bool) : List Char → Option (List Char)
  | [] => none
  | [c] => if isDigit c then some [c] else none
  | c :: '_' :: rest => if isDigit c then (digits? isDigit rest).map (c :: ·) else none
  | c :: rest => if isDigit c then (digits? isDigit rest).map (c :: ·) else none

/-- The number that digits write to a base. -/
def natOfBase (base : Nat) (ds : List Char) : Nat :=
  ds.foldl (fun n c => base * n + (hexValue? c).getD 0) 0

/-- Whole numbers have 64 bits. -/
def integer? (n : Int) : Option Toml :=
  if IsSigned64 n then some (.integer n) else none

/-- A sign, if there is one, and what it stands in front of. -/
def splitSign : List Char → Bool × List Char
  | '+' :: rest => (false, rest)
  | '-' :: rest => (true, rest)
  | rest => (false, rest)

/-- Decimal digits without a zero in front. -/
def decimal? (cs : List Char) : Option (List Char) :=
  match digits? Char.isDigit cs with
  | some ('0' :: _ :: _) => none
  | ds => ds

def ofBase? (base : Nat) (isDigit : Char → Bool) (cs : List Char) : Option Toml :=
  (digits? isDigit cs).bind fun ds => integer? (natOfBase base ds)

/-- A whole number; one to another base than ten has no sign. -/
def ofInteger? : List Char → Option Toml
  | '0' :: 'x' :: rest => ofBase? 16 (fun c => (hexValue? c).isSome) rest
  | '0' :: 'o' :: rest => ofBase? 8 (fun c => '0' ≤ c && c ≤ '7') rest
  | '0' :: 'b' :: rest => ofBase? 2 (fun c => c == '0' || c == '1') rest
  | cs =>
    match splitSign cs with
    | (negative, ds) =>
      (decimal? ds).bind fun ds =>
        let n : Int := natOfBase 10 ds
        integer? (if negative then -n else n)

def exponent? (cs : List Char) : Option Int :=
  match splitSign cs with
  | (negative, ds) =>
    (digits? Char.isDigit ds).map fun ds =>
      let n : Int := natOfBase 10 ds
      if negative then -n else n

/-- The double of a whole part, a fraction and an exponent; there is none beyond the largest. -/
def ofParts? (negative : Bool) (whole fraction : List Char) (e : Int) : Option Toml :=
  let x := Binary64.ofDecimal negative (natOfBase 10 (whole ++ fraction)) (e - fraction.length)
  if x.isInfinite then none else some (.real x)

def isMark (c : Char) : Bool := c == 'e' || c == 'E'

/-- A double. Digits stand on both sides of a point, and there is a point or an exponent. -/
def ofReal? (cs : List Char) : Option Toml :=
  match splitSign cs with
  | (negative, rest) =>
    if rest = ['i', 'n', 'f'] then some (.real (.infinite negative))
    else if rest = ['n', 'a', 'n'] then some (.real .nan)
    else
      let significand := rest.takeWhile fun c => !isMark c
      let whole := significand.takeWhile (· != '.')
      let fraction := match significand.dropWhile (· != '.') with
        | _ :: behind => digits? Char.isDigit behind
        | [] => some []
      let e := match rest.dropWhile fun c => !isMark c with
        | _ :: behind => exponent? behind
        | [] => some 0
      if significand = rest ∧ whole = significand then none
      else
        match decimal? whole, fraction, e with
        | some whole, some fraction, some e => ofParts? negative whole fraction e
        | _, _, _ => none

def ofWord? (cs : List Char) : Option Toml :=
  if cs = ['t', 'r', 'u', 'e'] then some (.bool true)
  else if cs = ['f', 'a', 'l', 's', 'e'] then some (.bool false)
  else
    match Moment.ofChars? cs with
    | some m => some (.moment m)
    | none =>
      match ofInteger? cs with
      | some v => some v
      | none => ofReal? cs

end Toml
end ErrorBoundary
