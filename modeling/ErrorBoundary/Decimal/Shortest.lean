import ErrorBoundary.Decimal.Binary64

/-!
# ErrorBoundary.Decimal.Shortest

The fewest decimal digits that read back as a double, and the two ways they are written.

* `Binary64.shortest`   — digits and exponent: on the grid of one digit, two digits and so on, the
  first grid that holds a number rounding to the double wins, and on it the nearer neighbour. Which
  of two equally near ones it is differs between the two ways of writing.
* `Binary64.positional` — without an exponent, as a configuration text shows a number.
* `Binary64.scientific` — with a point always, and an exponent outside `1e-5 … 1e16`, as a JSON
  message shows a number.
-/

namespace ErrorBoundary
namespace Binary64

structure Fraction where
  num : Nat
  den : Nat

namespace Fraction

def le (a b : Fraction) : Bool := a.num * b.den ≤ b.num * a.den

def lt (a b : Fraction) : Bool := a.num * b.den < b.num * a.den

def ofBinary (m : Nat) (e : Int) : Fraction :=
  if 0 ≤ e then ⟨m * twoTo e.toNat, 1⟩ else ⟨m, twoTo (-e).toNat⟩

def ofDecimal (d : Nat) (e : Int) : Fraction :=
  if 0 ≤ e then ⟨d * tenTo e.toNat, 1⟩ else ⟨d, tenTo (-e).toNat⟩

/-- How many whole units of `10 ^ e` fit. -/
def floorAt (a : Fraction) (e : Int) : Nat :=
  if 0 ≤ e then a.num / (a.den * tenTo e.toNat) else a.num * tenTo (-e).toNat / a.den

def dist (a b : Fraction) : Fraction :=
  let x := a.num * b.den
  let y := b.num * a.den
  ⟨max x y - min x y, a.den * b.den⟩

end Fraction

/-- The numbers that round to `m · 2 ^ e` lie between two midpoints, which belong to it when the
mantissa is even. Below a power of two the doubles are twice as dense. -/
def roundsTo (m : Nat) (e : Int) (x : Fraction) : Bool :=
  let lower :=
    if m = twoTo 52 ∧ minExponent < e then Fraction.ofBinary (4 * m - 1) (e - 2)
    else Fraction.ofBinary (2 * m - 1) (e - 1)
  let upper := Fraction.ofBinary (2 * m + 1) (e - 1)
  if m % 2 = 0 then lower.le x && x.le upper else lower.lt x && x.lt upper

/-- The exponent of the first digit, going down from `e`. -/
def leadingExponent (x : Fraction) : Nat → Int → Int
  | 0, e => e
  | fuel + 1, e => if (Fraction.ofDecimal 1 e).le x then e else leadingExponent x fuel (e - 1)

/-- Which of two neighbours stands for a number half-way between them. -/
inductive Tie where
  | upper
  | even
deriving DecidableEq

/-- Whether the upper neighbour of `x` at `below + 1` is to be preferred to the one at `below`. -/
def Tie.goesUp (tie : Tie) (x : Fraction) (below : Nat) (unit : Int) : Bool :=
  let toLower := x.dist (Fraction.ofDecimal below unit)
  let toUpper := x.dist (Fraction.ofDecimal (below + 1) unit)
  if toLower.lt toUpper then false
  else if toUpper.lt toLower then true
  else
    match tie with
    | .upper => true
    | .even => below % 2 = 1

/-- On the grid of `n` digits, the neighbour that rounds to `m · 2 ^ e`; of two the nearer one. -/
def onGrid (tie : Tie) (m : Nat) (e : Int) (top : Int) (n : Nat) : Option (Nat × Int) :=
  let x := Fraction.ofBinary m e
  let unit := top - n + 1
  let below := x.floorAt unit
  let hitBelow := roundsTo m e (Fraction.ofDecimal below unit)
  let hitAbove := roundsTo m e (Fraction.ofDecimal (below + 1) unit)
  if hitBelow && hitAbove then
    if tie.goesUp x below unit then some (below + 1, unit) else some (below, unit)
  else if hitBelow then some (below, unit)
  else if hitAbove then some (below + 1, unit)
  else none

/-- Digits and exponent of `m · 2 ^ e`; seventeen digits always suffice. -/
def shortest (tie : Tie) (m : Nat) (e : Int) : Nat × Int :=
  if m = 0 then (0, 0)
  else
    let top := leadingExponent (Fraction.ofBinary m e) 700 310
    match (List.range 17).findSome? fun k => onGrid tie m e top (k + 1) with
    | some d => d
    | none => (m, 0)

/-- Drops the zeros at the end of a numeral and counts them into the exponent. -/
def trimZeros : Nat → Nat × Int → Nat × Int
  | 0, d => d
  | fuel + 1, (n, e) =>
    if n ≠ 0 ∧ n % 10 = 0 then trimZeros fuel (n / 10, e + 1) else (n, e)

def digitsOf (tie : Tie) (m : Nat) (e : Int) : List Char × Int :=
  match trimZeros 20 (shortest tie m e) with
  | (n, k) => (Nat.toDigits 10 n, k)

/-- Digits `ds · 10 ^ k` with a point inside when it falls there, and zeros up to it. -/
def placeDigits (ds : List Char) (k : Int) : List Char :=
  let point := (ds.length : Int) + k
  if 0 ≤ k then ds ++ List.replicate k.toNat '0'
  else if 0 < point then ds.take point.toNat ++ '.' :: ds.drop point.toNat
  else '0' :: '.' :: (List.replicate (-point).toNat '0' ++ ds)

def signed (negative : Bool) (cs : List Char) : List Char := if negative then '-' :: cs else cs

def positional : Binary64 → String
  | .finite s m e =>
    match digitsOf .upper m e with
    | (ds, k) => String.ofList (signed s (if m = 0 then ['0'] else placeDigits ds k))
  | .infinite s => String.ofList (signed s "inf".toList)
  | .nan => "NaN"

/-- A point always shows: a whole number gets `.0`. -/
def withPoint (cs : List Char) : List Char := if cs.contains '.' then cs else cs ++ ['.', '0']

def scientific : Binary64 → String
  | .finite s m e =>
    match digitsOf .even m e with
    | (ds, k) =>
      let top := (ds.length : Int) + k - 1
      let cs :=
        if m = 0 then "0.0".toList
        else if -5 ≤ top ∧ top < 16 then withPoint (placeDigits ds k)
        else
          let head := match ds with
            | [] => []
            | [d] => [d]
            | d :: rest => d :: '.' :: rest
          head ++ 'e' :: (if 0 ≤ top then '+' else '-') :: Nat.toDigits 10 top.natAbs
      String.ofList (signed s cs)
  | .infinite s => String.ofList (signed s "inf".toList)
  | .nan => "NaN"

end Binary64
end ErrorBoundary
