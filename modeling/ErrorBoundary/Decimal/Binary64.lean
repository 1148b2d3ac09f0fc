import ErrorBoundary.Decimal.Power

/-!
# ErrorBoundary.Decimal.Binary64

Double-precision numbers as exact values: a sign, a mantissa and a power of two. All arithmetic is
on natural numbers with one rounding, to the nearest double and to the even one on a tie, so no
machine float enters the logic.

* `Binary64.ofRatio`    — the double nearest to a fraction times a power of two.
* `Binary64.ofDecimal`  — the double nearest to a decimal numeral.
* `Binary64.ofScaled?`  — the reading that JSON text uses: the significand and the power of ten
  are doubles first, and each step rounds.
* `Binary64.roundToNat` — the nearest whole number, a half away from zero, kept within 64 bits.
-/

namespace ErrorBoundary

/-- A finite double is `mantissa · 2 ^ exponent` with a mantissa below `2 ^ 53` and an exponent of
at least `-1074`; it is written with the least exponent that admits. -/
inductive Binary64 where
  | finite (negative : Bool) (mantissa : Nat) (exponent : Int)
  | infinite (negative : Bool)
  | nan
deriving DecidableEq

namespace Binary64

def minExponent : Int := -1074

def maxExponent : Int := 971

def zero (negative : Bool) : Binary64 := .finite negative 0 minExponent

/-- The quotient of two naturals, to the nearest, and to the even one on a tie. -/
def divNearest (num den : Nat) : Nat :=
  let q := num / den
  let r := num % den
  if 2 * r < den then q
  else if den < 2 * r then q + 1
  else if q % 2 = 0 then q else q + 1

/-- The two sides of `num / den / 2 ^ e` as naturals. -/
def unscale (num den : Nat) (e : Int) : Nat × Nat :=
  if 0 ≤ e then (num, den * twoTo e.toNat) else (num * twoTo (-e).toNat, den)

/-- The exponent at which `num / den` has a mantissa of 53 bits, or the least exponent. -/
def exponentOf (num den : Nat) : Int :=
  let e := max ((num.log2 : Int) - den.log2 - 53) minExponent
  match unscale num den e with
  | (n, d) => if n / d < twoTo 53 then e else e + 1

def ofFraction (negative : Bool) (num den : Nat) : Binary64 :=
  if num = 0 then zero negative
  else
    let e := exponentOf num den
    match unscale num den e with
    | (n, d) =>
      let m := divNearest n d
      let (m, e) := if m = twoTo 53 then (twoTo 52, e + 1) else (m, e)
      if maxExponent < e then .infinite negative else .finite negative m e

/-- The double nearest to `num / den · 2 ^ e`. -/
def ofRatio (negative : Bool) (num den : Nat) (e : Int) : Binary64 :=
  if 0 ≤ e then ofFraction negative (num * twoTo e.toNat) den
  else ofFraction negative num (den * twoTo (-e).toNat)

/-- The number of decimal digits of a natural; `0` has none. -/
def digitCount (n : Nat) : Nat := if n = 0 then 0 else (Nat.toDigits 10 n).length

/-- The double nearest to `digits · 10 ^ e`. Beyond the range of doubles the answer does not hang
on the digits, so no huge power is formed. -/
def ofDecimal (negative : Bool) (digits : Nat) (e : Int) : Binary64 :=
  if digits = 0 then zero negative
  else if 400 < e + digitCount digits then .infinite negative
  else if e + digitCount digits < -400 then zero negative
  else if 0 ≤ e then ofFraction negative (digits * tenTo e.toNat) 1
  else ofFraction negative digits (tenTo (-e).toNat)

def isZero : Binary64 → Bool
  | .finite _ m _ => m = 0
  | _ => false

def isInfinite : Binary64 → Bool
  | .infinite _ => true
  | _ => false

def negate : Binary64 → Binary64
  | .finite s m e => .finite (!s) m e
  | .infinite s => .infinite (!s)
  | .nan => .nan

/-- A product or quotient of two finite magnitudes, rounded once. -/
def times : Binary64 → Binary64 → Binary64
  | .finite _ m e, .finite _ m' e' => ofRatio false (m * m') 1 (e + e')
  | _, _ => .nan

def dividedBy : Binary64 → Binary64 → Binary64
  | .finite _ m e, .finite _ m' e' => ofRatio false m m' (e - e')
  | _, _ => .nan

def maxPower : Nat := 308

def powerOfTen (k : Nat) : Binary64 := ofDecimal false 1 k

/-- Division by `10 ^ k`, by at most `maxPower` places at a time. -/
def dividedByPower (x : Binary64) (k : Nat) : Binary64 :=
  if k ≤ maxPower then x.dividedBy (powerOfTen k)
  else if x.isZero then x
  else dividedByPower (x.dividedBy (powerOfTen maxPower)) (k - maxPower)
termination_by k
decreasing_by simp [maxPower] at *; omega

/-- The significand becomes a double, then is multiplied or divided by a power of ten, with a
rounding at each step. `none` is a number beyond the largest double. -/
def ofScaled? (negative : Bool) (significand : Nat) (e : Int) : Option Binary64 :=
  let x := ofDecimal false significand 0
  let y :=
    if e < 0 then dividedByPower x (-e).toNat
    else if e.toNat ≤ maxPower then x.times (powerOfTen e.toNat)
    else if x.isZero then x else .infinite false
  if y.isInfinite then none else some (if negative then y.negate else y)

def maxNat : Nat := twoTo 64 - 1

/-- The nearest natural number, a half going up; a negative number gives `0`, and one that is too
large the largest. -/
def roundToNat : Binary64 → Nat
  | .finite true _ _ => 0
  | .finite false m e =>
    let n :=
      if 0 ≤ e then m * twoTo e.toNat
      else (2 * m + twoTo (-e).toNat) / (2 * twoTo (-e).toNat)
    min n maxNat
  | .infinite true => 0
  | .infinite false => maxNat
  | .nan => 0

end Binary64
end ErrorBoundary
