import ErrorBoundary.Json.Basic
import ErrorBoundary.Json.Fault
import ErrorBoundary.Text.Ascii

/-!
# ErrorBoundary.Json.Numeral

Reading a number one character at a time. The significand is kept within 64 bits: a whole part
that grows longer only counts its further digits, and a fraction drops them.

* `Numeral.step`  — one more character, or the end of the number, or a wrong one.
* `Numeral.value` — the number it writes, unless that is beyond the largest double.
-/

namespace ErrorBoundary

/-- What has been read of a number: `significand · 10 ^ scale`, then a power of its own. -/
structure Numeral where
  negative : Bool
  significand : Nat
  scale : Int
  /-- The significand takes no more digits. -/
  full : Bool
  /-- A point or an exponent was written, or the digits do not fit. -/
  isReal : Bool
  powerNegative : Bool
  power : Nat
  /-- Where the exponent grows beyond 31 bits. -/
  powerHuge : Option Place

inductive NumeralPhase where
  | sign
  | zero
  | whole
  | point
  | fraction
  | mark
  | markSign
  | exponent

inductive NumeralStep where
  | more (phase : NumeralPhase) (numeral : Numeral)
  | ended
  | wrong

namespace Numeral

def start : Numeral := ⟨false, 0, 0, false, false, false, 0, none⟩

/-- The largest exponent, `2 ^ 31 - 1`. -/
def maxPower : Nat := 2147483647

def fits (significand digit : Nat) : Bool := significand * 10 + digit ≤ Binary64.maxNat

def wholeDigit (n : Numeral) (d : Nat) : Numeral :=
  if !n.full && fits n.significand d then { n with significand := n.significand * 10 + d }
  else { n with full := true, isReal := true, scale := n.scale + 1 }

def fractionDigit (n : Numeral) (d : Nat) : Numeral :=
  if !n.full && fits n.significand d then
    { n with significand := n.significand * 10 + d, scale := n.scale - 1 }
  else { n with full := true }

/-- A digit of the exponent, which ends at `place`. -/
def powerDigit (n : Numeral) (place : Place) (d : Nat) : Numeral :=
  match n.powerHuge with
  | some _ => n
  | none =>
    if n.power * 10 + d ≤ maxPower then { n with power := n.power * 10 + d }
    else { n with powerHuge := some place }

/-- A point or an exponent may follow the digits, or the number ends. -/
def tail (n : Numeral) (pointAllowed : Bool) (c : Char) : NumeralStep :=
  if c = '.' ∧ pointAllowed then .more .point { n with isReal := true, full := false }
  else if c = 'e' ∨ c = 'E' then .more .mark { n with isReal := true }
  else .ended

/-- One character, which ends at `place`. -/
def step (n : Numeral) (phase : NumeralPhase) (place : Place) (c : Char) : NumeralStep :=
  match phase, digitValue? c with
  | .sign, some 0 => .more .zero n
  | .sign, some d => .more .whole (n.wholeDigit d)
  | .sign, none => .wrong
  | .zero, some _ => .wrong
  | .zero, none => n.tail true c
  | .whole, some d => .more .whole (n.wholeDigit d)
  | .whole, none => n.tail true c
  | .point, some d => .more .fraction (n.fractionDigit d)
  | .point, none => .wrong
  | .fraction, some d => .more .fraction (n.fractionDigit d)
  | .fraction, none => n.tail false c
  | .mark, some d => .more .exponent (n.powerDigit place d)
  | .mark, none =>
    if c = '+' then .more .markSign n
    else if c = '-' then .more .markSign { n with powerNegative := true }
    else .wrong
  | .markSign, some d => .more .exponent (n.powerDigit place d)
  | .markSign, none => .wrong
  | .exponent, some d => .more .exponent (n.powerDigit place d)
  | .exponent, none => .ended

def complete : NumeralPhase → Bool
  | .zero | .whole | .fraction | .exponent => true
  | .sign | .point | .mark | .markSign => false

/-- The number as written, which ends at `place`. A negative whole number beyond 63 bits is a
double, and so is `-0`. -/
def value (n : Numeral) (place : Place) : Except Fault Number :=
  if !n.isReal then
    if !n.negative then .ok (.whole n.significand)
    else if 0 < n.significand ∧ n.significand ≤ twoTo 63 then .ok (.whole (-n.significand))
    else .ok (.real (Binary64.ofDecimal true n.significand 0))
  else
    match n.powerHuge with
    | some huge =>
      if n.significand = 0 ∨ n.powerNegative then .ok (.real (.zero n.negative))
      else .error ⟨.numberOutOfRange, huge⟩
    | none =>
      let e := if n.powerNegative then n.scale - n.power else n.scale + n.power
      match Binary64.ofScaled? n.negative n.significand e with
      | some x => .ok (.real x)
      | none => .error ⟨.numberOutOfRange, place⟩

end Numeral
end ErrorBoundary
