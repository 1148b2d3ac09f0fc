import ErrorBoundary.Text.Ascii

/-!
# ErrorBoundary.Toml.Moment

Dates and times: a day, a time of day, or both with an offset from universal time. The letters
between the parts may be of either case; seconds may be left out, and of a fraction nine digits
count.

* `Moment.ofChars?` — reads one.
* `Moment.text`     — the form in which a setting shows it.
-/

namespace ErrorBoundary

structure Day where
  year : Nat
  month : Nat
  day : Nat
deriving DecidableEq

structure TimeOfDay where
  hour : Nat
  minute : Nat
  second : Option Nat
  /-- The digits behind the second, at least one when there is a fraction. -/
  fraction : List Char
deriving DecidableEq

/-- How far a clock is ahead of universal time. -/
inductive Offset where
  | universal
  | minutes (n : Int)
deriving DecidableEq

inductive Moment where
  | day (d : Day)
  | time (t : TimeOfDay)
  | both (d : Day) (t : TimeOfDay) (offset : Option Offset)
deriving DecidableEq

def twoDigits? (a b : Char) : Option Nat := natOfDigits? [a, b]

/-- The digits of a number, filled up with zeros in front. -/
def padded (width n : Nat) : String :=
  let ds := Nat.toDigits 10 n
  String.ofList (List.replicate (width - ds.length) '0' ++ ds)

namespace Day

def isLeap (year : Nat) : Bool := year % 4 = 0 && (year % 100 != 0 || year % 400 = 0)

def lengthOf (year month : Nat) : Nat :=
  if month = 2 then (if isLeap year then 29 else 28)
  else if month = 4 ∨ month = 6 ∨ month = 9 ∨ month = 11 then 30
  else 31

def IsValid (d : Day) : Prop :=
  1 ≤ d.month ∧ d.month ≤ 12 ∧ 1 ≤ d.day ∧ d.day ≤ lengthOf d.year d.month

instance (d : Day) : Decidable d.IsValid := inferInstanceAs (Decidable (_ ∧ _))

def read? : List Char → Option (Day × List Char)
  | y₁ :: y₂ :: y₃ :: y₄ :: '-' :: m₁ :: m₂ :: '-' :: d₁ :: d₂ :: rest =>
    match natOfDigits? [y₁, y₂, y₃, y₄], twoDigits? m₁ m₂, twoDigits? d₁ d₂ with
    | some year, some month, some day =>
      if (Day.mk year month day).IsValid then some (⟨year, month, day⟩, rest) else none
    | _, _, _ => none
  | _ => none

def text (d : Day) : String := s!"{padded 4 d.year}-{padded 2 d.month}-{padded 2 d.day}"

end Day

namespace TimeOfDay

/-- The most digits of a fraction that count. -/
def precision : Nat := 9

/-- A fraction at the front of a text, if there is one. -/
def readFraction? : List Char → Option (List Char × List Char)
  | '.' :: rest =>
    match rest.takeWhile Char.isDigit with
    | [] => none
    | ds => some (ds.take precision, rest.dropWhile Char.isDigit)
  | rest => some ([], rest)

def read? : List Char → Option (TimeOfDay × List Char)
  | h₁ :: h₂ :: ':' :: m₁ :: m₂ :: rest =>
    match twoDigits? h₁ h₂, twoDigits? m₁ m₂ with
    | some hour, some minute =>
      if 23 < hour ∨ 59 < minute then none
      else
        match rest with
        | ':' :: s₁ :: s₂ :: rest =>
          match twoDigits? s₁ s₂, readFraction? rest with
          | some second, some (fraction, rest) =>
            if 60 < second then none else some (⟨hour, minute, some second, fraction⟩, rest)
          | _, _ => none
        | rest => some (⟨hour, minute, none, []⟩, rest)
    | _, _ => none
  | _ => none

/-- A fraction without the zeros at its end; one zero stays. -/
def trimFraction (ds : List Char) : List Char :=
  match (ds.reverse.dropWhile (· == '0')).reverse with
  | [] => ['0']
  | trimmed => trimmed

def text (t : TimeOfDay) : String :=
  let seconds := match t.second with
    | none => ""
    | some second => s!":{padded 2 second}"
  let fraction := match t.fraction with
    | [] => ""
    | ds => "." ++ String.ofList (trimFraction ds)
  s!"{padded 2 t.hour}:{padded 2 t.minute}{seconds}{fraction}"

end TimeOfDay

namespace Offset

def ofChars? : List Char → Option Offset
  | ['Z'] => some .universal
  | ['z'] => some .universal
  | [sign, h₁, h₂, ':', m₁, m₂] =>
    match twoDigits? h₁ h₂, twoDigits? m₁ m₂ with
    | some hour, some minute =>
      if 23 < hour ∨ 59 < minute then none
      else
        let n : Int := hour * 60 + minute
        if sign = '+' then some (.minutes n)
        else if sign = '-' then some (.minutes (-n))
        else none
    | _, _ => none
  | _ => none

def text : Offset → String
  | .universal => "Z"
  | .minutes n =>
    let sign := if n < 0 then "-" else "+"
    s!"{sign}{padded 2 (n.natAbs / 60)}:{padded 2 (n.natAbs % 60)}"

end Offset

namespace Moment

def ofChars? (cs : List Char) : Option Moment :=
  match Day.read? cs with
  | some (d, []) => some (.day d)
  | some (d, mark :: rest) =>
    if mark = 'T' ∨ mark = 't' then
      match TimeOfDay.read? rest with
      | some (t, []) => some (.both d t none)
      | some (t, rest) => (Offset.ofChars? rest).map fun o => .both d t (some o)
      | none => none
    else none
  | none =>
    match TimeOfDay.read? cs with
    | some (t, []) => some (.time t)
    | _ => none

def text : Moment → String
  | .day d => d.text
  | .time t => t.text
  | .both d t none => s!"{d.text}T{t.text}"
  | .both d t (some o) => s!"{d.text}T{t.text}{o.text}"

end Moment
end ErrorBoundary
