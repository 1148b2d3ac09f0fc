import ErrorBoundary.Json.Draft
import ErrorBoundary.Json.Numeral
import ErrorBoundary.Text.Utf8

/-!
# ErrorBoundary.Json.Reader

Reading JSON text, one symbol at a time, into a draft. Containers part way through are held in a
list of frames, so nesting of any depth needs no call stack.

* `Quoting`            — a string part way through.
* `Reading.step`       — one symbol.
* `Document.ofSymbols` — a text that may hold bytes of no character.
* `Document.ofText`    — a text.
-/

namespace ErrorBoundary

/-! ## Strings -/

/-- The text of a string so far, newest character first. -/
inductive Contents where
  | text (reversed : List Char)
  /-- Some bytes were no characters; that shows when the string closes. -/
  | illFormed
  /-- An escape stood for half a character; that shows at once. -/
  | refused (f : Fault)
deriving DecidableEq

inductive Escape where
  | none
  | opened
  /-- Bytes of a code so far, and its value unless one was no hexadecimal digit. -/
  | code (bytes : Nat) (value : Option Nat)

/-- A string part way through: its text, the first half of a character written as two codes, and
the escape being read. -/
structure Quoting where
  contents : Contents
  half : Option Nat
  escape : Escape

inductive QuotingStep where
  | more (q : Quoting)
  | closed (s : Except Fault String)
  | wrong (f : Fault)

namespace Quoting

def start : Quoting := ⟨.text [], none, .none⟩

/-- The string goes on, but an escape in it stands for no character. -/
def refuse (q : Quoting) (flaw : Flaw) (place : Place) : Quoting :=
  match q.contents with
  | .refused f => ⟨.refused f, none, .none⟩
  | _ => ⟨.refused ⟨flaw, place⟩, none, .none⟩

def push (q : Quoting) (c : Char) : Quoting :=
  match q.contents with
  | .text cs => ⟨.text (c :: cs), none, .none⟩
  | contents => ⟨contents, none, .none⟩

/-- A byte that belongs to no character. -/
def stray (q : Quoting) : Quoting :=
  match q.contents with
  | .text _ => ⟨.illFormed, none, .none⟩
  | contents => ⟨contents, none, .none⟩

/-- The second half of a character must follow the first; a symbol that ends at `place` and is
not part of it breaks the pair. -/
def settle (q : Quoting) (place : Place) : Quoting :=
  match q.half with
  | some _ => q.refuse .surrogateCutShort place
  | none => q

/-- A code from an escape that ends at `place`. The halves of a pair must follow each other. -/
def unit (q : Quoting) (n : Nat) (place : Place) : Quoting :=
  match q.half with
  | some high =>
    if 0xDC00 ≤ n ∧ n ≤ 0xDFFF then
      q.push (Char.ofNat (0x10000 + (high - 0xD800) * 0x400 + (n - 0xDC00)))
    else q.refuse .loneSurrogate place
  | none =>
    if 0xDC00 ≤ n ∧ n ≤ 0xDFFF then q.refuse .loneSurrogate place
    else if 0xD800 ≤ n ∧ n ≤ 0xDBFF then { q with half := some n, escape := .none }
    else q.push (Char.ofNat n)

/-- The character that a letter after a backslash stands for. -/
def escaped? (c : Char) : Option Char :=
  if c = '"' ∨ c = '\\' ∨ c = '/' then some c
  else if c = 'b' then some '\x08'
  else if c = 'f' then some '\x0c'
  else if c = 'n' then some '\n'
  else if c = 'r' then some '\r'
  else if c = 't' then some '\t'
  else none

/-- The text of a string whose closing quote ends at `place`. -/
def close (q : Quoting) (place : Place) : Except Fault String :=
  match (q.settle place).contents with
  | .text cs => .ok (String.ofList cs.reverse)
  | .illFormed => .error ⟨.badCharacter, place⟩
  | .refused f => .error f

/-- One symbol, whose first byte ends at `next` and whose last at `after`. A code takes four bytes
before it is looked at. -/
def step (q : Quoting) (next after : Place) (symbol : Option Char) : QuotingStep :=
  match q.escape with
  | .none =>
    match symbol with
    | none => .more (q.settle next).stray
    | some c =>
      if c = '"' then .closed (q.close next)
      else if c = '\\' then .more { q with escape := .opened }
      else if c.toNat < 0x20 then .wrong ⟨.controlCharacter, next⟩
      else .more ((q.settle next).push c)
  | .opened =>
    match symbol with
    | none => .wrong ⟨.badEscape, next⟩
    | some 'u' => .more { q with escape := .code 0 (some 0) }
    | some c =>
      match escaped? c with
      | some d => .more ((q.settle next).push d)
      | none => .wrong ⟨.badEscape, next⟩
  | .code bytes value =>
    let size := match symbol with
      | some c => c.utf8Size
      | none => 1
    let value := match value, symbol.bind hexValue? with
      | some n, some d => some (16 * n + d)
      | _, _ => none
    if bytes + size < 4 then .more { q with escape := .code (bytes + size) value }
    else match value with
      | some n => .more (q.unit n after)
      | none => .wrong ⟨.badEscape, after⟩

/-- What shows to one who uses the string when its text ends or goes wrong with `f`. -/
def keptFault (q : Quoting) (f : Fault) : Fault :=
  match q.contents with
  | .refused f' => f'
  | _ => f

end Quoting

/-! ## Values -/

/-- A container that waits for the value being read; what it holds already stands newest first. -/
inductive Frame where
  | items (done : List Draft)
  | member (done : List (Except Fault String × Draft)) (key : Except Fault String)

/-- What is being read inside the innermost waiting container. -/
inductive Phase where
  | value
  | firstItem
  | nextItem (done : List Draft)
  | afterItem (done : List Draft)
  | firstKey
  | nextKey (done : List (Except Fault String × Draft))
  | keyText (done : List (Except Fault String × Draft)) (q : Quoting)
  | colon (done : List (Except Fault String × Draft)) (key : Except Fault String)
  | afterMember (done : List (Except Fault String × Draft))
  | literal (rest : List Char) (node : Draft)
  | text (q : Quoting)
  | number (phase : NumeralPhase) (numeral : Numeral)

inductive Reading where
  | within (phase : Phase) (stack : List Frame)
  | ended (root : Draft)
  | closed (document : Document)

namespace Reading

def isBlank (c : Char) : Bool := c == ' ' || c == '\n' || c == '\t' || c == '\r'

/-- Closes all waiting containers around a value that breaks. -/
def wrap (stop : Break) (d : Draft) : List Frame → Draft
  | [] => d
  | .items done :: rest => wrap stop (.array (d :: done).reverse (some stop)) rest
  | .member done key :: rest => wrap stop (.object ((key, d) :: done).reverse (some stop)) rest

/-- The value being read, as far as it goes, when its text is wrong with `f`. -/
def cut (phase : Phase) (f : Fault) : Draft × Break :=
  match phase with
  | .value => (.broken (.both f), .both f)
  | .firstItem => (.array [] (some (.both f)), .both f)
  | .nextItem done => (.array (.broken (.both f) :: done).reverse (some (.both f)), .both f)
  | .afterItem done => (.array done.reverse (some (.both f)), .both f)
  | .firstKey => (.object [] (some (.both f)), .both f)
  | .nextKey done =>
    (.object ((.error f, .broken (.both f)) :: done).reverse (some (.both f)), .both f)
  | .keyText done q =>
    let stop : Break := ⟨q.keptFault f, f⟩
    (.object ((.error stop.kept, .broken stop) :: done).reverse (some stop), stop)
  | .colon done key =>
    (.object ((key, .broken (.both f)) :: done).reverse (some (.both f)), .both f)
  | .afterMember done => (.object done.reverse (some (.both f)), .both f)
  | .literal _ _ => (.word (.both f), .both f)
  | .text q =>
    let stop : Break := ⟨q.keptFault f, f⟩
    (.broken stop, stop)
  | .number _ _ =>
    let stop : Break := ⟨f, ⟨.badNumber, f.place⟩⟩
    (.word stop, stop)

def stopAt (phase : Phase) (stack : List Frame) (f : Fault) : Reading :=
  match cut phase f with
  | (d, stop) => .closed ⟨wrap stop d stack, none⟩

def complete (d : Draft) : List Frame → Reading
  | [] => .ended d
  | .items done :: rest => .within (.afterItem (d :: done)) rest
  | .member done key :: rest => .within (.afterMember ((key, d) :: done)) rest

def begin? (c : Char) : Option Phase :=
  if c = '[' then some .firstItem
  else if c = '\x7b' then some .firstKey
  else if c = '"' then some (.text .start)
  else if c = 'n' then some (.literal ['u', 'l', 'l'] .null)
  else if c = 't' then some (.literal ['r', 'u', 'e'] (.bool true))
  else if c = 'f' then some (.literal ['a', 'l', 's', 'e'] (.bool false))
  else if c = '-' then some (.number .sign { Numeral.start with negative := true })
  else if c = '0' then some (.number .zero .start)
  else match digitValue? c with
    | some d => some (.number .whole (Numeral.start.wholeDigit d))
    | none => none

def beginValue (next : Place) (symbol : Option Char) (stack : List Frame) : Reading :=
  match symbol.bind begin? with
  | some phase => .within phase stack
  | none => stopAt .value stack ⟨.noValue, next⟩

/-- A symbol between values, blanks left out; its first byte ends at `next`. -/
def between (phase : Phase) (stack : List Frame) (next : Place) (symbol : Option Char) : Reading :=
  match phase, symbol with
  | .value, _ => beginValue next symbol stack
  | .firstItem, some ']' => complete (.array [] none) stack
  | .firstItem, _ => beginValue next symbol (.items [] :: stack)
  | .nextItem done, some ']' => stopAt (.nextItem done) stack ⟨.trailingComma, next⟩
  | .nextItem done, _ => beginValue next symbol (.items done :: stack)
  | .afterItem done, some ']' => complete (.array done.reverse none) stack
  | .afterItem done, some ',' => .within (.nextItem done) stack
  | .afterItem done, _ => stopAt (.afterItem done) stack ⟨.noListComma, next⟩
  | .firstKey, some '\x7d' => complete (.object [] none) stack
  | .firstKey, some '"' => .within (.keyText [] .start) stack
  | .firstKey, _ => stopAt .firstKey stack ⟨.keyNotString, next⟩
  | .nextKey done, some '"' => .within (.keyText done .start) stack
  | .nextKey done, some '\x7d' => stopAt (.nextKey done) stack ⟨.trailingComma, next⟩
  | .nextKey done, _ => stopAt (.nextKey done) stack ⟨.keyNotString, next⟩
  | .colon done key, some ':' => .within .value (.member done key :: stack)
  | .colon done key, _ => stopAt (.colon done key) stack ⟨.noColon, next⟩
  | .afterMember done, some '\x7d' => complete (.object done.reverse none) stack
  | .afterMember done, some ',' => .within (.nextKey done) stack
  | .afterMember done, _ => stopAt (.afterMember done) stack ⟨.noObjectComma, next⟩
  | phase, _ => stopAt phase stack ⟨.noValue, next⟩

def stepBetween (r : Reading) (next : Place) (symbol : Option Char) : Reading :=
  match r with
  | .within phase stack =>
    if symbol.any isBlank then r else between phase stack next symbol
  | .ended root => if symbol.any isBlank then r else .closed ⟨root, some next⟩
  | .closed _ => r

/-- One symbol, which begins at `place`. The one that ends a number is read again after it. -/
def step (r : Reading) (place : Place) (symbol : Option Char) : Reading :=
  let next := place.next symbol
  match r with
  | .within (.literal (c :: rest) node) stack =>
    if symbol = some c then
      if rest.isEmpty then complete node stack else .within (.literal rest node) stack
    else stopAt (.literal (c :: rest) node) stack ⟨.badWord, next⟩
  | .within (.text q) stack =>
    match q.step next (place.after symbol) symbol with
    | .more q' => .within (.text q') stack
    | .closed s => complete (.string s) stack
    | .wrong f => stopAt (.text q) stack f
  | .within (.keyText done q) stack =>
    match q.step next (place.after symbol) symbol with
    | .more q' => .within (.keyText done q') stack
    | .closed key => .within (.colon done key) stack
    | .wrong f => stopAt (.keyText done q) stack f
  | .within (.number phase n) stack =>
    match n.step phase next (symbol.getD '\x00') with
    | .more phase' n' => .within (.number phase' n') stack
    | .ended => (complete (.number (n.value place)) stack).stepBetween next symbol
    | .wrong => stopAt (.number phase n) stack ⟨.badNumber, next⟩
  | r => r.stepBetween next symbol

def endFlaw : Phase → Flaw
  | .firstItem | .afterItem _ => .endInList
  | .firstKey | .colon _ _ | .afterMember _ => .endInObject
  | .keyText _ _ | .text _ => .endInString
  | _ => .endInValue

/-- What has been read when the text ends between two values. -/
def document (r : Reading) (place : Place) : Document :=
  match r with
  | .closed d => d
  | .ended root => ⟨root, none⟩
  | .within phase stack =>
    match cut phase ⟨endFlaw phase, place⟩ with
    | (d, stop) => ⟨wrap stop d stack, none⟩

/-- The end of the text, which also ends a number. -/
def finish (r : Reading) (place : Place) : Document :=
  match r with
  | .within (.number phase n) stack =>
    if Numeral.complete phase then (complete (.number (n.value place)) stack).document place
    else r.document place
  | r => r.document place

def run (r : Reading) (place : Place) : List (Option Char) → Document
  | [] => r.finish place
  | symbol :: rest => run (r.step place symbol) (place.after symbol) rest

end Reading

namespace Document

/-- The draft of a text given as characters and strays. -/
def ofSymbols (symbols : List (Option Char)) : Document :=
  Reading.run (.within .value []) .start symbols

def ofText (s : String) : Document := ofSymbols (s.toList.map some)

def ofBytes (bytes : List UInt8) : Document := ofSymbols (Utf8.scan bytes)

end Document

namespace Json

/-- The value that a text writes, with the members of its objects by increasing key. -/
def ofText (s : String) : Except Fault Json := (Document.ofText s).read

end Json
end ErrorBoundary
