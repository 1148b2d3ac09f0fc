/-!
# ErrorBoundary.Json.Fault

What is wrong with a text that is no JSON, and where. Lines count from one and columns count the
bytes of the line up to and with the byte that is wrong; a fault without a place is on line zero.
-/

namespace ErrorBoundary

/-- A rule of the JSON grammar that a text breaks. -/
inductive Flaw where
  | endInList
  | endInObject
  | endInString
  | endInValue
  | noColon
  | noListComma
  | noObjectComma
  | badWord
  | noValue
  | badEscape
  | badNumber
  | numberOutOfRange
  | badCharacter
  | controlCharacter
  | keyNotString
  | loneSurrogate
  | surrogateCutShort
  | trailingComma
  | trailingCharacters
  | tooDeep
deriving DecidableEq

namespace Flaw

/-- Whether a longer text could still be JSON. -/
def isEnd : Flaw → Bool
  | .endInList | .endInObject | .endInString | .endInValue => true
  | _ => false

def text : Flaw → String
  | .endInList => "EOF while parsing a list"
  | .endInObject => "EOF while parsing an object"
  | .endInString => "EOF while parsing a string"
  | .endInValue => "EOF while parsing a value"
  | .noColon => "expected `:`"
  | .noListComma => "expected `,` or `]`"
  | .noObjectComma => "expected `,` or `\x7d`"
  | .badWord => "expected ident"
  | .noValue => "expected value"
  | .badEscape => "invalid escape"
  | .badNumber => "invalid number"
  | .numberOutOfRange => "number out of range"
  | .badCharacter => "invalid unicode code point"
  | .controlCharacter => "control character (\\u0000-\\u001F) found while parsing a string"
  | .keyNotString => "key must be a string"
  | .loneSurrogate => "lone leading surrogate in hex escape"
  | .surrogateCutShort => "unexpected end of hex escape"
  | .trailingComma => "trailing comma"
  | .trailingCharacters => "trailing characters"
  | .tooDeep => "recursion limit exceeded"

end Flaw

structure Place where
  line : Nat
  column : Nat
deriving DecidableEq

namespace Place

def start : Place := ⟨1, 0⟩

def next (p : Place) (symbol : Option Char) : Place :=
  if symbol = some '\n' then ⟨p.line + 1, 0⟩ else ⟨p.line, p.column + 1⟩

/-- The place after a symbol; a stray counts as one byte. -/
def after (p : Place) (symbol : Option Char) : Place :=
  match symbol with
  | none => ⟨p.line, p.column + 1⟩
  | some c => if c = '\n' then ⟨p.line + 1, 0⟩ else ⟨p.line, p.column + c.utf8Size⟩

end Place

structure Fault where
  flaw : Flaw
  place : Place
deriving DecidableEq

namespace Fault

/-- A fault that is noticed apart from the text. -/
def unplaced (flaw : Flaw) : Fault := ⟨flaw, ⟨0, 0⟩⟩

def isEnd (f : Fault) : Bool := f.flaw.isEnd

def message (f : Fault) : String :=
  if f.place.line = 0 then f.flaw.text
  else s!"{f.flaw.text} at line {f.place.line} column {f.place.column}"

end Fault
end ErrorBoundary
