import ErrorBoundary.Json.Basic
import ErrorBoundary.Text.Quoted

/-!
# ErrorBoundary.Json.Printer

The compact text of a JSON value: no blanks, members in the order they stand, and inside a string
only what must be escaped is escaped.

* `Json.escapeChar` — the text of one character; nothing below U+0020 stays raw.
* `Json.escape`     — a string with its quotes.
* `Json.compact`    — a whole value.
-/

namespace ErrorBoundary
namespace Json

/-- A hexadecimal digit of a number below sixteen, lower case. -/
def hexDigit (n : Nat) : Char := Nat.digitChar n

/-- The text of one character inside a string. The five controls with a letter of their own use
it, the others their code; everything from U+0020 on but the quote and the backslash stays. -/
def escapeChar (c : Char) : List Char :=
  if c = '"' then ['\\', '"']
  else if c = '\\' then ['\\', '\\']
  else if c = '\x08' then ['\\', 'b']
  else if c = '\x09' then ['\\', 't']
  else if c = '\x0a' then ['\\', 'n']
  else if c = '\x0c' then ['\\', 'f']
  else if c = '\x0d' then ['\\', 'r']
  else if c.toNat < 0x20 then
    ['\\', 'u', '0', '0', hexDigit (c.toNat / 16), hexDigit (c.toNat % 16)]
  else [c]

def escape (s : String) : List Char := '"' :: s.toList.flatMap escapeChar ++ ['"']

/-- A double is written with the fewest digits that read back; what is no number is `null`. -/
def numberText : Number → List Char
  | .whole n => (toString n).toList
  | .real (.finite s m e) => (Binary64.scientific (.finite s m e)).toList
  | .real _ => "null".toList

mutual

def chars : Json → List Char
  | .null => "null".toList
  | .bool true => "true".toList
  | .bool false => "false".toList
  | .number n => numberText n
  | .string s => escape s
  | .array items => '[' :: charsOfItems items ++ [']']
  | .object members => '\x7b' :: charsOfMembers members ++ ['\x7d']

def charsOfItems : List Json → List Char
  | [] => []
  | [v] => chars v
  | v :: w :: rest => chars v ++ ',' :: charsOfItems (w :: rest)

def charsOfMembers : List (String × Json) → List Char
  | [] => []
  | [(k, v)] => escape k ++ ':' :: chars v
  | (k, v) :: m :: rest => escape k ++ ':' :: (chars v ++ ',' :: charsOfMembers (m :: rest))

end

def compact (v : Json) : String := String.ofList v.chars

mutual

/-- The same value with the members of every object by increasing key. -/
def sorted : Json → Json
  | .array items => .array (sortedItems items)
  | .object members => .object (sortMembers (sortedMembers members))
  | v => v

def sortedItems : List Json → List Json
  | [] => []
  | v :: rest => sorted v :: sortedItems rest

def sortedMembers : List (String × Json) → List (String × Json)
  | [] => []
  | (k, v) :: rest => (k, sorted v) :: sortedMembers rest

end

end Json
end ErrorBoundary
