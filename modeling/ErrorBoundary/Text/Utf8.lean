/-!
# ErrorBoundary.Text.Utf8

Reading bytes as UTF-8, one byte at a time. A byte that belongs to no well-formed character reads
as `none`, so a reader that cares about the bytes inside one string only can go on past it.

* `Utf8.scan`    — bytes to characters and strays.
* `Utf8.decode?` — the whole text, when no byte is a stray.
* `Utf8.replaced` — the whole text, with a replacement character for each stray.
* `Utf8.encode`  — the bytes of a text.
* `Utf8.dropBytes?`, `Utf8.takeBytes?` — a text behind and up to a number of its bytes.
-/

namespace ErrorBoundary
namespace Utf8

/-- Where the reader stands inside a character. -/
inductive State where
  | start
  /-- `need` more bytes are due, the next of them within `lo` and `hi`. -/
  | within (need : Nat) (code lo hi : Nat)

/-- A first byte fixes how many bytes follow, and narrows the second one where a shorter form, a
surrogate or a number beyond U+10FFFF would be written otherwise. -/
def first (b : Nat) : Option Char ⊕ State :=
  if b < 0x80 then .inl (some (Char.ofNat b))
  else if 0xC2 ≤ b ∧ b ≤ 0xDF then .inr (.within 1 (b - 0xC0) 0x80 0xBF)
  else if b = 0xE0 then .inr (.within 2 0 0xA0 0xBF)
  else if b = 0xED then .inr (.within 2 0xD 0x80 0x9F)
  else if 0xE1 ≤ b ∧ b ≤ 0xEF then .inr (.within 2 (b - 0xE0) 0x80 0xBF)
  else if b = 0xF0 then .inr (.within 3 0 0x90 0xBF)
  else if b = 0xF4 then .inr (.within 3 4 0x80 0x8F)
  else if 0xF1 ≤ b ∧ b ≤ 0xF3 then .inr (.within 3 (b - 0xF0) 0x80 0xBF)
  else .inl none

/-- One byte: the characters it completes, newest first, and the new state. A character that
breaks off is one stray, and the byte is read again as a first byte. -/
def step (s : State) (b : UInt8) (out : List (Option Char)) : State × List (Option Char) :=
  match s with
  | .start =>
    match first b.toNat with
    | .inl c => (.start, c :: out)
    | .inr s' => (s', out)
  | .within need code lo hi =>
    if lo ≤ b.toNat ∧ b.toNat ≤ hi then
      let code' := 64 * code + (b.toNat - 0x80)
      if need = 1 then (.start, some (Char.ofNat code') :: out)
      else (.within (need - 1) code' 0x80 0xBF, out)
    else
      match first b.toNat with
      | .inl c => (.start, c :: none :: out)
      | .inr s' => (s', none :: out)

def scanFrom (s : State) (out : List (Option Char)) : List UInt8 → List (Option Char)
  | [] =>
    match s with
    | .start => out.reverse
    | .within .. => (none :: out).reverse
  | b :: bs =>
    match step s b out with
    | (s', out') => scanFrom s' out' bs

/-- The characters of a byte string, with `none` for each stray. -/
def scan (bytes : List UInt8) : List (Option Char) := scanFrom .start [] bytes

/-- The text of a byte string that is well-formed throughout. -/
def decode? (bytes : List UInt8) : Option String :=
  let symbols := scan bytes
  if symbols.all Option.isSome then some (String.ofList (symbols.filterMap id)) else none

/-- The text of a byte string; a replacement character stands for each stray. -/
def replaced (bytes : List UInt8) : String :=
  String.ofList ((scan bytes).map fun c => c.getD '\ufffd')

def encode (s : String) : List UInt8 := s.toUTF8.toList

/-- What follows the first `n` bytes; nothing if these end inside a character. -/
def dropBytes? : Nat → List Char → Option (List Char)
  | 0, cs => some cs
  | _ + 1, [] => none
  | n + 1, c :: cs => if c.utf8Size ≤ n + 1 then dropBytes? (n + 1 - c.utf8Size) cs else none

/-- The characters of the first `n` bytes; nothing if these end inside a character. -/
def takeBytes? : Nat → List Char → Option (List Char)
  | 0, _ => some []
  | _ + 1, [] => none
  | n + 1, c :: cs =>
    if c.utf8Size ≤ n + 1 then (takeBytes? (n + 1 - c.utf8Size) cs).map (c :: ·) else none

end Utf8
end ErrorBoundary
