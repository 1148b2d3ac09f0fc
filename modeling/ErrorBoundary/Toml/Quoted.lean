import ErrorBoundary.Text.Ascii

/-!
# ErrorBoundary.Toml.Quoted

Strings of a TOML document. A mark opens and closes a string; three marks open one that may go
over several lines, whose ends it keeps as they are written. Between double quotes a backslash
escapes, between single quotes nothing does.

* `Quotation.step` — one character of a string.
* `Quotation.scan` — a string up to its closing marks, and the rest.
* `readQuoted?`    — the string at the front of a text.
-/

namespace ErrorBoundary

/-- A character that may stand in a string or in a comment: no control but the tab. -/
def isPlain (c : Char) : Bool := (0x20 ≤ c.toNat && c.toNat != 0x7F) || c == '\t'

/-- Which marks enclose a string. -/
structure Quotation where
  mark : Char
  escapes : Bool
  lines : Bool

/-- How far into an escape, or into marks that may close the string, the reader is. -/
inductive QuotedPhase where
  | plain
  | escape
  /-- So many hexadecimal digits are due. -/
  | code (due value : Nat)
  /-- A backslash at the end of a line leaves out all blanks up to the next text; the end of the
  line has to follow, unless it was `crossed` already. -/
  | fold (crossed : Bool)
  /-- The line feed of a line's end is due. -/
  | lineFeed (folding : Bool)
  | marks (count : Nat)

inductive QuotedStep where
  | more (phase : QuotedPhase) (done : List Char)
  | closed (text : List Char)
  /-- The string was over before the character. -/
  | closedBefore (text : List Char)
  | wrong

namespace Quotation

/-- The character that a letter after a backslash stands for. -/
def escaped? (c : Char) : Option Char :=
  if c = '"' ∨ c = '\\' then some c
  else if c = 'b' then some '\x08'
  else if c = 't' then some '\t'
  else if c = 'n' then some '\n'
  else if c = 'f' then some '\x0c'
  else if c = 'r' then some '\r'
  else if c = 'e' then some '\x1b'
  else none

/-- How many digits follow a letter after a backslash. -/
def codeLength? (c : Char) : Option Nat :=
  if c = 'x' then some 2
  else if c = 'u' then some 4
  else if c = 'U' then some 8
  else none

def isBlank (c : Char) : Bool := c == ' ' || c == '\t'

/-- A character outside escapes; what was read stands newest first. -/
def plainStep (q : Quotation) (done : List Char) (c : Char) : QuotedStep :=
  if c = q.mark then (if q.lines then .more (.marks 1) done else .closed done.reverse)
  else if c = '\\' ∧ q.escapes then .more .escape done
  else if c = '\n' ∧ q.lines then .more .plain (c :: done)
  else if c = '\r' ∧ q.lines then .more (.lineFeed false) done
  else if isPlain c then .more .plain (c :: done)
  else .wrong

def escapeStep (q : Quotation) (done : List Char) (c : Char) : QuotedStep :=
  match escaped? c, codeLength? c with
  | some d, _ => .more .plain (d :: done)
  | none, some due => .more (.code due 0) done
  | none, none =>
    if !q.lines then .wrong
    else if isBlank c then .more (.fold false) done
    else if c = '\n' then .more (.fold true) done
    else if c = '\r' then .more (.lineFeed true) done
    else .wrong

/-- A digit of a code; the last one completes a character, if the code is that of one. -/
def codeStep (due value : Nat) (done : List Char) (c : Char) : QuotedStep :=
  match hexValue? c with
  | none => .wrong
  | some d =>
    let value := 16 * value + d
    if 1 < due then .more (.code (due - 1) value) done
    else if value.isValidChar then .more .plain (Char.ofNat value :: done)
    else .wrong

/-- Three marks close a string, and up to two more in front of them belong to it. -/
def step (q : Quotation) (phase : QuotedPhase) (done : List Char) (c : Char) : QuotedStep :=
  match phase with
  | .plain => q.plainStep done c
  | .escape => q.escapeStep done c
  | .code due value => codeStep due value done c
  | .fold crossed =>
    if isBlank c then .more (.fold crossed) done
    else if c = '\n' then .more (.fold true) done
    else if c = '\r' then .more (.lineFeed true) done
    else if crossed then q.plainStep done c
    else .wrong
  | .lineFeed folding =>
    if c != '\n' then .wrong
    else if folding then .more (.fold true) done
    else .more .plain ('\n' :: '\r' :: done)
  | .marks count =>
    if c = q.mark then
      if count < 4 then .more (.marks (count + 1)) done
      else .closed (List.replicate 2 q.mark ++ done).reverse
    else if count < 3 then q.plainStep (List.replicate count q.mark ++ done) c
    else .closedBefore (List.replicate (count - 3) q.mark ++ done).reverse

/-- What a string comes to when the document ends. -/
def atEnd? (q : Quotation) (phase : QuotedPhase) (done : List Char) : Option (List Char) :=
  match phase with
  | .marks count =>
    if count < 3 then none else some (List.replicate (count - 3) q.mark ++ done).reverse
  | _ => none

/-- The text up to the closing marks, and what follows them. -/
def scan (q : Quotation) (phase : QuotedPhase) (done : List Char) :
    List Char → Option (List Char × List Char)
  | [] => (q.atEnd? phase done).map fun text => (text, [])
  | c :: rest =>
    match q.step phase done c with
    | .more phase done => scan q phase done rest
    | .closed text => some (text, rest)
    | .closedBefore text => some (text, c :: rest)
    | .wrong => none

/-- A line's end right behind the opening marks does not count. -/
def dropLineEnd : List Char → List Char
  | '\n' :: rest => rest
  | '\r' :: '\n' :: rest => rest
  | rest => rest

end Quotation

/-- The string at the front of a text, behind its first mark, and the rest. -/
def readQuoted? (mark : Char) (linesAllowed : Bool) (cs : List Char) :
    Option (String × List Char) :=
  let escapes := mark == '"'
  let read := match cs with
    | a :: b :: rest =>
      if a = mark ∧ b = mark ∧ linesAllowed then
        Quotation.scan ⟨mark, escapes, true⟩ .plain [] (Quotation.dropLineEnd rest)
      else Quotation.scan ⟨mark, escapes, false⟩ .plain [] cs
    | _ => Quotation.scan ⟨mark, escapes, false⟩ .plain [] cs
  read.map fun p => (String.ofList p.1, p.2)

end ErrorBoundary
