import ErrorBoundary.Toml.Quoted
import ErrorBoundary.Toml.Scalar

/-!
# ErrorBoundary.Toml.Document

Reading a TOML document: lines that open a table or write a value under a key. Of a text that is
no document it is only told that it is none.

* `Toml.readValue?` — a value at the front of a text, and the rest.
* `TomlSheet`       — the tables so far, and the one that is open.
* `Toml.ofText?`    — the top-level table of a document.

A step takes a character or enters an array or a table, so twice as many steps as there are
characters suffice.
-/

namespace ErrorBoundary
namespace Toml

/-! ## Between values -/

def isBlank (c : Char) : Bool := c == ' ' || c == '\t'

def skipBlanks (cs : List Char) : List Char := cs.dropWhile isBlank

/-- Passes over blanks, comments and the ends of lines. -/
def skipLines? (inComment : Bool) : List Char → Option (List Char)
  | [] => some []
  | '\r' :: '\n' :: rest => skipLines? false rest
  | c :: rest =>
    if c = '\n' then skipLines? false rest
    else if inComment then (if isPlain c then skipLines? true rest else none)
    else if c = '#' then skipLines? true rest
    else if isBlank c then skipLines? false rest
    else some (c :: rest)

/-- The rest of a line holds blanks and a comment only; what comes in the next line. -/
def endLine? (inComment : Bool) : List Char → Option (List Char)
  | [] => some []
  | '\r' :: '\n' :: rest => some rest
  | c :: rest =>
    if c = '\n' then some rest
    else if inComment then (if isPlain c then endLine? true rest else none)
    else if c = '#' then endLine? true rest
    else if isBlank c then endLine? false rest
    else none

/-! ## Keys -/

def isKeyChar (c : Char) : Bool := c.isAlphanum || c == '_' || c == '-'

def readKey? (cs : List Char) : Option (String × List Char) :=
  match cs with
  | [] => none
  | c :: rest =>
    if c = '"' ∨ c = '\'' then readQuoted? c false rest
    else if isKeyChar c then
      some (String.ofList (cs.takeWhile isKeyChar), cs.dropWhile isKeyChar)
    else none

/-- Arrays and tables stand within each other, and keys behind each other, up to this many. -/
def maxDepth : Nat := 80

/-- Up to `n` keys with dots between them: those before the last one, and the last one. -/
def readKeys? : Nat → List Char → Option ((List String × String) × List Char)
  | 0, _ => none
  | n + 1, cs =>
    match readKey? cs with
    | none => none
    | some (key, rest) =>
      match skipBlanks rest with
      | '.' :: rest =>
        (readKeys? n (skipBlanks rest)).map fun p => ((key :: p.1.1, p.1.2), p.2)
      | rest => some (([], key), rest)

/-- The path that a header or a statement names, and the blanks behind it. -/
def readPath? (cs : List Char) : Option ((List String × String) × List Char) :=
  readKeys? maxDepth cs

/-! ## Values -/

def isWordChar (c : Char) : Bool := isKeyChar c || c == '+' || c == '.' || c == ':'

/-- Whether a word is a day that a time may follow after a blank. -/
def isDay (word : List Char) : Bool :=
  match Day.read? word with
  | some (_, []) => true
  | _ => false

/-- A value without quotes. Between a day and a time of day one blank may stand. -/
def readWord? (cs : List Char) : Option (Toml × List Char) :=
  let word := cs.takeWhile isWordChar
  match cs.dropWhile isWordChar with
  | ' ' :: c :: rest =>
    if isDay word && c.isDigit then
      let time := (c :: rest).takeWhile isWordChar
      (ofWord? (word ++ 'T' :: time)).map fun v => (v, (c :: rest).dropWhile isWordChar)
    else (ofWord? word).map fun v => (v, ' ' :: c :: rest)
  | rest => (ofWord? word).map fun v => (v, rest)

mutual

/-- A value at the front of a text, inside `depth` arrays and tables. -/
def readValue? : Nat → Nat → List Char → Option (Toml × List Char)
  | 0, _, _ => none
  | _, _, [] => none
  | fuel + 1, depth, c :: rest =>
    if c = '"' ∨ c = '\'' then
      (readQuoted? c true rest).map fun p => (.string p.1, p.2)
    else if c = '[' then
      if depth < maxDepth then readItems? fuel (depth + 1) [] rest else none
    else if c = '\x7b' then
      if depth < maxDepth then readMembers? fuel (depth + 1) [] rest else none
    else readWord? (c :: rest)

/-- The items of an array from one on, or its end. -/
def readItems? : Nat → Nat → List Toml → List Char → Option (Toml × List Char)
  | 0, _, _, _ => none
  | fuel + 1, depth, done, cs =>
    match skipLines? false cs with
    | none => none
    | some (']' :: rest) => some (.array done.reverse, rest)
    | some cs =>
      match readValue? fuel depth cs with
      | none => none
      | some (v, rest) =>
        match skipLines? false rest with
        | some (',' :: rest) => readItems? fuel depth (v :: done) rest
        | some (']' :: rest) => some (.array (v :: done).reverse, rest)
        | _ => none

/-- The members of a table in braces from one on, or its end. Line ends and comments may stand
anywhere in the braces but inside a path. -/
def readMembers? : Nat → Nat → Members TomlNode → List Char → Option (Toml × List Char)
  | 0, _, _, _ => none
  | fuel + 1, depth, members, cs =>
    match skipLines? false cs with
    | none => none
    | some ('\x7d' :: rest) => some (.table (TomlNode.sealMembers members), rest)
    | some cs =>
      match readMember? fuel depth cs with
      | none => none
      | some (path, key, v, rest) =>
        match TomlNode.assign path key v members with
        | none => none
        | some members =>
          match skipLines? false rest with
          | some (',' :: rest) => readMembers? fuel depth members rest
          | some ('\x7d' :: rest) => some (.table (TomlNode.sealMembers members), rest)
          | _ => none

/-- One member of a table in braces: its path, its key and its value, and the rest. -/
def readMember? : Nat → Nat → List Char → Option (List String × String × Toml × List Char)
  | 0, _, _ => none
  | fuel + 1, depth, cs =>
    match readPath? cs with
    | none => none
    | some ((path, key), rest) =>
      match skipLines? false rest with
      | some ('=' :: rest) =>
        match skipLines? false rest with
        | none => none
        | some rest => (readValue? fuel depth rest).map fun p => (path, key, p.1, p.2)
      | _ => none

end
end Toml

/-! ## Lines -/

/-- The tables so far, and the path of the one that lines write to. -/
structure TomlSheet where
  root : Members TomlNode
  header : List String

namespace TomlSheet

def assign (s : TomlSheet) (path : List String) (key : String) (v : Toml) : Option TomlSheet :=
  (TomlNode.within false (TomlNode.assign path key v) s.header s.root).map fun root =>
    { s with root }

def openTable (s : TomlSheet) (path : List String) (key : String) : Option TomlSheet :=
  (TomlNode.openTable path key s.root).map fun root => ⟨root, path ++ [key]⟩

def openElement (s : TomlSheet) (path : List String) (key : String) : Option TomlSheet :=
  (TomlNode.openElement path key s.root).map fun root => ⟨root, path ++ [key]⟩

/-- One line from its first character on, and what comes behind it. -/
def readLine? (fuel : Nat) (s : TomlSheet) (cs : List Char) : Option (TomlSheet × List Char) :=
  match cs with
  | '[' :: '[' :: rest =>
    match Toml.readPath? (Toml.skipBlanks rest) with
    | some ((path, key), ']' :: ']' :: rest) =>
      (s.openElement path key).bind fun s => (Toml.endLine? false rest).map fun rest => (s, rest)
    | _ => none
  | '[' :: rest =>
    match Toml.readPath? (Toml.skipBlanks rest) with
    | some ((path, key), ']' :: rest) =>
      (s.openTable path key).bind fun s => (Toml.endLine? false rest).map fun rest => (s, rest)
    | _ => none
  | cs =>
    match Toml.readPath? cs with
    | some ((path, key), '=' :: rest) =>
      match Toml.readValue? fuel 0 (Toml.skipBlanks rest) with
      | some (v, rest) =>
        (s.assign path key v).bind fun s => (Toml.endLine? false rest).map fun rest => (s, rest)
      | none => none
    | _ => none

def readLines? : Nat → TomlSheet → List Char → Option TomlSheet
  | 0, _, _ => none
  | fuel + 1, s, cs =>
    match Toml.skipLines? false cs with
    | none => none
    | some [] => some s
    | some cs =>
      match s.readLine? fuel cs with
      | none => none
      | some (s, rest) => readLines? fuel s rest

end TomlSheet

namespace Toml

/-- The top-level table of a document. A byte order mark in front of it does not count. -/
def ofText? (text : String) : Option (Members Toml) :=
  let cs := match text.toList with
    | '\ufeff' :: cs => cs
    | cs => cs
  (TomlSheet.readLines? (2 * cs.length + 2) ⟨[], []⟩ cs).map fun s =>
    TomlNode.sealMembers s.root

end Toml
end ErrorBoundary
