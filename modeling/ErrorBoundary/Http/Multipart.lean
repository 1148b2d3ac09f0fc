import ErrorBoundary.Failure.Api
import ErrorBoundary.Text.Ascii
import ErrorBoundary.Text.Utf8

/-!
# ErrorBoundary.Http.Multipart

Form uploads: parts between delimiters, each with headers and data. Text before the first
delimiter and after the last one is passed over.

* `splitOn?`                — a byte string around the first place of another.
* `PartHeaders.read`        — the header lines of a part.
* `dispositionAttribute?`   — `name` and `filename` of a part.
* `Multipart.parts`         — the parts of a whole body, or what is wrong with it.
-/

namespace ErrorBoundary

abbrev Bytes := List UInt8

namespace Bytes

def ofString (s : String) : Bytes := Utf8.encode s

def cr : UInt8 := 13
def lf : UInt8 := 10
def crlf : Bytes := [cr, lf]

def charOf (b : UInt8) : Char := Char.ofNat b.toNat

def isBlank (b : UInt8) : Bool := b == 32 || b == 9

/-- The rest after `needle`, when the bytes begin with it. -/
def after? : Bytes → Bytes → Option Bytes
  | [], rest => some rest
  | _ :: _, [] => none
  | n :: needle, b :: rest => if n = b then after? needle rest else none

/-- The bytes before the first place of `needle`, newest first, and those after it. -/
def splitFrom? (needle : Bytes) (before : Bytes) : Bytes → Option (Bytes × Bytes)
  | [] => (after? needle []).map fun rest => (before, rest)
  | b :: bs =>
    match after? needle (b :: bs) with
    | some rest => some (before, rest)
    | none => splitFrom? needle (b :: before) bs

/-- The bytes before the first place of `needle`, and those after it. -/
def splitOn? (needle bytes : Bytes) : Option (Bytes × Bytes) :=
  (splitFrom? needle [] bytes).map fun p => (p.1.reverse, p.2)

end Bytes

/-! ## Headers of a part -/

namespace PartHeaders

open Bytes

inductive Fault where
  | name
  | value
  | newLine
  | tooMany
deriving DecidableEq

def Fault.text : Fault → String
  | .name => "invalid header name"
  | .value => "invalid header value"
  | .newLine => "invalid new line"
  | .tooMany => "too many headers"

inductive Phase where
  | lineStart
  /-- After the first byte of an empty line that ends in two. -/
  | lastLine
  | name (reversed : Bytes)
  | valueStart (name : Bytes)
  | value (name reversed : Bytes)
  /-- After the first byte of a line end. -/
  | lineEnd (name reversed : Bytes)

def isNameByte (b : UInt8) : Bool := b < 128 && isTokenChar (charOf b)

def isValueByte (b : UInt8) : Bool := b == 9 || (32 ≤ b && b != 127)

/-- How many headers a part may have. -/
def maxCount : Nat := 32

def trimEnd (reversed : Bytes) : Bytes := (reversed.dropWhile isBlank).reverse

/-- Header lines up to an empty one; the lines found, newest first, stand in `done`. Lines end in
CR and LF or in LF alone. -/
def readFrom (done : List (Bytes × Bytes)) (phase : Phase) :
    Bytes → Except Fault (List (Bytes × Bytes))
  | [] => .ok done.reverse
  | b :: bs =>
    match phase with
    | .lineStart =>
      if b = cr then readFrom done .lastLine bs
      else if b = lf then .ok done.reverse
      else if isNameByte b then readFrom done (.name [b]) bs
      else .error .name
    | .lastLine => if b = lf then .ok done.reverse else .error .newLine
    | .name reversed =>
      if b = 58 then readFrom done (.valueStart reversed.reverse) bs
      else if isNameByte b then readFrom done (.name (b :: reversed)) bs
      else .error .name
    | .valueStart name =>
      if isBlank b then readFrom done (.valueStart name) bs
      else if isValueByte b then readFrom done (.value name [b]) bs
      else if b = cr then readFrom done (.lineEnd name []) bs
      else if b = lf then
        if done.length < maxCount then readFrom ((name, []) :: done) .lineStart bs
        else .error .tooMany
      else .error .value
    | .value name reversed =>
      if isValueByte b then readFrom done (.value name (b :: reversed)) bs
      else if b = cr then readFrom done (.lineEnd name reversed) bs
      else if b = lf then
        if done.length < maxCount then readFrom ((name, trimEnd reversed) :: done) .lineStart bs
        else .error .tooMany
      else .error .value
    | .lineEnd name reversed =>
      if b = lf then
        if done.length < maxCount then readFrom ((name, trimEnd reversed) :: done) .lineStart bs
        else .error .tooMany
      else .error .value

def read (bytes : Bytes) : Except Fault (List (Bytes × Bytes)) := readFrom [] .lineStart bytes

def lowerName (name : Bytes) : String := lowerAscii (String.ofList (name.map charOf))

def last? (headers : List (Bytes × Bytes)) (name : String) : Option Bytes :=
  (headers.reverse.find? fun h => lowerName h.1 = name).map Prod.snd

end PartHeaders

/-! ## Content-Disposition -/

namespace Disposition

open Bytes

def isSpace (b : UInt8) : Bool := b == 32 || b == 9 || b == 10 || b == 12 || b == 13

def quoteByte : UInt8 := 34
def backslash : UInt8 := 92
def semicolon : UInt8 := 59
def equals : UInt8 := 61

/-- The value up to the closing quote; a backslash keeps the quote after it from closing, and goes
away with that. -/
def quotedFrom? (reversed : Bytes) : Bytes → Option Bytes
  | [] => none
  | b :: bs =>
    if b = quoteByte then
      match reversed with
      | p :: before =>
        if p = backslash then quotedFrom? (quoteByte :: before) bs else some reversed.reverse
      | [] => some []
    else quotedFrom? (b :: reversed) bs

def value? (bytes : Bytes) : Option Bytes :=
  match bytes.dropWhile isSpace with
  | b :: rest =>
    if b = equals then
      match rest.dropWhile isSpace with
      | c :: quoted =>
        if c = quoteByte then quotedFrom? [] quoted
        else some ((c :: quoted).takeWhile fun d => d != semicolon && d != 32)
      | [] => some []
    else none
  | [] => none

/-- The value of the first attribute of a name that stands at the start, or after a blank or a
semicolon. Behind a place inside a longer name the search starts anew. -/
def find? (name : Bytes) (previous : Option UInt8) (header : Bytes) : Option Bytes :=
  match header with
  | [] => none
  | b :: bs =>
    match after? name (b :: bs) with
    | some rest =>
      if previous.all fun p => isSpace p || p == semicolon then value? rest
      else skip? name (name.length - 1) bs
    | none => find? name (some b) bs
where
  /-- Drops the rest of a name and goes on as at a start. -/
  skip? (name : Bytes) (count : Nat) (header : Bytes) : Option Bytes :=
    match count, header with
    | 0, header => find? name none header
    | _ + 1, [] => none
    | count + 1, _ :: bs => skip? name count bs

/-- An attribute of a header, when its value is text. -/
def attribute? (name : String) (header : Bytes) : Option String :=
  (find? (ofString name) none header).bind Utf8.decode?

end Disposition

/-! ## Parts -/

structure Part where
  name : Option String
  fileName : Option String
  data : Bytes

namespace Multipart

open Bytes

/-- The end of a part's head: name and file name. -/
def partHead (headers : List (Bytes × Bytes)) : Option String × Option String :=
  match PartHeaders.last? headers "content-disposition" with
  | some value =>
    (Disposition.attribute? "name" value, Disposition.attribute? "filename" value)
  | none => (none, none)

def dashes : Bytes := [45, 45]

/-- What follows a delimiter: the end of the upload, or a part up to the next delimiter. Each part
takes at least the bytes of a delimiter, so `fuel` of the length of the body suffices. -/
def partsFrom (delimiter : Bytes) (done : List Part) :
    Nat → Bytes → Except MultipartError (List Part)
  | 0, _ => .error .incompleteStream
  | fuel + 1, bytes =>
    match after? dashes bytes with
    | some _ => .ok done.reverse
    | none =>
      if bytes.length < dashes.length then .error .incompleteStream
      else
        match after? crlf (bytes.dropWhile isBlank) with
        | none => .error .incompleteStream
        | some rest =>
          match splitOn? (crlf ++ crlf) rest with
          | none => .error .incompleteStream
          | some (head, rest) =>
            match PartHeaders.read (head ++ crlf ++ crlf) with
            | .error f => .error (.headers f.text)
            | .ok headers =>
              match partHead headers with
              | (name, fileName) =>
                match splitOn? (crlf ++ delimiter) rest with
                | none => .error (.incompleteField name)
                | some (data, rest) =>
                  partsFrom delimiter (⟨name, fileName, data⟩ :: done) fuel rest

def parts (boundary : String) (bytes : Bytes) : Except MultipartError (List Part) :=
  let delimiter := dashes ++ ofString boundary
  match splitOn? delimiter bytes with
  | none => .error .incompleteStream
  | some (_, rest) => partsFrom delimiter [] (bytes.length + 1) rest

end Multipart
end ErrorBoundary
