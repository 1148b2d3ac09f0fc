import ErrorBoundary.Text.Ascii

/-!
# ErrorBoundary.Http.MediaType

Media types: `type/subtype`, maybe a suffix after the last `+`, and parameters. All names compare
without regard to case.

* `MediaType.ofString?`  — reading a content type.
* `MediaType.isJson`     — the types of JSON bodies.
* `MediaType.parameter?` — the first parameter of a name.
-/

namespace ErrorBoundary

structure MediaType where
  /-- In lower case. -/
  type : String
  /-- In lower case, with the suffix. -/
  subtype : String
  /-- Names in lower case, values as written. -/
  parameters : List (String × String)
deriving DecidableEq

namespace MediaType

inductive ParameterPhase where
  | start
  | name (reversed : List Char)
  | valueStart (name : List Char)
  | value (name : List Char) (reversed : List Char)
  | quoted (name : List Char) (reversed : List Char)
  | afterQuote

/-- A character inside quotes. There is no escape. -/
def isQuotedChar (c : Char) : Bool := 0x20 ≤ c.toNat && c.toNat != 0x7F

def parameter (name value : List Char) : String × String :=
  (lowerAscii (String.ofList name), String.ofList value)

/-- Parameters after the first `;`. Blanks may stand before a name and after a quoted value only;
a value without quotes may be empty only at the end, and the quote that follows an opening quote
does not close it. -/
def parametersFrom? (done : List (String × String)) (phase : ParameterPhase) :
    List Char → Option (List (String × String))
  | [] =>
    match phase with
    | .start => some done.reverse
    | .name _ => none
    | .valueStart name => some (parameter name [] :: done).reverse
    | .value name reversed => some (parameter name reversed.reverse :: done).reverse
    | .quoted _ _ => none
    | .afterQuote => some done.reverse
  | c :: rest =>
    match phase with
    | .start =>
      if c = ' ' then parametersFrom? done .start rest
      else if isTokenChar c then parametersFrom? done (.name [c]) rest
      else none
    | .name reversed =>
      if c = '=' then parametersFrom? done (.valueStart reversed.reverse) rest
      else if isTokenChar c then parametersFrom? done (.name (c :: reversed)) rest
      else none
    | .valueStart name =>
      if c = '"' then parametersFrom? done (.quoted name []) rest
      else if isTokenChar c then parametersFrom? done (.value name [c]) rest
      else none
    | .value name reversed =>
      if c = ';' then parametersFrom? (parameter name reversed.reverse :: done) .start rest
      else if isTokenChar c then parametersFrom? done (.value name (c :: reversed)) rest
      else none
    | .quoted name reversed =>
      if c = '"' ∧ !reversed.isEmpty then
        parametersFrom? (parameter name reversed.reverse :: done) .afterQuote rest
      else if isQuotedChar c then parametersFrom? done (.quoted name (c :: reversed)) rest
      else none
    | .afterQuote =>
      if c = ';' then parametersFrom? done .start rest
      else if c = ' ' then parametersFrom? done .afterQuote rest
      else none

def ofString? (s : String) : Option MediaType :=
  match s.toList.span isTokenChar with
  | ([], _) => none
  | (type, '/' :: rest) =>
    match rest.span isTokenChar with
    | (subtype, rest) =>
      let parameters := match subtype, rest with
        | _, [] => some []
        | _ :: _, ';' :: rest => parametersFrom? [] .start rest
        | _, _ => none
      match parameters with
      | none => none
      | some parameters =>
        some ⟨lowerAscii (String.ofList type), lowerAscii (String.ofList subtype), parameters⟩
  | _ => none

/-- The subtype before its last `+` and the suffix behind it. A `+` in front is no mark of one. -/
def splitSuffix (m : MediaType) : String × Option String :=
  match m.subtype.toList.reverse.span (· != '+') with
  | (suffix, '+' :: base) =>
    if base.isEmpty then (m.subtype, none)
    else (String.ofList base.reverse, some (String.ofList suffix.reverse))
  | _ => (m.subtype, none)

def isJson (m : MediaType) : Bool :=
  m.type == "application" && (m.splitSuffix.1 == "json" || m.splitSuffix.2 == some "json")

def isFormData (m : MediaType) : Bool :=
  m.type == "multipart" && m.splitSuffix.1 == "form-data"

def parameter? (m : MediaType) (name : String) : Option String :=
  (m.parameters.find? fun p => p.1 = name).map Prod.snd

end MediaType
end ErrorBoundary
