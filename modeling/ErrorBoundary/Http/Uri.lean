import ErrorBoundary.Text.Ascii

/-!
# ErrorBoundary.Http.Uri

Request targets. A target is a path, `*`, an authority alone, or a scheme with an authority and
maybe a path; a query may follow a path, and a fragment is dropped.

* `Uri.isAuthority` — the texts that name a host, with user and port.
* `Uri.ofString?`   — reading a target.
* `Uri.ofParts?`    — putting one together.
* `Uri.text`        — the target as text.
-/

namespace ErrorBoundary

structure Uri where
  scheme : Option String
  authority : Option String
  /-- Empty where an authority stands alone, and in a target of no parts at all. -/
  path : String
  query : Option String
deriving DecidableEq

namespace Uri

def text (u : Uri) : String :=
  let scheme := match u.scheme with
    | some s => s ++ "://"
    | none => ""
  let query := match u.query with
    | some q => "?" ++ q
    | none => ""
  scheme ++ u.authority.getD "" ++ u.path ++ query

/-! ## Authorities -/

/-- What counts while an authority is read: colons since the last `@` or `]`, brackets, and a `%`
that no `@` has followed yet. -/
structure AuthorityScan where
  colons : Nat
  opened : Bool
  closed : Bool
  percent : Bool
  endsInAt : Bool

def isAuthorityChar (c : Char) : Bool :=
  c.isAlphanum || "!$&'()*+,-.;=_~".toList.contains c

namespace AuthorityScan

def start : AuthorityScan := ⟨0, false, false, false, false⟩

/-- How many colons a bracketed address may hold. -/
def maxColons : Nat := 8

def step? (s : AuthorityScan) (c : Char) : Option AuthorityScan :=
  if c = ':' then
    if s.colons < maxColons then some { s with colons := s.colons + 1, endsInAt := false } else none
  else if c = '[' then
    if s.percent || s.opened then none else some { s with opened := true, endsInAt := false }
  else if c = ']' then
    if !s.opened || s.closed then none
    else some { s with closed := true, colons := 0, percent := false, endsInAt := false }
  else if c = '@' then some { s with colons := 0, percent := false, endsInAt := true }
  else if c = '%' then some { s with percent := true, endsInAt := false }
  else if isAuthorityChar c then some { s with endsInAt := false }
  else none

/-- Brackets match, one port at most, something after the user, and no `%` in the host. -/
def accepts (s : AuthorityScan) : Bool :=
  s.opened == s.closed && s.colons ≤ 1 && !s.endsInAt && !s.percent

def run? (s : AuthorityScan) : List Char → Option AuthorityScan
  | [] => some s
  | c :: rest =>
    match s.step? c with
    | some s' => run? s' rest
    | none => none

end AuthorityScan

def isAuthority (cs : List Char) : Bool :=
  !cs.isEmpty && (AuthorityScan.start.run? cs).any AuthorityScan.accepts

/-! ## Paths and queries -/

def isPathChar (c : Char) : Bool :=
  let n := c.toNat
  n == 0x21 || c == '"' || (0x24 ≤ n && n ≤ 0x3B) || n == 0x3D || (0x40 ≤ n && n ≤ 0x5F) ||
    (0x61 ≤ n && n ≤ 0x7E) || 0x80 ≤ n

def isQueryChar (c : Char) : Bool :=
  let n := c.toNat
  n == 0x21 || (0x24 ≤ n && n ≤ 0x3B) || n == 0x3D || (0x3F ≤ n && n ≤ 0x7E) || 0x80 ≤ n

/-- The part before the first character of `stops`, and the rest from there. -/
def cutAt (stops : List Char) (cs : List Char) : List Char × List Char :=
  cs.span fun c => !stops.contains c

/-- A path and a query; what follows a `#` is not looked at. -/
def pathAndQuery? (cs : List Char) : Option (String × Option String) :=
  match cutAt ['?', '#'] cs with
  | (path, rest) =>
    if !path.all isPathChar then none
    else
      match rest with
      | '?' :: rest =>
        match cutAt ['#'] rest with
        | (query, _) =>
          if query.all isQueryChar then some (String.ofList path, some (String.ofList query))
          else none
      | _ => some (String.ofList path, none)

/-- Behind a scheme and an authority the path is never empty. -/
def orRoot (path : String) : String := if path.isEmpty then "/" else path

/-! ## Schemes -/

def isSchemeChar (c : Char) : Bool := c.isAlphanum || "+-.~".toList.contains c

def maxSchemeLength : Nat := 64

/-- A scheme and what follows its `://`. -/
def splitScheme? (cs : List Char) : Option (List Char × List Char) :=
  match cs.span isSchemeChar with
  | (scheme, ':' :: '/' :: '/' :: rest) => some (scheme, rest)
  | _ => none

/-- The two common schemes are written in lower case. -/
def schemeName (scheme : List Char) : String :=
  let lower := lowerAscii (String.ofList scheme)
  if lower = "http" ∨ lower = "https" then lower else String.ofList scheme

/-- The longest target, in bytes. -/
def maxLength : Nat := 65534

/-- A target with neither a path in front nor `*`: an authority alone, or a scheme with one. -/
def absolute? (cs : List Char) : Option Uri :=
  match splitScheme? cs with
  | none =>
    if isAuthority cs then some ⟨none, some (String.ofList cs), "", none⟩ else none
  | some (scheme, rest) =>
    if maxSchemeLength < scheme.length then none
    else
      match cutAt ['/', '?', '#'] rest with
      | (authority, rest) =>
        if !isAuthority authority then none
        else
          match pathAndQuery? rest with
          | none => none
          | some (path, query) =>
            some ⟨some (schemeName scheme), some (String.ofList authority), orRoot path, query⟩

def ofString? (s : String) : Option Uri :=
  if maxLength < s.utf8ByteSize then none
  else
    match s.toList with
    | ['*'] => some ⟨none, none, "*", none⟩
    | '/' :: rest =>
      match pathAndQuery? ('/' :: rest) with
      | none => none
      | some (path, query) => some ⟨none, none, path, query⟩
    | cs => absolute? cs

/-- A target from its parts. The path is read again; a scheme and an authority come together or not
at all. -/
def ofParts? (scheme authority : Option String) (path : String) : Option Uri :=
  match pathAndQuery? path.toList with
  | none => none
  | some (path, query) =>
    match scheme, authority with
    | some s, some a => some ⟨some s, some a, orRoot path, query⟩
    | none, none => some ⟨none, none, path, query⟩
    | _, _ => none

def root : Uri := ⟨none, none, "/", none⟩

/-- The text as an authority and nothing else. -/
def authorityOf? (s : String) : Option String :=
  if isAuthority s.toList then some s else none

end Uri
end ErrorBoundary
