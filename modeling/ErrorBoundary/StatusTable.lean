import ErrorBoundary.Event

/-!
# ErrorBoundary.StatusTable

The status that each classification is answered with. The standard table leaves three
classifications to the default status; settings may override any entry and the default.

* `Overrides`           — the entries that settings name, at most one for a classification.
* `StatusTable.build`   — the standard table with a default and overrides, one after the other.
* `StatusTable.ofSettings` — the same, with the overrides in the order of the classifications.
* `StatusTable.statusOf`   — the status of a classification, or the default.
-/

namespace ErrorBoundary

/-- Statuses that settings name for classifications. -/
structure Overrides where
  code? : Classification → Option UInt16

namespace Overrides

def empty : Overrides := ⟨fun _ => none⟩

def insert (o : Overrides) (c : Classification) (code : UInt16) : Overrides :=
  ⟨fun d => if d = c then some code else o.code? d⟩

/-- Later entries win. -/
def ofList (entries : List (Classification × UInt16)) : Overrides :=
  entries.foldl (fun o e => o.insert e.1 e.2) empty

/-- The entries in the order of the classifications. -/
def entries (o : Overrides) : List (Classification × UInt16) :=
  Classification.all.filterMap fun c => (o.code? c).map fun code => (c, code)

end Overrides

inductive TableError where
  | defaultStatus (e : StatusError)
  | override (c : Classification) (e : StatusError)
deriving DecidableEq

namespace TableError

def message : TableError → String
  | .defaultStatus e => s!"errors.default_status: {e.message}"
  | .override c e => s!"errors.overrides.{c.label}: {e.message}"

end TableError

structure StatusTable where
  entry : Classification → Option Status
  default : Status

namespace StatusTable

/-- The entry of a classification when settings name none. -/
def standardEntry : Classification → Option Status
  | .entityNotExists => some .notFound
  | .entityAlreadyExists => some .conflict
  | .entityReadOnly => some .forbidden
  | .sortParamInvalidDirection => some .badRequest
  | .sortParamInvalidField => some .badRequest
  | .sortParamSyntax => some .badRequest
  | .rsqlParamInvalidField => some .badRequest
  | .rsqlSearchParamSyntax => some .badRequest
  | .insufficientPermission => some .forbidden
  | .artifactUploadFailed => some .internalServerError
  | .artifactUploadFailedSha1Match => some .badRequest
  | .artifactUploadFailedMd5Match => some .badRequest
  | .artifactDeleteFailed => some .internalServerError
  | .artifactLoadFailed => some .internalServerError
  | .actionStatusTooManyEntries => some .forbidden
  | .attributesTooManyEntries => some .forbidden
  | .actionNotCancelable => some .methodNotAllowed
  | .actionNotForceQuittable => some .methodNotAllowed
  | .dsCreationFailedMissingModule => some .badRequest
  | .dsModuleUnsupported => some .badRequest
  | .dsTypeUndefined => some .badRequest
  | .tenantNotExists => some .badRequest
  | .entityLocked => some .locked
  | .rolloutIllegalState => some .badRequest
  | .configurationValueInvalid => some .badRequest
  | .configurationKeyInvalid => some .badRequest
  | .invalidTargetAddress => some .badRequest
  | .restBodyNotReadable => none
  | .genericError => none
  | .concurrentModification => none

def defaultStatus : Status := .internalServerError

def standard : StatusTable := ⟨standardEntry, defaultStatus⟩

def insert (t : StatusTable) (c : Classification) (s : Status) : StatusTable :=
  { t with entry := fun d => if d = c then some s else t.entry d }

/-- Applies overrides one after the other and announces each; the first bad one ends it. -/
def override (t : StatusTable) :
    List (Classification × UInt16) → Logged (Except TableError StatusTable)
  | [] => .silent (.ok t)
  | (c, code) :: rest =>
    match Status.ofSetting code.toNat with
    | .error e => .silent (.error (.override c e))
    | .ok s =>
      let r := (t.insert c s).override rest
      ⟨.overrideApplied c s :: r.events, r.value⟩

/-- The standard table with a default status and overrides in a given order. The default status is
looked at first. -/
def build (default : UInt16) (overrides : List (Classification × UInt16)) :
    Logged (Except TableError StatusTable) :=
  match Status.ofSetting default.toNat with
  | .error e => .silent (.error (.defaultStatus e))
  | .ok s => { standard with default := s }.override overrides

def ofSettings (default : UInt16) (overrides : Overrides) :
    Logged (Except TableError StatusTable) :=
  build default overrides.entries

def statusOf (t : StatusTable) (c : Classification) : Status := (t.entry c).getD t.default

/-- The default status stands for what has no classification. -/
def statusOf? (t : StatusTable) (c : Option Classification) : Status :=
  match c with
  | some c => t.statusOf c
  | none => t.default

def contains (t : StatusTable) (c : Classification) : Bool := (t.entry c).isSome

end StatusTable
end ErrorBoundary
