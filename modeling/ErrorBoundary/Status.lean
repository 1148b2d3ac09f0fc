/-!
# ErrorBoundary.Status

Status codes of responses. A `Status` is a number of three digits; one from 400 to 599 tells of an
error. Settings may name error statuses only.
-/

namespace ErrorBoundary

structure Status where
  code : Nat
  isThreeDigits : 100 ≤ code ∧ code < 1000
deriving DecidableEq

namespace Status

def ofCode? (n : Nat) : Option Status :=
  if h : 100 ≤ n ∧ n < 1000 then some ⟨n, h⟩ else none

def ok : Status := ⟨200, by decide⟩
def badRequest : Status := ⟨400, by decide⟩
def forbidden : Status := ⟨403, by decide⟩
def notFound : Status := ⟨404, by decide⟩
def methodNotAllowed : Status := ⟨405, by decide⟩
def conflict : Status := ⟨409, by decide⟩
def payloadTooLarge : Status := ⟨413, by decide⟩
def unsupportedMediaType : Status := ⟨415, by decide⟩
def unprocessableEntity : Status := ⟨422, by decide⟩
def locked : Status := ⟨423, by decide⟩
def internalServerError : Status := ⟨500, by decide⟩

def IsError (s : Status) : Prop := 400 ≤ s.code ∧ s.code < 600

instance (s : Status) : Decidable s.IsError := inferInstanceAs (Decidable (_ ∧ _))

def IsServerError (s : Status) : Prop := 500 ≤ s.code ∧ s.code < 600

instance (s : Status) : Decidable s.IsServerError := inferInstanceAs (Decidable (_ ∧ _))

end Status

/-- Why a number in the settings is no error status. -/
inductive StatusError where
  | invalid (n : Nat)
  | notAnError (n : Nat)
deriving DecidableEq

namespace StatusError

def message : StatusError → String
  | .invalid n => s!"{n}: invalid status code"
  | .notAnError n => s!"{n} is not an error status"

end StatusError

namespace Status

def ofSetting (n : Nat) : Except StatusError Status :=
  match ofCode? n with
  | none => .error (.invalid n)
  | some s => if s.IsError then .ok s else .error (.notAnError n)

end Status
end ErrorBoundary
