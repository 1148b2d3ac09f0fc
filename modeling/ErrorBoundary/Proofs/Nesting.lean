import ErrorBoundary.Failure.Api
import ErrorBoundary.Failure.Startup
import ErrorBoundary.Proofs.Cause

/-!
# ErrorBoundary.Proofs.Nesting

Errors built around errors. Every constructor has its own way with the causes of what it is put
around: most set a text in front, an error of input and output takes the place of what it wraps, and
an unclassified one drops all causes. What a nesting of any depth shows follows from these rules.

* `ErrorType`     — the types of the errors that are built around others.
* `Wrapper`       — the constructors that take an error. `Wrapper.put` is what each one builds, and
  `Wrapper.shown` the texts that it should show, from the texts of the error inside.
* `Nesting.build_shows` — a nesting shows what its wrappers say, one after the other.
-/

namespace ErrorBoundary

/-! ## What each constructor shows -/

namespace ServerError

theorem texts_withSource (c : Classification) (m : String) (e : Cause) :
    (withSource c m e).cause.texts = m :: e.texts :=
  Cause.texts_ofSource m (some e)

theorem texts_withMessage (c : Classification) (m : String) :
    (withMessage c m).cause.texts = [m] :=
  Cause.texts_ofSource m none

end ServerError

namespace InputOutputError

theorem cause_text (e : InputOutputError) : e.cause.text = e.text :=
  Cause.text_ofSource e.text e.source?

/-- What is wrapped does not show a second time. -/
@[simp] theorem cause_wrapping (e : Cause) : (wrapping e).cause = e := by
  cases e <;> rfl

end InputOutputError

namespace StartupError

theorem text_eq (e : StartupError) : e.text = e.kind.text ++ ": " ++ e.message := by
  apply String.toList_inj.mp
  simp [text, toString]

theorem texts_withSource (kind : StartupErrorKind) (m : String) (e : Cause) :
    (withSource kind m e).cause.texts = (kind.text ++ ": " ++ m) :: e.texts := by
  rw [cause, text_eq, Cause.texts_ofSource]
  rfl

theorem texts_new (kind : StartupErrorKind) (m : String) :
    (new kind m).cause.texts = [kind.text ++ ": " ++ m] := by
  rw [cause, text_eq, Cause.texts_ofSource]
  rfl

theorem text_ofInputOutput (e : InputOutputError) :
    (ofInputOutput e).text = "IO: I/O error: " ++ e.text := by
  apply String.toList_inj.mp
  simp [text, ofInputOutput, withSource, StartupErrorKind.text, toString]

theorem texts_ofInputOutput (e : InputOutputError) :
    (ofInputOutput e).cause.texts = (ofInputOutput e).text :: e.cause.texts :=
  Cause.texts_ofSource _ (some e.cause)

end StartupError

/-! ## One error around another -/

/-- The types of the errors that are built around others, and any other type. -/
inductive ErrorType where
  | other
  | server
  | startup
  | inputOutput
  | api

namespace ErrorType

abbrev Value : ErrorType → Type
  | .other => Cause
  | .server => ServerError
  | .startup => StartupError
  | .inputOutput => InputOutputError
  | .api => ApiError

def cause : (t : ErrorType) → t.Value → Cause
  | .other, e => e
  | .server, e => ServerError.cause e
  | .startup, e => StartupError.cause e
  | .inputOutput, e => InputOutputError.cause e
  | .api, e => ApiError.cause e

def texts (t : ErrorType) (e : t.Value) : List String := (t.cause e).texts

end ErrorType

/-- The constructors that take an error, by the type of that one and by their own. Some take errors
of one type only. -/
inductive Wrapper : ErrorType → ErrorType → Type where
  | server {s : ErrorType} (c : Classification) (message : String) : Wrapper s .server
  /-- A classified error, raised by a route as it is. -/
  | raised : Wrapper .server .api
  | startup {s : ErrorType} (kind : StartupErrorKind) (message : String) : Wrapper s .startup
  /-- An error of input and output that keeps the server from starting. -/
  | startupInputOutput : Wrapper .inputOutput .startup
  | inputOutput {s : ErrorType} : Wrapper s .inputOutput
  /-- Any error, raised by a route under a classification and a class of its own. -/
  | unclassified {s : ErrorType} (classification : Option Classification)
      (exceptionClass typeName : String) : Wrapper s .api

namespace Wrapper

variable {s t : ErrorType}

def put : {s t : ErrorType} → Wrapper s t → s.Value → t.Value
  | s, _, .server c m, e => ServerError.withSource c m (s.cause e)
  | _, _, .raised, e => ApiError.server e
  | s, _, .startup kind m, e => StartupError.withSource kind m (s.cause e)
  | _, _, .startupInputOutput, e => StartupError.ofInputOutput e
  | s, _, .inputOutput, e => InputOutputError.wrapping (s.cause e)
  | s, _, .unclassified c exceptionClass typeName, e =>
    ApiError.unclassified ⟨c, exceptionClass, typeName, s.cause e⟩

/-- What the error around one with the texts `ds` should show. -/
def shown : Wrapper s t → List String → List String
  | .server _ m, ds => m :: ds
  | .raised, ds => ds
  | .startup kind m, ds => (kind.text ++ ": " ++ m) :: ds
  | .startupInputOutput, ds => (ds.take 1).map ("IO: I/O error: " ++ ·) ++ ds
  | .inputOutput, ds => ds
  | .unclassified _ _ _, ds => ds.take 1

/-- All but an unclassified error show the causes of what they are put around. -/
def keepsCauses : Wrapper s t → Bool
  | .unclassified _ _ _ => false
  | _ => true

/-- What one constructor does to the texts. -/
theorem texts_put (w : Wrapper s t) (e : s.Value) : t.texts (w.put e) = w.shown (s.texts e) := by
  cases w with
  | server c m => exact ServerError.texts_withSource c m (s.cause e)
  | raised => rfl
  | startup kind m => exact StartupError.texts_withSource kind m (s.cause e)
  | startupInputOutput =>
    show (StartupError.ofInputOutput e).cause.texts =
      shown .startupInputOutput (InputOutputError.cause e).texts
    rw [StartupError.texts_ofInputOutput, StartupError.text_ofInputOutput,
      ← InputOutputError.cause_text, Cause.texts_eq_cons]
    rfl
  | inputOutput => exact congrArg Cause.texts (InputOutputError.cause_wrapping (s.cause e))
  | unclassified c exceptionClass typeName =>
    show [(s.cause e).text] = ((s.cause e).texts).take 1
    rw [Cause.texts_eq_cons]
    rfl

theorem suffix_shown {w : Wrapper s t} (h : w.keepsCauses = true) (ds : List String) :
    ds <:+ w.shown ds := by
  cases w with
  | server c m => exact List.suffix_cons m ds
  | raised => exact List.suffix_refl ds
  | startup kind m => exact List.suffix_cons _ ds
  | startupInputOutput => exact List.suffix_append _ ds
  | inputOutput => exact List.suffix_refl ds
  | unclassified => cases h

end Wrapper

/-! ## Nestings -/

/-- Wrappers around an error of the type `s`, the outermost last to be put. -/
inductive Nesting (s : ErrorType) : ErrorType → Type where
  | innermost : Nesting s s
  | around {t u : ErrorType} (w : Wrapper t u) (n : Nesting s t) : Nesting s u

namespace Nesting

variable {s : ErrorType}

def build {t : ErrorType} (n : Nesting s t) (e : s.Value) : t.Value :=
  match n with
  | .innermost => e
  | .around w n => w.put (n.build e)

def shown {t : ErrorType} (n : Nesting s t) (ds : List String) : List String :=
  match n with
  | .innermost => ds
  | .around w n => w.shown (n.shown ds)

def keepsCauses {t : ErrorType} : Nesting s t → Bool
  | .innermost => true
  | .around w n => w.keepsCauses && n.keepsCauses

theorem texts_build {t : ErrorType} (n : Nesting s t) (e : s.Value) :
    t.texts (n.build e) = n.shown (s.texts e) := by
  induction n with
  | innermost => rfl
  | around w n ih => rw [build, shown, ← ih, Wrapper.texts_put]

/-- Without an unclassified error nothing of the inner chain is lost or moved. -/
theorem suffix_shown {t : ErrorType} {n : Nesting s t} (h : n.keepsCauses = true)
    (ds : List String) : ds <:+ n.shown ds := by
  induction n with
  | innermost => exact List.suffix_refl ds
  | around w n ih =>
    rw [keepsCauses, Bool.and_eq_true] at h
    obtain ⟨hw, hn⟩ := h
    exact (ih hn).trans (Wrapper.suffix_shown hw _)

/-- An error built around another shows what its wrappers say of the texts inside, one wrapper after
the other. With no unclassified error among them the texts inside stand at its end, in their order,
and its root cause shows the last of them. An error built around none shows one text. -/
theorem build_shows {t : ErrorType} (n : Nesting s t) (e : s.Value) :
    t.texts (n.build e) = n.shown (s.texts e) ∧
    (n.keepsCauses = true →
      s.texts e <:+ t.texts (n.build e) ∧
      (s.texts e).getLast? = some (t.cause (n.build e)).rootCause.text) ∧
    (∀ c, (ServerError.new c).cause.texts = [c.defaultMessage]) ∧
    (∀ c m, (ServerError.withMessage c m).cause.texts = [m]) ∧
    (∀ kind m, (StartupError.new kind m).cause.texts = [kind.text ++ ": " ++ m]) ∧
    ∀ m, (StartupError.configuration m).cause.texts = ["CONFIGURATION: " ++ m] := by
  refine ⟨n.texts_build e, fun hkeeps => ?_,
    fun c => ServerError.texts_withMessage c c.defaultMessage, ServerError.texts_withMessage,
    StartupError.texts_new, StartupError.texts_new .configuration⟩
  have hsuffix : s.texts e <:+ t.texts (n.build e) := by
    rw [texts_build]
    exact suffix_shown hkeeps (s.texts e)
  refine ⟨hsuffix, ?_⟩
  -- a chain is never empty, so the end of the outer one is that of the inner one
  obtain ⟨front, hfront⟩ := hsuffix
  have hinner : (s.texts e).getLast? = some (s.cause e).innermost := (s.cause e).getLast?_texts
  have houter : (t.texts (n.build e)).getLast? = some (t.cause (n.build e)).innermost :=
    (t.cause (n.build e)).getLast?_texts
  rw [← hfront, List.getLast?_append, hinner] at houter
  rw [Cause.rootCause_text, hinner, ← houter]
  rfl

/-- A failed upload, raised by a route, around an error of the start, around a failed write. -/
theorem build_shows_upload :
    let write : Cause := .because "write failed" (.root "disk full")
    let n : Nesting .other .api :=
      .around .raised (.around (.server .artifactUploadFailed "upload failed")
        (.around .startupInputOutput (.around .inputOutput .innermost)))
    n.keepsCauses = true ∧
      ErrorType.api.texts (n.build write) =
        ["upload failed", "IO: I/O error: write failed", "write failed", "disk full"] ∧
      (ErrorType.api.cause (n.build write)).rootCause.text = "disk full" := by
  intro write n
  have hkeeps : n.keepsCauses = true := rfl
  obtain ⟨htexts, hroot, _⟩ := build_shows n write
  obtain ⟨_, hlast⟩ := hroot hkeeps
  exact ⟨hkeeps, htexts, (Option.some.inj hlast).symm⟩

/-- In the middle of a nesting an unclassified error drops what is below it. -/
example :
    let n : Nesting .other .startup :=
      .around (.startup .configuration "no server")
        (.around (.unclassified none "Quota" "Quota") .innermost)
    ErrorType.startup.texts (n.build (.because "write failed" (.root "disk full"))) =
      ["CONFIGURATION: no server", "write failed"] := by
  decide

end Nesting
end ErrorBoundary
