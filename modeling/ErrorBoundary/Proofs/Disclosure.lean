import ErrorBoundary.Boundary.Responder
import ErrorBoundary.Proofs.Cause

/-!
# ErrorBoundary.Proofs.Disclosure

What an answer and its event tell of an error, as a property of two runs. Two errors that differ
in what must stay inside are answered alike (`dispatch_eq_of_sameSurface`), and the event tells
the reported class and the URL and nothing else (`events_dispatch`).

* `ApiError.reportedClass` — the class in the event.
* `ApiError.SameSurface`   — two errors that differ in their hidden part only.
-/

namespace ErrorBoundary
namespace ApiError

/-- The class that the event of an error names. -/
def reportedClass : ApiError → String
  | .server _ => TypeName.serverError
  | .unclassified e => e.exceptionClass
  | .malformedBody _ => TypeName.jsonRejection
  | .jsonRejected _ => TypeName.jsonRejection
  | .multipartRejected => TypeName.multipartRejection
  | .multipart _ => TypeName.multipart

/-- Hidden are: of a classified error, the chain of its causes; of one without a classification,
all but its class; of a body that does not decode, everything; of a refused request, all but its
status; of a failed upload, all texts but the innermost. -/
inductive SameSurface : ApiError → ApiError → Prop where
  | server {e e' : ServerError} :
      e.classification = e'.classification → e.message = e'.message →
      SameSurface (.server e) (.server e')
  | classified {e e' : Failure} :
      e.classification = e'.classification → e.exceptionClass = e'.exceptionClass →
      e.cause.text = e'.cause.text → SameSurface (.unclassified e) (.unclassified e')
  | unclassified {e e' : Failure} :
      e.classification = none → e'.classification = none →
      e.exceptionClass = e'.exceptionClass → SameSurface (.unclassified e) (.unclassified e')
  | malformedBody (r r' : JsonRejection) : SameSurface (.malformedBody r) (.malformedBody r')
  | jsonRejected {r r' : JsonRejection} :
      r.status = r'.status → SameSurface (.jsonRejected r) (.jsonRejected r')
  | multipartRejected : SameSurface .multipartRejected .multipartRejected
  | multipart {e e' : MultipartError} :
      e.cause.innermost = e'.cause.innermost → SameSurface (.multipart e) (.multipart e')

end ApiError

theorem ServerError.cause_text (e : ServerError) : e.cause.text = e.message :=
  Cause.text_ofSource e.message e.source

namespace ErrorInfo

/-- The body is made of the classification, the class and the text of an error. -/
theorem ofFailure_congr {e e' : Failure} (hc : e.classification = e'.classification)
    (hx : e.exceptionClass = e'.exceptionClass) (ht : e.cause.text = e'.cause.text) :
    ofFailure e = ofFailure e' := by
  simp only [ofFailure, hc, hx, ht]

/-- Without a classification it is made of the class alone. -/
theorem ofFailure_unclassified {e : Failure} (h : e.classification = none) :
    ofFailure e = unclassified e.exceptionClass := by
  simp only [ofFailure, unclassified, h, Option.map_none]

end ErrorInfo

namespace Responder

theorem classified_congr (t : Responder) (url : Uri) {e e' : Failure}
    (hc : e.classification = e'.classification) (hx : e.exceptionClass = e'.exceptionClass)
    (ht : e.cause.text = e'.cause.text) : t.classified url e = t.classified url e' := by
  simp only [classified, hc, hx, ErrorInfo.ofFailure_congr hc hx ht]

theorem classified_unclassified (t : Responder) (url : Uri) {e e' : Failure}
    (h : e.classification = none) (h' : e'.classification = none)
    (hx : e.exceptionClass = e'.exceptionClass) : t.classified url e = t.classified url e' := by
  simp only [classified, h, h', hx, ErrorInfo.ofFailure_unclassified]

/-- An upload is answered by the inner end of its chain. -/
theorem multipartFailure_congr (url : Uri) (typeName : String) {c c' : Cause}
    (h : c.innermost = c'.innermost) :
    multipartFailure url typeName c = multipartFailure url typeName c' := by
  simp only [multipartFailure, Cause.rootCause_eq, h]

theorem dispatch_eq_of_sameSurface (t : Responder) (url : Uri) {e e' : ApiError}
    (h : ApiError.SameSurface e e') : t.dispatch url e = t.dispatch url e' := by
  cases h with
  | @server e e' hc hm =>
    refine classified_congr t url (congrArg some hc) rfl ?_
    exact (e.cause_text.trans hm).trans e'.cause_text.symm
  | classified hc hx ht => exact classified_congr t url hc hx ht
  | unclassified h h' hx => exact classified_unclassified t url h h' hx
  | malformedBody r r' => rfl
  | jsonRejected hs => simp only [dispatch, hs]
  | multipartRejected => rfl
  | multipart h => exact multipartFailure_congr url TypeName.multipart h

@[simp] theorem events_dispatch (t : Responder) (url : Uri) (e : ApiError) :
    (t.dispatch url e).events = [.exceptionHandled e.reportedClass url.text] := by
  cases e <;> rfl

/-- What is hidden stays inside. Errors that differ in their hidden part only get the same status,
the same body and the same event, and so do failed uploads of any type whose chains end alike. The
event is fixed by the reported class and the URL: neither the table nor a classification, message
or source of a classified error, nor the chain of a failed upload changes it. -/
theorem dispatch_hides (t t' : Responder) (url : Uri) :
    (∀ e e', ApiError.SameSurface e e' →
      (t.dispatch url e).value.status = (t.dispatch url e').value.status ∧
      (t.dispatch url e).value.body = (t.dispatch url e').value.body ∧
      (t.dispatch url e).events = (t.dispatch url e').events) ∧
    (∀ typeName (c c' : Cause), c.innermost = c'.innermost →
      multipartFailure url typeName c = multipartFailure url typeName c') ∧
    (∀ e, (t.dispatch url e).events = [.exceptionHandled e.reportedClass url.text]) ∧
    (∀ e e' : ServerError,
      (t.dispatch url (.server e)).events = (t'.dispatch url (.server e')).events) ∧
    (∀ e e' : MultipartError,
      (t.dispatch url (.multipart e)).events = (t'.dispatch url (.multipart e')).events) := by
  refine ⟨?_, fun typeName c c' h => multipartFailure_congr url typeName h,
    events_dispatch t url, ?_, ?_⟩
  · intro e e' h
    rw [dispatch_eq_of_sameSurface t url h]
    exact ⟨rfl, rfl, rfl⟩
  · intro e e'
    rw [events_dispatch, events_dispatch]
    rfl
  · intro e e'
    rw [events_dispatch, events_dispatch]
    rfl

end Responder
end ErrorBoundary
