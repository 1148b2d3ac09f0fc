import Mathlib.Logic.Function.Iterate
import ErrorBoundary.Boundary.Layers
import ErrorBoundary.Http.Router
import ErrorBoundary.Proofs.Disclosure

/-!
# ErrorBoundary.Proofs.Layers

What each layer makes of the response inside it.

* `exceptionBoundary_of_raised`, `exceptionBoundary_of_settled` — a raised error is answered, any
  other response passes.
* `raised_exceptionBoundary` — nothing raised comes out, so a second boundary finds nothing to do
  (`iterate_exceptionBoundary`).
* `framed_of_toResponse` — an answer to an error loses its body to `HEAD` and to nothing else.
-/

namespace ErrorBoundary

/-! ## Raised errors -/

namespace Response

/-- The placeholder of an error, under whatever status and headers were set around it. -/
inductive Raises (e : ApiError) : Response → Prop where
  | placeholder : Raises e (.ofError e)
  | withStatus {r : Response} (status : Status) : Raises e r → Raises e (r.withStatus status)
  | withHeader {r : Response} (name value : String) :
      Raises e r → Raises e (r.withHeader name value)

@[simp] theorem raised_withHeader (r : Response) (name value : String) :
    (r.withHeader name value).raised = r.raised := by
  unfold withHeader
  split
  · rfl
  · split <;> rfl

/-- What is set around an error does not touch it. -/
theorem Raises.raised_eq {e : ApiError} {r : Response} (h : Raises e r) : r.raised = some e := by
  induction h with
  | placeholder => rfl
  | withStatus status _ ih => exact ih
  | withHeader name value _ ih => rw [raised_withHeader, ih]

end Response

theorem Handler.raises_ofExcept {f : Request → Except ApiError Response} {request : Request}
    {e : ApiError} (h : f request = .error e) :
    Response.Raises e (Handler.ofExcept f request).value := by
  unfold ofExcept
  rw [h]
  exact .placeholder

/-! ## The boundary -/

section Boundary

variable {next : Handler} {request : Request}

theorem exceptionBoundary_of_raised (t : Responder) {e : ApiError}
    (h : (next request).value.raised = some e) :
    exceptionBoundary t next request =
      ⟨(next request).events ++ [.exceptionHandled e.reportedClass request.url.text],
        (t.dispatch request.url e).value.toResponse⟩ := by
  simp only [exceptionBoundary, Logged.andThen, h, Logged.map, Responder.events_dispatch]

theorem exceptionBoundary_of_settled (t : Responder) (h : (next request).value.raised = none) :
    exceptionBoundary t next request = next request := by
  simp only [exceptionBoundary, Logged.andThen, h, Logged.silent, List.append_nil]

@[simp] theorem raised_exceptionBoundary (t : Responder) (next : Handler) (request : Request) :
    (exceptionBoundary t next request).value.raised = none := by
  cases h : (next request).value.raised with
  | none => rw [exceptionBoundary_of_settled t h, h]
  | some e =>
    rw [exceptionBoundary_of_raised t h]
    rfl

/-- Around a boundary another one finds every error answered. -/
theorem exceptionBoundary_exceptionBoundary (t t' : Responder) (next : Handler) :
    exceptionBoundary t (exceptionBoundary t' next) = exceptionBoundary t' next := by
  funext request
  exact exceptionBoundary_of_settled t (raised_exceptionBoundary t' next request)

/-- However many boundaries, the innermost one decides. -/
theorem iterate_exceptionBoundary (t : Responder) (next : Handler) {k : Nat} (hk : 1 ≤ k) :
    (exceptionBoundary t)^[k] next = exceptionBoundary t next := by
  obtain ⟨k, rfl⟩ := Nat.exists_eq_add_of_le' hk
  induction k with
  | zero => rfl
  | succ k ih =>
    rw [Function.iterate_succ_apply', ih (by omega), exceptionBoundary_exceptionBoundary]

end Boundary

/-! ## The frame -/

/-- The answer to an error as it leaves the server; `HEAD` gets it without the body. -/
def ErrorResponse.sent (r : ErrorResponse) (method : String) : Response where
  status := r.status
  contentType := some Response.jsonType
  allow := none
  headers := []
  body := if method = "HEAD" then "" else r.body.wire
  raised := none

theorem Handler.framed_of_toResponse {next : Handler} {request : Request} {r : ErrorResponse}
    (hr : r.status.IsError) (h : (next request).value = r.toResponse) :
    (next.framed request).value = r.sent request.method := by
  have hstatus : ¬ r.status.code < 300 := by
    obtain ⟨hlow, _⟩ := hr
    omega
  simp only [framed, Logged.map, h, ErrorResponse.toResponse, Response.json, ErrorResponse.sent]
  by_cases hm : request.method = "HEAD"
  · rw [if_pos (.inl hm), if_pos hm]
  · have hframe : ¬ (request.method = "HEAD" ∨
        request.method = "CONNECT" ∧ 200 ≤ r.status.code ∧ r.status.code < 300) := by
      rintro (hm' | ⟨_, _, hs⟩)
      · exact hm hm'
      · exact hstatus hs
    rw [if_neg hframe, if_neg hm]

end ErrorBoundary
