import ErrorBoundary.Boundary.Server
import ErrorBoundary.Proofs.Layers
import ErrorBoundary.Proofs.Router
import ErrorBoundary.Proofs.StatusTable

/-!
# ErrorBoundary.Proofs.Server

The server against its responder. An error travels from a route to the boundary on a placeholder
and is answered there; `refines_dispatch` says that a client cannot tell this from the responder
answering in the place of the route.
-/

namespace ErrorBoundary

theorem Status.isError_badRequest : Status.badRequest.IsError := by decide

/-- What is refused before its handler ran is refused as an error. -/
theorem JsonRejection.isError_status (r : JsonRejection) : r.status.IsError := by
  cases r with
  | contentType => decide
  | body e =>
    cases e with
    | tooLong => decide
    | broken reason => exact Status.isError_badRequest
  | malformed detail => exact Status.isError_badRequest
  | mismatch detail =>
    change Status.unprocessableEntity.IsError
    decide

/-- By a table that settings build, no error is answered as anything but an error. -/
theorem Responder.isError_dispatch {t : Responder} {settings : ErrorSettings}
    (ht : settings.table.value = .ok t.table) (url : Uri) (e : ApiError) :
    (t.dispatch url e).value.status.IsError := by
  cases e with
  | server e => exact StatusTable.isError_statusOf? ht _
  | unclassified e => exact StatusTable.isError_statusOf? ht _
  | malformedBody r => exact Status.isError_badRequest
  | jsonRejected r => exact r.isError_status
  | multipartRejected => exact Status.isError_badRequest
  | multipart e => exact Status.isError_badRequest

namespace Server

variable {s : Server} {settings : ErrorSettings} {request : Request} {e : ApiError}

/-- The client gets what the responder says, and nothing of the placeholder. -/
theorem around_of_raised (hs : settings.table.value = .ok s.responder.table) {inner : Handler}
    (h : (inner request).value.raised = some e) :
    (s.around inner request).value =
      (s.responder.dispatch request.url e).value.sent request.method := by
  refine Handler.framed_of_toResponse (Responder.isError_dispatch hs request.url e) ?_
  change (exceptionBoundary s.responder inner request).value = _
  rw [exceptionBoundary_of_raised s.responder h]

/-- An answer that raises nothing leaves as it is, cut down to what its method may get. -/
theorem around_of_settled {inner : Handler} (h : (inner request).value.raised = none) :
    (s.around inner request).value = (inner.framed request).value := by
  simp only [around, Handler.framed, Logged.map, requestLog, Logged.andThen,
    exceptionBoundary_of_settled s.responder h]

/-- The server refines its responder, whose table is one that settings build.

A route that ends in an error, by failing or with a response made around the error, is answered
with what `dispatch` says, whatever status and headers were set on the way; so is any other part
of the server that answers with an error. Without an error the response passes. Any number of
boundaries is one boundary, with one event for each error. And it makes no difference whether a
classified error is raised as such or as one of any kind. -/
theorem refines_dispatch (hs : settings.table.value = .ok s.responder.table) :
    (∀ (inner : Handler) (request : Request) (e : ApiError),
      (inner request).value.raised = some e →
      (s.around inner request).value =
        (s.responder.dispatch request.url e).value.sent request.method) ∧
    (∀ (routes : List Route) (request : Request) (route : Route) (captured : List String)
      (e : ApiError),
      Router.find? ((healthRoute :: routes).map (Route.under "api")) request.uri.path
        request.method = some (route, captured) →
      Response.Raises e (route.handler captured request).value →
      (s.handler routes request).value =
        (s.responder.dispatch request.url e).value.sent request.method) ∧
    (∀ (f : Request → Except ApiError Response) (request : Request) (e : ApiError),
      f request = .error e → Response.Raises e (Handler.ofExcept f request).value) ∧
    (∀ (inner : Handler) (request : Request), (inner request).value.raised = none →
      exceptionBoundary s.responder inner request = inner request) ∧
    (∀ (inner : Handler) (k : Nat), 1 ≤ k →
      (exceptionBoundary s.responder)^[k] inner = exceptionBoundary s.responder inner ∧
      ∀ (request : Request) (e : ApiError), (inner request).value.raised = some e →
        ((exceptionBoundary s.responder)^[k] inner request).events =
          (inner request).events ++ [.exceptionHandled e.reportedClass request.url.text]) ∧
    (∀ (inner inner' : Handler) (request : Request) (e : ServerError),
      (inner request).value.raised = some (.server e) →
      (inner' request).value.raised = some (.unclassified (.server e)) →
      (s.around inner request).value = (s.around inner' request).value) := by
  refine ⟨fun inner request e h => around_of_raised hs h, ?_,
    fun f request e h => Handler.raises_ofExcept h,
    fun inner request h => exceptionBoundary_of_settled s.responder h, ?_, ?_⟩
  · intro routes request route captured e hfind h
    refine around_of_raised hs ?_
    rw [routed, Router.handler_of_find? hfind, h.raised_eq]
  · intro inner k hk
    rw [iterate_exceptionBoundary s.responder inner hk]
    refine ⟨rfl, fun request e h => ?_⟩
    rw [exceptionBoundary_of_raised s.responder h]
  · intro inner inner' request e h h'
    rw [around_of_raised hs h, around_of_raised hs h']
    rfl

/-- A route that wraps an error as a success with a header of its own is found out. -/
theorem refines_dispatch_default :
    let s : Server := ⟨.default, ⟨StatusTable.standard⟩⟩
    let e : ApiError := .server (.entityNotExists "gone")
    let placed := ((Response.ofError e).withStatus .ok).withHeader "x-inside" "1"
    let route : Route := ⟨[.literal "targets", .capture], .get, fun _ => .pure placed⟩
    let request : Request :=
      ⟨"GET", ⟨none, none, "/api/targets/abc", none⟩, [("host", "rollout.local")], .empty, none⟩
    ErrorSettings.default.table.value = .ok s.responder.table ∧
      Response.Raises e placed ∧
      (s.handler [route] request).value = ⟨.notFound, some "application/json", none, [],
        (ErrorInfo.wire ⟨some "gone", TypeName.serverError,
          some Classification.entityNotExists.key⟩), none⟩ := by
  intro s e placed route request
  have htable : ErrorSettings.default.table.value = .ok s.responder.table := rfl
  have hraises : Response.Raises e placed := .withHeader _ _ (.withStatus _ .placeholder)
  obtain ⟨_, hroute, _⟩ := refines_dispatch htable
  refine ⟨htable, hraises, ?_⟩
  have hfind : Router.find? ([healthRoute, route].map (Route.under "api")) request.uri.path
      request.method = some (route.under "api", ["abc"]) := by
    have hsegments : Router.segments request.uri.path = some ["api", "targets", "abc"] := by decide
    rw [Router.find?, Router.routesAt, hsegments]
    rfl
  rw [hroute [route] request (route.under "api") ["abc"] e hfind hraises]
  rfl

end Server
end ErrorBoundary
