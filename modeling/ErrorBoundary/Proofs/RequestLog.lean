import ErrorBoundary.Proofs.Layers
import ErrorBoundary.Proofs.Router
import ErrorBoundary.Proofs.Uri

/-!
# ErrorBoundary.Proofs.RequestLog

What the server writes to its log for one request. Each layer adds at most one event and leaves the
status that the client gets to the layer inside (`requestLog_eq`, `Server.events_around`), so that a
request leaves one event, behind that of its error if there was one, whatever answers inside
(`Server.logs_request`).

* `Event.IsTranslation` — the event of an error that was answered.
* `Event.IsRequest`     — the event of a request that was served.
* `Server.Records`      — these, and no other, beside an answer.
-/

namespace ErrorBoundary

/-! ## Events -/

namespace Event

structure IsTranslation (event : Event) (e : ApiError) (url : Uri) : Prop where
  level : event.level = .debug
  target : event.target = "rollout_api::exception::translator"
  fields : ∀ milliseconds, event.timedFields milliseconds =
    [("exception", .string e.reportedClass), ("url", .string url.text)]

/-- It warns of an error of the server and of nothing else. -/
structure IsRequest (event : Event) (request : Request) (status : Status) : Prop where
  level : event.level = if 500 ≤ status.code ∧ status.code ≤ 599 then .warn else .info
  target : event.target = "rollout_api::middleware::logging"
  fields : ∀ milliseconds, event.timedFields milliseconds =
    [("method", .string request.method), ("path", .string request.uri.path),
      ("status", .nat status.code), ("duration_ms", .nat milliseconds)]

theorem isTranslation_exceptionHandled (e : ApiError) (url : Uri) :
    (exceptionHandled e.reportedClass url.text).IsTranslation e url :=
  ⟨rfl, rfl, fun _ => rfl⟩

end Event

theorem Status.isServerError_iff (s : Status) :
    s.IsServerError ↔ 500 ≤ s.code ∧ s.code ≤ 599 := by
  unfold IsServerError
  omega

/-! ## Layers -/

/-- The log adds one event behind what happened inside and touches nothing else. -/
theorem requestLog_eq (next : Handler) (request : Request) :
    ∃ event : Event, event.IsRequest request (next request).value.status ∧
      requestLog next request = ⟨(next request).events ++ [event], (next request).value⟩ := by
  refine ⟨_, ?_, rfl⟩
  by_cases h : (next request).value.status.IsServerError
  · rw [if_pos h]
    refine ⟨?_, rfl, fun _ => rfl⟩
    rw [if_pos ((Status.isServerError_iff _).mp h)]
    rfl
  · rw [if_neg h]
    refine ⟨?_, rfl, fun _ => rfl⟩
    rw [if_neg (fun h' => h ((Status.isServerError_iff _).mpr h'))]
    rfl

namespace Handler

@[simp] theorem events_framed (next : Handler) (request : Request) :
    (next.framed request).events = (next request).events := rfl

@[simp] theorem status_framed (next : Handler) (request : Request) :
    (next.framed request).value.status = (next request).value.status := by
  simp only [framed, Logged.map]
  split
  · rfl
  · rfl

end Handler

namespace Server

theorem events_around (s : Server) (inner : Handler) (request : Request) :
    ∃ last : Event, last.IsRequest request (s.around inner request).value.status ∧
      (s.around inner request).events =
        (exceptionBoundary s.responder inner request).events ++ [last] ∧
      (s.around inner request).value.status =
        (exceptionBoundary s.responder inner request).value.status := by
  obtain ⟨last, hlast, heq⟩ := requestLog_eq (exceptionBoundary s.responder inner) request
  have hstatus : (s.around inner request).value.status =
      (exceptionBoundary s.responder inner request).value.status := by
    unfold around
    rw [Handler.status_framed, heq]
  refine ⟨last, ?_, ?_, hstatus⟩
  · rw [hstatus]
    exact hlast
  · unfold around
    rw [Handler.events_framed, heq]

/-- All that is written for a request that was answered so, when this came from inside: the event
of the error that was raised there, if one was, and the event of the request with the status that
the client gets. -/
def Records (s : Server) (request : Request) (inside : Response) (answer : Logged Response) :
    Prop :=
  ∃ last : Event, last.IsRequest request answer.value.status ∧
    ((inside.raised = none ∧ answer.events = [last] ∧ answer.value.status = inside.status) ∨
      ∃ (e : ApiError) (first : Event), inside.raised = some e ∧
        first.IsTranslation e request.url ∧ answer.events = [first, last] ∧
        answer.value.status = (s.responder.dispatch request.url e).value.status)

theorem records_around (s : Server) {inner : Handler} {request : Request}
    (hquiet : (inner request).events = []) :
    s.Records request (inner request).value (s.around inner request) := by
  obtain ⟨last, hlast, hlog, hstatus⟩ := s.events_around inner request
  refine ⟨last, hlast, ?_⟩
  cases h : (inner request).value.raised with
  | none =>
    rw [exceptionBoundary_of_settled s.responder h] at hlog hstatus
    rw [hquiet] at hlog
    exact .inl ⟨rfl, hlog, hstatus⟩
  | some e =>
    rw [exceptionBoundary_of_raised s.responder h] at hlog hstatus
    rw [hquiet] at hlog
    exact .inr ⟨e, _, rfl, Event.isTranslation_exceptionHandled e request.url, hlog, hstatus⟩

variable {routes : List Route}

theorem events_routed
    (hquiet : ∀ r ∈ routes, ∀ captured request, (r.handler captured request).events = [])
    (request : Request) : (routed routes request).events = [] := by
  rcases routed_cases routes request with ⟨r, captured, hr⟩ | ⟨hevents, _⟩
  · rw [routed_of_answers hr]
    rcases List.mem_cons.mp hr.mem with rfl | hmem
    · rfl
    · exact hquiet r hmem captured _
  · exact hevents

/-- One request, one event, and one before it if an error was raised. Whatever answers inside, when
it logs nothing itself, what is written for a request is first, if an error was raised, the event
of that error, with the class it reports and the URL of the request, and then the event of the
request, with its whole path, without the query, and the status that the client gets, and a warning
if that is one of the server. The status is the one that answers the error, else the one from
inside. Of the routes below `/api` an error is raised by one that answers the request, or by none;
that route sees the path behind the root, the log the whole of it. -/
theorem logs_request (s : Server) (request : Request) :
    (∀ inner : Handler, (inner request).events = [] →
      s.Records request (inner request).value (s.around inner request)) ∧
    (∀ routes : List Route,
      (∀ r ∈ routes, ∀ captured request, (r.handler captured request).events = []) →
      s.Records request (routed routes request).value (s.handler routes request) ∧
      (∀ e, (routed routes request).value.raised = some e ↔
        ∃ r captured, Answers routes request r captured ∧
          (r.handler captured (request.below "api")).value.raised = some e) ∧
      (∀ r captured, Answers routes request r captured →
        request.uri.path = "/api" ∨
          request.uri.path = "/api" ++ (request.below "api").uri.path)) ∧
    (request.uri.IsValid → '?' ∉ request.uri.path.toList) := by
  refine ⟨fun inner hquiet => s.records_around hquiet, fun routes hquiet => ?_, fun hvalid => ?_⟩
  · refine ⟨s.records_around (events_routed hquiet request), fun e => raised_routed_iff, ?_⟩
    intro r captured hr
    rcases hr.path with ⟨hpath, _⟩ | ⟨hpath, _⟩
    · exact .inl hpath
    · exact .inr hpath
  · exact Uri.not_mem_of_all (by decide) hvalid.path

/-- Two routes at one path. To `POST` the second answers, with an error that an override makes one
of the server, and the log warns of it. -/
theorem logs_request_overridden :
    let table := StatusTable.standard.insert .entityNotExists ⟨503, by decide⟩
    let s : Server := ⟨.default, ⟨table⟩⟩
    let e : ApiError := .server (.entityNotExists "gone")
    let routes : List Route :=
      [⟨[.literal "targets", .capture], .get, fun _ => .pure (.text .ok "here")⟩,
        ⟨[.literal "targets", .capture], .post, fun _ => .pure (.ofError e)⟩]
    let request : Request :=
      ⟨"POST", ⟨none, none, "/api/targets/abc", some "limit=10"⟩, [("host", "rollout.local")],
        .empty, none⟩
    (∀ r ∈ routes, ∀ captured request, (r.handler captured request).events = []) ∧
      ∃ first last : Event, (s.handler routes request).events = [first, last] ∧
        (∀ milliseconds, first.timedFields milliseconds =
          [("exception", .string "rollout_core::exception::ServerError"),
            ("url", .string "http://rollout.local/api/targets/abc")]) ∧
        last.level = .warn ∧
        ∀ milliseconds, last.timedFields milliseconds =
          [("method", .string "POST"), ("path", .string "/api/targets/abc"),
            ("status", .nat 503), ("duration_ms", .nat milliseconds)] := by
  intro table s e routes request
  have hquiet : ∀ r ∈ routes, ∀ captured request, (r.handler captured request).events = [] := by
    intro r hr captured request
    rcases List.mem_cons.mp hr with rfl | hr
    · rfl
    · rw [List.mem_singleton.mp hr]
      rfl
  have hraised : (routed routes request).value.raised = some e := by
    have hsegments : Router.segments request.uri.path = some ["api", "targets", "abc"] := by
      decide
    have hfound : Router.find? ((healthRoute :: routes).map (Route.under "api")) request.uri.path
        request.method = some (Route.under "api" routes[1], ["abc"]) := by
      rw [Router.find?, Router.routesAt, hsegments]
      rfl
    have hanswers : Answers routes request routes[1] ["abc"] := ⟨by simp, hfound⟩
    rw [routed_of_answers hanswers]
    rfl
  refine ⟨hquiet, ?_⟩
  obtain ⟨_, hrouted, _⟩ := logs_request s request
  obtain ⟨⟨last, hlast, hcases⟩, _⟩ := hrouted routes hquiet
  rcases hcases with ⟨hnone, _⟩ | ⟨e', first, he, hfirst, hevents, hstatus⟩
  · rw [hraised] at hnone
    cases hnone
  · rw [hraised] at he
    cases he
    rw [hstatus] at hlast
    refine ⟨first, last, hevents, ?_, hlast.level, hlast.fields⟩
    have hurl : request.url.text = "http://rollout.local/api/targets/abc" := by decide
    intro milliseconds
    rw [hfirst.fields milliseconds, hurl]
    rfl

end Server
end ErrorBoundary
