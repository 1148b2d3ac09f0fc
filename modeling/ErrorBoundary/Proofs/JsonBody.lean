import ErrorBoundary.Proofs.Coherence
import ErrorBoundary.Proofs.Json.Extent
import ErrorBoundary.Proofs.MediaType
import ErrorBoundary.Proofs.Router
import ErrorBoundary.Proofs.TextRecord
import ErrorBoundary.Proofs.Url
import ErrorBoundary.Showcase

/-!
# ErrorBoundary.Proofs.JsonBody

A JSON body on its way into a route. Each check that refuses one has its own status, and what is
left arrives whole; there it either gives a record its texts or is answered like any other body that
does not (`Server.takes_json_body`).

* `Request.IsJson`          — the content types that are let through, as texts.
* `Request.Refused`         — what is refused before it is looked into, with which status.
* `Request.Arrives`         — what is looked into.
* `Request.json_of_refused`, `Request.json_of_arrives` — what the extractor makes of either.
* `Request.givesTexts_iff_of_compact`, `Request.isBlank_of_givesTexts` — bytes that give texts.
* `Handler.HandsOver`       — somewhere inside, a route takes the body.
-/

namespace ErrorBoundary

namespace Request

/-- The first content type is readable, and one of JSON. -/
def IsJson (r : Request) : Prop :=
  ∃ value, r.first? "content-type" = some value ∧ value.toList.all isReadable = true ∧
    ∃ type subtype parameters, MediaType.IsJsonText type subtype parameters value

/-- The checks that come before the body is looked into, in their order. -/
inductive Refused (limit : Nat) (r : Request) : Status → Prop where
  | contentType : ¬ r.IsJson → Refused limit r .unsupportedMediaType
  | tooLong : r.IsJson → limit < r.body.bytes.length → Refused limit r .payloadTooLarge
  | broken {reason : String} : r.IsJson → r.body.bytes.length ≤ limit →
      r.body.failure = some reason → Refused limit r .badRequest

/-- The body comes through whole. -/
structure Arrives (limit : Nat) (r : Request) : Prop where
  isJson : r.IsJson
  fits : r.body.bytes.length ≤ limit
  whole : r.body.failure = none

/-- The body comes through and gives each name its text. -/
structure GivesTexts (limit : Nat) (names : List String) (texts : String → String)
    (r : Request) : Prop where
  arrives : r.Arrives limit
  writes : (Document.ofBytes r.body.bytes).WritesTexts names texts

/-- The body comes through, but is no JSON or leaves some name without a text. -/
structure Misfits (limit : Nat) (names : List String) (r : Request) : Prop where
  arrives : r.Arrives limit
  writesNot : ∀ texts, ¬ (Document.ofBytes r.body.bytes).WritesTexts names texts

variable {α : Type} {limit : Nat} {r : Request} {status : Status}

theorem any_isJson_iff : r.mediaType?.any MediaType.isJson = true ↔ r.IsJson := by
  simp only [IsJson, ← MediaType.exists_isJson_iff, mediaType?, Option.any_eq_true,
    Option.bind_eq_some_iff, header?_eq_some_iff]
  constructor
  · rintro ⟨m, ⟨value, ⟨hfirst, hreadable⟩, hread⟩, hjson⟩
    exact ⟨value, hfirst, hreadable, m, hread, hjson⟩
  · rintro ⟨value, hfirst, hreadable, m, hread, hjson⟩
    exact ⟨m, ⟨value, ⟨hfirst, hreadable⟩, hread⟩, hjson⟩

theorem not_refused_of_arrives (h : r.Arrives limit) : ¬ r.Refused limit status := by
  intro hrefused
  cases hrefused with
  | contentType hjson => exact hjson h.isJson
  | tooLong _ hlong => exact absurd h.fits (Nat.not_le.mpr hlong)
  | broken _ _ hbroken =>
    rw [h.whole] at hbroken
    cases hbroken

theorem refused_or_arrives (limit : Nat) (r : Request) :
    (∃ status, r.Refused limit status) ∨ r.Arrives limit := by
  by_cases hjson : r.IsJson
  · by_cases hlong : limit < r.body.bytes.length
    · exact .inl ⟨_, .tooLong hjson hlong⟩
    · have hfits := Nat.not_lt.mp hlong
      cases hfail : r.body.failure with
      | some reason => exact .inl ⟨_, .broken hjson hfits hfail⟩
      | none => exact .inr ⟨hjson, hfits, hfail⟩
  · exact .inl ⟨_, .contentType hjson⟩

/-- A refused body is rejected with the status of the check that it failed, whatever was to be
made of it. -/
theorem json_of_refused (h : r.Refused limit status) (decode : Decoder α) :
    ∃ e : JsonRejection, r.json limit decode = .error (.jsonRejected e) ∧ e.status = status := by
  unfold json jsonBody
  cases h with
  | contentType hjson =>
    rw [← any_isJson_iff, Bool.not_eq_true] at hjson
    exact ⟨.contentType, by simp [hjson, ApiError.ofJsonRejection], rfl⟩
  | tooLong hjson hlong =>
    rw [← any_isJson_iff] at hjson
    exact ⟨.body .tooLong, by simp [hjson, Body.read, hlong, ApiError.ofJsonRejection], rfl⟩
  | @broken reason hjson hfits hfail =>
    rw [← any_isJson_iff] at hjson
    have hlong := Nat.not_lt.mpr hfits
    exact ⟨.body (.broken reason),
      by simp [hjson, Body.read, hlong, hfail, ApiError.ofJsonRejection], rfl⟩

/-- A body that arrives is decoded, or it is malformed. -/
theorem json_of_arrives (h : r.Arrives limit) (decode : Decoder α) :
    (∃ a, Decode.document decode (.ofBytes r.body.bytes) = .ok a ∧ r.json limit decode = .ok a) ∨
      ((∀ a, Decode.document decode (.ofBytes r.body.bytes) ≠ .ok a) ∧
        ∃ e, r.json limit decode = .error (.malformedBody e)) := by
  have hjson := any_isJson_iff.mpr h.isJson
  have hread : r.body.read limit = .ok r.body.bytes := by
    simp [Body.read, Nat.not_lt.mpr h.fits, h.whole]
  unfold json jsonBody
  simp only [hjson, hread, Bool.not_true, Bool.false_eq_true, if_false]
  cases Decode.document decode (.ofBytes r.body.bytes) with
  | ok a => exact .inl ⟨a, rfl, rfl⟩
  | error e =>
    refine .inr ⟨fun a ha => (by cases ha), ?_⟩
    cases e with
    | fault f => exact ⟨.malformed f.message, rfl⟩
    | mismatch m => exact ⟨.mismatch m.message, rfl⟩

section Texts

variable {record : Record α} {names : List String} {texts : String → String}

theorem givesTexts_or_misfits (h : r.Arrives limit) (names : List String) :
    (∃ texts, r.GivesTexts limit names texts) ∨ r.Misfits limit names := by
  by_cases hwrites : ∃ texts, (Document.ofBytes r.body.bytes).WritesTexts names texts
  · obtain ⟨texts, hwrites⟩ := hwrites
    exact .inl ⟨texts, h, hwrites⟩
  · exact .inr ⟨h, not_exists.mp hwrites⟩

theorem json_of_givesTexts (hrecord : record.IsTextual)
    (h : r.GivesTexts limit record.names texts) :
    ∃ a, record.HasTexts texts a ∧ r.json limit record.decode = .ok a := by
  obtain ⟨a, ha⟩ := Record.exists_hasTexts hrecord texts
  have hdecode := (Record.document_decode_iff hrecord).mpr ⟨texts, h.writes, ha⟩
  rcases json_of_arrives h.arrives record.decode with ⟨b, hb, hjson⟩ | ⟨hnone, _⟩
  · rw [hdecode] at hb
    cases hb
    exact ⟨a, ha, hjson⟩
  · exact absurd hdecode (hnone a)

theorem json_of_misfits (hrecord : record.IsTextual) (h : r.Misfits limit record.names) :
    ∃ e, r.json limit record.decode = .error (.malformedBody e) := by
  rcases json_of_arrives h.arrives record.decode with ⟨b, hb, _⟩ | ⟨_, hjson⟩
  · obtain ⟨texts, hwrites, _⟩ := (Record.document_decode_iff hrecord).mp hb
    exact absurd hwrites (h.writesNot texts)
  · exact hjson

/-- The bytes of a value between blanks give the texts that the value writes, and no others. -/
theorem givesTexts_iff_of_compact (h : r.Arrives limit) (hnodup : names.Nodup) {v : Json}
    {before behind : String} (hv : v.IsExact)
    (hbefore : ∀ c ∈ before.toList, Reading.isBlank c = true)
    (hbehind : ∀ c ∈ behind.toList, Reading.isBlank c = true)
    (hbytes : r.body.bytes = Utf8.encode (before ++ v.compact ++ behind)) :
    r.GivesTexts limit names texts ↔ v.WritesTexts names texts := by
  have hdocument : Document.ofBytes r.body.bytes = .ofJson v := by
    rw [hbytes, Document.ofBytes_encode, Document.ofText_between_blanks hv hbefore hbehind]
  rw [← Draft.writesTexts_ofJson_iff hnodup]
  constructor
  · intro hgives
    have hroot := hgives.writes.root
    rwa [hdocument] at hroot
  · intro hwrites
    exact ⟨h, by rw [hdocument]; exact ⟨hwrites, rfl⟩⟩

theorem GivesTexts.isWhole (h : r.GivesTexts limit names texts) :
    (Document.ofBytes r.body.bytes).IsWhole := by
  refine ⟨?_, h.writes.alone⟩
  have hroot := h.writes.root
  generalize (Document.ofBytes r.body.bytes).root = root at hroot
  cases hroot with
  | object => exact .object _
  | array => exact .array _

/-- A body that gives texts gives none when it is cut short or when anything follows it, blanks
apart. -/
theorem isBlank_of_givesTexts {r' : Request} {texts' : String → String} {s t : String}
    (hshort : r.body.bytes = Utf8.encode s) (hlong : r'.body.bytes = Utf8.encode (s ++ t))
    (h : r.GivesTexts limit names texts) (h' : r'.GivesTexts limit names texts') :
    ∀ c ∈ t.toList, Reading.isBlank c = true := by
  have hwhole := h.isWhole
  have hwhole' := h'.isWhole
  rw [hshort, Document.ofBytes_encode] at hwhole
  rw [hlong, Document.ofBytes_encode] at hwhole'
  exact (Document.isWhole_append_iff hwhole).mp hwhole'

end Texts

/-- Only the headers and the body count. -/
theorem json_congr {r' : Request} (hheaders : r'.headers = r.headers) (hbody : r'.body = r.body)
    (limit : Nat) (decode : Decoder α) : r'.json limit decode = r.json limit decode := by
  unfold json jsonBody mediaType? header?
  rw [hheaders, hbody]

end Request

namespace Handler

variable {α : Type} {limit : Nat} {decode : Decoder α} {next : α → Handler} {request : Request}

theorem takingJson_of_ok {a : α} (h : request.json limit decode = .ok a) :
    takingJson limit decode next request = next a request := by
  simp only [takingJson, h]

theorem raised_takingJson {e : ApiError} (h : request.json limit decode = .error e) :
    (takingJson limit decode next request).value.raised = some e := by
  simp only [takingJson, h]
  rfl

/-- What answers a request hands it over to a route that takes a JSON body for a record. The route
may see another part of the target, but the same headers and the same body. -/
structure HandsOver (inner : Handler) (request : Request) (limit : Nat) (record : Record α)
    (next : α → Handler) (seen : Request) : Prop where
  headers : seen.headers = request.headers
  body : seen.body = request.body
  runs : inner request = takingJson limit record.decode next seen

theorem HandsOver.json_eq {inner : Handler} {record : Record α} {seen : Request}
    (h : inner.HandsOver request limit record next seen) :
    seen.json limit record.decode = request.json limit record.decode :=
  Request.json_congr h.headers h.body limit record.decode

end Handler

namespace ErrorResponse

/-- The answer to a body that was refused: its status, and that it was refused. -/
def refusedBody (status : Status) : ErrorResponse := ⟨status, ⟨none, TypeName.jsonRejection, none⟩⟩

/-- The answer to a body that does not fit. -/
def unreadableBody : ErrorResponse :=
  ⟨.badRequest, ⟨some "The given request body is not well formed", TypeName.messageNotReadable,
    some Classification.restBodyNotReadable.key⟩⟩

end ErrorResponse

/-- The targets of the showcase are records of one text. -/
theorem Showcase.NewTarget.isTextual_record : NewTarget.record.IsTextual where
  nodup_names := by decide
  sets := by
    intro f hf
    obtain rfl := List.mem_singleton.mp hf
    exact ⟨fun v t => { t with controllerId := v }, rfl⟩
  mustStand := by
    intro f hf
    obtain rfl := List.mem_singleton.mp hf
    rfl
  mustBeFull := rfl
  apart := Record.areApart_of_pairwise (List.pairwise_singleton _ _)

namespace Server

variable {α : Type} {settings : Settings} {s : Server} {record : Record α} {limit : Nat}
  {inner : Handler} {request seen : Request} {next : α → Handler}

/-- A route that is found below the root is handed the request with its own part of the path. -/
theorem handsOver_routed {routes : List Route} {route : Route} {captured : List String}
    {next : List String → α → Handler}
    (hroute : ∀ captured, route.handler captured =
      .takingJson limit record.decode (next captured))
    (hanswers : Answers routes request route captured) :
    (routed routes).HandsOver request limit record (next captured) (request.below "api") :=
  ⟨rfl, rfl, by rw [routed_of_answers hanswers, hroute]⟩

/-- The answer to a route whose body does not come out of the extractor. -/
theorem around_of_json_error (hs : (ofSettings settings).value = .ok s)
    (h : inner.HandsOver request limit record next seen) {e : ApiError}
    (he : request.json limit record.decode = .error e) :
    (exceptionBoundary s.responder inner request).value =
        (s.responder.dispatch request.url e).value.toResponse ∧
      (s.around inner request).value =
        (s.responder.dispatch request.url e).value.sent request.method := by
  have hraised : (inner request).value.raised = some e := by
    rw [h.runs]
    exact Handler.raised_takingJson (h.json_eq.trans he)
  refine ⟨?_, around_of_raised (table_of_ofSettings hs) hraised⟩
  rw [exceptionBoundary_of_raised s.responder hraised]

theorem around_of_refused (hs : (ofSettings settings).value = .ok s)
    (h : inner.HandsOver request limit record next seen) {status : Status}
    (hrefused : request.Refused limit status) :
    (s.around inner request).value =
      (ErrorResponse.refusedBody status).sent request.method := by
  obtain ⟨e, he, rfl⟩ := Request.json_of_refused hrefused record.decode
  exact (around_of_json_error hs h he).2

theorem around_of_misfits (hs : (ofSettings settings).value = .ok s) (hrecord : record.IsTextual)
    (h : inner.HandsOver request limit record next seen)
    (hmisfits : request.Misfits limit record.names) :
    (exceptionBoundary s.responder inner request).value =
        ErrorResponse.unreadableBody.toResponse ∧
      (s.around inner request).value = ErrorResponse.unreadableBody.sent request.method := by
  obtain ⟨e, he⟩ := Request.json_of_misfits hrecord hmisfits
  exact around_of_json_error hs h he

/-- A route that takes a JSON body for a record of texts, under settings that are accepted. One of
three things happens. The body gives the record its texts, and the route runs on it. The body is
refused before it is looked into, and the answer has the status of the check that refused it and
says nothing else. Or the body is no JSON or leaves a name without its text, and the answer is the
one for all such bodies: it is the same for any two of them, whatever else is in the requests and
whatever the settings, but that `HEAD` gets it without its text.

The bytes of an object give a record its texts exactly if they stand in it, each under its name and
each name once, whatever other members there are and whatever blanks around; and when anything else
is added to a body that gives texts, or any of it cut off, it gives none. The routes of the server
are such routes. -/
theorem takes_json_body (hs : (ofSettings settings).value = .ok s) (hrecord : record.IsTextual)
    (h : inner.HandsOver request limit record next seen) :
    let given := ∃ texts, request.GivesTexts limit record.names texts
    let refused := ∃ status, request.Refused limit status
    let misfit := request.Misfits limit record.names
    ((given ∧ ¬ refused ∧ ¬ misfit) ∨ (¬ given ∧ refused ∧ ¬ misfit) ∨
      (¬ given ∧ ¬ refused ∧ misfit)) ∧
    (∀ texts, request.GivesTexts limit record.names texts →
      ∃ a, record.HasTexts texts a ∧ inner request = next a seen) ∧
    (∀ status, request.Refused limit status →
      (s.around inner request).value =
        (ErrorResponse.refusedBody status).sent request.method) ∧
    (misfit →
      (s.around inner request).value = ErrorResponse.unreadableBody.sent request.method ∧
      ∀ settings' s' inner' request' next' seen', (ofSettings settings').value = .ok s' →
        Handler.HandsOver inner' request' limit record next' seen' →
        request'.Misfits limit record.names →
        (exceptionBoundary s.responder inner request).value =
          (exceptionBoundary s'.responder inner' request').value ∧
        ((request.method = "HEAD" ↔ request'.method = "HEAD") →
          (s.around inner request).value = (s'.around inner' request').value)) ∧
    (∀ (v : Json) (before behind : String), v.IsExact →
      (∀ c ∈ before.toList, Reading.isBlank c = true) →
      (∀ c ∈ behind.toList, Reading.isBlank c = true) →
      request.body.bytes = Utf8.encode (before ++ v.compact ++ behind) →
      request.Arrives limit → ∀ texts,
        request.GivesTexts limit record.names texts ↔ v.WritesTexts record.names texts) ∧
    (∀ (request' : Request) (text more : String), request'.body.bytes = Utf8.encode text →
      request.body.bytes = Utf8.encode (text ++ more) →
      (∃ texts, request'.GivesTexts limit record.names texts) → given →
      ∀ c ∈ more.toList, Reading.isBlank c = true) ∧
    (∀ (routes : List Route) (route : Route) (captured : List String)
      (next : List String → α → Handler), Answers routes request route captured →
      (∀ captured, route.handler captured = .takingJson limit record.decode (next captured)) →
      (routed routes).HandsOver request limit record (next captured) (request.below "api")) := by
  intro given refused misfit
  refine ⟨?_, ?_, fun status hrefused => around_of_refused hs h hrefused, ?_, ?_, ?_, ?_⟩
  · rcases Request.refused_or_arrives limit request with hrefused | harrives
    · -- what is refused does not arrive
      have hnot : ¬ request.Arrives limit := by
        intro harrives
        obtain ⟨status, hstatus⟩ := hrefused
        exact Request.not_refused_of_arrives harrives hstatus
      exact .inr (.inl ⟨fun ⟨_, h⟩ => hnot h.arrives, hrefused, fun h => hnot h.arrives⟩)
    · have hnot : ¬ refused := fun ⟨_, h⟩ => Request.not_refused_of_arrives harrives h
      rcases Request.givesTexts_or_misfits harrives record.names with hgiven | hmisfit
      · obtain ⟨texts, htexts⟩ := hgiven
        exact .inl ⟨⟨texts, htexts⟩, hnot, fun h => h.writesNot texts htexts.writes⟩
      · exact .inr (.inr ⟨fun ⟨texts, h⟩ => hmisfit.writesNot texts h.writes, hnot, hmisfit⟩)
  · intro texts htexts
    obtain ⟨a, ha, hjson⟩ := Request.json_of_givesTexts hrecord htexts
    refine ⟨a, ha, ?_⟩
    rw [h.runs, Handler.takingJson_of_ok (h.json_eq.trans hjson)]
  · intro hmisfit
    obtain ⟨hbare, hsent⟩ := around_of_misfits hs hrecord h hmisfit
    refine ⟨hsent, fun settings' s' inner' request' next' seen' hs' h' hmisfit' => ?_⟩
    obtain ⟨hbare', hsent'⟩ := around_of_misfits hs' hrecord h' hmisfit'
    refine ⟨hbare.trans hbare'.symm, fun hmethod => ?_⟩
    rw [hsent, hsent']
    simp only [ErrorResponse.sent, hmethod]
  · intro v before behind hv hbefore hbehind hbytes harrives texts
    exact Request.givesTexts_iff_of_compact harrives hrecord.nodup_names hv hbefore hbehind hbytes
  · rintro request' text more hshort hlong ⟨texts, hgives⟩ ⟨texts', hgives'⟩
    exact Request.isBlank_of_givesTexts hshort hlong hgives hgives'
  · intro routes route captured next hanswers hroute
    exact handsOver_routed hroute hanswers

/-- Five requests for a new target. An object with its name and a blank behind it is answered by
the route; the same bytes as text are refused for their type; an array that is empty, sent to one
server, and the object without its last bracket or with a second one, sent to a server with other
settings, are answered alike. -/
theorem takes_json_body_targets :
    let settings : Settings :=
      { Settings.default with errors := ⟨503, .ofList [(.restBodyNotReadable, 599)]⟩ }
    let request (type text : String) : Request :=
      ⟨"POST", ⟨none, none, "/api/targets", none⟩, [("content-type", type)],
        ⟨Utf8.encode text, none⟩, none⟩
    let json := "Application/JSON; charset=utf-8"
    ∃ s s', (ofSettings Settings.default).value = .ok s ∧ (ofSettings settings).value = .ok s' ∧
      (s.handler Showcase.routes
        (request json "\x7b\"controllerId\":\"c1\"\x7d ")).value =
          Response.json .ok "\x7b\"controllerId\":\"c1\"\x7d" ∧
      (s.handler Showcase.routes
        (request "text/plain" "\x7b\"controllerId\":\"c1\"\x7d ")).value =
          (ErrorResponse.refusedBody .unsupportedMediaType).sent "POST" ∧
      (s.handler Showcase.routes (request json "[]")).value =
        (s'.handler Showcase.routes
          (request json "\x7b\"controllerId\":\"c1\"")).value ∧
      (s.handler Showcase.routes (request json "[]")).value =
        (s'.handler Showcase.routes
          (request json "\x7b\"controllerId\":\"c1\"\x7d\x7d")).value := by
  intro settings request json
  obtain ⟨s, hs⟩ : ∃ s, (ofSettings Settings.default).value = .ok s := ⟨_, rfl⟩
  obtain ⟨s', hs'⟩ : ∃ s, (ofSettings settings).value = .ok s := ⟨_, rfl⟩
  let record := Showcase.NewTarget.record
  let limit := Request.defaultLimit
  let route : Route := ⟨[.literal "targets"], .post, fun _ => Showcase.createTarget limit⟩
  let next : Showcase.NewTarget → Handler := fun t => .pure (Showcase.answer t.toJson)
  let whole : Json := .object [("controllerId", .string "c1")]
  have hwhole : whole.compact = "\x7b\"controllerId\":\"c1\"\x7d" := by decide
  have hhands : ∀ type text, (routed Showcase.routes).HandsOver (request type text) limit record
      next ((request type text).below "api") := by
    intro type text
    have hsegments : Router.segments "/api/targets" = some ["api", "targets"] := by decide
    have hfound : Router.find? ((healthRoute :: Showcase.routes).map (Route.under "api"))
        "/api/targets" "POST" = some (route.under "api", []) := by
      rw [Router.find?, Router.routesAt, hsegments]
      rfl
    have hroute : ∀ captured, route.handler captured =
        .takingJson limit record.decode ((fun _ => next) captured) := fun _ => rfl
    exact handsOver_routed hroute ⟨.tail _ (.head _), hfound⟩
  have harrives : ∀ text, (Utf8.encode text).length ≤ limit →
      (request json text).Arrives limit := by
    intro text hfits
    refine ⟨⟨json, rfl, by decide, "Application".toList, "JSON".toList,
      "; charset=utf-8".toList, ?_⟩, hfits, rfl⟩
    have hparameter : MediaType.IsParameter true ("charset".toList ++ '=' :: "utf-8".toList) :=
      .token ⟨by decide, List.all_eq_true.mp rfl⟩ ⟨by decide, List.all_eq_true.mp rfl⟩
    have hcharset : MediaType.IsParameters " charset=utf-8".toList := .blank (.last hparameter)
    exact ⟨by decide, ⟨by decide, List.all_eq_true.mp rfl⟩,
      ⟨by decide, List.all_eq_true.mp rfl⟩, by decide, .alone, .inr ⟨_, rfl, hcharset⟩⟩
  have hwrites : whole.WritesTexts record.names fun _ => "c1" := by
    refine .object fun name hname => ?_
    rw [List.mem_singleton.mp hname]
    rfl
  have htextual := Showcase.NewTarget.isTextual_record
  have hlen : ∀ text, (text.toList.flatMap String.utf8EncodeChar).length ≤ limit →
      (Utf8.encode text).length ≤ limit := fun text h => by rwa [Utf8.encode_eq]
  -- nothing else is read of the object than its text, and of the empty array none
  have hgives : ∀ behind : String, (∀ c ∈ behind.toList, Reading.isBlank c = true) →
      (Utf8.encode (whole.compact ++ behind)).length ≤ limit →
      (request json (whole.compact ++ behind)).GivesTexts limit record.names fun _ => "c1" := by
    intro behind hbehind hfits
    obtain ⟨_, _, _, _, htie, _⟩ := takes_json_body hs htextual (hhands json _)
    exact (htie whole "" behind (by simp [whole, Json.IsExact, Json.HasExact]) (by simp) hbehind
      (by rw [String.empty_append]) (harrives _ hfits) _).mpr hwrites
  have harray : (request json "[]").Misfits limit record.names := by
    have harrives := harrives "[]" (hlen _ (by decide))
    obtain ⟨_, _, _, _, htie, _⟩ := takes_json_body hs htextual (hhands json "[]")
    refine ⟨harrives, fun texts hwrites => ?_⟩
    have hnone := (htie (.array []) "" "" trivial (by simp) (by simp) rfl harrives texts).mp
      ⟨harrives, hwrites⟩
    cases hnone
  have halone : (request json "\x7b\"controllerId\":\"c1\"\x7d").GivesTexts limit record.names
      fun _ => "c1" := by
    have h := hgives "" (by simp) (hlen _ (by rw [hwhole]; decide))
    rwa [hwhole] at h
  obtain ⟨_, _, _, hmisfit, _⟩ := takes_json_body hs htextual (hhands json "[]")
  obtain ⟨_, hsame⟩ := hmisfit harray
  refine ⟨s, s', hs, hs', ?_, ?_, ?_, ?_⟩
  · obtain ⟨_, hgiven, _⟩ := takes_json_body hs htextual
      (hhands json "\x7b\"controllerId\":\"c1\"\x7d ")
    have hblank := hgives " " (by simp [Reading.isBlank]) (hlen _ (by rw [hwhole]; decide))
    rw [hwhole] at hblank
    obtain ⟨a, ha, hrun⟩ := hgiven _ hblank
    have htarget : record.HasTexts (fun _ => "c1") ⟨"c1"⟩ := rfl
    obtain rfl : a = ⟨"c1"⟩ := Except.ok.inj (ha.symm.trans htarget)
    have hsettled : (routed Showcase.routes
        (request json "\x7b\"controllerId\":\"c1\"\x7d ")).value.raised = none := by
      rw [hrun]
      rfl
    rw [handler, around_of_settled hsettled, Handler.framed, Logged.map, hrun, ← hwhole]
    rfl
  · obtain ⟨_, _, hrefused, _⟩ := takes_json_body hs htextual
      (hhands "text/plain" "\x7b\"controllerId\":\"c1\"\x7d ")
    refine hrefused _ (.contentType ?_)
    rw [← Request.any_isJson_iff]
    decide
  · refine (hsame settings s' _ _ _ _ hs' (hhands json _) ?_).2 Iff.rfl
    have harrives := harrives "\x7b\"controllerId\":\"c1\"" (hlen _ (by decide))
    refine ⟨harrives, fun texts hwrites => ?_⟩
    obtain ⟨_, _, _, _, _, hcut, _⟩ := takes_json_body hs htextual
      (hhands json "\x7b\"controllerId\":\"c1\"\x7d")
    have hbracket := hcut _ "\x7b\"controllerId\":\"c1\"" "\x7d" rfl rfl
      ⟨texts, harrives, hwrites⟩ ⟨_, halone⟩
    exact absurd (hbracket '\x7d' List.mem_cons_self) (by decide)
  · refine (hsame settings s' _ _ _ _ hs' (hhands json _) ?_).2 Iff.rfl
    have harrives := harrives "\x7b\"controllerId\":\"c1\"\x7d\x7d" (hlen _ (by decide))
    refine ⟨harrives, fun texts hwrites => ?_⟩
    obtain ⟨_, _, _, _, _, hcut, _⟩ := takes_json_body hs htextual
      (hhands json "\x7b\"controllerId\":\"c1\"\x7d\x7d")
    have hbracket := hcut _ "\x7b\"controllerId\":\"c1\"\x7d" "\x7d" rfl rfl
      ⟨_, halone⟩ ⟨texts, harrives, hwrites⟩
    exact absurd (hbracket '\x7d' List.mem_cons_self) (by decide)

end Server
end ErrorBoundary
