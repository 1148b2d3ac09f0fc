import ErrorBoundary.Boundary.Responder
import ErrorBoundary.Proofs.Json.RoundTrip

/-!
# ErrorBoundary.Proofs.ErrorInfo

The body of an error response, written and read. `ErrorInfo.wire_faithful`: whatever texts the
three members hold, the body that a response is written with is read as an object of just these
members, and decodes to what it was written from.
-/

namespace ErrorBoundary
namespace ErrorInfo

theorem toJson_isExact (e : ErrorInfo) : e.toJson.IsExact :=
  ⟨Json.isExact_ofOption e.message, trivial, Json.isExact_ofOption e.errorCode, trivial⟩

theorem ofText_wire (e : ErrorInfo) : Document.ofText e.wire = .ofJson e.toJson :=
  Document.ofText_compact e.toJson_isExact

theorem decode_toJson (e : ErrorInfo) :
    Decode.document decode (.ofJson e.toJson) = .ok e := by
  obtain ⟨message, exceptionClass, errorCode⟩ := e
  cases message <;> cases errorCode <;> rfl

theorem decode_wire (e : ErrorInfo) : Decode.document decode (.ofText e.wire) = .ok e := by
  rw [ofText_wire, decode_toJson]

theorem wire_injective {e e' : ErrorInfo} (h : e.wire = e'.wire) : e = e' := by
  have he := decode_wire e
  rw [h, decode_wire e'] at he
  cases he
  rfl

/-- By increasing key the three members stand the other way round. -/
theorem sortMembers_members (m c k : Json) :
    Json.sortMembers [("message", m), ("exceptionClass", c), ("errorCode", k)] =
      [("errorCode", k), ("exceptionClass", c), ("message", m)] := by
  simp [Json.sortMembers, List.mergeSort, Json.keepLast]

theorem read_toJson (e : ErrorInfo) :
    (Document.ofJson e.toJson).read = .ok (.object [("errorCode", .ofOption e.errorCode),
      ("exceptionClass", .string e.exceptionClass), ("message", .ofOption e.message)]) := by
  obtain ⟨message, exceptionClass, errorCode⟩ := e
  have hread : ∀ depth s, Draft.readWithin depth (.ofJson (.ofOption s)) = .ok (.ofOption s) := by
    intro depth s
    cases s <;> rfl
  simp only [Document.read, Document.ofJson, toJson, Draft.ofJson, Draft.ofMembers, Draft.read,
    Draft.maxDepth, Draft.readWithin, Draft.readMembers, hread, Draft.finish, Document.finish,
    List.reverse_cons, List.reverse_nil, List.nil_append, List.cons_append, sortMembers_members]

theorem read_wire (e : ErrorInfo) :
    Json.ofText e.wire = .ok (.object [("errorCode", .ofOption e.errorCode),
      ("exceptionClass", .string e.exceptionClass), ("message", .ofOption e.message)]) := by
  rw [Json.ofText, ofText_wire, read_toJson]

/-- The body of a response that answers with `e`: it is read as an object with the three members
of `e`, each once and an absent one `null`; it decodes to `e`, so no two errors share a body; it
holds no control character; and the message has no say in the other members. -/
theorem wire_faithful (status : Status) (e : ErrorInfo) :
    let text := (ErrorResponse.toResponse ⟨status, e⟩).body
    Document.ofText text = .ofJson (.object [("message", .ofOption e.message),
      ("exceptionClass", .string e.exceptionClass), ("errorCode", .ofOption e.errorCode)]) ∧
    Json.ofText text = .ok (.object [("errorCode", .ofOption e.errorCode),
      ("exceptionClass", .string e.exceptionClass), ("message", .ofOption e.message)]) ∧
    Decode.document decode (.ofText text) = .ok e ∧
    (∀ c ∈ text.toList, 0x20 ≤ c.toNat) ∧
    (∀ (status' : Status) (e' : ErrorInfo),
      (ErrorResponse.toResponse ⟨status', e'⟩).body = text → e' = e) ∧
    (∃ others : List (String × Json), ∀ message : Option String,
      Document.ofText { e with message := message }.wire =
        .ofJson (.object (("message", .ofOption message) :: others))) := by
  intro text
  have htext : text = e.wire := rfl
  refine ⟨ofText_wire e, read_wire e, decode_wire e, ?_, ?_, ?_⟩
  · intro c hc
    rw [htext, wire, Json.compact, String.toList_ofList] at hc
    exact Json.chars_visible e.toJson e.toJson_isExact c hc
  · intro status' e' h
    exact wire_injective h
  · exact ⟨[("exceptionClass", .string e.exceptionClass), ("errorCode", .ofOption e.errorCode)],
      fun message => ofText_wire { e with message := message }⟩

/-- A message that would close the string and add a member stays a message. -/
example : (⟨some "\",\"errorCode\":\"x", "C", none⟩ : ErrorInfo).wire =
    "\x7b\"message\":\"\\\",\\\"errorCode\\\":\\\"x\"," ++
      "\"exceptionClass\":\"C\",\"errorCode\":null\x7d" := by
  decide

end ErrorInfo
end ErrorBoundary
