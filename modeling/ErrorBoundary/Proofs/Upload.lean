import ErrorBoundary.Proofs.Disclosure

/-!
# ErrorBoundary.Proofs.Upload

What the answer to a failed upload says. `Responder.multipartFailure_innermost`: the body has the
text at the inner end of the chain, however many texts are wrapped around it and whatever they say.

* `ErrorInfo.ofFailure_upload`       — the body, from the text it is given.
* `Responder.multipartFailure_value` — the answer, from the inner end of the chain.
-/

namespace ErrorBoundary

/-- An upload that failed for nothing that shows has no message. -/
theorem ErrorInfo.ofFailure_upload (cause : Cause) :
    ofFailure (.multipartUploadFailed cause) =
      ⟨if cause.text = "" then none else some cause.text, TypeName.multipartUploadFailed,
        some Classification.artifactUploadFailed.key⟩ := by
  simp only [ofFailure, Failure.multipartUploadFailed, Failure.ofType, String.isEmpty_iff,
    Option.map_some]
  rfl

namespace Responder

theorem multipartFailure_value (url : Uri) (typeName : String) (cause : Cause) :
    (multipartFailure url typeName cause).value =
      ⟨.badRequest, ⟨if cause.innermost = "" then none else some cause.innermost,
        TypeName.multipartUploadFailed, some Classification.artifactUploadFailed.key⟩⟩ := by
  rw [multipartFailure, ErrorInfo.ofFailure_upload, Cause.rootCause_text]
  rfl

/-- A failed upload is described by the last text of its chain. It is a bad request with the code
of a failed upload, and its message is that text, or none where the text is empty. The texts
wrapped around an error change nothing of the answer, nor does anything else but the last text;
and the body can be made from the root cause of any error of the chain. The table has no say. -/
theorem multipartFailure_innermost (t : Responder) (url : Uri) (typeName typeName' : String)
    (texts : List String) (e : Cause) :
    let wrapped := e.wrapIn texts
    let answer := (multipartFailure url typeName wrapped).value
    wrapped.texts = texts ++ e.texts ∧
    answer = (multipartFailure url typeName' e).value ∧
    answer.status = .badRequest ∧
    answer.body.exceptionClass = TypeName.multipartUploadFailed ∧
    answer.body.errorCode = some Classification.artifactUploadFailed.key ∧
    (∃ m, wrapped.texts.getLast? = some m ∧ (answer.body.message = none ↔ m = "") ∧
      (m ≠ "" → answer.body.message = some m)) ∧
    (∀ e' : Cause, e'.texts.getLast? = wrapped.texts.getLast? →
      (multipartFailure url typeName' e').value = answer) ∧
    (∀ x ∈ wrapped.walk,
      ErrorInfo.ofFailure (.multipartUploadFailed x.rootCause) = answer.body) ∧
    (t.dispatch url (.multipart (.other wrapped))).value = answer := by
  intro wrapped answer
  have hanswer : answer = _ := multipartFailure_value url typeName wrapped
  have hsame : ∀ (typeName : String) (e' : Cause), e'.innermost = wrapped.innermost →
      (multipartFailure url typeName e').value = answer := by
    intro typeName e' h
    rw [hanswer, multipartFailure_value, h]
  refine ⟨Cause.texts_wrapIn texts e, ?_, rfl, rfl, rfl, ?_, ?_, ?_, ?_⟩
  · exact (hsame typeName' e (Cause.innermost_wrapIn texts e).symm).symm
  · refine ⟨wrapped.innermost, wrapped.getLast?_texts, ?_, ?_⟩
    · simp [hanswer]
    · intro hm
      simp [hanswer, hm]
  · intro e' h
    rw [Cause.getLast?_texts, Cause.getLast?_texts, Option.some.injEq] at h
    exact hsame typeName' e' h
  · intro x hx
    rw [← hsame typeName x (Cause.innermost_of_mem_walk hx)]
    rfl
  · exact hsame TypeName.multipart _ rfl

/-- A cause that says nothing is not spoken for by what is wrapped around it. -/
example (url : Uri) : (multipartFailure url TypeName.multipart
    ((Cause.root "").wrapIn ["stream aborted", "write failed"])).value.body.message = none := rfl

end Responder
end ErrorBoundary
