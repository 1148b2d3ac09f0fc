import ErrorBoundary.Proofs.Classification
import ErrorBoundary.Proofs.Server

/-!
# ErrorBoundary.Proofs.Coherence

What every answer to an error has in common. `Server.answers_coherently`: under settings that are
accepted, no error is answered as a success, and the parts of the body agree with each other and
with the error.

* `ApiError.shown?`       — the classification that an answer names.
* `ErrorInfo.IsCoherent`  — a body that agrees with a classification, or with having none.
* `Responder.dispatch_isCoherent` — so does every body, whichever handler makes it.
-/

namespace ErrorBoundary

namespace ApiError

/-- The classification that the answer to an error names. A body that does not decode and a failed
upload have one of their own. -/
def shown? : ApiError → Option Classification
  | .server e => some e.classification
  | .unclassified e => e.classification
  | .malformedBody _ => some .restBodyNotReadable
  | .jsonRejected _ => none
  | .multipartRejected => some .artifactUploadFailed
  | .multipart _ => some .artifactUploadFailed

theorem shown?_eq_none_iff (e : ApiError) :
    e.shown? = none ↔
      (∃ r, e = .jsonRejected r) ∨ ∃ f, e = .unclassified f ∧ f.classification = none := by
  cases e <;> simp [shown?]

end ApiError

namespace ErrorInfo

/-- The code is that of the classification, and only with a code there is a message, which says
something. -/
structure IsCoherent (info : ErrorInfo) (c : Option Classification) : Prop where
  errorCode_eq : info.errorCode = c.map Classification.key
  message_spec : ∀ m, info.message = some m → m ≠ "" ∧ ∃ k, info.errorCode = some k

theorem isCoherent_ofFailure (e : Failure) : (ofFailure e).IsCoherent e.classification where
  errorCode_eq := rfl
  message_spec := by
    intro m hm
    cases hc : e.classification with
    | none =>
      simp only [ofFailure, hc] at hm
      cases hm
    | some c =>
      simp only [ofFailure, hc] at hm
      split at hm
      · cases hm
      · rename_i hempty
        cases hm
        refine ⟨fun h => hempty (by rw [h]; rfl), c.key, ?_⟩
        simp only [ofFailure, hc, Option.map_some]

theorem isCoherent_unclassified (typeName : String) : (unclassified typeName).IsCoherent none where
  errorCode_eq := rfl
  message_spec := fun _ hm => nomatch hm

/-- A code belongs to one classification, the one that the body agrees with. -/
theorem IsCoherent.eq_of_key {info : ErrorInfo} {c : Option Classification}
    (h : info.IsCoherent c) {k : String} (hk : info.errorCode = some k) :
    ∃ d, c = some d ∧ ∀ d' : Classification, d'.key = k ↔ d' = d := by
  rw [h.errorCode_eq] at hk
  obtain ⟨d, hd, rfl⟩ := Option.map_eq_some_iff.mp hk
  exact ⟨d, hd, fun d' => ⟨Classification.key_injective, fun heq => heq ▸ rfl⟩⟩

end ErrorInfo

theorem Responder.dispatch_isCoherent (t : Responder) (url : Uri) (e : ApiError) :
    (t.dispatch url e).value.body.IsCoherent e.shown? := by
  cases e with
  | server e => exact ErrorInfo.isCoherent_ofFailure (.server e)
  | unclassified e => exact ErrorInfo.isCoherent_ofFailure e
  | malformedBody r => exact ErrorInfo.isCoherent_ofFailure .messageNotReadable
  | jsonRejected r => exact ErrorInfo.isCoherent_unclassified _
  | multipartRejected => exact ErrorInfo.isCoherent_ofFailure (.multipartUploadFailed _)
  | multipart e => exact ErrorInfo.isCoherent_ofFailure (.multipartUploadFailed _)

namespace Server

theorem table_of_ofSettings {settings : Settings} {s : Server}
    (h : (ofSettings settings).value = .ok s) :
    settings.errors.table.value = .ok s.responder.table := by
  simp only [ofSettings, Logged.map] at h
  split at h
  · rename_i table ht
    cases h
    exact ht
  · cases h

/-- The text of the error names the default status if that is bad, and an override that is bad if
not, with the status that is written there. -/
theorem text_of_ofSettings {settings : Settings} {err : StartupError}
    (h : (ofSettings settings).value = .error err) :
    (∃ bad, Status.ofSetting settings.errors.defaultStatus.toNat = .error bad ∧
      err.text = s!"CONFIGURATION: errors.default_status: {bad.message}") ∨
    IsErrorCode settings.errors.defaultStatus.toNat ∧ ∃ c code bad,
      settings.errors.overrides.code? c = some code ∧ Status.ofSetting code.toNat = .error bad ∧
        err.text = s!"CONFIGURATION: errors.overrides.{c.label}: {bad.message}" := by
  simp only [ofSettings, Logged.map] at h
  split at h
  · cases h
  · rename_i e he
    cases h
    obtain ⟨bad, hbad, rfl⟩ | ⟨hdefault, c, code, bad, hc, hbad, rfl⟩ :=
      StatusTable.build_error (.refl _) he
    · exact .inl ⟨bad, hbad, rfl⟩
    · exact .inr ⟨hdefault, c, code, bad, hc, hbad, rfl⟩

/-- An error is never answered as a success and its body is always coherent: the status is one from
400 to 599; a message says something and comes with a code; a code is the key of one
classification, that of the error; and a code is left out for a refused request and an error
without a classification, and for nothing else. -/
theorem answers_coherently {settings : Settings} {s : Server}
    (hs : (ofSettings settings).value = .ok s) (url : Uri) (e : ApiError) :
    let answer := (s.responder.dispatch url e).value
    (400 ≤ answer.status.code ∧ answer.status.code ≤ 599) ∧
    (∀ m, answer.body.message = some m → m ≠ "" ∧ ∃ k, answer.body.errorCode = some k) ∧
    (∀ k, answer.body.errorCode = some k →
      ∃ c, e.shown? = some c ∧ ∀ d : Classification, d.key = k ↔ d = c) ∧
    (answer.body.errorCode = none ↔
      (∃ r, e = .jsonRejected r) ∨ ∃ f, e = .unclassified f ∧ f.classification = none) := by
  intro answer
  have hcoherent := s.responder.dispatch_isCoherent url e
  obtain ⟨hlow, hhigh⟩ := Responder.isError_dispatch (table_of_ofSettings hs) url e
  refine ⟨⟨hlow, Nat.le_of_lt_succ hhigh⟩, hcoherent.message_spec,
    fun k hk => hcoherent.eq_of_key hk, ?_⟩
  rw [hcoherent.errorCode_eq, Option.map_eq_none_iff, ApiError.shown?_eq_none_iff]

/-- An error that is classified, says nothing, and is answered with the default status. -/
theorem answers_coherently_silent :
    let settings : Settings := { Settings.default with errors := ⟨599, .empty⟩ }
    let s : Server := ⟨settings, ⟨{ StatusTable.standard with default := ⟨599, by decide⟩ }⟩⟩
    let e : ApiError := .unclassified ⟨some .genericError, "Silent", "Silent", .root ""⟩
    let url : Uri := ⟨none, none, "/api/targets", none⟩
    (ofSettings settings).value = .ok s ∧
      (s.responder.dispatch url e).value.status.code = 599 ∧
      (s.responder.dispatch url e).value.body =
        ⟨none, "Silent", some "rollout.server.error.repo.genericError"⟩ ∧
      ∀ d : Classification,
        d.key = "rollout.server.error.repo.genericError" ↔ d = .genericError := by
  intro settings s e url
  have hs : (ofSettings settings).value = .ok s := rfl
  obtain ⟨_, _, hcode, _⟩ := answers_coherently hs url e
  obtain ⟨c, hc, hkey⟩ := hcode "rollout.server.error.repo.genericError" rfl
  cases hc
  exact ⟨hs, rfl, rfl, hkey⟩

end Server
end ErrorBoundary
