import ErrorBoundary.Proofs.Coherence

/-!
# ErrorBoundary.Proofs.Influence

What settings can change in the answer to an error, as a property of two servers.
`Server.settings_change_statuses`: they tell the same body and write the same event, and they
answer with the same status unless their settings differ in what the error looks up.

* `ApiError.lookup?`        — what the table is asked for, if it is asked.
* `Responder.status_congr`  — tables that agree there answer with the same status.
-/

namespace ErrorBoundary

/-- What the table of statuses is asked for: the classification that an error carries, or that it
carries none. It is not asked where the status is fixed. -/
def ApiError.lookup? : ApiError → Option (Option Classification)
  | .server e => some (some e.classification)
  | .unclassified e => some e.classification
  | _ => none

namespace Responder

variable {t t' : Responder} {settings settings' : ErrorSettings}

theorem body_congr (t t' : Responder) (url : Uri) (e : ApiError) :
    (t.dispatch url e).value.body = (t'.dispatch url e).value.body := by
  cases e <;> rfl

theorem status_of_lookup {e : ApiError} {c : Option Classification} (h : e.lookup? = some c)
    (t : Responder) (url : Uri) : (t.dispatch url e).value.status = t.table.statusOf? c := by
  cases e with
  | server e => cases h; rfl
  | unclassified e => cases h; rfl
  | _ => cases h

theorem status_congr (h : t.table.Resolves settings) (h' : t'.table.Resolves settings')
    (url : Uri) {e : ApiError}
    (hagree : ∀ c, e.lookup? = some c → StatusTable.AgreeOn settings settings' c) :
    (t.dispatch url e).value.status = (t'.dispatch url e).value.status := by
  cases hc : e.lookup? with
  | some c =>
    rw [status_of_lookup hc, status_of_lookup hc]
    exact h.statusOf?_congr h' (hagree c hc)
  | none =>
    cases e with
    | server e => cases hc
    | unclassified e => cases hc
    | _ => rfl

end Responder

namespace Server

theorem resolves_of_ofSettings {settings : Settings} {s : Server}
    (h : (ofSettings settings).value = .ok s) : s.responder.table.Resolves settings.errors :=
  (StatusTable.build_spec (.refl _) (table_of_ofSettings h)).2

/-- Settings change statuses and nothing else: two servers tell the same body and write the same
event. They do not change every status. A body that does not decode and a failed upload are bad
requests, and a refused request keeps the status of the refusal, whatever is overridden. An error
that carries a classification is answered alike under settings that agree on it, and with the
override where there is one; one that carries none is answered with the default status. -/
theorem settings_change_statuses {settings settings' : Settings} {s s' : Server}
    (hs : (ofSettings settings).value = .ok s) (hs' : (ofSettings settings').value = .ok s')
    (url : Uri) (e : ApiError) :
    let answer := s.responder.dispatch url e
    let answer' := s'.responder.dispatch url e
    answer.value.body = answer'.value.body ∧ answer.events = answer'.events ∧
    (∀ r, e = .malformedBody r →
      answer.value.status = .badRequest ∧ answer'.value.status = .badRequest) ∧
    (∀ r, e = .jsonRejected r →
      answer.value.status = r.status ∧ answer'.value.status = r.status) ∧
    (e = .multipartRejected ∨ (∃ m, e = .multipart m) →
      answer.value.status = .badRequest ∧ answer'.value.status = .badRequest) ∧
    (∀ k, e.lookup? = some (some k) →
      StatusTable.AgreeOn settings.errors settings'.errors (some k) →
      answer.value.status = answer'.value.status) ∧
    (∀ k code, e.lookup? = some (some k) → settings.errors.overrides.code? k = some code →
      answer.value.status.code = code.toNat) ∧
    (e.lookup? = some none →
      answer.value.status.code = settings.errors.defaultStatus.toNat ∧
      answer'.value.status.code = settings'.errors.defaultStatus.toNat) := by
  intro answer answer'
  have hr := resolves_of_ofSettings hs
  have hr' := resolves_of_ofSettings hs'
  refine ⟨Responder.body_congr s.responder s'.responder url e, ?_, ?_, ?_, ?_, ?_, ?_, ?_⟩
  · exact (Responder.events_dispatch s.responder url e).trans
      (Responder.events_dispatch s'.responder url e).symm
  · rintro r rfl
    exact ⟨rfl, rfl⟩
  · rintro r rfl
    exact ⟨rfl, rfl⟩
  · rintro (rfl | ⟨m, rfl⟩)
    · exact ⟨rfl, rfl⟩
    · exact ⟨rfl, rfl⟩
  · intro k hk hagree
    refine Responder.status_congr hr hr' url fun c hc => ?_
    rw [hk] at hc
    cases hc
    exact hagree
  · intro k code hk hcode
    rw [Responder.status_of_lookup hk, hr.classified]
    exact hr.overridden k code hcode
  · intro hnone
    rw [Responder.status_of_lookup hnone, Responder.status_of_lookup hnone, hr.unclassified,
      hr'.unclassified]
    exact ⟨hr.default_code, hr'.default_code⟩

/-- Settings that agree on a locked entity and on nothing else. Overriding the classification that
an unreadable body is told with does not change its status. -/
theorem settings_change_statuses_locked :
    let settings : Settings := { Settings.default with
      errors := ⟨503, .ofList [(.entityLocked, 409), (.restBodyNotReadable, 599)]⟩ }
    let settings' : Settings := { Settings.default with
      errors := ⟨404, .ofList [(.artifactUploadFailed, 418), (.entityLocked, 409)]⟩ }
    let locked : ApiError := .server (.entityLocked "in use")
    let unreadable : ApiError := .malformedBody (.malformed "expected value")
    let url : Uri := ⟨none, none, "/api/targets", none⟩
    ∃ s s', (ofSettings settings).value = .ok s ∧ (ofSettings settings').value = .ok s' ∧
      (s.responder.dispatch url locked).value.status =
        (s'.responder.dispatch url locked).value.status ∧
      (s.responder.dispatch url locked).value.status.code = 409 ∧
      (s.responder.dispatch url unreadable).value.status = .badRequest := by
  intro settings settings' locked unreadable url
  obtain ⟨s, hs⟩ : ∃ s, (ofSettings settings).value = .ok s := ⟨_, rfl⟩
  obtain ⟨s', hs'⟩ : ∃ s', (ofSettings settings').value = .ok s' := ⟨_, rfl⟩
  obtain ⟨_, _, _, _, _, hlocked, hcode, _⟩ := settings_change_statuses hs hs' url locked
  obtain ⟨_, _, hunreadable, _⟩ := settings_change_statuses hs hs' url unreadable
  have hagree : StatusTable.AgreeOn settings.errors settings'.errors (some .entityLocked) :=
    ⟨rfl, fun h => by cases h⟩
  exact ⟨s, s', hs, hs', hlocked .entityLocked rfl hagree, hcode .entityLocked 409 rfl rfl,
    (hunreadable _ rfl).1⟩

end Server
end ErrorBoundary
