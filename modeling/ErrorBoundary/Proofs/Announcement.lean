import ErrorBoundary.Proofs.StatusTable

/-!
# ErrorBoundary.Proofs.Announcement

Overrides are announced while they are applied, before the table is complete. What was announced
holds of the complete table all the same, because no classification is overridden twice.

* `StatusTable.announcement`    — the event that a table bears out for a classification.
* `StatusTable.events_override` — the announcements, from the table that they lead to.
* `StatusTable.build_announces` — one event for each override, in whatever order they are applied.
-/

namespace ErrorBoundary
namespace StatusTable

/-- An override announced with the status that the table has. -/
def announcement (t : StatusTable) (c : Classification) : Event := .overrideApplied c (t.statusOf c)

theorem announcement_injective (t : StatusTable) : Function.Injective t.announcement := by
  intro c d h
  exact (Event.overrideApplied.inj h).1

theorem override_cons {c : Classification} {code : UInt16} {s : Status}
    (h : Status.ofSetting code.toNat = .ok s) (t : StatusTable)
    (rest : List (Classification × UInt16)) :
    (t.override ((c, code) :: rest)).events =
        .overrideApplied c s :: ((t.insert c s).override rest).events ∧
      (t.override ((c, code) :: rest)).value = ((t.insert c s).override rest).value := by
  simp only [override, h, and_self]

/-- What is announced on the way is what the table at the end has. The event of an override is
written when its entry is, and later overrides leave that entry alone. -/
theorem events_override {order : List (Classification × UInt16)} {t t' : StatusTable}
    (hkeys : (order.map Prod.fst).Nodup) (h : (t.override order).value = .ok t') :
    (t.override order).events = (order.map Prod.fst).map t'.announcement := by
  induction order generalizing t with
  | nil => rfl
  | cons x rest ih =>
    obtain ⟨c, code⟩ := x
    rw [List.map_cons, List.nodup_cons] at hkeys
    obtain ⟨hc, hkeys⟩ := hkeys
    cases hs : Status.ofSetting code.toNat with
    | error bad =>
      simp only [override, hs] at h
      cases h
    | ok s =>
      obtain ⟨hevents, hvalue⟩ := override_cons hs t rest
      rw [hvalue] at h
      obtain ⟨_, hother, _⟩ := override_spec hkeys h
      have hstatus : t'.statusOf c = s := by
        rw [statusOf, hother c hc]
        simp [insert]
      rw [hevents, ih hkeys h, List.map_cons, List.map_cons, announcement, hstatus]

section Order

variable {e : ErrorSettings} {order : List (Classification × UInt16)} {t : StatusTable}

theorem events_build (h : order.Perm e.overrides.entries)
    (ht : (build e.defaultStatus order).value = .ok t) :
    (build e.defaultStatus order).events = (order.map Prod.fst).map t.announcement := by
  unfold build at ht ⊢
  split at ht
  · cases ht
  · exact events_override (nodup_order h) ht

theorem mem_keys (h : order.Perm e.overrides.entries) {c : Classification} :
    c ∈ order.map Prod.fst ↔ (e.overrides.code? c).isSome = true := by
  rw [List.mem_map, Option.isSome_iff_exists]
  constructor
  · rintro ⟨⟨c, code⟩, hx, rfl⟩
    exact ⟨code, (mem_order h).mp hx⟩
  · rintro ⟨code, hc⟩
    exact ⟨(c, code), (mem_order h).mpr hc, rfl⟩

theorem mem_events_build (h : order.Perm e.overrides.entries)
    (ht : (build e.defaultStatus order).value = .ok t) {event : Event} :
    event ∈ (build e.defaultStatus order).events ↔
      ∃ c, (e.overrides.code? c).isSome = true ∧ t.announcement c = event := by
  rw [events_build h ht, List.mem_map]
  simp only [mem_keys h]

theorem nodup_events_build (h : order.Perm e.overrides.entries)
    (ht : (build e.defaultStatus order).value = .ok t) :
    (build e.defaultStatus order).events.Nodup := by
  rw [events_build h ht]
  exact (nodup_order h).map t.announcement_injective

end Order

/-- An override is announced as what it is in the finished table: once for each override, with the
status that the table has for the classification, which is the one that the settings name. Nothing
else is announced. Another order of the overrides gives the same events in another order, and an
override that changes nothing is announced like any other. -/
theorem build_announces (e : ErrorSettings) (order : List (Classification × UInt16))
    (horder : order.Perm e.overrides.entries) (t : StatusTable)
    (ht : (build e.defaultStatus order).value = .ok t) :
    let events := (build e.defaultStatus order).events
    (∀ order' : List (Classification × UInt16), order'.Perm e.overrides.entries →
      (build e.defaultStatus order').events.Perm events) ∧
    (∀ c s, events.count (.overrideApplied c s) =
      if (e.overrides.code? c).isSome = true ∧ t.statusOf c = s then 1 else 0) ∧
    (∀ event ∈ events, ∃ c code, e.overrides.code? c = some code ∧
      (t.statusOf c).code = code.toNat ∧ event.message = "Status override applied" ∧
      event.fields =
        [("classification", .string c.key), ("status", .nat (t.statusOf c).code)]) ∧
    (∀ c, e.overrides.code? c = none → ∀ s, .overrideApplied c s ∉ events) ∧
    ∀ c code s, e.overrides.code? c = some code → standardEntry c = some s →
      s.code = code.toNat → .overrideApplied c s ∈ events := by
  intro events
  have hresolves : t.Resolves e := (build_spec horder ht).2
  have hmem : ∀ {c s}, .overrideApplied c s ∈ events ↔
      (e.overrides.code? c).isSome = true ∧ t.statusOf c = s := by
    intro c s
    rw [mem_events_build horder ht]
    constructor
    · rintro ⟨d, hd, heq⟩
      obtain ⟨rfl, rfl⟩ := Event.overrideApplied.inj heq
      exact ⟨hd, rfl⟩
    · rintro ⟨hc, rfl⟩
      exact ⟨c, hc, rfl⟩
  refine ⟨?_, ?_, ?_, ?_, ?_⟩
  · intro order' horder'
    have ht' := build_congr horder horder' ht
    show List.Perm _ (build e.defaultStatus order).events
    rw [events_build horder ht, events_build horder' ht']
    exact ((horder'.trans horder.symm).map Prod.fst).map t.announcement
  · intro c s
    rw [(nodup_events_build horder ht).count]
    exact if_congr hmem rfl rfl
  · intro event hevent
    obtain ⟨c, hc, rfl⟩ := (mem_events_build horder ht).mp hevent
    obtain ⟨code, hcode⟩ := Option.isSome_iff_exists.mp hc
    exact ⟨c, code, hcode, hresolves.overridden c code hcode, rfl, rfl⟩
  · intro c hc s hevent
    have hsome := (hmem.mp hevent).1
    rw [hc] at hsome
    cases hsome
  · intro c code s hcode _ hs
    refine hmem.mpr ⟨by rw [hcode]; rfl, Status.ext_code ?_⟩
    rw [hresolves.overridden c code hcode, hs]

/-- Two overrides the other way round, one of them the standard status. -/
theorem build_announces_standard :
    let e : ErrorSettings := ⟨503, .ofList [(.entityLocked, 423), (.concurrentModification, 409)]⟩
    let order : List (Classification × UInt16) :=
      [(.concurrentModification, 409), (.entityLocked, 423)]
    order.Perm e.overrides.entries ∧ standardEntry .entityLocked = some .locked ∧
      ∃ t, (build e.defaultStatus order).value = .ok t ∧
        .overrideApplied .entityLocked .locked ∈ (build e.defaultStatus order).events ∧
        e.table.events.Perm (build e.defaultStatus order).events := by
  intro e order
  have hperm : order.Perm e.overrides.entries := by decide
  have hall : ∀ x ∈ e.overrides.entries, IsErrorCode x.2.toNat := by decide
  obtain ⟨t, ht⟩ := build_ok hperm
    ⟨by decide, fun c code hc => hall (c, code) (Overrides.mem_entries.mpr hc)⟩
  obtain ⟨horders, _, _, _, hstandard⟩ := build_announces e order hperm t ht
  exact ⟨hperm, rfl, t, ht, hstandard .entityLocked 423 .locked (by decide) rfl (by decide),
    horders _ (.refl _)⟩

end StatusTable
end ErrorBoundary
