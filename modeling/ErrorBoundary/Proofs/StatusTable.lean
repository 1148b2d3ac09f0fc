import ErrorBoundary.Config.Settings
import ErrorBoundary.Proofs.Classification

/-!
# ErrorBoundary.Proofs.StatusTable

What the table of statuses is, whatever the order in which the overrides are applied.

* `IsErrorCode`           — the numbers that a setting may name as a status.
* `StatusTable.Resolves`  — how a table answers, told from the settings alone: the override, else
  the standard entry, else the default. It fixes the table (`Resolves.unique`).
* `StatusTable.build_order_free` — every order of the overrides builds this table, or none does.
-/

namespace ErrorBoundary

/-- The numbers of client errors and of server errors. -/
def IsErrorCode (n : Nat) : Prop := 400 ≤ n ∧ n < 600

instance (n : Nat) : Decidable (IsErrorCode n) := inferInstanceAs (Decidable (_ ∧ _))

namespace Status

theorem ext_code {s s' : Status} (h : s.code = s'.code) : s = s' := by
  obtain ⟨n, hn⟩ := s
  cases h
  rfl

theorem ofSetting_eq_ok {n : Nat} (h : IsErrorCode n) :
    ∃ s, ofSetting n = .ok s ∧ s.code = n := by
  have h3 : 100 ≤ n ∧ n < 1000 := ⟨by have := h.1; omega, by have := h.2; omega⟩
  have hs : IsError ⟨n, h3⟩ := h
  exact ⟨⟨n, h3⟩, by simp only [ofSetting, ofCode?, dif_pos h3, if_pos hs], rfl⟩

theorem code_of_ofSetting {n : Nat} {s : Status} (h : ofSetting n = .ok s) :
    s.code = n ∧ IsErrorCode n := by
  unfold ofSetting ofCode? at h
  split at h
  · cases h
  · rename_i s' hs
    split at hs
    · cases hs
      split at h
      · rename_i he
        cases h
        exact ⟨rfl, he⟩
      · cases h
    · cases hs

theorem not_isErrorCode_of_ofSetting {n : Nat} {e : StatusError} (h : ofSetting n = .error e) :
    ¬ IsErrorCode n := by
  intro hn
  obtain ⟨s, hs, _⟩ := ofSetting_eq_ok hn
  rw [hs] at h
  cases h

end Status

namespace Overrides

/-- The entries are what the overrides hold. -/
theorem mem_entries {o : Overrides} {c : Classification} {code : UInt16} :
    (c, code) ∈ o.entries ↔ o.code? c = some code := by
  simp only [entries, List.mem_filterMap, Option.map_eq_some_iff, Prod.mk.injEq]
  constructor
  · rintro ⟨d, _, n, hn, rfl, rfl⟩
    exact hn
  · intro h
    exact ⟨c, Classification.mem_all c, code, h, rfl, rfl⟩

theorem nodup_keys (o : Overrides) : (o.entries.map Prod.fst).Nodup := by
  have hkeys : ∀ cs : List Classification,
      (cs.filterMap fun c => (o.code? c).map fun code => (c, code)).map Prod.fst =
        cs.filter fun c => (o.code? c).isSome := by
    intro cs
    induction cs with
    | nil => rfl
    | cons c cs ih => cases h : o.code? c <;> simp [h, ih]
  rw [entries, hkeys]
  exact Classification.nodup_all.filter _

end Overrides

namespace StatusTable

/-! ## One override after the other -/

theorem override_cons_ok {t t' : StatusTable} {c : Classification} {code : UInt16}
    {rest : List (Classification × UInt16)}
    (h : (t.override ((c, code) :: rest)).value = .ok t') :
    ∃ s, s.code = code.toNat ∧ IsErrorCode code.toNat ∧
      ((t.insert c s).override rest).value = .ok t' := by
  simp only [override] at h
  split at h
  · cases h
  · rename_i s hs
    obtain ⟨hcode, herr⟩ := Status.code_of_ofSetting hs
    exact ⟨s, hcode, herr, h⟩

theorem override_cons_error {t : StatusTable} {c : Classification} {code : UInt16}
    {rest : List (Classification × UInt16)} {e : TableError}
    (h : (t.override ((c, code) :: rest)).value = .error e) :
    (∃ bad, Status.ofSetting code.toNat = .error bad ∧ e = .override c bad) ∨
      ∃ s, ((t.insert c s).override rest).value = .error e := by
  simp only [override] at h
  split at h
  · rename_i bad hbad
    cases h
    exact .inl ⟨bad, hbad, rfl⟩
  · rename_i s _
    exact .inr ⟨s, h⟩

/-- Overrides can be applied when all of them are error statuses. -/
theorem override_ok {order : List (Classification × UInt16)}
    (h : ∀ x ∈ order, IsErrorCode x.2.toNat) (t : StatusTable) :
    ∃ t', (t.override order).value = .ok t' := by
  induction order generalizing t with
  | nil => exact ⟨t, rfl⟩
  | cons x rest ih =>
    obtain ⟨s, hs, _⟩ := Status.ofSetting_eq_ok (h x List.mem_cons_self)
    obtain ⟨t', ht'⟩ := ih (fun y hy => h y (List.mem_cons_of_mem x hy)) (t.insert x.1 s)
    exact ⟨t', by simp only [override, hs, ht']⟩

/-- What applied overrides have done: each was an error status, the default stayed, an entry that
none of them named stayed, and an entry that one of them named is its status. -/
theorem override_spec {order : List (Classification × UInt16)} {t t' : StatusTable}
    (hkeys : (order.map Prod.fst).Nodup) (h : (t.override order).value = .ok t') :
    t'.default = t.default ∧
      (∀ c, c ∉ order.map Prod.fst → t'.entry c = t.entry c) ∧
      ∀ c code, (c, code) ∈ order →
        IsErrorCode code.toNat ∧ ∃ s, t'.entry c = some s ∧ s.code = code.toNat := by
  induction order generalizing t with
  | nil =>
    cases h
    exact ⟨rfl, fun _ _ => rfl, fun c code hc => absurd hc List.not_mem_nil⟩
  | cons x rest ih =>
    obtain ⟨d, n⟩ := x
    obtain ⟨s, hs, herr, hrest⟩ := override_cons_ok h
    rw [List.map_cons, List.nodup_cons] at hkeys
    obtain ⟨hd, hkeys⟩ := hkeys
    obtain ⟨hdefault, hother, hentry⟩ := ih hkeys hrest
    refine ⟨hdefault, ?_, ?_⟩
    · intro c hc
      rw [List.map_cons, List.mem_cons, not_or] at hc
      rw [hother c hc.2]
      exact if_neg hc.1
    · intro c code hc
      obtain heq | hc := List.mem_cons.mp hc
      · -- later overrides do not name this classification again
        cases heq
        refine ⟨herr, s, ?_, hs⟩
        rw [hother d hd]
        exact if_pos rfl
      · exact hentry c code hc

/-- Overrides that cannot be applied hold one that is no error status, and the error names it. -/
theorem override_error {order : List (Classification × UInt16)} {t : StatusTable} {e : TableError}
    (h : (t.override order).value = .error e) :
    ∃ c code bad, (c, code) ∈ order ∧ Status.ofSetting code.toNat = .error bad ∧
      e = .override c bad := by
  induction order generalizing t with
  | nil => cases h
  | cons x rest ih =>
    obtain ⟨d, n⟩ := x
    obtain ⟨bad, hbad, rfl⟩ | ⟨s, hrest⟩ := override_cons_error h
    · exact ⟨d, n, bad, List.mem_cons_self, hbad, rfl⟩
    · obtain ⟨c, code, bad, hc, hbad, he⟩ := ih hrest
      exact ⟨c, code, bad, List.mem_cons_of_mem _ hc, hbad, he⟩

/-! ## The table of the settings -/

/-- How a table answers that the settings `e` ask for. -/
structure Resolves (t : StatusTable) (e : ErrorSettings) : Prop where
  overridden : ∀ c code, e.overrides.code? c = some code → (t.statusOf c).code = code.toNat
  standard : ∀ c s, e.overrides.code? c = none → standardEntry c = some s → t.statusOf c = s
  unmapped : ∀ c, e.overrides.code? c = none → standardEntry c = none → t.statusOf c = t.default
  default_code : t.default.code = e.defaultStatus.toNat
  unclassified : t.statusOf? none = t.default
  classified : ∀ c, t.statusOf? (some c) = t.statusOf c
  contains_iff : ∀ c, t.contains c = true ↔
    (standardEntry c).isSome = true ∨ (e.overrides.code? c).isSome = true

/-- The settings say the same of a classification, or of having none: an override, or where nothing
else names a status, the default. -/
def AgreeOn (e e' : ErrorSettings) : Option Classification → Prop
  | none => e.defaultStatus = e'.defaultStatus
  | some c => e.overrides.code? c = e'.overrides.code? c ∧
      (e.overrides.code? c = none → standardEntry c = none → e.defaultStatus = e'.defaultStatus)

theorem AgreeOn.refl (e : ErrorSettings) (c : Option Classification) : AgreeOn e e c := by
  cases c with
  | none => exact rfl
  | some c => exact ⟨rfl, fun _ _ => rfl⟩

/-- A classification is answered by what the settings say of it. -/
theorem Resolves.statusOf?_congr {t t' : StatusTable} {e e' : ErrorSettings} (h : t.Resolves e)
    (h' : t'.Resolves e') {c : Option Classification} (hagree : AgreeOn e e' c) :
    t.statusOf? c = t'.statusOf? c := by
  have hdefault (heq : e.defaultStatus = e'.defaultStatus) : t.default = t'.default := by
    apply Status.ext_code
    rw [h.default_code, h'.default_code, heq]
  cases c with
  | none =>
    rw [h.unclassified, h'.unclassified]
    exact hdefault hagree
  | some c =>
    obtain ⟨hcode, hsame⟩ := hagree
    rw [h.classified, h'.classified]
    cases ho : e.overrides.code? c with
    | some code =>
      have ho' : e'.overrides.code? c = some code := hcode ▸ ho
      exact Status.ext_code ((h.overridden c code ho).trans (h'.overridden c code ho').symm)
    | none =>
      have ho' : e'.overrides.code? c = none := hcode ▸ ho
      cases hs : standardEntry c with
      | some s => rw [h.standard c s ho hs, h'.standard c s ho' hs]
      | none => rw [h.unmapped c ho hs, h'.unmapped c ho' hs, hdefault (hsame ho hs)]

/-- The settings fix the table. -/
theorem Resolves.unique {t t' : StatusTable} {e : ErrorSettings} (h : t.Resolves e)
    (h' : t'.Resolves e) : t = t' := by
  have hdefault : t.default = t'.default :=
    Status.ext_code (h.default_code.trans h'.default_code.symm)
  have hentry : t.entry = t'.entry := by
    funext c
    have hc : t.contains c = true ↔ t'.contains c = true :=
      (h.contains_iff c).trans (h'.contains_iff c).symm
    have hs := h.statusOf?_congr h' (AgreeOn.refl e (some c))
    simp only [contains, statusOf?, statusOf] at hc hs
    cases ht : t.entry c <;> cases ht' : t'.entry c <;> simp_all
  obtain ⟨entry, default⟩ := t
  obtain ⟨entry', default'⟩ := t'
  cases hdefault
  cases hentry
  rfl

theorem isError_standardEntry {c : Classification} {s : Status} (h : standardEntry c = some s) :
    s.IsError := by
  cases c <;> cases h <;> decide

/-- The settings name error statuses only. -/
def Valid (e : ErrorSettings) : Prop :=
  IsErrorCode e.defaultStatus.toNat ∧
    ∀ c code, e.overrides.code? c = some code → IsErrorCode code.toNat

section Order

variable {e : ErrorSettings} {order : List (Classification × UInt16)}

theorem mem_order (h : order.Perm e.overrides.entries) {c : Classification} {code : UInt16} :
    (c, code) ∈ order ↔ e.overrides.code? c = some code :=
  h.mem_iff.trans Overrides.mem_entries

theorem nodup_order (h : order.Perm e.overrides.entries) : (order.map Prod.fst).Nodup :=
  (h.map Prod.fst).nodup_iff.mpr e.overrides.nodup_keys

theorem build_ok (h : order.Perm e.overrides.entries) (hv : Valid e) :
    ∃ t, (build e.defaultStatus order).value = .ok t := by
  obtain ⟨s, hs, _⟩ := Status.ofSetting_eq_ok hv.1
  have hall : ∀ x ∈ order, IsErrorCode x.2.toNat := by
    rintro ⟨c, code⟩ hx
    exact hv.2 c code ((mem_order h).mp hx)
  obtain ⟨t, ht⟩ := override_ok hall { StatusTable.standard with default := s }
  exact ⟨t, by simp only [build, hs, ht]⟩

theorem build_spec (h : order.Perm e.overrides.entries) {t : StatusTable}
    (ht : (build e.defaultStatus order).value = .ok t) : Valid e ∧ t.Resolves e := by
  unfold build at ht
  split at ht
  · cases ht
  rename_i s hs
  obtain ⟨hcode, hdefault⟩ := Status.code_of_ofSetting hs
  obtain ⟨hd, hother, hentry⟩ := override_spec (nodup_order h) ht
  have hfree : ∀ c, e.overrides.code? c = none → t.entry c = standardEntry c := by
    intro c hc
    refine hother c fun hmem => ?_
    obtain ⟨⟨_, code⟩, hx, rfl⟩ := List.mem_map.mp hmem
    rw [mem_order h, hc] at hx
    cases hx
  have hnamed : ∀ c code, e.overrides.code? c = some code →
      IsErrorCode code.toNat ∧ ∃ s, t.entry c = some s ∧ s.code = code.toNat :=
    fun c code hc => hentry c code ((mem_order h).mpr hc)
  refine ⟨⟨hdefault, fun c code hc => (hnamed c code hc).1⟩, ?_⟩
  constructor
  case overridden =>
    intro c code hc
    obtain ⟨_, s, hs, hcode⟩ := hnamed c code hc
    rw [statusOf, hs]
    exact hcode
  case standard =>
    intro c s hc hs
    rw [statusOf, hfree c hc, hs]
    rfl
  case unmapped =>
    intro c hc hs
    rw [statusOf, hfree c hc, hs]
    rfl
  case default_code => rw [hd]; exact hcode
  case unclassified => rfl
  case classified => intro c; rfl
  case contains_iff =>
    intro c
    cases hc : e.overrides.code? c with
    | none => simp [contains, hfree c hc]
    | some code =>
      obtain ⟨_, s, hs, _⟩ := hnamed c code hc
      simp [contains, hs]

theorem build_error (h : order.Perm e.overrides.entries) {err : TableError}
    (herr : (build e.defaultStatus order).value = .error err) :
    (∃ bad, Status.ofSetting e.defaultStatus.toNat = .error bad ∧ err = .defaultStatus bad) ∨
      IsErrorCode e.defaultStatus.toNat ∧ ∃ c code bad, e.overrides.code? c = some code ∧
        Status.ofSetting code.toNat = .error bad ∧ err = .override c bad := by
  unfold build at herr
  split at herr
  · rename_i bad hbad
    cases herr
    exact .inl ⟨bad, hbad, rfl⟩
  · rename_i s hs
    obtain ⟨c, code, bad, hc, hbad, he⟩ := override_error herr
    exact .inr ⟨(Status.code_of_ofSetting hs).2, c, code, bad, (mem_order h).mp hc, hbad, he⟩

theorem build_ok_iff (h : order.Perm e.overrides.entries) :
    (∃ t, (build e.defaultStatus order).value = .ok t) ↔ Valid e :=
  ⟨fun ⟨_, ht⟩ => (build_spec h ht).1, build_ok h⟩

/-- Two orders build the same table. -/
theorem build_congr {order' : List (Classification × UInt16)}
    (h : order.Perm e.overrides.entries) (h' : order'.Perm e.overrides.entries) {t : StatusTable}
    (ht : (build e.defaultStatus order).value = .ok t) :
    (build e.defaultStatus order').value = .ok t := by
  obtain ⟨hv, hr⟩ := build_spec h ht
  obtain ⟨t', ht'⟩ := build_ok h' hv
  rw [ht', hr.unique (build_spec h' ht').2]

/-- A table that the settings build answers with error statuses only. -/
theorem isError_statusOf? {t : StatusTable} (ht : e.table.value = .ok t)
    (c : Option Classification) : (t.statusOf? c).IsError := by
  obtain ⟨⟨hvalid, hnamed⟩, hr⟩ := build_spec (.refl _) ht
  have hdefault : t.default.IsError := by
    rw [← hr.default_code] at hvalid
    exact hvalid
  cases c with
  | none => exact hdefault
  | some c =>
    rw [hr.classified]
    cases ho : e.overrides.code? c with
    | some code =>
      have hcode := hnamed c code ho
      rw [← hr.overridden c code ho] at hcode
      exact hcode
    | none =>
      cases hs : standardEntry c with
      | some s =>
        rw [hr.standard c s ho hs]
        exact isError_standardEntry hs
      | none =>
        rw [hr.unmapped c ho hs]
        exact hdefault

end Order

/-- The order in which the overrides are applied does not show in the table. Either every order
builds it, which is when the settings name error statuses only, and it answers by override,
standard entry and default; or none does, and the error names the default status if that is bad,
and an override that is bad if not. -/
theorem build_order_free (e : ErrorSettings) (order : List (Classification × UInt16))
    (horder : order.Perm e.overrides.entries) :
    (∀ t, (build e.defaultStatus order).value = .ok t ↔ e.table.value = .ok t) ∧
    ((∃ t, (build e.defaultStatus order).value = .ok t) ↔ Valid e) ∧
    (∀ t, (build e.defaultStatus order).value = .ok t → t.Resolves e) ∧
    (∀ err, (build e.defaultStatus order).value = .error err →
      (¬ IsErrorCode e.defaultStatus.toNat → ∃ bad,
        Status.ofSetting e.defaultStatus.toNat = .error bad ∧ err = .defaultStatus bad) ∧
      (IsErrorCode e.defaultStatus.toNat → ∃ c code bad, e.overrides.code? c = some code ∧
        ¬ IsErrorCode code.toNat ∧ Status.ofSetting code.toNat = .error bad ∧
        err = .override c bad)) := by
  refine ⟨fun t => ⟨build_congr horder (.refl _), build_congr (.refl _) horder⟩,
    build_ok_iff horder, fun t ht => (build_spec horder ht).2, ?_⟩
  intro err herr
  obtain ⟨bad, hbad, rfl⟩ | ⟨hdefault, c, code, bad, hc, hbad, rfl⟩ := build_error horder herr
  · refine ⟨fun _ => ⟨bad, hbad, rfl⟩, fun h => ?_⟩
    exact absurd h (Status.not_isErrorCode_of_ofSetting hbad)
  · refine ⟨fun h => absurd hdefault h, fun _ => ?_⟩
    exact ⟨c, code, bad, hc, Status.not_isErrorCode_of_ofSetting hbad, hbad, rfl⟩

/-- Two overrides, applied the other way round than the classifications stand. -/
theorem build_order_free_reversed :
    let e : ErrorSettings := ⟨503, .ofList [(.entityLocked, 599), (.concurrentModification, 409)]⟩
    let order : List (Classification × UInt16) :=
      [(.concurrentModification, 409), (.entityLocked, 599)]
    order.Perm e.overrides.entries ∧ order ≠ e.overrides.entries ∧
      ∃ t, (build e.defaultStatus order).value = .ok t ∧ e.table.value = .ok t ∧ t.Resolves e := by
  intro e order
  have hperm : order.Perm e.overrides.entries := by decide
  obtain ⟨htable, hvalid, hresolves, _⟩ := build_order_free e order hperm
  have hall : ∀ x ∈ e.overrides.entries, IsErrorCode x.2.toNat := by decide
  obtain ⟨t, ht⟩ := hvalid.mpr
    ⟨by decide, fun c code hc => hall (c, code) (Overrides.mem_entries.mpr hc)⟩
  exact ⟨hperm, by decide, t, ht, (htable t).mp ht, hresolves t ht⟩

end StatusTable
end ErrorBoundary
