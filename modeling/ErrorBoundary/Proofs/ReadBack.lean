import ErrorBoundary.Proofs.Classification
import ErrorBoundary.Proofs.Json.Reorder
import ErrorBoundary.Proofs.Settings

/-!
# ErrorBoundary.Proofs.ReadBack

Settings written and read. `Settings.reads_back`: settings that are encoded decode to themselves,
as a tree and as text, in whatever order the members of each object stand; so does each section on
its own, and each classification where it is a value and where it is a key.

* `Decoder.ReadsBack`       — decoding undoes encoding, in any order of the members.
* `Json.Reorders.writes`    — what an object writes under a key, it writes in any order.
* `ServerSettings.whole` and likewise — the part of the settings that is all of them.
-/

namespace ErrorBoundary

/-- Encoded values decode to themselves: with the members of each object by increasing key, as they
are written to a tree; in the order in which they are written to a text; and in any other order. -/
structure Decoder.ReadsBack {α : Type} (decode : Decoder α) (toJson : α → Json) : Prop where
  tree : ∀ a, Decode.tree decode (toJson a).sorted = .ok a
  text : ∀ a, Decode.document decode (.ofText (toJson a).compact) = .ok a
  anyOrder : ∀ a v, v.Reorders (toJson a) →
    Decode.tree decode v = .ok a ∧ Decode.document decode (.ofText v.compact) = .ok a

namespace Decoder

variable {α β : Type} {decode : Decoder α} {toJson : α → Json}

theorem readsBack_of_reorders (hunique : ∀ a, (toJson a).IsUnique)
    (hexact : ∀ a, (toJson a).IsExact)
    (h : ∀ form a v, v.Reorders (toJson a) → decode form (.ofJson v) = .ok a) :
    decode.ReadsBack toJson := by
  have hany : ∀ a v, v.Reorders (toJson a) →
      Decode.tree decode v = .ok a ∧ Decode.document decode (.ofText v.compact) = .ok a := by
    intro a v hv
    refine ⟨h .tree a v hv, ?_⟩
    rw [Document.ofText_compact (hv.isExact (hexact a)), Decode.document, Document.ofJson,
      h .text a v hv]
    rfl
  exact ⟨fun a => (hany a _ (.sorted (hunique a))).1, fun a => (hany a _ (.refl _)).2, hany⟩

theorem Reads.readsBack {W : Json → β → Prop} {make : β → α} (hread : decode.Reads W make)
    (hunique : ∀ a, (toJson a).IsUnique) (hexact : ∀ a, (toJson a).IsExact) (whole : α → β)
    (hmake : ∀ a, make (whole a) = a) (hwrites : ∀ a v, v.Reorders (toJson a) → W v (whole a)) :
    decode.ReadsBack toJson := by
  refine readsBack_of_reorders hunique hexact fun form a v hv => ?_
  exact (hread form v a (hv.isUnique (hunique a))).mpr ⟨whole a, hwrites a v hv, hmake a⟩

end Decoder

/-! ## Reordered values -/

namespace Json

theorem isExact_word (n : UInt16) : (nat n.toNat).IsExact := by
  have hlt : n.toNat < twoTo 64 := n.toNat_lt.trans (by decide)
  constructor
  · omega
  · exact Int.ofNat_lt.mpr hlt

theorem Reorders.writesString {v : Json} {s : String} (h : v.Reorders (.string s)) :
    v.WritesString s := by
  cases h
  rfl

theorem Reorders.writesWord {v : Json} {n : UInt16} (h : v.Reorders (.nat n.toNat)) :
    v.WritesWord n := by
  cases h
  rfl

theorem Reorders.isRecord {v : Json} {members : List (String × Json)}
    (h : v.Reorders (.object members)) (names : List String) : v.IsRecord names := by
  cases h
  trivial

theorem Reorders.writes {α : Type} {v w : Json} {members : List (String × Json)}
    {W : Json → α → Prop} {a : α} {name : String} (h : v.Reorders (.object members))
    (hkeys : (members.map Prod.fst).Nodup) (hmem : (name, w) ∈ members)
    (hw : ∀ w', w'.Reorders w → W w' a) (names : List String) :
    Option.Rel W (v.part? names name) (some a) := by
  obtain ⟨members', rfl, hgiven⟩ := h.given hkeys
  have hrel := hgiven name
  rw [(given_eq_some_iff hkeys).mpr hmem] at hrel
  show Option.Rel W (Json.given members' name) (some a)
  cases hg : Json.given members' name with
  | none =>
    rw [hg] at hrel
    cases hrel
  | some w' =>
    rw [hg] at hrel
    cases hrel with
    | some hrel => exact .some (hw w' hrel)

/-- Numbers have no members of their own to reorder. -/
theorem ReordersUnder.eq_of_numbers {inner members : List (String × Json)}
    (h : ReordersUnder inner members) (hnum : ∀ m ∈ members, ∃ n, m.2 = .number n) :
    inner = members := by
  induction members generalizing inner with
  | nil =>
    cases h
    rfl
  | cons m rest ih =>
    obtain ⟨n, hn⟩ := hnum m List.mem_cons_self
    cases h with
    | cons hv hrest =>
      cases hn
      cases hv
      rw [ih hrest fun m hm => hnum m (List.mem_cons_of_mem _ hm)]

end Json

/-! ## Classifications and overrides -/

theorem Classification.readsBack : decode.ReadsBack toJson := by
  refine Decoder.readsBack_of_reorders (fun _ => trivial) (fun _ => trivial) fun form c v hv => ?_
  cases hv
  exact named_eq_ok_iff.mpr rfl

namespace Overrides

theorem isUnique_toJson (o : Overrides) : o.toJson.IsUnique := by
  refine ⟨o.nodup_names, Json.holdUnique_iff.mpr fun m hm => ?_⟩
  obtain ⟨c, code, _, hcode⟩ := isEntry_of_mem_members hm
  rw [hcode]
  trivial

theorem isExact_toJson (o : Overrides) : o.toJson.IsExact := by
  refine Json.hasExact_iff.mpr fun m hm => ?_
  obtain ⟨c, code, _, hcode⟩ := isEntry_of_mem_members hm
  rw [hcode]
  exact Json.isExact_word code

theorem writes_of_reorders {o : Overrides} {v : Json} (h : v.Reorders o.toJson) : Writes v o := by
  cases h with
  | @object ms inner _ hperm hinner =>
    have hnum : ∀ m ∈ o.members, ∃ n, m.2 = .number n := by
      intro m hm
      obtain ⟨c, code, _, hcode⟩ := isEntry_of_mem_members hm
      exact ⟨_, hcode⟩
    rw [hinner.eq_of_numbers hnum] at hperm
    exact ⟨ms, rfl, hperm⟩

theorem readsBack : decode.ReadsBack toJson :=
  reads.readsBack isUnique_toJson isExact_toJson id (fun _ => rfl) fun _ _ => writes_of_reorders

/-- An override stands under the name of its classification. -/
theorem toJson_insert_empty (c : Classification) (code : UInt16) :
    (empty.insert c code).toJson = .object [(c.name, .nat code.toNat)] := by
  cases c <;> rfl

end Overrides

/-! ## Sections -/

namespace ServerSettings

def whole (s : ServerSettings) : Partial := ⟨some s.host, some s.port⟩

theorem isUnique_toJson (s : ServerSettings) : s.toJson.IsUnique := by
  simp [toJson, Json.IsUnique, Json.HoldUnique, Json.nat]

theorem isExact_toJson (s : ServerSettings) : s.toJson.IsExact :=
  ⟨trivial, Json.isExact_word s.port, trivial⟩

theorem writes_of_reorders {s : ServerSettings} {v : Json} (h : v.Reorders s.toJson) :
    Writes v s.whole where
  isRecord := h.isRecord names
  host := h.writes (isUnique_toJson s).1 (by simp) (fun _ => Json.Reorders.writesString) names
  port := h.writes (isUnique_toJson s).1 (by simp) (fun _ => Json.Reorders.writesWord) names

theorem readsBack : decode.ReadsBack toJson :=
  reads.readsBack isUnique_toJson isExact_toJson whole (fun _ => rfl) fun _ _ => writes_of_reorders

end ServerSettings

namespace LoggingSettings

def whole (s : LoggingSettings) : Partial := ⟨some s.level, some s.format⟩

theorem isUnique_toJson (s : LoggingSettings) : s.toJson.IsUnique := by
  simp [toJson, Json.IsUnique, Json.HoldUnique]

theorem isExact_toJson (s : LoggingSettings) : s.toJson.IsExact := ⟨trivial, trivial, trivial⟩

theorem writes_of_reorders {s : LoggingSettings} {v : Json} (h : v.Reorders s.toJson) :
    Writes v s.whole where
  isRecord := h.isRecord names
  level := h.writes (isUnique_toJson s).1 (by simp) (fun _ => Json.Reorders.writesString) names
  format := h.writes (isUnique_toJson s).1 (by simp) (fun _ => Json.Reorders.writesString) names

theorem readsBack : decode.ReadsBack toJson :=
  reads.readsBack isUnique_toJson isExact_toJson whole (fun _ => rfl) fun _ _ => writes_of_reorders

end LoggingSettings

namespace ErrorSettings

def whole (s : ErrorSettings) : Partial := ⟨some s.defaultStatus, some s.overrides⟩

theorem isUnique_toJson (s : ErrorSettings) : s.toJson.IsUnique := by
  simp [toJson, Json.IsUnique, Json.HoldUnique, Json.nat, s.overrides.isUnique_toJson]

theorem isExact_toJson (s : ErrorSettings) : s.toJson.IsExact :=
  ⟨Json.isExact_word s.defaultStatus, s.overrides.isExact_toJson, trivial⟩

theorem writes_of_reorders {s : ErrorSettings} {v : Json} (h : v.Reorders s.toJson) :
    Writes v s.whole where
  isRecord := h.isRecord names
  defaultStatus :=
    h.writes (isUnique_toJson s).1 (by simp) (fun _ => Json.Reorders.writesWord) names
  overrides :=
    h.writes (isUnique_toJson s).1 (by simp) (fun _ => Overrides.writes_of_reorders) names

theorem readsBack : decode.ReadsBack toJson :=
  reads.readsBack isUnique_toJson isExact_toJson whole (fun _ => rfl) fun _ _ => writes_of_reorders

end ErrorSettings

/-! ## All settings -/

namespace Settings

def whole (s : Settings) : Partial :=
  ⟨some s.server.whole, some s.logging.whole, some s.errors.whole⟩

theorem isUnique_toJson (s : Settings) : s.toJson.IsUnique := by
  simp [toJson, Json.IsUnique, Json.HoldUnique, s.server.isUnique_toJson,
    s.logging.isUnique_toJson, s.errors.isUnique_toJson]

theorem isExact_toJson (s : Settings) : s.toJson.IsExact :=
  ⟨s.server.isExact_toJson, s.logging.isExact_toJson, s.errors.isExact_toJson, trivial⟩

theorem writes_of_reorders {s : Settings} {v : Json} (h : v.Reorders s.toJson) :
    Writes v s.whole where
  isRecord := h.isRecord names
  server :=
    h.writes (isUnique_toJson s).1 (by simp) (fun _ => ServerSettings.writes_of_reorders) names
  logging :=
    h.writes (isUnique_toJson s).1 (by simp) (fun _ => LoggingSettings.writes_of_reorders) names
  errors :=
    h.writes (isUnique_toJson s).1 (by simp) (fun _ => ErrorSettings.writes_of_reorders) names

/-- Settings, their sections, overrides and classifications read back as they were written; and a
classification is written by the same name where it is the key of an override. -/
theorem reads_back :
    decode.ReadsBack toJson ∧ ServerSettings.decode.ReadsBack ServerSettings.toJson ∧
    LoggingSettings.decode.ReadsBack LoggingSettings.toJson ∧
    ErrorSettings.decode.ReadsBack ErrorSettings.toJson ∧
    Overrides.decode.ReadsBack Overrides.toJson ∧
    Classification.decode.ReadsBack Classification.toJson ∧
    ∀ (c : Classification) (code : UInt16), c.toJson = .string c.name ∧
      (Overrides.empty.insert c code).toJson = .object [(c.name, .nat code.toNat)] := by
  have hsettings : decode.ReadsBack toJson :=
    reads.readsBack isUnique_toJson isExact_toJson whole (fun _ => rfl)
      fun _ _ => writes_of_reorders
  exact ⟨hsettings, ServerSettings.readsBack, LoggingSettings.readsBack, ErrorSettings.readsBack,
    Overrides.readsBack, Classification.readsBack,
    fun c code => ⟨rfl, Overrides.toJson_insert_empty c code⟩⟩

end Settings
end ErrorBoundary
