import ErrorBoundary.Proofs.Record
import ErrorBoundary.Proofs.StatusTable

/-!
# ErrorBoundary.Proofs.ErrorSettings

Which JSON values are settings for errors from which a table of statuses can be built.
`ErrorSettings.decodes_and_builds_iff`: decoding a value and building the table, two stages with
rules of their own, accept together what one grammar says. Any other value is refused, so no number
is wrapped, nothing else is taken for a number, and no name is passed over.

* `Json.IsErrorStatus`, `Json.IsOverrides`, `Json.IsErrorSettings` — the grammar.
* `Overrides.decode_spec`           — overrides are the members of their object.
* `ErrorSettings.decode_object_iff` — each part is what is given for it, or its default.
-/

namespace ErrorBoundary

/-! ## The grammar -/

namespace Json

def IsErrorStatus : Json → Prop
  | .number (.whole n) => 400 ≤ n ∧ n ≤ 599
  | _ => False

/-- An object whose keys are names of classifications and whose values are error statuses. -/
def IsOverrides : Json → Prop
  | .object members => ∀ m ∈ members,
      m.1 ∈ Classification.all.map Classification.name ∧ m.2.IsErrorStatus
  | _ => False

/-- An object, in which any other key may stand too, or an array of at most two items. -/
def IsErrorSettings : Json → Prop
  | .object members =>
    (∀ v, ("default_status", v) ∈ members → v.IsErrorStatus) ∧
      ∀ v, ("overrides", v) ∈ members → v.IsOverrides
  | .array [] => True
  | .array [v] => v.IsErrorStatus
  | .array [v, w] => v.IsErrorStatus ∧ w.IsOverrides
  | _ => False

theorem nat_inj {a b : Nat} : nat a = nat b ↔ a = b := by
  simp only [nat, number.injEq, Number.whole.injEq, Int.natCast_inj]

theorem isErrorStatus_iff {v : Json} :
    v.IsErrorStatus ↔ ∃ code : UInt16, v = .nat code.toNat ∧ IsErrorCode code.toNat := by
  constructor
  · intro h
    cases v with
    | number n =>
      cases n with
      | whole n =>
        obtain ⟨hlow, hhigh⟩ := h
        -- error statuses fit sixteen bits, so nothing is wrapped
        have hcode : (UInt16.ofNat n.toNat).toNat = n.toNat :=
          UInt16.toNat_ofNat_of_lt (by show n.toNat < 65536; omega)
        refine ⟨UInt16.ofNat n.toNat, ?_, ?_⟩
        · rw [hcode, nat, Int.toNat_of_nonneg (by omega)]
        · rw [hcode]
          exact ⟨by omega, by omega⟩
      | real x => exact absurd h id
    | _ => exact absurd h id
  · rintro ⟨code, rfl, hlow, hhigh⟩
    exact ⟨by omega, by omega⟩

end Json

/-! ## Numbers -/

theorem Decode.word_eq_ok_iff {form : Form} {v : Json} {code : UInt16} :
    Decode.word form (.ofJson v) = .ok code ↔ v = .nat code.toNat := by
  constructor
  · intro h
    cases v with
    | number n =>
      cases n with
      | whole n =>
        simp only [Draft.ofJson, word] at h
        split at h
        · rename_i hn
          cases h
          have hlt : n.toNat < UInt16.size := by show n.toNat < 65536; omega
          rw [Json.nat, UInt16.toNat_ofNat_of_lt' hlt, Int.toNat_of_nonneg hn.1]
        · cases h
      | real x => cases h
    | _ => cases h
  · rintro rfl
    have hcode := code.toNat_lt
    have hn : (0 : Int) ≤ code.toNat ∧ (code.toNat : Int) < 65536 := ⟨by omega, by omega⟩
    simp only [Json.nat, Draft.ofJson, word, if_pos hn, Int.toNat_natCast, UInt16.ofNat_toNat]

/-! ## Overrides -/

namespace Overrides

theorem ext_code {o o' : Overrides}
    (h : ∀ c code, o.code? c = some code ↔ o'.code? c = some code) : o = o' := by
  obtain ⟨f⟩ := o
  obtain ⟨f'⟩ := o'
  congr
  funext c
  exact Option.ext (h c)

/-- A member that can be an override: a name and a word under it. -/
def IsEntry (m : String × Json) : Prop :=
  ∃ (c : Classification) (code : UInt16), c.name = m.1 ∧ m.2 = .nat code.toNat

theorem decodeMembers_cons_ok {form : Form} {o o' : Overrides} {key : String} {v : Json}
    {rest : List (String × Json)}
    (h : decodeMembers form o (Draft.ofMembers ((key, v) :: rest)) = .ok o') :
    ∃ (c : Classification) (code : UInt16), c.name = key ∧ v = .nat code.toNat ∧
      decodeMembers form (o.insert c code) (Draft.ofMembers rest) = .ok o' := by
  simp only [Draft.ofMembers, decodeMembers] at h
  split at h
  · cases h
  · rename_i c hc
    split at h
    · cases h
    · rename_i code hcode
      exact ⟨c, code, Classification.named_eq_ok_iff.mp hc, Decode.word_eq_ok_iff.mp hcode, h⟩

theorem decodeMembers_ok {form : Form} {members : List (String × Json)}
    (h : ∀ m ∈ members, IsEntry m) (o : Overrides) :
    ∃ o', decodeMembers form o (Draft.ofMembers members) = .ok o' := by
  induction members generalizing o with
  | nil => exact ⟨o, rfl⟩
  | cons m rest ih =>
    obtain ⟨key, v⟩ := m
    obtain ⟨c, code, hc, hv⟩ := h (key, v) List.mem_cons_self
    obtain ⟨o', ho'⟩ := ih (fun m hm => h m (List.mem_cons_of_mem _ hm)) (o.insert c code)
    refine ⟨o', ?_⟩
    simp only [Draft.ofMembers, decodeMembers, Classification.named_eq_ok_iff.mpr hc,
      Decode.word_eq_ok_iff.mpr hv, ho']

/-- Each member is an override, and the overrides are the members and, under other names, what was
there before. -/
theorem decodeMembers_spec {form : Form} {members : List (String × Json)} {o o' : Overrides}
    (hkeys : (members.map Prod.fst).Nodup)
    (h : decodeMembers form o (Draft.ofMembers members) = .ok o') :
    (∀ m ∈ members, IsEntry m) ∧ ∀ c code, o'.code? c = some code ↔
      (c.name, Json.nat code.toNat) ∈ members ∨
        c.name ∉ members.map Prod.fst ∧ o.code? c = some code := by
  induction members generalizing o with
  | nil =>
    cases h
    exact ⟨fun m hm => absurd hm List.not_mem_nil, fun c code => by simp⟩
  | cons m rest ih =>
    obtain ⟨key, v⟩ := m
    obtain ⟨d, n, rfl, rfl, hrest⟩ := decodeMembers_cons_ok h
    rw [List.map_cons, List.nodup_cons] at hkeys
    obtain ⟨hd, hkeys⟩ := hkeys
    obtain ⟨hentries, hcode⟩ := ih hkeys hrest
    refine ⟨?_, ?_⟩
    · intro m hm
      rcases List.mem_cons.mp hm with rfl | hm
      · exact ⟨d, n, rfl, rfl⟩
      · exact hentries m hm
    · intro c code
      rw [hcode]
      by_cases hc : c = d
      · -- the member in front is the only one under this name
        subst hc
        have hnot : (c.name, Json.nat code.toNat) ∉ rest := fun hm =>
          hd (List.mem_map.mpr ⟨_, hm, rfl⟩)
        simp [hnot, hd, insert, Json.nat_inj, UInt16.toNat_inj, eq_comm]
      · have hname : c.name ≠ d.name := fun h => hc (Classification.name_injective h)
        simp [insert, hc, hname]

theorem decode_spec {form : Form} {v : Json} {o : Overrides} (hv : v.IsUnique)
    (h : decode form (.ofJson v) = .ok o) :
    ∃ members, v = .object members ∧ (∀ m ∈ members, IsEntry m) ∧
      ∀ c code, o.code? c = some code ↔ (c.name, Json.nat code.toNat) ∈ members := by
  cases v with
  | object members =>
    simp only [Draft.ofJson, decode] at h
    split at h
    · cases h
    · rename_i o' ho'
      cases h
      obtain ⟨hentries, hcode⟩ := decodeMembers_spec hv.1 ho'
      exact ⟨members, rfl, hentries, fun c code => by rw [hcode]; simp [empty]⟩
  | _ => cases h

theorem decode_ok {form : Form} {members : List (String × Json)} (h : ∀ m ∈ members, IsEntry m) :
    ∃ o, decode form (.ofJson (.object members)) = .ok o := by
  obtain ⟨o, ho⟩ : ∃ o, decodeMembers form empty (Draft.ofMembers members) = .ok o :=
    decodeMembers_ok h empty
  exact ⟨o, by simp only [Draft.ofJson, decode, ho, Decode.finish, Draft.finish]⟩

theorem accepted_iff {form : Form} {v : Json} (hv : v.IsUnique) :
    (∃ o, decode form (.ofJson v) = .ok o ∧
      ∀ c code, o.code? c = some code → IsErrorCode code.toNat) ↔ v.IsOverrides := by
  constructor
  · rintro ⟨o, ho, hcodes⟩
    obtain ⟨members, rfl, hentries, hcode⟩ := decode_spec hv ho
    intro m hm
    obtain ⟨c, code, hc, hcode'⟩ := hentries m hm
    have hmem : (c.name, Json.nat code.toNat) ∈ members := by rwa [hc, ← hcode']
    refine ⟨Classification.mem_names.mpr ⟨c, hc⟩, ?_⟩
    exact Json.isErrorStatus_iff.mpr ⟨code, hcode', hcodes c code ((hcode c code).mpr hmem)⟩
  · intro h
    cases v with
    | object members =>
      have hentries : ∀ m ∈ members, IsEntry m := by
        intro m hm
        obtain ⟨c, hc⟩ := Classification.mem_names.mp (h m hm).1
        obtain ⟨code, hcode, _⟩ := Json.isErrorStatus_iff.mp (h m hm).2
        exact ⟨c, code, hc, hcode⟩
      obtain ⟨o, ho⟩ : ∃ o, decode form (.ofJson (.object members)) = .ok o := decode_ok hentries
      obtain ⟨_, heq, _, hcode⟩ := decode_spec hv ho
      cases heq
      refine ⟨o, ho, ?_⟩
      intro c code hc
      obtain ⟨code', heq, herr⟩ :=
        Json.isErrorStatus_iff.mp (h _ ((hcode c code).mp hc)).2
      rwa [Json.nat_inj.mp heq]
    | _ => exact absurd h id

end Overrides

/-! ## The record -/

namespace ErrorSettings

theorem sets_defaultStatusField :
    defaultStatusField.Sets Decode.word fun code s => { s with defaultStatus := code } := rfl

theorem sets_overridesField :
    overridesField.Sets Overrides.decode fun o s => { s with overrides := o } := rfl

theorem isLoose_record : record.IsLoose := by
  refine Record.isLoose_of_pairwise (by decide)
    (by simp [record, defaultStatusField, overridesField]) rfl ?_
  exact List.pairwise_pair.mpr (sets_defaultStatusField.apart sets_overridesField fun _ _ _ => rfl)

theorem decode_object_iff {form : Form} {members : List (String × Json)}
    (hkeys : (members.map Prod.fst).Nodup) {e : ErrorSettings} :
    decode form (.ofJson (.object members)) = .ok e ↔
      Record.Fills form (Json.given members) "default_status" Decode.word 500 e.defaultStatus ∧
      Record.Fills form (Json.given members) "overrides" Overrides.decode .empty e.overrides := by
  rw [decode, Record.decode_object_iff isLoose_record hkeys]
  constructor
  · intro h
    obtain ⟨code, hcode, h⟩ := (Record.overlay_cons_iff sets_defaultStatusField 500 rfl).mp h
    obtain ⟨o, ho, h⟩ := (Record.overlay_cons_iff sets_overridesField .empty rfl).mp h
    cases h
    exact ⟨hcode, ho⟩
  · rintro ⟨hcode, ho⟩
    refine (Record.overlay_cons_iff sets_defaultStatusField 500 rfl).mpr ⟨_, hcode, ?_⟩
    exact (Record.overlay_cons_iff sets_overridesField .empty rfl).mpr ⟨_, ho, rfl⟩

theorem object_accepted_iff {form : Form} {members : List (String × Json)}
    (hv : (Json.object members).IsUnique) :
    (∃ e, decode form (.ofJson (.object members)) = .ok e ∧ StatusTable.Valid e) ↔
      (Json.object members).IsErrorSettings := by
  obtain ⟨hkeys, hinner⟩ := hv
  constructor
  · rintro ⟨e, he, hdefault, hcodes⟩
    obtain ⟨hcode, ho⟩ := (decode_object_iff hkeys).mp he
    refine ⟨?_, ?_⟩
    · intro v hmem
      rw [Record.Fills, (Json.given_eq_some_iff hkeys).mpr hmem] at hcode
      exact Json.isErrorStatus_iff.mpr ⟨_, Decode.word_eq_ok_iff.mp hcode, hdefault⟩
    · intro v hmem
      rw [Record.Fills, (Json.given_eq_some_iff hkeys).mpr hmem] at ho
      exact (Overrides.accepted_iff (Json.holdUnique_iff.mp hinner _ hmem)).mp
        ⟨e.overrides, ho, hcodes⟩
  · rintro ⟨hdefault, hoverrides⟩
    obtain ⟨code, hcode, hvalid⟩ : ∃ code, Record.Fills form (Json.given members)
        "default_status" Decode.word 500 code ∧ IsErrorCode code.toNat := by
      unfold Record.Fills
      cases hg : Json.given members "default_status" with
      | none => exact ⟨500, rfl, by decide⟩
      | some v =>
        have hmem := (Json.given_eq_some_iff hkeys).mp hg
        obtain ⟨code, hcode, hvalid⟩ := Json.isErrorStatus_iff.mp (hdefault v hmem)
        exact ⟨code, Decode.word_eq_ok_iff.mpr hcode, hvalid⟩
    obtain ⟨o, ho, hcodes⟩ : ∃ o, Record.Fills form (Json.given members) "overrides"
        Overrides.decode .empty o ∧ ∀ c code, o.code? c = some code → IsErrorCode code.toNat := by
      unfold Record.Fills
      cases hg : Json.given members "overrides" with
      | none => exact ⟨.empty, rfl, fun c code h => by cases h⟩
      | some v =>
        have hmem := (Json.given_eq_some_iff hkeys).mp hg
        exact (Overrides.accepted_iff (Json.holdUnique_iff.mp hinner _ hmem)).mpr
          (hoverrides v hmem)
    exact ⟨⟨code, o⟩, (decode_object_iff hkeys).mpr ⟨hcode, ho⟩, hvalid, hcodes⟩

theorem array_accepted_iff {form : Form} {items : List Json} (hv : (Json.array items).IsUnique) :
    (∃ e, decode form (.ofJson (.array items)) = .ok e ∧ StatusTable.Valid e) ↔
      (Json.array items).IsErrorSettings := by
  have hnamed : (Json.object (Record.named record.fields items)).IsUnique :=
    Record.isUnique_named isLoose_record.nodup_names hv
  have hobject : (∃ e, decode form (.ofJson (.object (Record.named record.fields items))) = .ok e ∧
      StatusTable.Valid e) ↔ _ := object_accepted_iff hnamed
  have harray : ∀ e, decode form (.ofJson (.array items)) = .ok e ↔ items.length ≤ 2 ∧
      decode form (.ofJson (.object (Record.named record.fields items))) = .ok e :=
    fun e => Record.decode_array_iff isLoose_record
  simp only [harray, and_assoc, exists_and_left, hobject]
  -- what is left is the grammar of the object that names the items
  match items with
  | [] => simp [Json.IsErrorSettings, Record.named]
  | [v] => simp [Json.IsErrorSettings, Record.named, record, defaultStatusField, overridesField]
  | [v, w] => simp [Json.IsErrorSettings, Record.named, record, defaultStatusField, overridesField]
  | v :: w :: x :: rest => simp [Json.IsErrorSettings]

theorem accepted_iff {form : Form} {v : Json} (hv : v.IsUnique) :
    (∃ e, decode form (.ofJson v) = .ok e ∧ StatusTable.Valid e) ↔ v.IsErrorSettings := by
  cases v with
  | object members => exact object_accepted_iff hv
  | array items => exact array_accepted_iff hv
  | _ =>
    constructor
    · rintro ⟨e, he, _⟩
      cases he
    · intro h
      exact absurd h id

/-- In whatever order the overrides are gone through, and whether the value is decoded from a tree
or while its text is read: decoding it and building the table succeed for the values of the grammar
and for no others. A value names no key twice in one object. -/
theorem decodes_and_builds_iff (form : Form)
    (order : ErrorSettings → List (Classification × UInt16))
    (horder : ∀ e, (order e).Perm e.overrides.entries) {v : Json} (hv : v.IsUnique) :
    (∃ e t, decode form (.ofJson v) = .ok e ∧
      (StatusTable.build e.defaultStatus (order e)).value = .ok t) ↔ v.IsErrorSettings := by
  have hbuild : ∀ e, (∃ t, (StatusTable.build e.defaultStatus (order e)).value = .ok t) ↔
      StatusTable.Valid e := fun e => StatusTable.build_ok_iff (horder e)
  simp only [exists_and_left, hbuild]
  exact accepted_iff hv

/-- Every value that is read from a text is such a value, however often the text repeats a key: the
settings that it decodes to build a table if it is one of the grammar. -/
theorem builds_of_text_iff {s : String} {v : Json} (hs : Json.ofText s = .ok v) :
    (∃ e t, decode .tree (.ofJson v) = .ok e ∧ e.table.value = .ok t) ↔ v.IsErrorSettings := by
  have hbuild : ∀ e : ErrorSettings, (∃ t, e.table.value = .ok t) ↔ StatusTable.Valid e :=
    fun e => StatusTable.build_ok_iff (.refl _)
  simp only [exists_and_left, hbuild]
  exact accepted_iff (Json.isUnique_ofText hs)

/-- The outermost error statuses are accepted, and one that is 400 beyond sixteen bits is not. -/
theorem decodes_and_builds_at_bounds :
    let order := fun e : ErrorSettings => e.overrides.entries.reverse
    let v : Json := .object [("verbose", .null), ("overrides", .object
      [("entity_locked", .nat 599), ("concurrent_modification", .nat 400)]),
      ("default_status", .nat 503)]
    let w : Json := .array [.nat 65936]
    (∀ e, (order e).Perm e.overrides.entries) ∧ v.IsUnique ∧ w.IsUnique ∧
      (∃ e t, decode .tree (.ofJson v) = .ok e ∧
        (StatusTable.build e.defaultStatus (order e)).value = .ok t) ∧
      ¬ ∃ e t, decode .tree (.ofJson w) = .ok e ∧
        (StatusTable.build e.defaultStatus (order e)).value = .ok t := by
  intro order v w
  have horder : ∀ e, (order e).Perm e.overrides.entries := fun e => List.reverse_perm _
  have hv : v.IsUnique := by simp [v, Json.IsUnique, Json.HoldUnique, Json.nat]
  have hw : w.IsUnique := ⟨trivial, trivial⟩
  have hgrammar : v.IsErrorSettings := by
    refine ⟨?_, ?_⟩
    · intro x hx
      obtain rfl : x = .nat 503 := by simpa using hx
      exact ⟨by decide, by decide⟩
    · intro x hx
      obtain rfl : x = .object _ := by simpa using hx
      intro m hm
      rcases List.mem_cons.mp hm with rfl | hm
      · exact ⟨by decide, by decide, by decide⟩
      · obtain rfl := List.mem_singleton.mp hm
        exact ⟨by decide, by decide, by decide⟩
  refine ⟨horder, hv, hw, (decodes_and_builds_iff .tree order horder hv).mpr hgrammar, ?_⟩
  rw [decodes_and_builds_iff .tree order horder hw]
  exact fun h => absurd h.2 (by decide)

end ErrorSettings
end ErrorBoundary
