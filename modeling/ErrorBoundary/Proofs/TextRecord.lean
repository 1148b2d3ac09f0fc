import Mathlib.Data.List.Nodup
import ErrorBoundary.Proofs.Partial

/-!
# ErrorBoundary.Proofs.TextRecord

Records of texts that must all be given. While its text is read, such a record decodes exactly when
each of its names has one text, in either syntax and with anything else beside it.

* `Record.IsTextual`        — a record whose fields are texts that no value may leave out.
* `Draft.WritesTexts`       — a value, drafted from its text, that gives a text for each name.
* `Json.WritesTexts`        — the same of a value, and `Draft.writesTexts_ofJson_iff` that it is.
* `Record.HasTexts`         — the record with given texts in its fields.
* `Record.decode_text_iff`  — what decodes, and what it decodes to.
-/

namespace ErrorBoundary

theorem Decode.string_eq_ok_iff {form : Form} {d : Draft} {s : String} :
    Decode.string form d = .ok s ↔ d = .string (.ok s) := by
  constructor
  · intro h
    cases d with
    | string t =>
      cases t with
      | ok t => cases h; rfl
      | error f => cases h
    | _ => cases h
  · rintro rfl
    rfl

/-! ## Drafts that write texts -/

namespace Draft

abbrev DraftMembers := List (Except Fault String × Draft)

/-- The names among the keys of an object, as often as they stand there. -/
def namesIn (names : List String) (members : DraftMembers) : List String :=
  (members.filterMap fun m => m.1.toOption).filter fun key => key ∈ names

/-- The first text under a name. -/
def textUnder? (name : String) : DraftMembers → Option String
  | [] => none
  | (.ok key, .string (.ok s)) :: rest => if key = name then some s else textUnder? name rest
  | _ :: rest => textUnder? name rest

/-- A text under one of the names, or under any other key what can be passed over. -/
def MayStand (names : List String) (m : Except Fault String × Draft) : Prop :=
  ∃ key, m.1 = .ok key ∧
    if key ∈ names then ∃ s, m.2 = .string (.ok s) else m.2.skip = .ok ()

/-- An object in which each name stands once, over its text; or an array of the texts. Nothing in it
is broken, though what stands under other keys need not be fit for use. -/
inductive WritesTexts (names : List String) (texts : String → String) : Draft → Prop where
  | object {members : DraftMembers} :
      (∀ m ∈ members, MayStand names m) → (namesIn names members).Perm names →
      (∀ name ∈ names, (.ok name, .string (.ok (texts name))) ∈ members) →
      WritesTexts names texts (.object members none)
  | array : WritesTexts names texts
      (.array (names.map fun name => .string (.ok (texts name))) none)

/-- Members that may stand where they do, with no name twice and none that was seen before. -/
structure Tell (names seen : List String) (members : DraftMembers) : Prop where
  mayStand : ∀ m ∈ members, MayStand names m
  nodup : (namesIn names members).Nodup
  unseen : ∀ name ∈ namesIn names members, name ∉ seen

section Members

variable {names : List String} {members : DraftMembers} {key name s : String} {d : Draft}

theorem namesIn_cons_mem (h : key ∈ names) :
    namesIn names ((.ok key, d) :: members) = key :: namesIn names members := by
  simp [namesIn, Except.toOption, h]

theorem namesIn_cons_not_mem (h : key ∉ names) :
    namesIn names ((.ok key, d) :: members) = namesIn names members := by
  simp [namesIn, Except.toOption, h]

theorem mem_namesIn :
    name ∈ namesIn names members ↔ name ∈ names ∧ ∃ d, (.ok name, d) ∈ members := by
  simp only [namesIn, List.mem_filter, List.mem_filterMap, decide_eq_true_eq]
  constructor
  · rintro ⟨⟨⟨key, d⟩, hm, hkey⟩, hname⟩
    cases key with
    | error f => cases hkey
    | ok key => cases hkey; exact ⟨hname, d, hm⟩
  · rintro ⟨hname, d, hm⟩
    exact ⟨⟨_, hm, rfl⟩, hname⟩

theorem tell_cons_error {f : Fault} {seen : List String} :
    ¬ Tell names seen ((.error f, d) :: members) := by
  intro h
  obtain ⟨_, hkey, _⟩ := h.mayStand _ List.mem_cons_self
  cases hkey

theorem tell_cons_not_mem {seen : List String} (h : key ∉ names) :
    Tell names seen ((.ok key, d) :: members) ↔ d.skip = .ok () ∧ Tell names seen members := by
  constructor
  · rintro ⟨hstand, hnodup, hunseen⟩
    rw [namesIn_cons_not_mem h] at hnodup hunseen
    obtain ⟨_, hkey, hd⟩ := hstand _ List.mem_cons_self
    cases hkey
    rw [if_neg h] at hd
    exact ⟨hd, fun m hm => hstand m (List.mem_cons_of_mem _ hm), hnodup, hunseen⟩
  · rintro ⟨hd, hstand, hnodup, hunseen⟩
    refine ⟨?_, by rwa [namesIn_cons_not_mem h], by rwa [namesIn_cons_not_mem h]⟩
    intro m hm
    rcases List.mem_cons.mp hm with rfl | hm
    · exact ⟨key, rfl, by rw [if_neg h]; exact hd⟩
    · exact hstand m hm

theorem tell_cons_mem {seen : List String} (h : key ∈ names) :
    Tell names seen ((.ok key, d) :: members) ↔
      key ∉ seen ∧ (∃ s, d = .string (.ok s)) ∧ Tell names (key :: seen) members := by
  constructor
  · rintro ⟨hstand, hnodup, hunseen⟩
    rw [namesIn_cons_mem h] at hnodup hunseen
    obtain ⟨_, hkey, hd⟩ := hstand _ List.mem_cons_self
    cases hkey
    rw [if_pos h] at hd
    obtain ⟨hout, hnodup⟩ := List.nodup_cons.mp hnodup
    refine ⟨hunseen key List.mem_cons_self, hd,
      fun m hm => hstand m (List.mem_cons_of_mem _ hm), hnodup, ?_⟩
    intro name hname hseen
    rcases List.mem_cons.mp hseen with rfl | hseen
    · exact hout hname
    · exact hunseen name (List.mem_cons_of_mem _ hname) hseen
  · rintro ⟨hkey, hd, hstand, hnodup, hunseen⟩
    refine ⟨?_, ?_, ?_⟩
    · intro m hm
      rcases List.mem_cons.mp hm with rfl | hm
      · exact ⟨key, rfl, by rw [if_pos h]; exact hd⟩
      · exact hstand m hm
    · rw [namesIn_cons_mem h]
      exact List.nodup_cons.mpr ⟨fun hmem => hunseen key hmem List.mem_cons_self, hnodup⟩
    · rw [namesIn_cons_mem h]
      intro name hname
      rcases List.mem_cons.mp hname with rfl | hname
      · exact hkey
      · exact fun hseen => hunseen name hname (List.mem_cons_of_mem _ hseen)

theorem textUnder?_cons_self : textUnder? name ((.ok name, .string (.ok s)) :: members) = some s :=
  if_pos rfl

theorem textUnder?_cons_of_ne (h : key ≠ name) :
    textUnder? name ((.ok key, d) :: members) = textUnder? name members := by
  cases d with
  | string t =>
    cases t with
    | ok t => exact if_neg h
    | error f => rfl
  | _ => rfl

theorem mem_of_textUnder? (h : textUnder? name members = some s) :
    (.ok name, .string (.ok s)) ∈ members := by
  induction members with
  | nil => cases h
  | cons m rest ih =>
    obtain ⟨key, d⟩ := m
    cases key with
    | error f => exact List.mem_cons_of_mem _ (ih h)
    | ok key =>
      by_cases hk : key = name
      · subst hk
        cases d with
        | string t =>
          cases t with
          | ok t =>
            rw [textUnder?_cons_self] at h
            cases h
            exact List.mem_cons_self
          | error f => exact List.mem_cons_of_mem _ (ih h)
        | _ => exact List.mem_cons_of_mem _ (ih h)
      · rw [textUnder?_cons_of_ne hk] at h
        exact List.mem_cons_of_mem _ (ih h)

theorem textUnder?_eq_none (h : name ∉ namesIn names members) (hname : name ∈ names) :
    textUnder? name members = none := by
  cases ht : textUnder? name members with
  | none => rfl
  | some s => exact absurd (mem_namesIn.mpr ⟨hname, _, mem_of_textUnder? ht⟩) h

/-- Where a name stands once, the first text under it is the one. -/
theorem textUnder?_eq_some (hnodup : (namesIn names members).Nodup) (hname : name ∈ names)
    (h : (.ok name, .string (.ok s)) ∈ members) : textUnder? name members = some s := by
  induction members with
  | nil => cases h
  | cons m rest ih =>
    obtain ⟨key, d⟩ := m
    cases key with
    | error f =>
      rcases List.mem_cons.mp h with heq | hrest
      · cases heq
      · exact ih hnodup hrest
    | ok key =>
      by_cases hk : key = name
      · subst hk
        rw [namesIn_cons_mem hname, List.nodup_cons] at hnodup
        rcases List.mem_cons.mp h with heq | hrest
        · cases heq
          exact textUnder?_cons_self
        · exact absurd (mem_namesIn.mpr ⟨hname, _, hrest⟩) hnodup.1
      · rw [textUnder?_cons_of_ne hk]
        rcases List.mem_cons.mp h with heq | hrest
        · cases heq
          exact absurd rfl hk
        · refine ih ?_ hrest
          by_cases hmem : key ∈ names
          · rw [namesIn_cons_mem hmem, List.nodup_cons] at hnodup
            exact hnodup.2
          · rwa [namesIn_cons_not_mem hmem] at hnodup

end Members

end Draft

/-- The root writes the texts, and nothing stands behind it. -/
structure Document.WritesTexts (names : List String) (texts : String → String)
    (d : Document) : Prop where
  root : d.root.WritesTexts names texts
  alone : d.trailing = none

/-! ## Values that write texts -/

/-- An object with one member under each name, over its text, and anything under other keys; or an
array of the texts. -/
inductive Json.WritesTexts (names : List String) (texts : String → String) : Json → Prop where
  | object {members : List (String × Json)} :
      (∀ name ∈ names,
        members.filter (fun m => m.1 = name) = [(name, .string (texts name))]) →
      WritesTexts names texts (.object members)
  | array : WritesTexts names texts (.array (names.map fun name => .string (texts name)))

namespace Draft

variable {names : List String} {texts : String → String}

theorem ofMembers_eq_map (members : List (String × Json)) :
    ofMembers members = members.map fun m => (.ok m.1, ofJson m.2) := by
  induction members with
  | nil => rfl
  | cons m members ih => rw [ofMembers, ih, List.map_cons]

theorem ofItems_eq_map (items : List Json) : ofItems items = items.map ofJson := by
  induction items with
  | nil => rfl
  | cons v items ih => rw [ofItems, ih, List.map_cons]

theorem mem_ofMembers {members : List (String × Json)} {m : Except Fault String × Draft} :
    m ∈ ofMembers members ↔ ∃ key v, (key, v) ∈ members ∧ m = (.ok key, ofJson v) := by
  rw [ofMembers_eq_map, List.mem_map]
  constructor
  · rintro ⟨⟨key, v⟩, hmem, rfl⟩
    exact ⟨key, v, hmem, rfl⟩
  · rintro ⟨key, v, hmem, rfl⟩
    exact ⟨(key, v), hmem, rfl⟩

theorem count_namesIn_ofMembers {members : List (String × Json)} {name : String}
    (h : name ∈ names) :
    (namesIn names (ofMembers members)).count name =
      (members.filter fun m => m.1 = name).length := by
  induction members with
  | nil => rfl
  | cons m members ih =>
    obtain ⟨key, v⟩ := m
    rw [ofMembers]
    by_cases hkey : key = name
    · subst hkey
      rw [namesIn_cons_mem h, List.count_cons_self, ih]
      simp
    · have hskip : (namesIn names ((.ok key, ofJson v) :: ofMembers members)).count name =
          (namesIn names (ofMembers members)).count name := by
        by_cases hmem : key ∈ names
        · rw [namesIn_cons_mem hmem, List.count_cons_of_ne hkey]
        · rw [namesIn_cons_not_mem hmem]
      rw [hskip, ih]
      simp [hkey]

theorem ofJson_eq_string_iff {v : Json} {s : String} :
    ofJson v = .string (.ok s) ↔ v = .string s := by
  cases v <;> simp [ofJson]

theorem map_ofJson_eq_iff {items : List Json} {names : List String} :
    (items.map ofJson = names.map fun name => .string (.ok (texts name))) ↔
      items = names.map fun name => .string (texts name) := by
  induction names generalizing items with
  | nil => simp
  | cons name names ih =>
    cases items with
    | nil => simp
    | cons v items => simp [ofJson_eq_string_iff, ih]

theorem writesTexts_ofMembers_iff (hnodup : names.Nodup) {members : List (String × Json)} :
    (Draft.object (ofMembers members) none).WritesTexts names texts ↔
      ∀ name ∈ names, members.filter (fun m => m.1 = name) = [(name, .string (texts name))] := by
  constructor
  · intro h name hname
    cases h with
    | object _ hperm htexts =>
      have hone : (members.filter fun m => m.1 = name).length = 1 := by
        rw [← count_namesIn_ofMembers hname, hperm.count_eq, List.count_eq_one_of_mem hnodup hname]
      obtain ⟨m, hm⟩ := List.length_eq_one_iff.mp hone
      obtain ⟨key, v, hmem, heq⟩ := mem_ofMembers.mp (htexts name hname)
      simp only [Prod.mk.injEq, Except.ok.injEq] at heq
      obtain ⟨rfl, hv⟩ := heq
      have hv := ofJson_eq_string_iff.mp hv.symm
      have hmem : (name, v) ∈ members.filter fun m => m.1 = name := by simpa using hmem
      rw [hm, List.mem_singleton] at hmem
      rw [hm, ← hmem, hv]
  · intro h
    have hmem : ∀ name ∈ names, (name, .string (texts name)) ∈ members := by
      intro name hname
      have hin : (name, .string (texts name)) ∈ members.filter fun m => m.1 = name := by
        rw [h name hname]
        exact List.mem_singleton_self _
      exact (List.mem_filter.mp hin).1
    refine .object ?_ ?_ ?_
    · intro m hm
      obtain ⟨key, v, hmem, rfl⟩ := mem_ofMembers.mp hm
      refine ⟨key, rfl, ?_⟩
      split
      · rename_i hkey
        have hin : (key, v) ∈ members.filter fun m => m.1 = key := by simpa using hmem
        rw [h key hkey, List.mem_singleton] at hin
        cases hin
        exact ⟨_, rfl⟩
      · exact skip_ofJson v
    · rw [List.perm_iff_count]
      intro name
      by_cases hname : name ∈ names
      · rw [count_namesIn_ofMembers hname, h name hname, List.count_eq_one_of_mem hnodup hname]
        rfl
      · have hout : name ∉ namesIn names (ofMembers members) := fun hin =>
          hname (mem_namesIn.mp hin).1
        rw [List.count_eq_zero_of_not_mem hout, List.count_eq_zero_of_not_mem hname]
    · intro name hname
      exact mem_ofMembers.mpr ⟨name, _, hmem name hname, rfl⟩

theorem writesTexts_ofJson_iff (hnodup : names.Nodup) {v : Json} :
    (ofJson v).WritesTexts names texts ↔ v.WritesTexts names texts := by
  cases v with
  | object members =>
    rw [ofJson, writesTexts_ofMembers_iff hnodup]
    constructor
    · exact .object
    · rintro ⟨h⟩
      exact h
  | array items =>
    rw [ofJson, ofItems_eq_map]
    constructor
    · intro h
      generalize hdrafts : items.map ofJson = drafts at h
      cases h
      rw [map_ofJson_eq_iff.mp hdrafts]
      exact .array
    · intro h
      cases h
      rw [map_ofJson_eq_iff.mpr rfl]
      exact .array
  | null | bool | number | string =>
    constructor
    · intro h
      cases h
    · intro h
      cases h

end Draft

/-! ## Records of texts -/

namespace Record

open Draft (DraftMembers namesIn textUnder? MayStand Tell WritesTexts)

variable {α : Type}

/-- Every field is a text that no value may leave out, and sets a part of its own. -/
structure IsTextual (r : Record α) : Prop where
  nodup_names : r.names.Nodup
  sets : ∀ f ∈ r.fields, ∃ set, f.Sets Decode.string set
  mustStand : ∀ f ∈ r.fields, f.mayMiss = false
  mustBeFull : r.mayBeShort = false
  apart : r.AreApart

/-- `a` is the blank record with these texts in its fields. -/
def HasTexts (r : Record α) (texts : String → String) (a : α) : Prop :=
  overlay .text (fun name => some (.string (texts name))) r.fields r.blank = .ok a

def texts? (members : DraftMembers) (name : String) : Option Json :=
  (textUnder? name members).map .string

section Write

variable {f : Field α} {a b c : α} {d : Draft} {s : String}

theorem write_text_iff {set : String → α → α} (hf : f.Sets Decode.string set) :
    f.write .text d a = .ok b ↔ ∃ s, d = .string (.ok s) ∧ set s a = b := by
  simp only [hf.write_iff, Decode.string_eq_ok_iff]

/-- Texts can always be set. -/
theorem overlay_texts_ok {fields : List (Field α)}
    (hsets : ∀ f ∈ fields, ∃ set, f.Sets Decode.string set) (texts : String → String) (a : α) :
    ∃ c, overlay .text (fun name => some (.string (texts name))) fields a = .ok c := by
  induction fields generalizing a with
  | nil => exact ⟨a, rfl⟩
  | cons f fields ih =>
    obtain ⟨set, hf⟩ := hsets f List.mem_cons_self
    obtain ⟨c, hc⟩ := ih (fun g hg => hsets g (List.mem_cons_of_mem f hg)) (set (texts f.name) a)
    exact ⟨c, (overlay_cons_some rfl).mpr ⟨_, (write_text_iff hf).mpr ⟨_, rfl, rfl⟩, hc⟩⟩

end Write

section Decode

variable {r : Record α} {a c : α}

theorem mem_names_of_field? {key : String} {f : Field α} (h : r.field? key = some f) :
    key ∈ r.names := by
  obtain ⟨hf, rfl⟩ := mem_of_field? h
  exact List.mem_map_of_mem hf

theorem not_mem_names_of_field? {key : String} (h : r.field? key = none) : key ∉ r.names := by
  intro hkey
  obtain ⟨f, hf, heq⟩ := List.mem_map.mp hkey
  exact ne_of_field? h f hf heq

/-- A name that stands nowhere else may have its text set ahead of the others. -/
theorem overlay_texts_cons_iff (hr : r.IsTextual) {f : Field α} (hmem : f ∈ r.fields)
    {rest : DraftMembers} (hout : f.name ∉ namesIn r.names rest) {s : String} :
    overlay .text (texts? ((.ok f.name, .string (.ok s)) :: rest)) r.fields a = .ok c ↔
      ∃ b, f.write .text (.string (.ok s)) a = .ok b ∧
        overlay .text (texts? rest) r.fields b = .ok c := by
  have hkey : f.name ∈ r.names := List.mem_map_of_mem hmem
  have hnone : texts? rest f.name = none := by
    rw [texts?, Draft.textUnder?_eq_none hout hkey, Option.map_none]
  have hsome : texts? ((.ok f.name, .string (.ok s)) :: rest) f.name = some (.string s) := by
    rw [texts?, Draft.textUnder?_cons_self, Option.map_some]
  have hother : ∀ g ∈ r.fields, g.name ≠ f.name →
      texts? ((.ok f.name, .string (.ok s)) :: rest) g.name = texts? rest g.name := by
    intro g _ hne
    rw [texts?, Draft.textUnder?_cons_of_ne (Ne.symm hne), texts?]
  rw [overlay_insert hr.apart (fun _ h => h) hr.nodup_names hmem hnone hsome hother]
  simp [Draft.ofJson]

/-- The walk over the members of an object passes when they tell what they may, and leaves the
texts in their fields. -/
theorem writeMembers_text_iff (hr : r.IsTextual) {members : DraftMembers}
    {seen seen' : List String} :
    r.writeMembers .text a seen members = .ok (c, seen') ↔
      Tell r.names seen members ∧ seen' = (namesIn r.names members).reverse ++ seen ∧
        overlay .text (texts? members) r.fields a = .ok c := by
  induction members generalizing a seen with
  | nil =>
    have htell : Tell r.names seen [] := ⟨by simp, List.nodup_nil, by simp [namesIn]⟩
    rw [overlay_of_none fun f _ => rfl]
    simp [writeMembers, namesIn, htell, and_comm, eq_comm]
  | cons m rest ih =>
    obtain ⟨key, d⟩ := m
    cases key with
    | error fault => simp [writeMembers, Draft.tell_cons_error]
    | ok key =>
      cases hf : r.field? key with
      | none =>
        have hkey := not_mem_names_of_field? hf
        have hget : ∀ f ∈ r.fields, texts? ((.ok key, d) :: rest) f.name = texts? rest f.name := by
          intro f hmem
          rw [texts?, Draft.textUnder?_cons_of_ne (Ne.symm (ne_of_field? hf f hmem)), texts?]
        rw [writeMembers, Draft.tell_cons_not_mem hkey, Draft.namesIn_cons_not_mem hkey,
          overlay_congr hget]
        simp only [hf]
        cases d.skip with
        | error fault => simp
        | ok u => simp [ih]
      | some f =>
        obtain ⟨hmem, rfl⟩ := mem_of_field? hf
        have hkey : f.name ∈ r.names := mem_names_of_field? hf
        obtain ⟨set, hset⟩ := hr.sets f hmem
        rw [writeMembers, Draft.tell_cons_mem hkey, Draft.namesIn_cons_mem hkey]
        simp only [hf]
        by_cases hseen : f.name ∈ seen
        · simp [hseen]
        have hunseen : seen.contains f.name = false := by simpa using hseen
        simp only [hunseen, Bool.false_eq_true, if_false]
        cases hw : f.write .text d a with
        | error e =>
          have hd : ¬ ∃ s, d = .string (.ok s) := by
            rintro ⟨s, rfl⟩
            rw [(write_text_iff hset).mpr ⟨s, rfl, rfl⟩] at hw
            cases hw
          simp [hd]
        | ok b =>
          obtain ⟨s, rfl, rfl⟩ := (write_text_iff hset).mp hw
          simp only [ih, hseen, not_false_eq_true, true_and]
          refine Iff.trans (and_congr_right fun htell => ?_)
            ⟨fun h => ⟨⟨⟨s, rfl⟩, h.1⟩, h.2⟩, fun h => ⟨h.1.2, h.2⟩⟩
          have hout : f.name ∉ namesIn r.names rest := fun h =>
            htell.unseen f.name h List.mem_cons_self
          rw [overlay_texts_cons_iff hr hmem hout]
          simp [hw]

theorem missing?_text_iff (hr : r.IsTextual) {seen : List String} :
    r.missing? seen = none ↔ ∀ name ∈ r.names, name ∈ seen := by
  rw [missing?, Option.map_eq_none_iff, List.find?_eq_none, names]
  constructor
  · intro h name hname
    obtain ⟨f, hf, rfl⟩ := List.mem_map.mp hname
    simpa [hr.mustStand f hf] using h f hf
  · intro h f hf
    simpa using fun _ => h f.name (List.mem_map_of_mem hf)

/-! ## Objects and arrays -/

theorem perm_names_iff (hr : r.IsTextual) {members : DraftMembers} :
    (namesIn r.names members).Perm r.names ↔ (namesIn r.names members).Nodup ∧
      ∀ name ∈ r.names, name ∈ namesIn r.names members := by
  constructor
  · intro h
    exact ⟨h.nodup_iff.mpr hr.nodup_names, fun name hname => h.mem_iff.mpr hname⟩
  · rintro ⟨hnodup, hall⟩
    rw [List.perm_ext_iff_of_nodup hnodup hr.nodup_names]
    exact fun name => ⟨fun h => (Draft.mem_namesIn.mp h).1, hall name⟩

theorem texts?_congr {members : DraftMembers} {texts : String → String}
    (h : ∀ name ∈ r.names, textUnder? name members = some (texts name)) (a : α) :
    overlay .text (texts? members) r.fields a =
      overlay .text (fun name => some (.string (texts name))) r.fields a := by
  refine overlay_congr (fun f hf => ?_) a
  rw [texts?, h f.name (List.mem_map_of_mem hf), Option.map_some]

theorem finish_eq_ok_iff {stop : Option Break} : Decode.finish stop = .ok () ↔ stop = none := by
  cases stop with
  | none => simp [Decode.finish, Draft.finish]
  | some b => simp [Decode.finish, Draft.finish]

/-- An object decodes when the walk over its members passes, nothing is broken after them, and no
field that must stand is missing. -/
theorem decode_object_walk {form : Form} {members : DraftMembers} {stop : Option Break} :
    r.decode form (.object members stop) = .ok a ↔
      ∃ seen, r.writeMembers form r.blank [] members = .ok (a, seen) ∧ stop = none ∧
        r.missing? seen = none := by
  rw [decode, ← finish_eq_ok_iff]
  cases r.writeMembers form r.blank [] members with
  | error e => simp
  | ok written =>
    obtain ⟨b, seen⟩ := written
    cases Decode.finish stop with
    | error e => simp
    | ok u => cases hmiss : r.missing? seen <;> simp [hmiss]

theorem decode_text_object_iff (hr : r.IsTextual) {members : DraftMembers} {stop : Option Break} :
    r.decode .text (.object members stop) = .ok a ↔
      ∃ texts, WritesTexts r.names texts (.object members stop) ∧ r.HasTexts texts a := by
  simp only [decode_object_walk, writeMembers_text_iff hr, missing?_text_iff hr]
  constructor
  · rintro ⟨_, ⟨htell, rfl, ha⟩, rfl, hall⟩
    simp only [List.append_nil, List.mem_reverse] at hall
    have hunder : ∀ name ∈ r.names,
        textUnder? name members = some ((textUnder? name members).getD "") := by
      intro name hname
      obtain ⟨_, d, hd⟩ := Draft.mem_namesIn.mp (hall name hname)
      obtain ⟨_, hkey, hstand⟩ := htell.mayStand _ hd
      cases hkey
      rw [if_pos hname] at hstand
      obtain ⟨s, rfl⟩ := hstand
      rw [Draft.textUnder?_eq_some htell.nodup hname hd, Option.getD_some]
    refine ⟨fun name => (textUnder? name members).getD "", .object htell.mayStand ?_ ?_, ?_⟩
    · exact (perm_names_iff hr).mpr ⟨htell.nodup, hall⟩
    · exact fun name hname => Draft.mem_of_textUnder? (hunder name hname)
    · rwa [HasTexts, ← texts?_congr hunder]
  · rintro ⟨texts, hwrites, ha⟩
    cases hwrites with
    | object hstand hperm htexts =>
      obtain ⟨hnodup, hall⟩ := (perm_names_iff hr).mp hperm
      have htell : Tell r.names [] members := ⟨hstand, hnodup, fun _ _ => List.not_mem_nil⟩
      have hunder : ∀ name ∈ r.names, textUnder? name members = some (texts name) :=
        fun name hname => Draft.textUnder?_eq_some hnodup hname (htexts name hname)
      refine ⟨_, ⟨htell, rfl, ?_⟩, rfl, ?_⟩
      · rwa [texts?_congr hunder]
      · simpa using hall

theorem writeItems_cons_iff {total : Nat} {stop : Option Break} {f : Field α}
    {fields : List (Field α)} {d : Draft} {rest : List Draft} :
    r.writeItems .text total stop a (f :: fields) (d :: rest) = .ok c ↔
      ∃ b, f.write .text d a = .ok b ∧ r.writeItems .text total stop b fields rest = .ok c := by
  rw [writeItems]
  cases f.write .text d a with
  | error e => simp
  | ok b => simp

/-- An array decodes when it holds one text for each field and nothing is broken behind them. -/
theorem writeItems_text_iff (hfull : r.mayBeShort = false) {total : Nat} {stop : Option Break}
    {fields : List (Field α)} (hsets : ∀ f ∈ fields, ∃ set, f.Sets Decode.string set)
    (hnodup : (fields.map Field.name).Nodup) {items : List Draft} :
    r.writeItems .text total stop a fields items = .ok c ↔
      stop = none ∧ ∃ texts : String → String,
        items = (fields.map fun f => .string (.ok (texts f.name))) ∧
          overlay .text (fun name => some (.string (texts name))) fields a = .ok c := by
  induction fields generalizing a items with
  | nil =>
    cases items with
    | nil =>
      rw [writeItems]
      cases stop with
      | none => simp [Decode.finish, Draft.finish, overlay]
      | some b => simp [Decode.finish, Draft.finish]
    | cons d rest => simp [writeItems]
  | cons f fields ih =>
    rw [List.map_cons, List.nodup_cons] at hnodup
    obtain ⟨hf, hnodup⟩ := hnodup
    obtain ⟨set, hset⟩ := hsets f List.mem_cons_self
    have hrest : ∀ g ∈ fields, ∃ set, g.Sets Decode.string set := fun g hg =>
      hsets g (List.mem_cons_of_mem f hg)
    cases items with
    | nil => cases stop <;> simp [writeItems, Decode.finish, Draft.finish, hfull]
    | cons d rest =>
      have hover : ∀ texts : String → String,
          overlay .text (fun name => some (.string (texts name))) (f :: fields) a = .ok c ↔
            overlay .text (fun name => some (.string (texts name))) fields
              (set (texts f.name) a) = .ok c := by
        intro texts
        rw [overlay_cons_some rfl]
        simp [write_text_iff hset, Draft.ofJson]
      simp only [writeItems_cons_iff, write_text_iff hset, ih hrest hnodup, hover, List.map_cons,
        List.cons.injEq]
      constructor
      · rintro ⟨_, ⟨s, rfl, rfl⟩, hstop, texts, rfl, hc⟩
        -- the text of the first field is told apart from those of the others by its name
        have hself : Function.update texts f.name s f.name = s := Function.update_self ..
        have hother : ∀ g ∈ fields, Function.update texts f.name s g.name = texts g.name := by
          intro g hg
          have hne : g.name ≠ f.name := fun heq => hf (heq ▸ List.mem_map_of_mem hg)
          exact Function.update_of_ne hne s texts
        refine ⟨hstop, Function.update texts f.name s, ⟨by rw [hself], ?_⟩, ?_⟩
        · exact List.map_congr_left fun g hg => by rw [hother g hg]
        · rw [hself, ← hc]
          exact overlay_congr (fun g hg => by rw [hother g hg]) _
      · rintro ⟨hstop, texts, ⟨rfl, rfl⟩, hc⟩
        exact ⟨_, ⟨_, rfl, rfl⟩, hstop, texts, rfl, hc⟩

/-- While its text is read, a record of texts decodes exactly when each name is given its text. -/
theorem decode_text_iff (hr : r.IsTextual) {d : Draft} :
    r.decode .text d = .ok a ↔ ∃ texts, WritesTexts r.names texts d ∧ r.HasTexts texts a := by
  cases d with
  | object members stop => exact decode_text_object_iff hr
  | array items stop =>
    rw [decode, writeItems_text_iff hr.mustBeFull hr.sets hr.nodup_names]
    constructor
    · rintro ⟨rfl, texts, rfl, ha⟩
      refine ⟨texts, ?_, ha⟩
      have harray : WritesTexts r.names texts
          (.array (r.names.map fun name => .string (.ok (texts name))) none) := .array
      rwa [names, List.map_map] at harray
    · rintro ⟨texts, hwrites, ha⟩
      cases hwrites
      refine ⟨rfl, texts, ?_, ha⟩
      rw [names, List.map_map]
      rfl
  | null | bool | number | string | word | broken =>
    constructor
    · intro h
      cases h
    · rintro ⟨_, hwrites, _⟩
      cases hwrites

/-- Any texts can be had. -/
theorem exists_hasTexts (hr : r.IsTextual) (texts : String → String) :
    ∃ a, r.HasTexts texts a :=
  overlay_texts_ok hr.sets texts r.blank

theorem document_decode_iff (hr : r.IsTextual) {d : Document} :
    Decode.document r.decode d = .ok a ↔
      ∃ texts, d.WritesTexts r.names texts ∧ r.HasTexts texts a := by
  have hdoc : Decode.document r.decode d = .ok a ↔
      r.decode .text d.root = .ok a ∧ d.trailing = none := by
    rw [Decode.document]
    cases r.decode .text d.root with
    | error e => simp
    | ok b => cases htrail : d.trailing <;> simp [Document.finish, htrail]
  rw [hdoc, decode_text_iff hr]
  constructor
  · rintro ⟨⟨texts, hroot, ha⟩, htrail⟩
    exact ⟨texts, ⟨hroot, htrail⟩, ha⟩
  · rintro ⟨texts, ⟨hroot, htrail⟩, ha⟩
    exact ⟨⟨texts, hroot, ha⟩, htrail⟩

end Decode

end Record
end ErrorBoundary
