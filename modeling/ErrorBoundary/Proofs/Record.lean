import Mathlib.Data.List.Pairwise
import ErrorBoundary.Json.Decode
import ErrorBoundary.Members
import ErrorBoundary.Proofs.Json.Unique

/-!
# ErrorBoundary.Proofs.Record

A record is written field by field, in whatever order the members of an object stand. When no
field meddles with another one, the outcome is the blank record with what is given written over it
in the order of the fields, whether the value is an object or an array.

* `Record.overlay`            — a record with what is given under each name written over it.
* `Record.decode_object_iff`  — an object decodes to the overlay of its members.
* `Record.decode_array_iff`   — an array decodes as the object that names its items.
-/

namespace ErrorBoundary
namespace Json

def given (members : List (String × Json)) (name : String) : Option Json :=
  Members.find? name members

@[simp] theorem given_nil (name : String) : given [] name = none := rfl

theorem given_cons_self (name : String) (v : Json) (rest : List (String × Json)) :
    given ((name, v) :: rest) name = some v :=
  if_pos rfl

theorem given_cons_of_ne {name k : String} (h : name ≠ k) (v : Json)
    (rest : List (String × Json)) : given ((k, v) :: rest) name = given rest name :=
  if_neg (Ne.symm h)

theorem given_eq_none {name : String} {members : List (String × Json)}
    (h : name ∉ members.map Prod.fst) : given members name = none := by
  induction members with
  | nil => rfl
  | cons m rest ih =>
    obtain ⟨k, v⟩ := m
    rw [List.map_cons, List.mem_cons, not_or] at h
    rw [given_cons_of_ne h.1, ih h.2]

theorem given_eq_some_iff {name : String} {v : Json} {members : List (String × Json)}
    (h : (members.map Prod.fst).Nodup) : given members name = some v ↔ (name, v) ∈ members := by
  induction members with
  | nil => simp
  | cons m rest ih =>
    obtain ⟨k, w⟩ := m
    rw [List.map_cons, List.nodup_cons] at h
    rw [List.mem_cons, Prod.mk.injEq]
    by_cases hk : name = k
    · subst hk
      have hrest : (name, v) ∉ rest := by
        intro hv
        exact h.1 (List.mem_map.mpr ⟨_, hv, rfl⟩)
      simp [given_cons_self, hrest, eq_comm]
    · simp [given_cons_of_ne hk, hk, ih h.2]

end Json

theorem Draft.skip_ofJson (v : Json) : (Draft.ofJson v).skip = .ok () := by
  cases v <;> rfl

namespace Field

variable {α β γ : Type}

/-- The field decodes a part of the record and sets it, whatever the record held before. -/
def Sets (f : Field α) (read : Decoder β) (set : β → α → α) : Prop :=
  f.write = fun form d a => (read form d).map fun x => set x a

theorem Sets.write_iff {f : Field α} {read : Decoder β} {set : β → α → α} (h : f.Sets read set)
    {form : Form} {d : Draft} {a b : α} :
    f.write form d a = .ok b ↔ ∃ x, read form d = .ok x ∧ set x a = b := by
  rw [h]
  cases hx : read form d with
  | error e => simp [hx, Except.map]
  | ok x => simp [hx, Except.map]

/-- Written one after the other, the fields may also be written the other way round. -/
def Apart (f g : Field α) : Prop :=
  ∀ form d d' a b c, f.write form d a = .ok b → g.write form d' b = .ok c →
    ∃ b', g.write form d' a = .ok b' ∧ f.write form d b' = .ok c

section Apart

variable {f g : Field α} {readF : Decoder β} {readG : Decoder γ} {setF : β → α → α}
  {setG : γ → α → α}

theorem Sets.swap (hf : f.Sets readF setF) (hg : g.Sets readG setG)
    (hset : ∀ x y a, setG y (setF x a) = setF x (setG y a)) : f.Apart g := by
  intro form d d' a b c hb hc
  obtain ⟨x, hx, rfl⟩ := hf.write_iff.mp hb
  obtain ⟨y, hy, rfl⟩ := hg.write_iff.mp hc
  exact ⟨setG y a, hg.write_iff.mpr ⟨y, hy, rfl⟩, hf.write_iff.mpr ⟨x, hx, (hset x y a).symm⟩⟩

/-- Fields that set parts of their own. -/
theorem Sets.apart (hf : f.Sets readF setF) (hg : g.Sets readG setG)
    (hset : ∀ x y a, setG y (setF x a) = setF x (setG y a)) : f.Apart g ∧ g.Apart f :=
  ⟨hf.swap hg hset, hg.swap hf fun y x a => (hset x y a).symm⟩

end Apart

end Field

namespace Record

open Json (given)

variable {α : Type}

/-! ## Writing in the order of the fields -/

/-- Writes what is given under the name of each field, one field after the other. -/
def overlay (form : Form) (get : String → Option Json) :
    List (Field α) → α → Except Rejection α
  | [], a => .ok a
  | f :: fields, a =>
    match get f.name with
    | none => overlay form get fields a
    | some v =>
      match f.write form (.ofJson v) a with
      | .error e => .error e
      | .ok b => overlay form get fields b

/-- `x` is what is given under a name, decoded, or the default where nothing is given. -/
def Fills {β : Type} (form : Form) (get : String → Option Json) (name : String)
    (read : Decoder β) (default x : β) : Prop :=
  match get name with
  | none => x = default
  | some v => read form (.ofJson v) = .ok x

/-- No field meddles with another one. -/
def AreApart (r : Record α) : Prop :=
  ∀ f ∈ r.fields, ∀ g ∈ r.fields, f.name ≠ g.name → f.Apart g

theorem areApart_of_pairwise {r : Record α}
    (hapart : r.fields.Pairwise fun f g => f.Apart g ∧ g.Apart f) : r.AreApart := by
  intro f hf g hg hne
  have hsymm : Std.Symm fun f g : Field α => f.Apart g ∧ g.Apart f := ⟨fun _ _ h => h.symm⟩
  have hfg : f ≠ g := fun heq => hne (by rw [heq])
  exact (hapart.forall hf hg hfg).1

/-- Every field may be left out, and no field meddles with another one. -/
structure IsLoose (r : Record α) : Prop where
  nodup_names : (r.fields.map Field.name).Nodup
  mayMiss : ∀ f ∈ r.fields, f.mayMiss = true
  mayBeShort : r.mayBeShort = true
  swap : r.AreApart

theorem isLoose_of_pairwise {r : Record α} (hnames : (r.fields.map Field.name).Nodup)
    (hmiss : ∀ f ∈ r.fields, f.mayMiss = true) (hshort : r.mayBeShort = true)
    (hapart : r.fields.Pairwise fun f g => f.Apart g ∧ g.Apart f) : r.IsLoose where
  nodup_names := hnames
  mayMiss := hmiss
  mayBeShort := hshort
  swap := areApart_of_pairwise hapart

section Overlay

variable {form : Form} {get get' : String → Option Json} {fields : List (Field α)} {a c : α}

theorem overlay_cons_none {f : Field α} (h : get f.name = none) :
    overlay form get (f :: fields) a = overlay form get fields a := by
  rw [overlay, h]

theorem overlay_cons_some {f : Field α} {v : Json} (h : get f.name = some v) :
    overlay form get (f :: fields) a = .ok c ↔
      ∃ b, f.write form (.ofJson v) a = .ok b ∧ overlay form get fields b = .ok c := by
  simp only [overlay, h]
  cases f.write form (.ofJson v) a with
  | error e => simp
  | ok b => simp

theorem overlay_cons_iff {β : Type} {f : Field α} {read : Decoder β} {set : β → α → α}
    (hf : f.Sets read set) (x₀ : β) (ha : set x₀ a = a) :
    overlay form get (f :: fields) a = .ok c ↔
      ∃ x, Fills form get f.name read x₀ x ∧ overlay form get fields (set x a) = .ok c := by
  unfold Fills
  cases hg : get f.name with
  | none =>
    rw [overlay_cons_none hg]
    simp only [exists_eq_left, ha]
  | some v =>
    rw [overlay_cons_some hg]
    constructor
    · rintro ⟨b, hb, hc⟩
      obtain ⟨x, hx, rfl⟩ := hf.write_iff.mp hb
      exact ⟨x, hx, hc⟩
    · rintro ⟨x, hx, hc⟩
      exact ⟨set x a, hf.write_iff.mpr ⟨x, hx, rfl⟩, hc⟩

theorem overlay_congr (h : ∀ f ∈ fields, get f.name = get' f.name) (a : α) :
    overlay form get fields a = overlay form get' fields a := by
  induction fields generalizing a with
  | nil => rfl
  | cons f fields ih =>
    have hrest := ih fun g hg => h g (List.mem_cons_of_mem f hg)
    simp only [overlay, h f List.mem_cons_self, hrest]

theorem overlay_of_none (h : ∀ f ∈ fields, get f.name = none) (a : α) :
    overlay form get fields a = .ok a := by
  induction fields with
  | nil => rfl
  | cons f fields ih =>
    rw [overlay_cons_none (h f List.mem_cons_self)]
    exact ih fun g hg => h g (List.mem_cons_of_mem f hg)

/-- What is given under one name may be written ahead of all the rest. -/
theorem overlay_insert {r : Record α} (hr : r.AreApart) {f : Field α} {v : Json}
    (hsub : ∀ g ∈ fields, g ∈ r.fields) (hnodup : (fields.map Field.name).Nodup)
    (hf : f ∈ fields) (hnone : get f.name = none) (hsome : get' f.name = some v)
    (hother : ∀ g ∈ fields, g.name ≠ f.name → get' g.name = get g.name) :
    overlay form get' fields a = .ok c ↔
      ∃ b, f.write form (.ofJson v) a = .ok b ∧ overlay form get fields b = .ok c := by
  induction fields generalizing a with
  | nil => cases hf
  | cons g fields ih =>
    rw [List.map_cons, List.nodup_cons] at hnodup
    obtain ⟨hg, hnodup⟩ := hnodup
    have hne : ∀ g' ∈ fields, g'.name ≠ g.name := fun g' hg' heq =>
      hg (heq ▸ List.mem_map_of_mem hg')
    rcases List.mem_cons.mp hf with rfl | hf
    · -- the field stands first: the two ways of giving agree on all that follow
      have hrest : ∀ b, overlay form get' fields b = overlay form get fields b :=
        overlay_congr fun g' hg' => hother g' (List.mem_cons_of_mem f hg') (hne g' hg')
      rw [overlay_cons_some hsome]
      simp only [hrest, overlay_cons_none hnone]
    · have hgf : f.name ≠ g.name := hne f hf
      have hget := hother g List.mem_cons_self (Ne.symm hgf)
      have hstep : ∀ {x}, overlay form get' fields x = .ok c ↔
          ∃ b, f.write form (.ofJson v) x = .ok b ∧ overlay form get fields b = .ok c :=
        ih (fun g' hg' => hsub g' (List.mem_cons_of_mem g hg')) hnodup hf
          (fun g' hg' => hother g' (List.mem_cons_of_mem g hg'))
      have hfr := hsub f (List.mem_cons_of_mem g hf)
      have hgr := hsub g List.mem_cons_self
      cases hg : get g.name with
      | none =>
        rw [hg] at hget
        rw [overlay_cons_none hget, hstep]
        simp only [overlay_cons_none hg]
      | some w =>
        rw [hg] at hget
        rw [overlay_cons_some hget]
        simp only [hstep, overlay_cons_some hg]
        constructor
        · rintro ⟨b, hb, b', hb', hc⟩
          obtain ⟨x, hx, hx'⟩ := hr g hgr f hfr (Ne.symm hgf) form _ _ a b b' hb hb'
          exact ⟨x, hx, b', hx', hc⟩
        · rintro ⟨b, hb, b', hb', hc⟩
          obtain ⟨x, hx, hx'⟩ := hr f hfr g hgr hgf form _ _ a b b' hb hb'
          exact ⟨x, hx, b', hx', hc⟩

end Overlay

section Decode

variable {r : Record α} {form : Form} {a c : α}

/-! ## Objects -/

theorem mem_of_field? {key : String} {f : Field α} (h : r.field? key = some f) :
    f ∈ r.fields ∧ f.name = key :=
  ⟨List.mem_of_find?_eq_some h, by simpa using List.find?_some h⟩

theorem ne_of_field? {key : String} (h : r.field? key = none) : ∀ f ∈ r.fields, f.name ≠ key := by
  simpa [field?] using h

theorem writeMembers_iff (hr : r.IsLoose) {members : List (String × Json)} {seen : List String}
    (hkeys : (members.map Prod.fst).Nodup) (hseen : ∀ k ∈ members.map Prod.fst, k ∉ seen) :
    (∃ seen', r.writeMembers form a seen (Draft.ofMembers members) = .ok (c, seen')) ↔
      overlay form (given members) r.fields a = .ok c := by
  -- along the walk no key that is still to come was seen
  induction members generalizing a seen with
  | nil =>
    rw [overlay_of_none fun f _ => Json.given_nil f.name]
    simp [Draft.ofMembers, writeMembers]
  | cons m rest ih =>
    obtain ⟨k, v⟩ := m
    rw [List.map_cons, List.nodup_cons] at hkeys
    obtain ⟨hk, hkeys⟩ := hkeys
    have hk' : k ∉ seen := hseen k List.mem_cons_self
    have hrest : ∀ k' ∈ rest.map Prod.fst, k' ∉ seen := fun k' h =>
      hseen k' (List.mem_cons_of_mem k h)
    rw [Draft.ofMembers, writeMembers]
    cases hf : r.field? k with
    | none =>
      have hget : ∀ f ∈ r.fields, given ((k, v) :: rest) f.name = given rest f.name :=
        fun f hmem => Json.given_cons_of_ne (ne_of_field? hf f hmem) v rest
      simp only [Draft.skip_ofJson]
      rw [overlay_congr hget, ih hkeys hrest]
    | some f =>
      obtain ⟨hmem, rfl⟩ := mem_of_field? hf
      rw [overlay_insert hr.swap (fun _ h => h) hr.nodup_names hmem (Json.given_eq_none hk)
        (Json.given_cons_self f.name v rest) fun g _ hne => Json.given_cons_of_ne hne v rest]
      have hseen' : ∀ k' ∈ rest.map Prod.fst, k' ∉ f.name :: seen := by
        intro k' h
        rw [List.mem_cons, not_or]
        exact ⟨fun heq => hk (heq ▸ h), hrest k' h⟩
      simp only [List.contains_eq_mem, hk', decide_false, Bool.false_eq_true, if_false]
      cases hw : f.write form (.ofJson v) a with
      | error e => simp
      | ok b =>
        simp only [Except.ok.injEq, exists_eq_left']
        exact ih hkeys hseen'

theorem missing?_eq_none (hr : r.IsLoose) (seen : List String) : r.missing? seen = none := by
  have h : r.fields.find? (fun f => !f.mayMiss && !seen.contains f.name) = none := by
    rw [List.find?_eq_none]
    intro f hf
    simp [hr.mayMiss f hf]
  rw [missing?, h, Option.map_none]

theorem decode_object_iff (hr : r.IsLoose) {members : List (String × Json)}
    (hkeys : (members.map Prod.fst).Nodup) :
    r.decode form (.ofJson (.object members)) = .ok c ↔
      overlay form (given members) r.fields r.blank = .ok c := by
  rw [← writeMembers_iff hr hkeys (fun _ _ => List.not_mem_nil), Draft.ofJson, decode]
  cases r.writeMembers form r.blank [] (Draft.ofMembers members) with
  | error e => simp
  | ok written =>
    obtain ⟨b, seen⟩ := written
    simp [Decode.finish, Draft.finish, missing?_eq_none hr]

/-! ## Arrays -/

/-- The members of the object that names the items of an array. -/
def named (fields : List (Field α)) (items : List Json) : List (String × Json) :=
  (fields.map Field.name).zip items

theorem nodup_named {fields : List (Field α)} (h : (fields.map Field.name).Nodup)
    (items : List Json) : ((named fields items).map Prod.fst).Nodup := by
  have hsub : ∀ names : List String, ∀ items : List Json,
      ((names.zip items).map Prod.fst).Sublist names := by
    intro names
    induction names with
    | nil => intro items; exact .slnil
    | cons name names ih =>
      intro items
      cases items with
      | nil => exact List.nil_sublist _
      | cons v rest => exact .cons_cons name (ih rest)
  exact h.sublist (hsub _ items)

theorem isUnique_named {fields : List (Field α)} (h : (fields.map Field.name).Nodup)
    {items : List Json} (hitems : Json.AreUnique items) :
    (Json.object (named fields items)).IsUnique := by
  have hzip : ∀ names : List String, Json.HoldUnique (names.zip items) := by
    induction items with
    | nil => intro names; rw [List.zip_nil_right]; exact trivial
    | cons v rest ih =>
      intro names
      cases names with
      | nil => exact trivial
      | cons name names => exact ⟨hitems.1, ih hitems.2 names⟩
  exact ⟨nodup_named h items, hzip _⟩

theorem writeItems_iff (hr : r.IsLoose) {total : Nat} {fields : List (Field α)}
    (hnodup : (fields.map Field.name).Nodup) {items : List Json} :
    r.writeItems form total none a fields (Draft.ofItems items) = .ok c ↔
      items.length ≤ fields.length ∧ overlay form (given (named fields items)) fields a = .ok c := by
  induction fields generalizing a items with
  | nil =>
    cases items with
    | nil => simp [Draft.ofItems, writeItems, Decode.finish, Draft.finish, overlay]
    | cons v rest => cases form <;> simp [Draft.ofItems, writeItems]
  | cons f fields ih =>
    rw [List.map_cons, List.nodup_cons] at hnodup
    obtain ⟨hf, hnodup⟩ := hnodup
    cases items with
    | nil =>
      rw [named, List.zip_nil_right, overlay_of_none fun g _ => Json.given_nil g.name]
      simp [Draft.ofItems, writeItems, Decode.finish, Draft.finish, hr.mayBeShort]
    | cons v rest =>
      have hget : ∀ g ∈ fields, given (named (f :: fields) (v :: rest)) g.name =
          given (named fields rest) g.name := by
        intro g hg
        have hne : g.name ≠ f.name := fun h => hf (List.mem_map.mpr ⟨g, hg, h⟩)
        exact Json.given_cons_of_ne hne v _
      have hself : given (named (f :: fields) (v :: rest)) f.name = some v :=
        Json.given_cons_self f.name v _
      rw [overlay_cons_some hself, Draft.ofItems, writeItems]
      simp only [overlay_congr hget, List.length_cons, Nat.add_le_add_iff_right]
      cases hw : f.write form (.ofJson v) a with
      | error e => simp
      | ok b =>
        simp only [Except.ok.injEq, exists_eq_left']
        exact ih hnodup

theorem decode_array_iff (hr : r.IsLoose) {items : List Json} :
    r.decode form (.ofJson (.array items)) = .ok c ↔
      items.length ≤ r.fields.length ∧
        r.decode form (.ofJson (.object (named r.fields items))) = .ok c := by
  rw [decode_object_iff hr (nodup_named hr.nodup_names items), ← writeItems_iff hr hr.nodup_names,
    Draft.ofJson, decode]

end Decode

end Record
end ErrorBoundary
