import ErrorBoundary.Proofs.Record

/-!
# ErrorBoundary.Proofs.Partial

Records of which a part is written. A value writes fields by name, as an object, or in their order
from the first on, as an array; it decodes to the blank record with these fields written over it.

* `Json.part?`             — what a value writes for a field, in either syntax.
* `Record.decode_iff`      — decoding in either syntax, by what is written for each field.
* `Decoder.Reads`          — a decoder accepts what writes a part, and makes of it what that says.
* `Record.overlay_cons_part_iff`, `Record.decode_pair_iff` — a field, and two fields, by parts.
* `Decoder.ReadsEitherWay` — the two syntaxes are read alike, and writing nothing is the default.
-/

namespace ErrorBoundary
namespace Json

/-- What stands in the place of a field, when the fields of the record have these names. -/
def part? (names : List String) (v : Json) (name : String) : Option Json :=
  match v with
  | .object members => given members name
  | .array items => given (names.zip items) name
  | _ => none

/-- An object, or an array with an item for each of the first names. -/
def IsRecord (names : List String) : Json → Prop
  | .object _ => True
  | .array items => items.length ≤ names.length
  | _ => False

theorem mem_of_given {members : List (String × Json)} {name : String} {v : Json}
    (h : given members name = some v) : (name, v) ∈ members := by
  induction members with
  | nil => cases h
  | cons m rest ih =>
    obtain ⟨k, w⟩ := m
    by_cases hk : name = k
    · subst hk
      rw [given_cons_self] at h
      cases h
      exact List.mem_cons_self
    · rw [given_cons_of_ne hk] at h
      exact List.mem_cons_of_mem _ (ih h)

theorem isUnique_of_part? {names : List String} {v w : Json} {name : String} (hv : v.IsUnique)
    (h : v.part? names name = some w) : w.IsUnique := by
  cases v with
  | object members => exact holdUnique_iff.mp hv.2 _ (mem_of_given h)
  | array items => exact areUnique_iff.mp hv w (List.of_mem_zip (mem_of_given h)).2
  | _ => cases h

end Json

namespace Record

open Json (part?)

variable {α : Type} {r : Record α} {form : Form}

/-! ## Either syntax -/

def names (r : Record α) : List String := r.fields.map Field.name

theorem decode_iff (hr : r.IsLoose) {v : Json} (hv : v.IsUnique) {c : α} :
    r.decode form (.ofJson v) = .ok c ↔
      v.IsRecord r.names ∧ overlay form (v.part? r.names) r.fields r.blank = .ok c := by
  cases v with
  | object members =>
    rw [decode_object_iff hr hv.1]
    simp only [Json.IsRecord, true_and]
    rfl
  | array items =>
    rw [decode_array_iff hr, decode_object_iff hr (nodup_named hr.nodup_names items)]
    simp only [Json.IsRecord, names, List.length_map]
    rfl
  | _ =>
    constructor
    · intro h
      cases h
    · intro h
      exact absurd h.1 id

end Record

/-! ## What is written -/

/-- A unique value decodes to what some part `q` makes of it, for the parts that it writes and for
no others. -/
def Decoder.Reads {α β : Type} (decode : Decoder α) (Writes : Json → β → Prop) (make : β → α) :
    Prop :=
  ∀ form (v : Json) a, v.IsUnique →
    (decode form (.ofJson v) = .ok a ↔ ∃ q, Writes v q ∧ make q = a)

namespace Record

variable {α β γ β' γ' : Type} {form : Form}

/-- A field is what is written for it, or its default. -/
theorem fills_iff {get : String → Option Json} {name : String} {read : Decoder β}
    {W : Json → β' → Prop} {make : β' → β} (hread : read.Reads W make)
    (hget : ∀ w, get name = some w → w.IsUnique) (default x : β) :
    Fills form get name read default x ↔
      ∃ q? : Option β', Option.Rel W (get name) q? ∧ q?.elim default make = x := by
  unfold Fills
  cases h : get name with
  | none =>
    constructor
    · rintro rfl
      exact ⟨none, .none, rfl⟩
    · rintro ⟨q?, hq, rfl⟩
      cases hq
      rfl
  | some w =>
    show read form (.ofJson w) = .ok x ↔ _
    rw [hread form w x (hget w h)]
    constructor
    · rintro ⟨q, hq, rfl⟩
      exact ⟨some q, .some hq, rfl⟩
    · rintro ⟨q?, hq, rfl⟩
      cases hq with
      | some hq => exact ⟨_, hq, rfl⟩

theorem overlay_cons_part_iff {f : Field α} {fields : List (Field α)} {read : Decoder β}
    {set : β → α → α} (hf : f.Sets read set) {W : Json → β' → Prop} {make : β' → β}
    (hread : read.Reads W make) {get : String → Option Json}
    (hget : ∀ w, get f.name = some w → w.IsUnique) (x₀ : β) {a c : α} (ha : set x₀ a = a) :
    overlay form get (f :: fields) a = .ok c ↔ ∃ q? : Option β', Option.Rel W (get f.name) q? ∧
      overlay form get fields (set (q?.elim x₀ make) a) = .ok c := by
  rw [overlay_cons_iff hf x₀ ha]
  constructor
  · rintro ⟨x, hx, h⟩
    obtain ⟨q?, hq, rfl⟩ := (fills_iff hread hget x₀ x).mp hx
    exact ⟨q?, hq, h⟩
  · rintro ⟨q?, hq, h⟩
    exact ⟨_, (fills_iff hread hget x₀ _).mpr ⟨q?, hq, rfl⟩, h⟩

/-- A record of two fields that set parts of their own. -/
theorem decode_pair_iff {r : Record α} (hr : r.IsLoose) {f g : Field α}
    (hfields : r.fields = [f, g]) {readF : Decoder β} {readG : Decoder γ} {setF : β → α → α}
    {setG : γ → α → α} (hf : f.Sets readF setF) (hg : g.Sets readG setG)
    {WF : Json → β' → Prop} {makeF : β' → β} (hF : readF.Reads WF makeF)
    {WG : Json → γ' → Prop} {makeG : γ' → γ} (hG : readG.Reads WG makeG) (x₀ : β) (y₀ : γ)
    (hx : setF x₀ r.blank = r.blank) (hy : ∀ x, setG y₀ (setF x r.blank) = setF x r.blank)
    {v : Json} (hv : v.IsUnique) {c : α} :
    r.decode form (.ofJson v) = .ok c ↔
      v.IsRecord [f.name, g.name] ∧ ∃ x? y?,
        Option.Rel WF (v.part? [f.name, g.name] f.name) x? ∧
        Option.Rel WG (v.part? [f.name, g.name] g.name) y? ∧
        setG (y?.elim y₀ makeG) (setF (x?.elim x₀ makeF) r.blank) = c := by
  have hnames : r.names = [f.name, g.name] := by simp [names, hfields]
  have hunique : ∀ name w, v.part? [f.name, g.name] name = some w → w.IsUnique :=
    fun _ _ h => Json.isUnique_of_part? hv h
  rw [decode_iff hr hv, hnames, hfields, overlay_cons_part_iff hf hF (hunique _) x₀ hx]
  constructor
  · rintro ⟨hrecord, x?, hwx, h⟩
    rw [overlay_cons_part_iff hg hG (hunique _) y₀ (hy _)] at h
    obtain ⟨y?, hwy, h⟩ := h
    cases h
    exact ⟨hrecord, x?, y?, hwx, hwy, rfl⟩
  · rintro ⟨hrecord, x?, y?, hwx, hwy, rfl⟩
    refine ⟨hrecord, x?, hwx, ?_⟩
    rw [overlay_cons_part_iff hg hG (hunique _) y₀ (hy _)]
    exact ⟨y?, hwy, rfl⟩

end Record

/-- An array of the first fields is read as the object that names them, and an empty one of either
kind is the default. -/
structure Decoder.ReadsEitherWay {α : Type} (decode : Decoder α) (names : List String)
    (default : α) (form : Form) : Prop where
  array_iff : ∀ (items : List Json) (a : α), items.length ≤ names.length →
    (decode form (.ofJson (.array items)) = .ok a ↔
      decode form (.ofJson (.object (names.zip items))) = .ok a)
  emptyArray : decode form (.ofJson (.array [])) = .ok default
  emptyObject : decode form (.ofJson (.object [])) = .ok default

/-- The three ways to write nothing for a record: to leave it out, or to give it no field. -/
def Json.SaysNothing (v? : Option Json) : Prop :=
  v? = none ∨ v? = some (.array []) ∨ v? = some (.object [])

/-- Whichever way nothing is written for a record, that leaves the default. -/
theorem Decoder.ReadsEitherWay.of_saysNothing {α β : Type} {decode : Decoder α}
    {names : List String} {default : α} {form : Form} {W : Json → β → Prop} {make : β → α}
    (h : decode.ReadsEitherWay names default form) (hread : decode.Reads W make)
    {v? : Option Json} {q? : Option β} (hq : Option.Rel W v? q?) (hv : Json.SaysNothing v?) :
    q?.elim default make = default := by
  have hempty : ∀ v q, v.IsUnique → W v q → decode form (.ofJson v) = .ok default →
      make q = default := by
    intro v q hunique hwrites hdefault
    have hq := (hread form v (make q) hunique).mpr ⟨q, hwrites, rfl⟩
    rw [hdefault] at hq
    cases hq
    rfl
  rcases hv with rfl | rfl | rfl
  · cases hq
    rfl
  · cases hq with
    | some hq => exact hempty (.array []) _ trivial hq h.emptyArray
  · cases hq with
    | some hq => exact hempty (.object []) _ ⟨List.nodup_nil, trivial⟩ hq h.emptyObject

theorem Record.readsEitherWay {α : Type} {r : Record α} (hr : r.IsLoose) (form : Form) :
    Decoder.ReadsEitherWay r.decode r.names r.blank form := by
  have hempty : r.decode form (.ofJson (.object [])) = .ok r.blank := by
    have hkeys : (([] : List (String × Json)).map Prod.fst).Nodup := List.nodup_nil
    rw [decode_object_iff hr hkeys]
    exact overlay_of_none (fun _ _ => rfl) r.blank
  constructor
  · intro items a hlen
    rw [decode_array_iff hr]
    constructor
    · exact And.right
    · intro h
      exact ⟨by simpa [names] using hlen, h⟩
  · rw [decode_array_iff hr]
    simpa [named] using hempty
  · exact hempty

end ErrorBoundary
