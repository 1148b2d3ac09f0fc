import ErrorBoundary.Toml.Document

/-!
# ErrorBoundary.Proofs.Toml.Tables

What the tables of a document tell while it is read: which values stand at which paths. A header
adds none, and a value is added at the path of the open table and its own keys
(`TomlNode.tells_within`).

* `Toml.Tells`     — all that a value told, table by table.
* `TomlNode.Tells` — the same of what stands under a key.
-/

namespace ErrorBoundary

/-! ## Values -/

namespace Toml

/-- At the end of the way `p` stands `x?`: a value that is no table, or none. On the way no table
repeats a key. -/
def Holds : List String → Toml → Option Toml → Prop
  | [], .table _, x? => x? = none
  | [], v, x? => x? = some v
  | key :: p, .table members, x? => (members.map Prod.fst).Nodup ∧
      match Members.find? key members with
      | none => x? = none
      | some v => Holds p v x?
  | _ :: _, _, x? => x? = none

/-- `told` are the values that stand in it, with their paths. -/
def Tells (v : Toml) (told : List String → Toml → Prop) : Prop :=
  ∀ p, ∃ x?, v.Holds p x? ∧ ∀ x, x? = some x ↔ told p x

theorem Tells.congr {v : Toml} {told told' : List String → Toml → Prop} (h : v.Tells told)
    (htold : ∀ p x, told' p x ↔ told p x) : v.Tells told' := by
  intro p
  obtain ⟨x?, hholds, hx⟩ := h p
  exact ⟨x?, hholds, fun x => (hx x).trans (htold p x).symm⟩

/-- A value that is no table stands where it stands, and nothing stands below it. -/
theorem tells_scalar {v : Toml} (h : ∀ members, v ≠ .table members) :
    v.Tells fun p x => p = [] ∧ x = v := by
  intro p
  cases p with
  | nil =>
    refine ⟨some v, ?_, fun x => by simp [eq_comm]⟩
    cases v with
    | table members => exact absurd rfl (h members)
    | _ => rfl
  | cons key p =>
    refine ⟨none, ?_, fun x => by simp⟩
    cases v with
    | table members => exact absurd rfl (h members)
    | _ => rfl

end Toml

namespace TomlNode

/-! ## What is still being written -/

/-- The same of what stands under a key, where no array of tables does. -/
def Holds : List String → Option TomlNode → Option Toml → Prop
  | _, none, x? => x? = none
  | p, some (.value v), x? => v.Holds p x?
  | [], some (.table _ _), x? => x? = none
  | key :: p, some (.table _ members), x? => (members.map Prod.fst).Nodup ∧
      Holds p (Members.find? key members) x?
  | _, some (.tables _ _), _ => False

def Tells (node? : Option TomlNode) (told : List String → Toml → Prop) : Prop :=
  ∀ p, ∃ x?, Holds p node? x? ∧ ∀ x, x? = some x ↔ told p x

section Tells

variable {told told' new : List String → Toml → Prop} {members members' : Members TomlNode}
  {origin origin' : TableOrigin} {key : String} {node : TomlNode} {v : Toml}

theorem Tells.congr {node? : Option TomlNode} (h : Tells node? told)
    (htold : ∀ p x, told' p x ↔ told p x) : Tells node? told' := by
  intro p
  obtain ⟨x?, hholds, hx⟩ := h p
  exact ⟨x?, hholds, fun x => (hx x).trans (htold p x).symm⟩

theorem holds_value {p : List String} {x? : Option Toml} :
    Holds p (some (.value v)) x? ↔ v.Holds p x? := by
  cases p <;> exact Iff.rfl

theorem tells_value (h : v.Tells told) : Tells (some (.value v)) told := by
  intro p
  obtain ⟨x?, hholds, hx⟩ := h p
  exact ⟨x?, holds_value.mpr hholds, hx⟩

/-- How a table was made does not matter. -/
theorem Tells.changeOrigin (h : Tells (some (.table origin members)) told) :
    Tells (some (.table origin' members)) told := by
  intro p
  obtain ⟨x?, hholds, hx⟩ := h p
  refine ⟨x?, ?_, hx⟩
  cases p with
  | nil => exact hholds
  | cons key p => exact hholds

theorem not_told_of_none (h : Tells none told) (p : List String) (x : Toml) : ¬ told p x := by
  obtain ⟨x?, hholds, hx⟩ := h p
  have hnone : x? = none := by
    cases p <;> exact hholds
  intro htold
  rw [hnone] at hx
  cases (hx x).mpr htold

theorem tells_empty : Tells (some (.table origin [])) fun _ _ => False := by
  intro p
  cases p with
  | nil => exact ⟨none, rfl, by simp⟩
  | cons key p => exact ⟨none, ⟨List.nodup_nil, by cases p <;> rfl⟩, by simp⟩

/-- A table that is made now has nothing in it. -/
theorem tells_new (h : Tells none told) : Tells (some (.table origin [])) told :=
  tells_empty.congr fun p x => ⟨not_told_of_none h p x, False.elim⟩

theorem not_tells_tables {earlier : List Toml} {last : Members TomlNode} :
    ¬ Tells (some (.tables earlier last)) told := by
  intro h
  obtain ⟨x?, hholds, _⟩ := h []
  exact hholds

theorem Tells.member (h : Tells (some (.table origin members)) told) (key : String) :
    Tells (Members.find? key members) fun p => told (key :: p) := by
  intro p
  obtain ⟨x?, ⟨_, hholds⟩, hx⟩ := h (key :: p)
  exact ⟨x?, hholds, hx⟩

theorem Tells.nodup (h : Tells (some (.table origin members)) told) :
    (members.map Prod.fst).Nodup := by
  obtain ⟨_, ⟨hnodup, _⟩, _⟩ := h [""]
  exact hnodup

/-- What is written under a key takes the place of what stood there. -/
theorem Tells.put (h : Tells (some (.table origin members)) told) (hnode : Tells (some node) new)
    (hself : ∀ p x, told' (key :: p) x ↔ new p x)
    (hother : ∀ p x, p.head? ≠ some key → (told' p x ↔ told p x)) :
    Tells (some (.table origin' (Members.put key node members))) told' := by
  intro p
  cases p with
  | nil =>
    obtain ⟨x?, hholds, hx⟩ := h []
    exact ⟨x?, hholds, fun x => (hx x).trans (hother [] x (by simp)).symm⟩
  | cons key' p =>
    have hnodup : ((Members.put key node members).map Prod.fst).Nodup :=
      Members.nodup_keys_put h.nodup
    by_cases hkey : key' = key
    · subst hkey
      obtain ⟨x?, hholds, hx⟩ := hnode p
      refine ⟨x?, ⟨hnodup, ?_⟩, fun x => (hx x).trans (hself p x).symm⟩
      rwa [Members.find?_put_self]
    · obtain ⟨x?, ⟨_, hholds⟩, hx⟩ := h (key' :: p)
      have hhead : (key' :: p).head? ≠ some key := by simpa using hkey
      refine ⟨x?, ⟨hnodup, ?_⟩, fun x => (hx x).trans (hother _ x hhead).symm⟩
      rwa [Members.find?_put_of_ne hkey]

/-! ## Writing -/

/-- A change to the table at the end of a path adds below the path what it adds to that table. -/
theorem tells_within {dotted : Bool} {change : Members TomlNode → Option (Members TomlNode)}
    {added : List String → Toml → Prop} {path : List String}
    (h : Tells (some (.table origin members)) told)
    (hchange : ∀ {told origin inner inner'}, Tells (some (.table origin inner)) told →
      change inner = some inner' →
        Tells (some (.table origin inner')) fun p x => told p x ∨ added p x)
    (hmembers : within dotted change path members = some members') :
    Tells (some (.table origin members')) fun p x =>
      told p x ∨ ∃ q, p = path ++ q ∧ added q x := by
  induction path generalizing told origin members members' with
  | nil =>
    refine (hchange h hmembers).congr fun p x => ?_
    simp
  | cons key path ih =>
    have hself : ∀ p x, (told (key :: p) x ∨ ∃ q, key :: p = key :: path ++ q ∧ added q x) ↔
        told (key :: p) x ∨ ∃ q, p = path ++ q ∧ added q x := by
      intro p x
      simp
    have hother : ∀ (p : List String) (x : Toml), p.head? ≠ some key →
        ((told p x ∨ ∃ q, p = key :: path ++ q ∧ added q x) ↔ told p x) := by
      intro p x hp
      refine ⟨fun htold => htold.resolve_right ?_, .inl⟩
      rintro ⟨q, rfl, _⟩
      exact hp rfl
    have hmember := h.member key
    rw [within] at hmembers
    cases hfind : Members.find? key members with
    | none =>
      rw [hfind] at hmembers hmember
      obtain ⟨inner, hinner, rfl⟩ := Option.map_eq_some_iff.mp hmembers
      have hnew : Tells (some (.table .implied [])) _ := tells_new hmember
      exact h.put (ih hnew hinner).changeOrigin hself hother
    | some node =>
      rw [hfind] at hmembers hmember
      cases node with
      | value v => cases hmembers
      | tables earlier last => exact absurd hmember not_tells_tables
      | table origin' inner =>
        simp only at hmembers
        split at hmembers
        · cases hmembers
        · obtain ⟨inner', hinner, rfl⟩ := Option.map_eq_some_iff.mp hmembers
          exact h.put (ih hmember hinner).changeOrigin hself hother

/-- A dotted key adds its value. -/
theorem tells_assign {path : List String} (h : Tells (some (.table origin members)) told)
    (hv : v.Tells new) (hmembers : assign path key v members = some members') :
    Tells (some (.table origin members')) fun p x =>
      told p x ∨ ∃ q, p = path ++ key :: q ∧ new q x := by
  have hchange : ∀ {told origin inner inner'}, Tells (some (.table origin inner)) told →
      (if (Members.find? key inner).isSome then none
        else some (Members.put key (.value v) inner)) = some inner' →
        Tells (some (.table origin inner')) fun p x =>
          told p x ∨ ∃ q, p = key :: q ∧ new q x := by
    intro told origin inner inner' h hput
    split at hput
    · cases hput
    · rename_i hnone
      cases hput
      have hmember := h.member key
      rw [Option.not_isSome_iff_eq_none.mp hnone] at hmember
      refine h.put (tells_value hv) ?_ ?_
      · intro p x
        simp [not_told_of_none hmember p x]
      · intro p x hp
        refine ⟨fun htold => htold.resolve_right ?_, .inl⟩
        rintro ⟨q, rfl, _⟩
        exact hp rfl
  refine (tells_within h hchange hmembers).congr fun p x => or_congr_right ?_
  constructor
  · rintro ⟨q, rfl, hq⟩
    exact ⟨key :: q, rfl, q, rfl, hq⟩
  · rintro ⟨_, rfl, q, rfl, hq⟩
    exact ⟨q, rfl, hq⟩

/-- A header adds no value. -/
theorem tells_openTable {path : List String} (h : Tells (some (.table origin members)) told)
    (hmembers : openTable path key members = some members') :
    Tells (some (.table origin members')) told := by
  have hadded : Tells (some (.table origin members')) fun p x =>
      told p x ∨ ∃ q, p = path ++ q ∧ False := by
    refine tells_within h ?_ hmembers
    intro told origin inner inner' h hput
    have hmember := h.member key
    split at hput
    · rename_i hfind
      cases hput
      rw [hfind] at hmember
      exact h.put (tells_new hmember) (by simp) (by simp)
    · rename_i below hfind
      cases hput
      rw [hfind] at hmember
      exact h.put hmember.changeOrigin (by simp) (by simp)
    · cases hput
  exact hadded.congr fun p x => by simp

end Tells

/-! ## The finished table -/

theorem find?_sealMembers (key : String) (members : Members TomlNode) :
    Members.find? key (sealMembers members) = (Members.find? key members).map toToml := by
  induction members with
  | nil => rfl
  | cons m rest ih =>
    obtain ⟨name, node⟩ := m
    rw [sealMembers, Members.find?, Members.find?]
    split
    · rfl
    · exact ih

theorem keys_sealMembers (members : Members TomlNode) :
    (sealMembers members).map Prod.fst = members.map Prod.fst := by
  induction members with
  | nil => rfl
  | cons m rest ih =>
    obtain ⟨name, node⟩ := m
    rw [sealMembers, List.map_cons, List.map_cons, ih]

theorem holds_toToml {p : List String} {node : TomlNode} {x? : Option Toml}
    (h : Holds p (some node) x?) : node.toToml.Holds p x? := by
  induction p generalizing node with
  | nil =>
    cases node with
    | value v => exact h
    | tables earlier last => exact h.elim
    | table origin members => exact h
  | cons key p ih =>
    cases node with
    | value v => exact h
    | tables earlier last => exact h.elim
    | table origin members =>
      obtain ⟨hnodup, hmember⟩ := h
      refine ⟨by rwa [keys_sealMembers], ?_⟩
      rw [find?_sealMembers]
      cases hfind : Members.find? key members with
      | none =>
        rw [hfind] at hmember
        cases p <;> exact hmember
      | some node =>
        rw [hfind] at hmember
        exact ih hmember

/-- A finished table tells what it told while it was written. -/
theorem tells_sealMembers {origin : TableOrigin} {members : Members TomlNode}
    {told : List String → Toml → Prop} (h : Tells (some (.table origin members)) told) :
    (Toml.table (sealMembers members)).Tells told := by
  intro p
  obtain ⟨x?, hholds, hx⟩ := h p
  exact ⟨x?, holds_toToml hholds, hx⟩

/-! ## The keys of the top level -/

/-- Only keys that a change or its path name come to a table. -/
theorem keys_within {dotted : Bool} {change : Members TomlNode → Option (Members TomlNode)}
    {path : List String} {members members' : Members TomlNode} {P : String → Prop}
    (hmembers : within dotted change path members = some members')
    (h : ∀ key ∈ members.map Prod.fst, P key) (hpath : ∀ key ∈ path, P key)
    (hchange : ∀ inner inner', change inner = some inner' → (∀ key ∈ inner.map Prod.fst, P key) →
      ∀ key ∈ inner'.map Prod.fst, P key) : ∀ key ∈ members'.map Prod.fst, P key := by
  have hput : ∀ {name : String} (node : TomlNode), P name →
      ∀ key ∈ (Members.put name node members).map Prod.fst, P key := by
    intro name node hname key hkey
    rw [Members.keys_put] at hkey
    split at hkey
    · exact h key hkey
    · rcases List.mem_append.mp hkey with hkey | hkey
      · exact h key hkey
      · rwa [List.mem_singleton.mp hkey]
  cases path with
  | nil => exact hchange _ _ hmembers h
  | cons name path =>
    have hname := hpath name List.mem_cons_self
    rw [within] at hmembers
    split at hmembers
    · obtain ⟨inner, _, rfl⟩ := Option.map_eq_some_iff.mp hmembers
      exact hput _ hname
    · split at hmembers
      · cases hmembers
      · obtain ⟨inner, _, rfl⟩ := Option.map_eq_some_iff.mp hmembers
        exact hput _ hname
    · split at hmembers
      · cases hmembers
      · obtain ⟨inner, _, rfl⟩ := Option.map_eq_some_iff.mp hmembers
        exact hput _ hname
    · cases hmembers

end TomlNode
end ErrorBoundary
