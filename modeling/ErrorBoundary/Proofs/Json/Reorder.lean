import ErrorBoundary.Proofs.Json.RoundTrip
import ErrorBoundary.Proofs.Record

/-!
# ErrorBoundary.Proofs.Json.Reorder

One value written in several orders: the members of an object may stand in any order, at every
depth.

* `Json.Reorders v w`    — `v` is `w` with the members of its objects in an order of their own.
* `Reorders.sorted`      — the form in which the keys increase is one such order.
* `Reorders.isUnique`, `Reorders.isExact` — what holds of each part holds in any order.
* `Reorders.given`       — under each key stands the same, again in an order of its own.
-/

namespace ErrorBoundary
namespace Json

mutual

inductive Reorders : Json → Json → Prop where
  | null : Reorders .null .null
  | bool (b : Bool) : Reorders (.bool b) (.bool b)
  | number (n : Number) : Reorders (.number n) (.number n)
  | string (s : String) : Reorders (.string s) (.string s)
  | array {items items' : List Json} :
      ReordersEach items items' → Reorders (.array items) (.array items')
  | object {members inner members' : List (String × Json)} :
      members.Perm inner → ReordersUnder inner members' →
      Reorders (.object members) (.object members')

/-- Item by item. -/
inductive ReordersEach : List Json → List Json → Prop where
  | nil : ReordersEach [] []
  | cons {v v' : Json} {rest rest' : List Json} :
      Reorders v v' → ReordersEach rest rest' → ReordersEach (v :: rest) (v' :: rest')

/-- Member by member, under the same keys. -/
inductive ReordersUnder : List (String × Json) → List (String × Json) → Prop where
  | nil : ReordersUnder [] []
  | cons {k : String} {v v' : Json} {rest rest' : List (String × Json)} :
      Reorders v v' → ReordersUnder rest rest' →
      ReordersUnder ((k, v) :: rest) ((k, v') :: rest')

end

mutual

theorem Reorders.refl : ∀ v : Json, Reorders v v
  | .null => .null
  | .bool b => .bool b
  | .number n => .number n
  | .string s => .string s
  | .array items => .array (ReordersEach.refl items)
  | .object members => .object (.refl members) (ReordersUnder.refl members)

theorem ReordersEach.refl : ∀ items : List Json, ReordersEach items items
  | [] => .nil
  | v :: rest => .cons (Reorders.refl v) (ReordersEach.refl rest)

theorem ReordersUnder.refl : ∀ members : List (String × Json), ReordersUnder members members
  | [] => .nil
  | (_, v) :: rest => .cons (Reorders.refl v) (ReordersUnder.refl rest)

end

theorem ReordersUnder.keys_eq {inner members : List (String × Json)}
    (h : ReordersUnder inner members) : inner.map Prod.fst = members.map Prod.fst := by
  induction members generalizing inner with
  | nil => cases h; rfl
  | cons m rest ih =>
    cases h with
    | cons _ hrest => simp [ih hrest]

/-! ## What holds of each part -/

theorem hasExact_iff {members : List (String × Json)} :
    HasExact members ↔ ∀ m ∈ members, m.2.IsExact := by
  induction members with
  | nil => simp [HasExact]
  | cons m rest ih => simp [HasExact, ih]

mutual

theorem Reorders.isExact : ∀ {v w : Json}, Reorders v w → w.IsExact → v.IsExact
  | _, _, .null, _ => trivial
  | _, _, .bool _, _ => trivial
  | _, _, .number _, h => h
  | _, _, .string _, _ => trivial
  | _, _, .array hitems, h => ReordersEach.areExact hitems h
  | _, _, .object hperm hinner, h => by
    have hall := hasExact_iff.mp (ReordersUnder.hasExact hinner h)
    exact hasExact_iff.mpr fun m hm => hall m (hperm.mem_iff.mp hm)

theorem ReordersEach.areExact : ∀ {items items' : List Json},
    ReordersEach items items' → AreExact items' → AreExact items
  | _, _, .nil, _ => trivial
  | _, _, .cons hv hrest, h => ⟨hv.isExact h.1, hrest.areExact h.2⟩

theorem ReordersUnder.hasExact : ∀ {inner members : List (String × Json)},
    ReordersUnder inner members → HasExact members → HasExact inner
  | _, _, .nil, _ => trivial
  | _, _, .cons hv hrest, h => ⟨hv.isExact h.1, hrest.hasExact h.2⟩

end

mutual

theorem Reorders.isUnique : ∀ {v w : Json}, Reorders v w → w.IsUnique → v.IsUnique
  | _, _, .null, _ => trivial
  | _, _, .bool _, _ => trivial
  | _, _, .number _, _ => trivial
  | _, _, .string _, _ => trivial
  | _, _, .array hitems, h => ReordersEach.areUnique hitems h
  | _, _, .object hperm hinner, h => by
    obtain ⟨hkeys, hrest⟩ := h
    have hall := holdUnique_iff.mp (ReordersUnder.holdUnique hinner hrest)
    refine ⟨?_, holdUnique_iff.mpr fun m hm => hall m (hperm.mem_iff.mp hm)⟩
    rw [(hperm.map Prod.fst).nodup_iff, hinner.keys_eq]
    exact hkeys

theorem ReordersEach.areUnique : ∀ {items items' : List Json},
    ReordersEach items items' → AreUnique items' → AreUnique items
  | _, _, .nil, _ => trivial
  | _, _, .cons hv hrest, h => ⟨hv.isUnique h.1, hrest.areUnique h.2⟩

theorem ReordersUnder.holdUnique : ∀ {inner members : List (String × Json)},
    ReordersUnder inner members → HoldUnique members → HoldUnique inner
  | _, _, .nil, _ => trivial
  | _, _, .cons hv hrest, h => ⟨hv.isUnique h.1, hrest.holdUnique h.2⟩

end

/-! ## Increasing keys -/

/-- Of keys that do not repeat, all stay. -/
theorem keepLast_of_nodup {α : Type} {members : List (String × α)}
    (h : (members.map Prod.fst).Nodup) : keepLast members = members := by
  induction members with
  | nil => rfl
  | cons m rest ih =>
    rw [List.map_cons, List.nodup_cons] at h
    rw [keepLast_cons, ih h.2]
    cases rest with
    | nil => rfl
    | cons n tail =>
      have hne : m.1 ≠ n.1 := by
        intro heq
        exact h.1 (by simp [heq])
      simp [hne]

theorem perm_sortMembers {α : Type} {members : List (String × α)}
    (h : (members.map Prod.fst).Nodup) : (sortMembers members).Perm members := by
  have hperm := List.mergeSort_perm members fun a b => decide (a.1 ≤ b.1)
  rw [sortMembers, keepLast_of_nodup ((hperm.map Prod.fst).nodup_iff.mpr h)]
  exact hperm

mutual

theorem Reorders.sorted : ∀ {v : Json}, v.IsUnique → Reorders v.sorted v
  | .null, _ => .null
  | .bool b, _ => .bool b
  | .number n, _ => .number n
  | .string s, _ => .string s
  | .array items, h => .array (ReordersEach.sorted h)
  | .object members, h => by
    have hinner := ReordersUnder.sorted h.2
    have hkeys : ((sortedMembers members).map Prod.fst).Nodup := by
      rw [hinner.keys_eq]
      exact h.1
    exact .object (perm_sortMembers hkeys) hinner

theorem ReordersEach.sorted : ∀ {items : List Json}, AreUnique items →
    ReordersEach (sortedItems items) items
  | [], _ => .nil
  | _ :: _, h => .cons (Reorders.sorted h.1) (ReordersEach.sorted h.2)

theorem ReordersUnder.sorted : ∀ {members : List (String × Json)}, HoldUnique members →
    ReordersUnder (sortedMembers members) members
  | [], _ => .nil
  | (_, _) :: _, h => .cons (Reorders.sorted h.1) (ReordersUnder.sorted h.2)

end

/-! ## What stands under a key -/

theorem given_perm {members inner : List (String × Json)} (h : members.Perm inner)
    (hkeys : (members.map Prod.fst).Nodup) (name : String) :
    given members name = given inner name := by
  have hkeys' : (inner.map Prod.fst).Nodup := (h.map Prod.fst).nodup_iff.mp hkeys
  apply Option.ext
  intro v
  rw [given_eq_some_iff hkeys, given_eq_some_iff hkeys', h.mem_iff]

theorem ReordersUnder.given {inner members : List (String × Json)} (h : ReordersUnder inner members)
    (name : String) : Option.Rel Reorders (given inner name) (given members name) := by
  induction members generalizing inner with
  | nil =>
    cases h
    exact .none
  | cons m rest ih =>
    cases h with
    | @cons k v v' rest' _ hv hrest =>
      by_cases hk : name = k
      · subst hk
        rw [given_cons_self, given_cons_self]
        exact .some hv
      · rw [given_cons_of_ne hk, given_cons_of_ne hk]
        exact ih hrest

/-- An object in another order is an object that gives the same under each key. -/
theorem Reorders.given {v : Json} {members : List (String × Json)}
    (h : Reorders v (.object members)) (hkeys : (members.map Prod.fst).Nodup) :
    ∃ members', v = .object members' ∧
      ∀ name, Option.Rel Reorders (Json.given members' name) (Json.given members name) := by
  cases h with
  | @object members' inner _ hperm hinner =>
    have hkeys' : (members'.map Prod.fst).Nodup := by
      rw [(hperm.map Prod.fst).nodup_iff, hinner.keys_eq]
      exact hkeys
    refine ⟨members', rfl, fun name => ?_⟩
    rw [given_perm hperm hkeys']
    exact hinner.given name

end Json
end ErrorBoundary
