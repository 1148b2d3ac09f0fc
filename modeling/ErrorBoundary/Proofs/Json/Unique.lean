import Mathlib.Data.String.Basic
import ErrorBoundary.Json.Reader

/-!
# ErrorBoundary.Proofs.Json.Unique

Values in which no object names a key twice. Every value that is read from a text is one
(`Json.isUnique_ofText`): where the text repeats a key, the last of its members stays.
-/

namespace ErrorBoundary
namespace Json

mutual

/-- Every object in the value names each of its keys once. -/
def IsUnique : Json → Prop
  | .array items => AreUnique items
  | .object members => (members.map Prod.fst).Nodup ∧ HoldUnique members
  | _ => True

def AreUnique : List Json → Prop
  | [] => True
  | v :: rest => IsUnique v ∧ AreUnique rest

def HoldUnique : List (String × Json) → Prop
  | [] => True
  | (_, v) :: rest => IsUnique v ∧ HoldUnique rest

end

theorem areUnique_iff {items : List Json} : AreUnique items ↔ ∀ v ∈ items, v.IsUnique := by
  induction items with
  | nil => simp [AreUnique]
  | cons v rest ih => simp [AreUnique, ih]

theorem holdUnique_iff {members : List (String × Json)} :
    HoldUnique members ↔ ∀ m ∈ members, m.2.IsUnique := by
  induction members with
  | nil => simp [HoldUnique]
  | cons m rest ih => simp [HoldUnique, ih]

/-! ## Sorted members -/

section Sorted

variable {α : Type}

theorem keepLast_cons (m : String × α) (rest : List (String × α)) :
    keepLast (m :: rest) = match keepLast rest with
      | n :: tail => if m.1 = n.1 then n :: tail else m :: n :: tail
      | [] => [m] := by
  show (match keepLast rest with
    | n :: _ => if m.1 = n.1 then keepLast rest else m :: keepLast rest
    | [] => [m]) = _
  cases keepLast rest with
  | nil => rfl
  | cons n tail => rfl

theorem mem_of_mem_keepLast {m : String × α} {members : List (String × α)}
    (h : m ∈ keepLast members) : m ∈ members := by
  induction members with
  | nil => exact h
  | cons k rest ih =>
    rw [keepLast_cons] at h
    cases hrest : keepLast rest with
    | nil =>
      rw [hrest] at h
      rw [List.mem_singleton.mp h]
      exact List.mem_cons_self
    | cons n tail =>
      simp only [hrest] at h ih
      split at h
      · exact List.mem_cons_of_mem k (ih h)
      · rcases List.mem_cons.mp h with rfl | h
        · exact List.mem_cons_self
        · exact List.mem_cons_of_mem k (ih h)

/-- Where the keys do not decrease, those that stay increase. -/
theorem pairwise_keepLast {members : List (String × α)}
    (h : members.Pairwise fun a b => a.1 ≤ b.1) :
    (keepLast members).Pairwise fun a b => a.1 < b.1 := by
  induction members with
  | nil => exact .nil
  | cons m rest ih =>
    obtain ⟨hm, hrest⟩ := List.pairwise_cons.mp h
    have hkept := ih hrest
    rw [keepLast_cons]
    cases hk : keepLast rest with
    | nil => exact List.pairwise_singleton _ m
    | cons n tail =>
      rw [hk] at hkept
      show (if m.1 = n.1 then n :: tail else m :: n :: tail).Pairwise _
      split
      · exact hkept
      · rename_i hne
        have hn : m.1 < n.1 := by
          have hmem : n ∈ rest := mem_of_mem_keepLast (hk ▸ List.mem_cons_self)
          exact lt_of_le_of_ne (hm n hmem) hne
        refine List.pairwise_cons.mpr ⟨?_, hkept⟩
        intro k hk'
        rcases List.mem_cons.mp hk' with rfl | hk'
        · exact hn
        · exact lt_trans hn ((List.pairwise_cons.mp hkept).1 k hk')

theorem mem_of_mem_sortMembers {m : String × α} {members : List (String × α)}
    (h : m ∈ sortMembers members) : m ∈ members :=
  List.mem_mergeSort.mp (mem_of_mem_keepLast h)

theorem nodup_sortMembers (members : List (String × α)) :
    ((sortMembers members).map Prod.fst).Nodup := by
  have htrans : ∀ a b c : String × α, decide (a.1 ≤ b.1) = true → decide (b.1 ≤ c.1) = true →
      decide (a.1 ≤ c.1) = true := by
    simp only [decide_eq_true_eq]
    exact fun a b c => le_trans
  have htotal : ∀ a b : String × α, (decide (a.1 ≤ b.1) || decide (b.1 ≤ a.1)) = true := by
    simp only [Bool.or_eq_true, decide_eq_true_eq]
    exact fun a b => le_total a.1 b.1
  have hsorted := (List.pairwise_mergeSort htrans htotal members).imp of_decide_eq_true
  rw [List.Nodup, List.pairwise_map]
  exact (pairwise_keepLast hsorted).imp ne_of_lt

end Sorted

/-! ## Reading -/

end Json

namespace Draft

mutual

theorem isUnique_of_readWithin : ∀ (depth : Nat) (d : Draft) {v : Json},
    d.readWithin depth = .ok v → v.IsUnique
  | _, .null, v, h => by cases h; trivial
  | _, .bool b, v, h => by cases h; trivial
  | _, .number (.ok n), v, h => by cases h; trivial
  | _, .number (.error f), v, h => by cases h
  | _, .string (.ok s), v, h => by cases h; trivial
  | _, .string (.error f), v, h => by cases h
  | 0, .array items stop, v, h => by cases h
  | depth + 1, .array items stop, v, h => by
    simp only [readWithin] at h
    split at h
    · cases h
    · rename_i vs hvs
      split at h
      · cases h
      · cases h
        have hnil : Json.AreUnique [] := trivial
        exact areUnique_of_readItems depth items hnil hvs
  | 0, .object members stop, v, h => by cases h
  | depth + 1, .object members stop, v, h => by
    simp only [readWithin] at h
    split at h
    · cases h
    · rename_i ms hms
      split at h
      · cases h
      · cases h
        have hnil : Json.HoldUnique [] := trivial
        have hall := holdUnique_of_readMembers depth members hnil hms
        refine ⟨Json.nodup_sortMembers ms, Json.holdUnique_iff.mpr fun m hm => ?_⟩
        exact Json.holdUnique_iff.mp hall m (Json.mem_of_mem_sortMembers hm)
  | _, .word stop, v, h => by cases h
  | _, .broken stop, v, h => by cases h

theorem areUnique_of_readItems : ∀ (depth : Nat) (items : List Draft) {done vs : List Json},
    Json.AreUnique done → readItems depth done items = .ok vs → Json.AreUnique vs
  | depth, [], done, vs, hdone, h => by
    cases h
    rw [Json.areUnique_iff] at hdone ⊢
    intro v hv
    exact hdone v (List.mem_reverse.mp hv)
  | depth, d :: rest, done, vs, hdone, h => by
    simp only [readItems] at h
    split at h
    · cases h
    · rename_i v hv
      have hnext : Json.AreUnique (v :: done) := ⟨isUnique_of_readWithin depth d hv, hdone⟩
      exact areUnique_of_readItems depth rest hnext h

theorem holdUnique_of_readMembers : ∀ (depth : Nat)
    (members : List (Except Fault String × Draft)) {done ms : List (String × Json)},
    Json.HoldUnique done → readMembers depth done members = .ok ms → Json.HoldUnique ms
  | depth, [], done, ms, hdone, h => by
    cases h
    rw [Json.holdUnique_iff] at hdone ⊢
    intro m hm
    exact hdone m (List.mem_reverse.mp hm)
  | depth, (.error f, d) :: rest, done, ms, hdone, h => by cases h
  | depth, (.ok k, d) :: rest, done, ms, hdone, h => by
    simp only [readMembers] at h
    split at h
    · cases h
    · rename_i v hv
      have hnext : Json.HoldUnique ((k, v) :: done) :=
        ⟨isUnique_of_readWithin depth d hv, hdone⟩
      exact holdUnique_of_readMembers depth rest hnext h

end

end Draft

/-- However often a text repeats a key, its value does not. -/
theorem Json.isUnique_ofText {s : String} {v : Json} (h : Json.ofText s = .ok v) : v.IsUnique := by
  unfold Json.ofText Document.read at h
  split at h
  · cases h
  · rename_i w hw
    split at h
    · cases h
    · cases h
      exact Draft.isUnique_of_readWithin Draft.maxDepth _ hw

end ErrorBoundary
