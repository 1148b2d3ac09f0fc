/-!
# ErrorBoundary.Members

What stands under keys, in the order in which the keys first came. A key stands once when all
members have been written by `Members.put`.
-/

namespace ErrorBoundary

abbrev Members (α : Type) := List (String × α)

namespace Members

def find? (key : String) : Members α → Option α
  | [] => none
  | (k, a) :: rest => if k = key then some a else find? key rest

/-- Writes under a key: in place, or at the end when the key is new. -/
def put (key : String) (a : α) : Members α → Members α
  | [] => [(key, a)]
  | (k, b) :: rest => if k = key then (k, a) :: rest else (k, b) :: put key a rest

@[simp] theorem find?_put_self (key : String) (a : α) (members : Members α) :
    find? key (put key a members) = some a := by
  induction members with
  | nil => simp [put, find?]
  | cons m rest ih => by_cases h : m.1 = key <;> simp [put, find?, h, ih]

theorem find?_put_of_ne {key other : String} (h : other ≠ key) (a : α) (members : Members α) :
    find? other (put key a members) = find? other members := by
  induction members with
  | nil => simp [put, find?, Ne.symm h]
  | cons m rest ih =>
    obtain ⟨k, b⟩ := m
    by_cases hk : k = key
    · subst hk
      simp [put, find?, Ne.symm h]
    · simp only [put, if_neg hk, find?, ih]

theorem find?_eq_none {key : String} {members : Members α}
    (h : key ∉ members.map Prod.fst) : find? key members = none := by
  induction members with
  | nil => rfl
  | cons m rest ih =>
    obtain ⟨k, a⟩ := m
    rw [List.map_cons, List.mem_cons, not_or] at h
    rw [find?, if_neg (Ne.symm h.1), ih h.2]

theorem find?_of_mem {members : Members α} {key : String} {a : α}
    (hnodup : (members.map Prod.fst).Nodup) (h : (key, a) ∈ members) :
    find? key members = some a := by
  induction members with
  | nil => cases h
  | cons m rest ih =>
    obtain ⟨k, b⟩ := m
    rw [List.map_cons, List.nodup_cons] at hnodup
    rcases List.mem_cons.mp h with heq | h
    · cases heq
      exact if_pos rfl
    · have hkey : k ≠ key := by
        rintro rfl
        exact hnodup.1 (List.mem_map.mpr ⟨_, h, rfl⟩)
      rw [find?, if_neg hkey, ih hnodup.2 h]

theorem keys_put (key : String) (a : α) (members : Members α) :
    (put key a members).map Prod.fst =
      if key ∈ members.map Prod.fst then members.map Prod.fst
      else members.map Prod.fst ++ [key] := by
  induction members with
  | nil => rfl
  | cons m rest ih =>
    obtain ⟨k, b⟩ := m
    by_cases hk : k = key
    · simp [put, hk]
    · have hk' : key ≠ k := Ne.symm hk
      simp only [put, if_neg hk, List.map_cons, ih, List.mem_cons, hk', false_or]
      split <;> rfl

theorem nodup_keys_put {key : String} {a : α} {members : Members α}
    (h : (members.map Prod.fst).Nodup) : ((put key a members).map Prod.fst).Nodup := by
  rw [keys_put]
  split
  · exact h
  · rename_i hkey
    rw [List.nodup_append]
    refine ⟨h, List.pairwise_singleton _ key, fun k hk k' hk' heq => ?_⟩
    rw [List.mem_singleton.mp hk'] at heq
    exact hkey (heq ▸ hk)

end Members
end ErrorBoundary
