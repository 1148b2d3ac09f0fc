import Mathlib.Data.List.Nodup
import ErrorBoundary.Classification.Decode

/-!
# ErrorBoundary.Proofs.Classification

The names and the keys of classifications. Each tells its classification apart from all others, so
a name is read back (`named_eq_ok_iff`) and a key that a client sees belongs to one classification
(`key_injective`).
-/

namespace ErrorBoundary
namespace Classification

theorem mem_all (c : Classification) : c ∈ all := by cases c <;> decide

theorem nodup_all : all.Nodup := by decide

theorem nodup_names : (all.map name).Nodup := by decide

theorem nodup_keys : (all.map key).Nodup := by decide +kernel

theorem name_injective {c d : Classification} (h : c.name = d.name) : c = d :=
  List.inj_on_of_nodup_map nodup_names (mem_all c) (mem_all d) h

theorem key_injective {c d : Classification} (h : c.key = d.key) : c = d :=
  List.inj_on_of_nodup_map nodup_keys (mem_all c) (mem_all d) h

theorem mem_names {s : String} : s ∈ all.map name ↔ ∃ c : Classification, c.name = s := by
  constructor
  · intro h
    obtain ⟨c, _, hc⟩ := List.mem_map.mp h
    exact ⟨c, hc⟩
  · rintro ⟨c, rfl⟩
    exact List.mem_map_of_mem (mem_all c)

theorem ofName?_eq_some_iff {s : String} {c : Classification} :
    ofName? s = some c ↔ c.name = s := by
  constructor
  · intro h
    simpa using List.find?_some h
  · rintro rfl
    obtain ⟨d, hd⟩ : ∃ d, ofName? c.name = some d := by
      rw [← Option.isSome_iff_exists, ofName?, List.find?_isSome]
      exact ⟨c, mem_all c, by simp⟩
    have hname : d.name = c.name := by simpa using List.find?_some hd
    rw [hd, name_injective hname]

theorem named_eq_ok_iff {s : String} {c : Classification} : named s = .ok c ↔ c.name = s := by
  rw [← ofName?_eq_some_iff, named]
  cases ofName? s with
  | none => simp
  | some d => simp

end Classification
end ErrorBoundary
