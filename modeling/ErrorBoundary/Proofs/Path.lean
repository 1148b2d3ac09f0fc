import ErrorBoundary.Config.Path
import ErrorBoundary.Proofs.Toml.Layout

/-!
# ErrorBoundary.Proofs.Path

Keys that are paths. Names with points between them are the steps to a setting
(`Step.ofText_dotted`), and one name is one step.
-/

namespace ErrorBoundary
namespace Step

open Toml (IsName)

/-- Names with points between them. -/
def dotted : List String → List Char
  | [] => []
  | [name] => name.toList
  | name :: names => name.toList ++ '.' :: dotted names

section

variable {done : List Step} {cs acc rest : List Char} {name s : String} {names : List String}

/-- The characters of a name are kept until it ends. -/
theorem read?_nameChars (h : ∀ c ∈ cs, Toml.isKeyChar c = true) :
    read? ⟨.name acc, done⟩ (cs ++ rest) = read? ⟨.name (cs.reverse ++ acc), done⟩ rest := by
  induction cs generalizing acc with
  | nil => rfl
  | cons c cs ih =>
    have hc : isNameChar c = true := h c List.mem_cons_self
    have hacc : (c :: cs).reverse ++ acc = cs.reverse ++ c :: acc := by
      rw [List.reverse_cons, List.append_assoc, List.singleton_append]
    rw [List.cons_append, read?, step?]
    simp only [if_pos hc, Option.bind_some]
    rw [ih fun d hd => h d (List.mem_cons_of_mem c hd), hacc]

theorem read?_name (h : IsName name.toList) :
    read? ⟨.start, done⟩ (name.toList ++ rest) = read? ⟨.name name.toList.reverse, done⟩ rest := by
  cases hcs : name.toList with
  | nil => exact absurd hcs h.ne_nil
  | cons c cs =>
    have hc : isNameChar c = true := h.isKeyChar c (hcs ▸ List.mem_cons_self)
    have hrest : ∀ d ∈ cs, Toml.isKeyChar d = true := fun d hd =>
      h.isKeyChar d (hcs ▸ List.mem_cons_of_mem c hd)
    rw [List.cons_append, read?, step?]
    simp only [if_pos hc, Option.bind_some]
    rw [read?_nameChars hrest, List.reverse_cons]

theorem read?_dotted (h : ∀ name ∈ names, IsName name.toList) (hne : names ≠ []) :
    read? ⟨.start, done⟩ (dotted names) = some (done.reverse ++ names.map .key) := by
  induction names generalizing done with
  | nil => exact absurd rfl hne
  | cons name names ih =>
    have hname := h name List.mem_cons_self
    cases names with
    | nil =>
      have hread := @read?_name done [] name hname
      rw [List.append_nil] at hread
      have hfinish : finish? ⟨.name name.toList.reverse, done⟩ =
          some (.key name :: done).reverse := by
        simp only [finish?, List.reverse_reverse, String.ofList_toList]
      rw [dotted, hread, read?, hfinish, List.reverse_cons]
      rfl
    | cons name' names =>
      have hrest : ∀ n ∈ name' :: names, IsName n.toList := fun n hn =>
        h n (List.mem_cons_of_mem name hn)
      have hstep : step? ⟨.name name.toList.reverse, done⟩ '.' =
          some ⟨.start, .key name :: done⟩ := by
        rw [step?]
        simp only [List.reverse_reverse, String.ofList_toList]
        rfl
      rw [dotted, read?_name hname, read?, hstep, Option.bind_some,
        ih hrest (List.cons_ne_nil name' names), List.reverse_cons, List.append_assoc]
      · rfl
      · simp

theorem ofText_dotted (h : ∀ name ∈ names, IsName name.toList) (hne : names ≠ [])
    (hs : s.toList = dotted names) : ofText s = names.map .key := by
  rw [ofText, ofText?, hs, read?_dotted h hne]
  rfl

theorem ofText_name (h : IsName name.toList) : ofText name = [.key name] :=
  ofText_dotted (by simpa using h) (List.cons_ne_nil name []) rfl

end

end Step
end ErrorBoundary
