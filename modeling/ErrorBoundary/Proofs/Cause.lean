import Mathlib.Data.List.Chain
import ErrorBoundary.Failure.Cause

/-!
# ErrorBoundary.Proofs.Cause

The walk along the causes of an error, against the recursion on the error.

* `walk_eq_chain`  — the walk comes to the chain; `rootCause_text`: its last element shows the
  innermost text. Wrapping an error puts texts in front of its own (`texts_wrapIn`) and leaves the
  last one (`getLast?_texts`, `innermost_wrapIn`).
* `Cause.Walks`    — the walk as a loop, round by round. It always ends, and with the chain
  (`walks_iff`).
* `Cause.depth`    — how many causes an error has.
* `Cause.walk_follows_sources` — what the walk goes through and where it ends.
-/

namespace ErrorBoundary
namespace Cause

/-- The text at the inner end. -/
def innermost : Cause → String
  | .root t => t
  | .because _ s => innermost s

/-- The invariant of the walk: what was seen, in order, and then the chain of what is left. -/
theorem walkFrom_eq (seen : List Cause) (e : Cause) :
    walkFrom seen e = seen.reverse ++ e.chain := by
  induction e generalizing seen with
  | root t => simp [walkFrom, chain]
  | because t s ih => simp [walkFrom, chain, ih]

theorem walk_eq_chain (e : Cause) : e.walk = e.chain := by
  simp [walk, walkFrom_eq]

theorem getLast?_chain (e : Cause) : e.chain.getLast? = some (.root e.innermost) := by
  induction e with
  | root t => rfl
  | because t s ih =>
    rw [chain, List.getLast?_cons, ih]
    rfl

theorem rootCause_eq (e : Cause) : e.rootCause = .root e.innermost := by
  rw [rootCause, walk_eq_chain, getLast?_chain]
  rfl

@[simp] theorem rootCause_text (e : Cause) : e.rootCause.text = e.innermost := by
  rw [rootCause_eq]
  rfl

/-- Wrappers do not reach the inner end. -/
@[simp] theorem innermost_wrapIn (texts : List String) (e : Cause) :
    (wrapIn texts e).innermost = e.innermost := by
  induction texts with
  | nil => rfl
  | cons t texts ih => exact ih

theorem texts_eq (e : Cause) : e.texts = e.chain.map text := by
  rw [texts, walk_eq_chain]

theorem texts_wrapIn (ts : List String) (e : Cause) : (wrapIn ts e).texts = ts ++ e.texts := by
  simp only [texts_eq]
  induction ts with
  | nil => rfl
  | cons t ts ih =>
    show t :: (wrapIn ts e).chain.map text = _
    rw [ih]
    rfl

theorem getLast?_texts (e : Cause) : e.texts.getLast? = some e.innermost := by
  rw [texts_eq, List.getLast?_map, getLast?_chain]
  rfl

/-- Every cause of an error comes to the same end. -/
theorem innermost_of_mem_walk {e x : Cause} (h : x ∈ e.walk) : x.innermost = e.innermost := by
  rw [walk_eq_chain] at h
  induction e with
  | root t =>
    obtain rfl := List.mem_singleton.mp h
    rfl
  | because t s ih =>
    obtain rfl | h := List.mem_cons.mp h
    · rfl
    · exact ih h

/-! ## The loop -/

/-- The rounds of the walk. `seen` is what has been gone through, up to the error at hand; a round
goes to the source of that one, and without a source the walk ends with what was seen. -/
inductive Walks : List Cause → Cause → List Cause → Prop where
  | done {seen : List Cause} {e : Cause} : e.source? = none → Walks seen e seen
  | next {seen all : List Cause} {e s : Cause} :
      e.source? = some s → Walks (seen ++ [s]) s all → Walks seen e all

/-- A walk that has come as far as `e` goes on to the end of the chain of `e`. -/
theorem walks_chain (before : List Cause) (e : Cause) :
    Walks (before ++ [e]) e (before ++ e.chain) := by
  induction e generalizing before with
  | root t => exact .done rfl
  | because t s ih =>
    have hrest := ih (before ++ [.because t s])
    have hall : before ++ [.because t s] ++ s.chain = before ++ (because t s).chain := by
      rw [List.append_assoc]
      rfl
    rw [hall] at hrest
    exact .next rfl hrest

/-- Every round is forced, so there is one end only. -/
theorem Walks.unique {seen all all' : List Cause} {e : Cause} (h : Walks seen e all)
    (h' : Walks seen e all') : all = all' := by
  induction h with
  | done hnone =>
    cases h' with
    | done _ => rfl
    | next hsome _ =>
      rw [hnone] at hsome
      cases hsome
  | next hsome _ ih =>
    cases h' with
    | done hnone =>
      rw [hnone] at hsome
      cases hsome
    | next hsome' hrest =>
      rw [hsome] at hsome'
      cases hsome'
      exact ih hrest

theorem walks_iff {e : Cause} {all : List Cause} : Walks [e] e all ↔ all = e.walk := by
  have hwalk : Walks [e] e e.walk := by
    rw [walk_eq_chain]
    exact walks_chain [] e
  constructor
  · intro h
    exact h.unique hwalk
  · rintro rfl
    exact hwalk

/-! ## What the walk goes through -/

/-- How many causes an error has. -/
def depth : Cause → Nat
  | .root _ => 0
  | .because _ s => s.depth + 1

/-- The error itself, then the walk of its source. -/
theorem walk_eq_cons (e : Cause) : e.walk = e :: (e.source?.map walk).getD [] := by
  cases e with
  | root t => rfl
  | because t s =>
    show _ = _ :: s.walk
    rw [walk_eq_chain, walk_eq_chain]
    rfl

/-- The text of an error, and then the texts of its source. -/
theorem texts_eq_cons (e : Cause) : e.texts = e.text :: (e.source?.map texts).getD [] := by
  rw [texts, walk_eq_cons]
  cases e <;> rfl

@[simp] theorem text_ofSource (t : String) (source : Option Cause) :
    (ofSource t source).text = t := by
  cases source <;> rfl

@[simp] theorem texts_ofSource (t : String) (source : Option Cause) :
    (ofSource t source).texts = t :: (source.map texts).getD [] := by
  rw [texts_eq_cons, text_ofSource]
  cases source <;> rfl

theorem length_walk (e : Cause) : e.walk.length = e.depth + 1 := by
  rw [walk_eq_chain]
  induction e with
  | root t => rfl
  | because t s ih => rw [chain, List.length_cons, ih, depth]

theorem isChain_walk (e : Cause) : e.walk.IsChain fun a b => a.source? = some b := by
  induction e with
  | root t => exact List.isChain_singleton _
  | because t s ih =>
    have hcons : (Cause.because t s).walk = .because t s :: s.walk := walk_eq_cons _
    rw [hcons, walk_eq_cons s]
    rw [walk_eq_cons s] at ih
    exact List.isChain_cons_cons.mpr ⟨rfl, ih⟩

/-- The walk is never empty, so its last element is there to take. -/
theorem getLast?_walk (e : Cause) : e.walk.getLast? = some e.rootCause := by
  rw [rootCause_eq, walk_eq_chain, getLast?_chain]

@[simp] theorem source?_rootCause (e : Cause) : e.rootCause.source? = none := by
  rw [rootCause_eq]
  rfl

theorem rootCause_of_mem_walk {e x : Cause} (h : x ∈ e.walk) : x.rootCause = e.rootCause := by
  rw [rootCause_eq, rootCause_eq, innermost_of_mem_walk h]

theorem rootCause_eq_self_iff {e : Cause} : e.rootCause = e ↔ e.walk.length = 1 := by
  rw [length_walk]
  cases e with
  | root t => exact iff_of_true rfl rfl
  | because t s =>
    refine iff_of_false ?_ (by simp [depth])
    intro h
    -- the innermost cause has no source
    have hnone := source?_rootCause (.because t s)
    rw [h] at hnone
    cases hnone

/-- The walk ends, and with one list only, which is the error followed by the walk of its source:
it begins with the error, each element behind another is that one's source, the last has no source,
and there is one element more than there are causes. The root cause is the last element. It is the
error itself just when the walk has one element, and it is its own root cause and that of every
element. -/
theorem walk_follows_sources (e : Cause) :
    (∀ all, Walks [e] e all ↔ all = e.walk) ∧
    e.walk = e :: (e.source?.map walk).getD [] ∧
    e.walk.head? = some e ∧
    (∀ n a b, e.walk[n]? = some a → e.walk[n + 1]? = some b → a.source? = some b) ∧
    (∀ x, e.walk.getLast? = some x → x.source? = none) ∧
    e.walk.length = e.depth + 1 ∧
    e.walk.getLast? = some e.rootCause ∧
    (e.rootCause = e ↔ e.walk.length = 1) ∧
    e.rootCause.rootCause = e.rootCause ∧
    ∀ x ∈ e.walk, x.rootCause = e.rootCause := by
  have hlast := getLast?_walk e
  refine ⟨fun all => walks_iff, walk_eq_cons e, ?_, ?_, ?_, length_walk e, hlast,
    rootCause_eq_self_iff, ?_, fun x hx => rootCause_of_mem_walk hx⟩
  · rw [walk_eq_cons]
    rfl
  · intro n a b ha hb
    obtain ⟨hn, rfl⟩ := List.getElem?_eq_some_iff.mp hb
    obtain ⟨_, rfl⟩ := List.getElem?_eq_some_iff.mp ha
    exact List.isChain_iff_getElem.mp (isChain_walk e) n hn
  · intro x hx
    rw [hlast, Option.some.injEq] at hx
    rw [← hx, source?_rootCause]
  · exact rootCause_of_mem_walk (List.mem_of_getLast? hlast)

end Cause
end ErrorBoundary
