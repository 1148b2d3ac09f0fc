import ErrorBoundary.Config.Tree

/-!
# ErrorBoundary.Proofs.Layering

What a source says, part by part, and what the tree that all sources make holds of it. Whatever
stands between, the last part that a source writes at a path is what stands there in the end
(`Tree.carries_apply`), as long as on the way to the path nothing is laid but tables.

* `Tree.Entry.parts`  — an entry as the scalars and arrays that it writes, each with its path.
* `Tree.lastAt`       — the last part that is written at a path.
* `Tree.OnlyTables`   — an entry that lays nothing but tables on the way to a path.
* `Tree.Carries`      — a tree that holds at a path what was written there, and nothing else.
-/

namespace ErrorBoundary
namespace Tree

/-! ## What a source says -/

namespace Entry

/-- The same, one step further down. -/
def below (step : Step) (e : Entry) : Entry := ⟨step :: e.path, e.tree⟩

end Entry

mutual

/-- The scalars and the arrays of a tree, each with the path to it. -/
def parts : Tree → List Entry
  | .table members _ => memberParts members
  | .scalar v origin => [⟨[], .scalar v origin⟩]
  | .array items origin => [⟨[], .array items origin⟩]

def memberParts : List (String × Tree) → List Entry
  | [] => []
  | (key, t) :: rest => t.parts.map (Entry.below (.key key)) ++ memberParts rest

end

def Entry.parts (e : Entry) : List Entry :=
  e.tree.parts.map fun part => ⟨e.path ++ part.path, part.tree⟩

/-- What is written at a path, where the last part at it counts. -/
def lastAt (p : List String) (parts : List Entry) : Option Tree :=
  (parts.reverse.find? fun part => part.path = p.map .key).map Entry.tree

/-- Nothing but tables is laid on the way to a setting. -/
def OnlyTables : List String → List Step → Tree → Prop
  | [], _, _ => True
  | key :: p, [], .table members _ => ∀ m ∈ members, m.1 = key → OnlyTables p [] m.2
  | _ :: _, [], _ => False
  | key :: p, .key name :: path, t => name = key → OnlyTables p path t
  | _ :: _, .index _ :: _, _ => False

section LastAt

variable {p : List String} {key name : String} {parts parts' : List Entry}

theorem lastAt_append : lastAt p (parts ++ parts') = (lastAt p parts').or (lastAt p parts) := by
  rw [lastAt, lastAt, lastAt, List.reverse_append, List.find?_append, Option.map_or]

@[simp] theorem lastAt_below_self :
    lastAt (key :: p) (parts.map (Entry.below (.key key))) = lastAt p parts := by
  have hpath : (fun part : Entry => decide (part.path = (key :: p).map Step.key)) ∘
      Entry.below (.key key) = fun part => decide (part.path = p.map Step.key) := by
    funext part
    simp [Entry.below]
  rw [lastAt, lastAt, ← List.map_reverse, List.find?_map, Option.map_map, hpath]
  rfl

/-- What is written further down on another way does not count. -/
theorem lastAt_below_of_ne {step : Step} (h : step ≠ .key key) :
    lastAt (key :: p) (parts.map (Entry.below step)) = none := by
  rw [lastAt, ← List.map_reverse, List.find?_map, Option.map_map, Option.map_eq_none_iff,
    List.find?_eq_none]
  intro part _
  simp [Entry.below, h]

theorem lastAt_nil_below {step : Step} : lastAt [] (parts.map (Entry.below step)) = none := by
  rw [lastAt, ← List.map_reverse, List.find?_map, Option.map_map, Option.map_eq_none_iff,
    List.find?_eq_none]
  intro part _
  simp [Entry.below]

theorem lastAt_nil_memberParts (members : List (String × Tree)) :
    lastAt [] (memberParts members) = none := by
  induction members with
  | nil => rfl
  | cons m rest ih =>
    obtain ⟨name, t⟩ := m
    rw [memberParts, lastAt_append, ih, lastAt_nil_below]
    rfl

theorem parts_cons (step : Step) (path : List Step) (t : Tree) :
    Entry.parts ⟨step :: path, t⟩ = (Entry.parts ⟨path, t⟩).map (Entry.below step) := by
  simp [Entry.parts, Entry.below, Function.comp_def]

theorem parts_nil (t : Tree) : Entry.parts ⟨[], t⟩ = t.parts := by
  simp [Entry.parts]

end LastAt

/-! ## What the tree holds -/

def IsScalar : Tree → Prop
  | .scalar _ _ => True
  | _ => False

/-- From a place on, nothing but tables stands on the way `p`, and at its end stands `x?`, or else
no scalar. -/
def Carries : List String → Option Tree → Option Tree → Prop
  | [], t?, x? => t? = x? ∨ ∃ t, t? = some t ∧ ¬ t.IsScalar
  | _ :: _, none, x? => x? = none
  | key :: p, some t, x? => ∃ members origin, t = .table members origin ∧
      Carries p (Members.find? key members) x?

/-- What stands at the end of a way through tables. -/
def at? : List String → Tree → Option Tree
  | [], t => some t
  | key :: p, .table members _ => (Members.find? key members).bind (at? p)
  | _ :: _, _ => none

/-- No table on the way `p` repeats a key. -/
def IsPlain : List String → Tree → Prop
  | key :: p, .table members _ => (members.map Prod.fst).Nodup ∧
      ∀ t, Members.find? key members = some t → IsPlain p t
  | _, _ => True

section Carries

variable {p : List String} {key : String} {t? x? : Option Tree} {top : Tree}

/-- Seen from the place, it is a table in any case: one that is missing would be empty. -/
theorem Carries.members (h : Carries (key :: p) t? x?) :
    Carries p (Members.find? key (t?.getD absent).members.1) x? := by
  cases t? with
  | none =>
    obtain rfl : x? = none := h
    show Carries p none none
    cases p with
    | nil => exact .inl rfl
    | cons k p => exact rfl
  | some t =>
    obtain ⟨members, origin, rfl, hcarries⟩ := h
    exact hcarries

theorem carries_put {old : Members Tree} {name : String} {t : Tree} {y? : Option Tree}
    (hsame : name = key → Carries p (some t) y?)
    (hother : name ≠ key → Carries p (Members.find? key old) y?) :
    Carries p (Members.find? key (Members.put name t old)) y? := by
  by_cases hname : name = key
  · rw [hname, Members.find?_put_self]
    exact hsame hname
  · rw [Members.find?_put_of_ne (Ne.symm hname)]
    exact hother hname

/-- One member after the other is merged into the table that is there. -/
theorem carries_mergeMembers
    (hmerge : ∀ t? x? top, Carries p t? x? → OnlyTables p [] top →
      Carries p (some ((t?.getD absent).merge top)) ((lastAt p top.parts).or x?))
    {members old : Members Tree} (honly : ∀ m ∈ members, m.1 = key → OnlyTables p [] m.2)
    (h : Carries p (Members.find? key old) x?) :
    Carries p (Members.find? key (mergeMembers old members))
      ((lastAt (key :: p) (memberParts members)).or x?) := by
  induction members generalizing old x? with
  | nil => exact h
  | cons m rest ih =>
    obtain ⟨name, t⟩ := m
    have hrest : ∀ m ∈ rest, m.1 = key → OnlyTables p [] m.2 := fun m hm =>
      honly m (List.mem_cons_of_mem _ hm)
    rw [mergeMembers, memberParts, lastAt_append, Option.or_assoc]
    refine ih hrest (carries_put ?_ ?_)
    · rintro rfl
      rw [lastAt_below_self]
      exact hmerge _ _ _ h (honly _ List.mem_cons_self rfl)
    · intro hname
      rw [lastAt_below_of_ne (by simpa using hname)]
      exact h

/-- What is written over a place is what it holds then, and where nothing is written it holds what
it held. -/
theorem carries_merge (h : Carries p t? x?) (honly : OnlyTables p [] top) :
    Carries p (some ((t?.getD absent).merge top)) ((lastAt p top.parts).or x?) := by
  induction p generalizing t? x? top with
  | nil =>
    cases top with
    | scalar v origin => exact .inl rfl
    | array items origin => exact .inl rfl
    | table members origin =>
      rw [merge]
      exact .inr ⟨_, rfl, id⟩
  | cons key p ih =>
    cases top with
    | scalar v origin => exact absurd honly id
    | array items origin => exact absurd honly id
    | table members origin =>
      rw [merge]
      exact ⟨_, _, rfl, carries_mergeMembers (fun _ _ _ => ih) honly h.members⟩

/-- The same at the end of a path. -/
theorem carries_set {path : List Step} (h : Carries p t? x?) (honly : OnlyTables p path top) :
    Carries p (some (set top path (t?.getD absent)))
      ((lastAt p (Entry.parts ⟨path, top⟩)).or x?) := by
  induction path generalizing p t? x? with
  | nil =>
    rw [set, parts_nil]
    exact carries_merge h honly
  | cons step path ih =>
    rw [parts_cons]
    cases p with
    | nil =>
      rw [lastAt_nil_below]
      cases step with
      | key name => exact .inr ⟨_, rfl, id⟩
      | index i => exact .inr ⟨_, rfl, id⟩
    | cons key p =>
      cases step with
      | index i => exact absurd honly id
      | key name =>
        rw [set]
        refine ⟨_, _, rfl, carries_put ?_ ?_⟩
        · rintro rfl
          rw [lastAt_below_self]
          exact ih h.members (honly rfl)
        · intro hname
          rw [lastAt_below_of_ne (by simpa using hname)]
          exact h.members

/-- All that a source says, one entry after the other. -/
theorem carries_apply {entries : List Entry} {t : Tree} (h : Carries p (some t) x?)
    (honly : ∀ e ∈ entries, OnlyTables p e.path e.tree) :
    Carries p (some (t.apply entries)) ((lastAt p (entries.flatMap Entry.parts)).or x?) := by
  induction entries generalizing t x? with
  | nil => exact h
  | cons e rest ih =>
    have hstep := carries_set h (honly e List.mem_cons_self)
    rw [List.flatMap_cons, lastAt_append, Option.or_assoc]
    exact ih hstep fun e' he' => honly e' (List.mem_cons_of_mem _ he')

/-! ## Whatever stood there -/

end Carries

/-! ## Keys that stand once -/

section IsPlain

variable {p : List String} {top t : Tree}

theorem isPlain_nil (t : Tree) : IsPlain [] t := by
  cases t <;> exact trivial

/-- Anything but a table has no keys. -/
theorem IsPlain.members {key : String} (h : IsPlain (key :: p) t) :
    (t.members.1.map Prod.fst).Nodup ∧
      ∀ u, Members.find? key t.members.1 = some u → IsPlain p u := by
  cases t with
  | scalar v origin => exact ⟨List.nodup_nil, nofun⟩
  | array items origin => exact ⟨List.nodup_nil, nofun⟩
  | table members origin => exact h

theorem isPlain_getD {members : Members Tree} {key : String}
    (h : ∀ u, Members.find? key members = some u → IsPlain p u) :
    IsPlain p ((Members.find? key members).getD absent) := by
  cases hfind : Members.find? key members with
  | none => cases p <;> exact trivial
  | some u => exact h u hfind

theorem isPlain_put {members : Members Tree} {name key : String}
    (hnodup : (members.map Prod.fst).Nodup)
    (h : ∀ u, Members.find? key members = some u → IsPlain p u)
    (ht : name = key → IsPlain p t) :
    ((Members.put name t members).map Prod.fst).Nodup ∧
      ∀ u, Members.find? key (Members.put name t members) = some u → IsPlain p u := by
  refine ⟨Members.nodup_keys_put hnodup, fun u hu => ?_⟩
  by_cases hname : name = key
  · subst hname
    rw [Members.find?_put_self] at hu
    cases hu
    exact ht rfl
  · rw [Members.find?_put_of_ne (Ne.symm hname)] at hu
    exact h u hu

theorem isPlain_mergeMembers {key : String}
    (hmerge : ∀ t top, IsPlain p t → IsPlain p (t.merge top)) {members old : Members Tree}
    (hnodup : (old.map Prod.fst).Nodup)
    (h : ∀ u, Members.find? key old = some u → IsPlain p u) :
    ((mergeMembers old members).map Prod.fst).Nodup ∧
      ∀ u, Members.find? key (mergeMembers old members) = some u → IsPlain p u := by
  induction members generalizing old with
  | nil => exact ⟨hnodup, h⟩
  | cons m rest ih =>
    obtain ⟨name, t⟩ := m
    rw [mergeMembers]
    have hwritten : name = key → IsPlain p (((Members.find? name old).getD absent).merge t) := by
      rintro rfl
      exact hmerge _ _ (isPlain_getD h)
    obtain ⟨hnodup', h'⟩ := isPlain_put hnodup h hwritten
    exact ih hnodup' h'

/-- A table is merged member by member, so whatever is laid over it, its keys stand once. -/
theorem isPlain_merge (h : IsPlain p t) : IsPlain p (t.merge top) := by
  induction p generalizing t top with
  | nil => exact isPlain_nil _
  | cons key p ih =>
    cases top with
    | scalar v origin => exact trivial
    | array items origin => exact trivial
    | table members origin =>
      rw [merge]
      exact isPlain_mergeMembers (fun _ _ => ih) h.members.1 h.members.2

theorem isPlain_set {path : List Step} (h : IsPlain p t) : IsPlain p (set top path t) := by
  induction path generalizing p t with
  | nil => exact isPlain_merge h
  | cons step path ih =>
    cases p with
    | nil => exact isPlain_nil _
    | cons key p =>
      cases step with
      | index i => exact trivial
      | key name =>
        obtain ⟨hnodup, hmembers⟩ := h.members
        rw [set]
        refine isPlain_put hnodup hmembers ?_
        rintro rfl
        exact ih (isPlain_getD hmembers)

theorem isPlain_apply {entries : List Entry} (h : IsPlain p t) : IsPlain p (t.apply entries) := by
  induction entries generalizing t with
  | nil => exact h
  | cons e rest ih => exact ih (isPlain_set h)

end IsPlain
end Tree
end ErrorBoundary
