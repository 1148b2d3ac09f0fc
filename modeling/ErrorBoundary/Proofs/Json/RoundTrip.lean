import ErrorBoundary.Proofs.Json.Escape
import ErrorBoundary.Proofs.Json.Whole

/-!
# ErrorBoundary.Proofs.Json.RoundTrip

The compact text of a value is read as that value. `reads_chars` says so for a value anywhere in a
text, by induction on the value; the items and the members of a container are read into what was
read of it before. `ofText_compact` is the case of a whole text.

* `Json.IsExact`      — every number in the value is a whole one within 64 bits.
* `Json.chars_visible` — no control character is written.
-/

namespace ErrorBoundary
namespace Json

mutual

def IsExact : Json → Prop
  | .number (.whole n) => IsWhole64 n
  | .number (.real _) => False
  | .array items => AreExact items
  | .object members => HasExact members
  | _ => True

def AreExact : List Json → Prop
  | [] => True
  | v :: rest => IsExact v ∧ AreExact rest

def HasExact : List (String × Json) → Prop
  | [] => True
  | (_, v) :: rest => IsExact v ∧ HasExact rest

end

theorem isExact_ofOption (s : Option String) : (ofOption s).IsExact := by
  cases s with
  | none => exact trivial
  | some s => exact trivial

end Json

namespace Reading

open Json

/-! ## The first character of a value -/

theorem isBlank_of_begin? {c : Char} {phase : Phase} (h : begin? c = some phase) :
    isBlank c = false := by
  cases hb : isBlank c with
  | false => rfl
  | true =>
    obtain rfl | rfl | rfl | rfl := isBlank_iff.mp hb <;> cases h

theorem step_value {c : Char} {phase : Phase} (h : begin? c = some phase) (stack : List Frame)
    (p : Place) : (Reading.within .value stack).step p (some c) = .within phase stack := by
  simp [step, stepBetween, between, beginValue, isBlank_of_begin? h, h]

theorem step_firstItem {c : Char} {phase : Phase} (h : begin? c = some phase) (stack : List Frame)
    (p : Place) :
    (Reading.within .firstItem stack).step p (some c) = .within phase (.items [] :: stack) := by
  have hc : c ≠ ']' := by rintro rfl; cases h
  simp [step, stepBetween, between, beginValue, isBlank_of_begin? h, h, hc]

theorem step_nextItem {c : Char} {phase : Phase} (h : begin? c = some phase) (done : List Draft)
    (stack : List Frame) (p : Place) :
    (Reading.within (.nextItem done) stack).step p (some c) =
      .within phase (.items done :: stack) := by
  have hc : c ≠ ']' := by rintro rfl; cases h
  simp [step, stepBetween, between, beginValue, isBlank_of_begin? h, h, hc]

theorem begin?_toDigits (m : Nat) :
    ∃ c cs phase, Nat.toDigits 10 m = c :: cs ∧ begin? c = some phase := by
  induction m using Nat.strongRecOn with
  | ind m ih =>
    by_cases h : m < 10
    · rw [Nat.toDigits_of_lt_base h]
      by_cases h0 : m = 0
      · subst h0
        exact ⟨_, _, _, rfl, rfl⟩
      · exact ⟨_, _, _, rfl, begin?_digitChar (by omega) h⟩
    · obtain ⟨c, cs, phase, hc, hp⟩ := ih (m / 10) (by omega)
      rw [Nat.toDigits_of_base_le (by decide) (by omega), hc]
      exact ⟨_, _, _, rfl, hp⟩

/-- A written number begins with a digit or its sign. -/
theorem begin?_numberText (n : Int) :
    ∃ c cs phase, numberText (.whole n) = c :: cs ∧ begin? c = some phase := by
  obtain ⟨m, h | h⟩ := numberText_cases n
  · rw [h]
    exact begin?_toDigits m
  · exact ⟨_, _, _, h, rfl⟩

theorem begin?_chars {v : Json} (h : v.IsExact) :
    ∃ c cs phase, v.chars = c :: cs ∧ begin? c = some phase := by
  cases v with
  | null => exact ⟨_, _, _, rfl, rfl⟩
  | bool b => cases b <;> exact ⟨_, _, _, rfl, rfl⟩
  | number n =>
    cases n with
    | whole n => exact begin?_numberText n
    | real x => exact h.elim
  | string s => exact ⟨_, _, _, rfl, rfl⟩
  | array items => exact ⟨_, _, _, rfl, rfl⟩
  | object members => exact ⟨_, _, _, rfl, rfl⟩

theorem begin?_charsOfItems {v : Json} (h : v.IsExact) (rest : List Json) :
    ∃ c cs phase, charsOfItems (v :: rest) = c :: cs ∧ begin? c = some phase := by
  obtain ⟨c, cs, phase, hc, hp⟩ := begin?_chars h
  cases rest with
  | nil => exact ⟨c, cs, phase, hc, hp⟩
  | cons w rest =>
    rw [charsOfItems, hc]
    exact ⟨c, _, phase, rfl, hp⟩

/-- Where an item may begin, it is read like a value inside the array. -/
theorem reads_item {r₀ r : Reading} {done : List Draft} {stack : List Frame}
    (begins : ∀ {c phase}, begin? c = some phase → ∀ p,
      r₀.step p (some c) = .within phase (.items done :: stack))
    {v : Json} {rest : List Json} (h : v.IsExact) {cs : List Char}
    (hr : Reads (.within .value (.items done :: stack)) (charsOfItems (v :: rest) ++ cs) r) :
    Reads r₀ (charsOfItems (v :: rest) ++ cs) r := by
  obtain ⟨c, ds, phase, hc, hp⟩ := begin?_charsOfItems h rest
  rw [hc] at hr ⊢
  exact hr.congr_step fun p => by rw [begins hp, step_value hp]

/-- The first key is read like a later one. -/
theorem reads_firstKey {m : String × Json} {rest : List (String × Json)} {cs : List Char}
    {stack : List Frame} {r : Reading}
    (hr : Reads (.within (.nextKey []) stack) (charsOfMembers (m :: rest) ++ cs) r) :
    Reads (.within .firstKey stack) (charsOfMembers (m :: rest) ++ cs) r := by
  have hstep : ∀ p, (Reading.within .firstKey stack).step p (some '"') =
      (Reading.within (.nextKey []) stack).step p (some '"') := fun _ => rfl
  obtain ⟨k, v⟩ := m
  cases rest with
  | nil => exact Reads.congr_step hstep hr
  | cons m rest => exact Reads.congr_step hstep hr

/-- A key and its colon lead to the value of the member. -/
theorem reads_member {k : String} {done : List (Except Fault String × Draft)}
    {stack : List Frame} {cs : List Char} {r : Reading}
    (hr : Reads (.within .value (.member done (.ok k) :: stack)) cs r) :
    Reads (.within (.nextKey done) stack) (escape k ++ ':' :: cs) r := by
  have hcolon : Reads (.within (.colon done (.ok k)) stack) [':']
      (.within .value (.member done (.ok k) :: stack)) := .single fun _ => rfl
  exact (reads_key k done stack).trans (hcolon.trans hr)

/-! ## Values, items and members -/

theorem reads_null (stack : List Frame) :
    Reads (.within .value stack) "null".toList (complete .null stack) :=
  .cons (fun _ => rfl) (.cons (fun _ => rfl) (.cons (fun _ => rfl) (.single fun _ => rfl)))

theorem reads_true (stack : List Frame) :
    Reads (.within .value stack) "true".toList (complete (.bool true) stack) :=
  .cons (fun _ => rfl) (.cons (fun _ => rfl) (.cons (fun _ => rfl) (.single fun _ => rfl)))

theorem reads_false (stack : List Frame) :
    Reads (.within .value stack) "false".toList (complete (.bool false) stack) :=
  .cons (fun _ => rfl) (.cons (fun _ => rfl) (.cons (fun _ => rfl)
    (.cons (fun _ => rfl) (.single fun _ => rfl))))

mutual

theorem reads_chars : ∀ (v : Json), v.IsExact → ∀ stack,
    ∃ r, Reads (.within .value stack) v.chars r ∧ Holds (.ofJson v) stack r
  | .null, _, stack => ⟨_, reads_null stack, .complete _ stack⟩
  | .bool true, _, stack => ⟨_, reads_true stack, .complete _ stack⟩
  | .bool false, _, stack => ⟨_, reads_false stack, .complete _ stack⟩
  | .number (.whole _), h, stack => reads_whole h stack
  | .string s, _, stack => ⟨_, reads_escape s stack, .complete _ stack⟩
  | .array [], _, stack =>
    ⟨_, .cons (fun _ => rfl) (.single fun _ => rfl), .complete _ stack⟩
  | .array (v :: rest), h, stack => by
    have h0 : Reads (.within .value stack) ['['] (.within .firstItem stack) := .single fun _ => rfl
    have hr := reads_items (v :: rest) h [] stack (by simp)
    have hall := h0.trans (reads_item (fun h p => step_firstItem h stack p) h.1 hr)
    exact ⟨_, hall, .complete _ stack⟩
  | .object [], _, stack =>
    ⟨_, .cons (fun _ => rfl) (.single fun _ => rfl), .complete _ stack⟩
  | .object (m :: rest), h, stack => by
    have h0 : Reads (.within .value stack) ['\x7b'] (.within .firstKey stack) :=
      .single fun _ => rfl
    have hr := reads_members (m :: rest) h [] stack (by simp)
    exact ⟨_, h0.trans (reads_firstKey hr), .complete _ stack⟩

theorem reads_items : ∀ (items : List Json), AreExact items → ∀ done stack, items ≠ [] →
    Reads (.within .value (.items done :: stack)) (charsOfItems items ++ [']'])
      (complete (.array (done.reverse ++ Draft.ofItems items) none) stack)
  | [], _, _, _, h => absurd rfl h
  | [v], hv, done, stack, _ => by
    obtain ⟨r, hr, hd⟩ := reads_chars v hv.1 (.items done :: stack)
    refine hr.snoc fun p => ?_
    rw [hd.step_eq (.inr (.inl rfl))]
    simp [Draft.ofItems, Reading.complete, step, stepBetween, between, isBlank]
  | v :: w :: rest, h, done, stack, _ => by
    obtain ⟨r, hr, hd⟩ := reads_chars v h.1 (.items done :: stack)
    have hcomma : Reads r [','] (.within (.nextItem (.ofJson v :: done)) stack) :=
      .single fun p => by rw [hd.step_eq (.inl rfl)]; rfl
    have hrest := reads_items (w :: rest) h.2 (.ofJson v :: done) stack (by simp)
    have hnext := reads_item (fun h p => step_nextItem h _ stack p) h.2.1 hrest
    have hall := hr.trans (hcomma.trans hnext)
    simpa [charsOfItems, Draft.ofItems] using hall

theorem reads_members : ∀ (members : List (String × Json)), HasExact members → ∀ done stack,
    members ≠ [] → Reads (.within (.nextKey done) stack) (charsOfMembers members ++ ['\x7d'])
      (complete (.object (done.reverse ++ Draft.ofMembers members) none) stack)
  | [], _, _, _, h => absurd rfl h
  | [(k, v)], h, done, stack, _ => by
    obtain ⟨r, hr, hd⟩ := reads_chars v h.1 (.member done (.ok k) :: stack)
    have hclose : Reads r ['\x7d']
        (complete (.object (done.reverse ++ Draft.ofMembers [(k, v)]) none) stack) := by
      refine .single fun p => ?_
      rw [hd.step_eq (.inr (.inr (.inl rfl)))]
      simp [Draft.ofMembers, Reading.complete, step, stepBetween, between, isBlank]
    have hall := reads_member (hr.trans hclose)
    simpa [charsOfMembers] using hall
  | (k, v) :: m :: rest, h, done, stack, _ => by
    obtain ⟨r, hr, hd⟩ := reads_chars v h.1 (.member done (.ok k) :: stack)
    have hcomma : Reads r [','] (.within (.nextKey ((.ok k, .ofJson v) :: done)) stack) :=
      .single fun p => by rw [hd.step_eq (.inl rfl)]; rfl
    have hrest := reads_members (m :: rest) h.2 ((.ok k, .ofJson v) :: done) stack (by simp)
    have hall := reads_member (hr.trans (hcomma.trans hrest))
    simpa [charsOfMembers, Draft.ofMembers] using hall

end

end Reading

namespace Json

/-! ## No control character is written -/

theorem toDigits_visible (m : Nat) : Visible (Nat.toDigits 10 m) := by
  intro c hc
  have h := Nat.isDigit_of_mem_toDigits (by decide) (by decide) hc
  simp only [Char.isDigit, Bool.and_eq_true, decide_eq_true_eq] at h
  have hlo : '0'.toNat ≤ c.toNat := h.1
  have h0 : '0'.toNat = 48 := rfl
  omega

theorem numberText_visible (n : Int) : Visible (numberText (.whole n)) := by
  obtain ⟨m, h | h⟩ := numberText_cases n
  · rw [h]
    exact toDigits_visible m
  · rw [h]
    exact .cons (by decide) (toDigits_visible m)

mutual

theorem chars_visible : ∀ (v : Json), v.IsExact → Visible v.chars
  | .null, _ => .ofAll rfl
  | .bool true, _ => .ofAll rfl
  | .bool false, _ => .ofAll rfl
  | .number (.whole n), _ => numberText_visible n
  | .string s, _ => escape_visible s
  | .array items, h => .cons (by decide) ((charsOfItems_visible items h).append (.ofAll rfl))
  | .object members, h =>
    .cons (by decide) ((charsOfMembers_visible members h).append (.ofAll rfl))

theorem charsOfItems_visible : ∀ (items : List Json), AreExact items → Visible (charsOfItems items)
  | [], _ => .nil
  | [v], h => chars_visible v h.1
  | v :: w :: rest, h =>
    (chars_visible v h.1).append (.cons (by decide) (charsOfItems_visible (w :: rest) h.2))

theorem charsOfMembers_visible : ∀ (members : List (String × Json)), HasExact members →
    Visible (charsOfMembers members)
  | [], _ => .nil
  | [(k, v)], h => (escape_visible k).append (.cons (by decide) (chars_visible v h.1))
  | (k, v) :: m :: rest, h => by
    have hv := chars_visible v h.1
    have hrest := charsOfMembers_visible (m :: rest) h.2
    exact (escape_visible k).append (.cons (by decide) (hv.append (.cons (by decide) hrest)))

end

end Json

/-- The compact text of a value is read as that value. -/
theorem Document.ofText_compact {v : Json} (h : v.IsExact) :
    Document.ofText v.compact = .ofJson v := by
  obtain ⟨r, hr, hd⟩ := Reading.reads_chars v h []
  obtain ⟨p, hp⟩ := hr.run_eq .start
  rw [ofText, ofSymbols, Json.compact, String.toList_ofList, hp, hd.finish_eq, ofJson]

end ErrorBoundary
