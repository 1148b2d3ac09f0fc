import ErrorBoundary.Json.Reader

/-!
# ErrorBoundary.Proofs.Json.Reading

Reading a stretch of a JSON text, whatever comes before and after it.

* `Reading.Reads r cs r'` — the symbols `cs` take the reader from `r` to `r'`, wherever they stand.
* `Quoting.Takes q cs q'` — the same for the inside of a string.
* `Reading.Holds d stack r` — the value `d` is read; a number ends with the symbol behind it only,
  and a symbol that may stand there finds the same as behind any other value (`Holds.step_eq`).
-/

namespace ErrorBoundary

/-! ## Inside a string -/

namespace Quoting

inductive Takes : Quoting → List Char → Quoting → Prop where
  | refl {q : Quoting} : Takes q [] q
  | cons {q q' q'' : Quoting} {c : Char} {cs : List Char} :
      (∀ next after, q.step next after (some c) = .more q') → Takes q' cs q'' →
      Takes q (c :: cs) q''

namespace Takes

theorem single {q q' : Quoting} {c : Char}
    (h : ∀ next after, q.step next after (some c) = .more q') : Takes q [c] q' := .cons h .refl

theorem trans {q q' q'' : Quoting} {cs ds : List Char} (h₁ : Takes q cs q')
    (h₂ : Takes q' ds q'') : Takes q (cs ++ ds) q'' := by
  induction h₁ with
  | refl => exact h₂
  | cons h _ ih => exact .cons h (ih h₂)

end Takes
end Quoting

/-! ## Between and inside values -/

namespace Reading

inductive Reads : Reading → List Char → Reading → Prop where
  | refl {r : Reading} : Reads r [] r
  | cons {r r' r'' : Reading} {c : Char} {cs : List Char} :
      (∀ p, r.step p (some c) = r') → Reads r' cs r'' → Reads r (c :: cs) r''

namespace Reads

theorem single {r r' : Reading} {c : Char} (h : ∀ p, r.step p (some c) = r') :
    Reads r [c] r' := .cons h .refl

theorem trans {r r' r'' : Reading} {cs ds : List Char} (h₁ : Reads r cs r')
    (h₂ : Reads r' ds r'') : Reads r (cs ++ ds) r'' := by
  induction h₁ with
  | refl => exact h₂
  | cons h _ ih => exact .cons h (ih h₂)

/-- One symbol more behind what is read already. -/
theorem snoc {r r' r'' : Reading} {c : Char} {cs : List Char} (h₁ : Reads r cs r')
    (h₂ : ∀ p, r'.step p (some c) = r'') : Reads r (cs ++ [c]) r'' := h₁.trans (.single h₂)

/-- What is read depends on the first step only through its result. -/
theorem congr_step {r s r' : Reading} {c : Char} {cs : List Char}
    (h : ∀ p, s.step p (some c) = r.step p (some c)) (hr : Reads r (c :: cs) r') :
    Reads s (c :: cs) r' := by
  cases hr with
  | cons h₁ h₂ => exact .cons (fun p => (h p).trans (h₁ p)) h₂

theorem run_eq {r r' : Reading} {cs : List Char} (h : Reads r cs r') (p : Place) :
    ∃ p', r.run p (cs.map some) = r'.finish p' := by
  induction h generalizing p with
  | refl => exact ⟨p, rfl⟩
  | @cons r r' r'' c cs h _ ih =>
    obtain ⟨p', hp'⟩ := ih (p.after (some c))
    refine ⟨p', ?_⟩
    simp only [List.map_cons, run, h, hp']

end Reads

theorem reads_text {q q' : Quoting} {cs : List Char} (h : q.Takes cs q') (stack : List Frame) :
    Reads (.within (.text q) stack) cs (.within (.text q') stack) := by
  induction h with
  | refl => exact .refl
  | cons h _ ih => exact .cons (fun p => by simp only [step, h]) ih

theorem reads_keyText {q q' : Quoting} {cs : List Char} (h : q.Takes cs q')
    (done : List (Except Fault String × Draft)) (stack : List Frame) :
    Reads (.within (.keyText done q) stack) cs (.within (.keyText done q') stack) := by
  induction h with
  | refl => exact .refl
  | cons h _ ih => exact .cons (fun p => by simp only [step, h]) ih

/-! ## The end of a value -/

theorem isBlank_iff {c : Char} :
    isBlank c = true ↔ c = ' ' ∨ c = '\n' ∨ c = '\t' ∨ c = '\r' := by
  simp only [isBlank, Bool.or_eq_true, beq_iff_eq, or_assoc]

/-- The characters that may stand behind a value. -/
def EndsValue (c : Char) : Prop := c = ',' ∨ c = ']' ∨ c = '\x7d' ∨ isBlank c = true

inductive Holds : Draft → List Frame → Reading → Prop where
  | complete (d : Draft) (stack : List Frame) : Holds d stack (complete d stack)
  | number {phase : NumeralPhase} {n : Numeral} {x : Number} (stack : List Frame) :
      Numeral.complete phase = true → (∀ p, n.value p = .ok x) →
      Holds (.number (.ok x)) stack (.within (.number phase n) stack)

theorem step_complete (d : Draft) (stack : List Frame) (p : Place) (symbol : Option Char) :
    (complete d stack).step p symbol = (complete d stack).stepBetween (p.next symbol) symbol := by
  cases stack with
  | nil => rfl
  | cons frame rest => cases frame <;> rfl

theorem EndsValue.tail_eq {c : Char} (hc : EndsValue c) (n : Numeral) (pointAllowed : Bool) :
    n.tail pointAllowed c = .ended := by
  rcases hc with rfl | rfl | rfl | hc
  · rfl
  · rfl
  · rfl
  · rcases isBlank_iff.mp hc with rfl | rfl | rfl | rfl <;> rfl

theorem EndsValue.step_eq {c : Char} (hc : EndsValue c) {phase : NumeralPhase}
    (h : Numeral.complete phase = true) (n : Numeral) (p : Place) :
    n.step phase p c = .ended := by
  have hd : digitValue? c = none := by
    rcases hc with rfl | rfl | rfl | hc
    · rfl
    · rfl
    · rfl
    · rcases isBlank_iff.mp hc with rfl | rfl | rfl | rfl <;> rfl
  cases phase with
  | zero => simp only [Numeral.step, hd, hc.tail_eq]
  | whole => simp only [Numeral.step, hd, hc.tail_eq]
  | fraction => simp only [Numeral.step, hd, hc.tail_eq]
  | exponent => simp only [Numeral.step, hd]
  | sign => cases h
  | point => cases h
  | mark => cases h
  | markSign => cases h

/-- A symbol that ends a value does not tell a number from any other value. -/
theorem Holds.step_eq {d : Draft} {stack : List Frame} {r : Reading} (h : Holds d stack r)
    {c : Char} (hc : EndsValue c) (p : Place) :
    r.step p (some c) = (Reading.complete d stack).step p (some c) := by
  cases h with
  | complete => rfl
  | number _ hp hv =>
    rw [step_complete]
    simp only [step, Option.getD_some, hc.step_eq hp, hv]

/-- Nor does the end of the text. -/
theorem Holds.finish_eq {d : Draft} {r : Reading} (h : Holds d [] r) (p : Place) :
    r.finish p = ⟨d, none⟩ := by
  cases h with
  | complete => rfl
  | number _ hp hv =>
    simp only [finish, hp, if_true, hv]
    rfl

end Reading
end ErrorBoundary
