import ErrorBoundary.Json.Printer
import ErrorBoundary.Proofs.Json.Reading

/-!
# ErrorBoundary.Proofs.Json.Whole

Whole numbers, written and read. A number within 64 bits is written by its digits, and the reader
gathers the same number from them (`reads_whole`). By induction on the digits, the last one first:
behind the digits of `m / 10` stands that of `m % 10`.
-/

namespace ErrorBoundary

theorem digitValue?_digitChar : ∀ d, d < 10 → digitValue? d.digitChar = some d := by decide

/-- The whole numbers that a text gives back: a negative one has 63 bits, any other 64. -/
def IsWhole64 (n : Int) : Prop := -(twoTo 63 : Int) ≤ n ∧ n < twoTo 64

namespace Numeral

/-- A number of which only digits have been read, and maybe a sign. -/
def ofDigits (negative : Bool) (m : Nat) : Numeral :=
  { start with negative := negative, significand := m }

theorem wholeDigit_ofDigits (negative : Bool) {m d : Nat} (h : m * 10 + d ≤ Binary64.maxNat) :
    (ofDigits negative m).wholeDigit d = ofDigits negative (m * 10 + d) := by
  simp [wholeDigit, ofDigits, start, fits, h]

theorem wholeDigit_first (negative : Bool) {d : Nat} (h : d < 10) :
    (ofDigits negative 0).wholeDigit d = ofDigits negative d := by
  have hmax : 10 ≤ Binary64.maxNat := by decide
  have hd : 0 * 10 + d = d := by omega
  rw [wholeDigit_ofDigits negative (by omega), hd]

theorem value_ofDigits (m : Nat) (p : Place) :
    (ofDigits false m).value p = .ok (.whole m) := rfl

theorem value_ofDigits_neg {m : Nat} (h0 : 0 < m) (h : m ≤ twoTo 63) (p : Place) :
    (ofDigits true m).value p = .ok (.whole (-m)) := by
  simp [value, ofDigits, start, h0, h]

end Numeral

namespace Reading

open Numeral

theorem isBlank_digitChar : ∀ d, d < 10 → isBlank d.digitChar = false := by decide

theorem begin?_digitChar {d : Nat} (h0 : 0 < d) (h : d < 10) :
    begin? d.digitChar = some (.number .whole (start.wholeDigit d)) := by
  rcases d with _ | _ | _ | _ | _ | _ | _ | _ | _ | _ | d
  all_goals first | rfl | omega

theorem step_digit {d m : Nat} (hd : d < 10) (h : m * 10 + d ≤ Binary64.maxNat) (negative : Bool)
    (stack : List Frame) (p : Place) :
    (Reading.within (.number .whole (ofDigits negative m)) stack).step p (some d.digitChar) =
      .within (.number .whole (ofDigits negative (m * 10 + d))) stack := by
  simp only [step, Option.getD_some, Numeral.step, digitValue?_digitChar d hd,
    wholeDigit_ofDigits negative h]

/-- The digits of a number gather it, when the first of them does. -/
theorem reads_digits {r : Reading} {negative : Bool} {stack : List Frame}
    (first : ∀ d p, 0 < d → d < 10 → r.step p (some d.digitChar) =
      .within (.number .whole (ofDigits negative d)) stack) :
    ∀ m, 0 < m → m ≤ Binary64.maxNat →
      Reads r (Nat.toDigits 10 m) (.within (.number .whole (ofDigits negative m)) stack) := by
  intro m
  induction m using Nat.strongRecOn with
  | ind m ih =>
    intro h0 hm
    by_cases h : m < 10
    · rw [Nat.toDigits_of_lt_base h]
      exact .single fun p => first m p h0 h
    · rw [Nat.toDigits_of_base_le (by decide) (by omega)]
      have hlast : m / 10 * 10 + m % 10 = m := by omega
      refine (ih (m / 10) (by omega) (by omega) (by omega)).snoc fun p => ?_
      rw [step_digit (by omega) (by omega), hlast]

theorem first_digit {d : Nat} (h0 : 0 < d) (h : d < 10) (stack : List Frame) (p : Place) :
    (Reading.within .value stack).step p (some d.digitChar) =
      .within (.number .whole (ofDigits false d)) stack := by
  have hs : start.wholeDigit d = ofDigits false d := wholeDigit_first false h
  simp [step, stepBetween, between, beginValue, isBlank_digitChar d h, begin?_digitChar h0 h, hs]

theorem first_digit_neg {d : Nat} (h0 : 0 < d) (h : d < 10) (stack : List Frame) (p : Place) :
    (Reading.within (.number .sign (ofDigits true 0)) stack).step p (some d.digitChar) =
      .within (.number .whole (ofDigits true d)) stack := by
  have hs := wholeDigit_first true h
  cases d with
  | zero => cases h0
  | succ d => simp only [step, Option.getD_some, Numeral.step, digitValue?_digitChar _ h, hs]

end Reading

namespace Json

theorem numberText_natCast (m : Nat) : numberText (.whole m) = Nat.toDigits 10 m := by
  simp [numberText, Int.repr_eq_if]

theorem numberText_neg {m : Nat} (h : 0 < m) :
    numberText (.whole (-m)) = '-' :: Nat.toDigits 10 m := by
  have hn : ¬ (0 : Int) ≤ -m := by omega
  simp only [numberText, Int.toString_eq_repr, Int.repr_eq_if, if_neg hn]
  simp

/-- A whole number is written as its digits, behind a sign or not. -/
theorem numberText_cases (n : Int) : ∃ m, numberText (.whole n) = Nat.toDigits 10 m ∨
    numberText (.whole n) = '-' :: Nat.toDigits 10 m := by
  obtain ⟨m, rfl | rfl⟩ := n.eq_nat_or_neg
  · exact ⟨m, .inl (numberText_natCast m)⟩
  · by_cases h0 : m = 0
    · subst h0
      exact ⟨0, .inl (numberText_natCast 0)⟩
    · exact ⟨m, .inr (numberText_neg (by omega))⟩

end Json

namespace Reading

open Numeral

/-- A written number is read as the number it was written from. -/
theorem reads_whole {n : Int} (h : IsWhole64 n) (stack : List Frame) :
    ∃ r, Reads (.within .value stack) (Json.numberText (.whole n)) r ∧
      Holds (.number (.ok (.whole n))) stack r := by
  obtain ⟨hlo, hhi⟩ := h
  have hmax : Binary64.maxNat = twoTo 64 - 1 := rfl
  obtain ⟨m, rfl | rfl⟩ := n.eq_nat_or_neg
  · rw [Json.numberText_natCast]
    by_cases h0 : m = 0
    · subst h0
      exact ⟨_, .single fun p => rfl, .number stack rfl (value_ofDigits 0)⟩
    · refine ⟨_, reads_digits (fun d p h0 h => first_digit h0 h stack p) m (by omega) (by omega),
        ?_⟩
      exact .number stack rfl (value_ofDigits m)
  · by_cases h0 : m = 0
    · subst h0
      exact ⟨_, .single fun p => rfl, .number stack rfl (value_ofDigits 0)⟩
    · rw [Json.numberText_neg (by omega)]
      have h63 : twoTo 63 < twoTo 64 := by decide
      have hs : Reads (.within .value stack) ['-']
          (.within (.number .sign (ofDigits true 0)) stack) := .single fun p => rfl
      have hd := reads_digits (fun d p h0 h => first_digit_neg h0 h stack p) m (by omega) (by omega)
      exact ⟨_, hs.trans hd, .number stack rfl (value_ofDigits_neg (by omega) (by omega))⟩

end Reading
end ErrorBoundary
