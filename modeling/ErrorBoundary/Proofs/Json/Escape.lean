import ErrorBoundary.Json.Printer
import ErrorBoundary.Proofs.Json.Reading

/-!
# ErrorBoundary.Proofs.Json.Escape

Strings, written and read. A character is written in one of three ways (`escapeChar_cases`), and
each of them is read as that character (`takes_escapeChar`). So a string comes back whole, be it a
value (`reads_escape`) or a key (`reads_key`), and nothing below U+0020 stands in it
(`escape_visible`).
-/

namespace ErrorBoundary

/-! ## Hexadecimal digits -/

theorem hexValue?_hexDigit : ∀ d, d < 16 → hexValue? (Json.hexDigit d) = some d := by decide

theorem utf8Size_hexDigit : ∀ d, d < 16 → (Json.hexDigit d).utf8Size = 1 := by decide

theorem hexDigit_visible : ∀ d, d < 16 → 0x20 ≤ (Json.hexDigit d).toNat := by decide

namespace Json

/-- A character is written as a letter behind a backslash, as a code, or as itself. -/
theorem escapeChar_cases (c : Char) :
    (∃ d, escapeChar c = ['\\', d] ∧ 0x20 ≤ d.toNat ∧ d ≠ 'u' ∧ Quoting.escaped? d = some c) ∨
    (c.toNat < 0x20 ∧ escapeChar c =
      ['\\', 'u', '0', '0', hexDigit (c.toNat / 16), hexDigit (c.toNat % 16)]) ∨
    (c ≠ '"' ∧ c ≠ '\\' ∧ 0x20 ≤ c.toNat ∧ escapeChar c = [c]) := by
  unfold escapeChar
  split
  · subst c; exact .inl ⟨'"', rfl, by decide, by decide, rfl⟩
  split
  · subst c; exact .inl ⟨'\\', rfl, by decide, by decide, rfl⟩
  split
  · subst c; exact .inl ⟨'b', rfl, by decide, by decide, rfl⟩
  split
  · subst c; exact .inl ⟨'t', rfl, by decide, by decide, rfl⟩
  split
  · subst c; exact .inl ⟨'n', rfl, by decide, by decide, rfl⟩
  split
  · subst c; exact .inl ⟨'f', rfl, by decide, by decide, rfl⟩
  split
  · subst c; exact .inl ⟨'r', rfl, by decide, by decide, rfl⟩
  rename_i hq hb _ _ _ _ _
  split
  · rename_i hc
    exact .inr (.inl ⟨hc, rfl⟩)
  · rename_i hc
    exact .inr (.inr ⟨hq, hb, by omega, rfl⟩)

end Json

namespace Quoting

/-- A string part way through, with nothing wrong in it and no escape open. -/
def ofReversed (cs : List Char) : Quoting := ⟨.text cs, none, .none⟩

theorem takes_plain {c : Char} (hq : c ≠ '"') (hb : c ≠ '\\') (hc : ¬ c.toNat < 0x20)
    (cs : List Char) : (ofReversed cs).Takes [c] (ofReversed (c :: cs)) := by
  refine .single fun next after => ?_
  simp only [ofReversed, step, if_neg hq, if_neg hb, if_neg hc]
  rfl

theorem takes_short {c d : Char} (hu : d ≠ 'u') (h : escaped? d = some c) (cs : List Char) :
    (ofReversed cs).Takes ['\\', d] (ofReversed (c :: cs)) := by
  have h1 : (ofReversed cs).Takes ['\\'] { ofReversed cs with escape := .opened } :=
    .single fun _ _ => rfl
  have h2 : Takes { ofReversed cs with escape := .opened } [d] (ofReversed (c :: cs)) := by
    refine .single fun next after => ?_
    simp only [ofReversed, step, h]
    rfl
  exact h1.trans h2

/-- A digit of a code that is not its last. -/
theorem takes_digit {b d : Nat} (hb : b < 3) (hd : d < 16) (q : Quoting) (n : Nat) :
    Takes { q with escape := .code b (some n) } [Json.hexDigit d]
      { q with escape := .code (b + 1) (some (16 * n + d)) } := by
  refine .single fun next after => ?_
  simp only [step, utf8Size_hexDigit d hd, Option.bind_some, hexValue?_hexDigit d hd]
  rw [if_pos (by omega)]

theorem takes_code {n : Nat} (hn : n < 0x20) (cs : List Char) :
    (ofReversed cs).Takes
      ['\\', 'u', '0', '0', Json.hexDigit (n / 16), Json.hexDigit (n % 16)]
      (ofReversed (Char.ofNat n :: cs)) := by
  let q : Quoting := ofReversed cs
  have h1 : q.Takes ['\\'] { q with escape := .opened } := .single fun _ _ => rfl
  have h2 : Takes { q with escape := .opened } ['u'] { q with escape := .code 0 (some 0) } :=
    .single fun _ _ => rfl
  have h3 := takes_digit (b := 0) (d := 0) (by decide) (by decide) q 0
  have h4 := takes_digit (b := 1) (d := 0) (by decide) (by decide) q 0
  have h5 := takes_digit (b := 2) (d := n / 16) (by decide) (by omega) q 0
  have h6 : Takes { q with escape := .code 3 (some (16 * 0 + n / 16)) } [Json.hexDigit (n % 16)]
      (ofReversed (Char.ofNat n :: cs)) := by
    refine .single fun next after => ?_
    have hd : n % 16 < 16 := by omega
    have hv : 16 * (16 * 0 + n / 16) + n % 16 = n := by omega
    simp only [step, utf8Size_hexDigit _ hd, Option.bind_some, hexValue?_hexDigit _ hd, hv]
    simp only [q, ofReversed, unit]
    rw [if_neg (by omega), if_neg (by omega), if_neg (by omega)]
    rfl
  exact h1.trans (h2.trans (h3.trans (h4.trans (h5.trans h6))))

/-- What is written for a character is read as that character. -/
theorem takes_escapeChar (c : Char) (cs : List Char) :
    (ofReversed cs).Takes (Json.escapeChar c) (ofReversed (c :: cs)) := by
  obtain ⟨d, he, _, hu, hd⟩ | ⟨hc, he⟩ | ⟨hq, hb, hc, he⟩ := Json.escapeChar_cases c
  · rw [he]
    exact takes_short hu hd cs
  · have h := takes_code hc cs
    rw [Char.ofNat_toNat] at h
    rwa [he]
  · rw [he]
    exact takes_plain hq hb (by omega) cs

theorem takes_escaped (cs : List Char) (before : List Char) :
    (ofReversed before).Takes (cs.flatMap Json.escapeChar) (ofReversed (cs.reverse ++ before)) := by
  induction cs generalizing before with
  | nil => exact .refl
  | cons c cs ih =>
    have h := (takes_escapeChar c before).trans (ih (c :: before))
    simpa using h

end Quoting

namespace Reading

open Quoting

/-- A written string is read as the value it was written from. -/
theorem reads_escape (s : String) (stack : List Frame) :
    Reads (.within .value stack) (Json.escape s) (complete (.string (.ok s)) stack) := by
  have h := reads_text (takes_escaped s.toList []) stack
  have h0 : Reads (.within .value stack) ['"'] (.within (.text (ofReversed [])) stack) :=
    .single fun p => rfl
  refine h0.trans (h.snoc fun p => ?_)
  simp [step, Quoting.step, ofReversed, close, settle]

/-- A written string is read as the key it was written from. -/
theorem reads_key (s : String) (done : List (Except Fault String × Draft)) (stack : List Frame) :
    Reads (.within (.nextKey done) stack) (Json.escape s)
      (.within (.colon done (.ok s)) stack) := by
  have h := reads_keyText (takes_escaped s.toList []) done stack
  have h0 : Reads (.within (.nextKey done) stack) ['"']
      (.within (.keyText done (ofReversed [])) stack) := .single fun p => rfl
  refine h0.trans (h.snoc fun p => ?_)
  simp [step, Quoting.step, ofReversed, close, settle]

end Reading

namespace Json

/-! ## No control character is written -/

/-- No control character stands in the text. -/
def Visible (cs : List Char) : Prop := ∀ c ∈ cs, 0x20 ≤ c.toNat

namespace Visible

theorem nil : Visible [] := fun _ h => absurd h List.not_mem_nil

theorem cons {c : Char} {cs : List Char} (hc : 0x20 ≤ c.toNat) (h : Visible cs) :
    Visible (c :: cs) := List.forall_mem_cons.mpr ⟨hc, h⟩

theorem append {cs ds : List Char} (h₁ : Visible cs) (h₂ : Visible ds) : Visible (cs ++ ds) :=
  List.forall_mem_append.mpr ⟨h₁, h₂⟩

theorem ofAll {cs : List Char} (h : cs.all (0x20 ≤ ·.toNat) = true) : Visible cs := by
  simpa [Visible] using h

end Visible

theorem escapeChar_visible (c : Char) : Visible (escapeChar c) := by
  obtain ⟨d, he, hd, _, _⟩ | ⟨hc, he⟩ | ⟨_, _, hc, he⟩ := escapeChar_cases c
  · rw [he]
    exact .cons (by decide) (.cons hd .nil)
  · have h1 := hexDigit_visible (c.toNat / 16) (by omega)
    have h2 := hexDigit_visible (c.toNat % 16) (by omega)
    have h0 : Visible ['\\', 'u', '0', '0'] := .ofAll rfl
    rw [he]
    exact h0.append (.cons h1 (.cons h2 .nil))
  · rw [he]
    exact .cons hc .nil

theorem escape_visible (s : String) : Visible (escape s) := by
  have hinside : Visible (s.toList.flatMap escapeChar) := by
    intro x hx
    obtain ⟨c, _, hx⟩ := List.mem_flatMap.mp hx
    exact escapeChar_visible c x hx
  exact .cons (by decide) (hinside.append (.ofAll rfl))

end Json
end ErrorBoundary
