import ErrorBoundary.Toml.Document
import Mathlib.Data.List.TakeWhile
import Mathlib.Data.Nat.Digits.Defs
import Mathlib.Tactic.Ring

/-!
# ErrorBoundary.Proofs.Toml.Word

Whole numbers of a document: decimal ones with a sign or without, and those to the bases that a
letter behind a zero names; single underscores may stand between digits. Each is read as the number
it writes, or not at all when that does not fit 64 bits (`Toml.readWord?_integer`).

* `Toml.IsInteger`           — how a whole number is written.
* `Toml.isInteger_toString`  — digit by digit, among other ways.
-/

namespace ErrorBoundary
namespace Toml

/-! ## Digits -/

/-- A digit to a base; letters may be of either case. -/
structure IsDigit (base : Nat) (c : Char) (d : Nat) : Prop where
  lt : d < base
  eq : c = d.digitChar ∨ c = d.digitChar.toUpper

/-- Digits, which may have single underscores between them. -/
inductive IsDigits (base : Nat) : List Char → List Nat → Prop where
  | last {c : Char} {d : Nat} : IsDigit base c d → IsDigits base [c] [d]
  | next {c : Char} {d : Nat} {cs : List Char} {ds : List Nat} : IsDigit base c d →
      IsDigits base cs ds → IsDigits base (c :: cs) (d :: ds)
  | under {c : Char} {d : Nat} {cs : List Char} {ds : List Nat} : IsDigit base c d →
      IsDigits base cs ds → IsDigits base (c :: '_' :: cs) (d :: ds)

/-- The number that digits write. -/
def valueOf (base : Nat) (ds : List Nat) : Nat := Nat.ofDigits base ds.reverse

/-- No zero stands in front of others. -/
def LeadsNoZero (cs : List Char) : Prop := ∀ c rest, cs ≠ '0' :: c :: rest

/-- A whole number as it may be written. One to another base than ten has no sign. -/
inductive IsInteger : List Char → Int → Prop where
  | plain {cs : List Char} {ds : List Nat} : IsDigits 10 cs ds → LeadsNoZero cs →
      IsInteger cs (valueOf 10 ds)
  | plus {cs : List Char} {ds : List Nat} : IsDigits 10 cs ds → LeadsNoZero cs →
      IsInteger ('+' :: cs) (valueOf 10 ds)
  | minus {cs : List Char} {ds : List Nat} : IsDigits 10 cs ds → LeadsNoZero cs →
      IsInteger ('-' :: cs) (-(valueOf 10 ds : Int))
  | based {letter : Char} {base : Nat} {cs : List Char} {ds : List Nat} :
      (letter, base) ∈ [('x', 16), ('o', 8), ('b', 2)] → IsDigits base cs ds →
      IsInteger ('0' :: letter :: cs) (valueOf base ds)

/-! ## The digits of a number -/

theorem valueOf_snoc (base : Nat) (ds : List Nat) (d : Nat) :
    valueOf base (ds ++ [d]) = d + base * valueOf base ds := by
  rw [valueOf, List.reverse_append, List.reverse_singleton, List.singleton_append,
    Nat.ofDigits_cons]
  rfl

theorem IsDigits.snoc {base d : Nat} {c : Char} {cs : List Char} {ds : List Nat}
    (h : IsDigits base cs ds) (hc : IsDigit base c d) : IsDigits base (cs ++ [c]) (ds ++ [d]) := by
  induction h with
  | last h => exact .next h (.last hc)
  | next h _ ih => exact .next h ih
  | under h _ ih => exact .under h ih

theorem exists_isDigits_toDigits (m : Nat) :
    ∃ ds, IsDigits 10 (Nat.toDigits 10 m) ds ∧ valueOf 10 ds = m := by
  induction m using Nat.strongRecOn with
  | ind m ih =>
    by_cases h : m < 10
    · rw [Nat.toDigits_of_lt_base h]
      exact ⟨[m], .last ⟨h, .inl rfl⟩, by simp [valueOf]⟩
    · rw [Nat.toDigits_of_base_le (by decide) (by omega)]
      obtain ⟨ds, hds, hvalue⟩ := ih (m / 10) (by omega)
      refine ⟨ds ++ [m % 10], hds.snoc ⟨Nat.mod_lt m (by decide), .inl rfl⟩, ?_⟩
      rw [valueOf_snoc, hvalue]
      omega

theorem leadsNoZero_toDigits (m : Nat) : LeadsNoZero (Nat.toDigits 10 m) := by
  induction m using Nat.strongRecOn with
  | ind m ih =>
    intro c rest heq
    by_cases h : m < 10
    · rw [Nat.toDigits_of_lt_base h] at heq
      simp at heq
    · rw [Nat.toDigits_of_base_le (by decide) (by omega)] at heq
      -- the digits in front of the last one begin with the same zero
      cases hds : Nat.toDigits 10 (m / 10) with
      | nil => exact Nat.toDigits_ne_nil hds
      | cons d ds =>
        rw [hds] at heq
        cases ds with
        | nil =>
          cases heq
          have hzero : m / 10 = 0 := by
            rw [← Nat.ofDigitChars_ten_toDigits (n := m / 10), hds]
            rfl
          omega
        | cons d' ds =>
          cases heq
          exact ih (m / 10) (by omega) _ _ hds

theorem isInteger_toString (n : Int) : IsInteger (toString n).toList n := by
  by_cases hn : 0 ≤ n
  · obtain ⟨m, rfl⟩ := Int.eq_ofNat_of_zero_le hn
    obtain ⟨ds, hds, hvalue⟩ := exists_isDigits_toDigits m
    have htext : (toString (m : Int)).toList = Nat.toDigits 10 m := by
      simp [Int.toString_eq_repr, Int.repr_eq_if]
    have hplain := IsInteger.plain hds (leadsNoZero_toDigits m)
    rwa [hvalue, ← htext] at hplain
  · obtain ⟨m, hm⟩ := Int.eq_ofNat_of_zero_le (a := -n) (by omega)
    have hneg : n = -(m : Int) := by omega
    obtain ⟨ds, hds, hvalue⟩ := exists_isDigits_toDigits m
    have htext : (toString n).toList = '-' :: Nat.toDigits 10 m := by
      have htoNat : (-n).toNat = m := by omega
      simp [Int.toString_eq_repr, Int.repr_eq_if, hn, htoNat]
    have hminus := IsInteger.minus hds (leadsNoZero_toDigits m)
    rwa [hvalue, ← htext, ← hneg] at hminus

/-! ## Reading digits -/

section Digits

variable {base d : Nat} {c : Char} {cs : List Char} {ds : List Nat}

theorem IsDigit.hexValue?_eq (h : IsDigit base c d) (hbase : base ≤ 16) :
    hexValue? c = some d := by
  have hdigits : ∀ d < 16, hexValue? d.digitChar = some d ∧
      hexValue? d.digitChar.toUpper = some d := by decide
  obtain ⟨hlower, hupper⟩ := hdigits d (Nat.lt_of_lt_of_le h.lt hbase)
  rcases h.eq with rfl | rfl
  · exact hlower
  · exact hupper

/-- A character that is no digit to the greatest base is none of these digits. -/
theorem IsDigit.ne (h : IsDigit base c d) (hbase : base ≤ 16) {stop : Char}
    (hstop : hexValue? stop = none) : c ≠ stop := by
  rintro rfl
  rw [h.hexValue?_eq hbase] at hstop
  cases hstop

theorem IsDigit.isDigit_eq (h : IsDigit 10 c d) : c.isDigit = true := by
  have hdigits : ∀ d < 10, d.digitChar.isDigit = true ∧ d.digitChar.toUpper.isDigit = true := by
    decide
  obtain ⟨hlower, hupper⟩ := hdigits d h.lt
  rcases h.eq with rfl | rfl
  · exact hlower
  · exact hupper

/-- Digits and underscores are all that such a text has. -/
theorem IsDigits.mem (h : IsDigits base cs ds) (hc : c ∈ cs) :
    c = '_' ∨ ∃ d, IsDigit base c d := by
  induction h with
  | last h =>
    rw [List.mem_singleton] at hc
    exact .inr ⟨_, hc ▸ h⟩
  | next h _ ih =>
    rcases List.mem_cons.mp hc with rfl | hc
    · exact .inr ⟨_, h⟩
    · exact ih hc
  | under h _ ih =>
    rcases List.mem_cons.mp hc with rfl | hc
    · exact .inr ⟨_, h⟩
    · rcases List.mem_cons.mp hc with rfl | hc
      · exact .inl rfl
      · exact ih hc

theorem IsDigits.eq_cons (h : IsDigits base cs ds) :
    ∃ c d rest, cs = c :: rest ∧ IsDigit base c d := by
  cases h with
  | last h => exact ⟨_, _, _, rfl, h⟩
  | next h _ => exact ⟨_, _, _, rfl, h⟩
  | under h _ => exact ⟨_, _, _, rfl, h⟩

theorem digits?_cons {isDigit : Char → Bool} {rest : List Char} (hc : isDigit c = true)
    (hrest : rest ≠ []) (hunder : rest.head? ≠ some '_') :
    digits? isDigit (c :: rest) = (digits? isDigit rest).map (c :: ·) := by
  cases rest with
  | nil => exact absurd rfl hrest
  | cons d rest =>
    have hd : d ≠ '_' := by simpa using hunder
    rw [digits?]
    · rw [if_pos hc]
    · simp
    · simp [hd]

theorem IsDigit.filter_cons (h : IsDigit base c d) (hbase : base ≤ 16) (rest : List Char) :
    (c :: rest).filter (· != '_') = c :: rest.filter (· != '_') := by
  have hkeep : (c != '_') = true := by simpa using h.ne hbase (show hexValue? '_' = none from rfl)
  rw [List.filter_cons, if_pos hkeep]

theorem IsDigits.digits?_eq {isDigit : Char → Bool} (h : IsDigits base cs ds)
    (hbase : base ≤ 16) (hdigit : ∀ c d, IsDigit base c d → isDigit c = true) :
    digits? isDigit cs = some (cs.filter (· != '_')) := by
  induction h with
  | last h => rw [digits?, if_pos (hdigit _ _ h), h.filter_cons hbase]; rfl
  | next h hrest ih =>
    obtain ⟨c', d', rest, rfl, hc'⟩ := hrest.eq_cons
    have hunder : (c' :: rest).head? ≠ some '_' := by
      simpa using hc'.ne hbase (show hexValue? '_' = none from rfl)
    rw [digits?_cons (hdigit _ _ h) (List.cons_ne_nil c' rest) hunder, ih, h.filter_cons hbase]
    rfl
  | under h _ ih =>
    rw [digits?, if_pos (hdigit _ _ h), ih, h.filter_cons hbase]
    rfl

theorem foldl_digits (ds : List Nat) (n : Nat) :
    ds.foldl (fun n d => base * n + d) n = base ^ ds.length * n + valueOf base ds := by
  induction ds generalizing n with
  | nil => simp [valueOf]
  | cons d ds ih =>
    rw [List.foldl_cons, ih, valueOf, valueOf, List.reverse_cons, Nat.ofDigits_append,
      Nat.ofDigits_singleton, List.length_reverse, List.length_cons]
    ring

theorem IsDigits.natOfBase_eq (h : IsDigits base cs ds) (hbase : base ≤ 16) :
    natOfBase base (cs.filter (· != '_')) = valueOf base ds := by
  have hfold : ∀ n, (cs.filter (· != '_')).foldl (fun n c => base * n + (hexValue? c).getD 0) n =
      ds.foldl (fun n d => base * n + d) n := by
    induction h with
    | last h =>
      intro n
      rw [h.filter_cons hbase, List.foldl_cons, h.hexValue?_eq hbase]
      rfl
    | next h _ ih =>
      intro n
      rw [h.filter_cons hbase, List.foldl_cons, List.foldl_cons, h.hexValue?_eq hbase, ← ih]
      rfl
    | under h _ ih =>
      intro n
      rw [h.filter_cons hbase, List.foldl_cons, List.foldl_cons, h.hexValue?_eq hbase, ← ih]
      rfl
  rw [natOfBase, hfold, foldl_digits, Nat.mul_zero, Nat.zero_add]

end Digits

/-! ## Reading whole numbers -/

section Whole

variable {cs whole : List Char} {ds : List Nat} {negative : Bool}

theorem decimal?_eq (h : IsDigits 10 cs ds) (hzero : LeadsNoZero cs) :
    decimal? cs = some (cs.filter (· != '_')) := by
  rw [decimal?, h.digits?_eq (by decide) fun _ _ => IsDigit.isDigit_eq]
  split
  · rename_i c rest heq
    cases h with
    | last h =>
      rw [h.filter_cons (by decide)] at heq
      cases heq
    | next h hrest =>
      rw [h.filter_cons (by decide)] at heq
      injection heq with heq
      injection heq with hc _
      obtain ⟨_, _, _, rfl, _⟩ := hrest.eq_cons
      exact absurd (by rw [hc]) (hzero _ _)
    | under h _ =>
      rw [h.filter_cons (by decide)] at heq
      injection heq with heq
      injection heq with hc _
      exact absurd (by rw [hc]) (hzero _ _)
  · rfl

theorem IsDigits.splitSign_eq (h : IsDigits 10 cs ds) : splitSign cs = (false, cs) := by
  obtain ⟨c, d, rest, rfl, hc⟩ := h.eq_cons
  unfold splitSign
  split
  · rename_i heq
    exact absurd (List.cons.inj heq).1 (hc.ne (by decide) rfl)
  · rename_i heq
    exact absurd (List.cons.inj heq).1 (hc.ne (by decide) rfl)
  · rfl

/-- To the base of ten, where no zero leads. -/
theorem ofInteger?_of_sign (hwhole : LeadsNoZero whole) (hsign : splitSign whole = (negative, cs))
    (h : IsDigits 10 cs ds) (hzero : LeadsNoZero cs) :
    ofInteger? whole =
      integer? (if negative then -(valueOf 10 ds : Int) else valueOf 10 ds) := by
  unfold ofInteger?
  split
  · exact absurd rfl (hwhole _ _)
  · exact absurd rfl (hwhole _ _)
  · exact absurd rfl (hwhole _ _)
  · rw [hsign]
    simp only [decimal?_eq h hzero, Option.bind_some, h.natOfBase_eq (by decide)]

/-- A double has a point or an exponent. -/
theorem ofReal?_of_sign (hsign : splitSign whole = (negative, cs)) (h : IsDigits 10 cs ds) :
    ofReal? whole = none := by
  have hnot : ∀ c ∈ cs, ∀ stop, stop ≠ '_' → ¬ stop.isDigit = true → c ≠ stop := by
    intro c hc stop hunder hstop
    rcases h.mem hc with rfl | ⟨d, hd⟩
    · exact hunder.symm
    · rintro rfl
      exact hstop hd.isDigit_eq
  have hmark : cs.takeWhile (fun c => !isMark c) = cs := by
    rw [List.takeWhile_eq_self_iff]
    intro c hc
    have he := hnot c hc 'e' (by decide) (by decide)
    have hE := hnot c hc 'E' (by decide) (by decide)
    simp [isMark, he, hE]
  have hpoint : cs.takeWhile (· != '.') = cs := by
    rw [List.takeWhile_eq_self_iff]
    intro c hc
    simpa using hnot c hc '.' (by decide) (by decide)
  have hword : cs ≠ ['i', 'n', 'f'] ∧ cs ≠ ['n', 'a', 'n'] := by
    constructor
    · rintro rfl
      exact absurd rfl (hnot 'n' (by simp) 'n' (by decide) (by decide))
    · rintro rfl
      exact absurd rfl (hnot 'n' (by simp) 'n' (by decide) (by decide))
  unfold ofReal?
  rw [hsign]
  simp only [hmark, hpoint, hword.1, hword.2, if_false, and_self, if_true]

/-- The letter of a base is no digit, so it is in no double either. -/
theorem ofReal?_based {letter : Char} (hdigit : letter.isDigit = false)
    (hletter : letter ∉ ['_', '.', 'e', 'E']) : ofReal? ('0' :: letter :: cs) = none := by
  simp only [List.mem_cons, List.not_mem_nil, or_false, not_or] at hletter
  obtain ⟨hunder, hpoint, he, hE⟩ := hletter
  have hnone : ∀ rest, decimal? ('0' :: letter :: rest) = none := by
    intro rest
    have hdigits : digits? Char.isDigit ('0' :: letter :: rest) = none := by
      rw [digits?_cons rfl (List.cons_ne_nil _ _) (by simpa using hunder)]
      unfold digits?
      split <;> simp_all
    rw [decimal?, hdigits]
  have hsignificand : ('0' :: letter :: cs).takeWhile (fun c => !isMark c) =
      '0' :: letter :: cs.takeWhile fun c => !isMark c := by
    simp [isMark, he, hE]
  have hwhole : ∀ rest, ('0' :: letter :: rest).takeWhile (· != '.') =
      '0' :: letter :: rest.takeWhile (· != '.') := by
    intro rest
    simp [hpoint]
  unfold ofReal?
  rw [show splitSign ('0' :: letter :: cs) = (false, '0' :: letter :: cs) from rfl]
  simp only [hsignificand, hwhole, hnone]
  simp

theorem ofInteger?_based {letter : Char} {base : Nat}
    (hletter : (letter, base) ∈ [('x', 16), ('o', 8), ('b', 2)]) (h : IsDigits base cs ds) :
    ofInteger? ('0' :: letter :: cs) = integer? (valueOf base ds) := by
  have hbase : ∀ isDigit : Char → Bool, base ≤ 16 → (∀ c d, IsDigit base c d → isDigit c = true) →
      ofBase? base isDigit cs = integer? (valueOf base ds) := by
    intro isDigit hle hdigit
    rw [ofBase?, h.digits?_eq hle hdigit, Option.bind_some, h.natOfBase_eq hle]
  simp only [List.mem_cons, Prod.mk.injEq, List.not_mem_nil, or_false] at hletter
  rcases hletter with ⟨rfl, rfl⟩ | ⟨rfl, rfl⟩ | ⟨rfl, rfl⟩
  · refine hbase _ (by decide) fun c d hc => ?_
    rw [hc.hexValue?_eq (by decide)]
    rfl
  · have hdigits : ∀ d < 8, ('0' ≤ d.digitChar && d.digitChar ≤ '7') = true ∧
        ('0' ≤ d.digitChar.toUpper && d.digitChar.toUpper ≤ '7') = true := by decide
    refine hbase _ (by decide) fun c d hc => ?_
    rcases hc.eq with rfl | rfl
    · exact (hdigits d hc.lt).1
    · exact (hdigits d hc.lt).2
  · have hdigits : ∀ d < 2, (d.digitChar == '0' || d.digitChar == '1') = true ∧
        (d.digitChar.toUpper == '0' || d.digitChar.toUpper == '1') = true := by decide
    refine hbase _ (by decide) fun c d hc => ?_
    rcases hc.eq with rfl | rfl
    · exact (hdigits d hc.lt).1
    · exact (hdigits d hc.lt).2

/-- Behind its first character a whole number has neither the dash of a day nor the colon of a time
of day. -/
theorem ofChars?_eq_none {c : Char} (h : ∀ d ∈ cs, d ≠ '-' ∧ d ≠ ':') :
    Day.read? (c :: cs) = none ∧ Moment.ofChars? (c :: cs) = none := by
  have hday : Day.read? (c :: cs) = none := by
    unfold Day.read?
    split
    · rename_i heq
      cases heq
      exact absurd rfl (h '-' (by simp)).1
    · rfl
  have htime : TimeOfDay.read? (c :: cs) = none := by
    unfold TimeOfDay.read?
    split
    · rename_i heq
      cases heq
      exact absurd rfl (h ':' (by simp)).2
    · rfl
  exact ⟨hday, by simp only [Moment.ofChars?, hday, htime]⟩

theorem IsDigits.isKeyChar {base : Nat} (h : IsDigits base cs ds) (hbase : base ≤ 16) :
    ∀ c ∈ cs, isKeyChar c = true ∧ c ≠ '-' := by
  intro c hc
  rcases h.mem hc with rfl | ⟨d, hd⟩
  · decide
  · have hdigits : ∀ d < 16, (Toml.isKeyChar d.digitChar = true ∧ d.digitChar ≠ '-') ∧
        (Toml.isKeyChar d.digitChar.toUpper = true ∧ d.digitChar.toUpper ≠ '-') := by decide
    obtain ⟨hlower, hupper⟩ := hdigits d (Nat.lt_of_lt_of_le hd.lt hbase)
    rcases hd.eq with rfl | rfl
    · exact hlower
    · exact hupper

/-- A whole number begins with a sign or a digit, and no sign follows. -/
theorem IsInteger.eq_cons {n : Int} (h : IsInteger whole n) :
    ∃ c rest, whole = c :: rest ∧ (c = '+' ∨ c = '-' ∨ c.isDigit = true) ∧
      ∀ d ∈ rest, isKeyChar d = true ∧ d ≠ '-' := by
  cases h with
  | plain h _ =>
    obtain ⟨c, d, rest, rfl, hc⟩ := h.eq_cons
    exact ⟨c, rest, rfl, .inr (.inr hc.isDigit_eq), fun d hd =>
      h.isKeyChar (by decide) d (List.mem_cons_of_mem c hd)⟩
  | plus h _ => exact ⟨'+', _, rfl, .inl rfl, h.isKeyChar (by decide)⟩
  | minus h _ => exact ⟨'-', _, rfl, .inr (.inl rfl), h.isKeyChar (by decide)⟩
  | based hletter h =>
    refine ⟨'0', _, rfl, .inr (.inr rfl), fun d hd => ?_⟩
    simp only [List.mem_cons, Prod.mk.injEq, List.not_mem_nil, or_false] at hletter
    rcases hletter with ⟨rfl, rfl⟩ | ⟨rfl, rfl⟩ | ⟨rfl, rfl⟩ <;>
      rcases List.mem_cons.mp hd with rfl | hd
    any_goals decide
    all_goals exact h.isKeyChar (by decide) d hd

theorem IsInteger.isWordChar {n : Int} (h : IsInteger whole n) :
    ∀ c ∈ whole, isWordChar c = true := by
  obtain ⟨c, rest, rfl, hc, hrest⟩ := h.eq_cons
  intro d hd
  rcases List.mem_cons.mp hd with rfl | hd
  · rcases hc with rfl | rfl | hc
    · rfl
    · rfl
    · simp [Toml.isWordChar, isKeyChar, Char.isAlphanum, hc]
  · simp [Toml.isWordChar, (hrest d hd).1]

/-- The word of a whole number is that number, or none when it does not fit 64 bits. -/
theorem ofWord?_integer {n : Int} (h : IsInteger whole n) : ofWord? whole = integer? n := by
  obtain ⟨c, rest, hwhole, hc, hrest⟩ := h.eq_cons
  have hmoment : Moment.ofChars? whole = none := by
    rw [hwhole]
    refine (ofChars?_eq_none fun d hd => ⟨(hrest d hd).2, ?_⟩).2
    rintro rfl
    exact absurd (hrest ':' hd).1 (by decide)
  have hword : whole ≠ ['t', 'r', 'u', 'e'] ∧ whole ≠ ['f', 'a', 'l', 's', 'e'] := by
    constructor
    all_goals
      rw [hwhole]
      intro heq
      obtain ⟨rfl, -⟩ := List.cons.inj heq
      exact absurd hc (by decide)
  have hread : ofInteger? whole = integer? n ∧ ofReal? whole = none := by
    cases h with
    | plain h hzero =>
      have hinteger := ofInteger?_of_sign hzero h.splitSign_eq h hzero
      rw [if_neg Bool.false_ne_true] at hinteger
      exact ⟨hinteger, ofReal?_of_sign h.splitSign_eq h⟩
    | plus h hzero =>
      have hinteger := ofInteger?_of_sign (fun _ _ heq => by cases heq) (splitSign.eq_1 _) h hzero
      rw [if_neg Bool.false_ne_true] at hinteger
      exact ⟨hinteger, ofReal?_of_sign (splitSign.eq_1 _) h⟩
    | minus h hzero =>
      have hinteger := ofInteger?_of_sign (fun _ _ heq => by cases heq) (splitSign.eq_2 _) h hzero
      rw [if_pos rfl] at hinteger
      exact ⟨hinteger, ofReal?_of_sign (splitSign.eq_2 _) h⟩
    | based hletter h =>
      refine ⟨ofInteger?_based hletter h, ?_⟩
      simp only [List.mem_cons, Prod.mk.injEq, List.not_mem_nil, or_false] at hletter
      rcases hletter with ⟨rfl, _⟩ | ⟨rfl, _⟩ | ⟨rfl, _⟩ <;> exact ofReal?_based rfl (by decide)
  rw [ofWord?, if_neg hword.1, if_neg hword.2, hmoment, hread.1, hread.2]
  cases integer? n with
  | none => rfl
  | some v => rfl

/-- What may follow a value: neither a character of a word nor a quote. -/
def Stops (rest : List Char) : Prop :=
  ∀ c, rest.head? = some c → isWordChar c = false ∧ c ≠ '"' ∧ c ≠ '\''

theorem readWord?_of_stops {rest : List Char} (hword : ∀ c ∈ whole, isWordChar c = true)
    (hday : Day.read? whole = none) (hrest : Stops rest) :
    readWord? (whole ++ rest) = (ofWord? whole).map fun v => (v, rest) := by
  have hspan : (whole ++ rest).takeWhile isWordChar = whole ∧
      (whole ++ rest).dropWhile isWordChar = rest := by
    rw [List.takeWhile_append_of_pos hword, List.dropWhile_append_of_pos hword]
    cases rest with
    | nil => simp
    | cons c rest => simp [(hrest c rfl).1]
  have hisDay : isDay whole = false := by rw [isDay, hday]
  unfold readWord?
  simp only [hspan.1, hspan.2, hisDay, Bool.false_and, Bool.false_eq_true, if_false]
  split <;> rfl

theorem readWord?_integer {n : Int} {rest : List Char} (h : IsInteger whole n)
    (hrest : Stops rest) :
    readWord? (whole ++ rest) = (integer? n).map fun v => (v, rest) := by
  rw [readWord?_of_stops h.isWordChar ?_ hrest, ofWord?_integer h]
  obtain ⟨c, cs, rfl, _, hcs⟩ := h.eq_cons
  refine (ofChars?_eq_none fun d hd => ⟨(hcs d hd).2, ?_⟩).1
  rintro rfl
  exact absurd (hcs ':' hd).1 (by decide)

theorem readWord?_bool {rest : List Char} (b : Bool) (hrest : Stops rest) :
    readWord? ((toString b).toList ++ rest) = some (.bool b, rest) := by
  cases b with
  | false =>
    have hchars : (toString false).toList = ['f', 'a', 'l', 's', 'e'] := rfl
    rw [hchars, readWord?_of_stops (List.all_eq_true.mp rfl) rfl hrest]
    rfl
  | true =>
    have hchars : (toString true).toList = ['t', 'r', 'u', 'e'] := rfl
    rw [hchars, readWord?_of_stops (List.all_eq_true.mp rfl) rfl hrest]
    rfl

end Whole

end Toml
end ErrorBoundary
