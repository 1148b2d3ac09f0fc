import ErrorBoundary.Decimal.Written
import Mathlib.Data.List.TakeWhile

/-!
# ErrorBoundary.Proofs.Numbers

The numbers that people write into settings: what a text has to look like to be one, and which one
it is then.

* `IsNumeral`, `natOfText?_eq_some_iff`        — natural numbers.
* `IsWhole`, `intOfText?_eq_some_iff`          — whole numbers with a sign or without.
* `IsDouble`, `Binary64.ofText?_eq_some_iff`   — doubles.
-/

namespace ErrorBoundary

/-! ## What is written -/

/-- Digits, at least one, and the number that they write. -/
structure IsNumeral (ds : List Char) (n : Nat) : Prop where
  ne_nil : ds ≠ []
  isDigit : ∀ c ∈ ds, c.isDigit = true
  value : Nat.ofDigitChars 10 ds 0 = n

inductive IsWhole : List Char → Int → Prop where
  | plain {ds : List Char} {n : Nat} : IsNumeral ds n → IsWhole ds n
  | plus {ds : List Char} {n : Nat} : IsNumeral ds n → IsWhole ('+' :: ds) n
  | minus {ds : List Char} {n : Nat} : IsNumeral ds n → IsWhole ('-' :: ds) (-(n : Int))

/-- A power of ten: none, or a mark and a whole number. -/
inductive IsExponent : List Char → Int → Prop where
  | missing : IsExponent [] 0
  | marked {mark : Char} {cs : List Char} {e : Int} : mark = 'e' ∨ mark = 'E' → IsWhole cs e →
      IsExponent (mark :: cs) e

/-- Digits that may have a point in front, between them or behind: the number of all digits, and
the power of ten that it is to be taken times. -/
inductive IsDecimal : List Char → Nat → Int → Prop where
  | whole {ds cs : List Char} {n : Nat} {e : Int} : IsNumeral ds n → IsExponent cs e →
      IsDecimal (ds ++ cs) n e
  | point {whole fraction cs : List Char} {n : Nat} {e : Int} :
      (∀ c ∈ whole, c.isDigit = true) → (∀ c ∈ fraction, c.isDigit = true) →
      IsNumeral (whole ++ fraction) n → IsExponent cs e →
      IsDecimal (whole ++ '.' :: (fraction ++ cs)) n (e - fraction.length)

/-- A double behind its sign. -/
inductive IsMagnitude (negative : Bool) : List Char → Binary64 → Prop where
  | infinite {cs : List Char} : String.ofList (cs.map Char.toLower) ∈ ["inf", "infinity"] →
      IsMagnitude negative cs (.infinite negative)
  | nan {cs : List Char} : String.ofList (cs.map Char.toLower) = "nan" →
      IsMagnitude negative cs .nan
  | decimal {cs : List Char} {n : Nat} {e : Int} : IsDecimal cs n e →
      IsMagnitude negative cs (.ofDecimal negative n e)

inductive IsDouble : List Char → Binary64 → Prop where
  | plain {cs : List Char} {x : Binary64} : IsMagnitude false cs x → IsDouble cs x
  | plus {cs : List Char} {x : Binary64} : IsMagnitude false cs x → IsDouble ('+' :: cs) x
  | minus {cs : List Char} {x : Binary64} : IsMagnitude true cs x → IsDouble ('-' :: cs) x

/-! ## Digits -/

section Digits

variable {ds cs : List Char} {n : Nat}

theorem digitValue?_eq_some_iff {c : Char} {d : Nat} :
    digitValue? c = some d ↔ c.isDigit = true ∧ c.toNat - '0'.toNat = d := by
  have hrange : ('0' ≤ c ∧ c ≤ '9') ↔ c.isDigit = true := by
    simp [Char.isDigit, Char.le_def]
  rw [digitValue?]
  split
  · rename_i hc
    simp [hrange.mp hc]
  · rename_i hc
    simp [mt hrange.mpr hc]

/-- Digit by digit: what follows `some a` writes on, and nothing follows `none`. -/
theorem foldl_eq_some_iff {next : Option Nat → Char → Option Nat}
    (hnone : ∀ c, next none c = none)
    (hother : ∀ a c, digitValue? c = none → next (some a) c = none)
    (hdigit : ∀ a c d, digitValue? c = some d → next (some a) c = some (10 * a + d))
    (ds : List Char) (a : Nat) : ds.foldl next (some a) = some n ↔
      (∀ c ∈ ds, c.isDigit = true) ∧ Nat.ofDigitChars 10 ds a = n := by
  have hstop : ∀ ds : List Char, ds.foldl next none = none := by
    intro ds
    induction ds with
    | nil => rfl
    | cons c ds ih => rwa [List.foldl_cons, hnone]
  induction ds generalizing a with
  | nil => simp [Nat.ofDigitChars]
  | cons c ds ih =>
    rw [List.foldl_cons, Nat.ofDigitChars_cons, List.forall_mem_cons]
    cases hd : digitValue? c with
    | none =>
      have hc : ¬ c.isDigit = true := fun hc => by
        rw [digitValue?_eq_some_iff.mpr ⟨hc, rfl⟩] at hd
        cases hd
      simp [hother a c hd, hstop, hc]
    | some d =>
      obtain ⟨hc, rfl⟩ := digitValue?_eq_some_iff.mp hd
      rw [hdigit a c _ hd]
      exact (ih _).trans (by simp [hc])

theorem natOfDigits?_eq_some_iff : natOfDigits? ds = some n ↔ IsNumeral ds n := by
  rw [natOfDigits?]
  cases ds with
  | nil =>
    rw [if_pos List.isEmpty_nil]
    exact ⟨nofun, fun h => absurd rfl h.ne_nil⟩
  | cons c ds =>
    rw [if_neg (by simp)]
    refine (foldl_eq_some_iff (fun _ => rfl) (fun a c hc => ?_) (fun a c d hc => ?_) _ 0).trans ?_
    · rw [hc]
    · rw [hc]
    exact ⟨fun h => ⟨List.cons_ne_nil c ds, h.1, h.2⟩, fun h => ⟨h.isDigit, h.value⟩⟩

/-- Digits begin with no sign. -/
theorem IsNumeral.ne_cons (h : IsNumeral ds n) {c : Char} (hc : c.isDigit = false)
    (rest : List Char) : ds ≠ c :: rest := by
  rintro rfl
  rw [h.isDigit c List.mem_cons_self] at hc
  cases hc

theorem natOfText?_eq_some_iff {s : String} :
    natOfText? s = some n ↔ IsNumeral s.toList n ∨ ∃ ds, s.toList = '+' :: ds ∧ IsNumeral ds n := by
  unfold natOfText?
  split
  · rename_i ds hs
    rw [natOfDigits?_eq_some_iff, hs]
    refine ⟨fun h => .inr ⟨ds, rfl, h⟩, ?_⟩
    rintro (h | ⟨ds', heq, h⟩)
    · exact absurd rfl (h.ne_cons rfl ds)
    · rwa [(List.cons.inj heq).2]
  · rename_i hne
    rw [natOfDigits?_eq_some_iff]
    refine ⟨.inl, ?_⟩
    rintro (h | ⟨ds, heq, _⟩)
    · exact h
    · exact absurd heq (hne ds)

theorem intOfText?_eq_some_iff {s : String} {n : Int} :
    intOfText? s = some n ↔ IsWhole s.toList n := by
  have hsome : ∀ (ds : List Char) (f : Int → Int),
      (natOfDigits? ds >>= fun m => pure (m : Int)).map f = some n ↔
        ∃ m : Nat, IsNumeral ds m ∧ f m = n := by
    intro ds f
    simp only [← natOfDigits?_eq_some_iff]
    cases natOfDigits? ds <;> simp [eq_comm]
  unfold intOfText?
  split
  · rename_i ds hs
    rw [hsome, hs]
    constructor
    · rintro ⟨m, hm, rfl⟩
      exact .minus hm
    · intro h
      cases h with
      | plain h => exact absurd rfl (h.ne_cons rfl ds)
      | minus h => exact ⟨_, h, rfl⟩
  · rename_i ds hs
    rw [hsome, hs]
    constructor
    · rintro ⟨m, hm, rfl⟩
      exact .plus hm
    · intro h
      cases h with
      | plain h => exact absurd rfl (h.ne_cons rfl ds)
      | plus h => exact ⟨_, h, rfl⟩
  · rename_i hminus hplus
    rw [hsome]
    constructor
    · rintro ⟨m, hm, rfl⟩
      exact .plain hm
    · intro h
      generalize hs : s.toList = cs at h hminus hplus
      cases h with
      | plain h => exact ⟨_, h, rfl⟩
      | plus h => exact absurd rfl (hplus _)
      | minus h => exact absurd rfl (hminus _)

end Digits

/-! ## Doubles -/

section Doubles

variable {cs ds rest : List Char} {n : Nat} {e : Int} {negative : Bool} {x : Binary64}

theorem span_isDigit (hds : ∀ c ∈ ds, c.isDigit = true)
    (hrest : ∀ c, rest.head? = some c → c.isDigit = false) :
    (ds ++ rest).takeWhile Char.isDigit = ds ∧ (ds ++ rest).dropWhile Char.isDigit = rest := by
  rw [List.takeWhile_append_of_pos hds, List.dropWhile_append_of_pos hds]
  cases rest with
  | nil => simp
  | cons c rest => simp [hrest c rfl]

theorem IsExponent.head? (h : IsExponent cs e) :
    ∀ c, cs.head? = some c → c = 'e' ∨ c = 'E' := by
  intro c hc
  cases h with
  | missing => cases hc
  | marked hmark _ =>
    cases hc
    exact hmark

theorem IsExponent.isDigit_head? (h : IsExponent cs e) :
    ∀ c, cs.head? = some c → c.isDigit = false := by
  intro c hc
  rcases h.head? c hc with rfl | rfl <;> rfl

theorem exponentOfChars?_eq_some_iff (hmark : ∀ c, cs.head? = some c → c = 'e' ∨ c = 'E') :
    Binary64.exponentOfChars? cs = some e ↔ IsExponent cs e := by
  cases cs with
  | nil =>
    rw [Binary64.exponentOfChars?]
    constructor
    · rintro h
      cases h
      exact .missing
    · intro h
      cases h
      rfl
  | cons c rest =>
    rw [Binary64.exponentOfChars?, intOfText?_eq_some_iff, String.toList_ofList]
    constructor
    · exact .marked (hmark c rfl)
    · intro h
      cases h with
      | marked _ h => exact h

theorem all_mark_iff :
    (cs.head?.all fun c => c == 'e' || c == 'E') = true ↔
      ∀ c, cs.head? = some c → c = 'e' ∨ c = 'E' := by
  cases cs with
  | nil => simp
  | cons c rest => simp

theorem ofChars?_eq_some_iff :
    Binary64.ofChars? negative cs = some x ↔
      ∃ n e, IsDecimal cs n e ∧ x = .ofDecimal negative n e := by
  have hread : ∀ (whole fraction rest : List Char) (r : Option Binary64),
      (∀ n e, natOfDigits? (whole ++ fraction) = some n → Binary64.exponentOfChars? rest = some e →
        r = some (.ofDecimal negative n (e - fraction.length))) →
      (natOfDigits? (whole ++ fraction) = none ∨ Binary64.exponentOfChars? rest = none → r = none) →
      ((if rest.head?.all fun c => c == 'e' || c == 'E' then r else none) = some x ↔
        ∃ n e, IsNumeral (whole ++ fraction) n ∧ IsExponent rest e ∧
          x = .ofDecimal negative n (e - fraction.length)) := by
    intro whole fraction rest r hsome hnone
    by_cases hmark : ∀ c, rest.head? = some c → c = 'e' ∨ c = 'E'
    · rw [if_pos (all_mark_iff.mpr hmark)]
      simp only [← natOfDigits?_eq_some_iff, ← exponentOfChars?_eq_some_iff hmark]
      cases hn : natOfDigits? (whole ++ fraction) with
      | none => simp [hnone (.inl hn)]
      | some n =>
        cases he : Binary64.exponentOfChars? rest with
        | none => simp [hnone (.inr he)]
        | some e => simp [hsome n e hn he, eq_comm]
    · rw [if_neg (mt all_mark_iff.mp hmark)]
      refine ⟨nofun, ?_⟩
      rintro ⟨n, e, _, he, _⟩
      exact absurd he.head? hmark
  have hdigits : ∀ (l : List Char), ∀ c ∈ l.takeWhile Char.isDigit, c.isDigit = true :=
    fun l c hc => List.mem_takeWhile_imp hc
  have hpoint : ∀ (l : List Char) (c : Char), ('.' :: l).head? = some c → c.isDigit = false := by
    intro l c hc
    cases hc
    rfl
  unfold Binary64.ofChars?
  split
  rename_i fraction rest' heq
  split at heq
  · rename_i rest hdrop
    obtain ⟨rfl, rfl⟩ := Prod.mk.inj heq
    have hcs : cs = cs.takeWhile Char.isDigit ++ '.' :: (rest.takeWhile Char.isDigit ++
        rest.dropWhile Char.isDigit) := by
      rw [List.takeWhile_append_dropWhile, ← hdrop, List.takeWhile_append_dropWhile]
    refine (hread _ _ _ _ (fun n e hn he => by rw [hn, he]) ?_).trans ?_
    · rintro (hn | he)
      · rw [hn]
      · rw [he]
        split
        · rename_i heq
          cases heq
        · rfl
    constructor
    · rintro ⟨n, e, hn, he, rfl⟩
      refine ⟨n, _, ?_, rfl⟩
      rw [hcs]
      exact .point (hdigits cs) (hdigits rest) hn he
    · rintro ⟨n, e, hdecimal, rfl⟩
      cases hdecimal with
      | whole hn he =>
        rw [(span_isDigit hn.isDigit he.isDigit_head?).2] at hdrop
        rw [hdrop] at he
        exact absurd (he.head? '.' rfl) (by decide)
      | point hwhole hfraction hn he =>
        obtain ⟨htake, hdrop'⟩ := span_isDigit hwhole (hpoint _)
        rw [hdrop'] at hdrop
        obtain ⟨-, rfl⟩ := List.cons.inj hdrop
        obtain ⟨htake', hdrop''⟩ := span_isDigit hfraction he.isDigit_head?
        rw [htake, htake', hdrop'']
        exact ⟨n, _, hn, he, rfl⟩
  · rename_i hne
    obtain ⟨rfl, rfl⟩ := Prod.mk.inj heq
    refine (hread _ _ _ _ (fun n e hn he => by rw [hn, he]) ?_).trans ?_
    · rintro (hn | he)
      · rw [hn]
      · rw [he]
        split
        · rename_i heq
          cases heq
        · rfl
    rw [List.append_nil, List.length_nil]
    constructor
    · rintro ⟨n, e, hn, he, rfl⟩
      refine ⟨n, e, ?_, by simp⟩
      have hwhole := IsDecimal.whole hn he
      rwa [List.takeWhile_append_dropWhile] at hwhole
    · rintro ⟨n, e, hdecimal, rfl⟩
      cases hdecimal with
      | whole hn he =>
        obtain ⟨htake, hdrop⟩ := span_isDigit hn.isDigit he.isDigit_head?
        rw [htake, hdrop]
        exact ⟨n, e, hn, he, by simp⟩
      | point hwhole _ _ _ => exact absurd (span_isDigit hwhole (hpoint _)).2 (hne _)

/-- Digits begin with a digit or with the point. -/
theorem IsDecimal.eq_cons (h : IsDecimal cs n e) :
    ∃ c rest, cs = c :: rest ∧ (c.isDigit = true ∨ c = '.') := by
  have hcons : ∀ {ds tail : List Char}, (∀ c ∈ ds, c.isDigit = true) → ds ≠ [] →
      ∃ c rest, ds ++ tail = c :: rest ∧ (c.isDigit = true ∨ c = '.') := by
    intro ds tail hds hne
    cases ds with
    | nil => exact absurd rfl hne
    | cons c ds => exact ⟨c, _, rfl, .inl (hds c List.mem_cons_self)⟩
  cases h with
  | whole hn _ => exact hcons hn.isDigit hn.ne_nil
  | @point whole _ _ _ _ hwhole _ _ _ =>
    by_cases hne : whole = []
    · subst hne
      exact ⟨'.', _, rfl, .inr rfl⟩
    · exact hcons hwhole hne

/-- A word in either case begins with its letter in either case. -/
theorem eq_cons_of_lower {word : String} {letter : Char} {tail : List Char}
    (hword : word.toList = letter :: tail) (h : String.ofList (cs.map Char.toLower) = word) :
    ∃ c rest, cs = c :: rest ∧ c.toLower = letter := by
  rw [← h, String.toList_ofList] at hword
  cases cs with
  | nil => cases hword
  | cons c rest => exact ⟨c, rest, rfl, (List.cons.inj hword).1⟩

theorem toLower_of_isDigit {c : Char} (h : c.isDigit = true) : c.toLower = c := by
  simp only [Char.isDigit, Bool.and_eq_true, decide_eq_true_eq, UInt32.le_iff_toNat_le] at h
  refine dif_neg ?_
  rintro ⟨hlow, _⟩
  rw [ge_iff_le, UInt32.le_iff_toNat_le] at hlow
  have hnine : '9'.val.toNat = 57 := rfl
  have hA : 'A'.val.toNat = 65 := rfl
  omega

/-- Digits are none of the words. -/
theorem IsDecimal.lower_ne (h : IsDecimal cs n e) :
    String.ofList (cs.map Char.toLower) ∉ ["inf", "infinity", "nan"] := by
  obtain ⟨c, rest, hcs, hc⟩ := h.eq_cons
  have hletter : ∀ {word : String} {letter : Char} {tail : List Char},
      word.toList = letter :: tail → letter ∈ ['i', 'n'] →
      String.ofList (cs.map Char.toLower) ≠ word := by
    intro word letter tail hword hmem heq
    obtain ⟨c', rest', hcs', hlower⟩ := eq_cons_of_lower hword heq
    rw [hcs] at hcs'
    obtain ⟨rfl, -⟩ := List.cons.inj hcs'
    rcases hc with hc | rfl
    · rw [toLower_of_isDigit hc] at hlower
      subst hlower
      simp only [List.mem_cons, List.not_mem_nil, or_false] at hmem
      rcases hmem with rfl | rfl <;> cases hc
    · subst hlower
      exact absurd hmem (by decide)
  simp only [List.mem_cons, List.not_mem_nil, or_false, not_or]
  exact ⟨hletter (show "inf".toList = 'i' :: "nf".toList by decide) (by simp),
    hletter (show "infinity".toList = 'i' :: "nfinity".toList by decide) (by simp),
    hletter (show "nan".toList = 'n' :: "an".toList by decide) (by simp)⟩

/-- A word for infinity or for no number, or else digits. -/
theorem magnitude_eq_some_iff :
    (if String.ofList (cs.map Char.toLower) = "inf" ∨
        String.ofList (cs.map Char.toLower) = "infinity" then some (.infinite negative)
      else if String.ofList (cs.map Char.toLower) = "nan" then some .nan
      else Binary64.ofChars? negative cs) = some x ↔ IsMagnitude negative cs x := by
  constructor
  · intro h
    split at h
    · rename_i hinf
      cases h
      exact .infinite (by simpa using hinf)
    split at h
    · rename_i hnan
      cases h
      exact .nan hnan
    obtain ⟨n, e, hdecimal, rfl⟩ := ofChars?_eq_some_iff.mp h
    exact .decimal hdecimal
  · intro h
    cases h with
    | infinite hinf => rw [if_pos (by simpa using hinf)]
    | nan hnan => simp [hnan]
    | decimal hdecimal =>
      have hword := hdecimal.lower_ne
      simp only [List.mem_cons, List.not_mem_nil, or_false, not_or] at hword
      rw [if_neg (not_or.mpr ⟨hword.1, hword.2.1⟩), if_neg hword.2.2]
      exact ofChars?_eq_some_iff.mpr ⟨_, _, hdecimal, rfl⟩

/-- The words and the digits of a double begin with no sign. -/
theorem IsMagnitude.ne_cons (h : IsMagnitude negative cs x) {sign : Char}
    (hsign : sign ∈ ['+', '-']) (rest : List Char) : cs ≠ sign :: rest := by
  obtain ⟨hdigit, hpoint, hlower⟩ :
      sign.isDigit = false ∧ sign ≠ '.' ∧ sign.toLower ∉ ['i', 'n'] := by
    simp only [List.mem_cons, List.not_mem_nil, or_false] at hsign
    rcases hsign with rfl | rfl <;> exact ⟨rfl, by decide, by decide⟩
  have hletter : ∀ {word : String} {letter : Char} {tail : List Char},
      word.toList = letter :: tail → letter ∈ ['i', 'n'] →
      String.ofList (cs.map Char.toLower) = word → cs ≠ sign :: rest := by
    rintro word letter tail hword hmem heq rfl
    obtain ⟨c, rest', hcs, rfl⟩ := eq_cons_of_lower hword heq
    obtain ⟨rfl, -⟩ := List.cons.inj hcs
    exact hlower hmem
  cases h with
  | infinite hinf =>
    simp only [List.mem_cons, List.not_mem_nil, or_false] at hinf
    rcases hinf with hinf | hinf
    · exact hletter (show "inf".toList = 'i' :: "nf".toList by decide) (by simp) hinf
    · exact hletter (show "infinity".toList = 'i' :: "nfinity".toList by decide) (by simp) hinf
  | nan hnan => exact hletter (show "nan".toList = 'n' :: "an".toList by decide) (by simp) hnan
  | decimal hdecimal =>
    rintro rfl
    obtain ⟨c, rest', hcs, hc⟩ := hdecimal.eq_cons
    obtain ⟨rfl, -⟩ := List.cons.inj hcs
    rcases hc with hc | hc
    · rw [hdigit] at hc
      cases hc
    · exact hpoint hc

theorem Binary64.ofText?_eq_some_iff {s : String} :
    Binary64.ofText? s = some x ↔ IsDouble s.toList x := by
  generalize hs : s.toList = cs
  unfold ofText?
  rw [hs]
  split
  rename_i negative rest heq
  refine magnitude_eq_some_iff.trans ?_
  split at heq
  · obtain ⟨rfl, rfl⟩ := Prod.mk.inj heq
    refine ⟨.minus, fun h => ?_⟩
    cases h with
    | plain h => exact absurd rfl (h.ne_cons (by simp) _)
    | minus h => exact h
  · obtain ⟨rfl, rfl⟩ := Prod.mk.inj heq
    refine ⟨.plus, fun h => ?_⟩
    cases h with
    | plain h => exact absurd rfl (h.ne_cons (by simp) _)
    | plus h => exact h
  · rename_i hminus hplus
    obtain ⟨rfl, rfl⟩ := Prod.mk.inj heq
    refine ⟨.plain, fun h => ?_⟩
    cases h with
    | plain h => exact h
    | plus h => exact absurd rfl (hplus _)
    | minus h => exact absurd rfl (hminus _)

end Doubles

end ErrorBoundary
