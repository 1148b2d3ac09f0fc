import ErrorBoundary.Proofs.Numbers
import ErrorBoundary.Proofs.Sections
import Mathlib.Data.Rat.Floor
import Mathlib.Tactic.FieldSimp

/-!
# ErrorBoundary.Proofs.Meaning

What a scalar means for a setting: as a text it is shown as it is written, and as a number of 16
bits it has to be one. `SettingKey.read_eq_ok_iff`: a setting is read from a tree if the tree is a
scalar with a meaning for it, and has this value.

* `Scalar.IsShown`   — a scalar as a text.
* `Scalar.IsCounted` — a scalar as a number of 16 bits.
* `SettingKey.Means` — what a scalar means for a setting.
-/

namespace ErrorBoundary

/-! ## Scalars -/

inductive Scalar.IsShown : Scalar → String → Prop where
  | text (s : String) : IsShown (.text s) s
  | integer (n : Int) : IsShown (.integer n) (toString n)
  | bool (b : Bool) : IsShown (.bool b) (toString b)
  | real (x : Binary64) : IsShown (.real x) x.positional

/-- A double counts as the nearest whole number, a half going up; below zero, and where there is no
number, it counts as zero. A text counts for a word for yes or no, or for its digits. -/
inductive Scalar.IsCounted : Scalar → UInt16 → Prop where
  | integer (w : UInt16) : IsCounted (.integer w.toNat) w
  | bool (b : Bool) : IsCounted (.bool b) (if b then 1 else 0)
  | real {m : Nat} {e : Int} {w : UInt16} : round ((m : ℚ) * 2 ^ e) = w.toNat →
      IsCounted (.real (.finite false m e)) w
  | belowZero (m : Nat) (e : Int) : IsCounted (.real (.finite true m e)) 0
  | leastReal : IsCounted (.real (.infinite true)) 0
  | noNumber : IsCounted (.real .nan) 0
  | yes {s : String} : lowerAscii s ∈ ["true", "on", "yes"] → IsCounted (.text s) 1
  | no {s : String} : lowerAscii s ∈ ["false", "off", "no"] → IsCounted (.text s) 0
  | digits {s : String} {w : UInt16} : IsNumeral s.toList w.toNat → IsCounted (.text s) w
  | plus {s : String} {ds : List Char} {w : UInt16} : s.toList = '+' :: ds →
      IsNumeral ds w.toNat → IsCounted (.text s) w

namespace SettingKey

/-- The settings that are numbers of 16 bits; the others are texts. -/
def IsNumber : SettingKey → Prop
  | .port | .defaultStatus | .override _ => True
  | .host | .level | .format => False

/-- What a scalar means for a setting. -/
def Means (k : SettingKey) (v : Scalar) : SettingValue → Prop
  | .text s => ¬ k.IsNumber ∧ v.IsShown s
  | .number w => k.IsNumber ∧ v.IsCounted w

end SettingKey

namespace Tree

variable {path : List Step} {t : Tree} {w : UInt16}

theorem string_eq_ok_iff {s : String} :
    string path t = .ok s ↔ ∃ v origin, t = .scalar v origin ∧ v.IsShown s := by
  constructor
  · intro h
    cases t with
    | array items origin => cases h
    | table members origin => cases h
    | scalar v origin =>
      refine ⟨v, origin, rfl, ?_⟩
      cases v with
      | absent => cases h
      | bool b =>
        cases h
        exact .bool b
      | integer n =>
        cases h
        exact .integer n
      | real x =>
        cases h
        exact .real x
      | text s =>
        cases h
        exact .text s
  · rintro ⟨v, origin, rfl, h⟩
    cases h <;> rfl

/-! ## Numbers of 16 bits -/

theorem word_eq_ok_iff_natural :
    word path t = .ok w ↔ natural path t = .ok w.toNat := by
  rw [word]
  have hw : w.toNat < 65536 := w.toNat_lt
  cases natural path t with
  | error e => exact ⟨nofun, nofun⟩
  | ok n =>
    simp only
    constructor
    · intro h
      split at h
      · rename_i hn
        cases h
        rw [UInt16.toNat_ofNat', Nat.mod_eq_of_lt hn]
      · cases h
    · intro h
      cases h
      rw [if_pos hw, UInt16.ofNat_toNat]

theorem natural_integer_iff {n : Int} {m : Nat} {origin : Option Origin} :
    natural path (.scalar (.integer n) origin) = .ok m ↔ n = m := by
  rw [natural]
  split
  · rename_i hn
    constructor
    · nofun
    · rintro rfl
      omega
  · rename_i hn
    constructor
    · intro h
      cases h
      omega
    · rintro rfl
      rfl

/-- A double that is not below zero is rounded to the nearest whole number. -/
theorem roundToNat_eq_iff {m : Nat} {e : Int} :
    Binary64.roundToNat (.finite false m e) = w.toNat ↔ round ((m : ℚ) * 2 ^ e) = w.toNat := by
  have hmax : w.toNat < Binary64.maxNat := by
    have hlarge : (65536 : Nat) < Binary64.maxNat := by decide
    exact Nat.lt_trans w.toNat_lt hlarge
  have hround : round ((m : ℚ) * 2 ^ e) = ((if 0 ≤ e then m * twoTo e.toNat
      else (2 * m + twoTo (-e).toNat) / (2 * twoTo (-e).toNat) : Nat) : Int) := by
    rw [round_eq]
    split
    · rename_i he
      obtain ⟨k, rfl⟩ := Int.eq_ofNat_of_zero_le he
      have hwhole : (m : ℚ) * 2 ^ (k : Int) + 1 / 2 = ((m * 2 ^ k : Nat) : ℚ) + 1 / 2 := by
        push_cast
        rw [zpow_natCast]
      rw [hwhole, Int.floor_natCast_add, show ⌊(1 / 2 : ℚ)⌋ = 0 by norm_num, add_zero]
      rfl
    · rename_i he
      obtain ⟨k, hk⟩ := Int.eq_ofNat_of_zero_le (a := -e) (by omega)
      obtain rfl : e = -(k : Int) := by omega
      have hfraction : (m : ℚ) * 2 ^ (-(k : Int)) + 1 / 2 =
          ((2 * m + 2 ^ k : Nat) : ℚ) / ((2 * 2 ^ k : Nat) : ℚ) := by
        push_cast
        rw [zpow_neg, zpow_natCast]
        field_simp
      rw [hfraction, Rat.floor_natCast_div_natCast]
      have htoNat : (- -(k : Int)).toNat = k := by omega
      rw [htoNat]
      rfl
  rw [hround, Binary64.roundToNat]
  simp only [Nat.cast_inj]
  omega

/-- Digits and a sign begin none of the words. -/
theorem lowerAscii_notMem {s : String} {c : Char} {rest : List Char} (hs : s.toList = c :: rest)
    (hc : c.isDigit = true ∨ c = '+') :
    lowerAscii s ∉ ["true", "on", "yes"] ∧ lowerAscii s ∉ ["false", "off", "no"] := by
  have hlower : c.toLower ∉ ['t', 'o', 'y', 'f', 'n'] := by
    rcases hc with hc | rfl
    · rw [toLower_of_isDigit hc]
      simp only [List.mem_cons, List.not_mem_nil, or_false]
      rintro (rfl | rfl | rfl | rfl | rfl) <;> exact absurd hc (by decide)
    · decide
  have hword : ∀ {word : String} {letter : Char} {tail : List Char},
      word.toList = letter :: tail → letter ∈ ['t', 'o', 'y', 'f', 'n'] → lowerAscii s ≠ word := by
    intro word letter tail hword hletter heq
    obtain ⟨c', rest', hcs, rfl⟩ := eq_cons_of_lower hword heq
    rw [hs] at hcs
    obtain ⟨rfl, -⟩ := List.cons.inj hcs
    exact hlower hletter
  simp only [List.mem_cons, List.not_mem_nil, or_false, not_or]
  exact ⟨⟨hword (show "true".toList = 't' :: "rue".toList by decide) (by simp),
    hword (show "on".toList = 'o' :: "n".toList by decide) (by simp),
    hword (show "yes".toList = 'y' :: "es".toList by decide) (by simp)⟩,
    hword (show "false".toList = 'f' :: "alse".toList by decide) (by simp),
    hword (show "off".toList = 'o' :: "ff".toList by decide) (by simp),
    hword (show "no".toList = 'n' :: "o".toList by decide) (by simp)⟩

theorem naturalOfText?_eq_some_iff {s : String} :
    naturalOfText? s = some w.toNat ↔ (Scalar.text s).IsCounted w := by
  have hmax : w.toNat ≤ Binary64.maxNat := by
    have hlarge : (65536 : Nat) < Binary64.maxNat := by decide
    exact Nat.le_of_lt (Nat.lt_trans w.toNat_lt hlarge)
  have hyes : (lowerAscii s = "true" ∨ lowerAscii s = "on" ∨ lowerAscii s = "yes") ↔
      lowerAscii s ∈ ["true", "on", "yes"] := by simp
  have hno : (lowerAscii s = "false" ∨ lowerAscii s = "off" ∨ lowerAscii s = "no") ↔
      lowerAscii s ∈ ["false", "off", "no"] := by simp
  simp only [naturalOfText?, hyes, hno]
  constructor
  · intro h
    split at h
    · rename_i hmem
      have hw : w = 1 := UInt16.toNat_inj.mp (Option.some.inj h).symm
      rw [hw]
      exact .yes hmem
    split at h
    · rename_i hmem
      have hw : w = 0 := UInt16.toNat_inj.mp (Option.some.inj h).symm
      rw [hw]
      exact .no hmem
    obtain ⟨hn, _⟩ := Option.filter_eq_some_iff.mp h
    rcases natOfText?_eq_some_iff.mp hn with hdigits | ⟨ds, hs, hdigits⟩
    · exact .digits hdigits
    · exact .plus hs hdigits
  · have hdigits : ∀ {c : Char} {rest : List Char}, s.toList = c :: rest →
        (c.isDigit = true ∨ c = '+') → natOfText? s = some w.toNat →
        (if lowerAscii s ∈ ["true", "on", "yes"] then some 1
          else if lowerAscii s ∈ ["false", "off", "no"] then some 0
          else (natOfText? s).filter fun n => n ≤ Binary64.maxNat) = some w.toNat := by
      intro c rest hs hc hn
      obtain ⟨hyes, hno⟩ := lowerAscii_notMem hs hc
      rw [if_neg hyes, if_neg hno, hn, Option.filter_some, if_pos (by simpa using hmax)]
    intro h
    cases h with
    | yes hmem =>
      rw [if_pos hmem]
      rfl
    | no hmem =>
      have hyes : lowerAscii s ∉ ["true", "on", "yes"] := by
        simp only [List.mem_cons, List.not_mem_nil, or_false] at hmem
        rcases hmem with hmem | hmem | hmem <;> rw [hmem] <;> decide
      rw [if_neg hyes, if_pos hmem]
      rfl
    | digits hn =>
      cases hs : s.toList with
      | nil => exact absurd hs hn.ne_nil
      | cons c rest =>
        have hc := hn.isDigit c (hs ▸ List.mem_cons_self)
        exact hdigits hs (.inl hc) (natOfText?_eq_some_iff.mpr (.inl hn))
    | plus hs hn => exact hdigits hs (.inr rfl) (natOfText?_eq_some_iff.mpr (.inr ⟨_, hs, hn⟩))

theorem word_eq_ok_iff :
    word path t = .ok w ↔ ∃ v origin, t = .scalar v origin ∧ v.IsCounted w := by
  rw [word_eq_ok_iff_natural]
  constructor
  · intro h
    cases t with
    | array items origin => cases h
    | table members origin => cases h
    | scalar v origin =>
      refine ⟨v, origin, rfl, ?_⟩
      cases v with
      | absent => cases h
      | bool b =>
        have hb : b.toNat = w.toNat := Except.ok.inj h
        have hw : w = if b then 1 else 0 := by
          rw [← UInt16.toNat_inj, ← hb]
          cases b <;> rfl
        rw [hw]
        exact .bool b
      | integer n =>
        rw [natural_integer_iff.mp h]
        exact .integer w
      | real x =>
        have hround : x.roundToNat = w.toNat := Except.ok.inj h
        have hzero : w.toNat = 0 → w = 0 := fun hw => UInt16.toNat_inj.mp hw
        cases x with
        | nan =>
          rw [hzero hround.symm]
          exact .noNumber
        | infinite negative =>
          cases negative with
          | true =>
            rw [hzero hround.symm]
            exact .leastReal
          | false =>
            have hw := w.toNat_lt
            rw [← hround] at hw
            exact absurd hw (by decide)
        | finite negative m e =>
          cases negative with
          | true =>
            rw [hzero hround.symm]
            exact .belowZero m e
          | false => exact .real (roundToNat_eq_iff.mp hround)
      | text s =>
        rw [natural] at h
        split at h
        · rename_i n hn
          cases h
          exact naturalOfText?_eq_some_iff.mp hn
        · cases h
  · rintro ⟨v, origin, rfl, h⟩
    have htext : ∀ {s : String}, (Scalar.text s).IsCounted w →
        natural path (.scalar (.text s) origin) = .ok w.toNat := by
      intro s h
      rw [natural, naturalOfText?_eq_some_iff.mpr h]
    cases h with
    | integer w => exact natural_integer_iff.mpr rfl
    | bool b => cases b <;> rfl
    | real hround => exact congrArg Except.ok (roundToNat_eq_iff.mpr hround)
    | belowZero m e => rfl
    | leastReal => rfl
    | noNumber => rfl
    | yes hs => exact htext (.yes hs)
    | no hs => exact htext (.no hs)
    | digits hs => exact htext (.digits hs)
    | plus hs hn => exact htext (.plus hs hn)

end Tree

/-! ## Settings -/

namespace SettingKey

variable {k : SettingKey}

theorem read_of_isNumber (hk : k.IsNumber) (t : Tree) :
    k.read t = (Tree.word (k.path.map .key) t).map .number := by
  cases k with
  | host => exact hk.elim
  | level => exact hk.elim
  | format => exact hk.elim
  | port => rfl
  | defaultStatus => rfl
  | override c => rfl

theorem read_of_not_isNumber (hk : ¬ k.IsNumber) (t : Tree) :
    k.read t = (Tree.string (k.path.map .key) t).map .text := by
  cases k with
  | host => rfl
  | level => rfl
  | format => rfl
  | port => exact absurd trivial hk
  | defaultStatus => exact absurd trivial hk
  | override c => exact absurd trivial hk

/-- A setting has a value where a scalar stands that means this value. -/
theorem read_eq_ok_iff {t : Tree} {value : SettingValue} :
    k.read t = .ok value ↔ ∃ v origin, t = .scalar v origin ∧ k.Means v value := by
  have hmap : ∀ {β : Type} {x : Except Misfit β} {f : β → SettingValue},
      x.map f = .ok value ↔ ∃ y, x = .ok y ∧ f y = value := by
    intro β x f
    cases x <;> simp [Except.map]
  by_cases hk : k.IsNumber
  · rw [read_of_isNumber hk, hmap]
    simp only [Tree.word_eq_ok_iff]
    constructor
    · rintro ⟨w, ⟨v, origin, ht, h⟩, rfl⟩
      exact ⟨v, origin, ht, hk, h⟩
    · rintro ⟨v, origin, ht, h⟩
      cases value with
      | text s => exact absurd hk h.1
      | number w => exact ⟨w, ⟨v, origin, ht, h.2⟩, rfl⟩
  · rw [read_of_not_isNumber hk, hmap]
    simp only [Tree.string_eq_ok_iff]
    constructor
    · rintro ⟨s, ⟨v, origin, ht, h⟩, rfl⟩
      exact ⟨v, origin, ht, hk, h⟩
    · rintro ⟨v, origin, ht, h⟩
      cases value with
      | text s => exact ⟨s, ⟨v, origin, ht, h.2⟩, rfl⟩
      | number w => exact absurd h.1 hk

end SettingKey
end ErrorBoundary
