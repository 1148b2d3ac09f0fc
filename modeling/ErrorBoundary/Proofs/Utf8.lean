import Mathlib.Data.Char
import ErrorBoundary.Text.Utf8

/-!
# ErrorBoundary.Proofs.Utf8

The bytes of a text are read as that text. A character has one to four bytes; the first of them
tells how many, and the others add six bits each (`Utf8.first_two`, `Utf8.first_three`,
`Utf8.first_four`, `Utf8.step_tail`), so that the reader, which was at the start of a character, is
there again behind it (`Utf8.scanFrom_char`).
-/

namespace ErrorBoundary
namespace Utf8

variable {v d code lo hi : Nat} {out : List (Option Char)}

/-! ## First bytes -/

theorem first_two (hlo : 0x80 ≤ v) (hhi : v < 0x800) :
    first (v / 64 + 0xC0) = .inr (.within 1 (v / 64) 0x80 0xBF) := by
  unfold first
  rw [if_neg (by omega), if_pos (by omega), Nat.add_sub_cancel]

/-- The second byte lies in the range that the first one leaves, as the character is neither one of
two bytes nor a surrogate. -/
theorem first_three (hlo : 0x800 ≤ v) (hhi : v < 0x10000) (hv : ¬ (0xD800 ≤ v ∧ v < 0xE000)) :
    ∃ lo hi, first (v / 4096 + 0xE0) = .inr (.within 2 (v / 4096) lo hi) ∧
      lo ≤ v / 64 % 64 + 0x80 ∧ v / 64 % 64 + 0x80 ≤ hi := by
  unfold first
  rw [if_neg (by omega), if_neg (by omega)]
  by_cases h0 : v / 4096 = 0
  · refine ⟨0xA0, 0xBF, ?_, by omega, by omega⟩
    rw [if_pos (by omega), h0]
  · by_cases hd : v / 4096 = 0xD
    · refine ⟨0x80, 0x9F, ?_, by omega, by omega⟩
      rw [if_neg (by omega), if_pos (by omega), hd]
    · refine ⟨0x80, 0xBF, ?_, by omega, by omega⟩
      rw [if_neg (by omega), if_neg (by omega), if_pos (by omega), Nat.add_sub_cancel]

/-- The second byte lies in the range that the first one leaves, as the character is neither one of
three bytes nor beyond the last. -/
theorem first_four (hlo : 0x10000 ≤ v) (hhi : v < 0x110000) :
    ∃ lo hi, first (v / 262144 + 0xF0) = .inr (.within 3 (v / 262144) lo hi) ∧
      lo ≤ v / 4096 % 64 + 0x80 ∧ v / 4096 % 64 + 0x80 ≤ hi := by
  unfold first
  rw [if_neg (by omega), if_neg (by omega), if_neg (by omega), if_neg (by omega), if_neg (by omega)]
  by_cases h0 : v / 262144 = 0
  · refine ⟨0x90, 0xBF, ?_, by omega, by omega⟩
    rw [if_pos (by omega), h0]
  · by_cases h4 : v / 262144 = 4
    · refine ⟨0x80, 0x8F, ?_, by omega, by omega⟩
      rw [if_neg (by omega), if_pos (by omega), h4]
    · refine ⟨0x80, 0xBF, ?_, by omega, by omega⟩
      rw [if_neg (by omega), if_neg (by omega), if_pos (by omega), Nat.add_sub_cancel]

/-! ## Further bytes -/

theorem toNat_tail (hd : d < 64) : (UInt8.ofNat (d + 0x80)).toNat = d + 0x80 :=
  UInt8.toNat_ofNat_of_lt' (by change d + 0x80 < 256; omega)

theorem step_tail {need : Nat} (hd : d < 64) (hlo : lo ≤ d + 0x80) (hhi : d + 0x80 ≤ hi) :
    step (.within (need + 2) code lo hi) (UInt8.ofNat (d + 0x80)) out =
      (.within (need + 1) (64 * code + d) 0x80 0xBF, out) := by
  have hneed : ¬ need + 2 = 1 := by omega
  simp only [step, toNat_tail hd, hlo, hhi, and_self, if_true, hneed, if_false,
    Nat.add_sub_cancel]
  rfl

theorem step_last (hd : d < 64) (hlo : lo ≤ d + 0x80) (hhi : d + 0x80 ≤ hi) :
    step (.within 1 code lo hi) (UInt8.ofNat (d + 0x80)) out =
      (.start, some (Char.ofNat (64 * code + d)) :: out) := by
  simp only [step, toNat_tail hd, hlo, hhi, and_self, if_true, Nat.add_sub_cancel]

theorem step_first {b : Nat} {s : State} (hb : b < 256) (h : first b = .inr s) :
    step .start (UInt8.ofNat b) out = (s, out) := by
  simp only [step, UInt8.toNat_ofNat_of_lt' hb, h]

/-! ## Characters and texts -/

theorem encodeChar_eq (c : Char) : String.utf8EncodeChar c =
    if c.toNat ≤ 0x7F then [.ofNat c.toNat]
    else if c.toNat ≤ 0x7FF then
      [.ofNat (c.toNat / 64 % 32 + 0xC0), .ofNat (c.toNat % 64 + 0x80)]
    else if c.toNat ≤ 0xFFFF then
      [.ofNat (c.toNat / 4096 % 16 + 0xE0), .ofNat (c.toNat / 64 % 64 + 0x80),
        .ofNat (c.toNat % 64 + 0x80)]
    else
      [.ofNat (c.toNat / 262144 % 8 + 0xF0), .ofNat (c.toNat / 4096 % 64 + 0x80),
        .ofNat (c.toNat / 64 % 64 + 0x80), .ofNat (c.toNat % 64 + 0x80)] := rfl

theorem scanFrom_char (c : Char) (bytes : List UInt8) :
    scanFrom .start out (String.utf8EncodeChar c ++ bytes) =
      scanFrom .start (some c :: out) bytes := by
  have hchar : Char.ofNat c.toNat = c := Char.ofNat_toNat c
  have hvalid : c.toNat < 0xD800 ∨ (0xDFFF < c.toNat ∧ c.toNat < 0x110000) := c.valid
  rw [encodeChar_eq]
  generalize c.toNat = v at *
  have hlast : v % 64 < 64 := Nat.mod_lt _ (by decide)
  have hmiddle : v / 64 % 64 < 64 := Nat.mod_lt _ (by decide)
  have hupper : v / 4096 % 64 < 64 := Nat.mod_lt _ (by decide)
  split
  · have hfirst : first v = .inl (some (Char.ofNat v)) := if_pos (by omega)
    have hb : (UInt8.ofNat v).toNat = v := UInt8.toNat_ofNat_of_lt' (by change v < 256; omega)
    simp only [List.cons_append, List.nil_append, scanFrom, step, hb, hfirst, hchar]
  · split
    · have hmod : v / 64 % 32 = v / 64 := Nat.mod_eq_of_lt (by omega)
      have hv : 64 * (v / 64) + v % 64 = v := Nat.div_add_mod v 64
      have hfirst := first_two (v := v) (by omega) (by omega)
      simp only [List.cons_append, List.nil_append, scanFrom, hmod]
      rw [step_first (by omega) hfirst]
      simp only
      rw [step_last hlast (by omega) (by omega), hv, hchar]
    · split
      · have hmod : v / 4096 % 16 = v / 4096 := Nat.mod_eq_of_lt (by omega)
        have hv : 64 * (64 * (v / 4096) + v / 64 % 64) + v % 64 = v := by omega
        obtain ⟨lo, hi, hfirst, hlo, hhi⟩ := first_three (v := v) (by omega) (by omega) (by omega)
        simp only [List.cons_append, List.nil_append, scanFrom, hmod]
        rw [step_first (by omega) hfirst]
        rw [step_tail hmiddle hlo hhi]
        simp only
        rw [step_last hlast (by omega) (by omega), hv, hchar]
      · have hmod : v / 262144 % 8 = v / 262144 := Nat.mod_eq_of_lt (by omega)
        have hv : 64 * (64 * (64 * (v / 262144) + v / 4096 % 64) + v / 64 % 64) + v % 64 = v := by
          omega
        obtain ⟨lo, hi, hfirst, hlo, hhi⟩ := first_four (v := v) (by omega) (by omega)
        simp only [List.cons_append, List.nil_append, scanFrom, hmod]
        rw [step_first (by omega) hfirst]
        rw [step_tail hupper hlo hhi]
        simp only
        rw [step_tail hmiddle (by omega) (by omega)]
        simp only
        rw [step_last hlast (by omega) (by omega), hv, hchar]

theorem scanFrom_chars (cs : List Char) (bytes : List UInt8) :
    scanFrom .start out (cs.flatMap String.utf8EncodeChar ++ bytes) =
      scanFrom .start ((cs.map some).reverse ++ out) bytes := by
  induction cs generalizing out with
  | nil => rfl
  | cons c cs ih =>
    rw [List.flatMap_cons, List.append_assoc, scanFrom_char, ih]
    simp

theorem toList_loop (bytes : ByteArray) (i : Nat) (done : List UInt8) :
    ByteArray.toList.loop bytes i done = done.reverse ++ bytes.data.toList.drop i := by
  fun_induction ByteArray.toList.loop bytes i done with
  | case1 i done h ih =>
    have hlen : i < bytes.data.toList.length := h
    have hget : bytes.get! i = bytes.data.toList[i] := getElem!_pos bytes.data i h
    rw [ih, List.drop_eq_getElem_cons hlen, List.reverse_cons, List.append_assoc, hget]
    rfl
  | case2 i done h =>
    have hlen : bytes.data.toList.length ≤ i := Nat.not_lt.mp h
    rw [List.drop_eq_nil_of_le hlen, List.append_nil]

theorem encode_eq (s : String) : encode s = s.toList.flatMap String.utf8EncodeChar := by
  rw [encode, String.toUTF8_eq_toByteArray, ← String.utf8Encode_toList, List.utf8Encode]
  exact (toList_loop _ 0 []).trans List.toList_data_toByteArray

/-- The bytes of a text are read as its characters. -/
theorem scan_encode (s : String) : scan (encode s) = s.toList.map some := by
  have h := @scanFrom_chars [] s.toList []
  rw [List.append_nil, ← encode_eq] at h
  rw [scan, h]
  simp [scanFrom]

end Utf8
end ErrorBoundary
