import ErrorBoundary.Proofs.Toml.Word

/-!
# ErrorBoundary.Proofs.Toml.Layout

What stands between the values of a document: blanks, comments and ends of lines, and the keys with
points between them that headers and lines begin with. Also the strings that stand in one line.

* `Toml.IsGap`        — blanks, comments and whole ends of lines; they are passed over.
* `Toml.EndsLine`     — the end of a line behind a value or a header.
* `Toml.IsPath`       — keys with points between them.
* `Toml.IsQuoted`     — the inside of a string between double quotes.
-/

namespace ErrorBoundary
namespace Toml

/-! ## Blanks and comments -/

def IsLineEnd (cs : List Char) : Prop := cs = ['\n'] ∨ cs = ['\r', '\n']

/-- Blanks, ends of lines and comments that end with their line. -/
inductive IsGap : List Char → Prop where
  | nil : IsGap []
  | blank {c : Char} {cs : List Char} : isBlank c = true → IsGap cs → IsGap (c :: cs)
  | line {stop cs : List Char} : IsLineEnd stop → IsGap cs → IsGap (stop ++ cs)
  | comment {text stop cs : List Char} : (∀ c ∈ text, isPlain c = true) → IsLineEnd stop →
      IsGap cs → IsGap ('#' :: (text ++ (stop ++ cs)))

/-- `EndsLine cs rest`: nothing but blanks and a comment stands in front of the next line, which
begins with `rest`. -/
inductive EndsLine : List Char → List Char → Prop where
  | document : EndsLine [] []
  | line {stop : List Char} (rest : List Char) : IsLineEnd stop → EndsLine (stop ++ rest) rest
  | blank {c : Char} {cs rest : List Char} : isBlank c = true → EndsLine cs rest →
      EndsLine (c :: cs) rest
  | comment {text cs rest : List Char} : (∀ c ∈ text, isPlain c = true) → EndsLine cs rest →
      EndsLine ('#' :: (text ++ cs)) rest

/-- A character that is passed over in front of a value or a key. -/
def IsPassed (c : Char) : Prop := c ∈ [' ', '\t', '\n', '\r', '#']

section Lines

variable {c : Char} {cs rest text : List Char}

theorem ne_of_isBlank (h : isBlank c = true) {d : Char} (hd : isBlank d = false) : c ≠ d := by
  rintro rfl
  rw [h] at hd
  cases hd

theorem isBlank_iff : isBlank c = true ↔ c = ' ' ∨ c = '\t' := by
  simp [isBlank]

theorem isPlain_of_isBlank (h : isBlank c = true) : isPlain c = true := by
  rcases isBlank_iff.mp h with rfl | rfl <;> rfl

theorem ne_of_isPlain (h : isPlain c = true) {d : Char} (hd : isPlain d = false) : c ≠ d := by
  rintro rfl
  rw [h] at hd
  cases hd

/-- A character that opens no end of a line is looked at by itself. -/
theorem skipLines?_cons_of_ne {inComment : Bool} (h : c ≠ '\r') :
    skipLines? inComment (c :: cs) =
      if c = '\n' then skipLines? false cs
      else if inComment then (if isPlain c then skipLines? true cs else none)
      else if c = '#' then skipLines? true cs
      else if isBlank c then skipLines? false cs
      else some (c :: cs) := by
  rw [skipLines?]
  rintro _ rfl
  exact absurd rfl h

theorem endLine?_cons_of_ne {inComment : Bool} (h : c ≠ '\r') :
    endLine? inComment (c :: cs) =
      if c = '\n' then some cs
      else if inComment then (if isPlain c then endLine? true cs else none)
      else if c = '#' then endLine? true cs
      else if isBlank c then endLine? false cs
      else none := by
  rw [endLine?]
  rintro _ rfl
  exact absurd rfl h

theorem IsLineEnd.skipLines?_eq (h : IsLineEnd cs) (inComment : Bool) :
    skipLines? inComment (cs ++ rest) = skipLines? false rest := by
  rcases h with rfl | rfl
  · rw [List.singleton_append, skipLines?_cons_of_ne (by decide), if_pos rfl]
  · rw [List.cons_append, List.singleton_append, skipLines?]

theorem IsLineEnd.endLine?_eq (h : IsLineEnd cs) (inComment : Bool) :
    endLine? inComment (cs ++ rest) = some rest := by
  rcases h with rfl | rfl
  · rw [List.singleton_append, endLine?_cons_of_ne (by decide), if_pos rfl]
  · rw [List.cons_append, List.singleton_append, endLine?]

theorem IsLineEnd.stops (h : IsLineEnd cs) : Stops (cs ++ rest) := by
  intro c hc
  rcases h with rfl | rfl <;> cases hc <;> decide

theorem skipLines?_of_not_isPassed (h : ¬ IsPassed c) :
    skipLines? false (c :: cs) = some (c :: cs) := by
  simp only [IsPassed, List.mem_cons, List.not_mem_nil, or_false, not_or] at h
  obtain ⟨hblank, htab, hline, hreturn, hcomment⟩ := h
  rw [skipLines?_cons_of_ne hreturn, if_neg hline, if_neg Bool.false_ne_true, if_neg hcomment,
    if_neg (mt isBlank_iff.mp (not_or.mpr ⟨hblank, htab⟩))]

theorem skipLines?_comment (h : ∀ c ∈ text, isPlain c = true) :
    skipLines? true (text ++ rest) = skipLines? true rest := by
  induction text with
  | nil => rfl
  | cons c text ih =>
    have hc := h c List.mem_cons_self
    rw [List.cons_append, skipLines?_cons_of_ne (ne_of_isPlain hc rfl),
      if_neg (ne_of_isPlain hc rfl), if_pos rfl, if_pos hc,
      ih fun d hd => h d (List.mem_cons_of_mem c hd)]

/-- A gap is passed over, whatever comes behind it. -/
theorem IsGap.skipLines?_eq (h : IsGap cs) :
    skipLines? false (cs ++ rest) = skipLines? false rest := by
  induction h with
  | nil => rfl
  | blank hc _ ih =>
    rw [List.cons_append, skipLines?_cons_of_ne (ne_of_isBlank hc rfl),
      if_neg (ne_of_isBlank hc rfl), if_neg Bool.false_ne_true, if_neg (ne_of_isBlank hc rfl),
      if_pos hc, ih]
  | line hstop _ ih => rw [List.append_assoc, hstop.skipLines?_eq, ih]
  | comment htext hstop _ ih =>
    rw [List.cons_append, List.append_assoc, List.append_assoc,
      skipLines?_cons_of_ne (by decide), if_neg (by decide), if_neg Bool.false_ne_true,
      if_pos rfl, skipLines?_comment htext, hstop.skipLines?_eq, ih]

theorem endLine?_comment (h : ∀ c ∈ text, isPlain c = true) :
    endLine? true (text ++ rest) = endLine? true rest := by
  induction text with
  | nil => rfl
  | cons c text ih =>
    have hc := h c List.mem_cons_self
    rw [List.cons_append, endLine?_cons_of_ne (ne_of_isPlain hc rfl),
      if_neg (ne_of_isPlain hc rfl), if_pos rfl, if_pos hc,
      ih fun d hd => h d (List.mem_cons_of_mem c hd)]

/-- What ends a line ends it within a comment too. -/
theorem EndsLine.endLine?_eq (h : EndsLine cs rest) (inComment : Bool) :
    endLine? inComment cs = some rest := by
  induction h generalizing inComment with
  | document => rfl
  | line rest hstop => exact hstop.endLine?_eq inComment
  | blank hc _ ih =>
    rw [endLine?_cons_of_ne (ne_of_isBlank hc rfl), if_neg (ne_of_isBlank hc rfl),
      if_neg (ne_of_isBlank hc rfl), if_pos hc, if_pos (isPlain_of_isBlank hc), ih, ih, ite_self]
  | comment htext _ ih =>
    have hplain : isPlain '#' = true := rfl
    rw [endLine?_cons_of_ne (by decide), if_neg (by decide), if_pos rfl, if_pos hplain,
      endLine?_comment htext, ih, ite_self]

theorem EndsLine.stops (h : EndsLine cs rest) : Stops cs := by
  intro c hc
  cases h with
  | document => cases hc
  | line rest hstop => exact hstop.stops c hc
  | blank hblank _ =>
    cases hc
    rcases isBlank_iff.mp hblank with rfl | rfl <;> decide
  | comment _ _ => cases hc; decide

theorem IsGap.stops (h : IsGap cs) {stop : Char} (hstop : Stops (stop :: rest)) :
    Stops (cs ++ stop :: rest) := by
  intro c hc
  cases h with
  | nil => exact hstop c hc
  | blank hblank _ =>
    cases hc
    rcases isBlank_iff.mp hblank with rfl | rfl <;> decide
  | line hline _ =>
    rw [List.append_assoc] at hc
    exact hline.stops c hc
  | comment _ _ _ => cases hc; decide

end Lines

/-! ## Keys with points between them -/

/-- The name of a key that needs no quotes. -/
structure IsName (name : List Char) : Prop where
  ne_nil : name ≠ []
  isKeyChar : ∀ c ∈ name, isKeyChar c = true

def IsBlanks (cs : List Char) : Prop := ∀ c ∈ cs, isBlank c = true

/-- Keys with points between them: those in front of the last one, and the last one. Blanks may
stand around the points and behind. -/
inductive IsPath : List Char → List String → String → Prop where
  | last {name blanks : List Char} : IsName name → IsBlanks blanks →
      IsPath (name ++ blanks) [] (String.ofList name)
  | step {name before after cs : List Char} {path : List String} {key : String} : IsName name →
      IsBlanks before → IsBlanks after → IsPath cs path key →
      IsPath (name ++ (before ++ '.' :: (after ++ cs))) (String.ofList name :: path) key

section Paths

variable {name cs rest : List Char} {path : List String} {key : String} {c : Char}

theorem isName_of_all (hne : name ≠ []) (hall : name.all isKeyChar = true) : IsName name :=
  ⟨hne, List.all_eq_true.mp hall⟩

theorem not_isPassed_of_isKeyChar (h : isKeyChar c = true) : ¬ IsPassed c := by
  simp only [IsPassed, List.mem_cons, List.not_mem_nil, or_false]
  rintro (rfl | rfl | rfl | rfl | rfl) <;> exact absurd h (by decide)

theorem isBlank_of_isKeyChar (h : isKeyChar c = true) : isBlank c = false := by
  rw [← Bool.not_eq_true]
  intro hblank
  rcases isBlank_iff.mp hblank with rfl | rfl <;> exact absurd h (by decide)

theorem IsPath.eq_cons (h : IsPath cs path key) :
    ∃ c rest, cs = c :: rest ∧ isKeyChar c = true := by
  have hcons : ∀ {name rest : List Char}, IsName name →
      ∃ c tail, name ++ rest = c :: tail ∧ isKeyChar c = true := by
    intro name rest hname
    cases name with
    | nil => exact absurd rfl hname.ne_nil
    | cons c name => exact ⟨c, _, rfl, hname.isKeyChar c List.mem_cons_self⟩
  cases h with
  | last hname _ => exact hcons hname
  | step hname _ _ _ => exact hcons hname

theorem IsPath.isName (h : IsPath cs path key) :
    (∀ s ∈ path, IsName s.toList) ∧ IsName key.toList := by
  induction h with
  | last hname _ => exact ⟨by simp, by rwa [String.toList_ofList]⟩
  | step hname _ _ _ ih =>
    refine ⟨fun s hs => ?_, ih.2⟩
    rcases List.mem_cons.mp hs with rfl | hs
    · rwa [String.toList_ofList]
    · exact ih.1 s hs

theorem readKey?_name (h : IsName name) (hrest : ∀ c, rest.head? = some c → isKeyChar c = false) :
    readKey? (name ++ rest) = some (String.ofList name, rest) := by
  have hspan : (name ++ rest).takeWhile isKeyChar = name ∧
      (name ++ rest).dropWhile isKeyChar = rest := by
    rw [List.takeWhile_append_of_pos h.isKeyChar, List.dropWhile_append_of_pos h.isKeyChar]
    cases rest with
    | nil => simp
    | cons c rest => simp [hrest c rfl]
  cases name with
  | nil => exact absurd rfl h.ne_nil
  | cons c name =>
    have hc := h.isKeyChar c List.mem_cons_self
    have hquote : ¬ (c = '"' ∨ c = '\'') := by
      rintro (rfl | rfl) <;> exact absurd hc (by decide)
    rw [List.cons_append] at hspan ⊢
    rw [readKey?, if_neg hquote, if_pos hc, hspan.1, hspan.2]

theorem skipBlanks_append (h : IsBlanks cs) (hc : isBlank c = false) :
    skipBlanks (cs ++ c :: rest) = c :: rest := by
  rw [skipBlanks, List.dropWhile_append_of_pos h, List.dropWhile_cons_of_neg (by simp [hc])]

/-- What comes behind the blanks of a key is no part of the key. -/
theorem head?_blanks (h : IsBlanks cs) (hc : isKeyChar c = false) :
    ∀ d, (cs ++ c :: rest).head? = some d → isKeyChar d = false := by
  intro d hd
  cases cs with
  | nil => cases hd; exact hc
  | cons b cs =>
    cases hd
    rcases isBlank_iff.mp (h d List.mem_cons_self) with rfl | rfl <;> rfl

/-- A path is read as its keys, unless they are too many. -/
theorem IsPath.readKeys?_eq (h : IsPath cs path key) (hblank : isBlank c = false)
    (hpoint : c ≠ '.') (hkey : isKeyChar c = false) (n : Nat) :
    readKeys? n (cs ++ c :: rest) =
      if path.length < n then some ((path, key), c :: rest) else none := by
  induction h generalizing n with
  | last hname hblanks =>
    cases n with
    | zero => rfl
    | succ n =>
      rw [List.append_assoc, readKeys?, readKey?_name hname (head?_blanks hblanks hkey)]
      simp only [skipBlanks_append hblanks hblank, List.length_nil, Nat.zero_lt_succ, if_true]
      split
      · rename_i heq
        exact absurd (List.cons.inj heq).1 hpoint
      · rfl
  | @step name before after cs path key hname hbefore hafter hpath ih =>
    cases n with
    | zero => rfl
    | succ n =>
      obtain ⟨d, tail, rfl, hd⟩ := hpath.eq_cons
      rw [List.append_assoc, List.append_assoc, List.cons_append, List.append_assoc, readKeys?,
        readKey?_name hname (head?_blanks hbefore rfl)]
      simp only [skipBlanks_append hbefore (show isBlank '.' = false from rfl)]
      rw [List.cons_append, skipBlanks_append hafter (isBlank_of_isKeyChar hd),
        ← List.cons_append, ih]
      simp only [List.length_cons, Nat.add_lt_add_iff_right]
      split <;> rfl

theorem IsPath.readPath?_eq (h : IsPath cs path key) (hblank : isBlank c = false)
    (hpoint : c ≠ '.') (hkey : isKeyChar c = false) :
    readPath? (cs ++ c :: rest) =
      if path.length < maxDepth then some ((path, key), c :: rest) else none :=
  h.readKeys?_eq hblank hpoint hkey maxDepth

end Paths

/-! ## Strings -/

/-- The characters that a letter behind a backslash stands for. -/
def escapes : List (Char × Char) :=
  [('"', '"'), ('\\', '\\'), ('b', '\x08'), ('t', '\t'), ('n', '\n'), ('f', '\x0c'), ('r', '\r')]

/-- The inside of a string between double quotes, and the characters it stands for. -/
inductive IsQuoted : List Char → List Char → Prop where
  | nil : IsQuoted [] []
  | plain {c : Char} {cs text : List Char} : isPlain c = true → c ≠ '"' → c ≠ '\\' →
      IsQuoted cs text → IsQuoted (c :: cs) (c :: text)
  | escape {letter c : Char} {cs text : List Char} : (letter, c) ∈ escapes →
      IsQuoted cs text → IsQuoted ('\\' :: letter :: cs) (c :: text)

section Strings

variable {cs text rest done : List Char}

theorem IsQuoted.scan_eq (h : IsQuoted cs text) :
    Quotation.scan ⟨'"', true, false⟩ .plain done (cs ++ '"' :: rest) =
      some (done.reverse ++ text, rest) := by
  induction h generalizing done with
  | nil => simp [Quotation.scan, Quotation.step, Quotation.plainStep]
  | plain hc hquote hslash _ ih =>
    rw [List.cons_append, Quotation.scan, Quotation.step, Quotation.plainStep, if_neg hquote]
    simp only [hslash, false_and, if_false, Bool.false_eq_true, and_false, hc, if_true]
    rw [ih]
    simp
  | @escape letter c _ _ hletter _ ih =>
    have hescape : Quotation.escaped? letter = some c := by
      revert hletter
      unfold escapes
      simp only [List.mem_cons, Prod.mk.injEq, List.not_mem_nil, or_false]
      rintro (⟨rfl, rfl⟩ | ⟨rfl, rfl⟩ | ⟨rfl, rfl⟩ | ⟨rfl, rfl⟩ | ⟨rfl, rfl⟩ | ⟨rfl, rfl⟩ |
        ⟨rfl, rfl⟩) <;> rfl
    have hslash : Quotation.step ⟨'"', true, false⟩ .plain done '\\' = .more .escape done := rfl
    have hstep : Quotation.step ⟨'"', true, false⟩ .escape done letter =
        .more .plain (c :: done) := by
      rw [Quotation.step, Quotation.escapeStep, hescape]
    rw [List.cons_append, List.cons_append, Quotation.scan, hslash]
    simp only
    rw [Quotation.scan, hstep]
    simp only
    rw [ih]
    simp

theorem scan_literal (h : ∀ c ∈ cs, isPlain c = true ∧ c ≠ '\'') :
    Quotation.scan ⟨'\'', false, false⟩ .plain done (cs ++ '\'' :: rest) =
      some (done.reverse ++ cs, rest) := by
  induction cs generalizing done with
  | nil => simp [Quotation.scan, Quotation.step, Quotation.plainStep]
  | cons c cs ih =>
    obtain ⟨hc, hquote⟩ := h c List.mem_cons_self
    rw [List.cons_append, Quotation.scan, Quotation.step, Quotation.plainStep, if_neg hquote]
    simp only [Bool.false_eq_true, and_false, if_false, hc, if_true]
    rw [ih fun d hd => h d (List.mem_cons_of_mem c hd)]
    simp

/-- Behind its first mark a string goes over one line, unless two more marks follow. -/
theorem readQuoted?_of_head {mark : Char} {linesAllowed : Bool}
    (h : ∀ b tail, cs ≠ mark :: b :: tail ∨ b ≠ mark) :
    readQuoted? mark linesAllowed cs =
      (Quotation.scan ⟨mark, mark == '"', false⟩ .plain [] cs).map fun p =>
        (String.ofList p.1, p.2) := by
  unfold readQuoted?
  split
  · rename_i a b tail
    have hopen : ¬ (a = mark ∧ b = mark ∧ linesAllowed = true) := by
      rintro ⟨rfl, rfl, -⟩
      rcases h b tail with hcs | hb
      · exact hcs rfl
      · exact hb rfl
    simp only [if_neg hopen]
  · rfl

theorem readQuoted?_basic (h : IsQuoted cs text) (hrest : Stops rest) :
    readQuoted? '"' true (cs ++ '"' :: rest) = some (String.ofList text, rest) := by
  rw [readQuoted?_of_head, beq_self_eq_true, h.scan_eq]
  · rfl
  · intro b tail
    cases h with
    | nil =>
      by_cases hb : b = '"'
      · left
        rintro heq
        have hhead : rest.head? = some b := by
          rw [(List.cons.inj heq).2]
          rfl
        exact (hrest b hhead).2.1 hb
      · exact .inr hb
    | plain _ hquote _ _ => exact .inl fun heq => hquote (List.cons.inj heq).1
    | escape _ _ => exact .inl fun heq => absurd (List.cons.inj heq).1 (by decide)

theorem readQuoted?_literal (h : ∀ c ∈ cs, isPlain c = true ∧ c ≠ '\'') (hrest : Stops rest) :
    readQuoted? '\'' true (cs ++ '\'' :: rest) = some (String.ofList cs, rest) := by
  rw [readQuoted?_of_head]
  · rw [show ('\'' == '"') = false from rfl, scan_literal h]
    rfl
  · intro b tail
    cases cs with
    | nil =>
      by_cases hb : b = '\''
      · left
        rintro heq
        have hhead : rest.head? = some b := by
          rw [(List.cons.inj heq).2]
          rfl
        exact (hrest b hhead).2.2 hb
      · exact .inr hb
    | cons c cs => exact .inl fun heq => (h c List.mem_cons_self).2 (List.cons.inj heq).1

end Strings

end Toml
end ErrorBoundary
