import ErrorBoundary.Proofs.Toml.Layout
import ErrorBoundary.Proofs.Toml.Tables

/-!
# ErrorBoundary.Proofs.Toml.Document

Documents of headers, of lines that write a value under a key with points, and of blank lines and
comments. If such a document is read at all, what is read holds the values of its lines, each at the
path of the header above and the keys of the line, and nothing else (`Toml.tells_ofText?`).

* `Toml.Written`, `Toml.Written.Gives` — a value as it is written, and the values in it.
* `Toml.Statement`, `Toml.Gives`       — the lines of a document, and the values that they write.
* `Toml.IsText`, `Toml.IsDocument`    — how they are written.
-/

namespace ErrorBoundary
namespace Toml

/-! ## What is written -/

/-- A value without parts, or a table in braces. -/
inductive Written where
  | scalar (v : Toml)
  | table (members : List (List String × String × Written))

/-- `w.Gives p x`: the value `x` stands in `w` at the path `p`. -/
inductive Written.Gives : Written → List String → Toml → Prop where
  | scalar (v : Toml) : Gives (.scalar v) [] v
  | member {members : List (List String × String × Written)} {path p : List String} {key : String}
      {w : Written} {x : Toml} : (path, key, w) ∈ members → w.Gives p x →
      Gives (.table members) (path ++ key :: p) x

/-- A header opens a table; the other lines write into the table that is open. -/
inductive Statement where
  | header (path : List String) (key : String)
  | pair (path : List String) (key : String) (w : Written)

/-- The values that lines write, with their whole paths, when the table at `header` is open. -/
def Gives (header : List String) : List Statement → List String → Toml → Prop
  | [], _, _ => False
  | .header path key :: rest, p, x => Gives (path ++ [key]) rest p x
  | .pair path key w :: rest, p, x =>
    (∃ q, p = header ++ path ++ key :: q ∧ w.Gives q x) ∨ Gives header rest p x

theorem Written.gives_scalar_iff {v : Toml} {p : List String} {x : Toml} :
    (scalar v).Gives p x ↔ p = [] ∧ x = v := by
  constructor
  · intro h
    cases h
    exact ⟨rfl, rfl⟩
  · rintro ⟨rfl, rfl⟩
    exact .scalar x

theorem Written.gives_table_iff {members : List (List String × String × Written)}
    {p : List String} {x : Toml} :
    (table members).Gives p x ↔ ∃ m ∈ members, ∃ q, p = m.1 ++ m.2.1 :: q ∧ m.2.2.Gives q x := by
  constructor
  · intro h
    cases h with
    | member hmem h => exact ⟨_, hmem, _, rfl, h⟩
  · rintro ⟨_, hmem, q, rfl, h⟩
    exact .member hmem h

/-! ## How it is written -/

/-- A value, a member of a table in braces, or its members up to the closing brace. -/
inductive Piece where
  | value (w : Written)
  | member (m : List String × String × Written)
  | members (ms : List (List String × String × Written))

inductive IsText : Piece → List Char → Prop where
  | integer {cs : List Char} {n : Int} : IsInteger cs n →
      IsText (.value (.scalar (.integer n))) cs
  | bool (b : Bool) : IsText (.value (.scalar (.bool b))) (toString b).toList
  | basic {cs text : List Char} : IsQuoted cs text →
      IsText (.value (.scalar (.string (String.ofList text)))) ('"' :: (cs ++ ['"']))
  | literal {cs : List Char} : (∀ c ∈ cs, isPlain c = true ∧ c ≠ '\'') →
      IsText (.value (.scalar (.string (String.ofList cs)))) ('\'' :: (cs ++ ['\'']))
  | table {ms : List (List String × String × Written)} {cs : List Char} :
      IsText (.members ms) cs → IsText (.value (.table ms)) ('\x7b' :: cs)
  | member {path : List String} {key : String} {w : Written} {keys gap cs : List Char} :
      IsPath keys path key → IsGap gap → IsText (.value w) cs →
      IsText (.member (path, key, w)) (keys ++ '=' :: (gap ++ cs))
  | empty {gap : List Char} : IsGap gap → IsText (.members []) (gap ++ ['\x7d'])
  | last {m : List String × String × Written} {before cs after : List Char} : IsGap before →
      IsText (.member m) cs → IsGap after →
      IsText (.members [m]) (before ++ (cs ++ (after ++ ['\x7d'])))
  | more {m : List String × String × Written} {ms : List (List String × String × Written)}
      {before cs after rest : List Char} : IsGap before → IsText (.member m) cs → IsGap after →
      IsText (.members ms) rest →
      IsText (.members (m :: ms)) (before ++ (cs ++ (after ++ ',' :: rest)))

inductive IsDocument : List Statement → List Char → Prop where
  | nil : IsDocument [] []
  | comment {text : List Char} : (∀ c ∈ text, isPlain c = true) → IsDocument [] ('#' :: text)
  | gap {d : List Statement} {gap cs : List Char} : IsGap gap → IsDocument d cs →
      IsDocument d (gap ++ cs)
  | header {d : List Statement} {path : List String} {key : String}
      {blanks keys tail rest : List Char} : IsBlanks blanks → IsPath keys path key →
      EndsLine tail rest → IsDocument d rest →
      IsDocument (.header path key :: d) ('[' :: (blanks ++ (keys ++ ']' :: tail)))
  | pair {d : List Statement} {path : List String} {key : String} {w : Written}
      {keys blanks cs tail rest : List Char} : IsPath keys path key → IsBlanks blanks →
      IsText (.value w) cs → EndsLine tail rest → IsDocument d rest →
      IsDocument (.pair path key w :: d) (keys ++ '=' :: (blanks ++ (cs ++ tail)))

/-! ## First characters -/

section Heads

variable {w : Written} {m : List String × String × Written} {cs : List Char} {d : List Statement}

/-- A value begins with a character that is not passed over. -/
theorem IsText.value_eq_cons (h : IsText (.value w) cs) :
    ∃ c tail, cs = c :: tail ∧ ¬ IsPassed c ∧ isBlank c = false := by
  have hword : ∀ c, isWordChar c = true → ¬ IsPassed c ∧ isBlank c = false := by
    intro c hc
    have hpassed : ¬ IsPassed c := by
      simp only [IsPassed, List.mem_cons, List.not_mem_nil, or_false]
      rintro (rfl | rfl | rfl | rfl | rfl) <;> exact absurd hc (by decide)
    refine ⟨hpassed, ?_⟩
    rw [← Bool.not_eq_true]
    intro hblank
    rcases isBlank_iff.mp hblank with rfl | rfl <;> exact absurd hc (by decide)
  cases h with
  | integer h =>
    obtain ⟨c, tail, rfl, _⟩ := h.eq_cons
    exact ⟨c, tail, rfl, hword c (h.isWordChar c List.mem_cons_self)⟩
  | bool b =>
    cases b with
    | false => exact ⟨'f', "alse".toList, by decide, hword 'f' rfl⟩
    | true => exact ⟨'t', "rue".toList, by decide, hword 't' rfl⟩
  | basic _ => exact ⟨'"', _, rfl, by unfold IsPassed; decide, rfl⟩
  | literal _ => exact ⟨'\'', _, rfl, by unfold IsPassed; decide, rfl⟩
  | table _ => exact ⟨'\x7b', _, rfl, by unfold IsPassed; decide, rfl⟩

theorem IsText.member_eq_cons (h : IsText (.member m) cs) :
    ∃ c tail, cs = c :: tail ∧ isKeyChar c = true := by
  cases h with
  | member hpath _ _ =>
    obtain ⟨c, tail, rfl, hc⟩ := hpath.eq_cons
    exact ⟨c, _, rfl, hc⟩

theorem IsGap.head?_ne (h : IsGap cs) : cs.head? ≠ some '\ufeff' := by
  cases h with
  | nil => simp
  | blank hblank _ => rcases isBlank_iff.mp hblank with rfl | rfl <;> simp
  | line hline _ => rcases hline with rfl | rfl <;> simp
  | comment _ _ _ => simp

/-- No mark opens such a document. -/
theorem IsDocument.head?_ne (h : IsDocument d cs) : cs.head? ≠ some '\ufeff' := by
  induction h with
  | nil => simp
  | comment _ => simp
  | @gap d gap cs hgap _ ih =>
    cases gap with
    | nil => exact ih
    | cons c gap => exact hgap.head?_ne
  | header _ _ _ _ _ => simp
  | pair hpath _ _ _ _ _ =>
    obtain ⟨c, tail, rfl, hc⟩ := hpath.eq_cons
    intro heq
    cases heq
    exact absurd hc (by decide)

end Heads

/-! ## Reading values -/

/-- If the text is read, what is read is what the piece gives, and nothing behind it is touched. -/
def Piece.IsRead (piece : Piece) (cs : List Char) : Prop :=
  match piece with
  | .value w => ∀ {fuel depth rest v rest'}, Stops rest →
      readValue? fuel depth (cs ++ rest) = some (v, rest') → rest' = rest ∧ v.Tells w.Gives
  | .member (path, key, w) => ∀ {fuel depth rest path' key' v rest'}, Stops rest →
      readMember? fuel depth (cs ++ rest) = some (path', key', v, rest') →
      path' = path ∧ key' = key ∧ rest' = rest ∧ v.Tells w.Gives
  | .members ms => ∀ {fuel depth done told rest v rest'},
      TomlNode.Tells (some (.table .header done)) told →
      readMembers? fuel depth done (cs ++ rest) = some (v, rest') →
      rest' = rest ∧ v.Tells fun p x => told p x ∨ (Written.table ms).Gives p x

section Reading

variable {cs rest : List Char} {fuel depth : Nat}

theorem stops_of_mem {c : Char} (h : c ∈ [',', '\x7d']) : Stops (c :: rest) := by
  intro d hd
  cases hd
  simp only [List.mem_cons, List.not_mem_nil, or_false] at h
  rcases h with rfl | rfl <;> decide

/-- A word is neither a string nor in brackets or braces. -/
theorem readValue?_word {c : Char} (hc : isWordChar c = true) :
    readValue? (fuel + 1) depth (c :: cs) = readWord? (c :: cs) := by
  have hquote : ¬ (c = '"' ∨ c = '\'') := by
    rintro (rfl | rfl) <;> exact absurd hc (by decide)
  have hbracket : c ≠ '[' := by
    rintro rfl
    exact absurd hc (by decide)
  have hbrace : c ≠ '\x7b' := by
    rintro rfl
    exact absurd hc (by decide)
  rw [readValue?, if_neg hquote, if_neg hbracket, if_neg hbrace]

theorem eq_succ_of_readValue? {p : Toml × List Char} (h : readValue? fuel depth cs = some p) :
    ∃ n, fuel = n + 1 := by
  cases fuel with
  | zero =>
    rw [readValue?] at h
    cases h
  | succ n => exact ⟨n, rfl⟩

theorem readValue?_integer {n : Int} (hn : IsInteger cs n) (hrest : Stops rest) :
    readValue? (fuel + 1) depth (cs ++ rest) = (integer? n).map fun v => (v, rest) := by
  rw [← readWord?_integer hn hrest]
  obtain ⟨c, tail, rfl, _⟩ := hn.eq_cons
  exact readValue?_word (hn.isWordChar c List.mem_cons_self)

theorem readValue?_quoted {mark : Char} (hmark : mark = '"' ∨ mark = '\'') {v : Toml}
    {rest' : List Char} (h : readValue? fuel depth (mark :: cs) = some (v, rest')) :
    (readQuoted? mark true cs).map (fun p => (Toml.string p.1, p.2)) = some (v, rest') := by
  obtain ⟨fuel, rfl⟩ := eq_succ_of_readValue? h
  rwa [readValue?, if_pos hmark] at h

theorem readValue?_braces {v : Toml} {rest' : List Char}
    (h : readValue? fuel depth ('\x7b' :: cs) = some (v, rest')) :
    ∃ fuel, readMembers? fuel (depth + 1) [] cs = some (v, rest') := by
  obtain ⟨fuel, rfl⟩ := eq_succ_of_readValue? h
  rw [readValue?, if_neg (by decide), if_neg (by decide), if_pos rfl] at h
  split at h
  · exact ⟨fuel, h⟩
  · cases h

/-- One member more, and then the closing brace or a comma. -/
theorem readMembers?_member {m : List String × String × Written} {before after : List Char}
    {stop : Char} {done : Members TomlNode} {told : List String → Toml → Prop} {v : Toml}
    {rest' : List Char} (hbefore : IsGap before) (htext : IsText (.member m) cs)
    (hafter : IsGap after) (hread : (Piece.member m).IsRead cs) (hstop : stop ∈ [',', '\x7d'])
    (hdone : TomlNode.Tells (some (.table .header done)) told)
    (h : readMembers? fuel depth done (before ++ (cs ++ (after ++ stop :: rest))) =
      some (v, rest')) :
    ∃ fuel done', TomlNode.Tells (some (.table .header done')) (fun p x =>
        told p x ∨ ∃ q, p = m.1 ++ m.2.1 :: q ∧ m.2.2.Gives q x) ∧
      if stop = ',' then readMembers? fuel depth done' rest = some (v, rest')
      else (Toml.table (TomlNode.sealMembers done'), rest) = (v, rest') := by
  obtain ⟨path, key, w⟩ := m
  obtain ⟨c, tail, rfl, hc⟩ := htext.member_eq_cons
  have hbrace : c ≠ '\x7d' := by
    rintro rfl
    exact absurd hc (by decide)
  have hpassed : ¬ IsPassed stop := by
    simp only [List.mem_cons, List.not_mem_nil, or_false] at hstop
    rcases hstop with rfl | rfl <;> unfold IsPassed <;> decide
  cases fuel with
  | zero =>
    rw [readMembers?] at h
    cases h
  | succ fuel =>
    rw [readMembers?, hbefore.skipLines?_eq, List.cons_append,
      skipLines?_of_not_isPassed (not_isPassed_of_isKeyChar hc)] at h
    split at h
    · cases h
    · rename_i heq
      injection heq with heq
      exact absurd (List.cons.inj heq).1 hbrace
    · rename_i heq
      injection heq with heq
      rw [← heq, ← List.cons_append] at h
      split at h
      · cases h
      · rename_i path' key' v' rest'' hmember
        obtain ⟨rfl, rfl, rfl, hv⟩ := hread (hafter.stops (stops_of_mem hstop)) hmember
        split at h
        · cases h
        · rename_i done' hassign
          rw [hafter.skipLines?_eq, skipLines?_of_not_isPassed hpassed] at h
          refine ⟨fuel, done', TomlNode.tells_assign hdone hv hassign, ?_⟩
          simp only [List.mem_cons, List.not_mem_nil, or_false] at hstop
          rcases hstop with rfl | rfl
          · rwa [if_pos rfl]
          · rw [if_neg (by decide)]
            injection h

theorem IsText.isRead {piece : Piece} (h : IsText piece cs) : piece.IsRead cs := by
  induction h with
  | @integer cs n hn =>
    intro fuel depth rest v rest' hrest hread
    obtain ⟨fuel, rfl⟩ := eq_succ_of_readValue? hread
    rw [readValue?_integer hn hrest, integer?] at hread
    split at hread
    · cases hread
      exact ⟨rfl, (tells_scalar (by simp)).congr fun p x => Written.gives_scalar_iff⟩
    · cases hread
  | bool b =>
    intro fuel depth rest v rest' hrest hread
    obtain ⟨fuel, rfl⟩ := eq_succ_of_readValue? hread
    have hword : readWord? ((toString b).toList ++ rest) = some (v, rest') := by
      cases b with
      | false => exact (@readValue?_word _ _ _ 'f' rfl).symm.trans hread
      | true => exact (@readValue?_word _ _ _ 't' rfl).symm.trans hread
    rw [readWord?_bool b hrest] at hword
    injection hword with hword
    cases hword
    exact ⟨rfl, (tells_scalar (by simp)).congr fun p x => Written.gives_scalar_iff⟩
  | basic hquoted =>
    intro fuel depth rest v rest' hrest hread
    rw [List.cons_append, List.append_assoc, List.singleton_append] at hread
    have hstring := readValue?_quoted (.inl rfl) hread
    rw [readQuoted?_basic hquoted hrest] at hstring
    cases hstring
    exact ⟨rfl, (tells_scalar (by simp)).congr fun p x => Written.gives_scalar_iff⟩
  | literal hplain =>
    intro fuel depth rest v rest' hrest hread
    rw [List.cons_append, List.append_assoc, List.singleton_append] at hread
    have hstring := readValue?_quoted (.inr rfl) hread
    rw [readQuoted?_literal hplain hrest] at hstring
    cases hstring
    exact ⟨rfl, (tells_scalar (by simp)).congr fun p x => Written.gives_scalar_iff⟩
  | table _ ih =>
    intro fuel depth rest v rest' _ hread
    rw [List.cons_append] at hread
    obtain ⟨fuel, hmembers⟩ := readValue?_braces hread
    obtain ⟨hrest, hv⟩ := ih TomlNode.tells_empty hmembers
    exact ⟨hrest, hv.congr fun p x => by rw [false_or]⟩
  | member hpath hgap hvalue ih =>
    intro fuel depth rest path' key' v rest' hrest hread
    obtain ⟨c, tail, rfl, hc, _⟩ := hvalue.value_eq_cons
    cases fuel with
    | zero =>
      rw [readMember?] at hread
      cases hread
    | succ fuel =>
      rw [List.append_assoc, List.cons_append, List.append_assoc, readMember?,
        hpath.readPath?_eq rfl (by decide) rfl] at hread
      split at hread
      · cases hread
      · rename_i heq
        obtain ⟨-, heq⟩ := Option.ite_none_right_eq_some.mp heq
        cases heq
        rw [skipLines?_of_not_isPassed (by unfold IsPassed; decide)] at hread
        simp only [hgap.skipLines?_eq, List.cons_append, skipLines?_of_not_isPassed hc] at hread
        obtain ⟨⟨v', rest''⟩, hv, heq⟩ := Option.map_eq_some_iff.mp hread
        cases heq
        obtain ⟨hrest', htells⟩ := ih hrest hv
        exact ⟨rfl, rfl, hrest', htells⟩
  | empty hgap =>
    intro fuel depth done told rest v rest' hdone hread
    cases fuel with
    | zero =>
      rw [readMembers?] at hread
      cases hread
    | succ fuel =>
      rw [List.append_assoc, List.singleton_append, readMembers?, hgap.skipLines?_eq,
        skipLines?_of_not_isPassed (by unfold IsPassed; decide)] at hread
      cases hread
      refine ⟨rfl, (TomlNode.tells_sealMembers hdone).congr fun p x => ?_⟩
      simp [Written.gives_table_iff]
  | last hbefore htext hafter ih =>
    intro fuel depth done told rest v rest' hdone hread
    rw [List.append_assoc, List.append_assoc, List.append_assoc, List.singleton_append] at hread
    obtain ⟨_, done', hdone', hend⟩ :=
      readMembers?_member hbefore htext hafter ih (by simp) hdone hread
    rw [if_neg (by decide)] at hend
    cases hend
    refine ⟨rfl, (TomlNode.tells_sealMembers hdone').congr fun p x => ?_⟩
    simp [Written.gives_table_iff]
  | more hbefore htext hafter _ ih ihmore =>
    intro fuel depth done told rest v rest' hdone hread
    rw [List.append_assoc, List.append_assoc, List.append_assoc, List.cons_append] at hread
    obtain ⟨_, done', hdone', hend⟩ :=
      readMembers?_member hbefore htext hafter ih (by simp) hdone hread
    rw [if_pos rfl] at hend
    obtain ⟨hrest, hv⟩ := ihmore hdone' hend
    refine ⟨hrest, hv.congr fun p x => ?_⟩
    simp only [Written.gives_table_iff, List.mem_cons, or_and_right, exists_or, exists_eq_left,
      or_assoc]

end Reading

end Toml

/-! ## Reading lines -/

namespace TomlSheet

open Toml (IsName IsBlanks IsPath IsText EndsLine IsDocument Written)

/-- While lines are read: what the tables tell, and that their keys are names. -/
structure Shows (s : TomlSheet) (told : List String → Toml → Prop) : Prop where
  tells : TomlNode.Tells (some (.table .header s.root)) told
  isName_keys : ∀ key ∈ s.root.map Prod.fst, IsName key.toList
  isName_header : ∀ key ∈ s.header, IsName key.toList

variable {s s' : TomlSheet} {told told' : List String → Toml → Prop} {path : List String}
  {key : String}

theorem Shows.congr (h : s.Shows told) (htold : ∀ p x, told' p x ↔ told p x) : s.Shows told' :=
  ⟨h.tells.congr htold, h.isName_keys, h.isName_header⟩

theorem shows_blank : (⟨[], []⟩ : TomlSheet).Shows fun _ _ => False :=
  ⟨TomlNode.tells_empty, by simp, by simp⟩

/-- A name under which something is written comes to the keys. -/
theorem isName_put {members : Members TomlNode} {node : TomlNode} (hkey : IsName key.toList)
    (h : ∀ name ∈ members.map Prod.fst, IsName name.toList) :
    ∀ name ∈ (Members.put key node members).map Prod.fst, IsName name.toList := by
  intro name hname
  rw [Members.keys_put] at hname
  split at hname
  · exact h name hname
  · rcases List.mem_append.mp hname with hname | hname
    · exact h name hname
    · rwa [List.mem_singleton.mp hname]

theorem isName_assign {members members' : Members TomlNode} {v : Toml}
    (hpath : ∀ name ∈ path, IsName name.toList) (hkey : IsName key.toList)
    (h : ∀ name ∈ members.map Prod.fst, IsName name.toList)
    (hmembers : TomlNode.assign path key v members = some members') :
    ∀ name ∈ members'.map Prod.fst, IsName name.toList := by
  refine TomlNode.keys_within hmembers h hpath fun inner inner' hput hinner => ?_
  split at hput
  · cases hput
  · cases hput
    exact isName_put hkey hinner

theorem Shows.openTable (h : s.Shows told) (hpath : ∀ name ∈ path, IsName name.toList)
    (hkey : IsName key.toList) (hs : s.openTable path key = some s') :
    s'.Shows told ∧ s'.header = path ++ [key] := by
  obtain ⟨root, hroot, rfl⟩ := Option.map_eq_some_iff.mp hs
  refine ⟨⟨TomlNode.tells_openTable h.tells hroot, ?_, ?_⟩, rfl⟩
  · refine TomlNode.keys_within hroot h.isName_keys hpath fun inner inner' hput hinner => ?_
    split at hput
    · cases hput
      exact isName_put hkey hinner
    · cases hput
      exact isName_put hkey hinner
    · cases hput
  · intro name hname
    rcases List.mem_append.mp hname with hname | hname
    · exact hpath name hname
    · rwa [List.mem_singleton.mp hname]

theorem Shows.assign (h : s.Shows told) (hpath : ∀ name ∈ path, IsName name.toList)
    (hkey : IsName key.toList) {v : Toml} {new : List String → Toml → Prop} (hv : v.Tells new)
    (hs : s.assign path key v = some s') :
    s'.Shows (fun p x => told p x ∨ ∃ q, p = s.header ++ path ++ key :: q ∧ new q x) ∧
      s'.header = s.header := by
  obtain ⟨root, hroot, rfl⟩ := Option.map_eq_some_iff.mp hs
  refine ⟨⟨?_, ?_, h.isName_header⟩, rfl⟩
  · refine (TomlNode.tells_within h.tells (fun htells hassign =>
      TomlNode.tells_assign htells hv hassign) hroot).congr fun p x => or_congr_right ?_
    constructor
    · rintro ⟨q, rfl, hq⟩
      exact ⟨path ++ key :: q, by rw [List.append_assoc], q, rfl, hq⟩
    · rintro ⟨_, rfl, q, rfl, hq⟩
      exact ⟨q, by rw [List.append_assoc], hq⟩
  · exact TomlNode.keys_within hroot h.isName_keys h.isName_header
      fun inner inner' hassign hinner => isName_assign hpath hkey hinner hassign

variable {fuel : Nat} {cs tail rest rest' : List Char}

theorem readLine?_header {blanks keys : List Char} (hblanks : IsBlanks blanks)
    (hpath : IsPath keys path key) (hend : EndsLine tail rest) :
    s.readLine? fuel ('[' :: (blanks ++ (keys ++ ']' :: tail))) =
      if path.length < Toml.maxDepth then (s.openTable path key).map fun s => (s, rest)
      else none := by
  obtain ⟨c, keys', hkeys, hc⟩ := hpath.eq_cons
  have hbracket : ∀ cs, blanks ++ (keys ++ ']' :: tail) ≠ '[' :: cs := by
    intro cs heq
    rw [hkeys] at heq
    cases blanks with
    | nil =>
      cases heq
      exact absurd hc (by decide)
    | cons b blanks =>
      cases heq
      exact absurd (hblanks '[' List.mem_cons_self) (by decide)
  have hskip : Toml.skipBlanks (blanks ++ (keys ++ ']' :: tail)) = keys ++ ']' :: tail := by
    rw [hkeys]
    exact Toml.skipBlanks_append hblanks (Toml.isBlank_of_isKeyChar hc)
  unfold readLine?
  split
  · rename_i heq
    exact absurd (List.cons.inj heq).2 (hbracket _)
  · rename_i heq
    cases heq
    rw [hskip, hpath.readPath?_eq rfl (by decide) rfl]
    by_cases hlength : path.length < Toml.maxDepth
    · simp only [if_pos hlength, hend.endLine?_eq, Option.map_some]
      cases s.openTable path key <;> rfl
    · simp only [if_neg hlength]
  · rename_i hne
    exact absurd rfl (hne _)

theorem readLine?_pair {blanks keys : List Char} {w : Written} (hpath : IsPath keys path key)
    (hblanks : IsBlanks blanks) (hvalue : IsText (.value w) cs) :
    s.readLine? fuel (keys ++ '=' :: (blanks ++ (cs ++ tail))) =
      if path.length < Toml.maxDepth then
        match Toml.readValue? fuel 0 (cs ++ tail) with
        | some (v, rest) => (s.assign path key v).bind fun s =>
          (Toml.endLine? false rest).map fun rest => (s, rest)
        | none => none
      else none := by
  obtain ⟨c, keys', hkeys, hc⟩ := hpath.eq_cons
  have hbracket : c ≠ '[' := by
    rintro rfl
    exact absurd hc (by decide)
  have hskip : Toml.skipBlanks (blanks ++ (cs ++ tail)) = cs ++ tail := by
    obtain ⟨d, cs', rfl, _, hd⟩ := hvalue.value_eq_cons
    exact Toml.skipBlanks_append hblanks hd
  unfold readLine?
  split
  · rename_i heq
    rw [hkeys] at heq
    exact absurd (List.cons.inj heq).1 hbracket
  · rename_i heq
    rw [hkeys] at heq
    exact absurd (List.cons.inj heq).1 hbracket
  · rw [hpath.readPath?_eq rfl (by decide) rfl]
    by_cases hlength : path.length < Toml.maxDepth
    · cases hvalue : Toml.readValue? fuel 0 (cs ++ tail) <;>
        simp only [if_pos hlength, hskip, hvalue]
    · simp only [if_neg hlength]

theorem readLines?_line {c : Char} {more : List Char} (hc : ¬ Toml.IsPassed c)
    (hcs : cs = c :: more) :
    readLines? (fuel + 1) s cs = (s.readLine? fuel cs).bind fun p => readLines? fuel p.1 p.2 := by
  rw [readLines?, hcs, Toml.skipLines?_of_not_isPassed hc]
  simp only
  cases s.readLine? fuel (c :: more) <;> rfl

/-- One line after the other: the sheet shows what it showed and what the lines give. -/
theorem shows_readLines? {d : List Toml.Statement} (hd : IsDocument d cs) (h : s.Shows told)
    (hs : readLines? fuel s cs = some s') :
    s'.Shows fun p x => told p x ∨ Toml.Gives s.header d p x := by
  induction hd generalizing fuel s told with
  | nil =>
    cases fuel with
    | zero => cases hs
    | succ fuel =>
      cases hs
      exact h.congr fun p x => by rw [Toml.Gives, or_false]
  | comment htext =>
    cases fuel with
    | zero => cases hs
    | succ fuel =>
      have hskip := @Toml.skipLines?_comment [] _ htext
      rw [List.append_nil] at hskip
      rw [readLines?, Toml.skipLines?_cons_of_ne (by decide), if_neg (by decide),
        if_neg Bool.false_ne_true, if_pos rfl, hskip] at hs
      cases hs
      exact h.congr fun p x => by rw [Toml.Gives, or_false]
  | @gap d gap cs hgap _ ih =>
    cases fuel with
    | zero => cases hs
    | succ fuel =>
      have hrest : readLines? (fuel + 1) s cs = some s' := by
        rw [readLines?, hgap.skipLines?_eq] at hs
        rwa [readLines?]
      exact ih h hrest
  | header hblanks hpath hend _ ih =>
    cases fuel with
    | zero => cases hs
    | succ fuel =>
      rw [readLines?_line (by unfold Toml.IsPassed; decide) rfl,
        readLine?_header hblanks hpath hend] at hs
      obtain ⟨⟨s'', rest'⟩, hline, hmore⟩ := Option.bind_eq_some_iff.mp hs
      split at hline
      · obtain ⟨_, hopen, heq⟩ := Option.map_eq_some_iff.mp hline
        cases heq
        obtain ⟨hshows, hheader⟩ := h.openTable hpath.isName.1 hpath.isName.2 hopen
        have hrest := ih hshows hmore
        rwa [hheader] at hrest
      · cases hline
  | pair hpath hblanks hvalue hend _ ih =>
    cases fuel with
    | zero => cases hs
    | succ fuel =>
      obtain ⟨c, keys, hkeys, hc⟩ := hpath.eq_cons
      rw [readLines?_line (Toml.not_isPassed_of_isKeyChar hc) (by rw [hkeys]; rfl),
        readLine?_pair hpath hblanks hvalue] at hs
      obtain ⟨⟨s'', rest'⟩, hline, hmore⟩ := Option.bind_eq_some_iff.mp hs
      split at hline
      · split at hline
        · rename_i v rest'' hv
          obtain ⟨rfl, htells⟩ := hvalue.isRead hend.stops hv
          obtain ⟨_, hassign, heq⟩ := Option.bind_eq_some_iff.mp hline
          rw [hend.endLine?_eq] at heq
          cases heq
          obtain ⟨hshows, hheader⟩ := h.assign hpath.isName.1 hpath.isName.2 htells hassign
          have hrest := ih hshows hmore
          rw [hheader] at hrest
          exact hrest.congr fun p x => by rw [Toml.Gives, or_assoc]
        · cases hline
      · cases hline

end TomlSheet

namespace Toml

theorem ofText?_eq {text : String} (hmark : text.toList.head? ≠ some '\ufeff') :
    ofText? text = (TomlSheet.readLines? (2 * text.toList.length + 2) ⟨[], []⟩ text.toList).map
      fun s => TomlNode.sealMembers s.root := by
  unfold ofText?
  split
  · rename_i heq
    rw [heq] at hmark
    exact absurd rfl hmark
  · rfl

/-- What is read of a document gives what its lines give, and its keys are names. -/
theorem tells_ofText? {d : List Statement} {text : String} {members : Members Toml}
    (hd : IsDocument d text.toList) (h : ofText? text = some members) :
    (Toml.table members).Tells (Gives [] d) ∧ ∀ key ∈ members.map Prod.fst, IsName key.toList := by
  rw [ofText?_eq hd.head?_ne] at h
  obtain ⟨s, hs, rfl⟩ := Option.map_eq_some_iff.mp h
  have hshows := TomlSheet.shows_readLines? hd TomlSheet.shows_blank hs
  refine ⟨(TomlNode.tells_sealMembers hshows.tells).congr fun p x => by rw [false_or], ?_⟩
  rw [TomlNode.keys_sealMembers]
  exact hshows.isName_keys

end Toml
end ErrorBoundary
