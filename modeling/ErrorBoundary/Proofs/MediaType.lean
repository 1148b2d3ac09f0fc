import Mathlib.Data.List.TakeDrop
import Mathlib.Data.List.TakeWhile
import ErrorBoundary.Http.MediaType

/-!
# ErrorBoundary.Proofs.MediaType

The content types of JSON as texts: `application`, a slash, a subtype that is or ends in `json`, and
maybe parameters. What is read of a text says no more and no less
(`MediaType.exists_isJson_iff`).

* `MediaType.IsParameters` — the texts of parameters, and `isSome_parametersFrom?_iff` that these
  are the ones that can be read.
* `MediaType.NamesJson`    — the subtypes of JSON.
* `MediaType.IsJsonText`   — the content types of JSON.
-/

namespace ErrorBoundary
namespace MediaType

/-! ## The texts -/

def IsName (cs : List Char) : Prop := cs ≠ [] ∧ ∀ c ∈ cs, isTokenChar c = true

/-- What a quote may hold once it has begun. -/
def IsQuotable (cs : List Char) : Prop := ∀ c ∈ cs, isQuotedChar c = true ∧ c ≠ '"'

/-- One parameter. A quoted value is not empty, may begin with a quote, and blanks may follow it;
only at the end of a text may a value be missing. -/
inductive IsParameter (atEnd : Bool) : List Char → Prop where
  | token {name value : List Char} : IsName name → IsName value →
      IsParameter atEnd (name ++ '=' :: value)
  | missing {name : List Char} : IsName name → atEnd = true → IsParameter atEnd (name ++ ['='])
  | quoted {name inside : List Char} {first : Char} (blanks : Nat) : IsName name →
      isQuotedChar first = true → IsQuotable inside →
      IsParameter atEnd
        (name ++ '=' :: '"' :: first :: (inside ++ '"' :: List.replicate blanks ' '))

/-- Parameters with a semicolon between two of them, and blanks in front. -/
inductive IsParameters : List Char → Prop where
  | nil : IsParameters []
  | blank {cs : List Char} : IsParameters cs → IsParameters (' ' :: cs)
  | last {cs : List Char} : IsParameter true cs → IsParameters cs
  | more {p cs : List Char} : IsParameter false p → IsParameters cs → IsParameters (p ++ ';' :: cs)

/-- A subtype of JSON, in lower case: `json` alone, or before or behind the last plus sign. -/
inductive NamesJson : String → Prop where
  | alone : NamesJson "json"
  | before {suffix : String} : '+' ∉ suffix.toList → NamesJson ("json+" ++ suffix)
  | behind {base : String} : base ≠ "" → NamesJson (base ++ "+json")

/-- A content type of JSON. -/
structure IsJsonText (type subtype parameters : List Char) (s : String) : Prop where
  text : s.toList = type ++ '/' :: (subtype ++ parameters)
  isName_type : IsName type
  isName_subtype : IsName subtype
  application : lowerAscii (String.ofList type) = "application"
  json : NamesJson (lowerAscii (String.ofList subtype))
  parameters : parameters = [] ∨ ∃ rest, parameters = ';' :: rest ∧ IsParameters rest

/-! ## Parameters that are read -/

section Read

variable {done : List (String × String)} {name rev cs s : List Char}

theorem ne_of_isTokenChar {c d : Char} (hd : isTokenChar d = false) (h : isTokenChar c = true) :
    c ≠ d := by
  rintro rfl
  rw [hd] at h
  cases h

theorem read_name (hs : ∀ c ∈ s, isTokenChar c = true) :
    parametersFrom? done (.name rev) (s ++ '=' :: cs) =
      parametersFrom? done (.valueStart (rev.reverse ++ s)) cs := by
  induction s generalizing rev with
  | nil => simp [parametersFrom?]
  | cons c s ih =>
    have hc := hs c List.mem_cons_self
    have hne : c ≠ '=' := ne_of_isTokenChar (by decide) hc
    rw [List.cons_append, parametersFrom?]
    simp only [hne, if_false, hc, if_true]
    rw [ih fun c hc => hs c (List.mem_cons_of_mem _ hc)]
    simp

theorem read_start (hname : IsName name) :
    parametersFrom? done .start (name ++ '=' :: cs) =
      parametersFrom? done (.valueStart name) cs := by
  obtain ⟨hne, hname⟩ := hname
  cases name with
  | nil => exact absurd rfl hne
  | cons c name =>
    have hc := hname c List.mem_cons_self
    have hblank : c ≠ ' ' := ne_of_isTokenChar (by decide) hc
    rw [List.cons_append, parametersFrom?]
    simp only [hblank, if_false, hc, if_true]
    rw [read_name fun c hc => hname c (List.mem_cons_of_mem _ hc)]
    simp

theorem read_value (hs : ∀ c ∈ s, isTokenChar c = true) :
    parametersFrom? done (.value name rev) (s ++ cs) =
      parametersFrom? done (.value name (s.reverse ++ rev)) cs := by
  induction s generalizing rev with
  | nil => rfl
  | cons c s ih =>
    have hc := hs c List.mem_cons_self
    have hne : c ≠ ';' := ne_of_isTokenChar (by decide) hc
    rw [List.cons_append, parametersFrom?]
    simp only [hne, if_false, hc, if_true]
    rw [ih fun c hc => hs c (List.mem_cons_of_mem _ hc)]
    simp

theorem read_token {value : List Char} (hname : IsName name) (hvalue : IsName value) :
    parametersFrom? done .start (name ++ '=' :: (value ++ cs)) =
      parametersFrom? done (.value name value.reverse) cs := by
  obtain ⟨hne, hvalue⟩ := hvalue
  rw [read_start hname]
  cases value with
  | nil => exact absurd rfl hne
  | cons c value =>
    have hc := hvalue c List.mem_cons_self
    have hquote : c ≠ '"' := ne_of_isTokenChar (by decide) hc
    rw [List.cons_append, parametersFrom?]
    simp only [hquote, if_false, hc, if_true]
    rw [read_value fun c hc => hvalue c (List.mem_cons_of_mem _ hc), List.reverse_cons]

theorem read_quotable (hrev : rev ≠ []) (hs : IsQuotable s) :
    parametersFrom? done (.quoted name rev) (s ++ '"' :: cs) =
      parametersFrom? (parameter name (rev.reverse ++ s) :: done) .afterQuote cs := by
  induction s generalizing rev with
  | nil => simp [parametersFrom?, hrev]
  | cons c s ih =>
    obtain ⟨hc, hne⟩ := hs c List.mem_cons_self
    rw [List.cons_append, parametersFrom?]
    simp only [hne, false_and, if_false, hc, if_true]
    rw [ih (by simp) fun c hc => hs c (List.mem_cons_of_mem _ hc)]
    simp

theorem read_blanks (n : Nat) :
    parametersFrom? done .afterQuote (List.replicate n ' ' ++ cs) =
      parametersFrom? done .afterQuote cs := by
  induction n with
  | zero => rfl
  | succ n ih =>
    rw [List.replicate_succ, List.cons_append, parametersFrom?]
    simpa using ih

theorem read_quoted {first : Char} {inside : List Char} (blanks : Nat) (hname : IsName name)
    (hfirst : isQuotedChar first = true) (hinside : IsQuotable inside) :
    parametersFrom? done .start
        (name ++ '=' :: '"' :: first :: (inside ++ '"' :: (List.replicate blanks ' ' ++ cs))) =
      parametersFrom? (parameter name (first :: inside) :: done) .afterQuote cs := by
  rw [read_start hname, parametersFrom?]
  simp only [if_true]
  rw [parametersFrom?]
  simp only [List.isEmpty_nil, Bool.not_true, Bool.false_eq_true, and_false, if_false, hfirst,
    if_true]
  rw [read_quotable (by simp) hinside, read_blanks]
  rfl

/-- Behind a parameter that is not the last the next ones are read. -/
theorem read_parameter {p : List Char} (hp : IsParameter false p)
    (hcs : ∀ done, (parametersFrom? done .start cs).isSome) :
    (parametersFrom? done .start (p ++ ';' :: cs)).isSome := by
  cases hp with
  | token hname hvalue =>
    rw [List.append_assoc, List.cons_append, read_token hname hvalue]
    exact hcs _
  | missing _ hlast => cases hlast
  | quoted blanks hname hfirst hinside =>
    simp only [List.append_assoc, List.cons_append]
    rw [read_quoted blanks hname hfirst hinside]
    exact hcs _

theorem read_lastParameter {p : List Char} (hp : IsParameter true p) :
    (parametersFrom? done .start p).isSome := by
  cases hp with
  | @token name value hname hvalue =>
    rw [← List.append_nil value, read_token hname hvalue]
    rfl
  | missing hname =>
    rw [read_start hname]
    rfl
  | quoted blanks hname hfirst hinside =>
    rw [← List.append_nil (List.replicate blanks ' '), read_quoted blanks hname hfirst hinside]
    rfl

theorem isSome_parametersFrom? (h : IsParameters cs) (done : List (String × String)) :
    (parametersFrom? done .start cs).isSome := by
  induction h generalizing done with
  | nil => rfl
  | blank _ ih =>
    rw [parametersFrom?]
    exact ih done
  | last hp => exact read_lastParameter hp
  | more hp _ ih => exact read_parameter hp ih

end Read

/-! ## What is read is parameters -/

/-- A quote that has begun. -/
def IsBegun (cs : List Char) : Prop :=
  ∃ first inside, cs = first :: inside ∧ isQuotedChar first = true ∧ IsQuotable inside

/-- What may follow in each phase, behind what the phase has of its parameter. -/
def MayFollow (cs : List Char) : ParameterPhase → Prop
  | .start => IsParameters cs
  | .name rev => IsName rev.reverse → IsParameters (rev.reverse ++ cs)
  | .valueStart name => IsName name → IsParameters (name ++ '=' :: cs)
  | .value name rev => IsName name → IsName rev.reverse →
      IsParameters (name ++ '=' :: (rev.reverse ++ cs))
  | .quoted name rev => IsName name → rev = [] ∨ IsBegun rev.reverse →
      IsParameters (name ++ '=' :: '"' :: (rev.reverse ++ cs))
  | .afterQuote => ∃ n, cs = List.replicate n ' ' ∨
      ∃ rest, cs = List.replicate n ' ' ++ ';' :: rest ∧ IsParameters rest

theorem IsName.singleton {c : Char} (hc : isTokenChar c = true) : IsName [c] :=
  ⟨by simp, by simpa using hc⟩

theorem IsName.snoc {cs : List Char} {c : Char} (h : IsName cs) (hc : isTokenChar c = true) :
    IsName (cs ++ [c]) := by
  refine ⟨by simp, fun d hd => ?_⟩
  rcases List.mem_append.mp hd with hd | hd
  · exact h.2 d hd
  · rw [List.mem_singleton.mp hd]
    exact hc

theorem IsBegun.singleton {c : Char} (hc : isQuotedChar c = true) : IsBegun [c] :=
  ⟨c, [], rfl, hc, fun _ h => absurd h List.not_mem_nil⟩

theorem IsBegun.snoc {cs : List Char} {c : Char} (h : IsBegun cs) (hc : isQuotedChar c = true)
    (hne : c ≠ '"') : IsBegun (cs ++ [c]) := by
  obtain ⟨first, inside, rfl, hfirst, hinside⟩ := h
  refine ⟨first, inside ++ [c], rfl, hfirst, fun d hd => ?_⟩
  rcases List.mem_append.mp hd with hd | hd
  · exact hinside d hd
  · rw [List.mem_singleton.mp hd]
    exact ⟨hc, hne⟩

variable {done : List (String × String)} {phase : ParameterPhase} {cs : List Char}

theorem mayFollow_nil (h : (parametersFrom? done phase []).isSome) : MayFollow [] phase := by
  cases phase with
  | start => exact .nil
  | name rev => cases h
  | valueStart name =>
    intro hname
    exact .last (.missing hname rfl)
  | value name rev =>
    intro hname hvalue
    rw [List.append_nil]
    exact .last (.token hname hvalue)
  | quoted name rev => cases h
  | afterQuote => exact ⟨0, .inl rfl⟩

theorem mayFollow (h : (parametersFrom? done phase cs).isSome) : MayFollow cs phase := by
  induction cs generalizing done phase with
  | nil => exact mayFollow_nil h
  | cons c cs ih =>
    cases phase with
    | start =>
      rw [parametersFrom?] at h
      split at h
      · rename_i hc
        rw [hc]
        exact .blank (ih h)
      · split at h
        · rename_i hc
          exact ih h (.singleton hc)
        · cases h
    | name rev =>
      intro hname
      rw [parametersFrom?] at h
      split at h
      · rename_i hc
        rw [hc]
        exact ih h hname
      · split at h
        · rename_i hc
          have hmore := ih h
          simp only [MayFollow, List.reverse_cons, List.append_assoc] at hmore
          exact hmore (hname.snoc hc)
        · cases h
    | valueStart name =>
      intro hname
      rw [parametersFrom?] at h
      split at h
      · rename_i hc
        rw [hc]
        exact ih h hname (.inl rfl)
      · split at h
        · rename_i hc
          exact ih h hname (.singleton hc)
        · cases h
    | value name rev =>
      intro hname hvalue
      rw [parametersFrom?] at h
      split at h
      · rename_i hc
        have hall : name ++ '=' :: (rev.reverse ++ c :: cs) =
            (name ++ '=' :: rev.reverse) ++ ';' :: cs := by simp [hc]
        rw [hall]
        exact .more (.token hname hvalue) (ih h)
      · split at h
        · rename_i hc
          have hmore := ih h
          simp only [MayFollow, List.reverse_cons, List.append_assoc] at hmore
          exact hmore hname (hvalue.snoc hc)
        · cases h
    | quoted name rev =>
      intro hname hrev
      rw [parametersFrom?] at h
      split at h
      · -- the quote closes, and blanks follow up to the next parameter or the end
        rename_i hc
        obtain ⟨rfl, hne⟩ := hc
        have hbegun : IsBegun rev.reverse := hrev.resolve_left (by simpa using hne)
        obtain ⟨first, inside, heq, hfirst, hinside⟩ := hbegun
        rw [heq]
        obtain ⟨n, rfl | ⟨rest, rfl, hrest⟩⟩ := ih h
        · exact .last (.quoted n hname hfirst hinside)
        · have hquoted : IsParameter false _ := .quoted n hname hfirst hinside
          simpa using IsParameters.more hquoted hrest
      · rename_i hclose
        split at h
        · rename_i hc
          have hmore := ih h
          simp only [MayFollow, List.reverse_cons, List.append_assoc] at hmore
          refine hmore hname (.inr ?_)
          rcases hrev with rfl | hbegun
          · exact .singleton hc
          · refine hbegun.snoc hc fun hquote => hclose ⟨hquote, ?_⟩
            obtain ⟨first, inside, heq, _⟩ := hbegun
            cases rev with
            | nil => cases heq
            | cons d rev => rfl
        · cases h
    | afterQuote =>
      rw [parametersFrom?] at h
      split at h
      · rename_i hc
        rw [hc]
        exact ⟨0, .inr ⟨cs, rfl, ih h⟩⟩
      · split at h
        · rename_i hc
          rw [hc]
          obtain ⟨n, rfl | ⟨rest, rfl, hrest⟩⟩ := ih h
          · exact ⟨n + 1, .inl rfl⟩
          · exact ⟨n + 1, .inr ⟨rest, rfl, hrest⟩⟩
        · cases h

theorem isSome_parametersFrom?_iff :
    (parametersFrom? done .start cs).isSome ↔ IsParameters cs :=
  ⟨fun h => mayFollow h, fun h => isSome_parametersFrom? h done⟩

/-! ## Suffixes -/

/-- A span is what stands before the first character outside the class. -/
theorem span_eq_iff {p : Char → Bool} {front rest : List Char} :
    cs.span p = (front, rest) ↔
      cs = front ++ rest ∧ (∀ c ∈ front, p c = true) ∧ ∀ c ∈ rest.head?, p c = false := by
  rw [List.span_eq_takeWhile_dropWhile, Prod.mk.injEq]
  constructor
  · rintro ⟨rfl, rfl⟩
    refine ⟨List.takeWhile_append_dropWhile.symm, fun c hc => List.mem_takeWhile_imp hc, ?_⟩
    intro c hc
    have h := List.head?_dropWhile_not p cs
    rw [Option.mem_def.mp hc] at h
    exact h
  · rintro ⟨rfl, hfront, hrest⟩
    have hstop : rest.takeWhile p = [] ∧ rest.dropWhile p = rest := by
      cases rest with
      | nil => exact ⟨rfl, rfl⟩
      | cons c rest => simp [hrest c rfl]
    rw [List.takeWhile_append_of_pos hfront, List.dropWhile_append_of_pos hfront, hstop.1, hstop.2]
    exact ⟨List.append_nil _, rfl⟩

theorem splitSuffix_alone {m : MediaType} (h : '+' ∉ m.subtype.toList) :
    m.splitSuffix = (m.subtype, none) := by
  have hspan : m.subtype.toList.reverse.span (· != '+') = (m.subtype.toList.reverse, []) := by
    refine span_eq_iff.mpr ⟨(List.append_nil _).symm, fun c hc => ?_, by simp⟩
    have hc : c ∈ m.subtype.toList := List.mem_reverse.mp hc
    simpa using ne_of_mem_of_not_mem hc h
  rw [splitSuffix, hspan]

/-- Behind the last plus sign stands the suffix, but not if the plus sign comes first. -/
theorem splitSuffix_append {m : MediaType} {base suffix : List Char}
    (h : m.subtype.toList = base ++ '+' :: suffix) (hsuffix : '+' ∉ suffix) :
    m.splitSuffix = if base = [] then (m.subtype, none)
      else (String.ofList base, some (String.ofList suffix)) := by
  have hspan : m.subtype.toList.reverse.span (· != '+') =
      (suffix.reverse, '+' :: base.reverse) := by
    refine span_eq_iff.mpr ⟨by simp [h], fun c hc => ?_, by simp⟩
    simpa using ne_of_mem_of_not_mem (List.mem_reverse.mp hc) hsuffix
  rw [splitSuffix, hspan]
  simp

theorem exists_last_plus {cs : List Char} (h : '+' ∈ cs) :
    ∃ base suffix, cs = base ++ '+' :: suffix ∧ '+' ∉ suffix := by
  obtain ⟨front, back, hcs, hfront⟩ := List.eq_append_cons_of_mem (List.mem_reverse.mpr h)
  refine ⟨back.reverse, front.reverse, ?_, by simpa using hfront⟩
  rw [← List.reverse_reverse cs, hcs]
  simp

theorem isJson_subtype_iff {m : MediaType} :
    (m.splitSuffix.1 = "json" ∨ m.splitSuffix.2 = some "json") ↔ NamesJson m.subtype := by
  constructor
  · intro h
    by_cases hplus : '+' ∈ m.subtype.toList
    · obtain ⟨base, suffix, hsub, hsuffix⟩ := exists_last_plus hplus
      have htext : m.subtype = String.ofList base ++ "+" ++ String.ofList suffix := by
        apply String.toList_inj.mp
        simp [hsub]
      rw [splitSuffix_append hsub hsuffix] at h
      by_cases hbase : base = []
      · rw [if_pos hbase] at h
        rcases h with h | h
        · have h : m.subtype = "json" := h
          rw [h] at hplus
          exact absurd hplus (by decide)
        · cases h
      · rw [if_neg hbase] at h
        rcases h with h | h
        · have h : String.ofList base = "json" := h
          rw [htext, h]
          exact .before (by simpa using hsuffix)
        · have h : String.ofList suffix = "json" := Option.some.inj h
          rw [htext, h, String.append_assoc]
          exact .behind (by simpa using hbase)
    · rw [splitSuffix_alone hplus] at h
      rcases h with h | h
      · rw [show m.subtype = "json" from h]
        exact .alone
      · cases h
  · intro h
    generalize hsub : m.subtype = sub at h
    cases h with
    | alone =>
      refine .inl ?_
      rw [splitSuffix_alone (by rw [hsub]; decide), hsub]
    | @before suffix hsuffix =>
      refine .inl ?_
      have hlist : m.subtype.toList = "json".toList ++ '+' :: suffix.toList := by
        rw [hsub, String.toList_append]
        rfl
      rw [splitSuffix_append hlist hsuffix, if_neg (by decide)]
      rfl
    | @behind base hbase =>
      refine .inr ?_
      have hlist : m.subtype.toList = base.toList ++ '+' :: "json".toList := by
        rw [hsub, String.toList_append]
        rfl
      rw [splitSuffix_append hlist (by decide), if_neg (by simpa using hbase)]
      rfl

/-! ## Content types -/

theorem isJson_iff {m : MediaType} :
    m.isJson = true ↔ m.type = "application" ∧ NamesJson m.subtype := by
  rw [isJson, Bool.and_eq_true, Bool.or_eq_true, beq_iff_eq, beq_iff_eq, beq_iff_eq,
    isJson_subtype_iff]

theorem not_namesJson_empty : ¬ NamesJson "" := by
  intro h
  generalize hs : "" = s at h
  cases h with
  | alone => exact absurd hs (by decide)
  | before => exact absurd (congrArg String.toList hs) (by simp)
  | behind => exact absurd (congrArg String.toList hs) (by simp)

/-- What is read of a text is a content type of JSON exactly if the text is one. -/
theorem exists_isJson_iff {s : String} :
    (∃ m, ofString? s = some m ∧ m.isJson = true) ↔
      ∃ type subtype parameters, IsJsonText type subtype parameters s := by
  constructor
  · rintro ⟨m, hread, hjson⟩
    obtain ⟨happlication, hnames⟩ := isJson_iff.mp hjson
    unfold ofString? at hread
    split at hread
    · cases hread
    · rename_i type rest hempty houter
      obtain ⟨htext, htype, _⟩ := span_eq_iff.mp houter
      cases hinner : rest.span isTokenChar with
      | mk subtype parameters =>
        obtain ⟨rfl, hsubtype, _⟩ := span_eq_iff.mp hinner
        rw [hinner] at hread
        dsimp only at hread
        split at hread
        · cases hread
        · rename_i ps hps
          cases hread
          have hfull : subtype ≠ [] := by
            rintro rfl
            exact not_namesJson_empty hnames
          refine ⟨type, subtype, parameters, htext, ⟨hempty, htype⟩, ⟨hfull, hsubtype⟩,
            happlication, hnames, ?_⟩
          split at hps
          · exact .inl rfl
          · exact .inr ⟨_, rfl, isSome_parametersFrom?_iff.mp (Option.isSome_of_eq_some hps)⟩
          · cases hps
    · cases hread
  · rintro ⟨type, subtype, parameters, h⟩
    obtain ⟨htext, htype, hsubtype, happlication, hjson, hparameters⟩ := h
    have houter : s.toList.span isTokenChar = (type, '/' :: (subtype ++ parameters)) :=
      span_eq_iff.mpr ⟨htext, htype.2, by simp; decide⟩
    have hinner : (subtype ++ parameters).span isTokenChar = (subtype, parameters) := by
      refine span_eq_iff.mpr ⟨rfl, hsubtype.2, ?_⟩
      rcases hparameters with rfl | ⟨rest, rfl, _⟩
      · simp
      · simp; decide
    have hread : ∃ ps, ofString? s =
        some ⟨lowerAscii (String.ofList type), lowerAscii (String.ofList subtype), ps⟩ := by
      obtain ⟨c, type, rfl⟩ := List.exists_cons_of_ne_nil htype.1
      obtain ⟨d, subtype, rfl⟩ := List.exists_cons_of_ne_nil hsubtype.1
      unfold ofString?
      rw [houter]
      simp only [hinner]
      rcases hparameters with rfl | ⟨rest, rfl, hrest⟩
      · exact ⟨_, rfl⟩
      · obtain ⟨ps, hps⟩ := Option.isSome_iff_exists.mp (isSome_parametersFrom? hrest [])
        simp only [hps]
        exact ⟨_, rfl⟩
    obtain ⟨ps, hread⟩ := hread
    exact ⟨_, hread, isJson_iff.mpr ⟨happlication, hjson⟩⟩

end MediaType
end ErrorBoundary
