import Mathlib.Data.List.TakeDrop
import Mathlib.Data.List.TakeWhile
import ErrorBoundary.Http.Uri

/-!
# ErrorBoundary.Proofs.Uri

What reading a target comes to.

* `isValid_of_ofString?` — a target that can be read is made of valid parts.
* `ofString?_dropQuery`  — the query string is the last part of a target, which without it is the
  same target without its query.
* `ofParts?_path`, `ofParts?_absolute` — a valid path goes through a second reading as it is.
-/

namespace ErrorBoundary
namespace Uri

/-! ## Valid targets -/

/-- Every part is one of its kind. It may be missing, and the path may be empty. -/
structure IsValid (u : Uri) : Prop where
  scheme : ∀ s, u.scheme = some s → s.toList.all isSchemeChar = true
  authority : ∀ a, u.authority = some a → isAuthority a.toList = true
  path : u.path.toList.all isPathChar = true

theorem AuthorityScan.run?_eq_none {cs : List Char} (h : '?' ∈ cs) (s : AuthorityScan) :
    s.run? cs = none := by
  induction cs generalizing s with
  | nil => cases h
  | cons c rest ih =>
    rw [run?]
    rcases List.mem_cons.mp h with rfl | h
    · have hstep : s.step? '?' = none := by simp [step?, isAuthorityChar]
      rw [hstep]
    · cases s.step? c with
      | none => rfl
      | some s' => exact ih h s'

theorem not_mem_of_isAuthority {cs : List Char} (h : isAuthority cs = true) : '?' ∉ cs := by
  intro hmem
  rw [isAuthority, AuthorityScan.run?_eq_none hmem] at h
  simp at h

theorem authorityOf?_eq_some_iff {s a : String} :
    authorityOf? s = some a ↔ s = a ∧ isAuthority a.toList = true := by
  unfold authorityOf?
  rw [Option.ite_none_right_eq_some]
  constructor
  · intro ⟨ha, h⟩
    cases h
    exact ⟨rfl, ha⟩
  · intro ⟨h, ha⟩
    cases h
    exact ⟨ha, rfl⟩

theorem not_mem_of_all {p : Char → Bool} {c : Char} (hc : p c = false) {cs : List Char}
    (h : cs.all p = true) : c ∉ cs := by
  intro hmem
  rw [List.all_eq_true.mp h c hmem] at hc
  cases hc

theorem IsValid.not_mem_text {u : Uri} (h : u.IsValid) (hq : u.query = none) :
    '?' ∉ u.text.toList := by
  obtain ⟨scheme, authority, path, query⟩ := u
  obtain rfl : query = none := hq
  have hpath : '?' ∉ path.toList := not_mem_of_all (by decide) h.path
  have hauthority : '?' ∉ (authority.getD "").toList := by
    cases authority with
    | none => decide
    | some a => exact not_mem_of_isAuthority (h.authority a rfl)
  cases scheme with
  | none => simpa [text] using ⟨hauthority, hpath⟩
  | some s =>
    have hscheme : '?' ∉ s.toList := not_mem_of_all (by decide) (h.scheme s rfl)
    simpa [text] using ⟨hscheme, hauthority, hpath⟩

/-! ## Cuts -/

/-- A query string as it stands behind the rest of a target, or none. -/
def IsQueryString (cs : List Char) : Prop := cs = [] ∨ ∃ rest, cs = '?' :: rest

/-- A cut that stops at a question mark does not look beyond it. -/
theorem span_append {p : Char → Bool} (hp : p '?' = false) {t : List Char} (ht : IsQueryString t)
    (cs : List Char) : (cs ++ t).span p = ((cs.span p).1, (cs.span p).2 ++ t) := by
  simp only [List.span_eq_takeWhile_dropWhile, Prod.mk.injEq]
  induction cs with
  | nil =>
    rcases ht with rfl | ⟨rest, rfl⟩
    · exact ⟨rfl, rfl⟩
    · simp [hp]
  | cons c rest ih =>
    cases hc : p c with
    | true => simpa [hc] using ih
    | false => simp [hc]

theorem cutAt_append {stops : List Char} (hstops : '?' ∈ stops) {t : List Char}
    (ht : IsQueryString t) (cs : List Char) :
    cutAt stops (cs ++ t) = ((cutAt stops cs).1, (cutAt stops cs).2 ++ t) :=
  span_append (by simp [hstops]) ht cs

theorem mem_of_mem_cutAt {stops cs : List Char} {c : Char} (h : c ∈ (cutAt stops cs).2) :
    c ∈ cs := by
  simp only [cutAt, List.span_eq_takeWhile_dropWhile] at h
  exact (List.dropWhile_sublist _).mem h

theorem cutAt_of_not_mem {stops cs : List Char} (h : ∀ c ∈ stops, c ∉ cs) :
    cutAt stops cs = (cs, []) := by
  have hall : ∀ c ∈ cs, (!stops.contains c) = true := by
    intro c hc
    simpa using fun hmem => h c hmem hc
  simp only [cutAt, List.span_eq_takeWhile_dropWhile, Prod.mk.injEq]
  exact ⟨List.takeWhile_eq_self_iff.mpr hall, List.dropWhile_eq_nil_iff.mpr hall⟩

/-! ## Paths and queries -/

/-- A path is what stands before the query and the fragment, of characters of paths. -/
theorem pathAndQuery?_path {cs : List Char} {path : String} {query : Option String}
    (h : pathAndQuery? cs = some (path, query)) :
    path = String.ofList (cutAt ['?', '#'] cs).1 ∧ path.toList.all isPathChar = true := by
  unfold pathAndQuery? at h
  split at h
  rename_i front rest hcut
  rw [hcut]
  split at h
  · cases h
  · rename_i hall
    have hall : (String.ofList front).toList.all isPathChar = true := by
      rw [String.toList_ofList]
      simpa using hall
    split at h
    · split at h
      split at h
      · cases h
        exact ⟨rfl, hall⟩
      · cases h
    · cases h
      exact ⟨rfl, hall⟩

theorem pathAndQuery?_of_not_mem {cs : List Char} (hcs : '?' ∉ cs)
    (hall : (cutAt ['?', '#'] cs).1.all isPathChar = true) :
    pathAndQuery? cs = some (String.ofList (cutAt ['?', '#'] cs).1, none) := by
  have hback : '?' ∉ (cutAt ['?', '#'] cs).2 := fun hmem => hcs (mem_of_mem_cutAt hmem)
  unfold pathAndQuery?
  split
  rename_i front back hcut
  rw [hcut] at hall hback ⊢
  rw [if_neg (by simp only [hall]; decide)]
  split
  · simp at hback
  · rfl

theorem pathAndQuery?_of_all {cs : List Char} (h : cs.all isPathChar = true) :
    pathAndQuery? cs = some (String.ofList cs, none) := by
  have hquery : '?' ∉ cs := not_mem_of_all (by decide) h
  have hhash : '#' ∉ cs := not_mem_of_all (by decide) h
  have hcut : cutAt ['?', '#'] cs = (cs, []) := cutAt_of_not_mem (by simp [hquery, hhash])
  rw [pathAndQuery?_of_not_mem hquery (by rwa [hcut]), hcut]

theorem pathAndQuery?_append {cs t : List Char} {path : String} {query : Option String}
    (hcs : '?' ∉ cs) (ht : IsQueryString t) (h : pathAndQuery? (cs ++ t) = some (path, query)) :
    pathAndQuery? cs = some (path, none) := by
  obtain ⟨rfl, hall⟩ := pathAndQuery?_path h
  rw [cutAt_append (by simp) ht] at hall ⊢
  exact pathAndQuery?_of_not_mem hcs (by rwa [String.toList_ofList] at hall)

theorem orRoot_of_ne {path : String} (h : path ≠ "") : orRoot path = path := by
  unfold orRoot
  rw [if_neg]
  intro hempty
  exact h (String.isEmpty_iff.mp hempty)

theorem orRoot_all {path : String} (h : path.toList.all isPathChar = true) :
    (orRoot path).toList.all isPathChar = true := by
  by_cases hpath : path = ""
  · rw [hpath]
    decide
  · rwa [orRoot_of_ne hpath]

/-! ## Schemes -/

theorem splitScheme?_eq_some_iff {cs scheme rest : List Char} :
    splitScheme? cs = some (scheme, rest) ↔
      cs.span isSchemeChar = (scheme, ':' :: '/' :: '/' :: rest) := by
  unfold splitScheme?
  constructor
  · intro h
    split at h
    · rename_i heq
      rw [heq]
      cases h
      rfl
    · cases h
  · intro h
    rw [h]
    rfl

theorem schemeName_all {cs scheme rest : List Char} (h : splitScheme? cs = some (scheme, rest)) :
    (schemeName scheme).toList.all isSchemeChar = true := by
  rw [splitScheme?_eq_some_iff, List.span_eq_takeWhile_dropWhile, Prod.mk.injEq] at h
  obtain ⟨rfl, _⟩ := h
  simp only [schemeName]
  split
  · rename_i hlower
    rcases hlower with hlower | hlower <;> rw [hlower] <;> decide
  · rw [String.toList_ofList]
    exact List.all_eq_true.mpr fun c hc => List.mem_takeWhile_imp hc

/-- What stands in front of a query string holds all of a text without question marks. -/
theorem exists_of_append_eq_append {cs t : List Char} (ht : IsQueryString t)
    (front rest : List Char) (hfront : '?' ∉ front) (h : cs ++ t = front ++ rest) :
    ∃ rest', cs = front ++ rest' ∧ rest = rest' ++ t := by
  rcases List.append_eq_append_iff.mp h with ⟨tail, rfl, rfl⟩ | ⟨rest', hcs, hrest⟩
  · cases tail with
    | nil => exact ⟨[], by simp, rfl⟩
    | cons c tail =>
      rcases ht with ht | ⟨query, ht⟩
      · cases ht
      · cases ht
        simp at hfront
  · exact ⟨rest', hcs, hrest⟩

theorem splitScheme?_append {cs t scheme rest : List Char} (ht : IsQueryString t)
    (h : splitScheme? (cs ++ t) = some (scheme, rest)) :
    ∃ rest', splitScheme? cs = some (scheme, rest') ∧ rest = rest' ++ t ∧ ∀ c ∈ rest', c ∈ cs := by
  rw [splitScheme?_eq_some_iff, span_append (by decide) ht, Prod.mk.injEq] at h
  obtain ⟨hscheme, hback⟩ := h
  obtain ⟨rest', hrest', hrest⟩ :=
    exists_of_append_eq_append ht "://".toList rest (by decide) hback
  -- the three characters behind the scheme stand in front of the query string
  refine ⟨rest', splitScheme?_eq_some_iff.mpr (Prod.ext hscheme hrest'), hrest, fun c hc => ?_⟩
  have hc : c ∈ (cs.span isSchemeChar).2 := by
    rw [hrest']
    exact List.mem_append_right _ hc
  rw [List.span_eq_takeWhile_dropWhile] at hc
  exact (List.dropWhile_sublist _).mem hc

/-! ## Reading -/

theorem absolute?_eq_some_iff {cs : List Char} {u : Uri} :
    absolute? cs = some u ↔
      (splitScheme? cs = none ∧ isAuthority cs = true ∧
        u = ⟨none, some (String.ofList cs), "", none⟩) ∨
      ∃ scheme rest path query, splitScheme? cs = some (scheme, rest) ∧
        scheme.length ≤ maxSchemeLength ∧
        isAuthority (cutAt ['/', '?', '#'] rest).1 = true ∧
        pathAndQuery? (cutAt ['/', '?', '#'] rest).2 = some (path, query) ∧
        u = ⟨some (schemeName scheme), some (String.ofList (cutAt ['/', '?', '#'] rest).1),
          orRoot path, query⟩ := by
  constructor
  · intro h
    unfold absolute? at h
    split at h
    · rename_i hscheme
      split at h
      · rename_i hauthority
        cases h
        exact .inl ⟨hscheme, hauthority, rfl⟩
      · cases h
    · rename_i scheme rest hscheme
      split at h
      · cases h
      · rename_i hlength
        simp only at h
        split at h
        · cases h
        · rename_i hauthority
          split at h
          · cases h
          · rename_i path query hpath
            cases h
            refine .inr ⟨scheme, rest, path, query, hscheme, by omega, ?_, hpath, rfl⟩
            simpa using hauthority
  · rintro (⟨hscheme, hauthority, rfl⟩ |
      ⟨scheme, rest, path, query, hscheme, hlength, hauthority, hpath, rfl⟩)
    · simp only [absolute?, hscheme, hauthority, if_true]
    · have hlength : ¬ maxSchemeLength < scheme.length := by omega
      simp [absolute?, hscheme, hlength, hauthority, hpath]

theorem ofString?_eq_some_iff {s : String} {u : Uri} :
    ofString? s = some u ↔ s.utf8ByteSize ≤ maxLength ∧
      ((s.toList = ['*'] ∧ u = ⟨none, none, "*", none⟩) ∨
        (∃ rest path query, s.toList = '/' :: rest ∧
          pathAndQuery? ('/' :: rest) = some (path, query) ∧ u = ⟨none, none, path, query⟩) ∨
        (s.toList ≠ ['*'] ∧ (∀ rest, s.toList ≠ '/' :: rest) ∧ absolute? s.toList = some u)) := by
  unfold ofString?
  by_cases hlength : maxLength < s.utf8ByteSize
  · rw [if_pos hlength]
    constructor
    · intro h
      cases h
    · intro ⟨hle, _⟩
      omega
  · rw [if_neg hlength]
    have hle : s.utf8ByteSize ≤ maxLength := by omega
    constructor
    · intro h
      refine ⟨hle, ?_⟩
      split at h
      · rename_i heq
        cases h
        exact .inl ⟨heq, rfl⟩
      · rename_i rest heq
        split at h
        · cases h
        · rename_i path query hpath
          cases h
          exact .inr (.inl ⟨rest, path, query, heq, hpath, rfl⟩)
      · rename_i hasterisk hslash
        exact .inr (.inr ⟨hasterisk, hslash, h⟩)
    · rintro ⟨_, ⟨heq, rfl⟩ | ⟨rest, path, query, heq, hpath, rfl⟩ | ⟨hasterisk, hslash, h⟩⟩
      · simp only [heq]
      · simp only [heq, hpath]
      · split
        · rename_i heq
          exact absurd heq hasterisk
        · rename_i rest heq
          exact absurd heq (hslash rest)
        · exact h

theorem isValid_of_absolute? {cs : List Char} {u : Uri} (h : absolute? cs = some u) :
    u.IsValid := by
  rcases absolute?_eq_some_iff.mp h with ⟨_, hauthority, rfl⟩ |
    ⟨scheme, rest, path, query, hscheme, _, hauthority, hpath, rfl⟩
  · refine ⟨nofun, ?_, rfl⟩
    intro a ha
    cases ha
    rwa [String.toList_ofList]
  · obtain ⟨_, hall⟩ := pathAndQuery?_path hpath
    refine ⟨?_, ?_, orRoot_all hall⟩
    · intro s hs
      cases hs
      exact schemeName_all hscheme
    · intro a ha
      cases ha
      rwa [String.toList_ofList]

theorem isValid_of_ofString? {s : String} {u : Uri} (h : ofString? s = some u) : u.IsValid := by
  obtain ⟨_, ⟨_, rfl⟩ | ⟨rest, path, query, _, hpath, rfl⟩ | ⟨_, _, h⟩⟩ :=
    ofString?_eq_some_iff.mp h
  · exact ⟨nofun, nofun, by decide⟩
  · obtain ⟨_, hall⟩ := pathAndQuery?_path hpath
    exact ⟨nofun, nofun, hall⟩
  · exact isValid_of_absolute? h

/-! ## Dropping the query -/

theorem absolute?_append {cs t : List Char} {u : Uri} (hcs : '?' ∉ cs) (ht : IsQueryString t)
    (h : absolute? (cs ++ t) = some u) : absolute? cs = some { u with query := none } := by
  rcases absolute?_eq_some_iff.mp h with ⟨hscheme, hauthority, rfl⟩ |
    ⟨scheme, rest, path, query, hscheme, hlength, hauthority, hpath, rfl⟩
  · -- an authority alone has no room for a query string
    obtain rfl : t = [] := by
      rcases ht with rfl | ⟨rest, rfl⟩
      · rfl
      · simpa using not_mem_of_isAuthority hauthority
    rw [List.append_nil] at h hscheme hauthority ⊢
    exact h
  · obtain ⟨rest', hscheme', rfl, hsub⟩ := splitScheme?_append ht hscheme
    rw [cutAt_append (by simp) ht] at hauthority hpath ⊢
    have hback : '?' ∉ (cutAt ['/', '?', '#'] rest').2 :=
      fun hmem => hcs (hsub _ (mem_of_mem_cutAt hmem))
    exact absolute?_eq_some_iff.mpr (.inr ⟨scheme, rest', path, none, hscheme', hlength,
      hauthority, pathAndQuery?_append hback ht hpath, rfl⟩)

theorem absolute?_asterisk {t : List Char} (ht : '?' ∈ t) : absolute? ('*' :: t) = none := by
  have hscheme : splitScheme? ('*' :: t) = none := rfl
  have hauthority : ¬ isAuthority ('*' :: t) = true := fun h =>
    not_mem_of_isAuthority h (List.mem_cons_of_mem _ ht)
  simp only [absolute?, hscheme, if_neg hauthority]

theorem ofString?_dropQuery {front query : String} {u : Uri} (hfront : '?' ∉ front.toList)
    (hquery : IsQueryString query.toList) (h : ofString? (front ++ query) = some u) :
    ofString? front = some { u with query := none } := by
  obtain ⟨hlength, h⟩ := ofString?_eq_some_iff.mp h
  rw [String.utf8ByteSize_append] at hlength
  rw [String.toList_append] at h
  refine ofString?_eq_some_iff.mpr ⟨by omega, ?_⟩
  rcases h with ⟨heq, rfl⟩ | ⟨rest, path, query', heq, hpath, rfl⟩ | ⟨hasterisk, hslash, h⟩
  · obtain ⟨rest, hrest, hnil⟩ := exists_of_append_eq_append hquery ['*'] [] (by decide) heq
    obtain ⟨rfl, _⟩ := List.append_eq_nil_iff.mp hnil.symm
    exact .inl ⟨hrest, rfl⟩
  · obtain ⟨rest', hrest', rfl⟩ := exists_of_append_eq_append hquery ['/'] rest (by decide) heq
    rw [hrest'] at hfront
    exact .inr (.inl ⟨rest', path, none, hrest', pathAndQuery?_append hfront hquery hpath, rfl⟩)
  · refine .inr (.inr ⟨?_, ?_, absolute?_append hfront hquery h⟩)
    · -- an asterisk is read only where nothing follows it
      intro heq
      rw [heq] at h hasterisk
      rcases hquery with hquery | ⟨rest, hquery⟩
      · exact hasterisk (by rw [hquery]; rfl)
      · rw [hquery, List.singleton_append, absolute?_asterisk List.mem_cons_self] at h
        cases h
    · intro rest heq
      exact hslash (rest ++ query.toList) (by rw [heq]; rfl)

/-! ## Putting together -/

theorem ofParts?_path {path : String} (h : path.toList.all isPathChar = true) :
    ofParts? none none path = some ⟨none, none, path, none⟩ := by
  simp only [ofParts?, pathAndQuery?_of_all h, String.ofList_toList]

theorem ofParts?_absolute {path : String} (h : path.toList.all isPathChar = true)
    (scheme authority : String) :
    ofParts? (some scheme) (some authority) path =
      some ⟨some scheme, some authority, orRoot path, none⟩ := by
  simp only [ofParts?, pathAndQuery?_of_all h, String.ofList_toList]

end Uri
end ErrorBoundary
