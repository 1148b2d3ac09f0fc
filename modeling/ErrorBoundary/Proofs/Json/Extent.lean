import ErrorBoundary.Proofs.Json.RoundTrip
import ErrorBoundary.Proofs.Utf8

/-!
# ErrorBoundary.Proofs.Json.Extent

Where a JSON text ends. Blanks around a value count for nothing (`Document.ofText_between_blanks`).
An array or an object says itself where it ends: with anything but blanks behind it the text is no
longer that of a value, and so neither is a text that is cut short
(`Document.isWhole_append_iff`).

* `Draft.IsClosed`    — an array or an object that is closed.
* `Document.IsWhole`  — such a value, and nothing but blanks behind it.
* `Reading.IsHonest`  — a reader that gave up says so in what it yields.
-/

namespace ErrorBoundary

/-- An array or an object up to its closing bracket. -/
inductive Draft.IsClosed : Draft → Prop where
  | array (items : List Draft) : IsClosed (.array items none)
  | object (members : List (Except Fault String × Draft)) : IsClosed (.object members none)

structure Document.IsWhole (d : Document) : Prop where
  root : d.root.IsClosed
  alone : d.trailing = none

theorem Draft.IsClosed.stop?_eq {d : Draft} (h : d.IsClosed) : d.stop? = none := by
  cases h with
  | array items => rfl
  | object members => rfl

namespace Reading

/-! ## Texts in two parts -/

/-- Where the reader is after some symbols. -/
def after (r : Reading) (p : Place) : List (Option Char) → Reading × Place
  | [] => (r, p)
  | symbol :: rest => after (r.step p symbol) (p.after symbol) rest

theorem run_append (r : Reading) (p : Place) (front back : List (Option Char)) :
    r.run p (front ++ back) = (r.after p front).1.run (r.after p front).2 back := by
  induction front generalizing r p with
  | nil => rfl
  | cons symbol front ih => exact ih _ _

/-! ## Readers that gave up -/

/-- What a reader yields that gave up has something wrong in it. -/
def IsHonest : Reading → Prop
  | .closed d => d.trailing ≠ none ∨ d.root.stop? ≠ none
  | _ => True

theorem stop?_wrap {stop : Break} {d : Draft} (h : d.stop? ≠ none) (stack : List Frame) :
    (wrap stop d stack).stop? ≠ none := by
  induction stack generalizing d with
  | nil => exact h
  | cons frame stack ih =>
    cases frame with
    | items done => exact ih (by simp [Draft.stop?])
    | member done key => exact ih (by simp [Draft.stop?])

theorem stop?_cut (phase : Phase) (f : Fault) : (cut phase f).1.stop? ≠ none := by
  cases phase <;> simp [cut, Draft.stop?]

theorem isHonest_stopAt (phase : Phase) (stack : List Frame) (f : Fault) :
    (stopAt phase stack f).IsHonest := .inr (stop?_wrap (stop?_cut phase f) stack)

theorem isHonest_complete (d : Draft) (stack : List Frame) : (complete d stack).IsHonest := by
  cases stack with
  | nil => trivial
  | cons frame stack => cases frame <;> trivial

theorem isHonest_beginValue (next : Place) (symbol : Option Char) (stack : List Frame) :
    (beginValue next symbol stack).IsHonest := by
  unfold beginValue
  split
  · trivial
  · exact isHonest_stopAt _ _ _

theorem isHonest_between (phase : Phase) (stack : List Frame) (next : Place)
    (symbol : Option Char) : (between phase stack next symbol).IsHonest := by
  unfold between
  split <;> first
    | exact isHonest_beginValue _ _ _
    | exact isHonest_complete _ _
    | exact isHonest_stopAt _ _ _
    | trivial

theorem isHonest_stepBetween {r : Reading} (h : r.IsHonest) (next : Place)
    (symbol : Option Char) : (r.stepBetween next symbol).IsHonest := by
  unfold stepBetween
  split
  · split
    · trivial
    · exact isHonest_between _ _ _ _
  · split
    · trivial
    · exact .inl (by simp)
  · exact h

theorem isHonest_step {r : Reading} (h : r.IsHonest) (p : Place) (symbol : Option Char) :
    (r.step p symbol).IsHonest := by
  unfold step
  dsimp only
  split
  · split
    · split
      · exact isHonest_complete _ _
      · trivial
    · exact isHonest_stopAt _ _ _
  · split
    · trivial
    · exact isHonest_complete _ _
    · exact isHonest_stopAt _ _ _
  · split
    · trivial
    · trivial
    · exact isHonest_stopAt _ _ _
  · split
    · trivial
    · exact isHonest_stepBetween (isHonest_complete _ _) _ _
    · exact isHonest_stopAt _ _ _
  · exact isHonest_stepBetween h _ _

theorem isHonest_after {r : Reading} (h : r.IsHonest) (p : Place) (symbols : List (Option Char)) :
    (r.after p symbols).1.IsHonest := by
  induction symbols generalizing r p with
  | nil => exact h
  | cons symbol symbols ih => exact ih (isHonest_step h p symbol) _

/-! ## The end of a whole value -/

theorem stop?_document_within (phase : Phase) (stack : List Frame) (p : Place) :
    ((Reading.within phase stack).document p).root.stop? ≠ none :=
  stop?_wrap (stop?_cut phase _) stack

/-- Only a reader that has the whole value behind it ends with one that is closed. -/
theorem eq_ended_of_finish {r : Reading} (hr : r.IsHonest) {p : Place}
    (h : (r.finish p).IsWhole) : ∃ root, r = .ended root := by
  have hstop := h.root.stop?_eq
  have halone := h.alone
  have hclosed := h.root
  unfold finish at hstop halone hclosed
  split at hstop
  · rename_i phase n stack
    split at hstop
    · rename_i hcomplete
      simp only [hcomplete, if_true] at hclosed
      cases stack with
      | nil => cases hclosed
      | cons frame stack =>
        cases frame with
        | items done => exact absurd hstop (stop?_document_within _ _ _)
        | member done key => exact absurd hstop (stop?_document_within _ _ _)
    · exact absurd hstop (stop?_document_within _ _ _)
  · cases r with
    | within phase stack => exact absurd hstop (stop?_document_within _ _ _)
    | ended root => exact ⟨root, rfl⟩
    | closed d =>
      rcases hr with htrailing | hbroken
      · exact absurd halone htrailing
      · exact absurd hstop hbroken

theorem run_closed (d : Document) (p : Place) (symbols : List (Option Char)) :
    (Reading.closed d).run p symbols = d := by
  induction symbols generalizing p with
  | nil => rfl
  | cons symbol symbols ih => exact ih _

/-- Behind a whole value blanks are passed over, and anything else is too much. -/
theorem run_ended (root : Draft) (p : Place) (cs : List Char) :
    ((Reading.ended root).run p (cs.map some)).root = root ∧
      (((Reading.ended root).run p (cs.map some)).trailing = none ↔
        ∀ c ∈ cs, isBlank c = true) := by
  induction cs generalizing p with
  | nil => exact ⟨rfl, by simp [run, finish, document]⟩
  | cons c cs ih =>
    have hstep : (Reading.ended root).step p (some c) =
        if isBlank c then .ended root else .closed ⟨root, some (p.next (some c))⟩ := rfl
    simp only [List.map_cons, run, hstep, List.mem_cons, forall_eq_or_imp]
    cases hblank : isBlank c with
    | true =>
      rw [if_pos rfl]
      obtain ⟨hroot, htrailing⟩ := ih (p.after (some c))
      exact ⟨hroot, by rw [htrailing]; simp⟩
    | false =>
      rw [if_neg (by simp), run_closed]
      exact ⟨rfl, by simp⟩

theorem run_ended_of_blank {root : Draft} {cs : List Char} (h : ∀ c ∈ cs, isBlank c = true)
    (p : Place) : (Reading.ended root).run p (cs.map some) = ⟨root, none⟩ := by
  obtain ⟨hroot, htrailing⟩ := run_ended root p cs
  cases hd : (Reading.ended root).run p (cs.map some) with
  | mk root' trailing =>
    rw [hd] at hroot htrailing
    rw [← hroot, ← htrailing.mpr h]

/-! ## Blanks -/

theorem reads_blanks {cs : List Char} (h : ∀ c ∈ cs, isBlank c = true)
    (stack : List Frame) : Reads (.within .value stack) cs (.within .value stack) := by
  induction cs with
  | nil => exact .refl
  | cons c cs ih =>
    refine .cons (fun p => ?_) (ih fun c hc => h c (List.mem_cons_of_mem _ hc))
    simp [step, stepBetween, h c List.mem_cons_self]

theorem Holds.run_blanks {d : Draft} {r : Reading} (hr : Holds d [] r) {cs : List Char}
    (h : ∀ c ∈ cs, isBlank c = true) (p : Place) : r.run p (cs.map some) = ⟨d, none⟩ := by
  cases cs with
  | nil => exact hr.finish_eq p
  | cons c cs =>
    have hc : isBlank c = true := h c List.mem_cons_self
    have hstep : (Reading.complete d []).step p (some c) = .ended d := if_pos hc
    rw [List.map_cons, run, hr.step_eq (.inr (.inr (.inr hc))), hstep]
    exact run_ended_of_blank (fun c hc => h c (List.mem_cons_of_mem _ hc)) _

theorem Reads.after_eq {r r' : Reading} {cs : List Char} (h : Reads r cs r') (p : Place) :
    (r.after p (cs.map some)).1 = r' := by
  induction h generalizing p with
  | refl => rfl
  | cons hstep _ ih =>
    rw [List.map_cons, after, hstep]
    exact ih _

end Reading

namespace Document

/-- The bytes of a text are read like the text. -/
theorem ofBytes_encode (s : String) : ofBytes (Utf8.encode s) = ofText s := by
  rw [ofBytes, Utf8.scan_encode, ofText]

/-- The compact text of a value between blanks is read as that value. -/
theorem ofText_between_blanks {v : Json} (hv : v.IsExact) {before behind : String}
    (hbefore : ∀ c ∈ before.toList, Reading.isBlank c = true)
    (hbehind : ∀ c ∈ behind.toList, Reading.isBlank c = true) :
    ofText (before ++ v.compact ++ behind) = .ofJson v := by
  obtain ⟨r, hr, hd⟩ := Reading.reads_chars v hv []
  have hfront := (Reading.reads_blanks hbefore []).trans hr
  rw [ofText, ofSymbols, String.toList_append, String.toList_append, Json.compact,
    String.toList_ofList, List.map_append, Reading.run_append, hfront.after_eq,
    hd.run_blanks hbehind, ofJson]

/-- A text of a closed value goes on to be one exactly with blanks. So the text of such a value is
none any more when it is cut short before its last bracket, or followed by anything. -/
theorem isWhole_append_iff {s t : String} (h : (ofText s).IsWhole) :
    (ofText (s ++ t)).IsWhole ↔ ∀ c ∈ t.toList, Reading.isBlank c = true := by
  -- the first text leaves the reader with the whole value behind it
  obtain ⟨p, root, hafter, hs⟩ : ∃ p root,
      (Reading.within .value []).after .start (s.toList.map some) = (.ended root, p) ∧
        ofText s = ⟨root, none⟩ := by
    have hfinish : ofText s = _ :=
      (congrArg _ (List.append_nil _).symm).trans (Reading.run_append _ .start _ [])
    have hhonest := Reading.isHonest_after (r := .within .value []) trivial .start
      (s.toList.map some)
    cases hafter : (Reading.within .value []).after .start (s.toList.map some) with
    | mk r p =>
      rw [hafter] at hhonest hfinish
      rw [hfinish] at h
      obtain ⟨root, rfl⟩ := Reading.eq_ended_of_finish hhonest h
      exact ⟨p, root, rfl, hfinish⟩
  rw [hs] at h
  obtain ⟨hroot, htrailing⟩ := Reading.run_ended root p t.toList
  have hst : ofText (s ++ t) = (Reading.ended root).run p (t.toList.map some) := by
    rw [ofText, ofSymbols, String.toList_append, List.map_append, Reading.run_append, hafter]
  rw [hst]
  constructor
  · intro hwhole
    exact htrailing.mp hwhole.alone
  · intro hblank
    exact ⟨by rw [hroot]; exact h.root, htrailing.mpr hblank⟩

end Document
end ErrorBoundary
