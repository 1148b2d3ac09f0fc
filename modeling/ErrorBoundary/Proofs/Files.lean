import ErrorBoundary.Config.Load
import ErrorBoundary.Proofs.Toml.Document
import ErrorBoundary.Proofs.Variables

/-!
# ErrorBoundary.Proofs.Files

Settings in files. What a file writes for a setting is the value that its document gives at the path
of the setting (`ConfigFile.writtenIn?_iff`), below whatever headers and points it stands.

* `Tree.lastAt_ofToml`   — the value at a path, when it is laid over what was there.
* `Toml.IsScalar`        — a value of a document as it is in settings.
* `ConfigFile.IsWritten` — a file that is a document of headers and lines.
-/

namespace ErrorBoundary

open ErrorBoundary.Tree (Entry OnlyTables lastAt)

/-! ## Values as parts -/

namespace Tree

variable {p : List String} {key : String} {v : Toml} {x? : Option Toml} {origin : Origin}

theorem lastAt_ofTomlMembers {members : List (String × Toml)}
    (hnodup : (members.map Prod.fst).Nodup) :
    lastAt (key :: p) (memberParts (ofTomlMembers origin members)) =
      (Members.find? key members).bind fun v => lastAt p (ofToml origin v).parts := by
  induction members with
  | nil => rfl
  | cons m rest ih =>
    obtain ⟨name, v⟩ := m
    rw [List.map_cons, List.nodup_cons] at hnodup
    rw [ofTomlMembers, memberParts, lastAt_append, ih hnodup.2, Members.find?]
    by_cases hname : name = key
    · -- the key does not stand again in the rest
      subst hname
      rw [Members.find?_eq_none hnodup.1, if_pos rfl, lastAt_below_self]
      rfl
    · rw [if_neg hname, lastAt_below_of_ne (by simpa using hname), Option.or_none]

theorem lastAt_ofToml (h : v.Holds p x?) :
    lastAt p (ofToml origin v).parts = x?.map (ofToml origin) := by
  induction p generalizing v with
  | nil =>
    cases v with
    | table members =>
      obtain rfl : x? = none := h
      rw [ofToml, parts, lastAt_nil_memberParts]
      rfl
    | array items =>
      obtain rfl : x? = some _ := h
      rfl
    | _ =>
      obtain rfl : x? = some _ := h
      rfl
  | cons key p ih =>
    cases v with
    | table members =>
      obtain ⟨hnodup, h⟩ := h
      rw [ofToml, parts, lastAt_ofTomlMembers hnodup]
      cases hfind : Members.find? key members with
      | none =>
        rw [hfind] at h
        obtain rfl : x? = none := h
        rfl
      | some v =>
        rw [hfind] at h
        exact ih h
    | array items =>
      obtain rfl : x? = none := h
      rfl
    | _ =>
      obtain rfl : x? = none := h
      rfl

theorem mem_ofTomlMembers {members : List (String × Toml)} {m : String × Tree}
    (h : m ∈ ofTomlMembers origin members) :
    ∃ v, (m.1, v) ∈ members ∧ m.2 = ofToml origin v := by
  induction members with
  | nil => cases h
  | cons m' rest ih =>
    obtain ⟨name, v⟩ := m'
    rcases List.mem_cons.mp h with rfl | h
    · exact ⟨v, List.mem_cons_self, rfl⟩
    · obtain ⟨v', hmem, hv⟩ := ih h
      exact ⟨v', List.mem_cons_of_mem _ hmem, hv⟩

/-- On the way to a value there are tables only. -/
theorem onlyTables_ofToml {x : Toml} (h : v.Holds p (some x)) :
    OnlyTables p [] (ofToml origin v) := by
  induction p generalizing v with
  | nil => cases ofToml origin v <;> trivial
  | cons key p ih =>
    cases v with
    | table members =>
      obtain ⟨hnodup, h⟩ := h
      rintro m hm rfl
      obtain ⟨v, hmem, hv⟩ := mem_ofTomlMembers hm
      rw [Members.find?_of_mem hnodup hmem] at h
      rw [hv]
      exact ih h
    | _ => cases h

end Tree

/-! ## Values without parts -/

namespace Toml

inductive IsScalar : Toml → Scalar → Prop where
  | string (s : String) : IsScalar (.string s) (.text s)
  | integer (n : Int) : IsScalar (.integer n) (.integer n)
  | real (x : Binary64) : IsScalar (.real x) (.real x)
  | bool (b : Bool) : IsScalar (.bool b) (.bool b)

theorem IsScalar.ofToml_eq {x : Toml} {v : Scalar} (h : x.IsScalar v) (origin : Origin) :
    Tree.ofToml origin x = .scalar v (some origin) := by
  cases h <;> rfl

/-- The values in a piece, without their paths. -/
def Piece.Has : Piece → Toml → Prop
  | .value w, x => ∃ p, w.Gives p x
  | .member m, x => ∃ p, m.2.2.Gives p x
  | .members ms, x => ∃ m ∈ ms, ∃ p, m.2.2.Gives p x

theorem IsText.exists_isScalar {piece : Piece} {cs : List Char} (h : IsText piece cs) {x : Toml}
    (hx : piece.Has x) : ∃ v, x.IsScalar v := by
  have hscalar : ∀ {y : Toml} {v : Scalar}, y.IsScalar v → (∃ p, (Written.scalar y).Gives p x) →
      ∃ v, x.IsScalar v := by
    rintro y v hv ⟨p, hx⟩
    obtain ⟨-, rfl⟩ := Written.gives_scalar_iff.mp hx
    exact ⟨v, hv⟩
  induction h with
  | integer _ => exact hscalar (.integer _) hx
  | bool b => exact hscalar (.bool b) hx
  | basic _ => exact hscalar (.string _) hx
  | literal _ => exact hscalar (.string _) hx
  | table _ ih =>
    obtain ⟨p, hx⟩ := hx
    obtain ⟨m, hm, q, _, hx⟩ := Written.gives_table_iff.mp hx
    exact ih ⟨m, hm, q, hx⟩
  | member _ _ _ ih => exact ih hx
  | empty _ =>
    obtain ⟨m, hm, _⟩ := hx
    cases hm
  | last _ _ _ ih =>
    obtain ⟨m, hm, hx⟩ := hx
    rw [List.mem_singleton] at hm
    exact ih (hm ▸ hx)
  | more _ _ _ _ ih ihmore =>
    obtain ⟨m, hm, hx⟩ := hx
    rcases List.mem_cons.mp hm with rfl | hm
    · exact ih hx
    · exact ihmore ⟨m, hm, hx⟩

theorem IsDocument.exists_isScalar {d : List Statement} {cs : List Char} (h : IsDocument d cs)
    {header p : List String} {x : Toml} (hx : Gives header d p x) : ∃ v, x.IsScalar v := by
  induction h generalizing header with
  | nil => exact hx.elim
  | comment _ => exact hx.elim
  | gap _ _ ih => exact ih hx
  | header _ _ _ _ ih => exact ih hx
  | pair _ _ htext _ _ ih =>
    rcases hx with ⟨q, _, hx⟩ | hx
    · exact htext.exists_isScalar ⟨q, hx⟩
    · exact ih hx

end Toml

/-! ## Files -/

namespace ConfigFile

/-- A file of headers and lines, with blank lines and comments between them. -/
structure IsWritten (f : ConfigFile) (d : List Toml.Statement) : Prop where
  format : f.format = .toml
  document : Toml.IsDocument d f.text.toList

variable {f : ConfigFile} {d : List Toml.Statement} {entries : List Entry} {p : List String}

theorem entries?_of_fileEntries {files : Directory} {name : String}
    (h : Config.fileEntries files name = .ok entries) (hf : locate? files name = some f) :
    f.entries? = some entries := by
  unfold Config.fileEntries at h
  rw [hf] at h
  simp only at h
  split at h
  · cases h
  · rename_i entries' hentries
    cases h
    exact hentries

/-- No mark opens the text of such a file. -/
theorem IsWritten.contents_eq (hd : f.IsWritten d) : f.contents = f.text := by
  have hmark := hd.document.head?_ne
  unfold contents
  split
  · rename_i heq
    rw [heq] at hmark
    exact absurd rfl hmark
  · rfl

theorem IsWritten.entries?_eq (hd : f.IsWritten d) :
    f.entries? = (Toml.ofText? f.text).map fun members =>
      (Tree.ofTomlMembers f.origin members).map fun m => ⟨Step.ofText m.1, m.2⟩ := by
  rw [entries?, hd.contents_eq, hd.format, FileFormat.members?, Option.map_map]
  rfl

/-- The entries of names, one for each member, are the parts of the whole table. -/
theorem flatMap_parts_eq {members : Members Tree}
    (hnames : ∀ key ∈ members.map Prod.fst, Toml.IsName key.toList) :
    (members.map fun m => (⟨Step.ofText m.1, m.2⟩ : Entry)).flatMap Entry.parts =
      Tree.memberParts members := by
  induction members with
  | nil => rfl
  | cons m rest ih =>
    obtain ⟨name, t⟩ := m
    rw [List.map_cons, List.forall_mem_cons] at hnames
    rw [List.map_cons, List.flatMap_cons, ih hnames.2, Step.ofText_name hnames.1,
      Tree.parts_cons, Tree.parts_nil]
    rfl

theorem keys_ofTomlMembers (origin : Origin) (members : List (String × Toml)) :
    (Tree.ofTomlMembers origin members).map Prod.fst = members.map Prod.fst := by
  induction members with
  | nil => rfl
  | cons m rest ih =>
    obtain ⟨name, v⟩ := m
    rw [Tree.ofTomlMembers, List.map_cons, List.map_cons, ih]

/-- What a file that can be read says at a path. -/
theorem IsWritten.lastAt_eq (hd : f.IsWritten d) (h : f.entries? = some entries) (key : String)
    (p : List String) : ∃ x?, lastAt (key :: p) (entries.flatMap Entry.parts) =
        Option.map (Tree.ofToml f.origin) x? ∧
      (∀ x, x? = some x ↔ Toml.Gives [] d (key :: p) x) ∧
      (x?.isSome → ∀ e ∈ entries, OnlyTables (key :: p) e.path e.tree) := by
  rw [hd.entries?_eq] at h
  obtain ⟨members, hmembers, rfl⟩ := Option.map_eq_some_iff.mp h
  obtain ⟨htells, hnames⟩ := Toml.tells_ofText? hd.document hmembers
  obtain ⟨x?, hholds, hx⟩ := htells (key :: p)
  rw [← keys_ofTomlMembers f.origin] at hnames
  refine ⟨x?, ?_, hx, fun hsome e he => ?_⟩
  · rw [flatMap_parts_eq hnames]
    exact Tree.lastAt_ofToml hholds
  · obtain ⟨x, rfl⟩ := Option.isSome_iff_exists.mp hsome
    obtain ⟨m, hm, rfl⟩ := List.mem_map.mp he
    have honly := @Tree.onlyTables_ofToml _ _ f.origin _ hholds
    rw [Step.ofText_name (hnames m.1 (List.mem_map_of_mem hm))]
    exact fun hkey => honly m hm hkey

theorem path_eq_cons (k : SettingKey) : ∃ key p, k.path = key :: p := by
  cases k <;> exact ⟨_, _, rfl⟩

/-- What a file writes for a setting is what its document gives at the path of the setting. -/
theorem writtenIn?_iff (hd : f.IsWritten d) (h : f.entries? = some entries) (k : SettingKey)
    (t : Tree) : k.writtenIn? entries = some t ↔
      ∃ x v, Toml.Gives [] d k.path x ∧ x.IsScalar v ∧ t = .scalar v (some f.origin) := by
  obtain ⟨key, p, hpath⟩ := path_eq_cons k
  obtain ⟨x?, hlast, hx, _⟩ := hd.lastAt_eq h key p
  rw [SettingKey.writtenIn?, hpath, hlast, Option.map_eq_some_iff]
  constructor
  · rintro ⟨x, hsome, rfl⟩
    have hgives := (hx x).mp hsome
    obtain ⟨v, hv⟩ := hd.document.exists_isScalar hgives
    exact ⟨x, v, hgives, hv, hv.ofToml_eq f.origin⟩
  · rintro ⟨x, v, hgives, hv, rfl⟩
    exact ⟨x, (hx x).mpr hgives, hv.ofToml_eq f.origin⟩

end ConfigFile
end ErrorBoundary
