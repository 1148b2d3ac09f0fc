import ErrorBoundary.Proofs.Path
import ErrorBoundary.Proofs.Toml.Document

/-!
# ErrorBoundary.Proofs.Toml.Line

Documents that write one value, under a key with points (`Toml.ofText?_line`) or below a header
(`Toml.ofText?_section`). Both hold the value at its path and nothing else. If the value cannot be
read, such as a whole number that needs more than 64 bits, they cannot be read either.
-/

namespace ErrorBoundary

/-! ## Tables with one member -/

namespace Toml

/-- A value below the tables of a path. -/
def nested (path : List String) (key : String) (v : Toml) : Members Toml :=
  path.foldr (fun name inner => [(name, .table inner)]) [(key, v)]

end Toml

namespace TomlNode

/-- Members below the tables of a path, all of them made in one way. -/
def chain (origin : TableOrigin) (path : List String) (members : Members TomlNode) :
    Members TomlNode :=
  path.foldr (fun name inner => [(name, .table origin inner)]) members

theorem assign_nil (path : List String) (key : String) (v : Toml) :
    assign path key v [] = some (chain .dotted path [(key, .value v)]) := by
  unfold assign
  induction path with
  | nil => rfl
  | cons name path ih =>
    rw [within]
    simp only [Members.find?, ih, Option.map_some]
    rfl

theorem openTable_nil (path : List String) (key : String) :
    openTable path key [] = some (chain .implied path [(key, .table .header [])]) := by
  unfold openTable
  induction path with
  | nil => rfl
  | cons name path ih =>
    rw [within]
    simp only [Members.find?, ih, Option.map_some]
    rfl

theorem within_chain (change : Members TomlNode → Option (Members TomlNode)) (path : List String)
    (key : String) : within false change (path ++ [key])
        (chain .implied path [(key, .table .header [])]) =
      (change []).map fun inner => chain .implied path [(key, .table .header inner)] := by
  induction path with
  | nil =>
    rw [List.nil_append, within]
    simp [chain, Members.find?, Members.put, within]
  | cons name path ih =>
    have hchain : ∀ members, chain .implied (name :: path) members =
        [(name, .table .implied (chain .implied path members))] := fun _ => rfl
    rw [List.cons_append, within, hchain]
    simp only [Members.find?, if_true, Bool.false_eq_true, false_and, if_false, ih, Option.map_map]
    congr 1
    funext inner
    simp [hchain, Members.put]

theorem sealMembers_chain (origin : TableOrigin) (path : List String) (key : String)
    (node : TomlNode) :
    sealMembers (chain origin path [(key, node)]) = Toml.nested path key node.toToml := by
  induction path with
  | nil => rfl
  | cons name path ih =>
    show [(name, Toml.table (sealMembers (chain origin path [(key, node)])))] = _
    rw [ih]
    rfl

end TomlNode

namespace TomlSheet

open Toml (IsName IsPath maxDepth)

/-- The sheet below one header, with what stands in its table. -/
def below (path : List String) (table : String) (members : Members TomlNode) : TomlSheet :=
  ⟨TomlNode.chain .implied path [(table, .table .header members)], path ++ [table]⟩

theorem assign_below (path : List String) (table key : String) (v : Toml) :
    (below path table []).assign [] key v = some (below path table [(key, .value v)]) := by
  rw [assign, below, TomlNode.within_chain, TomlNode.assign_nil]
  rfl

theorem assign_blank (path : List String) (key : String) (v : Toml) :
    assign ⟨[], []⟩ path key v = some ⟨TomlNode.chain .dotted path [(key, .value v)], []⟩ := by
  rw [assign, TomlNode.within, TomlNode.assign_nil]
  rfl

theorem readLine?_blank {fuel : Nat} {path : List String} {table : String} {keys rest : List Char}
    (hkeys : IsPath keys path table) (hlength : path.length < maxDepth) :
    readLine? fuel ⟨[], []⟩ ('[' :: (keys ++ ']' :: '\n' :: rest)) =
      some (below path table [], rest) := by
  have hheader := @readLine?_header ⟨[], []⟩ path table fuel _ rest [] keys nofun hkeys
    (.line rest (.inl rfl))
  rw [if_pos hlength, openTable, TomlNode.openTable_nil] at hheader
  exact hheader

end TomlSheet

/-! ## The documents -/

namespace Toml

variable {path : List String} {table key : String} {value text : String} {v : Toml}
  {v? : Option Toml}

/-- The text of a value without parts, which is read as `v?` wherever it stands. -/
structure IsValue (text : String) (v : Toml) (v? : Option Toml) : Prop where
  isText : IsText (.value (.scalar v)) text.toList
  readValue?_eq : ∀ fuel rest, Stops rest →
    readValue? (fuel + 1) 0 (text.toList ++ rest) = v?.map fun v => (v, rest)

theorem isValue_integer (n : Int) : IsValue (toString n) (.integer n) (integer? n) :=
  ⟨.integer (isInteger_toString n), fun _ _ => readValue?_integer (isInteger_toString n)⟩

/-- A text of plain characters, between double quotes. -/
theorem isValue_string {s : String}
    (hs : ∀ c ∈ s.toList, isPlain c = true ∧ c ≠ '"' ∧ c ≠ '\\')
    (htext : value.toList = '"' :: (s.toList ++ ['"'])) :
    IsValue value (.string s) (some (.string s)) := by
  have hquoted : ∀ cs, (∀ c ∈ cs, isPlain c = true ∧ c ≠ '"' ∧ c ≠ '\\') → IsQuoted cs cs := by
    intro cs hcs
    induction cs with
    | nil => exact .nil
    | cons c cs ih =>
      rw [List.forall_mem_cons] at hcs
      obtain ⟨hplain, hquote, hslash⟩ := hcs.1
      exact .plain hplain hquote hslash (ih hcs.2)
  constructor
  · have hbasic := IsText.basic (hquoted _ hs)
    rwa [String.ofList_toList, ← htext] at hbasic
  · intro fuel rest hrest
    rw [htext, List.cons_append, List.append_assoc, List.singleton_append, readValue?,
      if_pos (.inl rfl), readQuoted?_basic (hquoted _ hs) hrest, String.ofList_toList]
    rfl

theorem isBlanks_nil : IsBlanks [] := nofun

theorem isBlanks_space : IsBlanks [' '] := by
  intro c hc
  rw [List.mem_singleton.mp hc]
  rfl

theorem isPath_dotted {blanks : List Char} (hpath : ∀ name ∈ path, IsName name.toList)
    (hkey : IsName key.toList) (hblanks : IsBlanks blanks) :
    IsPath (Step.dotted (path ++ [key]) ++ blanks) path key := by
  induction path with
  | nil =>
    have hlast := IsPath.last hkey hblanks
    rwa [String.ofList_toList] at hlast
  | cons name path ih =>
    have hstep := IsPath.step (hpath name List.mem_cons_self) isBlanks_nil isBlanks_nil
      (ih fun s hs => hpath s (List.mem_cons_of_mem name hs))
    rw [String.ofList_toList] at hstep
    have hdotted : Step.dotted (name :: path ++ [key]) =
        name.toList ++ '.' :: Step.dotted (path ++ [key]) := by
      cases path <;> rfl
    rw [hdotted, List.append_assoc, List.cons_append]
    exact hstep

/-- The line of a value at the end of a document. -/
theorem readLines?_value {s : TomlSheet} {fuel : Nat} {tail : List Char}
    (hpath : ∀ name ∈ path, IsName name.toList) (hkey : IsName key.toList)
    (hvalue : IsValue value v v?) (hlength : path.length < maxDepth) (hend : EndsLine tail []) :
    TomlSheet.readLines? (fuel + 2) s
        (Step.dotted (path ++ [key]) ++ " = ".toList ++ value.toList ++ tail) =
      v?.bind fun v => s.assign path key v := by
  have hdotted := isPath_dotted hpath hkey isBlanks_space
  have htext : Step.dotted (path ++ [key]) ++ " = ".toList ++ value.toList ++ tail =
      (Step.dotted (path ++ [key]) ++ [' ']) ++ '=' :: ([' '] ++ (value.toList ++ tail)) := by
    simp
  obtain ⟨c, keys, hkeys, hc⟩ := hdotted.eq_cons
  rw [htext, TomlSheet.readLines?_line (not_isPassed_of_isKeyChar hc) (by rw [hkeys]; rfl),
    TomlSheet.readLine?_pair hdotted isBlanks_space hvalue.isText, if_pos hlength,
    hvalue.readValue?_eq _ _ hend.stops]
  cases v? with
  | none => rfl
  | some v =>
    simp only [Option.map_some, hend.endLine?_eq, Option.bind_some]
    cases s.assign path key v <;> rfl

section

variable (hpath : ∀ name ∈ path, IsName name.toList) (hkey : IsName key.toList)
  (hvalue : IsValue value v v?)
  (htext : text.toList = Step.dotted (path ++ [key]) ++ " = ".toList ++ value.toList)

include hpath hkey hvalue htext

theorem isDocument_line : IsDocument [.pair path key (.scalar v)] text.toList := by
  have hpair := IsDocument.pair (isPath_dotted hpath hkey isBlanks_space) isBlanks_space
    hvalue.isText .document .nil
  have heq : text.toList =
      (Step.dotted (path ++ [key]) ++ [' ']) ++ '=' :: ([' '] ++ (value.toList ++ [])) := by
    simp [htext]
  rwa [← heq] at hpair

/-- A document of one line, under a key with points. -/
theorem ofText?_line (hlength : path.length < maxDepth) :
    ofText? text = v?.map (nested path key) := by
  have hline := @readLines?_value path key value v v? ⟨[], []⟩ (2 * text.toList.length) [] hpath
    hkey hvalue hlength .document
  rw [List.append_nil, ← htext] at hline
  rw [ofText?_eq (isDocument_line hpath hkey hvalue htext).head?_ne, hline]
  cases v? with
  | none => rfl
  | some v =>
    rw [Option.bind_some, TomlSheet.assign_blank, Option.map_some, TomlNode.sealMembers_chain]
    rfl

end

section

variable (hpath : ∀ name ∈ path, IsName name.toList) (htable : IsName table.toList)
  (hkey : IsName key.toList) (hvalue : IsValue value v v?)
  (htext : text.toList = '[' :: (Step.dotted (path ++ [table]) ++ ']' :: '\n' ::
    (key.toList ++ " = ".toList ++ value.toList ++ ['\n'])))

include hpath htable hkey hvalue htext

theorem isDocument_section :
    IsDocument [.header path table, .pair [] key (.scalar v)] text.toList := by
  have hheader := isPath_dotted hpath htable isBlanks_nil
  have hpair := IsDocument.pair (@isPath_dotted [] key _ nofun hkey isBlanks_space) isBlanks_space
    hvalue.isText (.line [] (.inl rfl)) .nil
  have hdocument := IsDocument.header isBlanks_nil hheader (.line _ (.inl rfl)) hpair
  have heq : text.toList = '[' :: ([] ++ (Step.dotted (path ++ [table]) ++ [] ++ ']' ::
      (['\n'] ++ (Step.dotted ([] ++ [key]) ++ [' '] ++ '=' ::
        ([' '] ++ (value.toList ++ (['\n'] ++ []))))))) := by
    simp [htext, Step.dotted]
  rwa [← heq] at hdocument

/-- A document of a header and a line below it. -/
theorem ofText?_section (hlength : path.length < maxDepth) :
    ofText? text = v?.map (nested (path ++ [table]) key) := by
  have hmark := (isDocument_section hpath htable hkey hvalue htext).head?_ne
  have hheader := isPath_dotted hpath htable isBlanks_nil
  rw [List.append_nil] at hheader
  obtain ⟨fuel, hfuel⟩ : ∃ fuel, 2 * text.toList.length + 2 = fuel + 2 + 1 := by
    have hpos : 0 < text.toList.length := by simp [htext]
    exact ⟨2 * text.toList.length - 1, by omega⟩
  have hline := @readLines?_value [] key value v v? (TomlSheet.below path table []) fuel ['\n']
    nofun hkey hvalue (by decide) (.line [] (.inl rfl))
  rw [ofText?_eq hmark, hfuel, TomlSheet.readLines?_line (by unfold IsPassed; decide) htext, htext,
    TomlSheet.readLine?_blank hheader hlength, Option.bind_some]
  refine (congrArg _ hline).trans ?_
  cases v? with
  | none => rfl
  | some v =>
    rw [Option.bind_some, TomlSheet.assign_below, Option.map_some, TomlSheet.below,
      TomlNode.sealMembers_chain, Option.map_some, nested, nested, List.foldr_append]
    rfl

end

end Toml
end ErrorBoundary
