import ErrorBoundary.Proofs.Files
import ErrorBoundary.Proofs.Toml.Line

/-!
# ErrorBoundary.Proofs.SettingText

Files of settings that write a value for one setting and nothing else, on a line of its own or below
the header of its section.

* `SettingKey.texts`             — the two texts, and `SettingKey.entry` what both say.
* `SettingKey.entries?_text`     — that they say this, if the value can be read.
* `ConfigFile.locate?_rewritten` — where a file stands does not depend on what the files say.
-/

namespace ErrorBoundary

open ErrorBoundary.Tree (Entry OnlyTables)

namespace SettingKey

/-- The tables on the way to a setting. -/
def tables : SettingKey → List String
  | .host | .port => ["server"]
  | .level | .format => ["logging"]
  | .defaultStatus => ["errors"]
  | .override _ => ["errors", "overrides"]

/-- Its name in the last of them. -/
def name : SettingKey → String
  | .host => "host"
  | .port => "port"
  | .level => "level"
  | .format => "format"
  | .defaultStatus => "default_status"
  | .override c => c.name

/-- The ways to write a value for a setting: on a line of its own, as in `server.port = 80`, or
below the header of its section. -/
def texts (k : SettingKey) (value : String) : List String :=
  let tables := ".".intercalate k.tables
  let pair := k.name ++ " = " ++ value
  [tables ++ "." ++ pair, "[" ++ tables ++ "]\n" ++ pair ++ "\n"]

/-- What both say: a value in tables. -/
def entry (k : SettingKey) (t : Tree) (origin : Origin) : Entry where
  path := [.key (k.path.headD "")]
  tree := k.path.tail.foldr (fun name t => .table [(name, t)] (some origin)) t

section Texts

variable {k : SettingKey} {value text file : String} {v : Toml} {v? : Option Toml}

theorem path_eq (k : SettingKey) : k.path = k.tables ++ [k.name] := by
  cases k <;> rfl

theorem length_tables (k : SettingKey) : k.tables.length < Toml.maxDepth := by
  cases k <;> simp [tables, Toml.maxDepth]

theorem exists_tables (k : SettingKey) : ∃ path table, k.tables = path ++ [table] := by
  cases k with
  | override c => exact ⟨["errors"], "overrides", rfl⟩
  | _ => exact ⟨[], _, rfl⟩

theorem isName_tables (k : SettingKey) : ∀ name ∈ k.tables, Toml.IsName name.toList :=
  fun name hname => (k.isName_path name (by rw [path_eq]; simp [hname])).1

theorem isName_name (k : SettingKey) : Toml.IsName k.name.toList :=
  (k.isName_path k.name (by rw [path_eq]; simp)).1

theorem toList_texts (htext : text ∈ k.texts value) :
    text.toList = Step.dotted (k.tables ++ [k.name]) ++ " = ".toList ++ value.toList ∨
    text.toList = '[' :: (Step.dotted k.tables ++ ']' :: '\n' ::
      (k.name.toList ++ " = ".toList ++ value.toList ++ ['\n'])) := by
  simp only [texts, List.mem_cons, List.not_mem_nil, or_false] at htext
  rcases htext with rfl | rfl
  · left
    cases k <;> simp [tables, Step.dotted]
  · right
    cases k <;> simp [tables, Step.dotted]

theorem ofText?_texts (hvalue : Toml.IsValue value v v?) (htext : text ∈ k.texts value) :
    Toml.ofText? text = v?.map (Toml.nested k.tables k.name) := by
  have hlength := length_tables k
  obtain ⟨path, table, htables⟩ := exists_tables k
  rcases toList_texts htext with heq | heq
  · exact Toml.ofText?_line (isName_tables k) (isName_name k) hvalue heq hlength
  · have hpath : path.length < Toml.maxDepth := by
      rw [htables, List.length_append] at hlength
      exact Nat.lt_of_le_of_lt (Nat.le_add_right _ _) hlength
    have hnames := isName_tables k
    rw [htables, List.forall_mem_append, List.forall_mem_singleton] at hnames
    rw [htables] at heq ⊢
    exact Toml.ofText?_section hnames.1 hnames.2 (isName_name k) hvalue heq hpath

/-- Each of the two texts is a document that gives the value at the path of the setting. -/
theorem isDocument_texts (hvalue : Toml.IsValue value v v?) (htext : text ∈ k.texts value) :
    ∃ d, Toml.IsDocument d text.toList ∧ Toml.Gives [] d k.path v := by
  obtain ⟨path, table, htables⟩ := exists_tables k
  rcases toList_texts htext with heq | heq
  · refine ⟨_, Toml.isDocument_line (isName_tables k) (isName_name k) hvalue heq, ?_⟩
    exact .inl ⟨[], path_eq k, .scalar _⟩
  · have hnames := isName_tables k
    rw [htables, List.forall_mem_append, List.forall_mem_singleton] at hnames
    rw [htables] at heq
    refine ⟨_, Toml.isDocument_section hnames.1 hnames.2 (isName_name k) hvalue heq, ?_⟩
    refine .inl ⟨[], ?_, .scalar _⟩
    rw [path_eq, htables, List.append_nil]

theorem ofTomlMembers_nested (path : List String) (key : String) (v : Toml) (origin : Origin) :
    Tree.ofTomlMembers origin (Toml.nested path key v) =
      path.foldr (fun name inner => [(name, .table inner (some origin))])
        [(key, Tree.ofToml origin v)] := by
  induction path with
  | nil => rfl
  | cons name path ih =>
    show [(name, Tree.table (Tree.ofTomlMembers origin (Toml.nested path key v)) (some origin))] = _
    rw [ih]
    rfl

theorem entries?_text (hvalue : Toml.IsValue value v v?) (htext : text ∈ k.texts value) :
    (ConfigFile.mk .toml file text).entries? =
      v?.map fun v => [k.entry (Tree.ofToml (.file file) v) (.file file)] := by
  have hsection : ∀ name ∈ ["server", "logging", "errors"], Step.ofText name = [.key name] := by
    decide
  obtain ⟨d, hd, _⟩ := isDocument_texts hvalue htext
  have hfile : (ConfigFile.mk .toml file text).IsWritten d := ⟨rfl, hd⟩
  rw [hfile.entries?_eq, ofText?_texts hvalue htext]
  cases v? with
  | none => rfl
  | some v =>
    simp only [Option.map_some, ofTomlMembers_nested]
    cases k <;> simp [tables, name, path, entry, ConfigFile.origin, hsection]

/-- Where such a text stands in a file, the file says this. -/
theorem fileEntries_texts {files : Directory} {name : String}
    (hf : ConfigFile.locate? files name = some ⟨.toml, file, text⟩)
    (hvalue : Toml.IsValue value v (some v)) (htext : text ∈ k.texts value) :
    Config.fileEntries files name =
      .ok [k.entry (Tree.ofToml (.file file) v) (.file file)] := by
  rw [Config.fileEntries, hf]
  simp only [entries?_text hvalue htext, Option.map_some]

theorem onlyTables_entry (k k' : SettingKey) (v : Scalar) (origin : Origin) :
    OnlyTables k'.path (k.entry (.scalar v (some origin)) origin).path
      (k.entry (.scalar v (some origin)) origin).tree := by
  cases k <;> cases k' <;> simp [entry, path, OnlyTables]

end Texts
end SettingKey

/-! ## Where the file stands -/

section Places

variable (write : String → String) (d : Directory)

/-- The same files with other texts. -/
def Directory.rewritten : Directory := d.map fun f => (f.1, write f.2)

theorem Directory.isDirectory_rewritten (here : List String) :
    (d.rewritten write).isDirectory here = d.isDirectory here := by
  simp [isDirectory, rewritten, List.any_map, Function.comp_def]

theorem Directory.isPassable_rewritten (here ps : List String) :
    (d.rewritten write).isPassable here ps = d.isPassable here ps := by
  induction ps generalizing here with
  | nil => rfl
  | cons part rest ih =>
    cases rest with
    | nil => rfl
    | cons part' rest =>
      show (_ && _) = (_ && _)
      rw [isDirectory_rewritten, ih]

theorem Directory.text?_rewritten (ps : List String) :
    (d.rewritten write).text? ps = (d.text? ps).map write := by
  rw [text?, text?, isPassable_rewritten]
  split
  · rw [rewritten, List.find?_map, Option.map_map, Option.map_map]
    rfl
  · rfl

theorem ConfigFile.locate?_rewritten (name : String) :
    locate? (d.rewritten write) name =
      (locate? d name).map fun f => { f with text := write f.text } := by
  simp only [locate?, Directory.text?_rewritten]
  generalize Directory.parts (pathOf name) = parts
  have hown : (if mayBeFile (pathOf name) then (d.text? parts).map write else none) =
      (if mayBeFile (pathOf name) then d.text? parts else none).map write := by
    split <;> rfl
  rw [hown]
  cases if mayBeFile (pathOf name) then d.text? parts else none with
  | some text => simp [Function.comp_def]
  | none =>
    simp only [Option.map_none, List.map_findSome?, Option.map_bind, Option.map_map,
      Function.comp_def]

end Places

/-- The file of a deployment beside it. -/
theorem ConfigFile.locate?_both (shared own : String) :
    let files : Directory := [("config/default.toml", shared), ("config/production.toml", own)]
    locate? files Config.defaultName = some ⟨.toml, "config/default.toml", shared⟩ ∧
      locate? files "production" = some ⟨.toml, "config/production.toml", own⟩ := by
  intro files
  have hfiles : files = Directory.rewritten (fun text => if text = "" then shared else own)
      [("config/default.toml", ""), ("config/production.toml", "-")] := rfl
  have hshared : locate? [("config/default.toml", ""), ("config/production.toml", "-")]
      Config.defaultName = some ⟨.toml, "config/default.toml", ""⟩ := by decide
  have hown : locate? [("config/default.toml", ""), ("config/production.toml", "-")]
      "production" = some ⟨.toml, "config/production.toml", "-"⟩ := by decide
  rw [hfiles, locate?_rewritten, locate?_rewritten, hshared, hown]
  exact ⟨rfl, rfl⟩

end ErrorBoundary
