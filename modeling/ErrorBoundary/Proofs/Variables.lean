import ErrorBoundary.Config.Environment
import ErrorBoundary.Proofs.Meaning
import ErrorBoundary.Proofs.Path

/-!
# ErrorBoundary.Proofs.Variables

Settings in the environment. A variable that is named after the path of a setting writes the
setting, in whatever case its name is, and of several such variables the last one counts
(`Environment.writtenIn?_variable`).

* `Scalar.IsParsed`        — what the text of a variable is taken for.
* `SettingKey.variableName` — the name of a setting's variable, in lower case.
-/

namespace ErrorBoundary

open ErrorBoundary.Tree (Entry lastAt)

/-! ## Texts -/

/-- What the text of a variable is taken for: a truth value, a whole number of 64 bits, a double, or
else the text that it is. -/
inductive Scalar.IsParsed (s : String) : Scalar → Prop where
  | bool {b : Bool} : lowerAscii s = toString b → IsParsed s (.bool b)
  | integer {n : Int} : lowerAscii s ∉ ["true", "false"] → IsWhole s.toList n → IsSigned64 n →
      IsParsed s (.integer n)
  | real {x : Binary64} : lowerAscii s ∉ ["true", "false"] →
      (∀ n, IsWhole s.toList n → ¬ IsSigned64 n) → IsDouble s.toList x → IsParsed s (.real x)
  | text : lowerAscii s ∉ ["true", "false"] → (∀ n, IsWhole s.toList n → ¬ IsSigned64 n) →
      (∀ x, ¬ IsDouble s.toList x) → IsParsed s (.text s)

theorem Scalar.ofVariable_eq_iff {s : String} {v : Scalar} :
    ofVariable s = v ↔ IsParsed s v := by
  have hinteger : ∀ n, (intOfText? s).filter (fun n => decide (IsSigned64 n)) = some n ↔
      IsWhole s.toList n ∧ IsSigned64 n := by
    intro n
    rw [Option.filter_eq_some_iff, intOfText?_eq_some_iff, decide_eq_true_eq]
  have hnone : (intOfText? s).filter (fun n => decide (IsSigned64 n)) = none ↔
      ∀ n, IsWhole s.toList n → ¬ IsSigned64 n := by
    rw [Option.eq_none_iff_forall_ne_some]
    exact forall_congr' fun n => by rw [ne_eq, hinteger, not_and]
  have hnoDouble : Binary64.ofText? s = none ↔ ∀ x, ¬ IsDouble s.toList x := by
    rw [Option.eq_none_iff_forall_ne_some]
    exact forall_congr' fun x => by rw [ne_eq, Binary64.ofText?_eq_some_iff]
  have hword : lowerAscii s ∉ ["true", "false"] ↔
      lowerAscii s ≠ "true" ∧ lowerAscii s ≠ "false" := by simp
  constructor
  · rintro rfl
    rw [ofVariable]
    split
    · rename_i htrue
      exact .bool htrue
    split
    · rename_i hfalse
      exact .bool hfalse
    rename_i htrue hfalse
    have hwords := hword.mpr ⟨htrue, hfalse⟩
    split
    · rename_i n hn
      obtain ⟨hwhole, hsigned⟩ := (hinteger n).mp hn
      exact .integer hwords hwhole hsigned
    rename_i hn
    split
    · rename_i x hx
      exact .real hwords (hnone.mp hn) (Binary64.ofText?_eq_some_iff.mp hx)
    · rename_i hx
      exact .text hwords (hnone.mp hn) (hnoDouble.mp hx)
  · intro h
    rw [ofVariable]
    cases h with
    | @bool b hb =>
      cases b with
      | true => exact if_pos hb
      | false =>
        have hfalse : lowerAscii s = "false" := hb
        rw [hfalse]
        rfl
    | integer hwords hwhole hsigned =>
      obtain ⟨htrue, hfalse⟩ := hword.mp hwords
      simp only [if_neg htrue, if_neg hfalse, (hinteger _).mpr ⟨hwhole, hsigned⟩]
    | real hwords hn hx =>
      obtain ⟨htrue, hfalse⟩ := hword.mp hwords
      simp only [if_neg htrue, if_neg hfalse, hnone.mpr hn, Binary64.ofText?_eq_some_iff.mpr hx]
    | text hwords hn hx =>
      obtain ⟨htrue, hfalse⟩ := hword.mp hwords
      simp only [if_neg htrue, if_neg hfalse, hnone.mpr hn, hnoDouble.mpr hx]

/-! ## Names -/

/-- Behind every underscore stands another character. -/
def HasSingles : List Char → Bool
  | [] => true
  | c :: rest => (c != '_' || rest.head?.any (· != '_')) && HasSingles rest

namespace SettingKey

theorem isName_path (k : SettingKey) :
    ∀ name ∈ k.path, Toml.IsName name.toList ∧ HasSingles name.toList = true := by
  have hnames : ∀ name ∈ ["server", "host", "port", "logging", "level", "format", "errors",
      "default_status", "overrides"], Toml.IsName name.toList ∧ HasSingles name.toList = true := by
    intro name hname
    have hcheck : ∀ name ∈ ["server", "host", "port", "logging", "level", "format", "errors",
        "default_status", "overrides"], name.toList ≠ [] ∧
          name.toList.all Toml.isKeyChar = true ∧ HasSingles name.toList = true := by decide
    obtain ⟨hne, hall, hsingles⟩ := hcheck name hname
    exact ⟨Toml.isName_of_all hne hall, hsingles⟩
  have hclassification : ∀ c : Classification,
      Toml.IsName c.name.toList ∧ HasSingles c.name.toList = true := by
    intro c
    cases c <;> exact ⟨Toml.isName_of_all (by decide) (by decide), by decide⟩
  intro name hname
  cases k with
  | override c =>
    simp only [path, List.mem_cons, List.not_mem_nil, or_false] at hname
    rcases hname with rfl | rfl | rfl
    · exact hnames "errors" (by simp)
    · exact hnames "overrides" (by simp)
    · exact hclassification c
  | _ =>
    refine hnames name ?_
    simp only [path, List.mem_cons, List.not_mem_nil, or_false] at hname
    rcases hname with rfl | rfl <;> simp

/-- The name of the variable for a setting, in lower case. -/
def variableName (k : SettingKey) : String :=
  k.path.foldl (fun before name => before ++ "__" ++ name) "rollout"

/-- What a source writes for a setting, where the last part at its path counts. -/
def writtenIn? (k : SettingKey) (source : List Entry) : Option Tree :=
  lastAt k.path (source.flatMap Entry.parts)

theorem writtenIn?_append (k : SettingKey) (source source' : List Entry) :
    k.writtenIn? (source ++ source') = (k.writtenIn? source').or (k.writtenIn? source) := by
  rw [writtenIn?, List.flatMap_append, Tree.lastAt_append]
  rfl

end SettingKey

namespace Environment

variable {k : SettingKey} {name text : String} {vars before after : Environment}

theorem separate_cons {c : Char} {cs : List Char} (h : c = '_' → cs.head? ≠ some '_') :
    separate (c :: cs) = c :: separate cs := by
  rw [separate]
  rintro rest rfl rfl
  exact h rfl rfl

theorem head?_of_hasSingles {c : Char} {cs : List Char} (h : HasSingles (c :: cs) = true)
    (rest : List Char) : c = '_' → (cs ++ rest).head? ≠ some '_' := by
  rintro rfl
  cases cs with
  | nil => cases h
  | cons d cs =>
    intro heq
    cases heq
    cases h

/-- Two underscores separate names, and those within the names are kept. -/
theorem separate_append {cs : List Char} (h : HasSingles cs = true) (rest : List Char) :
    separate (cs ++ '_' :: '_' :: rest) = cs ++ '.' :: separate rest := by
  induction cs with
  | nil => rfl
  | cons c cs ih =>
    rw [List.cons_append, separate_cons (head?_of_hasSingles h _),
      ih (Bool.and_eq_true_iff.mp h).2, List.cons_append]

theorem separate_eq {cs : List Char} (h : HasSingles cs = true) : separate cs = cs := by
  induction cs with
  | nil => rfl
  | cons c cs ih =>
    have hhead := head?_of_hasSingles h []
    rw [List.append_nil] at hhead
    rw [separate_cons hhead, ih (Bool.and_eq_true_iff.mp h).2]

/-- Names with two underscores between them. -/
def underscored : List String → List Char
  | [] => []
  | [name] => name.toList
  | name :: names => name.toList ++ '_' :: '_' :: underscored names

theorem separate_underscored {names : List String}
    (h : ∀ name ∈ names, HasSingles name.toList = true) :
    separate (underscored names) = Step.dotted names := by
  induction names with
  | nil => rfl
  | cons name names ih =>
    have hname := h name List.mem_cons_self
    cases names with
    | nil => exact separate_eq hname
    | cons name' names =>
      rw [underscored, separate_append hname, Step.dotted,
        ih fun n hn => h n (List.mem_cons_of_mem name hn)]
      · simp
      · simp

theorem toList_variableName (k : SettingKey) :
    k.variableName.toList = beginning ++ underscored k.path := by
  have hbeginning : beginning = "rollout".toList ++ ['_', '_'] := by decide
  rw [hbeginning, SettingKey.variableName]
  cases k <;> simp [SettingKey.path, underscored]

theorem isKeyChar_underscored {names : List String} (h : ∀ name ∈ names, Toml.IsName name.toList) :
    ∀ c ∈ underscored names, Toml.isKeyChar c = true := by
  induction names with
  | nil => simp [underscored]
  | cons name names ih =>
    have hname := (h name List.mem_cons_self).isKeyChar
    cases names with
    | nil => exact hname
    | cons name' names =>
      intro c hc
      rw [underscored, List.mem_append, List.mem_cons, List.mem_cons] at hc
      · rcases hc with hc | rfl | rfl | hc
        · exact hname c hc
        · rfl
        · rfl
        · exact ih (fun n hn => h n (List.mem_cons_of_mem name hn)) c hc
      · simp

/-- In lower case by the rules of ASCII a name is the same by all rules. -/
theorem map_lower (h : lowerAscii name = k.variableName) :
    name.toList.map lower = k.variableName.toList := by
  have hascii : '\u212a' ∉ k.variableName.toList := by
    rw [toList_variableName, List.mem_append, not_or]
    refine ⟨by decide, fun hmem => ?_⟩
    have hkey := isKeyChar_underscored (fun name hname => (k.isName_path name hname).1) _ hmem
    exact absurd hkey (by decide)
  rw [← h, lowerAscii, String.toList_ofList] at hascii ⊢
  refine List.map_congr_left fun c hc => ?_
  rw [lower, if_neg]
  rintro rfl
  exact hascii (List.mem_map.mpr ⟨_, hc, rfl⟩)

theorem path?_variable (h : lowerAscii name = k.variableName) :
    path? name = some (k.path.map .key) := by
  have hne : k.path ≠ [] := by cases k <;> exact List.cons_ne_nil _ _
  rw [path?, map_lower h, toList_variableName, if_pos (List.take_left' rfl), List.drop_left' rfl,
    separate_underscored fun name hname => (k.isName_path name hname).2,
    Step.ofText_dotted (fun name hname => (k.isName_path name hname).1) hne
      (String.toList_ofList)]

/-- A variable with the name of a setting writes it, unless a later one does. -/
theorem writtenIn?_variable (hvars : vars = before ++ (name, text) :: after)
    (hname : lowerAscii name = k.variableName) (hafter : k.writtenIn? (entries after) = none) :
    k.writtenIn? (entries vars) = some (.scalar (.ofVariable text) (some .environment)) := by
  have hentry : entries [(name, text)] =
      [⟨k.path.map .key, .scalar (.ofVariable text) (some .environment)⟩] := by
    rw [entries, List.filterMap_cons, entry?, path?_variable hname]
    rfl
  have hself : k.writtenIn? (entries [(name, text)]) =
      some (.scalar (.ofVariable text) (some .environment)) := by
    rw [hentry, SettingKey.writtenIn?]
    simp [Entry.parts, Tree.parts, lastAt]
  have hentries : entries vars = entries before ++ (entries [(name, text)] ++ entries after) := by
    rw [hvars, ← List.singleton_append]
    simp only [entries, List.filterMap_append]
  rw [hentries, SettingKey.writtenIn?_append, SettingKey.writtenIn?_append, hafter, hself,
    Option.none_or, Option.some_or]

/-- Other variables are no settings. -/
theorem entries_eq_nil (h : ∀ v ∈ vars, ¬ beginning <+: v.1.toList.map lower) :
    entries vars = [] := by
  rw [entries, List.filterMap_eq_nil_iff]
  intro v hv
  have htake : (v.1.toList.map lower).take beginning.length ≠ beginning := fun heq =>
    h v hv ⟨_, by rw [← List.take_append_drop beginning.length (v.1.toList.map lower), heq]⟩
  have hpath : path? v.1 = none := if_neg htake
  unfold entry?
  rw [hpath]
  rfl

end Environment
end ErrorBoundary
