import ErrorBoundary.Proofs.SettingText

/-!
# ErrorBoundary.Proofs.Sources

Settings from three sources: the file that all deployments share, the file of one deployment, and
the environment. `Settings.load_layers`: a setting is what the strongest source that writes it says,
and no source takes away what another one wrote.

* `Sources`                    — what each source says by itself.
* `SettingKey.FollowsFile`     — a source that writes a setting as the lines of a file do.
* `SettingKey.FollowsVariables` — the same for the variables of the environment.
* `SettingKey.IsSet`           — a setting with the value that is written for it.
* `Settings.given_load`        — the value of a setting, once the sources are read.
-/

namespace ErrorBoundary

open ErrorBoundary.Tree (Entry OnlyTables Carries IsPlain)

/-- What the sources of a deployment say, each by itself. -/
structure Sources where
  shared : List Entry
  own : List Entry
  environment : List Entry

namespace Sources

/-- The sources of a deployment are these, from the directory of its files and its variables. -/
structure AreRead (x : Sources) (files : Directory) (vars : Environment) (deployment : String) :
    Prop where
  shared : Config.fileEntries files Config.defaultName = .ok x.shared
  own : Config.fileEntries files deployment = .ok x.own
  environment : Environment.entries vars = x.environment

/-- No source writes anything but a table where a section stands. -/
def GiveTables (x : Sources) : Prop :=
  ∀ source ∈ [x.shared, x.own, x.environment], ∀ e ∈ source, ∀ k : SettingKey,
    OnlyTables k.path e.path e.tree

/-- What the environment writes for a setting; if it writes nothing the file of the deployment; if
that writes nothing the shared file. -/
def written? (x : Sources) (k : SettingKey) : Option Tree :=
  (k.writtenIn? x.environment).or ((k.writtenIn? x.own).or (k.writtenIn? x.shared))

end Sources

namespace Settings

variable {files : Directory} {vars : Environment} {deployment : String} {s : Settings}
  {x : Sources}

theorem ofTree_of_load (h : load files vars deployment = .ok s) :
    ∃ entries, Config.entries files vars deployment = .ok entries ∧
      ofTree (Tree.empty.apply entries) = .ok s := by
  unfold load at h
  split at h
  · cases h
  · rename_i entries hentries
    split at h
    · cases h
    · rename_i s' hs
      cases h
      exact ⟨entries, hentries, hs⟩

theorem entries_of_areRead (hx : x.AreRead files vars deployment) :
    Config.entries files vars deployment = .ok (x.shared ++ x.own ++ x.environment) := by
  rw [Config.entries, hx.shared, hx.own, hx.environment]

theorem isPlain_empty (k : SettingKey) : IsPlain k.path Tree.empty := by
  cases k <;> exact ⟨List.nodup_nil, nofun⟩

theorem carries_empty (k : SettingKey) : Carries k.path (some Tree.empty) none := by
  cases k <;> exact ⟨[], none, rfl, rfl⟩

/-- A setting is what is written for it last, or what is built in. -/
theorem given_load (h : load files vars deployment = .ok s)
    (hx : x.AreRead files vars deployment) (htables : x.GiveTables) (k : SettingKey) :
    k.Given (x.written? k) (s.at? k) := by
  obtain ⟨entries, hentries, hread⟩ := ofTree_of_load h
  rw [entries_of_areRead hx] at hentries
  cases hentries
  have honly : ∀ e ∈ x.shared ++ x.own ++ x.environment, OnlyTables k.path e.path e.tree := by
    intro e he
    rcases List.mem_append.mp he with he | he
    · rcases List.mem_append.mp he with he | he
      · exact htables x.shared (by simp) e he k
      · exact htables x.own (by simp) e he k
    · exact htables x.environment (by simp) e he k
  have hcarries := Tree.carries_apply (carries_empty k) honly
  rw [Option.or_none, List.flatMap_append, List.flatMap_append, Tree.lastAt_append,
    Tree.lastAt_append] at hcarries
  exact SettingKey.given_of_carries hread k (Tree.isPlain_apply (isPlain_empty k)) hcarries

end Settings

/-! ## What the sources write -/

namespace SettingKey

/-- For the setting a source writes what the lines of a file give at its path: the file that a name
stands for, if there is one. -/
structure FollowsFile (k : SettingKey) (files : Directory) (name : String) (source : List Entry) :
    Prop where
  missing : ConfigFile.locate? files name = none → k.writtenIn? source = none
  located : ∀ f d, ConfigFile.locate? files name = some f → f.IsWritten d → ∀ t,
    k.writtenIn? source = some t ↔
      ∃ x v, Toml.Gives [] d k.path x ∧ x.IsScalar v ∧ t = .scalar v (some f.origin)

/-- For the setting it writes what the last variable with its name is taken for. -/
structure FollowsVariables (k : SettingKey) (vars : Environment) (source : List Entry) : Prop where
  missing : (∀ v ∈ vars, ¬ Environment.beginning <+: v.1.toList.map Environment.lower) →
    k.writtenIn? source = none
  named : ∀ before name text after, vars = before ++ (name, text) :: after →
    lowerAscii name = k.variableName → k.writtenIn? (Environment.entries after) = none →
      ∃ v, Scalar.IsParsed text v ∧ k.writtenIn? source = some (.scalar v (some .environment))

/-- What is written is a scalar, and the value is what it means for the setting. -/
def IsSet (k : SettingKey) (t : Tree) (value? : Option SettingValue) : Prop :=
  ∃ v origin value, t = .scalar v origin ∧ k.Means v value ∧ value? = some value

theorem followsFile {k : SettingKey} {files : Directory} {name : String} {source : List Entry}
    (h : Config.fileEntries files name = .ok source) : k.FollowsFile files name source := by
  constructor
  · intro hmissing
    rw [Config.fileEntries, hmissing] at h
    cases h
    rfl
  · intro f d hlocated hd
    exact ConfigFile.writtenIn?_iff hd (ConfigFile.entries?_of_fileEntries h hlocated) k

theorem followsVariables (k : SettingKey) (vars : Environment) :
    k.FollowsVariables vars (Environment.entries vars) := by
  constructor
  · intro hmissing
    rw [Environment.entries_eq_nil hmissing]
    rfl
  · intro before name text after hvars hname hafter
    exact ⟨_, Scalar.ofVariable_eq_iff.mp rfl, Environment.writtenIn?_variable hvars hname hafter⟩

theorem isSet_of_given {k : SettingKey} {t : Tree} {value? : Option SettingValue}
    (h : k.Given (some t) value?) : k.IsSet t value? := by
  obtain ⟨value, hread, rfl⟩ := h
  obtain ⟨v, origin, rfl, hmeans⟩ := read_eq_ok_iff.mp hread
  exact ⟨v, origin, value, rfl, hmeans, rfl⟩

section IsSet

variable {k : SettingKey} {origin : Option Origin} {value? : Option SettingValue}

/-- A text is the value as it is. -/
theorem IsSet.text {text : String} (h : k.IsSet (.scalar (.text text) origin) value?)
    (hk : ¬ k.IsNumber) : value? = some (.text text) := by
  obtain ⟨v, origin', value, ht, hmeans, rfl⟩ := h
  cases ht
  cases value with
  | text s =>
    cases hmeans.2
    rfl
  | number w => exact absurd hmeans.1 hk

/-- So is a whole number, and it is one of 16 bits. -/
theorem IsSet.number {n : Int} (h : k.IsSet (.scalar (.integer n) origin) value?)
    (hk : k.IsNumber) : 0 ≤ n ∧ n ≤ 65535 ∧ value? = some (.number (UInt16.ofNat n.toNat)) := by
  obtain ⟨v, origin', value, ht, hmeans, rfl⟩ := h
  cases ht
  cases value with
  | text s => exact absurd hk hmeans.1
  | number w =>
    obtain ⟨_, hcounted⟩ := hmeans
    cases hcounted
    have hw := w.toNat_lt
    refine ⟨by omega, by omega, ?_⟩
    rw [Int.toNat_natCast, UInt16.ofNat_toNat]

end IsSet

end SettingKey

namespace Settings

variable {files : Directory} {vars : Environment} {deployment : String} {s : Settings}
  {x : Sources}

/-- A setting that the environment writes has the value written there; else one that the file of
the deployment writes has the value written there; else one that the shared file writes has the
value written there; and else it has its default. What the sources write is what the last variable
of the setting says and what the lines of the files give. Nothing else counts: sources that agree on
a setting load the same value of it, whatever they write for others. -/
theorem load_layers (h : load files vars deployment = .ok s)
    (hx : x.AreRead files vars deployment) (htables : x.GiveTables) (k : SettingKey) :
    (k.FollowsVariables vars x.environment ∧ k.FollowsFile files deployment x.own ∧
      k.FollowsFile files Config.defaultName x.shared) ∧
    (∀ t, k.writtenIn? x.environment = some t → k.IsSet t (s.at? k)) ∧
    (∀ t, k.writtenIn? x.environment = none → k.writtenIn? x.own = some t →
      k.IsSet t (s.at? k)) ∧
    (∀ t, k.writtenIn? x.environment = none → k.writtenIn? x.own = none →
      k.writtenIn? x.shared = some t → k.IsSet t (s.at? k)) ∧
    (k.writtenIn? x.environment = none → k.writtenIn? x.own = none →
      k.writtenIn? x.shared = none → s.at? k = k.builtIn?) ∧
    (∀ files' vars' deployment' s' x', load files' vars' deployment' = .ok s' →
      Sources.AreRead x' files' vars' deployment' → x'.GiveTables →
      x'.written? k = x.written? k → s'.at? k = s.at? k) := by
  have hgiven := given_load h hx htables k
  refine ⟨⟨?_, SettingKey.followsFile hx.own, SettingKey.followsFile hx.shared⟩, ?_, ?_, ?_, ?_, ?_⟩
  · rw [← hx.environment]
    exact k.followsVariables vars
  · intro t henvironment
    rw [Sources.written?, henvironment, Option.some_or] at hgiven
    exact SettingKey.isSet_of_given hgiven
  · intro t henvironment hown
    rw [Sources.written?, henvironment, Option.none_or, hown, Option.some_or] at hgiven
    exact SettingKey.isSet_of_given hgiven
  · intro t henvironment hown hshared
    rw [Sources.written?, henvironment, Option.none_or, hown, Option.none_or, hshared] at hgiven
    exact SettingKey.isSet_of_given hgiven
  · intro henvironment hown hshared
    rwa [Sources.written?, henvironment, Option.none_or, hown, Option.none_or, hshared] at hgiven
  · intro files' vars' deployment' s' x' h' hx' htables' hwritten
    have hgiven' := given_load h' hx' htables' k
    rw [hwritten] at hgiven'
    exact hgiven'.unique hgiven

/-- The shared file names a host, the file of the deployment a default status, and the environment
a level and two ports, of which the later one counts. The host stands beside it. -/
theorem load_layers_host_below_port :
    let files : Directory := [("config/default.toml", "[server]\nhost = \"127.0.0.1\"\n"),
      ("config/production.toml", "[errors]\ndefault_status = 503\n")]
    let vars : Environment := [("ROLLOUT__SERVER__PORT", "9000"),
      ("ROLLOUT__LOGGING__LEVEL", "debug"), ("rollout__server__port", "9001")]
    ∃ s, load files vars "production" = .ok s ∧ s.at? .host = some (.text "127.0.0.1") ∧
      s.at? .port = some (.number 9001) ∧ s.at? .level = some (.text "debug") ∧
      s.at? .format = some (.text "json") ∧ s.at? .defaultStatus = some (.number 503) := by
  intro files vars
  obtain ⟨hshared, hown⟩ : ConfigFile.locate? files Config.defaultName = _ ∧
      ConfigFile.locate? files "production" = _ := ConfigFile.locate?_both _ _
  have hhost : Toml.IsValue "\"127.0.0.1\"" (.string "127.0.0.1") (some (.string "127.0.0.1")) :=
    Toml.isValue_string (by simp [isPlain]) (by decide)
  have hstatus : Toml.IsValue "503" (.integer 503) (some (.integer 503)) :=
    Toml.isValue_integer 503
  let x : Sources := ⟨[SettingKey.host.entry (.scalar (.text "127.0.0.1")
      (some (.file "config/default.toml"))) (.file "config/default.toml")],
    [SettingKey.defaultStatus.entry (.scalar (.integer 503)
      (some (.file "config/production.toml"))) (.file "config/production.toml")],
    [⟨[.key "server", .key "port"], .scalar (.integer 9000) (some .environment)⟩,
      ⟨[.key "logging", .key "level"], .scalar (.text "debug") (some .environment)⟩,
      ⟨[.key "server", .key "port"], .scalar (.integer 9001) (some .environment)⟩]⟩
  have hx : x.AreRead files vars "production" := by
    constructor
    · exact SettingKey.fileEntries_texts (k := .host) hshared hhost (by decide)
    · exact SettingKey.fileEntries_texts (k := .defaultStatus) hown hstatus (by decide)
    · simp only [Environment.entries, vars, x]
      rfl
  have htables : x.GiveTables := by
    intro source hsource e he k
    simp [x] at hsource
    rcases hsource with rfl | rfl | rfl
    · rw [List.mem_singleton.mp he]
      exact SettingKey.onlyTables_entry _ k _ _
    · rw [List.mem_singleton.mp he]
      exact SettingKey.onlyTables_entry _ k _ _
    · simp only [List.mem_cons, List.not_mem_nil, or_false] at he
      rcases he with rfl | rfl | rfl <;> cases k <;> simp [SettingKey.path, OnlyTables]
  obtain ⟨s, hs⟩ : ∃ s, load files vars "production" = .ok s := by
    rw [load, entries_of_areRead hx]
    exact ⟨_, rfl⟩
  -- each of them is written by one source, and the value follows from what is written there
  have hlevel := (load_layers hs hx htables .level).2.1 _ rfl
  have hport := (load_layers hs hx htables .port).2.1 _ rfl
  have hdefault := (load_layers hs hx htables .defaultStatus).2.2.1 _ rfl rfl
  have hbelow := (load_layers hs hx htables .host).2.2.2.1 _ rfl rfl rfl
  have hformat := (load_layers hs hx htables .format).2.2.2.2.1 rfl rfl rfl
  exact ⟨s, hs, hbelow.text id, (hport.number trivial).2.2, hlevel.text id, hformat,
    (hdefault.number trivial).2.2⟩

end Settings
end ErrorBoundary
