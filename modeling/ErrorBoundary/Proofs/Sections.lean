import ErrorBoundary.Config.Read
import ErrorBoundary.Proofs.Classification
import ErrorBoundary.Proofs.Layering

/-!
# ErrorBoundary.Proofs.Sections

What the settings are when a tree is read, setting by setting. Each of them is what stands at its
path, or its default if nothing does.

* `Tree.Yields`                      — what is read in a place, or the default.
* `Section.readTable_cons_iff`       — a table is read one setting after the other.
* `SettingKey`                       — a setting that can be written on its own, with its path.
* `SettingKey.given_of_carries`      — its value, from what the tree holds at its path.
-/

namespace ErrorBoundary

/-! ## Tables -/

namespace Tree

variable {α : Type}

/-- `x` is what the tree in a place says, or the default where there is none. -/
def Yields (read : SettingReader α) (path : List Step) (t? : Option Tree) (default x : α) : Prop :=
  match t? with
  | none => x = default
  | some t => read path t = .ok x

/-- Nothing but a scalar can be read. -/
def ReadsScalars (read : SettingReader α) : Prop := ∀ path t x, read path t = .ok x → t.IsScalar

theorem readsScalars_string : ReadsScalars string := by
  intro path t x h
  cases t with
  | scalar v origin => trivial
  | array items origin => cases h
  | table members origin => cases h

theorem readsScalars_word : ReadsScalars word := by
  intro path t x h
  cases t with
  | scalar v origin => trivial
  | array items origin => cases h
  | table members origin => cases h

end Tree

open ErrorBoundary.Tree (Yields ReadsScalars Carries)

namespace Section

variable {α β γ : Type} {path : List Step} {members : Members Tree} {a c : α}

theorem readTable_cons_iff {name : String} {read : SettingReader β} {set : β → α → α}
    {rest : List (Setting α)} (default : β) (ha : set default a = a) :
    readTable path members a (.part name read set :: rest) = .ok c ↔
      ∃ x, Yields read (path ++ [.key name]) (Members.find? name members) default x ∧
        readTable path members (set x a) rest = .ok c := by
  rw [readTable, Setting.part]
  cases Members.find? name members with
  | none => simp only [Yields, exists_eq_left, ha]
  | some t =>
    simp only [Yields]
    cases read (path ++ [.key name]) t with
    | error e => simp [Except.map]
    | ok x => simp [Except.map]

/-- Two settings that are read into parts of their own. -/
theorem readTable_pair_iff {name name' : String} {read : SettingReader β} {read' : SettingReader γ}
    {set : β → α → α} {set' : γ → α → α} (default : β) (default' : γ) (ha : set default a = a)
    (ha' : ∀ x, set' default' (set x a) = set x a) :
    readTable path members a [.part name read set, .part name' read' set'] = .ok c ↔
      ∃ x y, Yields read (path ++ [.key name]) (Members.find? name members) default x ∧
        Yields read' (path ++ [.key name']) (Members.find? name' members) default' y ∧
        set' y (set x a) = c := by
  rw [readTable_cons_iff default ha]
  constructor
  · rintro ⟨x, hx, hrest⟩
    obtain ⟨y, hy, hc⟩ := (readTable_cons_iff default' (ha' x)).mp hrest
    cases hc
    exact ⟨x, y, hx, hy, rfl⟩
  · rintro ⟨x, y, hx, hy, rfl⟩
    exact ⟨x, hx, (readTable_cons_iff default' (ha' x)).mpr ⟨y, hy, rfl⟩⟩

end Section

section Layouts

variable {path : List Step} {members : Members Tree} {origin : Option Origin}

theorem ServerSettings.read_table_iff {s : ServerSettings} :
    layout.read path (.table members origin) = .ok s ↔
      Yields Tree.string (path ++ [.key "host"]) (Members.find? "host" members) defaultHost s.host ∧
      Yields Tree.word (path ++ [.key "port"]) (Members.find? "port" members)
        defaultPort s.port := by
  refine (Section.readTable_pair_iff defaultHost defaultPort rfl fun _ => rfl).trans ?_
  constructor
  · rintro ⟨host, port, hhost, hport, rfl⟩
    exact ⟨hhost, hport⟩
  · rintro ⟨hhost, hport⟩
    exact ⟨s.host, s.port, hhost, hport, rfl⟩

theorem LoggingSettings.read_table_iff {s : LoggingSettings} :
    layout.read path (.table members origin) = .ok s ↔
      Yields Tree.string (path ++ [.key "level"]) (Members.find? "level" members)
        defaultLevel s.level ∧
      Yields Tree.string (path ++ [.key "format"]) (Members.find? "format" members)
        defaultFormat s.format := by
  refine (Section.readTable_pair_iff defaultLevel defaultFormat rfl fun _ => rfl).trans ?_
  constructor
  · rintro ⟨level, format, hlevel, hformat, rfl⟩
    exact ⟨hlevel, hformat⟩
  · rintro ⟨hlevel, hformat⟩
    exact ⟨s.level, s.format, hlevel, hformat, rfl⟩

theorem ErrorSettings.read_table_iff {s : ErrorSettings} :
    layout.read path (.table members origin) = .ok s ↔
      Yields Tree.word (path ++ [.key "default_status"]) (Members.find? "default_status" members)
        standardStatus s.defaultStatus ∧
      Yields Overrides.ofTree (path ++ [.key "overrides"]) (Members.find? "overrides" members)
        .empty s.overrides := by
  refine (Section.readTable_pair_iff standardStatus .empty rfl fun _ => rfl).trans ?_
  constructor
  · rintro ⟨status, overrides, hstatus, hoverrides, rfl⟩
    exact ⟨hstatus, hoverrides⟩
  · rintro ⟨hstatus, hoverrides⟩
    exact ⟨s.defaultStatus, s.overrides, hstatus, hoverrides, rfl⟩

theorem Settings.ofTree_table_iff {s : Settings} :
    ofTree (.table members origin) = .ok s ↔
      Yields ServerSettings.layout.read [.key "server"] (Members.find? "server" members)
        .default s.server ∧
      Yields LoggingSettings.layout.read [.key "logging"] (Members.find? "logging" members)
        .default s.logging ∧
      Yields ErrorSettings.layout.read [.key "errors"] (Members.find? "errors" members)
        .default s.errors := by
  refine (Section.readTable_cons_iff ServerSettings.default rfl).trans ?_
  constructor
  · rintro ⟨server, hserver, hrest⟩
    obtain ⟨logging, errors, hlogging, herrors, rfl⟩ :=
      (Section.readTable_pair_iff LoggingSettings.default ErrorSettings.default rfl
        fun _ => rfl).mp hrest
    exact ⟨hserver, hlogging, herrors⟩
  · rintro ⟨hserver, hlogging, herrors⟩
    exact ⟨s.server, hserver, (Section.readTable_pair_iff LoggingSettings.default
      ErrorSettings.default rfl fun _ => rfl).mpr
        ⟨s.logging, s.errors, hlogging, herrors, rfl⟩⟩

end Layouts

/-! ## Overrides -/

namespace Overrides

/-- What a member says of a classification is its status, and where none does it keeps the one it
had. -/
theorem readMembers_spec {path : List Step} {o o' : Overrides} {members : Members Tree}
    (h : readMembers path o members = .ok o') (hnodup : (members.map Prod.fst).Nodup)
    (c : Classification) :
    match Members.find? c.name members with
    | none => o'.code? c = o.code? c
    | some t => ∃ code, Tree.word (path ++ [.key c.name]) t = .ok code ∧
        o'.code? c = some code := by
  induction members generalizing o with
  | nil =>
    cases h
    rfl
  | cons m rest ih =>
    obtain ⟨name, t⟩ := m
    rw [List.map_cons, List.nodup_cons] at hnodup
    obtain ⟨hname, hnodup⟩ := hnodup
    rw [readMembers] at h
    split at h
    · cases h
    rename_i d hd
    obtain rfl := Classification.ofName?_eq_some_iff.mp hd
    split at h
    · cases h
    rename_i code hcode
    have hrest := ih h hnodup
    by_cases hc : d = c
    · -- no later member speaks of this classification again
      subst hc
      rw [Members.find?_eq_none hname] at hrest
      have hself : Members.find? d.name ((d.name, t) :: rest) = some t := if_pos rfl
      rw [hself]
      exact ⟨code, hcode, hrest.trans (if_pos rfl)⟩
    · have hne : d.name ≠ c.name := fun heq => hc (Classification.name_injective heq)
      have hother : Members.find? c.name ((d.name, t) :: rest) = Members.find? c.name rest :=
        if_neg hne
      rw [hother]
      have hkeep : (o.insert d code).code? c = o.code? c := if_neg (Ne.symm hc)
      rwa [hkeep] at hrest

end Overrides

/-! ## Settings by their paths -/

/-- A setting that can be written on its own. -/
inductive SettingKey where
  | host
  | port
  | level
  | format
  | defaultStatus
  | override (c : Classification)

inductive SettingValue where
  | text (s : String)
  | number (n : UInt16)

namespace SettingKey

def path : SettingKey → List String
  | .host => ["server", "host"]
  | .port => ["server", "port"]
  | .level => ["logging", "level"]
  | .format => ["logging", "format"]
  | .defaultStatus => ["errors", "default_status"]
  | .override c => ["errors", "overrides", c.name]

/-- What a tree says when it stands at the path. -/
def read (k : SettingKey) (t : Tree) : Except Misfit SettingValue :=
  match k with
  | .host | .level | .format => (Tree.string (k.path.map .key) t).map .text
  | .port | .defaultStatus | .override _ => (Tree.word (k.path.map .key) t).map .number

/-- The value of a setting that nothing is written for. There is no override then. -/
def builtIn? : SettingKey → Option SettingValue
  | .host => some (.text "0.0.0.0")
  | .port => some (.number 8080)
  | .level => some (.text "info")
  | .format => some (.text "json")
  | .defaultStatus => some (.number 500)
  | .override _ => none

end SettingKey

def Settings.at? (s : Settings) : SettingKey → Option SettingValue
  | .host => some (.text s.server.host)
  | .port => some (.number s.server.port)
  | .level => some (.text s.logging.level)
  | .format => some (.text s.logging.format)
  | .defaultStatus => some (.number s.errors.defaultStatus)
  | .override c => (s.errors.overrides.code? c).map .number

namespace SettingKey

/-- `v?` is what the tree at the path says, or what is built in where there is none. -/
def Given (k : SettingKey) (t? : Option Tree) (v? : Option SettingValue) : Prop :=
  match t? with
  | none => v? = k.builtIn?
  | some t => ∃ v, k.read t = .ok v ∧ v? = some v

theorem Given.unique {k : SettingKey} {t? : Option Tree} {v? w? : Option SettingValue}
    (h : k.Given t? v?) (h' : k.Given t? w?) : v? = w? := by
  cases t? with
  | none => exact Eq.trans h (Eq.symm h')
  | some t =>
    obtain ⟨v, hv, rfl⟩ := h
    obtain ⟨w, hw, rfl⟩ := h'
    rw [hv] at hw
    cases hw
    rfl

end SettingKey

namespace Tree

variable {α β : Type} {read : SettingReader β} {path : List Step} {t? x? : Option Tree}
  {default x : β}

/-- What was read from a place is what was written there. -/
theorem Yields.of_carries (hread : ReadsScalars read) (hc : Carries [] t? x?)
    (h : Yields read path t? default x) : Yields read path x? default x := by
  rcases hc with rfl | ⟨t, rfl, hscalar⟩
  · exact h
  · exact absurd (hread path t x h) hscalar

/-- The same for a part of a section. -/
theorem Yields.part_of_carries {layout : Section α} (get : α → β) {sec name : String} {a : α}
    (hread : ReadsScalars read)
    (htable : ∀ members origin, layout.read [.key sec] (.table members origin) = .ok a →
      Yields read [.key sec, .key name] (Members.find? name members) (get layout.blank) (get a))
    (hc : Carries [name] t? x?) (h : Yields layout.read [.key sec] t? layout.blank a) :
    Yields read [.key sec, .key name] x? (get layout.blank) (get a) := by
  cases t? with
  | none =>
    obtain rfl : x? = none := hc
    exact congrArg get h
  | some t =>
    obtain ⟨members, origin, rfl, hmember⟩ := hc
    exact Yields.of_carries hread hmember (htable members origin h)

end Tree

namespace SettingKey

variable {k : SettingKey} {x? : Option Tree}

theorem given_of_yields {β : Type} {read : SettingReader β} (wrap : β → SettingValue) {d v : β}
    (h : Yields read (k.path.map .key) x? d v)
    (hread : ∀ t, k.read t = (read (k.path.map .key) t).map wrap)
    (hdefault : k.builtIn? = some (wrap d)) : k.Given x? (some (wrap v)) := by
  cases x? with
  | none =>
    obtain rfl : v = d := h
    exact hdefault.symm
  | some t =>
    have ht : read (k.path.map .key) t = .ok v := h
    exact ⟨wrap v, by rw [hread, ht]; rfl, rfl⟩

theorem given_override {s : ErrorSettings} {t? : Option Tree} {c : Classification}
    (h : Yields ErrorSettings.layout.read [.key "errors"] t? .default s)
    (hplain : ∀ t, t? = some t → Tree.IsPlain ["overrides", c.name] t)
    (hc : Carries ["overrides", c.name] t? x?) :
    (override c).Given x? ((s.overrides.code? c).map .number) := by
  cases t? with
  | none =>
    obtain rfl : x? = none := hc
    obtain rfl : s = .default := h
    rfl
  | some t =>
    obtain ⟨members, origin, rfl, hc⟩ := hc
    obtain ⟨_, hplain⟩ := hplain _ rfl
    have hoverrides := (ErrorSettings.read_table_iff.mp h).2
    cases hmember : Members.find? "overrides" members with
    | none =>
      rw [hmember] at hc hoverrides
      obtain rfl : x? = none := hc
      have hempty : s.overrides = .empty := hoverrides
      rw [hempty]
      rfl
    | some t =>
      rw [hmember] at hc hoverrides
      obtain ⟨members, origin, rfl, hc⟩ := hc
      obtain ⟨hnodup, _⟩ := hplain _ hmember
      have hspec := Overrides.readMembers_spec hoverrides hnodup c
      rcases hc with rfl | ⟨t, ht, hscalar⟩
      · cases hname : Members.find? c.name members with
        | none =>
          rw [hname] at hspec
          have hcode : s.overrides.code? c = none := hspec
          rw [hcode]
          rfl
        | some t =>
          rw [hname] at hspec
          obtain ⟨code, hcode, hset⟩ := hspec
          have hword : Tree.word ((override c).path.map .key) t = .ok code := hcode
          exact ⟨.number code, by rw [read, hword]; rfl, by rw [hset]; rfl⟩
      · rw [ht] at hspec
        obtain ⟨code, hcode, _⟩ := hspec
        exact absurd (Tree.readsScalars_word _ _ _ hcode) hscalar

theorem given_of_carries {t : Tree} {s : Settings} (h : Settings.ofTree t = .ok s)
    (k : SettingKey) (hplain : Tree.IsPlain k.path t) (hc : Carries k.path (some t) x?) :
    k.Given x? (s.at? k) := by
  cases k with
  | host =>
    obtain ⟨members, origin, rfl, hc⟩ := hc
    obtain ⟨hserver, _, _⟩ := Settings.ofTree_table_iff.mp h
    have hhost := Tree.Yields.part_of_carries ServerSettings.host Tree.readsScalars_string
      (fun _ _ hread => (ServerSettings.read_table_iff.mp hread).1) hc hserver
    exact given_of_yields .text hhost (fun _ => rfl) rfl
  | port =>
    obtain ⟨members, origin, rfl, hc⟩ := hc
    obtain ⟨hserver, _, _⟩ := Settings.ofTree_table_iff.mp h
    have hport := Tree.Yields.part_of_carries ServerSettings.port Tree.readsScalars_word
      (fun _ _ hread => (ServerSettings.read_table_iff.mp hread).2) hc hserver
    exact given_of_yields .number hport (fun _ => rfl) rfl
  | level =>
    obtain ⟨members, origin, rfl, hc⟩ := hc
    obtain ⟨_, hlogging, _⟩ := Settings.ofTree_table_iff.mp h
    have hlevel := Tree.Yields.part_of_carries LoggingSettings.level Tree.readsScalars_string
      (fun _ _ hread => (LoggingSettings.read_table_iff.mp hread).1) hc hlogging
    exact given_of_yields .text hlevel (fun _ => rfl) rfl
  | format =>
    obtain ⟨members, origin, rfl, hc⟩ := hc
    obtain ⟨_, hlogging, _⟩ := Settings.ofTree_table_iff.mp h
    have hformat := Tree.Yields.part_of_carries LoggingSettings.format Tree.readsScalars_string
      (fun _ _ hread => (LoggingSettings.read_table_iff.mp hread).2) hc hlogging
    exact given_of_yields .text hformat (fun _ => rfl) rfl
  | defaultStatus =>
    obtain ⟨members, origin, rfl, hc⟩ := hc
    obtain ⟨_, _, herrors⟩ := Settings.ofTree_table_iff.mp h
    have hstatus := Tree.Yields.part_of_carries ErrorSettings.defaultStatus Tree.readsScalars_word
      (fun _ _ hread => (ErrorSettings.read_table_iff.mp hread).1) hc herrors
    exact given_of_yields .number hstatus (fun _ => rfl) rfl
  | override c =>
    obtain ⟨members, origin, rfl, hc⟩ := hc
    obtain ⟨_, _, herrors⟩ := Settings.ofTree_table_iff.mp h
    exact given_override herrors hplain.2 hc

end SettingKey

end ErrorBoundary
