import ErrorBoundary.Proofs.ErrorSettings
import ErrorBoundary.Proofs.Partial

/-!
# ErrorBoundary.Proofs.Settings

Settings of which a part is written. `Settings.decode_overlays`: a value decodes to the default
with what it writes put over it, field by field in each section, in either syntax and with any
other keys beside; and it decodes only if it writes a part.

* `ServerSettings.Partial` and likewise — any fields of a section, or of all settings.
* `Partial.writtenOver`                 — settings with a part written over them.
* `ServerSettings.Writes` and likewise  — a value writes a part and nothing else that counts.
-/

namespace ErrorBoundary

/-! ## Scalars and overrides -/

def Json.WritesString (v : Json) (s : String) : Prop := v = .string s

def Json.WritesWord (v : Json) (n : UInt16) : Prop := v = .nat n.toNat

theorem Decode.reads_string : Decoder.Reads string Json.WritesString id := by
  intro form v s _
  cases v with
  | string t => simp [Draft.ofJson, string, Json.WritesString]
  | _ => simp [Draft.ofJson, string, Json.WritesString]

theorem Decode.reads_word : Decoder.Reads word Json.WritesWord id := by
  intro form v n _
  simp [word_eq_ok_iff, Json.WritesWord]

namespace Overrides

def members (o : Overrides) : List (String × Json) :=
  o.entries.map fun e => (e.1.name, .nat e.2.toNat)

/-- An object of the entries, in any order. -/
def Writes (v : Json) (o : Overrides) : Prop := ∃ ms, v = .object ms ∧ ms.Perm o.members

theorem mem_members {o : Overrides} {c : Classification} {code : UInt16} :
    (c.name, Json.nat code.toNat) ∈ o.members ↔ o.code? c = some code := by
  rw [← mem_entries, members, List.mem_map]
  constructor
  · rintro ⟨⟨d, n⟩, hmem, heq⟩
    rw [Prod.mk.injEq, Json.nat_inj, UInt16.toNat_inj] at heq
    obtain ⟨hname, rfl⟩ := heq
    rwa [← Classification.name_injective hname]
  · intro h
    exact ⟨_, h, rfl⟩

theorem isEntry_of_mem_members {o : Overrides} {m : String × Json} (h : m ∈ o.members) :
    IsEntry m := by
  obtain ⟨⟨c, code⟩, _, rfl⟩ := List.mem_map.mp h
  exact ⟨c, code, rfl, rfl⟩

theorem nodup_names (o : Overrides) : (o.members.map Prod.fst).Nodup := by
  have hnames : o.members.map Prod.fst = (o.entries.map Prod.fst).map Classification.name := by
    simp [members]
  rw [hnames]
  exact o.nodup_keys.map fun _ _ h => Classification.name_injective h

theorem reads : Decoder.Reads decode Writes id := by
  intro form v o hv
  constructor
  · intro h
    obtain ⟨ms, rfl, hentries, hcode⟩ := decode_spec hv h
    refine ⟨o, ⟨ms, rfl, ?_⟩, rfl⟩
    -- no name stands twice on either side, so it is enough to compare what stands there
    rw [List.perm_ext_iff_of_nodup (hv.1.of_map _) (o.nodup_names.of_map _)]
    intro m
    constructor
    · intro hm
      obtain ⟨c, code, hc, hn⟩ := hentries m hm
      obtain rfl : m = (c.name, Json.nat code.toNat) := Prod.ext hc.symm hn
      exact mem_members.mpr ((hcode c code).mpr hm)
    · intro hm
      obtain ⟨c, code, hc, hn⟩ := isEntry_of_mem_members hm
      obtain rfl : m = (c.name, Json.nat code.toNat) := Prod.ext hc.symm hn
      exact (hcode c code).mp (mem_members.mp hm)
  · rintro ⟨written, ⟨ms, rfl, hperm⟩, rfl⟩
    have hentries : ∀ m ∈ ms, IsEntry m := fun m hm =>
      isEntry_of_mem_members (hperm.mem_iff.mp hm)
    obtain ⟨o, ho⟩ : ∃ o, decode form (.ofJson (.object ms)) = .ok o := decode_ok hentries
    obtain ⟨_, heq, _, hcode⟩ := decode_spec hv ho
    cases heq
    have hsame : o = written := ext_code fun c code => by rw [hcode, hperm.mem_iff, mem_members]
    rw [ho, hsame]
    rfl

end Overrides

/-! ## Server -/

namespace ServerSettings

def names : List String := ["host", "port"]

structure Partial where
  host : Option String
  port : Option UInt16

def Partial.writtenOver (p : Partial) (s : ServerSettings) : ServerSettings :=
  ⟨p.host.getD s.host, p.port.getD s.port⟩

/-- An object, in which any other key may stand too, or an array of the first fields. -/
structure Writes (v : Json) (p : Partial) : Prop where
  isRecord : v.IsRecord names
  host : Option.Rel Json.WritesString (v.part? names "host") p.host
  port : Option.Rel Json.WritesWord (v.part? names "port") p.port

theorem sets_hostField : hostField.Sets Decode.string fun h s => { s with host := h } := rfl

theorem sets_portField : portField.Sets Decode.word fun n s => { s with port := n } := rfl

theorem isLoose_record : record.IsLoose := by
  refine Record.isLoose_of_pairwise (by decide) (by simp [record, hostField, portField]) rfl ?_
  exact List.pairwise_pair.mpr (sets_hostField.apart sets_portField fun _ _ _ => rfl)

theorem reads : Decoder.Reads decode Writes (Partial.writtenOver · default) := by
  intro form v s hv
  rw [decode, Record.decode_pair_iff isLoose_record rfl sets_hostField sets_portField
    Decode.reads_string Decode.reads_word defaultHost defaultPort rfl (fun _ => rfl) hv]
  constructor
  · rintro ⟨hrecord, host, port, hhost, hport, rfl⟩
    refine ⟨⟨host, port⟩, ⟨hrecord, hhost, hport⟩, ?_⟩
    cases host <;> cases port <;> rfl
  · rintro ⟨⟨host, port⟩, ⟨hrecord, hhost, hport⟩, rfl⟩
    refine ⟨hrecord, host, port, hhost, hport, ?_⟩
    cases host <;> cases port <;> rfl

end ServerSettings

/-! ## Logging -/

namespace LoggingSettings

def names : List String := ["level", "format"]

structure Partial where
  level : Option String
  format : Option String

def Partial.writtenOver (p : Partial) (s : LoggingSettings) : LoggingSettings :=
  ⟨p.level.getD s.level, p.format.getD s.format⟩

structure Writes (v : Json) (p : Partial) : Prop where
  isRecord : v.IsRecord names
  level : Option.Rel Json.WritesString (v.part? names "level") p.level
  format : Option.Rel Json.WritesString (v.part? names "format") p.format

theorem sets_levelField : levelField.Sets Decode.string fun l s => { s with level := l } := rfl

theorem sets_formatField : formatField.Sets Decode.string fun f s => { s with format := f } := rfl

theorem isLoose_record : record.IsLoose := by
  refine Record.isLoose_of_pairwise (by decide) (by simp [record, levelField, formatField]) rfl ?_
  exact List.pairwise_pair.mpr (sets_levelField.apart sets_formatField fun _ _ _ => rfl)

theorem reads : Decoder.Reads decode Writes (Partial.writtenOver · default) := by
  intro form v s hv
  rw [decode, Record.decode_pair_iff isLoose_record rfl sets_levelField sets_formatField
    Decode.reads_string Decode.reads_string defaultLevel defaultFormat rfl (fun _ => rfl) hv]
  constructor
  · rintro ⟨hrecord, level, format, hlevel, hformat, rfl⟩
    refine ⟨⟨level, format⟩, ⟨hrecord, hlevel, hformat⟩, ?_⟩
    cases level <;> cases format <;> rfl
  · rintro ⟨⟨level, format⟩, ⟨hrecord, hlevel, hformat⟩, rfl⟩
    refine ⟨hrecord, level, format, hlevel, hformat, ?_⟩
    cases level <;> cases format <;> rfl

end LoggingSettings

/-! ## Errors -/

namespace ErrorSettings

def names : List String := ["default_status", "overrides"]

/-- Overrides are written all together: they are a field, not a record of their own. -/
structure Partial where
  defaultStatus : Option UInt16
  overrides : Option Overrides

def Partial.writtenOver (p : Partial) (s : ErrorSettings) : ErrorSettings :=
  ⟨p.defaultStatus.getD s.defaultStatus, p.overrides.getD s.overrides⟩

structure Writes (v : Json) (p : Partial) : Prop where
  isRecord : v.IsRecord names
  defaultStatus : Option.Rel Json.WritesWord (v.part? names "default_status") p.defaultStatus
  overrides : Option.Rel Overrides.Writes (v.part? names "overrides") p.overrides

theorem reads : Decoder.Reads decode Writes (Partial.writtenOver · default) := by
  intro form v s hv
  rw [decode, Record.decode_pair_iff isLoose_record rfl sets_defaultStatusField sets_overridesField
    Decode.reads_word Overrides.reads standardStatus .empty rfl (fun _ => rfl) hv]
  constructor
  · rintro ⟨hrecord, status, overrides, hstatus, hoverrides, rfl⟩
    refine ⟨⟨status, overrides⟩, ⟨hrecord, hstatus, hoverrides⟩, ?_⟩
    cases status <;> cases overrides <;> rfl
  · rintro ⟨⟨status, overrides⟩, ⟨hrecord, hstatus, hoverrides⟩, rfl⟩
    refine ⟨hrecord, status, overrides, hstatus, hoverrides, ?_⟩
    cases status <;> cases overrides <;> rfl

end ErrorSettings

/-! ## All settings -/

namespace Settings

open Record (overlay_cons_part_iff)

def names : List String := ["server", "logging", "errors"]

structure Partial where
  server : Option ServerSettings.Partial
  logging : Option LoggingSettings.Partial
  errors : Option ErrorSettings.Partial

def Partial.writtenOver (p : Partial) (s : Settings) : Settings where
  server := p.server.elim s.server (·.writtenOver s.server)
  logging := p.logging.elim s.logging (·.writtenOver s.logging)
  errors := p.errors.elim s.errors (·.writtenOver s.errors)

structure Writes (v : Json) (p : Partial) : Prop where
  isRecord : v.IsRecord names
  server : Option.Rel ServerSettings.Writes (v.part? names "server") p.server
  logging : Option.Rel LoggingSettings.Writes (v.part? names "logging") p.logging
  errors : Option.Rel ErrorSettings.Writes (v.part? names "errors") p.errors

theorem sets_serverField :
    serverField.Sets ServerSettings.decode fun x s => { s with server := x } := rfl

theorem sets_loggingField :
    loggingField.Sets LoggingSettings.decode fun x s => { s with logging := x } := rfl

theorem sets_errorsField :
    errorsField.Sets ErrorSettings.decode fun x s => { s with errors := x } := rfl

theorem isLoose_record : record.IsLoose := by
  refine Record.isLoose_of_pairwise (by decide)
    (by simp [record, serverField, loggingField, errorsField]) rfl ?_
  simp only [record, List.pairwise_cons, List.mem_cons, List.not_mem_nil, or_false,
    forall_eq_or_imp, forall_eq, false_imp_iff, implies_true, List.Pairwise.nil, and_true]
  exact ⟨⟨sets_serverField.apart sets_loggingField fun _ _ _ => rfl,
    sets_serverField.apart sets_errorsField fun _ _ _ => rfl⟩,
    sets_loggingField.apart sets_errorsField fun _ _ _ => rfl⟩

theorem reads : Decoder.Reads decode Writes (Partial.writtenOver · default) := by
  intro form v s hv
  have hunique : ∀ name w, v.part? names name = some w → w.IsUnique :=
    fun _ _ h => Json.isUnique_of_part? hv h
  have hnames : record.names = names := rfl
  rw [decode, Record.decode_iff isLoose_record hv, hnames]
  constructor
  · -- the sections are written one after the other, each on what the ones before it left
    rintro ⟨hrecord, h⟩
    obtain ⟨server, hserver, h⟩ := (overlay_cons_part_iff sets_serverField
      ServerSettings.reads (hunique _) .default rfl).mp h
    obtain ⟨logging, hlogging, h⟩ := (overlay_cons_part_iff sets_loggingField
      LoggingSettings.reads (hunique _) .default rfl).mp h
    obtain ⟨errors, herrors, h⟩ := (overlay_cons_part_iff sets_errorsField
      ErrorSettings.reads (hunique _) .default rfl).mp h
    cases h
    exact ⟨⟨server, logging, errors⟩, ⟨hrecord, hserver, hlogging, herrors⟩, rfl⟩
  · rintro ⟨p, ⟨hrecord, hserver, hlogging, herrors⟩, rfl⟩
    refine ⟨hrecord, (overlay_cons_part_iff sets_serverField
      ServerSettings.reads (hunique _) .default rfl).mpr ⟨_, hserver, ?_⟩⟩
    refine (overlay_cons_part_iff sets_loggingField
      LoggingSettings.reads (hunique _) .default rfl).mpr ⟨_, hlogging, ?_⟩
    exact (overlay_cons_part_iff sets_errorsField
      ErrorSettings.reads (hunique _) .default rfl).mpr ⟨_, herrors, rfl⟩

/-- A part of the settings that is written stands over the default, whatever else is written, in
either syntax and whether the value is decoded from a tree or while its text is read. A section of
which nothing is written, in any of the ways to do so, is its default. A value names no key twice
in one object. -/
theorem decode_overlays (form : Form) {v : Json} (hv : v.IsUnique) :
    (∀ p, Writes v p → decode form (.ofJson v) = .ok (p.writtenOver default)) ∧
    (∀ s, decode form (.ofJson v) = .ok s →
      (∃ p, Writes v p ∧ p.writtenOver default = s) ∧
      (Json.SaysNothing (v.part? names "server") → s.server = .default) ∧
      (Json.SaysNothing (v.part? names "logging") → s.logging = .default) ∧
      (Json.SaysNothing (v.part? names "errors") → s.errors = .default)) ∧
    decode.ReadsEitherWay names default form ∧
    ServerSettings.decode.ReadsEitherWay ServerSettings.names .default form ∧
    LoggingSettings.decode.ReadsEitherWay LoggingSettings.names .default form ∧
    ErrorSettings.decode.ReadsEitherWay ErrorSettings.names .default form := by
  have hserver : ServerSettings.decode.ReadsEitherWay ServerSettings.names .default form :=
    Record.readsEitherWay ServerSettings.isLoose_record form
  have hlogging : LoggingSettings.decode.ReadsEitherWay LoggingSettings.names .default form :=
    Record.readsEitherWay LoggingSettings.isLoose_record form
  have herrors : ErrorSettings.decode.ReadsEitherWay ErrorSettings.names .default form :=
    Record.readsEitherWay ErrorSettings.isLoose_record form
  refine ⟨?_, ?_, Record.readsEitherWay isLoose_record form, hserver, hlogging, herrors⟩
  · intro p hp
    exact (reads form v _ hv).mpr ⟨p, hp, rfl⟩
  · intro s hs
    obtain ⟨p, hp, rfl⟩ := (reads form v s hv).mp hs
    refine ⟨⟨p, hp, rfl⟩, ?_, ?_, ?_⟩
    · exact hserver.of_saysNothing ServerSettings.reads hp.server
    · exact hlogging.of_saysNothing LoggingSettings.reads hp.logging
    · exact herrors.of_saysNothing ErrorSettings.reads hp.errors

/-- Sections in both syntaxes, between other keys. -/
theorem decode_overlays_mixed :
    let v : Json := .object [("colour", .array [.null]), ("errors", .object [("overrides",
      .object [("entity_locked", .nat 409)]), ("verbose", .bool true)]),
      ("server", .array [.string "::1"]), ("logging", .array [])]
    v.IsUnique ∧ decode .text (.ofJson v) = .ok ⟨⟨"::1", ServerSettings.defaultPort⟩, .default,
      ⟨ErrorSettings.standardStatus, Overrides.empty.insert .entityLocked 409⟩⟩ := by
  intro v
  have hv : v.IsUnique := by
    simp [v, Json.IsUnique, Json.HoldUnique, Json.AreUnique, Json.nat]
  have hserver : ServerSettings.Writes (.array [.string "::1"]) ⟨some "::1", none⟩ :=
    ⟨Nat.le_succ _, .some rfl, .none⟩
  have hlogging : LoggingSettings.Writes (.array []) ⟨none, none⟩ :=
    ⟨Nat.zero_le _, .none, .none⟩
  have herrors : ErrorSettings.Writes (.object [("overrides",
      .object [("entity_locked", .nat 409)]), ("verbose", .bool true)])
      ⟨none, some (Overrides.empty.insert .entityLocked 409)⟩ :=
    ⟨trivial, .none, .some ⟨_, rfl, .refl _⟩⟩
  exact ⟨hv, (decode_overlays .text hv).1
    ⟨some ⟨some "::1", none⟩, some ⟨none, none⟩,
      some ⟨none, some (Overrides.empty.insert .entityLocked 409)⟩⟩
    ⟨trivial, .some hserver, .some hlogging, .some herrors⟩⟩

end Settings
end ErrorBoundary
