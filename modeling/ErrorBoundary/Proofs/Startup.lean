import ErrorBoundary.Launch.Program
import ErrorBoundary.Proofs.Nesting
import ErrorBoundary.Proofs.StatusTable

/-!
# ErrorBoundary.Proofs.Startup

A server starts step by step: the table of statuses, the address, the network. Each step that fails
ends it with an error of its own, and nothing of the later steps has shown by then.

* `Server.Launches`          — the three ways in which an attempt runs.
* `Server.launches_launch`   — every attempt runs in one of them.
* `LogFilter.ofLevel`        — a filter that is the name of a level, and what it shows.
* `Program.starts_in_order`  — what shows of an attempt, and of the program around it.
-/

namespace ErrorBoundary

/-! ## Building a server -/

namespace Event

def IsOverride (e : Event) : Prop := ∃ c status, e = .overrideApplied c status

/-- Nothing but overrides is announced. -/
def AreOverrides (events : List Event) : Prop := ∀ e ∈ events, e.IsOverride

def isListening : Event → Bool
  | .listening _ => true
  | _ => false

theorem AreOverrides.filter_error {events : List Event} (h : AreOverrides events) :
    events.filter (fun e => e.level = .error) = [] := by
  rw [List.filter_eq_nil_iff]
  intro e he
  obtain ⟨c, status, rfl⟩ := h e he
  nofun

theorem AreOverrides.filter_isListening {events : List Event} (h : AreOverrides events) :
    events.filter isListening = [] := by
  rw [List.filter_eq_nil_iff]
  intro e he
  obtain ⟨c, status, rfl⟩ := h e he
  nofun

end Event

namespace StatusTable

/-- Overrides are announced, and nothing else is. -/
theorem areOverrides_override (t : StatusTable) (order : List (Classification × UInt16)) :
    Event.AreOverrides (t.override order).events := by
  induction order generalizing t with
  | nil => nofun
  | cons x rest ih =>
    obtain ⟨c, code⟩ := x
    intro e he
    rw [override] at he
    split at he
    · cases he
    · rename_i status _
      rcases List.mem_cons.mp he with rfl | he
      · exact ⟨c, status, rfl⟩
      · exact ih (t.insert c status) e he

theorem areOverrides_build (default : UInt16) (order : List (Classification × UInt16)) :
    Event.AreOverrides (build default order).events := by
  unfold build
  split
  · nofun
  · exact areOverrides_override _ order

end StatusTable

namespace Server

open StatusTable (Valid)

variable {s : Settings} {network : Network}

theorem areOverrides_build (s : Settings) : Event.AreOverrides (build s).events :=
  StatusTable.areOverrides_build s.errors.defaultStatus s.errors.overrides.entries

theorem build_of_valid (h : Valid s.errors) : ∃ handler, (build s).value = .ok handler := by
  obtain ⟨t, ht⟩ := StatusTable.build_ok (.refl _) h
  refine ⟨Server.handler ⟨s, ⟨t⟩⟩ [], ?_⟩
  have htable : s.errors.table.value = .ok t := ht
  simp only [build, ofSettings, Logged.map, htable]

/-- Settings that name a bad status do not build a server. -/
theorem build_of_not_valid (h : ¬ Valid s.errors) :
    ∃ err : StartupError, err.kind = .configuration ∧ (build s).value = .error err := by
  cases ht : s.errors.table.value with
  | ok t => exact absurd ((StatusTable.build_ok_iff (.refl _)).mp ⟨t, ht⟩) h
  | error e =>
    refine ⟨.configuration e.message, rfl, ?_⟩
    simp only [build, ofSettings, Logged.map, ht]

/-! ## Launching it -/

/-- An attempt ends with the first step that fails: the table, or the network. -/
inductive Launches (network : Network) (s : Settings) : Attempt → Prop where
  | invalid {before : List Event} {err : StartupError} :
      ¬ Valid s.errors → Event.AreOverrides before → err.kind = .configuration →
      (build s).value = .error err →
      Launches network s ⟨before.map .logged, .error err⟩
  | refused {before : List Event} {e : InputOutputError} :
      Valid s.errors → Event.AreOverrides before → network s.server.address = .error e →
      Launches network s ⟨before.map .logged ++ [.asked s.server.address,
        .logged (.bindFailed s.server.address e.text)], .error (.ofInputOutput e)⟩
  | listening {before : List Event} {handler : Handler} :
      Valid s.errors → Event.AreOverrides before → network s.server.address = .ok () →
      (build s).value = .ok handler →
      Launches network s ⟨before.map .logged ++ [.asked s.server.address,
        .logged (.listening s.server.address)], .ok handler⟩

theorem launches_launch (network : Network) (s : Settings) :
    Launches network s (launch network s) := by
  have hbefore := areOverrides_build s
  unfold launch
  by_cases hv : Valid s.errors
  · obtain ⟨handler, hbuild⟩ := build_of_valid hv
    generalize hb : build s = b at hbefore hbuild
    obtain ⟨before, _⟩ := b
    cases hbuild
    cases hnet : network s.server.address with
    | error e =>
      simp only [hnet]
      exact .refused hv hbefore hnet
    | ok u =>
      simp only [hnet]
      exact .listening hv hbefore hnet (by rw [hb])
  · obtain ⟨err, hkind, hbuild⟩ := build_of_not_valid hv
    generalize hb : build s = b at hbefore hbuild
    obtain ⟨before, _⟩ := b
    cases hbuild
    exact .invalid hv hbefore hkind (by rw [hb])

end Server

namespace Attempt

@[simp] theorem events_append (before : List Event) (deeds : List Deed)
    (outcome : Except StartupError Handler) :
    (⟨before.map .logged ++ deeds, outcome⟩ : Attempt).events =
      before ++ (⟨deeds, outcome⟩ : Attempt).events := by
  simp [events, List.filterMap_append, List.filterMap_map]

@[simp] theorem asked_append (before : List Event) (deeds : List Deed)
    (outcome : Except StartupError Handler) :
    (⟨before.map .logged ++ deeds, outcome⟩ : Attempt).asked =
      (⟨deeds, outcome⟩ : Attempt).asked := by
  simp [asked, List.filterMap_append, List.filterMap_map]

/-- An attempt that did nothing but log. -/
theorem of_logged (before : List Event) (outcome : Except StartupError Handler) :
    (⟨before.map .logged, outcome⟩ : Attempt).events = before ∧
      (⟨before.map .logged, outcome⟩ : Attempt).asked = [] := by
  have hevents := events_append before [] outcome
  have hasked := asked_append before [] outcome
  rw [List.append_nil] at hevents hasked
  exact ⟨hevents.trans (List.append_nil before), hasked⟩

end Attempt

namespace Server
namespace Launches

open StatusTable (Valid)

variable {s : Settings} {network : Network} {a : Attempt} {e : InputOutputError}

/-- Nothing was asked for, and nothing but overrides was announced. -/
theorem of_not_valid (h : Launches network s a) (hv : ¬ Valid s.errors) :
    ∃ err : StartupError, err.kind = .configuration ∧ (build s).value = .error err ∧
      a.outcome = .error err ∧ a.asked = [] ∧ Event.AreOverrides a.events := by
  cases h with
  | @invalid before err _ hbefore hkind hbuild =>
    obtain ⟨hevents, hasked⟩ := Attempt.of_logged before (.error err)
    refine ⟨err, hkind, hbuild, rfl, hasked, ?_⟩
    rwa [hevents]
  | refused hvalid => exact absurd hvalid hv
  | listening hvalid => exact absurd hvalid hv

theorem asked_of_valid (h : Launches network s a) (hv : Valid s.errors) :
    a.asked = [s.server.address] := by
  cases h with
  | invalid hinvalid => exact absurd hv hinvalid
  | refused => rw [Attempt.asked_append]; rfl
  | listening => rw [Attempt.asked_append]; rfl

theorem of_refused (h : Launches network s a) (hv : Valid s.errors)
    (hnet : network s.server.address = .error e) :
    a.outcome = .error (.ofInputOutput e) ∧ ∃ before, Event.AreOverrides before ∧
      a.deeds = before.map .logged ++ [.asked s.server.address,
        .logged (.bindFailed s.server.address e.text)] := by
  cases h with
  | invalid hinvalid => exact absurd hv hinvalid
  | @refused before e' _ hbefore hnet' =>
    rw [hnet'] at hnet
    cases hnet
    exact ⟨rfl, before, hbefore, rfl⟩
  | listening _ _ hnet' =>
    rw [hnet'] at hnet
    cases hnet

/-- The failure of the network is the one error that is written. -/
theorem errors_of_refused (h : Launches network s a) (hv : Valid s.errors)
    (hnet : network s.server.address = .error e) :
    a.events.filter (fun e => e.level = .error) = [.bindFailed s.server.address e.text] := by
  obtain ⟨deeds, outcome⟩ := a
  obtain ⟨_, before, hbefore, rfl⟩ := h.of_refused hv hnet
  rw [Attempt.events_append, List.filter_append, hbefore.filter_error]
  rfl

theorem of_listening (h : Launches network s a) (hv : Valid s.errors)
    (hnet : network s.server.address = .ok ()) :
    (∃ before, Event.AreOverrides before ∧
      a.deeds = before.map .logged ++ [.asked s.server.address,
        .logged (.listening s.server.address)]) ∧
    ∃ handler, (build s).value = .ok handler ∧ a.outcome = .ok handler := by
  cases h with
  | invalid hinvalid => exact absurd hv hinvalid
  | refused _ _ hnet' =>
    rw [hnet'] at hnet
    cases hnet
  | @listening before handler _ hbefore _ hbuild =>
    exact ⟨⟨before, hbefore, rfl⟩, handler, hbuild, rfl⟩

/-- Up to its end an attempt says once that it listens, if both steps before went well, and else
never. -/
theorem filter_isListening (h : Launches network s a) :
    a.untilStopped.filter Event.isListening = [] ∨
      (a.untilStopped.filter Event.isListening = [.listening s.server.address] ∧
        Valid s.errors ∧ network s.server.address = .ok ()) := by
  cases h with
  | @invalid before err _ hbefore =>
    left
    rw [Attempt.untilStopped, (Attempt.of_logged before _).1, List.filter_append,
      hbefore.filter_isListening]
    rfl
  | @refused before e _ hbefore =>
    left
    rw [Attempt.untilStopped, Attempt.events_append, List.filter_append, List.filter_append,
      hbefore.filter_isListening]
    rfl
  | @listening before handler hv hbefore hnet =>
    right
    refine ⟨?_, hv, hnet⟩
    rw [Attempt.untilStopped, Attempt.events_append, List.filter_append, List.filter_append,
      hbefore.filter_isListening]
    rfl

end Launches
end Server

/-! ## Levels as filters -/

namespace LogFilter

/-- The filter that lets everything up to a level through. -/
def ofLevel (level : Level) : LogFilter :=
  ⟨[{ Directive.blank with verbosity := level.verbosity }]⟩

/-- The name of a level, as it is written in settings and in the environment. -/
def word (level : Level) : String := lowerAscii level.name

theorem ofText?_word (level : Level) : ofText? (word level) = some (ofLevel level) := by
  cases level <;> rfl

theorem lenient_word (level : Level) : lenient (word level) = ofLevel level := by
  cases level <;> rfl

theorem remarks_word (level : Level) : remarks (word level) = [] := by
  cases level <;> rfl

theorem shows_ofLevel (level : Level) (e : Event) :
    (ofLevel level).shows e = decide (e.level.verbosity ≤ level.verbosity) := by
  simp [shows, decisive?, ofLevel, Directive.covers, Directive.isForEvents, Directive.blank,
    heavier]

/-- Errors show at every level. -/
theorem shows_of_error (level : Level) {e : Event} (h : e.level = .error) :
    (ofLevel level).shows e = true := by
  rw [shows_ofLevel, h]
  cases level <;> rfl

end LogFilter

namespace Program

open StatusTable (Valid)
open Server (Launches build launch launches_launch)

variable {s : Settings} {network : Network} {wording : ConfigFile → String} {files : Directory}
  {vars : Environment}

theorem run_of_load_error {e : LoadError}
    (h : Settings.load files vars (deployment vars) = .error e) :
    run wording files vars network =
      ⟨["Failed to load configuration: CONFIGURATION: " ++ e.message wording], none, some 1⟩ := by
  have htext : s!"Failed to load configuration: {(StartupError.ofLoad wording e).text}" =
      "Failed to load configuration: CONFIGURATION: " ++ e.message wording := by
    apply String.toList_inj.mp
    simp [StartupError.text, StartupError.ofLoad, StartupError.configuration, StartupError.new,
      StartupErrorKind.text, toString]
  rw [run, h]
  simp only [htext]

/-- Of a start that failed the error is the last thing in the log. -/
theorem run_of_launch_error {err : StartupError}
    (h : Settings.load files vars (deployment vars) = .ok s)
    (herr : (launch network s).outcome = .error err) :
    run wording files vars network =
      ⟨(logFilter vars s.logging).2, some ⟨.ofSetting s.logging.format,
        (Event.starting (deployment vars) :: (launch network s).events ++
          [Event.serverFailed err.text]).filter (logFilter vars s.logging).1.shows, []⟩,
        some 1⟩ := by
  rw [run, h]
  simp only [events, exitCode, Attempt.stopEvents, herr, List.filter_nil]

/-- The level of the log is this one: the environment names it, or else the settings do. -/
def LogsAt (level : Level) (vars : Environment) (s : LoggingSettings) : Prop :=
  vars.get? filterVariable = some (LogFilter.word level) ∨
    (vars.get? filterVariable = none ∧ s.level = LogFilter.word level)

theorem logFilter_of_logsAt {level : Level} {s : LoggingSettings} (h : LogsAt level vars s) :
    logFilter vars s = (.ofLevel level, []) := by
  rcases h with hvar | ⟨hvar, hlevel⟩
  · simp only [logFilter, hvar, Option.bind_some, LogFilter.ofText?_word]
  · simp only [logFilter, hvar, Option.bind_none, hlevel, LogFilter.lenient_word,
      LogFilter.remarks_word]

/-- Settings that name a bad status end a start before the network is touched, with the error that
building the server gives, and nothing is said of an address. Otherwise one address is asked for,
host and port. If the network refuses it, that is the one error in the log, with the address, and
the start ends with an error of the other kind, which shows the reason and goes on with its causes.
Only when both steps went well is it said, once, that the server listens. A program that has no
settings exits with a failure before it has a log or a network, and says what is wrong with them;
one that does not start exits with a failure after it has told the error, which shows whatever the
level of the log. -/
theorem starts_in_order (s : Settings) (network : Network) :
    let address := s.server.host ++ ":" ++ toString s.server.port.toNat
    let a := launch network s
    (¬ Valid s.errors → ∃ err : StartupError, err.kind = .configuration ∧
      (build s).value = .error err ∧ a.outcome = .error err ∧ a.asked = [] ∧
      Event.AreOverrides a.events) ∧
    (Valid s.errors → (∃ handler, (build s).value = .ok handler) ∧ a.asked = [address]) ∧
    (Valid s.errors → ∀ e, network address = .error e →
      (∃ before, Event.AreOverrides before ∧
        a.deeds = before.map .logged ++ [.asked address, .logged (.bindFailed address e.text)]) ∧
      a.events.filter (fun e => e.level = .error) = [.bindFailed address e.text] ∧
      (Event.bindFailed address e.text).fields = [("addr", .string address)] ∧
      ∃ err : StartupError, a.outcome = .error err ∧ err.kind = .inputOutput ∧
        err.text = "IO: I/O error: " ++ e.text ∧ err.cause.texts = err.text :: e.cause.texts) ∧
    (Valid s.errors → network address = .ok () →
      (∃ before, Event.AreOverrides before ∧
        a.deeds = before.map .logged ++ [.asked address, .logged (.listening address)]) ∧
      ∃ handler, (build s).value = .ok handler ∧ a.outcome = .ok handler) ∧
    (∀ e ∈ a.untilStopped, e.isListening = true → e = .listening address ∧
      Valid s.errors ∧ network address = .ok ()) ∧
    a.untilStopped.countP Event.isListening ≤ 1 ∧
    (∀ wording files vars e, Settings.load files vars (deployment vars) = .error e →
      run wording files vars network =
        ⟨["Failed to load configuration: CONFIGURATION: " ++ e.message wording], none, some 1⟩) ∧
    (∀ wording files vars err, Settings.load files vars (deployment vars) = .ok s →
      a.outcome = .error err →
      (run wording files vars network).exitCode = some 1 ∧
      ∃ log, (run wording files vars network).log = some log ∧ log.lastEvents = [] ∧
        log.events = (Event.starting (deployment vars) :: a.events ++
          [Event.serverFailed err.text]).filter (logFilter vars s.logging).1.shows ∧
        ∀ level, LogsAt level vars s.logging →
          (run wording files vars network).standardError = [] ∧
          log.events = (Event.starting (deployment vars) :: a.events ++
            [Event.serverFailed err.text]).filter
              (fun e => e.level.verbosity ≤ level.verbosity) ∧
          Event.serverFailed err.text ∈ log.events ∧
          ∀ e ∈ a.events, e.level = .error → e ∈ log.events) := by
  intro address a
  have haddress : s.server.address = address := rfl
  have hlaunch : Launches network s a := launches_launch network s
  refine ⟨hlaunch.of_not_valid, ?_, ?_, ?_, ?_, ?_, ?_, ?_⟩
  · intro hv
    exact ⟨Server.build_of_valid hv, hlaunch.asked_of_valid hv⟩
  · intro hv e hnet
    obtain ⟨houtcome, hdeeds⟩ := hlaunch.of_refused hv hnet
    exact ⟨hdeeds, hlaunch.errors_of_refused hv hnet, rfl, _, houtcome, rfl,
      StartupError.text_ofInputOutput e, StartupError.texts_ofInputOutput e⟩
  · intro hv hnet
    exact hlaunch.of_listening hv hnet
  · intro e he hlisten
    have hmem : e ∈ a.untilStopped.filter Event.isListening := List.mem_filter.mpr ⟨he, hlisten⟩
    rcases hlaunch.filter_isListening with hnone | ⟨hone, hv, hnet⟩
    · rw [hnone] at hmem
      cases hmem
    · rw [hone] at hmem
      exact ⟨List.mem_singleton.mp hmem, hv, hnet⟩
  · rw [List.countP_eq_length_filter]
    rcases hlaunch.filter_isListening with hnone | ⟨hone, _⟩
    · simp [hnone]
    · simp [hone]
  · intro wording files vars e hload
    rw [run_of_load_error hload]
  · intro wording files vars err hload herr
    rw [run_of_launch_error hload herr]
    refine ⟨rfl, _, rfl, rfl, rfl, fun level hlevel => ?_⟩
    rw [logFilter_of_logsAt hlevel]
    have herrors : ∀ e ∈ Event.starting (deployment vars) :: a.events ++
        [Event.serverFailed err.text], e.level = .error →
        e ∈ (Event.starting (deployment vars) :: a.events ++
          [Event.serverFailed err.text]).filter (LogFilter.ofLevel level).shows :=
      fun e he herror => List.mem_filter.mpr ⟨he, LogFilter.shows_of_error level herror⟩
    refine ⟨rfl, ?_, herrors _ (by simp) rfl, fun e he herror => herrors e (by simp [he]) herror⟩
    exact List.filter_congr fun e _ => LogFilter.shows_ofLevel level e

/-- The built-in settings, and a network in which the address is taken. The address is asked for,
and the log, which shows what is worth knowing, ends with both errors. -/
theorem starts_in_order_refused :
    let network : Network := fun _ => .error (.system 98)
    let reason := "Address already in use (os error 98)"
    ∀ wording, ∃ log, (run wording [] [] network).log = some log ∧
      (launch network .default).asked = ["0.0.0.0:8080"] ∧
      (run wording [] [] network).exitCode = some 1 ∧
      log.events = [.starting "development", .bindFailed "0.0.0.0:8080" reason,
        .serverFailed ("IO: I/O error: " ++ reason)] := by
  intro network reason wording
  have hload : Settings.load [] [] (deployment []) = .ok .default := rfl
  have hvalid : Valid Settings.default.errors := ⟨by decide, nofun⟩
  obtain ⟨_, hasked, hrefused, _, _, _, _, hrun⟩ := starts_in_order .default network
  obtain ⟨_, _, _, err, houtcome, _, htext, _⟩ := hrefused hvalid (.system 98) rfl
  obtain ⟨hexit, log, hlog, _, _, hlevel⟩ := hrun wording [] [] err hload houtcome
  obtain ⟨_, hevents, _⟩ := hlevel .info (.inr ⟨rfl, rfl⟩)
  refine ⟨log, hlog, (hasked hvalid).2, hexit, ?_⟩
  rw [hevents, htext]
  rfl

end Program
end ErrorBoundary
