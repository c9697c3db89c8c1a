import FormatService.Proofs.Execution.Start
import FormatService.Proofs.Settings.Lookup

/-!
# Runs with settings that cannot be used

A run that needs settings and cannot have them ends in a failure that names the settings file, and
all that was asked of the host is to read and to note something. This holds but for a number in
the settings file that is beyond every value: then the run does not fail, it stops at once.
-/

set_option autoImplicit false

namespace FormatService

open Host (Asked)

def CommandLine.Task.needsSettings {Input : Type} : CommandLine.Task Input → Bool
  | .format _ _ _ | .formatInput _ _ _ _ | .listTools _ => true
  | .showVersion | .show _ => false

namespace Execution

open CommandLine (Invocation)

variable {σ : Type} [Host σ]

/-- A run that has settings and goes on to an end, or that fails for want of them before anything
is done. -/
inductive Orderly (asked : Option Path) (h : σ) : Ending × σ → Prop
  | loaded {settings : Settings} {result : Ending × σ}
    (found : (Settings.lookup asked h).1 = .ok settings) (ended : result.1 ≠ .overflow) :
    Orderly asked h result
  | refused {failure : Failure} {h' : σ} (names : failure.Names (Settings.file asked h))
    (located : ∀ text, Host.present (Settings.file asked h) h = true →
      Settings.answer (Settings.file asked h) h = .ok text →
      ("Error loading config at " ++ (Settings.file asked h).text).toList <+:
        failure.message.toList)
    (prepared : Asked (fun e => e.isRead || e.isNote) h h') : Orderly asked h (.failed failure, h')

theorem without_eq_failed {fault : Settings.LookupFault}
    (other : ∀ path, fault ≠ .invalid path .numberTooLarge) :
    without fault = .failed fault.failure := by
  cases fault with
  | invalid path fault =>
    cases fault with
    | numberTooLarge => exact absurd rfl (other path)
    | _ => rfl
  | _ => rfl

theorem format_ne_overflow (files : List String) (c : Coordinator σ) :
    (format files c).1 ≠ .overflow := by
  obtain ⟨failures, ended⟩ : ∃ failures, (format files c).1 = verdict failures := ⟨_, rfl⟩
  rw [ended, verdict]
  split <;> nofun

theorem formatInput_ne_overflow (file : String) (text : Text) (c : Coordinator σ) :
    (formatInput file text c).1 ≠ .overflow := by
  simp only [formatInput]
  split <;> nofun

theorem listTools_ne_overflow (c : Coordinator σ) : (listTools c).1 ≠ .overflow := by
  rw [listTools]
  split
  · nofun
  · split <;> nofun

section

variable {i : Invocation Text} (needs : i.task.needsSettings = true)
include needs

theorem run_eq_withCoordinator : ∃ tool projects, ∃ task : Coordinator σ → Ending × σ,
    (∀ h, run i h = withCoordinator i tool projects task h) ∧ ∀ c, (task c).1 ≠ .overflow := by
  obtain ⟨task, level, settings⟩ := i
  cases task with
  | format tool projects files =>
    exact ⟨tool, projects, format files, fun _ => rfl, format_ne_overflow files⟩
  | formatInput tool projects file text =>
    exact ⟨tool, projects, formatInput file text, fun _ => rfl, formatInput_ne_overflow file text⟩
  | listTools projects => exact ⟨none, projects, listTools, fun _ => rfl, listTools_ne_overflow⟩
  | showVersion => cases needs
  | «show» text => cases needs

theorem run_of_unusable {h : σ} {fault : Settings.LookupFault}
    (failed : (Settings.lookup (i.settings.map Path.mk) h).1 = .error fault) :
    ∃ h', run i h = (without fault, h') ∧ Asked (fun e => e.isRead || e.isNote) h h' := by
  obtain ⟨tool, projects, task, same, -⟩ := run_eq_withCoordinator (σ := σ) needs
  have start := coordinator_eq_of_error (Prod.ext failed rfl) tool projects
  exact ⟨_, (same h).trans (withCoordinator_of_error start task), Settings.lookup_asked _ h⟩

theorem run_of_loaded {h : σ} {settings : Settings}
    (found : (Settings.lookup (i.settings.map Path.mk) h).1 = .ok settings) :
    (run i h).1 ≠ .overflow := by
  obtain ⟨tool, projects, task, same, ended⟩ := run_eq_withCoordinator (σ := σ) needs
  have start := coordinator_eq (Prod.ext found rfl) tool projects
  rw [same, withCoordinator_of_ok start]
  exact ended _

/-- A run is in order just if no number in its settings file is beyond every value. With such a
number it stops at once, and then too nothing has been done. -/
theorem run_orderly_iff (candid : Host.Candid σ) (h : σ) :
    let asked := i.settings.map Path.mk
    (Orderly asked h (run i h) ↔ ¬Settings.Overloaded asked h) ∧
      (Settings.Overloaded asked h → (run i h).1 = .overflow ∧
        Asked (fun e => e.isRead || e.isNote) h (run i h).2) := by
  intro asked
  by_cases overloaded : Settings.Overloaded asked h
  · have failed := Settings.overloaded_iff.mp overloaded
    obtain ⟨h', stopped, prepared⟩ := run_of_unusable needs failed
    have disorder : ¬Orderly asked h (run i h) := by
      rw [stopped]
      intro orderly
      cases orderly with
      | loaded found ended => exact ended rfl
    have nothing : (run i h).1 = .overflow ∧
        Asked (fun e => e.isRead || e.isNote) h (run i h).2 := by
      rw [stopped]
      exact ⟨rfl, prepared⟩
    exact ⟨iff_of_false disorder (not_not_intro overloaded), fun _ => nothing⟩
  · refine ⟨iff_of_true ?_ overloaded, fun large => absurd large overloaded⟩
    cases looked : (Settings.lookup asked h).1 with
    | ok settings => exact .loaded looked (run_of_loaded needs looked)
    | error fault =>
      obtain ⟨h', ended, prepared⟩ := run_of_unusable needs looked
      have unusable := Settings.unusable_of_lookup looked
      have failed : without fault = .failed fault.failure := by
        refine without_eq_failed ?_
        rintro path rfl
        cases unusable with
        | invalid present read parsed =>
          exact overloaded (Settings.overloaded_iff.mpr looked)
      rw [ended, failed]
      exact .refused (unusable.names candid) (fun text => unusable.located) prepared

end

def holding (text : Text) : MemoryHost where
  directory := ⟨"/"⟩
  level := .info
  files := [(⟨"/goformat.json"⟩, text)]
  readOnly := []
  tools := []
  searchFault := .never
  commands := []
  events := []

def listing : Invocation Text := ⟨.listTools [], .info, none⟩

theorem run_orderly_iff_misnamed :
    let h := holding "\x7b\"tool\":\"rustfmt\"\x7d".toList
    Orderly none h (run listing h) ∧ (run listing h).1 = .failed
      ⟨["Error loading config at /goformat.json", "Error deserializing config file.",
        "Unknown format tool 'rustfmt'. Expected one of: gofmt, goimports, goreturns"]⟩ := by
  intro h
  have ended : (run listing h).1 = .failed
      ⟨["Error loading config at /goformat.json", "Error deserializing config file.",
        "Unknown format tool 'rustfmt'. Expected one of: gofmt, goimports, goreturns"]⟩ := by
    decide +kernel
  obtain ⟨orderly, overloaded⟩ := run_orderly_iff (i := listing) rfl MemoryHost.candid h
  refine ⟨orderly.mpr fun large => ?_, ended⟩
  have stopped := (overloaded large).1
  rw [ended] at stopped
  cases stopped

/-- A number is enough for the run to stop without a word. -/
theorem overloaded_stops :
    let h := holding "\x7b\"formatOnSave\":1e309\x7d".toList
    (run listing h).1 = .overflow ∧ ¬Orderly none h (run listing h) := by
  intro h
  have stopped : (run listing h).1 = .overflow := by decide +kernel
  refine ⟨stopped, fun orderly => ?_⟩
  generalize run listing h = result at orderly stopped
  cases orderly with
  | loaded found ended => exact ended stopped
  | refused names located prepared => cases stopped

end Execution

end FormatService
