import FormatService.Proofs.Execution.Pairing
import FormatService.Proofs.LogLevel.Host
import FormatService.Proofs.LogLevel.Session

/-!
# The log level never changes behaviour

How loud a program is decides on its notes and on nothing else. Two sessions on hosts that
differ in their level alone answer every step alike and stay alike but for the notes, and a
task that is carried out at two levels ends in the same way. What is noted at the quieter
level is noted at the louder one as well, in the same order.
-/

set_option autoImplicit false

namespace FormatService

open CommandLine (Invocation)
open Host (Quieter)

variable {σ : Type} [Host σ] {R : σ → σ → Prop} (quieter : Quieter R)

namespace Settings

variable {q v : σ} (r : R q v)
include quieter r

theorem load_quieter (path : Path) : Matched Eq R (load path q) (load path v) := by
  rw [load, load]
  refine (quieter.read (quieter.debug r ("Resolving config from " ++ path.text)) path).elim ?_
  rintro answer q _ v rfl r
  cases answer with
  | error failure => exact ⟨rfl, r⟩
  | ok text =>
    simp only
    split
    · exact ⟨rfl, r⟩
    · exact ⟨rfl, r⟩

theorem lookup_quieter (asked : Option Path) : Matched Eq R (lookup asked q) (lookup asked v) := by
  cases asked with
  | some asked =>
    rw [lookup, lookup]
    simp only [quieter.directory r, quieter.present r]
    split
    · exact load_quieter quieter r _
    · exact ⟨rfl, r⟩
  | none =>
    rw [lookup, lookup]
    simp only [quieter.directory r, quieter.present r]
    split
    · exact load_quieter quieter r _
    · exact ⟨rfl, quieter.debug r _⟩

end Settings

namespace Execution

open Coordinator (Twin)

include quieter in
theorem alike_twin (file : Path) : Alike (Twin R) file :=
  fun twin text => twin.format quieter (opened file text) none none

include quieter in
theorem listTools_quieter {c d : Coordinator σ} (twin : Twin R c d) :
    Matched Eq R (listTools c) (listTools d) := by
  obtain ⟨h, r, rfl⟩ := twin
  rw [listTools, listTools]
  simp only
  split
  · exact ⟨rfl, r⟩
  · split
    · exact ⟨rfl, quieter.warn r _⟩
    · exact ⟨rfl, quieter.serve r (.log _)⟩

section

variable {q v : σ} (r : R q v)
include quieter r

theorem withCoordinator_quieter {i j : Invocation Text} (same : j.settings = i.settings)
    (tool : Option Tool) (projects : List String) {task : Coordinator σ → Ending × σ}
    (alike : ∀ c d, Twin R c d → Matched Eq R (task c) (task d)) :
    Matched Eq R (withCoordinator i tool projects task q)
      (withCoordinator j tool projects task v) := by
  rw [withCoordinator, withCoordinator, same]
  have looked := Settings.lookup_quieter quieter r (i.settings.map Path.mk)
  cases hq : Settings.lookup (i.settings.map Path.mk) q with
  | mk answer q' =>
    cases hv : Settings.lookup (i.settings.map Path.mk) v with
    | mk answer' v' =>
      rw [hq, hv] at looked
      obtain ⟨rfl, r⟩ : answer = answer' ∧ R q' v' := looked
      cases answer with
      | ok settings =>
        rw [coordinator_eq hq, coordinator_eq hv]
        -- The roots are seen from the current directory, which is the same on both hosts.
        have fresh : Twin R (unresolved settings tool projects q')
            (unresolved settings tool projects v') := by
          rw [unresolved, unresolved, quieter.directory r]
          exact ⟨v', r, rfl⟩
        exact alike _ _ (fresh.rebuild quieter).1
      | error fault =>
        rw [coordinator_eq_of_error hq, coordinator_eq_of_error hv]
        exact ⟨rfl, r⟩

theorem run_quieter (task : CommandLine.Task Text) (quiet loud : LogLevel)
    (settings : Option String) :
    Matched Eq R (run ⟨task, quiet, settings⟩ q) (run ⟨task, loud, settings⟩ v) := by
  cases task with
  | «show» text => exact ⟨rfl, quieter.serve r (.log _)⟩
  | showVersion => exact ⟨rfl, quieter.serve r (.log _)⟩
  | format tool projects files =>
    exact withCoordinator_quieter quieter r rfl tool projects fun c d twin =>
      format_paired quieter Coordinator.pairing twin fun file _ => alike_twin quieter _
  | formatInput tool projects file text =>
    exact withCoordinator_quieter quieter r rfl tool projects fun c d twin =>
      formatInput_paired quieter Coordinator.pairing twin (alike_twin quieter _) text
  | listTools projects =>
    exact withCoordinator_quieter quieter r rfl none projects fun c d twin =>
      listTools_quieter quieter twin

end

end Execution

include quieter in
/-- On a louder host that is like another one otherwise, every step has the same answer and
every task the same end, and sessions and hosts go on to be alike. -/
theorem Host.Quieter.immaterial {q v : σ} (r : R q v) :
    (∀ (s : Session σ) (steps : List (Session.Step σ)), s.coordinator.host = q →
      (∀ step ∈ steps, step.Keeps R) →
        Matched (Session.Twin R) Eq (s.run steps)
          ((s.withCoordinator { s.coordinator with host := v }).run steps)) ∧
    ∀ (task : CommandLine.Task Text) (quiet loud : LogLevel) (settings : Option String),
      Matched Eq R (Execution.run ⟨task, quiet, settings⟩ q)
        (Execution.run ⟨task, loud, settings⟩ v) := by
  refine ⟨?_, fun task quiet loud settings =>
    Execution.run_quieter quieter r task quiet loud settings⟩
  rintro s steps rfl keep
  have start : Session.Twin R s (s.withCoordinator { s.coordinator with host := v }) :=
    ⟨_, ⟨v, r, rfl⟩, rfl⟩
  exact start.run quieter keep

open MemoryHost (Muffles)

def Session.speaking (level : LogLevel) (s : Session MemoryHost) : Session MemoryHost :=
  s.withCoordinator (s.coordinator.onHost (MemoryHost.speaking level))

/-- What happens on the host in a step has nothing to do with its level or its record. -/
def Session.Step.Oblivious : Session.Step MemoryHost → Prop
  | .host change => ∀ h level events,
      change { h with level := level, events := events } =
        { change h with level := level, events := events }
  | _ => True

theorem Session.Step.Oblivious.keeps {step : Session.Step MemoryHost} (h : step.Oblivious)
    (quiet loud : LogLevel) : step.Keeps (Muffles quiet loud) := by
  cases step with
  | host change =>
    intro q v m
    have own : change q = { change q with level := q.level, events := q.events } :=
      h q q.level q.events
    have other : change v = { change q with level := loud, events := v.events } := by
      rw [← h q loud v.events, ← m.same]
    refine ⟨?_, ?_, ?_⟩
    · rw [own]
      exact m.level
    · rw [other]
    · rw [own, other]
      exact m.events
  | _ => trivial

/-- At two levels every step has the same answer and every task the same end. Whatever there is
besides is the same as well, but for the level and for notes that are missing at the quieter one. -/
theorem level_immaterial (quiet loud : LogLevel) (louder : loud.rank ≤ quiet.rank) :
    (∀ (s : Session MemoryHost) (steps : List (Session.Step MemoryHost)),
      (∀ step ∈ steps, step.Oblivious) →
        let q := (s.speaking quiet).run steps
        let v := (s.speaking loud).run steps
        v.2 = q.2 ∧
          v.1 = q.1.withCoordinator { q.1.coordinator with host := v.1.coordinator.host } ∧
          Muffles quiet loud q.1.coordinator.host v.1.coordinator.host) ∧
    (∀ (h : MemoryHost) (task : CommandLine.Task Text) (settings : Option String),
      let q := Execution.run ⟨task, quiet, settings⟩ (h.speaking quiet)
      let v := Execution.run ⟨task, loud, settings⟩ (h.speaking loud)
      v.1 = q.1 ∧ Muffles quiet loud q.2 v.2) := by
  have immaterial (h : MemoryHost) := (MemoryHost.quieter louder).immaterial (.speaking quiet loud h)
  constructor
  · intro s steps oblivious q v
    have ran := (immaterial s.coordinator.host).1 (s.speaking quiet) steps rfl fun step h =>
      (oblivious step h).keeps quiet loud
    obtain ⟨⟨_, ⟨h, m, rfl⟩, session⟩, replies⟩ := ran
    have host : v.1.coordinator.host = h := congrArg (·.coordinator.host) session
    rw [host]
    exact ⟨replies.symm, session, m⟩
  · intro h task settings
    have ran := (immaterial h).2 task quiet loud settings
    exact ⟨ran.1.symm, ran.2⟩

/-- A tool turns up, the tools are resolved for a new project, and a document is formatted; or a
file is to be formatted that is not there. All that is noted about this at the debug level is
missing at the silent one. -/
theorem level_immaterial_resolving :
    let host : MemoryHost := { (default : MemoryHost) with directory := ⟨"/"⟩ }
    let s := Session.new (.new host .default [])
    let steps : List (Session.Step MemoryHost) :=
      [.host fun h => { h with tools := h.tools ++ [(.gofmt, none, "gofmt")] },
        .observe "projects" [⟨"/a"⟩],
        .openBuffer "x" (.ofDocument (Document.new ['x'] (some ⟨"/x"⟩))),
        .format "x" none none]
    let q := (s.speaking .silent).run steps
    let v := (s.speaking .debug).run steps
    let task : CommandLine.Task Text := .format none [] ["missing.go"]
    let q' := Execution.run ⟨task, .silent, none⟩ (host.speaking .silent)
    let v' := Execution.run ⟨task, .debug, none⟩ (host.speaking .debug)
    (v.2 = q.2 ∧ q.2 = [.nothing, .nothing, .nothing, .outcome .failed]) ∧
      q.1.coordinator.host.events.filter Event.isNote = [] ∧
      (v.1.coordinator.host.events.filter Event.isNote).length = 5 ∧
      (v'.1 = q'.1 ∧ q'.1 = .failed ⟨["Had 1 error formatting."]⟩) ∧
      q'.2.events.filter Event.isNote = [] ∧
      (v'.2.events.filter Event.isNote).length = 5 := by
  intro host s steps q v task q' v'
  have oblivious : ∀ step ∈ steps, step.Oblivious := by
    simp [steps, Session.Step.Oblivious]
  obtain ⟨session, execution⟩ := level_immaterial .silent .debug (by decide)
  exact ⟨⟨(session s steps oblivious).1, by decide⟩, by decide, by decide,
    ⟨(execution host task none).1, by decide⟩, by decide, by decide⟩

end FormatService
