import FormatService.Session.Steps
import FormatService.Proofs.LogLevel.Coordinator

/-!
# Sessions of different loudness

Two sessions that differ in the loudness of their hosts alone differ in nothing else after
any steps, whatever turns the listeners take in between, and they answer alike. This includes
steps of the host itself, as long as they treat a louder host like a quieter one.
-/

set_option autoImplicit false

namespace FormatService

open Coordinator (Rebuild)
open Host (Quieter)

variable {σ : Type} {R : σ → σ → Prop}

/-- The second coordinator differs in its host alone, and its listeners do not differ. -/
def Observed.Twin (R : σ → σ → Prop) (w x : Observed σ) : Prop :=
  ∃ d, Coordinator.Twin R w.coordinator d ∧ x = ⟨d, w.observation⟩

def Session.Twin (R : σ → σ → Prop) (s t : Session σ) : Prop :=
  ∃ d, Coordinator.Twin R s.coordinator d ∧ t = s.withCoordinator d

namespace Observed.Twin

variable [Host σ] (quieter : Quieter R) {w x : Observed σ} (twin : Twin R w x)
include quieter twin

theorem finish (rebuild : Rebuild) : Twin R (w.finish rebuild) (x.finish rebuild) := by
  obtain ⟨d, twin, rfl⟩ := twin
  exact ⟨_, (twin.finishRebuild quieter rebuild).1, rfl⟩

theorem attempt (role : Role) : Matched (Twin R) Eq (w.attempt role) (x.attempt role) := by
  obtain ⟨d, twin, rfl⟩ := twin
  rw [Observed.attempt, Observed.attempt]
  refine (twin.beginRebuild quieter).elim ?_
  rintro c begun d _ twin rfl
  cases begun with
  | refused => exact ⟨⟨d, twin, rfl⟩, rfl⟩
  | aborted => exact ⟨⟨d, twin, rfl⟩, rfl⟩
  | searching rebuild =>
    by_cases none : rebuild.searches = []
    · simp only [none, if_true]
      exact ⟨finish quieter ⟨d, twin, rfl⟩ rebuild, rfl⟩
    · simp only [none, if_false]
      exact ⟨⟨d, twin, rfl⟩, rfl⟩

theorem applySettings : Matched (Twin R) Eq w.applySettings x.applySettings := by
  obtain ⟨d, twin, rfl⟩ := twin
  have settings : d.settings = w.coordinator.settings := twin.agree (·.settings) fun _ _ => rfl
  have tool : d.tool = w.coordinator.tool := twin.agree (·.tool) fun _ _ => rfl
  have applied : d.appliedPaths = w.coordinator.appliedPaths :=
    twin.agree (·.appliedPaths) fun _ _ => rfl
  have adopted : Coordinator.Twin R
      (if w.coordinator.settings.tool ≠ w.coordinator.tool then
        w.coordinator.setTool w.coordinator.settings.tool else w.coordinator)
      (if w.coordinator.settings.tool ≠ w.coordinator.tool then
        d.setTool w.coordinator.settings.tool else d) := by
    split
    · exact twin.setTool quieter _
    · exact twin
  simp only [Observed.applySettings, settings, tool, applied]
  split
  · exact attempt quieter ⟨_, adopted, rfl⟩ .settings
  · exact ⟨⟨_, adopted, rfl⟩, rfl⟩

theorem react (role : Role) : Matched (Twin R) Eq (w.react role) (x.react role) := by
  cases role with
  | projects =>
    obtain ⟨d, twin, rfl⟩ := twin
    exact attempt quieter ⟨_, twin.setRoots quieter _, rfl⟩ .projects
  | settings => exact twin.applySettings quieter

theorem look (role : Role) : Twin R (w.look role) (x.look role) := by
  obtain ⟨d, twin, rfl⟩ := twin
  rw [Observed.look, Observed.look]
  by_cases unseen : (w.observation.listener role).unseen = true
  · simp only [unseen, if_true]
    let seen := w.observation.setListener role ⟨false, (w.observation.listener role).phase⟩
    refine (react quieter (w := ⟨w.coordinator, seen⟩) ⟨d, twin, rfl⟩ role).elim ?_
    rintro w ended x _ ⟨d, twin, rfl⟩ rfl
    cases ended with
    | true => exact ⟨d, twin, rfl⟩
    | false => exact ⟨d, twin, rfl⟩
  · simp only [unseen]
    exact ⟨d, twin, rfl⟩

theorem turn (role : Role) : Twin R (w.turn role) (x.turn role) := by
  have phase : (x.observation.listener role).phase = (w.observation.listener role).phase := by
    obtain ⟨d, -, rfl⟩ := twin
    rfl
  rw [Observed.turn, Observed.turn, phase]
  cases (w.observation.listener role).phase with
  | idle => exact twin.look quieter role
  | searching rebuild => exact (twin.finish quieter rebuild).look quieter role
  | wanting =>
    refine (twin.attempt quieter role).elim ?_
    rintro w ended x _ twin rfl
    cases ended with
    | true => exact twin.look quieter role
    | false => exact twin
  | asleep => exact twin

theorem runTurns (n : Nat) : Twin R (w.runTurns n) (x.runTurns n) := by
  induction n generalizing w x with
  | zero => exact twin
  | succ n ih =>
    obtain ⟨d, twin, rfl⟩ := twin
    rw [Observed.runTurns, Observed.runTurns]
    cases w.observation.queue with
    | nil => exact ⟨d, twin, rfl⟩
    | cons role queue =>
      let next : Observation := { w.observation with queue := queue }
      exact ih (turn quieter (w := ⟨w.coordinator, next⟩) ⟨d, twin, rfl⟩ role)

theorem settle : Twin R w.settle x.settle := by
  have bound : turnsLeft x.observation = turnsLeft w.observation := by
    obtain ⟨d, -, rfl⟩ := twin
    rfl
  rw [Observed.settle, Observed.settle, bound]
  exact twin.runTurns quieter _

end Observed.Twin

namespace Session

namespace Twin

variable {s t : Session σ} (twin : Twin R s t)
include twin

theorem coordinator : s.coordinator.Twin R t.coordinator := by
  obtain ⟨d, twin, rfl⟩ := twin
  exact twin

theorem agree {α : Type} (f : Session σ → α) (blind : ∀ s c, f (s.withCoordinator c) = f s) :
    f t = f s := by
  obtain ⟨d, -, rfl⟩ := twin
  exact blind s d

theorem withCoordinator {c d : Coordinator σ} (twins : c.Twin R d) :
    Twin R (s.withCoordinator c) (t.withCoordinator d) := by
  obtain ⟨-, -, rfl⟩ := twin
  exact ⟨d, twins, rfl⟩

theorem wake : Twin R s.wake t.wake := by
  obtain ⟨d, twin, rfl⟩ := twin
  have slot : d.rebuilding = s.coordinator.rebuilding := twin.agree (·.rebuilding) fun _ _ => rfl
  simp only [Session.wake, Session.withCoordinator, slot]
  split
  · exact ⟨d, twin, rfl⟩
  · exact ⟨d, twin, rfl⟩

theorem stopListening : Twin R s.stopListening t.stopListening := by
  obtain ⟨d, twin, rfl⟩ := twin
  exact ⟨d, twin, rfl⟩

theorem reap : Twin R s.reap t.reap := by
  have aborted : t.aborted = s.aborted := twin.agree (·.aborted) fun _ _ => rfl
  rw [Session.reap, Session.reap, aborted]
  split
  · exact twin
  · obtain ⟨d, twin, rfl⟩ := twin
    exact wake ⟨d.release, twin.release, rfl⟩

theorem setBuffer (name : String) (b : Buffer) :
    Twin R (s.setBuffer name b) (t.setBuffer name b) := by
  obtain ⟨d, twin, rfl⟩ := twin
  exact ⟨d, twin, rfl⟩

theorem deliver (name : String) {x y : Coordinator σ × Buffer × Outcome}
    (twins : Matched (Coordinator.Twin R) Eq x y) :
    Matched (Twin R) Eq (s.deliver name x) (t.deliver name y) := by
  refine twins.elim ?_
  rintro c result d _ twins rfl
  exact ⟨((twin.withCoordinator twins).setBuffer name _).wake, rfl⟩

theorem forget (id : String) : Twin R (s.forget id) (t.forget id) := by
  obtain ⟨d, twin, rfl⟩ := twin
  exact ⟨d, twin, rfl⟩

theorem send (channel : String) (roots : List ProjectRoot) :
    Twin R (s.send channel roots) (t.send channel roots) := by
  obtain ⟨d, twin, rfl⟩ := twin
  exact ⟨d, twin, rfl⟩

end Twin

variable [Host σ]

def Step.Keeps (R : σ → σ → Prop) : Step σ → Prop
  | .host change => ∀ q v, R q v → R (change q) (change v)
  | _ => True

def run (s : Session σ) : List (Step σ) → Session σ × List Reply
  | [] => (s, [])
  | step :: steps =>
    let (s, reply) := s.step step
    let (s, replies) := s.run steps
    (s, reply :: replies)

theorem prepare_twin (quieter : Quieter R) {c d : Coordinator σ} (twin : c.Twin R d) (call : Call) :
    Coordinator.Twin R (prepare call c) (prepare call d) := by
  cases call with
  | rebuild => exact twin
  | projectsChanged roots => exact twin.setRoots quieter roots
  | toolChanged tool => exact twin.setTool quieter tool

namespace Twin

variable (quieter : Quieter R) {s t : Session σ} (twin : Twin R s t)
include quieter twin

theorem start (id : String) (call : Call) :
    Matched (Twin R) Eq (s.start id call) (t.start id call) := by
  obtain ⟨d, twin, rfl⟩ := twin
  rw [Session.start, Session.start]
  refine ((prepare_twin quieter twin call).beginRebuild quieter).elim ?_
  rintro c begun d _ twin rfl
  cases begun with
  | searching rebuild =>
    by_cases none : rebuild.searches = []
    · simp only [none, if_true]
      refine (twin.finishRebuild quieter rebuild).elim ?_
      rintro c rebuilt d _ twin rfl
      exact ⟨wake ⟨d, twin, rfl⟩, rfl⟩
    · simp only [none, if_false]
      exact ⟨⟨d, twin, rfl⟩, rfl⟩
  | _ => exact ⟨⟨d, twin, rfl⟩, rfl⟩

theorem startFormat (id name : String) (b : Buffer) (tool : Option Tool) (file : Option Path) :
    Matched (Twin R) Eq (s.startFormat id name b tool file) (t.startFormat id name b tool file) := by
  rw [Session.startFormat, Session.startFormat]
  refine (twin.coordinator.beginFormat quieter b tool file).elim ?_
  rintro c opened d _ twins rfl
  cases opened with
  | skipped => exact twin.deliver name ⟨twins, rfl⟩
  | ready r => exact twin.deliver name (twins.serve quieter r b)
  | searching r rebuild =>
    by_cases none : rebuild.searches = []
    · simp only [none, if_true]
      exact twin.deliver name ((twins.finishRebuild quieter rebuild).1.serve quieter r b)
    · simp only [none, if_false]
      obtain ⟨-, -, rfl⟩ := twin
      exact ⟨⟨d, twins, rfl⟩, rfl⟩

theorem finish (id : String) (held : Held) :
    Matched (Twin R) Eq (s.finish id held) (t.finish id held) := by
  rw [Session.finish, Session.finish]
  refine (twin.coordinator.finishRebuild quieter held.rebuild).elim ?_
  rintro c rebuilt d _ twins rfl
  have ended : Twin R ((s.forget id).withCoordinator c) ((t.forget id).withCoordinator d) :=
    (twin.forget id).withCoordinator twins
  cases held.formatting with
  | none => exact ⟨ended.wake, rfl⟩
  | some request =>
    have buffer := ended.agree (·.buffer? request.1) fun _ _ => rfl
    simp only [buffer]
    cases ((s.forget id).withCoordinator c).buffer? request.1 with
    | none => exact ⟨ended.wake, rfl⟩
    | some b => exact ended.deliver request.1 (twins.serve quieter request.2 b)

theorem observe (channel : String) (roots : List ProjectRoot) :
    Twin R (s.observe channel roots) (t.observe channel roots) := by
  have disposed : t.coordinator.disposed = s.coordinator.disposed :=
    twin.coordinator.agree (·.disposed) fun _ _ => rfl
  have known : t.coordinator.roots = s.coordinator.roots :=
    twin.coordinator.agree (·.roots) fun _ _ => rfl
  simp only [Session.observe, disposed, known]
  split
  · exact twin
  · obtain ⟨d, twin, stopped⟩ := twin.stopListening
    rw [stopped]
    split
    · exact ⟨_, twin.setRoots quieter roots, rfl⟩
    · exact ⟨d, twin, rfl⟩

theorem perform {step : Step σ} (keeps : step.Keeps R) :
    Matched (Twin R) Eq (s.perform step) (t.perform step) := by
  have coordinators := twin.coordinator
  have held (id : String) : t.held? id = s.held? id := twin.agree (·.held? id) fun _ _ => rfl
  have buffer (name : String) : t.buffer? name = s.buffer? name :=
    twin.agree (·.buffer? name) fun _ _ => rfl
  cases step with
  | call call =>
    rw [Session.perform, Session.perform]
    refine ((prepare_twin quieter coordinators call).rebuild quieter).elim ?_
    rintro c rebuilt d _ twins rfl
    exact ⟨(twin.withCoordinator twins).wake, rfl⟩
  | start id call => exact twin.start quieter id call
  | finish id =>
    rw [Session.perform, Session.perform, held]
    cases s.held? id with
    | none => exact ⟨twin, rfl⟩
    | some held => exact twin.finish quieter id held
  | drop id =>
    rw [Session.perform, Session.perform, held]
    cases s.held? id with
    | none => exact ⟨twin, rfl⟩
    | some rebuild => exact ⟨((twin.forget id).withCoordinator coordinators.release).wake, rfl⟩
  | settings settings =>
    obtain ⟨_, ⟨h, r, rfl⟩, rfl⟩ := twin
    exact ⟨⟨_, ⟨h, r, rfl⟩, rfl⟩, rfl⟩
  | observe channel roots => exact ⟨twin.observe quieter channel roots, rfl⟩
  | send channel roots => exact ⟨twin.send channel roots, rfl⟩
  | resolve tool project =>
    have resolved : t.coordinator.resolved tool project = s.coordinator.resolved tool project :=
      coordinators.agree (·.resolved tool project) fun _ _ => rfl
    exact ⟨twin, congrArg Reply.path resolved.symm⟩
  | dispose =>
    have stopped := twin.stopListening
    exact ⟨stopped.withCoordinator stopped.coordinator.dispose, rfl⟩
  | host change => exact ⟨twin.withCoordinator (Coordinator.pairing.onHost coordinators (keeps _ _)), rfl⟩
  | openBuffer name buffer => exact ⟨twin.setBuffer name buffer, rfl⟩
  | edit name step =>
    rw [Session.perform, Session.perform, buffer]
    cases s.buffer? name with
    | none => exact ⟨twin, rfl⟩
    | some b =>
      simp only
      split
      · exact ⟨twin.setBuffer name _, rfl⟩
      · exact ⟨twin, rfl⟩
  | format name tool file =>
    rw [Session.perform, Session.perform, buffer]
    cases s.buffer? name with
    | none => exact ⟨twin, rfl⟩
    | some b => exact twin.deliver name (coordinators.format quieter b tool file)
  | willSave name =>
    rw [Session.perform, Session.perform, buffer]
    cases s.buffer? name with
    | none => exact ⟨twin, rfl⟩
    | some b => exact twin.deliver name (coordinators.willSave quieter b)
  | startFormat id name tool file =>
    rw [Session.perform, Session.perform, buffer]
    cases s.buffer? name with
    | none => exact ⟨twin, rfl⟩
    | some b => exact twin.startFormat quieter id name b tool file
  | startWillSave id name =>
    have settings : t.coordinator.settings = s.coordinator.settings :=
      coordinators.agree (·.settings) fun _ _ => rfl
    rw [Session.perform, Session.perform, buffer, settings]
    cases s.buffer? name with
    | none => exact ⟨twin, rfl⟩
    | some b =>
      simp only
      split
      · exact twin.startFormat quieter id name b none none
      · exact twin.deliver name ⟨coordinators, rfl⟩

theorem settle : Twin R s.settle t.settle := by
  have reaped := twin.reap
  rw [Session.settle, Session.settle]
  generalize s.reap = s at reaped
  generalize t.reap = t at reaped
  obtain ⟨d, twin, rfl⟩ := reaped
  cases listeners : s.observation with
  | none =>
    simp only [Session.withCoordinator, listeners]
    exact ⟨d, twin, by rw [Session.withCoordinator, listeners]⟩
  | some o =>
    obtain ⟨d, twin, settled⟩ :=
      Observed.Twin.settle quieter (w := ⟨s.coordinator, o⟩) ⟨d, twin, rfl⟩
    simp only [Session.withCoordinator, listeners, settled]
    exact ⟨d, twin, rfl⟩

theorem step {step : Step σ} (keeps : step.Keeps R) :
    Matched (Twin R) Eq (s.step step) (t.step step) := by
  rw [Session.step, Session.step]
  refine (twin.perform quieter keeps).elim ?_
  rintro s reply t _ twin rfl
  exact ⟨twin.settle quieter, rfl⟩

theorem run {steps : List (Step σ)} (keep : ∀ step ∈ steps, step.Keeps R) :
    Matched (Twin R) Eq (s.run steps) (t.run steps) := by
  induction steps generalizing s t with
  | nil => exact ⟨twin, rfl⟩
  | cons step steps ih =>
    rw [Session.run, Session.run]
    refine (twin.step quieter (keep step List.mem_cons_self)).elim ?_
    rintro s reply t _ twin rfl
    simp only
    refine (ih twin fun step h => keep step (List.mem_cons_of_mem _ h)).elim ?_
    rintro s replies t _ twin rfl
    exact ⟨twin, rfl⟩

end Twin

end Session

end FormatService
