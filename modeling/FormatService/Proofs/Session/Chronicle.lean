import FormatService.Proofs.Coordinator.Rebuild
import FormatService.Proofs.Session.Advance

/-!
# Runs of a session and what happens to its rebuilds

A run is any list of actions: steps of the callers, single moves of the listeners,
changes of the order of their turns and the end of listeners that are stopped. Its
chronicle tells, newest entry first, which rebuilds took the slot and how they ended.
A turn of a listener is one such run, so what is shown of all runs holds in whatever
order the turns are taken.
-/

set_option autoImplicit false

namespace FormatService

open Coordinator (Rebuild)

inductive Entry
  /-- A rebuild takes the slot. -/
  | began (rebuild : Rebuild)
  /-- A rebuild has run to its end, and has put what it found into the cache or failed. -/
  | ended (rebuild : Rebuild) (found : Option (List (CacheKey × Option String)))
  /-- The settings listener compares the newest settings, which have these tool paths,
  with those applied. -/
  | looked (toolPaths : ToolPaths)
  /-- The project listener is replaced while it still has to rebuild, and the new one
  finds the same roots and has nothing to do. -/
  | forfeited (roots : List ProjectRoot)
  deriving DecidableEq, Repr

namespace Entry

def lastEnded : List Entry → Option (Rebuild × Option (List (CacheKey × Option String)))
  | [] => none
  | .ended rebuild found :: _ => some (rebuild, found)
  | _ :: log => lastEnded log

/-- The newest value that `f` reads off an entry since a rebuild last took the slot. -/
def sinceBegan {α : Type} (f : Entry → Option α) : List Entry → Option α
  | [] => none
  | .began _ :: _ => none
  | e :: log => (f e).or (sinceBegan f log)

end Entry

namespace Coordinator

variable {σ : Type} [Host σ]

/-- What a rebuild leaves behind that is carried from its start to its end. -/
def wholeEntries (c : Coordinator σ) : List Entry :=
  match c.beginRebuild with
  | (c, .searching rebuild) => [.ended rebuild (c.found? rebuild), .began rebuild]
  | _ => []

/-- What a rebuild leaves behind that is held when it comes to its searches. -/
def startEntries (c : Coordinator σ) : List Entry :=
  match c.beginRebuild with
  | (_, .searching rebuild) => if rebuild.searches = [] then c.wholeEntries else [.began rebuild]
  | _ => []

/-- The document may be edited, and the tool it is to be formatted with is not found. -/
def lacks (b : Buffer) (tool : Option Tool) (file : Option Path) (c : Coordinator σ) : Bool :=
  b.document.editable && (c.command? (c.request b tool file)).isNone

def formatEntries (b : Buffer) (tool : Option Tool) (file : Option Path) (c : Coordinator σ) :
    List Entry :=
  if c.lacks b tool file then c.wholeEntries else []

def startFormatEntries (b : Buffer) (tool : Option Tool) (file : Option Path) (c : Coordinator σ) :
    List Entry :=
  if c.lacks b tool file then c.startEntries else []

end Coordinator

inductive Action (σ : Type)
  | perform (step : Session.Step σ)
  | advance (role : Role)
  /-- Listeners get other turns. -/
  | queue (turns : List Role)
  | reap

namespace Action

variable {σ : Type}

def step? : Action σ → Option (Session.Step σ)
  | .perform step => some step
  | _ => none

/-- What the callers do in a run. -/
def steps (actions : List (Action σ)) : List (Session.Step σ) := actions.filterMap step?

@[simp] theorem steps_append (actions more : List (Action σ)) :
    steps (actions ++ more) = steps actions ++ steps more :=
  List.filterMap_append

@[simp] theorem steps_advances (role : Role) (n : Nat) :
    steps (List.replicate n (.advance role : Action σ)) = [] := by
  simp [steps, step?]

end Action

namespace Session

variable {σ : Type}

def listen (f : Observed σ → Observed σ) (s : Session σ) : Session σ :=
  match s.observation with
  | none => s
  | some o =>
    let w := f ⟨s.coordinator, o⟩
    { s with coordinator := w.coordinator, observation := some w.observation }

theorem listen_none {s : Session σ} (h : s.observation = none) (f : Observed σ → Observed σ) :
    s.listen f = s := by
  rw [listen, h]

theorem listen_some {s : Session σ} {o : Observation} (h : s.observation = some o)
    (f : Observed σ → Observed σ) :
    s.listen f = { s with coordinator := (f ⟨s.coordinator, o⟩).coordinator
                          observation := some (f ⟨s.coordinator, o⟩).observation } := by
  rw [listen, h]

theorem listen_self {f : Observed σ → Observed σ} (h : ∀ w, f w = w) (s : Session σ) :
    s.listen f = s := by
  cases ho : s.observation with
  | none => exact listen_none ho f
  | some o => rw [listen_some ho, h, ← ho]

theorem listen_listen (f g : Observed σ → Observed σ) (s : Session σ) :
    (s.listen f).listen g = s.listen fun w => g (f w) := by
  cases ho : s.observation with
  | none => rw [listen_none ho f, listen_none ho, listen_none ho]
  | some o => rw [listen_some ho f, listen_some rfl, listen_some ho]

variable [Host σ]

def act (s : Session σ) : Action σ → Session σ
  | .perform step => (s.perform step).1
  | .advance role => s.listen (·.advance role)
  | .queue turns => s.listen fun w => { w with observation := { w.observation with queue := turns } }
  | .reap => s.reap

/-- Observing these roots again leaves a rebuild undone that the project listener owes. -/
def forfeits (s : Session σ) (roots : List ProjectRoot) : Bool :=
  !s.coordinator.disposed && roots == s.coordinator.roots &&
    s.observation.any fun o => o.projects.phase != .idle

def performEntries (s : Session σ) : Step σ → List Entry
  | .call call => (prepare call s.coordinator).wholeEntries
  | .start _ call => (prepare call s.coordinator).startEntries
  | .finish id =>
    match s.held? id with
    | some held => [.ended held.rebuild (s.coordinator.found? held.rebuild)]
    | none => []
  | .observe _ roots => if s.forfeits roots then [.forfeited roots] else []
  | .format name tool file =>
    match s.buffer? name with
    | some b => s.coordinator.formatEntries b tool file
    | none => []
  | .willSave name =>
    match s.buffer? name with
    | some b =>
      if s.coordinator.settings.formatOnSave then s.coordinator.formatEntries b none none else []
    | none => []
  | .startFormat _ name tool file =>
    match s.buffer? name with
    | some b => s.coordinator.startFormatEntries b tool file
    | none => []
  | .startWillSave _ name =>
    match s.buffer? name with
    | some b =>
      if s.coordinator.settings.formatOnSave then s.coordinator.startFormatEntries b none none
      else []
    | none => []
  | _ => []

def advanceEntries (role : Role) (w : Observed σ) : List Entry :=
  match (w.observation.listener role).phase with
  | .idle =>
    if role = .settings ∧ w.observation.settings.unseen then
      [.looked w.coordinator.settings.toolPaths]
    else []
  | .wanting => w.coordinator.startEntries
  | .searching rebuild => [.ended rebuild (w.coordinator.found? rebuild)]
  | .asleep => []

/-- What an action adds to the chronicle, newest entry first. -/
def entries (s : Session σ) : Action σ → List Entry
  | .perform step => s.performEntries step
  | .advance role =>
    match s.observation with
    | none => []
    | some o => advanceEntries role ⟨s.coordinator, o⟩
  | .queue _ | .reap => []

end Session

structure Chronicled (σ : Type) where
  session : Session σ
  log : List Entry

namespace Chronicled

variable {σ : Type} [Host σ]

def new (host : σ) (settings : Settings) (roots : List ProjectRoot) : Chronicled σ :=
  ⟨.new (.new host settings roots), []⟩

def act (x : Chronicled σ) (action : Action σ) : Chronicled σ :=
  ⟨x.session.act action, x.session.entries action ++ x.log⟩

def run (x : Chronicled σ) : List (Action σ) → Chronicled σ
  | [] => x
  | action :: actions => (x.act action).run actions

theorem run_append (x : Chronicled σ) (actions more : List (Action σ)) :
    x.run (actions ++ more) = (x.run actions).run more := by
  induction actions generalizing x with
  | nil => rfl
  | cons action actions ih => exact ih _

theorem run_advances (x : Chronicled σ) (role : Role) (n : Nat) :
    (x.run (List.replicate n (.advance role))).session =
      x.session.listen (Observed.advances role n) := by
  induction n generalizing x with
  | zero => exact (Session.listen_self (fun w => rfl) _).symm
  | succ n ih =>
    rw [List.replicate_succ, run, ih]
    exact Session.listen_listen _ _ _

theorem run_turns (x : Chronicled σ) (n : Nat) :
    ∃ actions, Action.steps actions = [] ∧
      (x.run actions).session = x.session.listen (Observed.runTurns n) := by
  induction n generalizing x with
  | zero => exact ⟨[], rfl, (Session.listen_self (fun w => rfl) _).symm⟩
  | succ n ih =>
    cases ho : x.session.observation with
    | none => exact ⟨[], rfl, (Session.listen_none ho _).symm⟩
    | some o =>
      cases hq : o.queue with
      | nil =>
        refine ⟨[], rfl, ?_⟩
        rw [Session.listen_some ho, Observed.runTurns, hq, ← ho]
        rfl
      | cons role queue =>
        let y := x.act (.queue queue)
        obtain ⟨k, hk⟩ := Observed.turn_eq_advances role
          ⟨x.session.coordinator, { o with queue := queue }⟩
        obtain ⟨actions, hn, ha⟩ := ih (y.run (List.replicate k (.advance role)))
        refine ⟨.queue queue :: (List.replicate k (.advance role) ++ actions), ?_, ?_⟩
        · change Action.steps (List.replicate k (.advance role) ++ actions) = []
          rw [Action.steps_append, Action.steps_advances, hn, List.append_nil]
        rw [run, run_append, ha, run_advances]
        change ((x.session.listen _).listen _).listen _ = _
        rw [Session.listen_listen, Session.listen_listen, Session.listen_some ho,
          Session.listen_some ho, Observed.runTurns, hq]
        simp only [hk]

end Chronicled

end FormatService
