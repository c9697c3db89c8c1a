import FormatService.Coordinator.Rebuild

/-!
# Listeners

Two listeners follow the project channel and the settings channel and rebuild the
cache when a new value calls for it. They are cooperative tasks: one runs until it
has to wait, and those that can run take turns, first in first out. A listener
waits for its searches, for a new value, or, asleep, for the end of a rebuild that
has the slot. A channel keeps only its newest value.
-/

set_option autoImplicit false

namespace FormatService

open Coordinator (Rebuild)

/-- Which channel a listener follows. -/
inductive Role
  | projects
  | settings
  deriving DecidableEq, Repr

/-- Where a listener is. -/
inductive Phase
  /-- Waits for a new value. -/
  | idle
  /-- Is about to rebuild. -/
  | wanting
  /-- Waits for the searches of its rebuild. -/
  | searching (rebuild : Rebuild)
  /-- Waits for the rebuild in progress to end. -/
  | asleep
  deriving DecidableEq, Repr

def Phase.rebuild? : Phase → Option Rebuild
  | .searching rebuild => some rebuild
  | _ => none

structure Listener where
  /-- Whether the channel has a value that the listener has not seen. -/
  unseen : Bool
  phase : Phase
  deriving DecidableEq, Repr

/-- The listeners of an observed coordinator. -/
structure Observation where
  /-- The project channel. -/
  channel : String
  /-- The newest value of the project channel. -/
  newest : List ProjectRoot
  projects : Listener
  settings : Listener
  /-- Listeners that can run, in the order of their turns. -/
  queue : List Role
  /-- Listeners that are asleep, in the order in which they fell asleep. -/
  sleepers : List Role
  deriving DecidableEq, Repr

namespace Observation

def listener (o : Observation) : Role → Listener
  | .projects => o.projects
  | .settings => o.settings

def searching (o : Observation) : List Rebuild :=
  o.projects.phase.rebuild?.toList ++ o.settings.phase.rebuild?.toList

def setListener (role : Role) (l : Listener) (o : Observation) : Observation :=
  match role with
  | .projects => { o with projects := l }
  | .settings => { o with settings := l }

def setPhase (role : Role) (phase : Phase) (o : Observation) : Observation :=
  o.setListener role { o.listener role with phase := phase }

def enqueue (role : Role) (o : Observation) : Observation :=
  if o.queue.contains role then o else { o with queue := o.queue ++ [role] }

def rouse (o : Observation) (role : Role) : Observation := (o.setPhase role .wanting).enqueue role

/-- The end of a rebuild wakes all who sleep. -/
def wake (o : Observation) : Observation := o.sleepers.foldl rouse { o with sleepers := [] }

/-- A new value in a channel wakes its listener if it waits for one. -/
def announce (role : Role) (o : Observation) : Observation :=
  let l := o.listener role
  let o := o.setListener role { l with unseen := true }
  if l.phase = .idle then o.enqueue role else o

/-- Two fresh listeners. The first rebuilds at once if the roots have changed. -/
def begin (channel : String) (roots : List ProjectRoot) (changed : Bool) : Observation :=
  { channel := channel
    newest := roots
    projects := ⟨false, if changed then .wanting else .idle⟩
    settings := ⟨true, .idle⟩
    queue := [.projects, .settings]
    sleepers := [] }

end Observation

structure Observed (σ : Type) where
  coordinator : Coordinator σ
  observation : Observation

namespace Observed

variable {σ : Type} [Host σ]

def finish (rebuild : Rebuild) (w : Observed σ) : Observed σ :=
  ⟨(w.coordinator.finishRebuild rebuild).1, w.observation.wake⟩

/-- Tries to rebuild; also says whether the attempt has come to its end. -/
def attempt (role : Role) (w : Observed σ) : Observed σ × Bool :=
  match w.coordinator.beginRebuild with
  | (c, .refused) =>
    let o := w.observation.setPhase role .asleep
    (⟨c, { o with sleepers := o.sleepers ++ [role] }⟩, false)
  | (c, .aborted) => (⟨c, w.observation.wake⟩, true)
  | (c, .searching rebuild) =>
    if rebuild.searches = [] then (finish rebuild ⟨c, w.observation⟩, true)
    else (⟨c, (w.observation.setPhase role (.searching rebuild)).enqueue role⟩, false)

/-- Brings the active tool and the cache in line with the newest settings. -/
def applySettings (w : Observed σ) : Observed σ × Bool :=
  let c := w.coordinator
  let toolChanged := c.settings.tool ≠ c.tool
  let pathsChanged := c.settings.toolPaths ≠ c.appliedPaths
  let c := if toolChanged then c.setTool c.settings.tool else c
  if toolChanged ∨ pathsChanged then attempt .settings ⟨c, w.observation⟩
  else (⟨c, w.observation⟩, true)

def react (role : Role) (w : Observed σ) : Observed σ × Bool :=
  match role with
  | .projects =>
    attempt .projects ⟨w.coordinator.setRoots w.observation.newest, w.observation⟩
  | .settings => w.applySettings

/-- Looks at the channel, and waits for a new value when there is nothing to do. -/
def look (role : Role) (w : Observed σ) : Observed σ :=
  let l := w.observation.listener role
  let rest (w : Observed σ) : Observed σ := { w with observation := w.observation.setPhase role .idle }
  if l.unseen then
    let w := { w with observation := w.observation.setListener role { l with unseen := false } }
    match w.react role with
    | (w, true) => rest w
    | (w, false) => w
  else rest w

def turn (role : Role) (w : Observed σ) : Observed σ :=
  match (w.observation.listener role).phase with
  | .idle => w.look role
  | .searching rebuild => (w.finish rebuild).look role
  | .wanting =>
    match w.attempt role with
    | (w, true) => w.look role
    | (w, false) => w
  | .asleep => w

def weight (l : Listener) : Nat :=
  (if l.unseen then 4 else 0) + match l.phase with
    | .idle => 0
    | .wanting => 3
    | .searching _ => 2
    | .asleep => 2

def turnsLeft (o : Observation) : Nat :=
  3 * (weight o.projects + weight o.settings) + o.queue.length

def runTurns : Nat → Observed σ → Observed σ
  | 0, w => w
  | n + 1, w =>
    match w.observation.queue with
    | [] => w
    | role :: queue =>
      runTurns n (turn role { w with observation := { w.observation with queue := queue } })

/-- Lets the listeners take turns until none can run. -/
def settle (w : Observed σ) : Observed σ := runTurns (turnsLeft w.observation) w

end Observed

end FormatService
