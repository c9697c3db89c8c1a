import FormatService.Session.Observation
import FormatService.Coordinator.Format

/-!
# Sessions

A coordinator in use: its listeners, calls and requests to format that are held at
their searches, and open documents. A listener that is stopped at its searches
keeps the slot until it is reaped. After every step those who are stopped are
reaped, and the listeners run until both wait.
-/

set_option autoImplicit false

namespace FormatService

open Coordinator (Rebuild Request)

/-- A call that rebuilds the cache. -/
inductive Call
  | rebuild
  | projectsChanged (roots : List ProjectRoot)
  | toolChanged (tool : Tool)
  deriving DecidableEq, Repr

namespace Session

/-- What a step answers. -/
inductive Reply
  | nothing
  | flag (value : Bool)
  | pending
  | notHeld
  | path (found : Option String)
  | outcome (outcome : Outcome)
  | fault (fault : Edit.ChangeFault)
  deriving DecidableEq, Repr

inductive Step (σ : Type)
  /-- Makes a call and carries it to its end. -/
  | call (call : Call)
  /-- Makes a call and holds it when it comes to its searches. -/
  | start (id : String) (call : Call)
  /-- Carries what is held to its end. -/
  | finish (id : String)
  /-- Gives up what is held. -/
  | drop (id : String)
  /-- Puts new settings into the settings channel. -/
  | settings (settings : Settings)
  /-- Observes a new project channel that holds the given roots. -/
  | observe (channel : String) (roots : List ProjectRoot)
  /-- Puts new roots into a project channel. -/
  | send (channel : String) (roots : List ProjectRoot)
  | resolve (tool : Tool) (project : Option Path)
  | dispose
  /-- Something changes on the host. -/
  | host (change : σ → σ)
  | openBuffer (name : String) (buffer : Buffer)
  | edit (name : String) (step : Document.Step)
  | format (name : String) (tool : Option Tool) (file : Option Path)
  | willSave (name : String)
  /-- Asks to format a document and holds the request if it comes to the searches of a rebuild. -/
  | startFormat (id name : String) (tool : Option Tool) (file : Option Path)
  | startWillSave (id name : String)

structure Held where
  rebuild : Rebuild
  /-- The document to format afterwards, if a request to format has led to the rebuild. -/
  formatting : Option (String × Request)
  deriving DecidableEq, Repr

end Session

structure Session (σ : Type) where
  coordinator : Coordinator σ
  observation : Option Observation
  held : List (String × Session.Held)
  /-- Rebuilds of listeners that are stopped and not yet reaped. -/
  aborted : List Rebuild
  buffers : List (String × Buffer)

namespace Session

variable {σ : Type}

def new (c : Coordinator σ) : Session σ := ⟨c, none, [], [], []⟩

def buffer? (s : Session σ) (name : String) : Option Buffer :=
  (s.buffers.find? (·.1 == name)).map (·.2)

def setBuffer (s : Session σ) (name : String) (b : Buffer) : Session σ :=
  { s with buffers := s.buffers.filter (·.1 != name) ++ [(name, b)] }

def withCoordinator (s : Session σ) (c : Coordinator σ) : Session σ := { s with coordinator := c }

/-- Wakes the sleeping listeners if the slot is free. -/
def wake (s : Session σ) : Session σ :=
  if s.coordinator.rebuilding then s else { s with observation := s.observation.map (·.wake) }

/-- Stops both listeners. One that has the slot keeps it for the time being. -/
def stopListening (s : Session σ) : Session σ :=
  { s with observation := none, aborted := s.observation.elim [] (·.searching) ++ s.aborted }

/-- Those who are stopped are gone, and the slot is given back if one of them had it. -/
def reap (s : Session σ) : Session σ :=
  if s.aborted = [] then s
  else { s with coordinator := s.coordinator.release, aborted := [] }.wake

variable [Host σ]

def prepare (call : Call) (c : Coordinator σ) : Coordinator σ :=
  match call with
  | .rebuild => c
  | .projectsChanged roots => c.setRoots roots
  | .toolChanged tool => c.setTool tool

def start (s : Session σ) (id : String) (call : Call) : Session σ × Reply :=
  match (prepare call s.coordinator).beginRebuild with
  | (c, .searching rebuild) =>
    if rebuild.searches = [] then
      let (c, rebuilt) := c.finishRebuild rebuild
      ((s.withCoordinator c).wake, .flag rebuilt)
    else ({ s with coordinator := c, held := s.held ++ [(id, ⟨rebuild, none⟩)] }, .pending)
  | (c, _) => (s.withCoordinator c, .flag false)

def deliver (s : Session σ) (name : String) : Coordinator σ × Buffer × Outcome → Session σ × Reply
  | (c, b, outcome) => (((s.withCoordinator c).setBuffer name b).wake, .outcome outcome)

def startFormat (s : Session σ) (id name : String) (b : Buffer) (tool : Option Tool)
    (file : Option Path) : Session σ × Reply :=
  match s.coordinator.beginFormat b tool file with
  | (c, .skipped) => s.deliver name (c, b, .skipped)
  | (c, .ready r) => s.deliver name (c.serve r b)
  | (c, .searching r rebuild) =>
    if rebuild.searches = [] then s.deliver name ((c.finishRebuild rebuild).1.serve r b)
    else
      ({ s with coordinator := c, held := s.held ++ [(id, ⟨rebuild, some (name, r)⟩)] }, .pending)

def held? (s : Session σ) (id : String) : Option Held :=
  (s.held.find? (·.1 == id)).map (·.2)

def forget (s : Session σ) (id : String) : Session σ :=
  { s with held := s.held.filter (·.1 != id) }

/-- What is held comes to its end: the rebuild, and then the request that has led to it. -/
def finish (s : Session σ) (id : String) (held : Held) : Session σ × Reply :=
  let (c, rebuilt) := s.coordinator.finishRebuild held.rebuild
  let s := (s.forget id).withCoordinator c
  match held.formatting with
  | none => (s.wake, .flag rebuilt)
  | some (name, r) =>
    match s.buffer? name with
    | none => (s.wake, .nothing)
    | some b => s.deliver name (c.serve r b)

def observe (s : Session σ) (channel : String) (roots : List ProjectRoot) : Session σ :=
  if s.coordinator.disposed then s
  else
    let changed : Bool := roots ≠ s.coordinator.roots
    let s := s.stopListening
    let c := if changed then s.coordinator.setRoots roots else s.coordinator
    { s with coordinator := c, observation := some (.begin channel roots changed) }

def send (s : Session σ) (channel : String) (roots : List ProjectRoot) : Session σ :=
  let receive (o : Observation) : Observation :=
    if o.channel = channel then { o with newest := roots }.announce .projects else o
  { s with observation := s.observation.map receive }

def perform (s : Session σ) : Step σ → Session σ × Reply
  | .call call =>
    let (c, rebuilt) := (prepare call s.coordinator).rebuild
    ((s.withCoordinator c).wake, .flag rebuilt)
  | .start id call => s.start id call
  | .finish id =>
    match s.held? id with
    | some held => s.finish id held
    | none => (s, .notHeld)
  | .drop id =>
    match s.held? id with
    | some _ => (((s.forget id).withCoordinator s.coordinator.release).wake, .flag true)
    | none => (s, .flag false)
  | .settings settings =>
    ({ s with coordinator := { s.coordinator with settings := settings },
              observation := s.observation.map (·.announce .settings) }, .nothing)
  | .observe channel roots => (s.observe channel roots, .nothing)
  | .send channel roots => (s.send channel roots, .nothing)
  | .resolve tool project => (s, .path (s.coordinator.resolved tool project))
  | .dispose =>
    let s := s.stopListening
    (s.withCoordinator s.coordinator.dispose, .nothing)
  | .host change => (s.withCoordinator (s.coordinator.onHost change), .nothing)
  | .openBuffer name buffer => (s.setBuffer name buffer, .nothing)
  | .edit name step =>
    match s.buffer? name with
    | none => (s, .nothing)
    | some b =>
      match b.document.perform step with
      | .ok (d, undone) =>
        (s.setBuffer name { b with document := d }, undone.elim .nothing .flag)
      | .error fault => (s, .fault fault)
  | .format name tool file =>
    match s.buffer? name with
    | none => (s, .nothing)
    | some b => s.deliver name (s.coordinator.format b tool file)
  | .willSave name =>
    match s.buffer? name with
    | none => (s, .nothing)
    | some b => s.deliver name (s.coordinator.willSave b)
  | .startFormat id name tool file =>
    match s.buffer? name with
    | none => (s, .nothing)
    | some b => s.startFormat id name b tool file
  | .startWillSave id name =>
    match s.buffer? name with
    | none => (s, .nothing)
    | some b =>
      if s.coordinator.settings.formatOnSave then s.startFormat id name b none none
      else s.deliver name (s.coordinator, b, .skipped)

/-- Lets the listeners run until both wait. Those who are stopped have their turn before the
listeners that replace them. -/
def settle (s : Session σ) : Session σ :=
  let s := s.reap
  match s.observation with
  | none => s
  | some o =>
    let w := Observed.settle ⟨s.coordinator, o⟩
    { s with coordinator := w.coordinator, observation := some w.observation }

def step (s : Session σ) (step : Step σ) : Session σ × Reply :=
  let (s, reply) := s.perform step
  (s.settle, reply)

end Session

end FormatService
