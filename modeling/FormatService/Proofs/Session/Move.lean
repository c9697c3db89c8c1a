import FormatService.Proofs.Session.Request

/-!
# What a session can do at once

Every action is a few moves, and a move says all that it changes, up to the host
and the buffers. A property that each move keeps is kept by every run. Calls other
than the allowed ones are left out, for properties that some calls would break.
-/

set_option autoImplicit false

namespace FormatService

open Coordinator (Rebuild concluded)

namespace Coordinator

variable {σ : Type}

variable [Host σ]

/-- Nothing but the host has changed, or a whole rebuild has taken place. -/
inductive Carried (c : Coordinator σ) : List Entry → Coordinator σ → Prop
  | same (h : σ) : Carried c [] { c with host := h }
  | rebuilt (h : σ) (found : Option (List (CacheKey × Option String)))
      (free : c.rebuilding = false) (live : c.disposed = false) (finds : c.CanFind c.plan found) :
      Carried c [.ended c.plan found, .began c.plan] { concluded c.plan found c with host := h }

theorem Carried.host {c c' : Coordinator σ} {es : List Entry} (hc : Carried c es c') (h : σ) :
    Carried c es { c' with host := h } := by
  cases hc with
  | same => exact .same h
  | rebuilt _ found free live finds => exact .rebuilt h found free live finds

theorem rebuild_carried (c : Coordinator σ) : Carried c c.wholeEntries c.rebuild.1 := by
  rcases c.beginRebuild_cases with ⟨-, h, hb⟩ | ⟨-, -, hb⟩ | ⟨hf, hl, h, hb⟩
  · rw [wholeEntries, rebuild, hb]
    exact .same h
  · rw [wholeEntries, rebuild, hb]
    exact .same c.host
  · obtain ⟨h', hr⟩ := finishRebuild_eq c.plan { c with host := h, rebuilding := true }
    rw [wholeEntries, rebuild, hb]
    simp only [hr, concluded_begun]
    exact .rebuilt h' _ hf hl ⟨h, rfl⟩

theorem lookUp_carried (r : Request) (c : Coordinator σ) :
    Carried c (if (c.command? r).isNone then c.wholeEntries else []) (c.lookUp r) := by
  rw [lookUp]
  cases c.command? r with
  | some command => exact .same c.host
  | none => exact c.rebuild_carried

theorem format_carried (b : Buffer) (tool : Option Tool) (file : Option Path) (c : Coordinator σ) :
    Carried c (c.formatEntries b tool file) (c.format b tool file).1 := by
  rw [formatEntries, lacks]
  cases editable : b.document.editable with
  | false =>
    rw [format_locked editable]
    exact .same c.host
  | true =>
    rw [(format_formats editable tool file c).coordinator]
    exact (c.lookUp_carried (c.request b tool file)).host _

end Coordinator

namespace Call

def keepsRoots : Call → Bool
  | .projectsChanged _ => false
  | _ => true

def keepsTool : Call → Bool
  | .toolChanged _ => false
  | _ => true

end Call

namespace Session

variable {σ : Type}

def Step.Calls (allowed : Call → Prop) : Step σ → Prop
  | .call c => allowed c
  | .start _ c => allowed c
  | _ => True

instance (allowed : Call → Prop) [DecidablePred allowed] :
    (step : Step σ) → Decidable (step.Calls allowed)
  | .call c => inferInstanceAs (Decidable (allowed c))
  | .start _ c => inferInstanceAs (Decidable (allowed c))
  | .finish _ | .drop _ | .settings _ | .observe _ _ | .send _ _ | .resolve _ _ | .dispose
  | .host _ | .openBuffer _ _ | .edit _ _ | .format _ _ _ | .willSave _ | .startFormat _ _ _ _
  | .startWillSave _ _ => isTrue trivial

theorem Step.calls_any (step : Step σ) : step.Calls fun _ => True := by
  cases step <;> trivial

variable [Host σ]

/-- What a session can do at once, and the entry that tells of it. -/
inductive Move (allowed : Call → Prop) (s : Session σ) : List Entry → Session σ → Prop
  /-- Only the host and the buffers change. -/
  | still (h : σ) (buffers : List (String × Buffer)) :
      Move allowed s [] { s with coordinator := { s.coordinator with host := h }
                                 buffers := buffers }
  | prepare (call : Call) (ok : allowed call) :
      Move allowed s [] (s.withCoordinator (prepare call s.coordinator))
  | settings (settings : Settings) :
      Move allowed s [] { s with coordinator := { s.coordinator with settings := settings }
                                 observation := s.observation.map (·.announce .settings) }
  | send (channel : String) (roots : List ProjectRoot) : Move allowed s [] (s.send channel roots)
  | wake (free : s.coordinator.rebuilding = false) :
      Move allowed s [] { s with observation := s.observation.map (·.wake) }
  | queue (turns : List Role) :
      Move allowed s [] { s with observation := s.observation.map fun o => { o with queue := turns } }
  /-- A caller's rebuild is held at its searches. -/
  | hold (id : String) (formatting : Option (String × Coordinator.Request))
      (free : s.coordinator.rebuilding = false) (live : s.coordinator.disposed = false) :
      Move allowed s [.began s.coordinator.plan]
        { s with coordinator := { s.coordinator with rebuilding := true }
                 held := s.held ++ [(id, ⟨s.coordinator.plan, formatting⟩)] }
  /-- A caller's rebuild runs from its start to its end. -/
  | whole (found : Option (List (CacheKey × Option String)))
      (free : s.coordinator.rebuilding = false) (live : s.coordinator.disposed = false)
      (finds : s.coordinator.CanFind s.coordinator.plan found) :
      Move allowed s [.ended s.coordinator.plan found, .began s.coordinator.plan]
        { s with coordinator := concluded s.coordinator.plan found s.coordinator
                 observation := s.observation.map (·.wake) }
  | finish (id : String) (held : Held) (found : Option (List (CacheKey × Option String)))
      (there : s.held? id = some held) (finds : s.coordinator.CanFind held.rebuild found) :
      Move allowed s [.ended held.rebuild found]
        { s.forget id with coordinator := concluded held.rebuild found s.coordinator
                           observation := s.observation.map (·.wake) }
  | drop (id : String) (held : Held) (there : s.held? id = some held) :
      Move allowed s []
        { s.forget id with coordinator := s.coordinator.release
                           observation := s.observation.map (·.wake) }
  | observe (channel : String) (roots : List ProjectRoot)
      (live : s.coordinator.disposed = false) :
      Move allowed s (if s.forfeits roots then [.forfeited roots] else []) (s.observe channel roots)
  | dispose : Move allowed s [] (s.stopListening.withCoordinator s.stopListening.coordinator.dispose)
  /-- A listener that was stopped at its searches gives the slot back. -/
  | reap (stopped : s.aborted ≠ []) :
      Move allowed s []
        { s with coordinator := s.coordinator.release
                 observation := s.observation.map (·.wake)
                 aborted := [] }
  /-- A listener takes up a new value. -/
  | adopt (o : Observation) (observed : s.observation = some o) (idle : o.projects.phase = .idle)
      (unseen : o.projects.unseen = true) :
      Move allowed s [] { s with coordinator := s.coordinator.setRoots o.newest
                                 observation := some (o.setListener .projects ⟨false, .wanting⟩) }
  | look (o : Observation) (observed : s.observation = some o) (idle : o.settings.phase = .idle)
      (unseen : o.settings.unseen = true) (phase : Phase)
      (heed : phase = .wanting ∨
        phase = .idle ∧ s.coordinator.settings.toolPaths = s.coordinator.appliedPaths) :
      Move allowed s [.looked s.coordinator.settings.toolPaths]
        { s with coordinator := { s.coordinator with tool := s.coordinator.settings.tool }
                 observation := some (o.setListener .settings ⟨false, phase⟩) }
  /-- A listener that wants to rebuild finds the slot taken. -/
  | sleep (role : Role) (o : Observation) (observed : s.observation = some o)
      (wanting : (o.listener role).phase = .wanting) (busy : s.coordinator.rebuilding = true) :
      Move allowed s []
        { s with observation := some { o.setPhase role .asleep with
                                       sleepers := o.sleepers ++ [role] } }
  | quit (role : Role) (o : Observation) (observed : s.observation = some o)
      (wanting : (o.listener role).phase = .wanting) (late : s.coordinator.disposed = true) :
      Move allowed s [] { s with observation := some (o.wake.setPhase role .idle) }
  /-- A listener that wants to rebuild gets the slot. -/
  | search (role : Role) (o : Observation) (observed : s.observation = some o)
      (wanting : (o.listener role).phase = .wanting) (free : s.coordinator.rebuilding = false)
      (live : s.coordinator.disposed = false) :
      Move allowed s [.began s.coordinator.plan]
        { s with coordinator := { s.coordinator with rebuilding := true }
                 observation := some (o.setPhase role (.searching s.coordinator.plan)) }
  | conclude (role : Role) (rebuild : Rebuild) (o : Observation)
      (found : Option (List (CacheKey × Option String))) (observed : s.observation = some o)
      (searching : (o.listener role).phase = .searching rebuild)
      (finds : s.coordinator.CanFind rebuild found) :
      Move allowed s [.ended rebuild found]
        { s with coordinator := concluded rebuild found s.coordinator
                 observation := some (o.wake.setPhase role .idle) }

/-- Moves one after the other, with all their entries, the newest first. -/
inductive Moves (allowed : Call → Prop) (s : Session σ) : List Entry → Session σ → Prop
  | none : Moves allowed s [] s
  | next {es es' : List Entry} {s' s'' : Session σ} (moves : Moves allowed s es s')
      (move : Move allowed s' es' s'') : Moves allowed s (es' ++ es) s''

namespace Moves

variable {allowed : Call → Prop} {s s' s'' : Session σ} {es es' : List Entry}

theorem one (move : Move allowed s es s') : Moves allowed s es s' := by
  have h := Moves.next .none move
  rwa [List.append_nil] at h

theorem trans (h : Moves allowed s es s') (h' : Moves allowed s' es' s'') :
    Moves allowed s (es' ++ es) s'' := by
  induction h' with
  | none => exact h
  | next _ move ih =>
    rw [List.append_assoc]
    exact .next ih move

theorem still (h : Moves allowed s es s') (host : σ) (buffers : List (String × Buffer)) :
    Moves allowed s es { s' with coordinator := { s'.coordinator with host := host }
                                 buffers := buffers } :=
  h.next (.still host buffers)

theorem wake (h : Moves allowed s es s') : Moves allowed s es s'.wake := by
  by_cases hr : s'.coordinator.rebuilding = true
  · rwa [wake_of_busy hr]
  · have free : s'.coordinator.rebuilding = false := by simpa using hr
    rw [wake_of_free free]
    exact h.next (.wake free)

end Moves

theorem carried_moves {allowed : Call → Prop} {s : Session σ} {es : List Entry}
    {c : Coordinator σ} (hc : s.coordinator.Carried es c) (buffers : List (String × Buffer)) :
    Moves allowed s es { s.withCoordinator c with buffers := buffers }.wake := by
  cases hc with
  | same h => exact (Moves.none.still h buffers).wake
  | rebuilt h found free live finds =>
    have hm : Moves allowed s _ _ := .one (.whole found free live finds)
    have hw := hm.still h buffers
    have hf : (concluded s.coordinator.plan found s.coordinator).rebuilding = false := by
      cases found <;> rfl
    rw [wake_of_free (by exact hf)]
    exact hw

variable {allowed : Call → Prop}

theorem start_moves (s : Session σ) (id : String) (call : Call) (ok : allowed call) :
    Moves allowed s (prepare call s.coordinator).startEntries (s.start id call).1 := by
  have hp : Moves allowed s [] (s.withCoordinator (prepare call s.coordinator)) :=
    .one (.prepare call ok)
  have hr := (prepare call s.coordinator).rebuild_carried
  rw [start]
  generalize prepare call s.coordinator = c at hp hr ⊢
  rcases c.beginRebuild_cases with ⟨-, h, hb⟩ | ⟨-, -, hb⟩ | ⟨free, live, h, hb⟩
  · simp only [Coordinator.startEntries, hb]
    exact hp.still h s.buffers
  · simp only [Coordinator.startEntries, hb]
    exact hp
  · by_cases hn : c.plan.searches = []
    · rw [Coordinator.rebuild, hb] at hr
      simp only [Coordinator.startEntries, hb, if_pos hn]
      have hm := hp.trans (carried_moves hr s.buffers)
      rwa [List.append_nil] at hm
    · simp only [Coordinator.startEntries, hb, if_neg hn]
      exact (hp.next (.hold id none free live)).still h s.buffers

theorem requested_moves {s : Session σ} {step : Step σ} {name : String}
    (h : s.Requested step name) : Moves allowed s (s.performEntries step) (s.perform step).1 := by
  cases h with
  | missing missing does told =>
    rw [does, told]
    exact .none
  | skipped b there does told =>
    rw [does, told]
    exact carried_moves (.same s.coordinator.host) _
  | formatted b tool file there does told =>
    rw [does, told]
    exact carried_moves (s.coordinator.format_carried b tool file) _
  | held id formatting free live does told =>
    rw [does, told, Coordinator.beginRebuild_eq free live]
    exact (Moves.one (.hold id formatting free live)).still _ s.buffers

theorem perform_moves (s : Session σ) (step : Step σ) (ok : step.Calls allowed) :
    Moves allowed s (s.performEntries step) (s.perform step).1 := by
  cases step with
  | call call =>
    have hp : Moves allowed s [] (s.withCoordinator (prepare call s.coordinator)) :=
      .one (.prepare call ok)
    have hc := (prepare call s.coordinator).rebuild_carried
    have h := hp.trans (carried_moves hc s.buffers)
    rw [List.append_nil] at h
    exact h
  | start id call => exact start_moves s id call ok
  | finish id =>
    cases hh : s.held? id with
    | none =>
      simp only [performEntries, perform, hh]
      exact .none
    | some held =>
      obtain ⟨host, buffers, hf, -⟩ := s.finish_eq id held
      simp only [performEntries, perform, hh, hf]
      have hm : Moves allowed s _ _ :=
        .one (.finish id held _ hh (s.coordinator.found?_canFind held.rebuild))
      exact hm.still host buffers
  | drop id =>
    cases hh : s.held? id with
    | none =>
      simp only [performEntries, perform, hh]
      exact .none
    | some r =>
      simp only [performEntries, perform, hh]
      exact .one (.drop id r hh)
  | settings settings => exact .one (.settings settings)
  | observe channel roots =>
    by_cases hd : s.coordinator.disposed = true
    · simp only [performEntries, perform, observe, forfeits, hd]
      exact .none
    · exact .one (.observe channel roots (by simpa using hd))
  | send channel roots => exact .one (.send channel roots)
  | resolve tool project => exact .none
  | dispose => exact .one .dispose
  | host change => exact Moves.none.still (change s.coordinator.host) s.buffers
  | openBuffer name buffer => exact Moves.none.still s.coordinator.host _
  | edit name step =>
    rw [performEntries, perform]
    · cases hb : s.buffer? name with
      | none => exact .none
      | some b =>
        simp only
        split
        · exact Moves.none.still s.coordinator.host _
        · exact .none
    all_goals simp
  | format name tool file => exact requested_moves (s.requested rfl)
  | willSave name => exact requested_moves (s.requested rfl)
  | startFormat id name tool file => exact requested_moves (s.requested rfl)
  | startWillSave id name => exact requested_moves (s.requested rfl)

theorem contend_moves {s : Session σ} {o : Observation} (ho : s.observation = some o)
    {role : Role} (hp : (o.listener role).phase = .wanting) :
    Moves allowed s s.coordinator.startEntries
      { s with coordinator := (Observed.contend role ⟨s.coordinator, o⟩).coordinator
               observation := some (Observed.contend role ⟨s.coordinator, o⟩).observation } := by
  rw [Observed.contend]
  rcases s.coordinator.beginRebuild_cases with ⟨busy, h, hb⟩ | ⟨free, late, hb⟩ | ⟨free, live, h, hb⟩
  · simp only [Coordinator.startEntries, hb, Observation.sleepers_setPhase]
    exact (Moves.one (.sleep role o ho hp busy)).still h s.buffers
  · simp only [Coordinator.startEntries, hb]
    exact .one (.quit role o ho hp late)
  · have hs : Moves allowed s [.began s.coordinator.plan] _ :=
      .one (.search role o ho hp free live)
    by_cases hn : s.coordinator.plan.searches = []
    -- With nothing to search for, the listener takes the slot and gives it back at once.
    · let c := { s.coordinator with host := h, rebuilding := true }
      obtain ⟨h', hf⟩ := Coordinator.finishRebuild_eq s.coordinator.plan c
      have hc := hs.next (.conclude role s.coordinator.plan _ (c.found? s.coordinator.plan) rfl
        (by rw [Observation.setPhase, Observation.listener_setListener]) ⟨h, rfl⟩)
      rw [Observation.setPhase_wake, Coordinator.concluded_busy] at hc
      simp only [Coordinator.startEntries, Coordinator.wholeEntries, hb, if_pos hn,
        Observed.conclude, Observed.rest, Observed.finish, hf, c, Coordinator.concluded_begun]
      exact hc.still h' s.buffers
    · simp only [Coordinator.startEntries, hb, if_neg hn, Observation.enqueue_eq]
      exact (hs.next (.queue _)).still h s.buffers

theorem look_moves {s : Session σ} {o : Observation} (ho : s.observation = some o)
    (hp : o.settings.phase = .idle) (hu : o.settings.unseen = true) :
    Moves allowed s [.looked s.coordinator.settings.toolPaths]
      { s with coordinator := (Observed.takeUp .settings ⟨s.coordinator, o⟩).coordinator
               observation := some (Observed.takeUp .settings ⟨s.coordinator, o⟩).observation } := by
  let c := s.coordinator
  let phase : Phase :=
    if c.settings.tool ≠ c.tool ∨ c.settings.toolPaths ≠ c.appliedPaths then .wanting else .idle
  have heed : phase = .wanting ∨ phase = .idle ∧ c.settings.toolPaths = c.appliedPaths := by
    by_cases h : c.settings.tool ≠ c.tool ∨ c.settings.toolPaths ≠ c.appliedPaths
    · exact .inl (if_pos h)
    · exact .inr ⟨if_neg h, Decidable.of_not_not fun hn => h (.inr hn)⟩
  have hm : Moves allowed s _ _ := .one (.look o ho hp hu phase heed)
  rw [Observed.takeUp]
  by_cases ht : c.settings.tool ≠ c.tool
  · rw [if_pos ht]
    exact hm.still _ s.buffers
  · rw [if_neg ht]
    have he : { s.coordinator with tool := s.coordinator.settings.tool } = s.coordinator := by
      rw [Decidable.of_not_not ht]
    rw [he] at hm
    exact hm

theorem advance_moves {s : Session σ} {o : Observation} (ho : s.observation = some o)
    (role : Role) :
    Moves allowed s (advanceEntries role ⟨s.coordinator, o⟩) (s.listen (·.advance role)) := by
  rw [listen_some ho, Observed.advance, advanceEntries]
  cases hp : (o.listener role).phase with
  | idle =>
    by_cases hu : (o.listener role).unseen = true
    · cases role with
      | projects =>
        simp only [hu, if_true]
        exact .one (.adopt o ho hp hu)
      | settings =>
        have hl : o.settings.unseen = true := hu
        simp only [hu, hl, and_self, if_true]
        exact look_moves ho hp hu
    · have hl : ¬(role = .settings ∧ o.settings.unseen = true) := by
        rintro ⟨rfl, h⟩
        exact hu h
      simp only [if_neg hu, if_neg hl, ← ho]
      exact .none
  | wanting => exact contend_moves ho hp
  | searching r =>
    obtain ⟨h, hf⟩ := Coordinator.finishRebuild_eq r s.coordinator
    simp only [Observed.conclude, Observed.rest, Observed.finish, hf]
    exact (Moves.one (.conclude role r o _ ho hp
      (s.coordinator.found?_canFind r))).still h s.buffers
  | asleep =>
    simp only [← ho]
    exact .none

theorem act_moves (s : Session σ) (action : Action σ)
    (ok : ∀ step, action.step? = some step → step.Calls allowed) :
    Moves allowed s (s.entries action) (s.act action) := by
  cases action with
  | perform step => exact perform_moves s step (ok step rfl)
  | advance role =>
    cases ho : s.observation with
    | none =>
      simp only [entries, act, ho, listen_none ho]
      exact .none
    | some o =>
      simp only [entries, act, ho]
      exact advance_moves ho role
  | queue turns =>
    have hq : s.act (.queue turns) =
        { s with observation := s.observation.map fun o => { o with queue := turns } } := by
      cases ho : s.observation with
      | none => rw [act, listen_none ho, Option.map_none, ← ho]
      | some o => rw [act, listen_some ho, Option.map_some]
    rw [hq]
    exact .one (.queue turns)
  | reap =>
    rcases s.reap_cases with ⟨-, same⟩ | ⟨stopped, reaped⟩
    · rw [act, same]
      exact .none
    · rw [act, reaped]
      exact .one (.reap stopped)

end Session

namespace Chronicled

variable {σ : Type} [Host σ] (allowed : Call → Prop) {P : Chronicled σ → Prop}

theorem moves_keep
    (keeps : ∀ {x es s'}, P x → Session.Move allowed x.session es s' → P ⟨s', es ++ x.log⟩)
    {x : Chronicled σ} (h : P x) {es : List Entry} {s' : Session σ}
    (moves : Session.Moves allowed x.session es s') : P ⟨s', es ++ x.log⟩ := by
  induction moves with
  | none => exact h
  | next _ move ih =>
    rw [List.append_assoc]
    exact keeps ih move

theorem run_keeps
    (keeps : ∀ {x es s'}, P x → Session.Move allowed x.session es s' → P ⟨s', es ++ x.log⟩)
    {x : Chronicled σ} (h : P x) (actions : List (Action σ))
    (ok : ∀ step ∈ Action.steps actions, step.Calls allowed) : P (x.run actions) := by
  induction actions generalizing x with
  | nil => exact h
  | cons action actions ih =>
    have first : ∀ step, action.step? = some step → step.Calls allowed := fun step hs =>
      ok step (List.mem_filterMap.mpr ⟨action, List.mem_cons_self, hs⟩)
    have rest : ∀ step ∈ Action.steps actions, step.Calls allowed := by
      intro step hs
      obtain ⟨a, ha, hs⟩ := List.mem_filterMap.mp hs
      exact ok step (List.mem_filterMap.mpr ⟨a, List.mem_cons_of_mem _ ha, hs⟩)
    exact ih (moves_keep allowed keeps h (Session.act_moves x.session action first)) rest

end Chronicled

end FormatService
