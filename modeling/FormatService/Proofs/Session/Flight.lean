import FormatService.Proofs.Session.Barred
import FormatService.Proofs.Session.Tracking

/-!
# How a rebuild holds the slot and gives it back

Only the rebuild that has the slot can give it back, and it always does: at its end, when
what holds it is dropped, and when its listener was stopped and is reaped. As long as it
has the slot, attempts of others are refused and leave no trace.
-/

set_option autoImplicit false

namespace FormatService

open Coordinator (Rebuild)
open Host (Asked)

namespace Session

variable {σ : Type}

theorem suspended_map {s : Session σ} {f : Observation → Observation}
    (h : ∀ o, (f o).searching = o.searching) (c : Coordinator σ) :
    suspended { s with coordinator := c, observation := s.observation.map f } = s.suspended := by
  rw [suspended, suspended]
  cases s.observation with
  | none => rfl
  | some o => rw [Option.map_some, Option.elim_some, Option.elim_some, h o]

theorem stopListening_aborted {s : Session σ} {o : Observation} (observed : s.observation = some o)
    {role : Role} {rebuild : Rebuild} (searching : (o.listener role).phase = .searching rebuild) :
    rebuild ∈ s.stopListening.aborted := by
  rw [stopListening, observed]
  exact List.mem_append_left _ (Observation.mem_searching.mpr ⟨role, searching⟩)

def Step.stops : Step σ → Bool
  | .observe _ _ | .dispose => true
  | _ => false

variable [Host σ]

/-- In this action somebody attempts a rebuild, or would if the cache has no command. -/
inductive Attempts (s : Session σ) : Action σ → Prop
  | call (call : Call) : Attempts s (.perform (.call call))
  | start (id : String) (call : Call) : Attempts s (.perform (.start id call))
  | request (step : Step σ) (name : String) (asks : step.document? = some name) :
      Attempts s (.perform step)
  | listener (role : Role) (o : Observation) (observed : s.observation = some o)
      (wanting : (o.listener role).phase = .wanting) : Attempts s (.advance role)

/-- An attempt is refused: it issues no search and leaves cache, tool paths and slot alone. -/
structure Refuses (s s' : Session σ) : Prop where
  cache : s'.coordinator.cache = s.coordinator.cache
  paths : s'.coordinator.appliedPaths = s.coordinator.appliedPaths
  busy : s'.coordinator.rebuilding = true
  suspended : s'.suspended = s.suspended
  searches : Asked (fun e => !e.isSearch) s.coordinator.host s'.coordinator.host

/-- In this action the suspended rebuild comes to its end or is given up. -/
inductive Ends (s : Session σ) : Rebuild → Action σ → Prop
  /-- A call or a request to format goes on. -/
  | finished (id : String) (held : Held) (there : s.held? id = some held) :
      Ends s held.rebuild (.perform (.finish id))
  | dropped (id : String) (held : Held) (there : s.held? id = some held) :
      Ends s held.rebuild (.perform (.drop id))
  | concluded (role : Role) (rebuild : Rebuild) (o : Observation)
      (observed : s.observation = some o)
      (searching : (o.listener role).phase = .searching rebuild) : Ends s rebuild (.advance role)
  /-- The listener that has the slot was stopped before. -/
  | reaped (rebuild : Rebuild) (stopped : rebuild ∈ s.aborted) : Ends s rebuild .reap

theorem refuses_host {s : Session σ} (busy : s.coordinator.rebuilding = true) {c : Coordinator σ}
    (same : c.cache = s.coordinator.cache ∧ c.appliedPaths = s.coordinator.appliedPaths ∧
      c.rebuilding = s.coordinator.rebuilding)
    (asked : Asked (fun e => !e.isSearch) s.coordinator.host c.host)
    (buffers : List (String × Buffer)) :
    s.Refuses { s.withCoordinator c with buffers := buffers } :=
  ⟨same.1, same.2.1, same.2.2.trans busy, rfl, asked⟩

theorem Refuses.wake {s s' : Session σ} (h : s.Refuses s') : s.Refuses s'.wake := by
  rw [wake_of_busy h.busy]
  exact h

theorem refuses_deliver {s : Session σ} (busy : s.coordinator.rebuilding = true) (name : String)
    {host : σ} (asked : Asked (fun e => !e.isSearch) s.coordinator.host host) (b : Buffer)
    (outcome : Outcome) :
    s.Refuses (s.deliver name ({ s.coordinator with host := host }, b, outcome)).1 :=
  (refuses_host busy (c := { s.coordinator with host := host }) ⟨rfl, rfl, rfl⟩ asked
    (s.setBuffer name b).buffers).wake

theorem refuses_requested {s : Session σ} (busy : s.coordinator.rebuilding = true) {step : Step σ}
    {name : String} (requested : s.Requested step name) : s.Refuses (s.perform step).1 := by
  cases requested with
  | missing missing does told =>
    rw [does]
    exact refuses_host busy ⟨rfl, rfl, rfl⟩ (.refl _) s.buffers
  | skipped b there does told =>
    rw [does]
    exact refuses_deliver busy name (.refl _) b .skipped
  | formatted b tool file there does told =>
    have barred : s.coordinator.Barred := .inl busy
    obtain ⟨host, hf, asked, -⟩ := barred.format b tool file
    rw [does]
    generalize s.coordinator.format b tool file = r at hf ⊢
    obtain ⟨c, b', outcome⟩ := r
    obtain rfl : c = _ := hf
    exact refuses_deliver busy name (asked.mono Event.not_isSearch_of_isRun) b' outcome
  | held id formatting free live does told =>
    rw [busy] at free
    contradiction

theorem Attempts.refused {s : Session σ} (busy : s.coordinator.rebuilding = true)
    {action : Action σ} (h : s.Attempts action) : s.Refuses (s.act action) := by
  have barred : s.coordinator.Barred := .inl busy
  have prepared : ∀ (call : Call) (host : σ),
      let c := { prepare call s.coordinator with host := host }
      c.cache = s.coordinator.cache ∧ c.appliedPaths = s.coordinator.appliedPaths ∧
        c.rebuilding = s.coordinator.rebuilding := by
    intro call host
    cases call <;> exact ⟨rfl, rfl, rfl⟩
  cases h with
  | call call =>
    obtain ⟨host, hp, asked⟩ := perform_call_barred barred call
    rw [act, hp]
    exact (refuses_host busy (prepared call host) (asked.mono Event.not_isSearch_of_isNote) s.buffers).wake
  | start id call =>
    obtain ⟨host, hp, asked⟩ := start_barred barred id call
    rw [act, perform, hp]
    exact refuses_host busy (prepared call host) (asked.mono Event.not_isSearch_of_isNote) s.buffers
  | request step name asks => exact refuses_requested busy (s.requested asks)
  | listener role o observed wanting =>
    obtain ⟨host, hb, asked⟩ := Coordinator.beginRebuild_refused busy
    have ha : s.act (.advance role) =
        { s with coordinator := { s.coordinator with host := host }
                 observation := some { o.setPhase role .asleep with
                                       sleepers := (o.setPhase role .asleep).sleepers ++ [role] } } := by
      rw [act, listen_some observed, Observed.advance, wanting]
      simp only [Observed.contend, hb]
    rw [ha]
    refine ⟨rfl, rfl, busy, ?_, asked.mono Event.not_isSearch_of_isNote⟩
    have same : (o.setPhase role .asleep).searching = o.searching :=
      Observation.searching_setListener role _ (by rw [wanting]; rfl) rfl
    rw [suspended, suspended, observed, Option.elim_some, Option.elim_some, ← same]
    rfl

theorem Ends.released {s : Session σ} {rebuild : Rebuild} {action : Action σ}
    (h : s.Ends rebuild action) : (s.act action).coordinator.rebuilding = false := by
  cases h with
  | finished id held there =>
    obtain ⟨host, buffers, hf, -⟩ := s.finish_eq id held
    simp only [act, perform, there, hf]
    exact Coordinator.concluded_rebuilding _ _ _
  | dropped id held there =>
    simp only [act, perform, there]
    rw [wake_of_free rfl]
    rfl
  | concluded role rebuild o observed searching =>
    obtain ⟨host, hf⟩ := Coordinator.finishRebuild_eq rebuild s.coordinator
    rw [act, listen_some observed, Observed.advance, searching]
    simp only [Observed.conclude, Observed.rest, Observed.finish, hf]
    exact Coordinator.concluded_rebuilding _ _ _
  | reaped rebuild stopped =>
    rcases s.reap_cases with ⟨none, -⟩ | ⟨-, reaped⟩
    · rw [none] at stopped
      exact absurd stopped List.not_mem_nil
    · rw [act, reaped]
      rfl

theorem suspended_edit (s : Session σ) (name : String) (step : Document.Step) :
    (s.perform (.edit name step)).1.suspended = s.suspended := by
  simp only [perform]
  cases s.buffer? name with
  | none => rfl
  | some b =>
    simp only
    split <;> rfl

theorem perform_ends_or_suspended {s : Session σ} (busy : s.coordinator.rebuilding = true)
    (step : Step σ) :
    (∃ rebuild, s.Ends rebuild (.perform step)) ∨ (s.perform step).1.suspended = s.suspended := by
  have refused : s.Attempts (.perform step) → (s.perform step).1.suspended = s.suspended :=
    fun h => (h.refused busy).suspended
  cases step with
  | call call => exact .inr (refused (.call call))
  | start id call => exact .inr (refused (.start id call))
  | finish id =>
    cases there : s.held? id with
    | none => exact .inr (by simp only [perform, there])
    | some held => exact .inl ⟨held.rebuild, .finished id held there⟩
  | drop id =>
    cases there : s.held? id with
    | none => exact .inr (by simp only [perform, there])
    | some held => exact .inl ⟨held.rebuild, .dropped id held there⟩
  | settings settings =>
    exact .inr (suspended_map (Observation.searching_announce .settings)
      { s.coordinator with settings := settings })
  | observe channel roots => exact .inr (s.suspended_observe channel roots)
  | send channel roots =>
    refine .inr (suspended_map (fun o => ?_) s.coordinator)
    split
    · exact Observation.searching_announce .projects _
    · rfl
  | resolve tool project => exact .inr rfl
  | dispose => exact .inr rfl
  | host change => exact .inr rfl
  | openBuffer name buffer => exact .inr rfl
  | edit name step => exact .inr (s.suspended_edit name step)
  | format name tool file => exact .inr (refused (.request _ name rfl))
  | willSave name => exact .inr (refused (.request _ name rfl))
  | startFormat id name tool file => exact .inr (refused (.request _ name rfl))
  | startWillSave id name => exact .inr (refused (.request _ name rfl))

theorem suspended_advance_idle {s : Session σ} {o : Observation} (observed : s.observation = some o)
    {role : Role} (idle : (o.listener role).phase = .idle) :
    (s.act (.advance role)).suspended = s.suspended := by
  rw [act, listen_some observed, Observed.advance, idle, suspended, suspended, observed]
  refine congrArg (fun rebuilds => _ ++ (rebuilds ++ s.aborted)) ?_
  simp only
  split
  · cases role with
    | projects => exact Observation.searching_setListener .projects _ (by rw [idle]; rfl) rfl
    | settings =>
      refine Observation.searching_setListener .settings _ (by rw [idle]; rfl) ?_
      simp only
      split <;> rfl
  · rfl

theorem ends_or_suspended {s : Session σ} (busy : s.coordinator.rebuilding = true)
    (action : Action σ) :
    (∃ rebuild, s.Ends rebuild action) ∨ (s.act action).suspended = s.suspended := by
  cases action with
  | perform step => exact perform_ends_or_suspended busy step
  | advance role =>
    cases observed : s.observation with
    | none => exact .inr (by rw [act, listen_none observed])
    | some o =>
      cases hp : (o.listener role).phase with
      | idle => exact .inr (suspended_advance_idle observed hp)
      | wanting =>
        have attempt : s.Attempts (.advance role) := .listener role o observed hp
        exact .inr (attempt.refused busy).suspended
      | searching rebuild => exact .inl ⟨rebuild, .concluded role rebuild o observed hp⟩
      | asleep =>
        refine .inr ?_
        rw [act, listen_some observed, Observed.advance, hp, suspended, suspended, observed]
  | queue turns =>
    refine .inr ?_
    cases observed : s.observation with
    | none => rw [act, listen_none observed]
    | some o =>
      rw [act, listen_some observed, suspended, suspended, observed]
      rfl
  | reap =>
    rcases s.reap_cases with ⟨-, same⟩ | ⟨stopped, -⟩
    · exact .inr (by rw [act, same])
    · obtain ⟨rebuild, hm⟩ := List.exists_mem_of_ne_nil _ stopped
      exact .inl ⟨rebuild, .reaped rebuild hm⟩

structure SingleFlight (s : Session σ) : Prop where
  /-- Never two rebuilds are suspended, and one is exactly while the slot is taken. -/
  slot : s.suspended.length = s.coordinator.rebuilding.toNat
  refused : s.coordinator.rebuilding = true → ∀ action, s.Attempts action → s.Refuses (s.act action)
  /-- Whoever attempts a rebuild meanwhile is told that there was none. -/
  answers : s.coordinator.rebuilding = true → s.coordinator.rebuild.2 = false ∧ ∀ call id,
    (s.perform (.call call)).2 = .flag false ∧ (s.perform (.start id call)).2 = .flag false
  released : ∀ rebuild action, s.Ends rebuild action →
    (s.act action).suspended = [] ∧ (s.act action).coordinator.rebuilding = false
  /-- A listener that is stopped at its searches has the slot until it is reaped. -/
  stopped : ∀ o role rebuild, s.observation = some o →
    (o.listener role).phase = .searching rebuild →
      ∀ step : Step σ, step.stops = true →
        (s.perform step).1.coordinator.rebuilding = true ∧ rebuild ∈ (s.perform step).1.aborted
  /-- There are no other ways for a suspended rebuild to end. -/
  ends : ∀ action, s.coordinator.rebuilding = true → (s.act action).suspended ≠ s.suspended →
    ∃ rebuild, s.Ends rebuild action
  ended : ∀ action rebuild found, .ended rebuild found ∈ s.entries action →
    (s.act action).coordinator.rebuilding = false
  /-- The next attempt takes the slot. -/
  next : s.coordinator.rebuilding = false → s.coordinator.disposed = false → ∀ call,
    (prepare call s.coordinator).beginRebuild.2 = .searching (prepare call s.coordinator).plan

end Session

/-- In every state that a run comes to, the slot is taken by the one suspended rebuild, others
are refused, and every end of a rebuild makes way for the next. -/
theorem Chronicled.run_singleFlight {σ : Type} [Host σ] (host : σ) (settings : Settings)
    (roots : List ProjectRoot) (actions : List (Action σ)) :
    ((new host settings roots).run actions).session.SingleFlight := by
  have h := run_tracked host settings roots actions
  generalize (new host settings roots).run actions = x at h
  refine ⟨h.sound.slot, fun busy action attempt => attempt.refused busy, ?_, ?_, ?_, ?_, ?_, ?_⟩
  · intro busy
    have barred : x.session.coordinator.Barred := .inl busy
    obtain ⟨host, hr, -⟩ := barred.rebuild
    refine ⟨by rw [hr], fun call id => ?_⟩
    obtain ⟨host, hc, -⟩ := Session.perform_call_barred barred call
    obtain ⟨host, hs, -⟩ := Session.start_barred barred id call
    exact ⟨by rw [hc], by rw [Session.perform, hs]⟩
  · intro rebuild action ends
    exact ⟨(h.act action).sound.suspended_of_free ends.released, ends.released⟩
  · intro o role rebuild observed searching step stops
    have busy := (h.sound.suspended_only (Session.mem_suspended observed role searching)).1
    have aborted := Session.stopListening_aborted observed searching
    cases step with
    | dispose => exact ⟨busy, aborted⟩
    | observe channel roots =>
      obtain ⟨host, ho⟩ := x.session.observe_eq channel roots (h.sound.live_of_observed observed)
      rw [Session.perform, ho]
      exact ⟨busy, aborted⟩
    | _ => contradiction
  · intro action busy moved
    exact (Session.ends_or_suspended busy action).resolve_right moved
  · intro action rebuild found ended
    obtain ⟨before, he⟩ := (x.session.entries_told action).eq_of_ended ended
    have log : (x.act action).log = .ended rebuild found :: (before ++ x.log) := by
      change x.session.entries action ++ x.log = _
      rw [he, List.cons_append]
    exact (h.act action).free_of_ended log
  · intro free live call
    obtain ⟨host, roots, tool, hp, -⟩ := Session.prepare_eq call x.session.coordinator
    rw [Coordinator.beginRebuild_eq (by rw [hp]; exact free) (by rw [hp]; exact live)]

end FormatService
