import FormatService.Proofs.Session.Slot

/-!
# What the listeners see of a move

Most moves leave to the listeners what they have to do. Only a few count for one of
them: the observation starts anew or ends, a listener takes up a new value, gets the
slot or gives it back.
-/

set_option autoImplicit false

namespace FormatService

open Coordinator (Rebuild concluded)

namespace Observation

/-- The listeners have not taken up, started or ended anything. -/
structure Goes (o o' : Observation) : Prop where
  unseen : ∀ role, (o'.listener role).unseen = false → (o.listener role).unseen = false
  newest : o'.projects.unseen = false → o'.newest = o.newest
  idle : ∀ role, (o'.listener role).phase = .idle → (o.listener role).phase = .idle
  searching : ∀ role rebuild, (o'.listener role).phase = .searching rebuild →
    (o.listener role).phase = .searching rebuild

theorem goes_of_same {o o' : Observation} (hn : o'.newest = o.newest)
    (hl : ∀ role, o'.listener role = o.listener role) : o.Goes o' := by
  refine ⟨?_, fun _ => hn, ?_, ?_⟩
  · intro role h
    rwa [hl] at h
  · intro role h
    rwa [hl] at h
  · intro role r h
    rwa [hl] at h

theorem Dozing.goes_wake {o : Observation} (h : o.Dozing) : o.Goes o.wake := by
  refine ⟨?_, fun _ => o.newest_wake, ?_, ?_⟩
  · intro role hu
    rwa [unseen_wake] at hu
  · intro role hi
    exact (h.idle_wake role).mp hi
  · intro role r hs
    rw [listener_wake] at hs
    split at hs
    · contradiction
    · exact hs

theorem goes_announce {o o₀ : Observation} (role : Role)
    (hl : ∀ r, o₀.listener r = o.listener r) (hn : role = .projects ∨ o₀.newest = o.newest) :
    o.Goes (o₀.announce role) := by
  have hr : ∀ r, (o₀.announce role).listener r =
      if r = role then ⟨true, (o.listener r).phase⟩ else o.listener r := by
    intro r
    rw [listener_announce, hl]
  refine ⟨?_, ?_, ?_, ?_⟩
  · intro r hu
    rw [hr] at hu
    split at hu
    · contradiction
    · exact hu
  · intro hu
    rw [newest_announce]
    rcases hn with rfl | hn
    · have hu' : ((o₀.announce .projects).listener .projects).unseen = false := hu
      rw [hr] at hu'
      contradiction
    · exact hn
  · intro r hi
    rw [hr] at hi
    split at hi <;> exact hi
  · intro r rebuild hs
    rw [hr] at hs
    split at hs <;> exact hs

theorem goes_sleep (role : Role) (o : Observation) :
    o.Goes { o.setPhase role .asleep with sleepers := o.sleepers ++ [role] } := by
  refine ⟨fun r hu => ?_, ?_, fun r hi => ?_, fun r rebuild hs => ?_⟩
  · exact (o.unseen_setPhase r role .asleep).symm.trans hu
  · cases role <;> exact fun _ => rfl
  · exact idle_of_setPhase r role (p := .asleep) (by decide) hi
  · have hs' : ((o.setPhase role .asleep).listener r).phase = .searching rebuild := hs
    rw [listener_setPhase] at hs'
    split at hs'
    · contradiction
    · exact hs'

end Observation

namespace Session

variable {σ : Type} [Host σ]

inductive Shift (allowed : Call → Prop) (s : Session σ) : List Entry → Session σ → Prop
  | goes {es : List Entry} {s' : Session σ}
      (goes : Option.Rel Observation.Goes s.observation s'.observation)
      (told : s'.coordinator.settings = s.coordinator.settings ∨
        ∀ o, s'.observation = some o → o.settings.unseen = true)
      (live : s'.coordinator.disposed = s.coordinator.disposed)
      (roots : (∀ call, allowed call → call.keepsRoots) →
        s'.coordinator.roots = s.coordinator.roots)
      (tool : (∀ call, allowed call → call.keepsTool) →
        s'.coordinator.tool = s.coordinator.tool)
      (quiet : (∀ paths, .looked paths ∉ es) ∧ ∀ roots, .forfeited roots ∉ es) :
      Shift allowed s es s'
  | observed (channel : String) (roots : List ProjectRoot) (live : s.coordinator.disposed = false) :
      Shift allowed s (if s.forfeits roots then [.forfeited roots] else [])
        (s.observe channel roots)
  | disposed {s' : Session σ} (late : s'.coordinator.disposed = true)
      (none : s'.observation = none) :
      Shift allowed s [] s'
  | adopted (o : Observation) (observed : s.observation = some o) (idle : o.projects.phase = .idle)
      (unseen : o.projects.unseen = true) :
      Shift allowed s [] { s with coordinator := s.coordinator.setRoots o.newest
                                  observation := some (o.setListener .projects ⟨false, .wanting⟩) }
  | looked (o : Observation) (observed : s.observation = some o) (idle : o.settings.phase = .idle)
      (unseen : o.settings.unseen = true) (phase : Phase)
      (heed : phase = .wanting ∨
        phase = .idle ∧ s.coordinator.settings.toolPaths = s.coordinator.appliedPaths) :
      Shift allowed s [.looked s.coordinator.settings.toolPaths]
        { s with coordinator := { s.coordinator with tool := s.coordinator.settings.tool }
                 observation := some (o.setListener .settings ⟨false, phase⟩) }
  | searches (role : Role) (o : Observation) (observed : s.observation = some o)
      (wanting : (o.listener role).phase = .wanting) :
      Shift allowed s [.began s.coordinator.plan]
        { s with coordinator := { s.coordinator with rebuilding := true }
                 observation := some (o.setPhase role (.searching s.coordinator.plan)) }
  | concluded (role : Role) (rebuild : Rebuild) (o : Observation)
      (found : Option (List (CacheKey × Option String))) (observed : s.observation = some o)
      (searching : (o.listener role).phase = .searching rebuild) :
      Shift allowed s [.ended rebuild found]
        { s with coordinator := Coordinator.concluded rebuild found s.coordinator
                 observation := some (o.wake.setPhase role .idle) }

variable {allowed : Call → Prop}

theorem goes_map {o : Option Observation} {f : Observation → Observation}
    (h : ∀ p, o = some p → p.Goes (f p)) : Option.Rel Observation.Goes o (o.map f) := by
  cases o with
  | none => exact .none
  | some p => exact .some (h p rfl)

theorem goes_self (o : Option Observation) : Option.Rel Observation.Goes o o := by
  cases o with
  | none => exact .none
  | some p => exact .some (Observation.goes_of_same rfl fun _ => rfl)

theorem goes_some {p : Option Observation} {o' : Observation}
    (h : Option.Rel Observation.Goes p (some o')) : ∃ o, p = some o ∧ o.Goes o' := by
  cases h with
  | some g => exact ⟨_, rfl, g⟩

theorem Sound.shift_concluded {s s' : Session σ} (h : s.Sound) {es : List Entry} {rebuild : Rebuild}
    {found : Option (List (CacheKey × Option String))}
    (hc : s'.coordinator = concluded rebuild found s.coordinator)
    (ho : s'.observation = s.observation.map (·.wake))
    (quiet : (∀ paths, .looked paths ∉ es) ∧ ∀ roots, .forfeited roots ∉ es) :
    Shift allowed s es s' := by
  obtain ⟨cache, paths, he⟩ := Coordinator.concluded_eq rebuild found s.coordinator
  rw [he] at hc
  refine .goes ?_ (.inl (by rw [hc])) (by rw [hc]) (fun _ => by rw [hc])
    (fun _ => by rw [hc]) quiet
  rw [ho]
  exact goes_map fun o ho => (h.dozing o ho).goes_wake

theorem Move.shift {s s' : Session σ} {es : List Entry} (m : Move allowed s es s')
    (h : s.Sound) : Shift allowed s es s' := by
  have quiet : (∀ paths, Entry.looked paths ∉ []) ∧ ∀ roots, Entry.forfeited roots ∉ [] := by simp
  have woken : Option.Rel Observation.Goes s.observation (s.observation.map (·.wake)) :=
    goes_map fun o ho => (h.dozing o ho).goes_wake
  cases m with
  | still => exact .goes (goes_self _) (.inl rfl) rfl (fun _ => rfl) (fun _ => rfl) quiet
  | prepare call ok =>
    cases call with
    | rebuild => exact .goes (goes_self _) (.inl rfl) rfl (fun _ => rfl) (fun _ => rfl) quiet
    | projectsChanged roots =>
      exact .goes (goes_self _) (.inl rfl) rfl (fun ha => nomatch ha _ ok) (fun _ => rfl) quiet
    | toolChanged tool =>
      exact .goes (goes_self _) (.inl rfl) rfl (fun _ => rfl) (fun ha => nomatch ha _ ok) quiet
  | settings settings =>
    refine .goes (goes_map fun o _ => ?_) (.inr ?_) rfl (fun _ => rfl) (fun _ => rfl) quiet
    · exact Observation.goes_announce .settings (fun _ => rfl) (.inr rfl)
    · intro o' ho'
      obtain ⟨o, -, rfl⟩ := Option.map_eq_some_iff.mp ho'
      have hl := Observation.listener_announce .settings .settings o
      exact congrArg Listener.unseen hl
  | send channel roots =>
    refine .goes (goes_map fun o _ => ?_) (.inl rfl) rfl (fun _ => rfl) (fun _ => rfl) quiet
    split
    · exact Observation.goes_announce .projects (fun r => by cases r <;> rfl) (.inl rfl)
    · exact Observation.goes_of_same rfl fun _ => rfl
  | wake => exact .goes woken (.inl rfl) rfl (fun _ => rfl) (fun _ => rfl) quiet
  | queue turns =>
    refine .goes (goes_map fun o _ => ?_) (.inl rfl) rfl (fun _ => rfl) (fun _ => rfl) quiet
    exact Observation.goes_of_same rfl fun r => by cases r <;> rfl
  | hold id formatting free live =>
    exact .goes (goes_self _) (.inl rfl) rfl (fun _ => rfl) (fun _ => rfl) (by simp)
  | whole found free live finds => exact h.shift_concluded rfl rfl (by simp)
  | finish id held found there finds => exact h.shift_concluded rfl rfl (by simp)
  | drop id held there => exact .goes woken (.inl rfl) rfl (fun _ => rfl) (fun _ => rfl) quiet
  | reap stopped => exact .goes woken (.inl rfl) rfl (fun _ => rfl) (fun _ => rfl) quiet
  | observe channel roots live => exact .observed channel roots live
  | dispose => exact .disposed rfl rfl
  | adopt o observed idle unseen => exact .adopted o observed idle unseen
  | look o observed idle unseen phase heed => exact .looked o observed idle unseen phase heed
  | sleep role o observed wanting busy =>
    refine .goes ?_ (.inl rfl) rfl (fun _ => rfl) (fun _ => rfl) quiet
    rw [observed]
    exact .some (o.goes_sleep role)
  | quit role o observed wanting late =>
    rw [h.live_of_observed observed] at late
    contradiction
  | search role o observed wanting free live => exact .searches role o observed wanting
  | conclude role rebuild o found observed searching finds =>
    exact .concluded role rebuild o found observed searching

end Session

end FormatService
