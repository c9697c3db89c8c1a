import FormatService.Proofs.Session.AdoptedRoots
import FormatService.Proofs.Session.Tracking

/-!
# Coming to rest under one observation

As long as a coordinator is observed only once, no rebuild is forfeited. So when both
listeners wait and have seen everything, roots, tool and cache are those of the
newest values in the channels.
-/

set_option autoImplicit false

namespace FormatService

open Entry

variable {σ : Type}

namespace Session

def Step.observes : Step σ → Bool
  | .observe _ _ => true
  | _ => false

theorem wake_unobserved {s : Session σ} (h : s.observation = none) : s.wake.observation = none := by
  rw [wake, h]
  split
  · exact h
  · rfl

variable [Host σ]

theorem entries_unforfeited {s : Session σ} {action : Action σ}
    (h : action.step?.any (·.observes) = false) (roots : List ProjectRoot) :
    .forfeited roots ∉ s.entries action := by
  have told := s.entries_told action
  generalize s.entries action = es at told ⊢
  cases told with
  | forfeited channel roots observe =>
    subst observe
    contradiction
  | _ => simp

theorem requested_unobserved {s : Session σ} (h : s.observation = none) {step : Step σ}
    {name : String} (requested : s.Requested step name) :
    (s.perform step).1.observation = none := by
  cases requested with
  | missing missing does told => rwa [does]
  | skipped b there does told =>
    rw [does]
    exact wake_unobserved h
  | formatted b tool file there does told =>
    rw [does]
    exact wake_unobserved h
  | held id formatting free live does told => rwa [does]

theorem perform_unobserved {s : Session σ} (h : s.observation = none) {step : Step σ}
    (hs : step.observes = false) : (s.perform step).1.observation = none := by
  cases step with
  | call call => exact wake_unobserved h
  | start id call =>
    rw [perform, start]
    split
    · split
      · exact wake_unobserved h
      · exact h
    · exact h
  | finish id =>
    simp only [perform]
    split
    · next held there =>
      obtain ⟨host, buffers, hf, -⟩ := s.finish_eq id held
      rw [hf]
      exact Option.map_eq_none_iff.mpr h
    · exact h
  | drop id =>
    simp only [perform]
    split
    · exact wake_unobserved h
    · exact h
  | settings settings => simp [perform, h]
  | observe channel roots => contradiction
  | send channel roots => simp [perform, send, h]
  | resolve tool project => exact h
  | dispose => rfl
  | host change => exact h
  | openBuffer name buffer => exact h
  | edit name step =>
    simp only [perform]
    split
    · exact h
    · split <;> exact h
  | format name tool file => exact requested_unobserved h (s.requested rfl)
  | willSave name => exact requested_unobserved h (s.requested rfl)
  | startFormat id name tool file => exact requested_unobserved h (s.requested rfl)
  | startWillSave id name => exact requested_unobserved h (s.requested rfl)

/-- Unless a call sets the tool, a listener that has seen the newest settings has made their tool the active one. -/
theorem Shift.activates {allowed : Call → Prop} {s s' : Session σ} {es : List Entry}
    (ha : ∀ call, allowed call → call.keepsTool) (m : Shift allowed s es s')
    (before : ∀ o, s.observation = some o → o.settings.unseen = false →
      s.coordinator.tool = s.coordinator.settings.tool)
    {o' : Observation} (observed' : s'.observation = some o')
    (seen : o'.settings.unseen = false) :
    s'.coordinator.tool = s'.coordinator.settings.tool := by
  cases m with
  | goes goes told live roots tool quiet =>
    rw [observed'] at goes told
    obtain ⟨o, ho, g⟩ := goes_some goes
    rcases told with told | told
    · rw [tool ha, told]
      exact before o ho (g.unseen .settings seen)
    · exact absurd seen (by rw [told o' rfl]; decide)
  | observed channel roots live =>
    obtain ⟨host, ho⟩ := s.observe_eq channel roots live
    rw [ho] at observed'
    obtain rfl := Option.some.inj observed'
    contradiction
  | disposed late none =>
    rw [none] at observed'
    contradiction
  | adopted o observed idle unseen =>
    obtain rfl := Option.some.inj observed'
    exact before o observed seen
  | looked o observed idle unseen phase heed => rfl
  | searches role o observed wanting =>
    obtain rfl := Option.some.inj observed'
    exact before o observed
      ((o.unseen_setPhase .settings role (.searching s.coordinator.plan)).symm.trans seen)
  | concluded role r o found observed searching =>
    obtain ⟨cache, paths, hc⟩ := Coordinator.concluded_eq r found s.coordinator
    obtain rfl := Option.some.inj observed'
    have hu := (o.wake.unseen_setPhase .settings role .idle).symm.trans seen
    rw [hc]
    exact before o observed ((o.unseen_wake .settings).symm.trans hu)

end Session

namespace Chronicled

/-- What the settings listener does about the tool. -/
structure Activated (x : Chronicled σ) : Prop where
  sound : x.session.Sound
  tool : ∀ o, x.session.observation = some o → o.settings.unseen = false →
    x.session.coordinator.tool = x.session.coordinator.settings.tool

variable [Host σ] {allowed : Call → Prop}

theorem Activated.move (ha : ∀ call, allowed call → call.keepsTool) {x : Chronicled σ}
    {es : List Entry} {s : Session σ} (h : x.Activated)
    (m : Session.Move allowed x.session es s) : Activated ⟨s, es ++ x.log⟩ :=
  ⟨(m.sound h.sound).1, fun _ => (m.shift h.sound).activates ha h.tool⟩

theorem run_activated (ha : ∀ call, allowed call → call.keepsTool) (host : σ) (settings : Settings)
    (roots : List ProjectRoot) (actions : List (Action σ))
    (ok : ∀ step ∈ Action.steps actions, step.Calls allowed) :
    ((new host settings roots).run actions).Activated :=
  run_keeps _ (Activated.move ha)
    ⟨(new_tracked host settings roots).sound, fun _ (observed : none = some _) => by contradiction⟩
    actions ok

theorem run_unforfeited {x : Chronicled σ} (hl : ∀ roots, .forfeited roots ∉ x.log)
    (actions : List (Action σ))
    (once : (Action.steps actions).countP (·.observes) ≤ x.session.observation.isNone.toNat) :
    ∀ roots, .forfeited roots ∉ (x.run actions).log := by
  -- Before the observation one may still come, and after it none: the bound says both.
  induction actions generalizing x with
  | nil => exact hl
  | cons action actions ih =>
    have append : (∀ roots, .forfeited roots ∉ x.session.entries action) →
        ∀ roots, .forfeited roots ∉ (x.act action).log := fun he roots hm =>
      (List.mem_append.mp hm).elim (he roots) (hl roots)
    have next : (x.session.observation = none → (x.act action).session.observation = none) →
        (Action.steps actions).countP (·.observes) ≤ x.session.observation.isNone.toNat →
          (Action.steps actions).countP (·.observes) ≤
            (x.act action).session.observation.isNone.toNat := by
      intro hn hc
      cases ho : x.session.observation with
      | none => rwa [hn ho, ← ho]
      | some o =>
        rw [ho] at hc
        exact Nat.le_trans hc (Nat.zero_le _)
    cases action with
    | perform step =>
      change (step :: Action.steps actions).countP _ ≤ _ at once
      rw [List.countP_cons] at once
      cases hs : step.observes with
      | true =>
        rw [hs, if_pos rfl] at once
        cases ho : x.session.observation with
        | some o =>
          rw [ho, Option.isNone_some, Bool.toNat_false] at once
          omega
        | none =>
          rw [ho, Option.isNone_none, Bool.toNat_true] at once
          refine ih (append ?_) (by omega)
          cases step with
          | observe channel roots =>
            have hf : x.session.forfeits roots = false := by simp [Session.forfeits, ho]
            simp [Session.entries, Session.performEntries, hf]
          | _ => contradiction
      | false =>
        rw [hs, if_neg (by decide), Nat.add_zero] at once
        exact ih (append (Session.entries_unforfeited hs))
          (next (fun hn => Session.perform_unobserved hn hs) once)
    | advance role =>
      refine ih (append (Session.entries_unforfeited rfl)) (next (fun hn => ?_) once)
      change (x.session.listen _).observation = none
      rw [Session.listen_none hn, hn]
    | queue turns =>
      refine ih (append (Session.entries_unforfeited rfl)) (next (fun hn => ?_) once)
      change (x.session.listen _).observation = none
      rw [Session.listen_none hn, hn]
    | reap =>
      refine ih (append (Session.entries_unforfeited rfl)) (next (fun hn => ?_) once)
      change x.session.reap.observation = none
      rcases x.session.reap_cases with ⟨-, same⟩ | ⟨-, reaped⟩
      · rwa [same]
      · rw [reaped]
        exact Option.map_eq_none_iff.mpr hn

/-- A coordinator that is observed once, and whose roots and tool change through the channels
only, has come to what they hold when both listeners wait and have seen everything. -/
theorem channels_converge (host : σ) (settings : Settings) (roots : List ProjectRoot)
    (actions : List (Action σ)) (ok : ∀ step ∈ Action.steps actions, step.Calls (· = .rebuild))
    (once : (Action.steps actions).countP (·.observes) ≤ 1) {o : Observation}
    (observed : ((new host settings roots).run actions).session.observation = some o)
    (projects : o.projects = ⟨false, .idle⟩) (settled : o.settings = ⟨false, .idle⟩) :
    let x := (new host settings roots).run actions
    x.session.coordinator.roots = o.newest ∧
      x.session.coordinator.tool = x.session.coordinator.settings.tool ∧
        ∀ rebuild found, lastEnded x.log = some (rebuild, some found) →
          ∃ cache, x.session.coordinator.cache = some cache ∧
            ∀ e ∈ cache.entries, e.1 ∈ CacheKey.forRoots x.session.coordinator.roots := by
  have keeps : ∀ call : Call, call = .rebuild → call.keepsRoots ∧ call.keepsTool := by
    rintro _ rfl
    exact ⟨rfl, rfl⟩
  have h := run_adopted (fun call hc => (keeps call hc).1) host settings roots actions ok
  have active := run_activated (fun call hc => (keeps call hc).2) host settings roots actions ok
  have hn := run_unforfeited (x := new host settings roots) (fun _ => List.not_mem_nil) actions once
  intro x
  change x.session.observation = some o at observed
  change x.Adopted at h
  change x.Activated at active
  have rest : x.session.Resting := by
    intro p hp
    obtain rfl := Option.some.inj (observed.symm.trans hp)
    rw [projects]
  refine ⟨h.roots o observed (by rw [projects]), active.tool o observed (by rw [settled]), ?_⟩
  intro rebuild found last
  obtain ⟨live, cache, keys⟩ := h.kept.cache_eq observed last
  refine ⟨_, cache, fun e he => ?_⟩
  rcases (h.rested live rest).settled rebuild found last with paid | hf
  · rw [← paid]
    exact keys e he
  · obtain ⟨forfeited, hf⟩ := Option.isSome_iff_exists.mp hf
    exact absurd (mem_of_forfeitedSince hf) (hn forfeited)

/-- The roots change while a caller's rebuild is held, and the project listener waits for its
end to rebuild for them. -/
def sentOnce : List (Action MemoryHost) :=
  [.perform (.observe "projects" [⟨"/a"⟩]), .advance .settings,
   .perform (.start "held" .rebuild),
   .perform (.send "projects" [⟨"/b"⟩]), .advance .projects, .advance .projects,
   .perform (.finish "held"), .advance .projects, .advance .projects]

def converged : Chronicled MemoryHost :=
  run (new ⟨⟨"/"⟩, .silent, [], [], [(.gofmt, none, "/usr/bin/gofmt")], .never, [], []⟩ .default
    [⟨"/a"⟩]) sentOnce

theorem channels_converge_sentOnce :
    (∀ step ∈ Action.steps sentOnce, step.Calls (· = .rebuild)) ∧
      (Action.steps sentOnce).countP (·.observes) ≤ 1 ∧
        ∃ o, converged.session.observation = some o ∧ o.projects = ⟨false, .idle⟩ ∧
          o.settings = ⟨false, .idle⟩ ∧ converged.session.coordinator.roots = o.newest ∧
            converged.session.coordinator.tool = converged.session.coordinator.settings.tool ∧
              ∀ rebuild found, lastEnded converged.log = some (rebuild, some found) →
                ∃ cache, converged.session.coordinator.cache = some cache ∧
                  ∀ e ∈ cache.entries,
                    e.1 ∈ CacheKey.forRoots converged.session.coordinator.roots := by
  let o : Observation := ⟨"projects", [⟨"/b"⟩], ⟨false, .idle⟩, ⟨false, .idle⟩,
    [.projects, .settings], []⟩
  have ok : ∀ step ∈ Action.steps sentOnce, step.Calls (· = .rebuild) := by decide
  have once : (Action.steps sentOnce).countP (·.observes) ≤ 1 := by decide
  have observed : converged.session.observation = some o := by decide
  exact ⟨ok, once, o, observed, rfl, rfl,
    channels_converge _ _ _ sentOnce ok once observed rfl rfl⟩

end Chronicled

end FormatService
