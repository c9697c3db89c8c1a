import FormatService.Proofs.Session.Slot

/-!
# Who sleeps

A listener falls asleep when it finds the slot taken. All who sleep are listed, each
of them once, and whoever gives the slot back wakes the whole list. Every move keeps
this, however the rebuild that has the slot ends: a free slot leaves nobody asleep.
-/

set_option autoImplicit false

namespace FormatService

open Coordinator (concluded_rebuilding)

namespace Observation

/-- The sleepers are those who are asleep, each of them once. -/
structure Roster (o : Observation) : Prop where
  nodup : o.sleepers.Nodup
  mem_iff : ∀ role, role ∈ o.sleepers ↔ (o.listener role).phase = .asleep

def Awake (o : Observation) : Prop := ∀ role, (o.listener role).phase ≠ .asleep

variable {o : Observation}

theorem Awake.roster (h : o.Awake) (empty : o.sleepers = []) : o.Roster where
  nodup := by rw [empty]; exact List.nodup_nil
  mem_iff := by
    intro role
    rw [empty]
    exact ⟨fun hm => absurd hm List.not_mem_nil, fun hp => absurd hp (h role)⟩

theorem awake_begin (channel : String) (roots : List ProjectRoot) (changed : Bool) :
    (begin channel roots changed).Awake := by
  intro role
  cases role <;> cases changed <;> nofun

namespace Roster

theorem awake_wake (h : o.Roster) : o.wake.Awake := by
  intro role
  rw [listener_wake]
  split
  · nofun
  · next hm => rwa [h.mem_iff] at hm

theorem wake (h : o.Roster) : o.wake.Roster := h.awake_wake.roster o.sleepers_wake

theorem setListener (h : o.Roster) {role : Role} (awake : (o.listener role).phase ≠ .asleep)
    {l : Listener} (stays : l.phase ≠ .asleep) : (o.setListener role l).Roster where
  nodup := by rw [sleepers_setListener]; exact h.nodup
  mem_iff := by
    intro r
    rw [sleepers_setListener, listener_setListener_eq, h.mem_iff]
    split
    · next hr => exact ⟨fun hp => absurd (hr ▸ hp) awake, fun hp => absurd hp stays⟩
    · rfl

theorem sleep (h : o.Roster) {role : Role} (awake : (o.listener role).phase ≠ .asleep) :
    Roster { o.setPhase role .asleep with sleepers := o.sleepers ++ [role] } where
  nodup := by
    have fresh : role ∉ o.sleepers := fun hm => awake ((h.mem_iff role).mp hm)
    rw [List.nodup_append]
    refine ⟨h.nodup, by simp, ?_⟩
    intro r hr r' hr' same
    rw [List.mem_singleton] at hr'
    exact fresh (hr' ▸ same ▸ hr)
  mem_iff := by
    intro r
    change r ∈ o.sleepers ++ [role] ↔ ((o.setPhase role .asleep).listener r).phase = .asleep
    rw [List.mem_append, List.mem_singleton, h.mem_iff, listener_setPhase]
    split
    · next hr => exact ⟨fun _ => rfl, fun _ => .inr hr⟩
    · next hr => exact ⟨fun hp => hp.resolve_right hr, .inl⟩

theorem announce (h : o.Roster) (role : Role) : (o.announce role).Roster where
  nodup := by rw [sleepers_announce]; exact h.nodup
  mem_iff := by
    intro r
    rw [sleepers_announce, h.mem_iff, listener_announce]
    split <;> rfl

end Roster

namespace Awake

theorem setListener (h : o.Awake) (role : Role) {l : Listener} (stays : l.phase ≠ .asleep) :
    (o.setListener role l).Awake := by
  intro r
  rw [listener_setListener_eq]
  split
  · exact stays
  · exact h r

theorem announce (h : o.Awake) (role : Role) : (o.announce role).Awake := by
  intro r
  rw [listener_announce]
  split <;> exact h r

end Awake

end Observation

namespace Session

variable {σ : Type}

/-- Who sleeps is listed, and nobody sleeps while the slot is free. -/
structure Attentive (s : Session σ) : Prop where
  sound : s.Sound
  roster : ∀ o, s.observation = some o → o.Roster
  awake : s.coordinator.rebuilding = false → ∀ o, s.observation = some o → o.Awake

theorem new_attentive {c : Coordinator σ} (free : c.rebuilding = false) : (new c).Attentive where
  sound := ⟨by simp [suspended, new, free], (fun _ ho => nomatch ho), fun _ => rfl⟩
  roster := fun _ ho => nomatch ho
  awake := fun _ _ ho => nomatch ho

variable [Host σ] {allowed : Call → Prop}

theorem Move.attentive {s s' : Session σ} {es : List Entry} (m : Move allowed s es s')
    (h : s.Attentive) : s'.Attentive := by
  suffices after : ∀ o', s'.observation = some o' →
      o'.Roster ∧ (s'.coordinator.rebuilding = false → o'.Awake) from
    ⟨(m.sound h.sound).1, fun o' ho' => (after o' ho').1, fun free o' ho' => (after o' ho').2 free⟩
  have before : ∀ o, s.observation = some o →
      o.Roster ∧ (s.coordinator.rebuilding = false → o.Awake) :=
    fun o ho => ⟨h.roster o ho, fun free => h.awake free o ho⟩
  -- Whoever is woken is awake, whether the slot is free by then or not.
  have woken : ∀ o', s.observation.map (·.wake) = some o' →
      o'.Roster ∧ (s'.coordinator.rebuilding = false → o'.Awake) := by
    intro o' ho'
    obtain ⟨o, ho, rfl⟩ := Option.map_eq_some_iff.mp ho'
    exact ⟨(h.roster o ho).wake, fun _ => (h.roster o ho).awake_wake⟩
  have rested : ∀ (role : Role) (o : Observation), s.observation = some o →
      (o.wake.setPhase role .idle).Roster ∧
        (s'.coordinator.rebuilding = false → (o.wake.setPhase role .idle).Awake) := by
    intro role o ho
    have hw := (h.roster o ho).awake_wake
    exact ⟨(h.roster o ho).wake.setListener (hw role) nofun, fun _ => hw.setListener role nofun⟩
  cases m with
  | still => exact before
  | prepare call => cases call <;> exact before
  | settings settings =>
    intro o' ho'
    obtain ⟨o, ho, rfl⟩ := Option.map_eq_some_iff.mp ho'
    exact ⟨(h.roster o ho).announce _, fun free => (h.awake free o ho).announce _⟩
  | send channel roots =>
    intro o' ho'
    obtain ⟨o, ho, rfl⟩ := Option.map_eq_some_iff.mp ho'
    obtain ⟨hr, hw⟩ := before o ho
    split
    · have hr' : ({ o with newest := roots } : Observation).Roster := ⟨hr.nodup, hr.mem_iff⟩
      have hw' : s.coordinator.rebuilding = false →
          ({ o with newest := roots } : Observation).Awake := hw
      exact ⟨hr'.announce _, fun free => (hw' free).announce _⟩
    · exact ⟨hr, hw⟩
  | wake free => exact woken
  | queue turns =>
    intro o' ho'
    obtain ⟨o, ho, rfl⟩ := Option.map_eq_some_iff.mp ho'
    exact ⟨⟨(h.roster o ho).nodup, (h.roster o ho).mem_iff⟩, fun free => h.awake free o ho⟩
  | hold id formatting free live => exact fun o ho => ⟨h.roster o ho, nofun⟩
  | whole found free live finds => exact woken
  | finish id held found there finds => exact woken
  | drop id held there => exact woken
  | reap stopped => exact woken
  | observe channel roots live =>
    obtain ⟨host, hs⟩ := s.observe_eq channel roots live
    rw [hs]
    rintro _ ⟨⟩
    have hw := Observation.awake_begin channel roots (roots ≠ s.coordinator.roots)
    exact ⟨hw.roster rfl, fun _ => hw⟩
  | dispose => exact fun _ ho => nomatch ho
  | adopt o observed idle unseen =>
    rintro _ ⟨⟩
    have hi : (o.listener .projects).phase = .idle := idle
    have hp : (o.listener .projects).phase ≠ .asleep := by rw [hi]; nofun
    exact ⟨(h.roster o observed).setListener hp nofun,
      fun free => (h.awake free o observed).setListener .projects nofun⟩
  | look o observed idle unseen phase heed =>
    rintro _ ⟨⟩
    have hi : (o.listener .settings).phase = .idle := idle
    have hp : (o.listener .settings).phase ≠ .asleep := by rw [hi]; nofun
    have stays : phase ≠ .asleep := by
      rcases heed with rfl | ⟨rfl, -⟩ <;> nofun
    exact ⟨(h.roster o observed).setListener hp stays,
      fun free => (h.awake free o observed).setListener .settings stays⟩
  | sleep role o observed wanting busy =>
    rintro _ ⟨⟩
    refine ⟨(h.roster o observed).sleep (by rw [wanting]; nofun), fun free => ?_⟩
    exact absurd (busy.symm.trans free) (by decide)
  | quit role o observed wanting late =>
    rintro _ ⟨⟩
    exact rested role o observed
  | search role o observed wanting free live =>
    rintro _ ⟨⟩
    exact ⟨(h.roster o observed).setListener (by rw [wanting]; nofun) nofun, nofun⟩
  | conclude role rebuild o found observed searching finds =>
    rintro _ ⟨⟩
    exact rested role o observed

end Session

theorem Chronicled.run_attentive {σ : Type} [Host σ] {x : Chronicled σ} (h : x.session.Attentive)
    (actions : List (Action σ)) : (x.run actions).session.Attentive :=
  run_keeps (fun _ => True) (P := fun x => x.session.Attentive) (fun h m => m.attentive h) h actions
    fun step _ => step.calls_any

end FormatService
