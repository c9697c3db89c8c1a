import FormatService.Proofs.Session.Listener
import FormatService.Proofs.Session.Move

/-!
# One slot for all rebuilds

A rebuild is suspended at its searches in what a caller holds, in a listener, or in a
listener that was stopped and is still to be reaped. At no time are there two, and
there is one exactly while the slot is taken: this is kept by every move, also by
those that give a rebuild up.
-/

set_option autoImplicit false

namespace FormatService

open Coordinator (Rebuild concluded concluded_rebuilding concluded_disposed)

namespace Session

variable {σ : Type}

/-- The rebuilds that have taken the slot and have not come to an end. -/
def suspended (s : Session σ) : List Rebuild :=
  s.held.map (·.2.rebuild) ++ (s.observation.elim [] (·.searching) ++ s.aborted)

structure Sound (s : Session σ) : Prop where
  slot : s.suspended.length = s.coordinator.rebuilding.toNat
  dozing : ∀ o, s.observation = some o → o.Dozing
  /-- A disposed coordinator is not observed. -/
  silent : s.coordinator.disposed = true → s.observation = none

theorem mem_held_of_held? {s : Session σ} {id : String} {held : Held}
    (h : s.held? id = some held) : (id, held) ∈ s.held := by
  obtain ⟨e, he, rfl⟩ := Option.map_eq_some_iff.mp h
  have hid := List.find?_some he
  obtain rfl := eq_of_beq hid
  exact List.mem_of_find?_eq_some he

theorem mem_suspended_of_held? {s : Session σ} {id : String} {held : Held}
    (h : s.held? id = some held) : held.rebuild ∈ s.suspended :=
  List.mem_append_left _ (List.mem_map_of_mem (f := (·.2.rebuild)) (mem_held_of_held? h))

theorem mem_suspended {s : Session σ} {o : Observation} (observed : s.observation = some o)
    (role : Role) {rebuild : Rebuild} (searching : (o.listener role).phase = .searching rebuild) :
    rebuild ∈ s.suspended := by
  rw [suspended, observed]
  exact List.mem_append_right _
    (List.mem_append_left _ (Observation.mem_searching.mpr ⟨role, searching⟩))

theorem mem_suspended_of_aborted {s : Session σ} {rebuild : Rebuild} (h : rebuild ∈ s.aborted) :
    rebuild ∈ s.suspended :=
  List.mem_append_right _ (List.mem_append_right _ h)

theorem suspended_stopListening (s : Session σ) : s.stopListening.suspended = s.suspended := rfl

namespace Sound

variable {s : Session σ} (h : s.Sound)
include h

theorem suspended_of_free (free : s.coordinator.rebuilding = false) : s.suspended = [] := by
  have hs := h.slot
  rw [free] at hs
  exact List.length_eq_zero_iff.mp hs

theorem live_of_observed {o : Observation} (observed : s.observation = some o) :
    s.coordinator.disposed = false := by
  cases hd : s.coordinator.disposed with
  | false => rfl
  | true =>
    have hn := h.silent hd
    rw [observed] at hn
    contradiction

theorem suspended_only {rebuild : Rebuild} (hm : rebuild ∈ s.suspended) :
    s.coordinator.rebuilding = true ∧ s.suspended = [rebuild] := by
  have hs := h.slot
  have hl := List.length_pos_of_mem hm
  cases hr : s.coordinator.rebuilding with
  | false =>
    rw [hr, Bool.toNat_false] at hs
    omega
  | true =>
    rw [hr, Bool.toNat_true] at hs
    obtain ⟨e, he⟩ := List.length_eq_one_iff.mp hs
    rw [he, List.mem_singleton] at hm
    exact ⟨rfl, by rw [he, hm]⟩

theorem held_only {id : String} {held : Held} (there : s.held? id = some held) :
    s.held = [(id, held)] ∧ s.observation.elim [] (·.searching) = [] ∧ s.aborted = [] := by
  have hm := mem_held_of_held? there
  obtain ⟨-, hs⟩ := h.suspended_only (mem_suspended_of_held? there)
  rcases List.append_eq_singleton_iff.mp hs with ⟨hl, -⟩ | ⟨hl, hn⟩
  · rw [List.map_eq_nil_iff.mp hl] at hm
    exact absurd hm List.not_mem_nil
  · obtain ⟨e, he, -⟩ := List.map_eq_singleton_iff.mp hl
    rw [he, List.mem_singleton] at hm
    exact ⟨by rw [he, hm], List.append_eq_nil_iff.mp hn⟩

theorem searching_only {o : Observation} (observed : s.observation = some o) {role : Role}
    {rebuild : Rebuild} (searching : (o.listener role).phase = .searching rebuild) :
    s.held = [] ∧ o.searching = [rebuild] ∧ s.aborted = [] := by
  obtain ⟨-, hs⟩ := h.suspended_only (mem_suspended observed role searching)
  have hm := Observation.mem_searching.mpr ⟨role, searching⟩
  rw [suspended, observed, Option.elim_some] at hs
  rcases List.append_eq_singleton_iff.mp hs with ⟨hl, hn⟩ | ⟨-, hn⟩
  · rcases List.append_eq_singleton_iff.mp hn with ⟨ho, -⟩ | ⟨ho, ha⟩
    · rw [ho] at hm
      exact absurd hm List.not_mem_nil
    · exact ⟨List.map_eq_nil_iff.mp hl, ho, ha⟩
  · rw [(List.append_eq_nil_iff.mp hn).1] at hm
    exact absurd hm List.not_mem_nil

theorem aborted_only (stopped : s.aborted ≠ []) :
    s.held = [] ∧ s.observation.elim [] (·.searching) = [] ∧ ∃ rebuild, s.aborted = [rebuild] := by
  obtain ⟨rebuild, hm⟩ := List.exists_mem_of_ne_nil _ stopped
  obtain ⟨-, hs⟩ := h.suspended_only (mem_suspended_of_aborted hm)
  rcases List.append_eq_singleton_iff.mp hs with ⟨hl, hn⟩ | ⟨-, hn⟩
  · rcases List.append_eq_singleton_iff.mp hn with ⟨ho, ha⟩ | ⟨-, ha⟩
    · exact ⟨List.map_eq_nil_iff.mp hl, ho, rebuild, ha⟩
    · exact absurd ha stopped
  · exact absurd (List.append_eq_nil_iff.mp hn).2 stopped

end Sound

/-- What a move does to the rebuilds that are suspended, and what it tells of it. -/
inductive Turnover (plan : Rebuild) : List Rebuild → List Entry → List Rebuild → Prop
  /-- None is new, and some may be given up. -/
  | kept {rebuilds left : List Rebuild} (sub : left ⊆ rebuilds) : Turnover plan rebuilds [] left
  | looked (paths : ToolPaths) (rebuilds : List Rebuild) :
      Turnover plan rebuilds [.looked paths] rebuilds
  | forfeited (roots : List ProjectRoot) (rebuilds : List Rebuild) :
      Turnover plan rebuilds [.forfeited roots] rebuilds
  | begun : Turnover plan [] [.began plan] [plan]
  | whole (found : Option (List (CacheKey × Option String))) :
      Turnover plan [] [.ended plan found, .began plan] []
  | ended (rebuild : Rebuild) (found : Option (List (CacheKey × Option String))) :
      Turnover plan [rebuild] [.ended rebuild found] []

namespace Turnover

variable {plan : Rebuild} {before after : List Rebuild} {es : List Entry}

theorem of_ne_nil (h : Turnover plan before es after) (hb : before ≠ []) (ha : after ≠ []) :
    es = [] ∨ (∃ paths, es = [.looked paths]) ∨ ∃ roots, es = [.forfeited roots] := by
  cases h with
  | kept => exact .inl rfl
  | looked paths => exact .inr (.inl ⟨paths, rfl⟩)
  | forfeited roots => exact .inr (.inr ⟨roots, rfl⟩)
  | begun => contradiction
  | whole => contradiction
  | ended => contradiction

theorem of_ended {rebuild : Rebuild} {found : Option (List (CacheKey × Option String))}
    (h : Turnover plan before [.ended rebuild found] after) : after = [] := by
  cases h
  rfl

end Turnover

theorem Sound.map {s : Session σ} (h : s.Sound) {c : Coordinator σ}
    (hr : c.rebuilding = s.coordinator.rebuilding) (hd : c.disposed = s.coordinator.disposed)
    {f : Observation → Observation}
    (hf : ∀ o, s.observation = some o → (f o).searching = o.searching ∧ (f o).Dozing) :
    Sound { s with coordinator := c, observation := s.observation.map f } ∧
      suspended { s with coordinator := c, observation := s.observation.map f } = s.suspended := by
  have hs : suspended { s with coordinator := c, observation := s.observation.map f } =
      s.suspended := by
    rw [suspended, suspended]
    cases ho : s.observation with
    | none => rfl
    | some o =>
      have searching : (f o).searching = o.searching := (hf o ho).1
      rw [Option.map_some, Option.elim_some, Option.elim_some, searching]
  refine ⟨⟨?_, ?_, ?_⟩, hs⟩
  · rw [hs, h.slot, hr]
  · intro o' ho'
    obtain ⟨o, ho, rfl⟩ := Option.map_eq_some_iff.mp ho'
    exact (hf o ho).2
  · intro late
    rw [h.silent (hd ▸ late)]
    rfl

theorem Sound.change {s : Session σ} (h : s.Sound) {o o' : Observation}
    (observed : s.observation = some o) {c : Coordinator σ}
    (hr : c.rebuilding = s.coordinator.rebuilding) (hd : c.disposed = s.coordinator.disposed)
    (hs : o'.searching = o.searching) (ho : o'.Dozing) :
    Sound { s with coordinator := c, observation := some o' } ∧
      suspended { s with coordinator := c, observation := some o' } = s.suspended := by
  have hm := h.map hr hd (f := fun _ => o') (by
    intro p hp
    rw [observed] at hp
    obtain rfl := Option.some.inj hp
    exact ⟨hs, ho⟩)
  rwa [observed] at hm

theorem Sound.replace {s : Session σ} (h : s.Sound) {o : Observation}
    (observed : s.observation = some o) (o' : Observation) {c : Coordinator σ}
    (hd : c.disposed = s.coordinator.disposed) (ho : o'.Dozing)
    (slot : s.held.length + (o'.searching.length + s.aborted.length) = c.rebuilding.toNat) :
    Sound { s with coordinator := c, observation := some o' } := by
  refine ⟨?_, ?_, ?_⟩
  · rw [← slot, suspended, List.length_append, List.length_append, List.length_map]
    rfl
  · rintro _ ⟨⟩
    exact ho
  · intro late
    rw [hd, h.live_of_observed observed] at late
    contradiction

theorem Sound.stopListening {s : Session σ} (h : s.Sound) : s.stopListening.Sound where
  slot := h.slot
  dozing := fun _ observed => by simp only [Session.stopListening, reduceCtorEq] at observed
  silent := fun _ => rfl

theorem Sound.send {s : Session σ} (h : s.Sound) (channel : String) (roots : List ProjectRoot) :
    (s.send channel roots).Sound ∧ (s.send channel roots).suspended = s.suspended := by
  refine h.map rfl rfl fun o ho => ?_
  split
  · have hd : ({ o with newest := roots } : Observation).Dozing := h.dozing o ho
    exact ⟨Observation.searching_announce .projects _, hd.announce .projects⟩
  · exact ⟨rfl, h.dozing o ho⟩

theorem Sound.free {s : Session σ} (h : s.Sound) (s' : Session σ) {c : Coordinator σ}
    (hr : c.rebuilding = false)
    (hd : c.disposed = s.coordinator.disposed) (coordinator : s'.coordinator = c)
    (observation : s'.observation = s.observation.map (·.wake))
    (idle : s.observation.elim [] (·.searching) = []) (held : s'.held = [])
    (aborted : s'.aborted = []) :
    s'.Sound ∧ s'.suspended = [] := by
  have he : s'.suspended = [] := by
    rw [suspended, held, aborted, observation]
    cases ho : s.observation with
    | none => rfl
    | some o =>
      rw [ho] at idle
      rw [Option.map_some, Option.elim_some, (h.dozing o ho).searching_wake]
      exact congrArg (· ++ []) idle
  refine ⟨⟨?_, ?_, ?_⟩, he⟩
  · rw [he, coordinator, hr]
    rfl
  · intro o' ho'
    rw [observation] at ho'
    obtain ⟨o, -, rfl⟩ := Option.map_eq_some_iff.mp ho'
    exact o.dozing_wake
  · intro late
    rw [coordinator, hd] at late
    rw [observation, h.silent late]
    rfl

theorem Sound.forget {s : Session σ} (h : s.Sound) {id : String} {held : Held}
    (there : s.held? id = some held) {c : Coordinator σ} (hr : c.rebuilding = false)
    (hd : c.disposed = s.coordinator.disposed) :
    Sound { s.forget id with coordinator := c, observation := s.observation.map (·.wake) } ∧
      s.suspended = [held.rebuild] ∧
      suspended { s.forget id with coordinator := c
                                   observation := s.observation.map (·.wake) } = [] := by
  obtain ⟨hl, hn, ha⟩ := h.held_only there
  have hf : (s.forget id).held = [] := by simp [Session.forget, hl]
  obtain ⟨sound, empty⟩ := h.free
    { s.forget id with coordinator := c, observation := s.observation.map (·.wake) }
    hr hd rfl rfl hn hf ha
  refine ⟨sound, ?_, empty⟩
  rw [suspended, hl, hn, ha]
  rfl

theorem Sound.hold {s : Session σ} (h : s.Sound) (free : s.coordinator.rebuilding = false)
    (id : String) (held : Held) :
    Sound { s with coordinator := { s.coordinator with rebuilding := true }
                   held := s.held ++ [(id, held)] } ∧
      suspended { s with coordinator := { s.coordinator with rebuilding := true }
                         held := s.held ++ [(id, held)] } = [held.rebuild] := by
  obtain ⟨hn, ho⟩ := List.append_eq_nil_iff.mp (h.suspended_of_free free)
  have hp : suspended { s with coordinator := { s.coordinator with rebuilding := true }
                               held := s.held ++ [(id, held)] } = [held.rebuild] := by
    rw [suspended, List.map_append, hn, ho]
    rfl
  exact ⟨⟨by rw [hp]; rfl, h.dozing, h.silent⟩, hp⟩

theorem Sound.search {s : Session σ} (h : s.Sound) {o : Observation}
    (observed : s.observation = some o) {role : Role}
    (wanting : (o.listener role).phase = .wanting) (free : s.coordinator.rebuilding = false)
    (rebuild : Rebuild) :
    Sound { s with coordinator := { s.coordinator with rebuilding := true }
                   observation := some (o.setPhase role (.searching rebuild)) } ∧
      suspended { s with coordinator := { s.coordinator with rebuilding := true }
                         observation := some (o.setPhase role (.searching rebuild)) } =
        [rebuild] := by
  obtain ⟨hl, hr⟩ := List.append_eq_nil_iff.mp (h.suspended_of_free free)
  obtain ⟨hn, ha⟩ := List.append_eq_nil_iff.mp hr
  rw [observed] at hn
  have hp : (o.setPhase role (.searching rebuild)).searching = [rebuild] :=
    Observation.searching_setPhase _ fun r _ => Observation.rebuild?_none hn r
  have hs := h.replace observed (o.setPhase role (.searching rebuild))
    (c := { s.coordinator with rebuilding := true }) rfl
    ((h.dozing o observed).setListener role (by rw [wanting]; decide) _)
    (show s.held.length + _ = 1 by rw [List.map_eq_nil_iff.mp hl, hp, ha]; rfl)
  refine ⟨hs, ?_⟩
  rw [suspended, Option.elim_some, hp, hl, ha]
  rfl

theorem Sound.conclude {s : Session σ} (h : s.Sound) {o : Observation}
    (observed : s.observation = some o) {role : Role} {rebuild : Rebuild}
    (searching : (o.listener role).phase = .searching rebuild) {c : Coordinator σ}
    (hr : c.rebuilding = false) (hd : c.disposed = s.coordinator.disposed) :
    Sound { s with coordinator := c, observation := some (o.wake.setPhase role .idle) } ∧
      s.suspended = [rebuild] ∧
      suspended { s with coordinator := c
                         observation := some (o.wake.setPhase role .idle) } = [] := by
  obtain ⟨hl, hn, ha⟩ := h.searching_only observed searching
  have hp : (o.wake.setPhase role .idle).searching = [] :=
    Observation.searching_setPhase _ fun r other =>
      ((h.dozing o observed).rebuild?_wake r).trans (Observation.rebuild?_other searching hn other)
  have hs := h.replace observed (o.wake.setPhase role .idle) hd (.rest role)
    (by rw [hl, hp, ha, hr]; rfl)
  refine ⟨hs, ?_, ?_⟩
  · rw [suspended, observed, Option.elim_some, hn, hl, ha]
    rfl
  · rw [suspended, Option.elim_some, hp, hl, ha]
    rfl

variable [Host σ]

theorem observe_eq (s : Session σ) (channel : String) (roots : List ProjectRoot)
    (live : s.coordinator.disposed = false) :
    ∃ h, s.observe channel roots =
      { s.stopListening with
        coordinator := { s.coordinator with host := h, roots := roots }
        observation := some (.begin channel roots (roots ≠ s.coordinator.roots)) } := by
  rw [observe, if_neg (by rw [live]; decide)]
  by_cases hr : roots = s.coordinator.roots
  · exact ⟨s.coordinator.host, by simp [hr, stopListening]⟩
  · simp only [decide_not, hr, decide_false, Bool.not_false, if_true]
    exact ⟨_, rfl⟩

theorem suspended_observe (s : Session σ) (channel : String) (roots : List ProjectRoot) :
    (s.observe channel roots).suspended = s.suspended := by
  cases hd : s.coordinator.disposed with
  | true => rw [observe, if_pos hd]
  | false =>
    obtain ⟨host, ho⟩ := s.observe_eq channel roots hd
    rw [ho, ← suspended_stopListening, suspended, suspended]
    cases decide (roots ≠ s.coordinator.roots) <;> rfl

theorem Sound.observe {s : Session σ} (h : s.Sound) (channel : String)
    (roots : List ProjectRoot) (live : s.coordinator.disposed = false) :
    (s.observe channel roots).Sound := by
  obtain ⟨host, ho⟩ := s.observe_eq channel roots live
  refine ⟨?_, ?_, ?_⟩
  · rw [suspended_observe, ho]
    exact h.slot
  · rw [ho]
    rintro _ ⟨⟩ role hm
    exact absurd hm List.not_mem_nil
  · rw [ho]
    intro late
    exact absurd (live.symm.trans late) (by decide)

variable {allowed : Call → Prop}

theorem Move.sound {s s' : Session σ} {es : List Entry} (m : Move allowed s es s')
    (h : s.Sound) : s'.Sound ∧ Turnover s.coordinator.plan s.suspended es s'.suspended := by
  have kept : ∀ {s' : Session σ}, s'.Sound ∧ s'.suspended = s.suspended →
      s'.Sound ∧ Turnover s.coordinator.plan s.suspended [] s'.suspended :=
    fun ⟨hs, he⟩ => ⟨hs, he ▸ .kept (List.Subset.refl _)⟩
  cases m with
  | still => exact kept ⟨⟨h.slot, h.dozing, h.silent⟩, rfl⟩
  | prepare call => cases call <;> exact kept ⟨⟨h.slot, h.dozing, h.silent⟩, rfl⟩
  | settings settings =>
    exact kept (h.map (c := { s.coordinator with settings := settings }) rfl rfl fun o ho =>
      ⟨o.searching_announce .settings, (h.dozing o ho).announce .settings⟩)
  | send channel roots => exact kept (h.send channel roots)
  | wake =>
    exact kept (h.map rfl rfl fun o ho => ⟨(h.dozing o ho).searching_wake, o.dozing_wake⟩)
  | queue turns => exact kept (h.map rfl rfl fun o ho => ⟨rfl, h.dozing o ho⟩)
  | hold id formatting free live =>
    obtain ⟨hs, he⟩ := h.hold free id ⟨s.coordinator.plan, formatting⟩
    exact ⟨hs, by rw [h.suspended_of_free free, he]; exact .begun⟩
  | whole found free live finds =>
    have he := h.suspended_of_free free
    have hf := concluded_rebuilding s.coordinator.plan found s.coordinator
    have hm := h.map (c := concluded s.coordinator.plan found s.coordinator)
      (hf.trans free.symm) (concluded_disposed _ _ _)
      fun o ho => ⟨(h.dozing o ho).searching_wake, o.dozing_wake⟩
    exact ⟨hm.1, by rw [hm.2, he]; exact .whole found⟩
  | finish id held found there finds =>
    obtain ⟨hs, hb, he⟩ := h.forget there
      (concluded_rebuilding held.rebuild found s.coordinator) (concluded_disposed _ _ _)
    exact ⟨hs, by rw [hb, he]; exact .ended held.rebuild found⟩
  | drop id held there =>
    obtain ⟨hs, -, he⟩ := h.forget there (c := s.coordinator.release) rfl rfl
    exact ⟨hs, by rw [he]; exact .kept (List.nil_subset _)⟩
  | observe channel roots live =>
    refine ⟨h.observe channel roots live, ?_⟩
    rw [suspended_observe]
    split
    · exact .forfeited roots s.suspended
    · exact .kept (List.Subset.refl _)
  | dispose =>
    have hs := h.stopListening
    exact kept ⟨⟨hs.slot, hs.dozing, fun _ => rfl⟩, rfl⟩
  | reap stopped =>
    obtain ⟨hl, ho, -⟩ := h.aborted_only stopped
    obtain ⟨hs, he⟩ := h.free
      { s with coordinator := s.coordinator.release
               observation := s.observation.map (·.wake)
               aborted := [] }
      (c := s.coordinator.release) rfl rfl rfl rfl ho hl rfl
    exact ⟨hs, by rw [he]; exact .kept (List.nil_subset _)⟩
  | adopt o observed idle unseen =>
    have hi : (o.listener .projects).phase = .idle := idle
    exact kept (h.change (c := s.coordinator.setRoots o.newest) observed rfl rfl
      (Observation.searching_setListener .projects ⟨false, .wanting⟩ (by rw [hi]; rfl) rfl)
      ((h.dozing o observed).setListener .projects (by rw [hi]; decide) _))
  | look o observed idle unseen phase heed =>
    have hi : (o.listener .settings).phase = .idle := idle
    have hp : phase.rebuild? = none := by
      rcases heed with rfl | ⟨rfl, -⟩ <;> rfl
    obtain ⟨hs, he⟩ := h.change
      (c := { s.coordinator with tool := s.coordinator.settings.tool }) observed rfl rfl
      (Observation.searching_setListener .settings ⟨false, phase⟩ (by rw [hi]; rfl) hp)
      ((h.dozing o observed).setListener .settings (by rw [hi]; decide) _)
    exact ⟨hs, by rw [he]; exact .looked _ _⟩
  | sleep role o observed wanting busy =>
    refine kept (h.change observed rfl rfl ?_ ?_)
    · exact Observation.searching_setListener role _ (by rw [wanting]; rfl) rfl
    · exact (h.dozing o observed).sleep role
  | quit role o observed wanting late =>
    rw [h.live_of_observed observed] at late
    contradiction
  | search role o observed wanting free live =>
    obtain ⟨hs, he⟩ := h.search observed wanting free s.coordinator.plan
    exact ⟨hs, by rw [h.suspended_of_free free, he]; exact .begun⟩
  | conclude role rebuild o found observed searching finds =>
    obtain ⟨hs, hb, he⟩ := h.conclude observed searching
      (concluded_rebuilding rebuild found s.coordinator) (concluded_disposed _ _ _)
    exact ⟨hs, by rw [hb, he]; exact .ended rebuild found⟩

end Session

end FormatService
