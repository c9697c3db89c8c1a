import FormatService.Proofs.Session.Advance

/-!
# Listeners after a change

A change of the observation says little about the listeners by itself: waking, for
example, goes through all who sleep. Here stands, for each change, what every
listener is after it and which rebuilds are suspended in them.
-/

set_option autoImplicit false

namespace FormatService

open Coordinator (Rebuild)

namespace Observation

def Dozing (o : Observation) : Prop := ∀ role ∈ o.sleepers, (o.listener role).phase = .asleep

theorem mem_searching {o : Observation} {rebuild : Rebuild} :
    rebuild ∈ o.searching ↔ ∃ role, (o.listener role).phase = .searching rebuild := by
  have hp : ∀ p : Phase, rebuild ∈ p.rebuild?.toList ↔ p = .searching rebuild := by
    intro p
    cases p <;> simp [Phase.rebuild?, eq_comm]
  rw [searching, List.mem_append, hp, hp]
  constructor
  · rintro (h | h)
    · exact ⟨.projects, h⟩
    · exact ⟨.settings, h⟩
  · rintro ⟨role, h⟩
    cases role with
    | projects => exact .inl h
    | settings => exact .inr h

theorem searching_congr {o o' : Observation}
    (h : ∀ role, (o'.listener role).phase.rebuild? = (o.listener role).phase.rebuild?) :
    o'.searching = o.searching := by
  have hp := h .projects
  have hs := h .settings
  simp only [listener] at hp hs
  rw [searching, searching, hp, hs]

theorem rebuild?_none {o : Observation} (h : o.searching = []) (role : Role) :
    (o.listener role).phase.rebuild? = none := by
  obtain ⟨hp, hs⟩ := List.append_eq_nil_iff.mp h
  cases role with
  | projects => exact Option.toList_eq_nil_iff.mp hp
  | settings => exact Option.toList_eq_nil_iff.mp hs

theorem rebuild?_other {o : Observation} {role : Role} {rebuild : Rebuild}
    (hp : (o.listener role).phase = .searching rebuild) (hs : o.searching = [rebuild]) {r : Role}
    (hr : r ≠ role) : (o.listener r).phase.rebuild? = none := by
  have hl := congrArg List.length hs
  have hq : (o.listener role).phase.rebuild?.toList.length = 1 := by rw [hp]; rfl
  rw [searching, List.length_append, List.length_singleton] at hl
  rw [← Option.toList_eq_nil_iff, ← List.length_eq_zero_iff]
  cases role with
  | projects =>
    cases r with
    | projects => exact absurd rfl hr
    | settings =>
      change o.projects.phase.rebuild?.toList.length = 1 at hq
      change o.settings.phase.rebuild?.toList.length = 0
      omega
  | settings =>
    cases r with
    | projects =>
      change o.settings.phase.rebuild?.toList.length = 1 at hq
      change o.projects.phase.rebuild?.toList.length = 0
      omega
    | settings => exact absurd rfl hr

/-! ## What the listeners are after a change -/

theorem listener_setListener_eq (role r : Role) (l : Listener) (o : Observation) :
    (o.setListener r l).listener role = if role = r then l else o.listener role := by
  cases role <;> cases r <;> rfl

theorem listener_setPhase (role r : Role) (p : Phase) (o : Observation) :
    (o.setPhase r p).listener role =
      if role = r then ⟨(o.listener role).unseen, p⟩ else o.listener role := by
  cases role <;> cases r <;> rfl

theorem listener_enqueue (role r : Role) (o : Observation) :
    (o.enqueue r).listener role = o.listener role := by
  rw [enqueue_eq]
  cases role <;> rfl

theorem listener_announce (role r : Role) (o : Observation) :
    (o.announce r).listener role =
      if role = r then ⟨true, (o.listener role).phase⟩ else o.listener role := by
  rw [announce]
  split
  · rw [listener_enqueue, listener_setListener_eq]
    split
    · next h => rw [h]
    · rfl
  · rw [listener_setListener_eq]
    split
    · next h => rw [h]
    · rfl

theorem sleepers_announce (r : Role) (o : Observation) : (o.announce r).sleepers = o.sleepers := by
  rw [announce, enqueue_eq]
  cases r <;> (split <;> rfl)

theorem newest_announce (role : Role) (o : Observation) :
    (o.announce role).newest = o.newest := by
  rw [announce, enqueue_eq]
  cases role <;> (split <;> rfl)

theorem listener_foldl_rouse (role : Role) (sleepers : List Role) (o : Observation) :
    (sleepers.foldl rouse o).listener role =
      if role ∈ sleepers then ⟨(o.listener role).unseen, .wanting⟩ else o.listener role := by
  induction sleepers generalizing o with
  | nil => simp
  | cons r sleepers ih =>
    rw [List.foldl_cons, ih, rouse, listener_enqueue, listener_setPhase]
    by_cases hr : role = r
    · simp [hr]
    · simp [hr]

theorem listener_wake (role : Role) (o : Observation) :
    o.wake.listener role =
      if role ∈ o.sleepers then ⟨(o.listener role).unseen, .wanting⟩ else o.listener role := by
  rw [wake, listener_foldl_rouse]
  cases role <;> rfl

theorem foldl_rouse_eq (sleepers : List Role) (o : Observation) :
    (sleepers.foldl rouse o).channel = o.channel ∧ (sleepers.foldl rouse o).newest = o.newest ∧
      (sleepers.foldl rouse o).sleepers = o.sleepers := by
  induction sleepers generalizing o with
  | nil => exact ⟨rfl, rfl, rfl⟩
  | cons r sleepers ih =>
    rw [List.foldl_cons]
    obtain ⟨hc, hn, hs⟩ := ih (o.rouse r)
    rw [hc, hn, hs, rouse, enqueue_eq]
    cases r <;> exact ⟨rfl, rfl, rfl⟩

theorem newest_wake (o : Observation) : o.wake.newest = o.newest := (foldl_rouse_eq _ _).2.1

theorem sleepers_wake (o : Observation) : o.wake.sleepers = [] := (foldl_rouse_eq _ _).2.2

theorem unseen_wake (role : Role) (o : Observation) :
    (o.wake.listener role).unseen = (o.listener role).unseen := by
  rw [listener_wake]
  split <;> rfl

theorem unseen_setPhase (role r : Role) (p : Phase) (o : Observation) :
    ((o.setPhase r p).listener role).unseen = (o.listener role).unseen := by
  rw [listener_setPhase]
  split <;> rfl

theorem idle_of_setPhase (role r : Role) {p : Phase} {o : Observation} (hp : p ≠ .idle)
    (h : ((o.setPhase r p).listener role).phase = .idle) : (o.listener role).phase = .idle := by
  rw [listener_setPhase] at h
  split at h
  · exact absurd h hp
  · exact h

namespace Dozing

variable {o : Observation}

theorem rebuild?_wake (h : o.Dozing) (role : Role) :
    (o.wake.listener role).phase.rebuild? = (o.listener role).phase.rebuild? := by
  rw [listener_wake]
  split
  · next hm => rw [h role hm]; rfl
  · rfl

theorem searching_wake (h : o.Dozing) : o.wake.searching = o.searching :=
  searching_congr h.rebuild?_wake

theorem idle_wake (h : o.Dozing) (role : Role) :
    (o.wake.listener role).phase = .idle ↔ (o.listener role).phase = .idle := by
  rw [listener_wake]
  split
  · next hm => simp [h role hm]
  · rfl

end Dozing

theorem sleepers_setListener (role : Role) (l : Listener) (o : Observation) :
    (o.setListener role l).sleepers = o.sleepers := by
  cases role <;> rfl

theorem Dozing.setListener {o : Observation} (h : o.Dozing) (role : Role)
    (hp : (o.listener role).phase ≠ .asleep) (l : Listener) : (o.setListener role l).Dozing := by
  intro r hm
  rw [sleepers_setListener] at hm
  have hr : r ≠ role := by
    rintro rfl
    exact hp (h r hm)
  rw [listener_setListener_eq, if_neg hr]
  exact h r hm

theorem Dozing.sleep {o : Observation} (h : o.Dozing) (role : Role) :
    Dozing { o.setPhase role .asleep with sleepers := o.sleepers ++ [role] } := by
  intro r hm
  change ((o.setPhase role .asleep).listener r).phase = .asleep
  rw [listener_setPhase]
  split
  · rfl
  · next hr =>
    rcases List.mem_append.mp hm with hm | hm
    · exact h r hm
    · exact absurd (List.mem_singleton.mp hm) hr

theorem Dozing.rest {o : Observation} (role : Role) : (o.wake.setPhase role .idle).Dozing := by
  intro r hm
  rw [sleepers_setPhase, sleepers_wake] at hm
  exact absurd hm List.not_mem_nil

theorem Dozing.announce {o : Observation} (h : o.Dozing) (role : Role) :
    (o.announce role).Dozing := by
  intro r hm
  rw [sleepers_announce] at hm
  rw [listener_announce]
  split <;> exact h r hm

theorem searching_announce (role : Role) (o : Observation) :
    (o.announce role).searching = o.searching := by
  apply searching_congr
  intro r
  rw [listener_announce]
  split <;> rfl

theorem searching_setListener (role : Role) (l : Listener) {o : Observation}
    (h : (o.listener role).phase.rebuild? = none) (hl : l.phase.rebuild? = none) :
    (o.setListener role l).searching = o.searching := by
  apply searching_congr
  intro r
  rw [listener_setListener_eq]
  split
  · next hr => rw [hr, h, hl]
  · rfl

theorem searching_setPhase {o : Observation} {role : Role} (p : Phase)
    (h : ∀ r, r ≠ role → (o.listener r).phase.rebuild? = none) :
    (o.setPhase role p).searching = p.rebuild?.toList := by
  cases role with
  | projects =>
    have hs : o.settings.phase.rebuild? = none := h .settings (by decide)
    simp [searching, setPhase, setListener, listener, hs]
  | settings =>
    have hs : o.projects.phase.rebuild? = none := h .projects (by decide)
    simp [searching, setPhase, setListener, listener, hs]

theorem dozing_wake (o : Observation) : o.wake.Dozing := by
  intro role hm
  rw [sleepers_wake] at hm
  exact absurd hm List.not_mem_nil

end Observation

end FormatService
