import FormatService.Proofs.Session.Sleep

/-!
# The turn of a listener

A listener that can run has a turn coming. In its turn it does all it can, until it
waits or has issued its searches, and whoever it wakes gets a turn in return. A turn
costs more than what it makes others do, so the work that is left gets less.
-/

set_option autoImplicit false

namespace FormatService

open Coordinator (Rebuild)

/-- A listener waits for a new value, or asleep for the end of a rebuild. -/
def Listener.Waits (l : Listener) : Prop := l.phase = .idle ∧ l.unseen = false ∨ l.phase = .asleep

namespace Observation

open Observed (weight turnsLeft)

def Scheduled (o : Observation) : Prop := ∀ r, ¬(o.listener r).Waits → r ∈ o.queue

def ScheduledBut (role : Role) (o : Observation) : Prop :=
  ∀ r, r ≠ role → ¬(o.listener r).Waits → r ∈ o.queue

def besides (role : Role) (o : Observation) : Nat :=
  match role with
  | .projects => 3 * weight o.settings + o.queue.length
  | .settings => 3 * weight o.projects + o.queue.length

theorem turnsLeft_eq (role : Role) (o : Observation) :
    turnsLeft o = o.besides role + 3 * weight (o.listener role) := by
  cases role <;> simp only [turnsLeft, besides, listener] <;> omega

theorem ScheduledBut.scheduled {o : Observation} {role : Role} (h : o.ScheduledBut role)
    (hr : ¬(o.listener role).Waits → role ∈ o.queue) : o.Scheduled := by
  intro r hw
  by_cases he : r = role
  · subst he
    exact hr hw
  · exact h r he hw

theorem queue_setListener (role : Role) (l : Listener) (o : Observation) :
    (o.setListener role l).queue = o.queue := by
  cases role <;> rfl

theorem mem_queue_enqueue {role r : Role} {o : Observation} :
    r ∈ (o.enqueue role).queue ↔ r ∈ o.queue ∨ r = role := by
  rw [enqueue_eq]
  simp only
  split
  · next hc =>
    refine ⟨.inl, fun hr => hr.elim id ?_⟩
    rintro rfl
    exact List.contains_iff_mem.mp hc
  · rw [List.mem_append, List.mem_singleton]

theorem length_enqueue_le (role : Role) (o : Observation) :
    (o.enqueue role).queue.length ≤ o.queue.length + 1 := by
  rw [enqueue_eq]
  simp only
  split <;> simp

/-- What one listener does leaves the others their turns, and may cost some more of them. -/
structure Spares (role : Role) (cost : Nat) (o o' : Observation) : Prop where
  others : o.ScheduledBut role → o'.ScheduledBut role
  unseen : (o'.listener role).unseen = true → (o.listener role).unseen = true
  turns : o'.besides role ≤ o.besides role + cost

namespace Spares

variable {role : Role} {o o' o'' : Observation} {m n : Nat}

theorem trans (h : Spares role m o o') (h' : Spares role n o' o'') : Spares role (m + n) o o'' where
  others := fun hs => h'.others (h.others hs)
  unseen := fun hu => h.unseen (h'.unseen hu)
  turns := by
    have := h.turns
    have := h'.turns
    omega

theorem setListener (role : Role) {l : Listener} (o : Observation)
    (hl : l.unseen = true → (o.listener role).unseen = true) :
    Spares role 0 o (o.setListener role l) where
  others := by
    intro hs r hr hw
    rw [listener_setListener_eq, if_neg hr] at hw
    rw [queue_setListener]
    exact hs r hr hw
  unseen := by rwa [listener_setListener]
  turns := by cases role <;> exact Nat.le_refl _

theorem enqueue (role : Role) (o : Observation) : Spares role 1 o (o.enqueue role) where
  others := by
    intro hs r hr hw
    rw [listener_enqueue] at hw
    exact mem_queue_enqueue.mpr (.inl (hs r hr hw))
  unseen := by rw [listener_enqueue]; exact id
  turns := by
    have hl := length_enqueue_le role o
    have hp := listener_enqueue .projects role o
    have hs := listener_enqueue .settings role o
    simp only [listener] at hp hs
    cases role <;> simp only [besides, hp, hs] <;> omega

end Spares

theorem Roster.sleepers_cases {o : Observation} (h : o.Roster) {role : Role}
    (awake : (o.listener role).phase ≠ .asleep) :
    o.sleepers = [] ∨ ∃ r, r ≠ role ∧ o.sleepers = [r] := by
  have others : ∀ r ∈ o.sleepers, r ≠ role := by
    rintro r hm rfl
    exact awake ((h.mem_iff r).mp hm)
  have nodup := h.nodup
  match hs : o.sleepers with
  | [] => exact .inl rfl
  | [r] => exact .inr ⟨r, others r (by simp [hs]), rfl⟩
  | r :: r' :: rest =>
    rw [hs] at nodup
    have hr := others r (by simp [hs])
    have hr' := others r' (by simp [hs])
    have same : r = r' := by
      cases role <;> cases r <;> cases r' <;> first | rfl | contradiction
    simp [same] at nodup

theorem besides_of_ne {role r : Role} (h : r ≠ role) (o : Observation) :
    o.besides role = 3 * weight (o.listener r) + o.queue.length := by
  cases role <;> cases r <;> first | rfl | contradiction

theorem spares_rouse {role r : Role} (h : r ≠ role) {o : Observation}
    (asleep : (o.listener r).phase = .asleep) : Spares role 4 o (o.rouse r) where
  others := by
    intro _ r' hr' _
    have same : r' = r := by
      cases role <;> cases r <;> cases r' <;> first | rfl | contradiction
    rw [same]
    exact mem_queue_enqueue.mpr (.inr rfl)
  unseen := by
    rw [rouse, listener_enqueue, listener_setPhase, if_neg (Ne.symm h)]
    exact id
  turns := by
    have hl := length_enqueue_le r (o.setPhase r .wanting)
    rw [setPhase, queue_setListener, ← setPhase] at hl
    rw [besides_of_ne h, besides_of_ne h, rouse, listener_enqueue, listener_setPhase, if_pos rfl]
    simp only [weight, asleep]
    omega

theorem Roster.spares_wake {o : Observation} (h : o.Roster) {role : Role}
    (awake : (o.listener role).phase ≠ .asleep) : Spares role 4 o o.wake := by
  have cleared : Spares role 0 o { o with sleepers := [] } := by
    cases role <;> exact ⟨id, id, Nat.le_refl _⟩
  rcases h.sleepers_cases awake with empty | ⟨r, hr, only⟩
  · have hw : o.wake = { o with sleepers := [] } := by rw [Observation.wake, empty]; rfl
    rw [hw]
    exact ⟨cleared.others, cleared.unseen, Nat.le_add_right_of_le cleared.turns⟩
  · have hw : o.wake = rouse { o with sleepers := [] } r := by rw [Observation.wake, only]; rfl
    have asleep : (o.listener r).phase = .asleep := (h.mem_iff r).mp (by simp [only])
    rw [hw]
    exact cleared.trans (spares_rouse hr asleep)

/-- The turns of all listeners after one of them has done what it can. -/
structure Serves (role : Role) (cost : Nat) (o o' : Observation) : Prop where
  scheduled : o.ScheduledBut role → o'.Scheduled
  turns : turnsLeft o' ≤ o.besides role + cost

theorem Spares.serves {role : Role} {o o' : Observation} {n : Nat} (h : Spares role n o o')
    (hr : ¬(o'.listener role).Waits → role ∈ o'.queue) :
    Serves role (n + 3 * weight (o'.listener role)) o o' where
  scheduled := fun hs => (h.others hs).scheduled hr
  turns := by
    have := h.turns
    rw [turnsLeft_eq role]
    omega

theorem Serves.mono {role : Role} {o o' : Observation} {m n : Nat} (h : Serves role m o o')
    (hn : m ≤ n) : Serves role n o o' :=
  ⟨h.scheduled, Nat.le_trans h.turns (Nat.add_le_add_left hn _)⟩

theorem Spares.before {role : Role} {o o' o'' : Observation} {m n k : Nat}
    (h : Spares role m o o') (h' : Serves role n o' o'') (hk : m + n ≤ k) :
    Serves role k o o'' where
  scheduled := fun hs => h'.scheduled (h.others hs)
  turns := by
    have := h.turns
    have := h'.turns
    omega

end Observation

namespace Observed

open Observation (Spares Serves)

variable {σ : Type} [Host σ] {role : Role} {w w' : Observed σ}

theorem attempt_ended (h : w.attempt role = (w', true)) : w'.observation = w.observation.wake := by
  rw [attempt] at h
  split at h
  · cases h
  · cases h
    rfl
  · split at h
    · cases h
      rfl
    · cases h

theorem attempt_waits (h : w.attempt role = (w', false)) :
    Spares role 1 w.observation w'.observation ∧
      ((w'.observation.listener role).phase = .asleep ∨
        (∃ rebuild, (w'.observation.listener role).phase = .searching rebuild) ∧
          role ∈ w'.observation.queue) := by
  have phase : ∀ p, Spares role 0 w.observation (w.observation.setPhase role p) :=
    fun p => .setListener role _ id
  rw [attempt] at h
  split at h
  · cases h
    obtain ⟨others, unseen, turns⟩ := phase .asleep
    refine ⟨⟨others, unseen, Nat.le_succ_of_le turns⟩, .inl ?_⟩
    change ((w.observation.setPhase role .asleep).listener role).phase = _
    rw [Observation.listener_setPhase, if_pos rfl]
  · cases h
  · next rebuild _ =>
    split at h
    · cases h
    · cases h
      refine ⟨(phase _).trans (.enqueue role _), .inr ⟨⟨rebuild, ?_⟩, ?_⟩⟩
      · rw [Observation.listener_enqueue, Observation.listener_setPhase, if_pos rfl]
      · exact Observation.mem_queue_enqueue.mpr (.inr rfl)

theorem attempt_serves (h : w.attempt role = (w', false)) :
    Serves role (7 + if (w.observation.listener role).unseen then 12 else 0) w.observation
      w'.observation := by
  obtain ⟨spares, waits⟩ := attempt_waits h
  have queued : ¬(w'.observation.listener role).Waits → role ∈ w'.observation.queue := by
    intro hn
    rcases waits with asleep | ⟨-, queued⟩
    · exact absurd (.inr asleep) hn
    · exact queued
  have light : weight (w'.observation.listener role) =
      (if (w'.observation.listener role).unseen then 4 else 0) + 2 := by
    rcases waits with asleep | ⟨⟨rebuild, searching⟩, -⟩
    · rw [weight, asleep]
    · rw [weight, searching]
  have served := spares.serves queued
  have turns := served.turns
  have unseen := spares.unseen
  refine ⟨served.scheduled, ?_⟩
  cases hu : (w.observation.listener role).unseen with
  | true =>
    simp only [if_true]
    split at light <;> omega
  | false =>
    have seen : ¬(w'.observation.listener role).unseen = true := fun h => by
      rw [unseen h] at hu
      contradiction
    rw [if_neg seen] at light
    simp only [Bool.false_eq_true, if_false]
    omega

theorem react_cases {done : Bool} (h : w.react role = (w', done)) :
    (∃ c : Coordinator σ, attempt role ⟨c, w.observation⟩ = (w', done)) ∨
      done = true ∧ w'.observation = w.observation := by
  cases role with
  | projects => exact .inl ⟨_, h⟩
  | settings =>
    rw [react, applySettings] at h
    split at h
    · exact .inl ⟨_, h⟩
    · cases h
      exact .inr ⟨rfl, rfl⟩

theorem rest_serves {o : Observation} (seen : (o.listener role).unseen = false) :
    Serves role 0 o (o.setPhase role .idle) := by
  have spares : Spares role 0 o (o.setPhase role .idle) := .setListener role o id
  have idle : (o.setPhase role .idle).listener role = ⟨false, .idle⟩ := by
    rw [Observation.listener_setPhase, if_pos rfl, seen]
  have served := spares.serves fun hn => absurd (.inl (by rw [idle]; exact ⟨rfl, rfl⟩)) hn
  rw [idle] at served
  exact served

theorem look_serves (roster : w.observation.Roster)
    (awake : (w.observation.listener role).phase ≠ .asleep) :
    Serves role (if (w.observation.listener role).unseen then 7 else 0) w.observation
      (w.look role).observation := by
  cases hu : (w.observation.listener role).unseen with
  | false =>
    rw [look, hu]
    exact rest_serves hu
  | true =>
    let o := w.observation.setListener role { w.observation.listener role with unseen := false }
    have taken : Spares role 0 w.observation o := .setListener role _ (by simp)
    have seen : (o.listener role).unseen = false := by rw [Observation.listener_setListener]
    have hr : o.Roster := roster.setListener awake awake
    have hp : (o.listener role).phase ≠ .asleep := by rwa [Observation.listener_setListener]
    rw [look, hu]
    simp only [if_true]
    split
    · next w' h =>
      rcases react_cases h with ⟨c, ha⟩ | ⟨-, same⟩
      · have ho : w'.observation = o.wake := attempt_ended ha
        rw [ho]
        have woken := taken.trans (hr.spares_wake hp)
        exact woken.before (rest_serves (by rw [Observation.unseen_wake, seen])) (by decide)
      · have ho : w'.observation = o := same
        rw [ho]
        exact taken.before (rest_serves seen) (by decide)
    · next w' h =>
      rcases react_cases h with ⟨c, ha⟩ | ⟨done, -⟩
      · have served := attempt_serves ha
        change Serves role (7 + if (o.listener role).unseen then 12 else 0) o _ at served
        rw [seen] at served
        exact taken.before served (by decide)
      · contradiction

theorem turn_serves (role : Role) (roster : w.observation.Roster) :
    Serves role (3 * weight (w.observation.listener role)) w.observation
      (w.turn role).observation := by
  have looked : ∀ w' : Observed σ, w'.observation = w.observation.wake →
      (w.observation.listener role).phase ≠ .asleep →
        Serves role (4 + if (w.observation.listener role).unseen then 7 else 0) w.observation
          (w'.look role).observation := by
    intro w' ho awake
    have awake' : (w'.observation.listener role).phase ≠ .asleep := by
      rw [ho]
      exact roster.awake_wake role
    have served := look_serves (by rw [ho]; exact roster.wake) awake'
    rw [ho, Observation.unseen_wake] at served
    exact (roster.spares_wake awake).before served (Nat.le_refl _)
  rw [turn]
  cases hp : (w.observation.listener role).phase with
  | idle =>
    refine (look_serves roster (by simp [hp])).mono ?_
    rw [weight, hp]
    split <;> decide
  | wanting =>
    have awake : (w.observation.listener role).phase ≠ .asleep := by simp [hp]
    simp only
    split
    · next w' h =>
      refine (looked w' (attempt_ended h) awake).mono ?_
      rw [weight, hp]
      split <;> decide
    · next w' h =>
      refine (attempt_serves h).mono ?_
      rw [weight, hp]
      split <;> decide
  | searching rebuild =>
    refine (looked (w.finish rebuild) rfl (by simp [hp])).mono ?_
    rw [weight, hp]
    change _ ≤ 3 * (_ + 2)
    split <;> decide
  | asleep =>
    have waits : (w.observation.listener role).Waits := .inr hp
    exact ⟨fun hs => hs.scheduled fun hn => absurd waits hn,
      Nat.le_of_eq (Observation.turnsLeft_eq role _)⟩

end Observed

end FormatService
