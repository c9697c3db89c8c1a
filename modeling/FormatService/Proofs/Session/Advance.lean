import FormatService.Session.Steps

/-!
# A listener's single moves

A turn of a listener is a sequence of moves: it takes up what is new in its
channel, contends for the slot, or ends its rebuild. Between two moves anything
else may happen, so what holds under every order of moves holds under the order
in which the turns are taken.
-/

set_option autoImplicit false

namespace FormatService

open Coordinator (Rebuild)

namespace Observation

@[simp] theorem listener_setListener (role : Role) (l : Listener) (o : Observation) :
    (o.setListener role l).listener role = l := by
  cases role <;> rfl

@[simp] theorem setListener_setListener (role : Role) (l k : Listener) (o : Observation) :
    (o.setListener role l).setListener role k = o.setListener role k := by
  cases role <;> rfl

@[simp] theorem setListener_listener (role : Role) (o : Observation) :
    o.setListener role (o.listener role) = o := by
  cases role <;> rfl

@[simp] theorem setPhase_setPhase (role : Role) (p q : Phase) (o : Observation) :
    (o.setPhase role p).setPhase role q = o.setPhase role q := by
  simp [setPhase]

@[simp] theorem sleepers_setPhase (role : Role) (p : Phase) (o : Observation) :
    (o.setPhase role p).sleepers = o.sleepers := by
  cases role <;> rfl

theorem setPhase_eq_self {role : Role} {p : Phase} {o : Observation}
    (h : (o.listener role).phase = p) : o.setPhase role p = o := by
  subst h
  exact setListener_listener role o

theorem enqueue_eq (role : Role) (o : Observation) :
    o.enqueue role =
      { o with queue := if o.queue.contains role then o.queue else o.queue ++ [role] } := by
  rw [enqueue]
  split <;> rfl

/-- What phase a listener has before a sleeper wakes is of no account if it gets
another one afterwards. -/
theorem setPhase_rouse (role r : Role) (p q : Phase) (o : Observation) :
    ((o.setPhase role p).rouse r).setPhase role q = (o.rouse r).setPhase role q := by
  simp only [rouse, enqueue_eq]
  cases role <;> cases r <;> rfl

theorem setPhase_foldl_rouse (role : Role) (q : Phase) (sleepers : List Role) {o o' : Observation}
    (h : o.setPhase role q = o'.setPhase role q) :
    (sleepers.foldl rouse o).setPhase role q = (sleepers.foldl rouse o').setPhase role q := by
  induction sleepers generalizing o o' with
  | nil => exact h
  | cons r sleepers ih =>
    apply ih
    calc (o.rouse r).setPhase role q
        = ((o.setPhase role q).rouse r).setPhase role q := (setPhase_rouse role r q q o).symm
      _ = ((o'.setPhase role q).rouse r).setPhase role q := by rw [h]
      _ = (o'.rouse r).setPhase role q := setPhase_rouse role r q q o'

theorem setPhase_wake (role : Role) (p q : Phase) (o : Observation) :
    (o.setPhase role p).wake.setPhase role q = o.wake.setPhase role q := by
  cases role <;> exact setPhase_foldl_rouse _ q o.sleepers rfl

end Observation

namespace Observed

variable {σ : Type} [Host σ]

def rest (role : Role) (w : Observed σ) : Observed σ :=
  ⟨w.coordinator, w.observation.setPhase role .idle⟩

/-- A listener takes up what is new in its channel, and wants a rebuild if it has to. -/
def takeUp (role : Role) (w : Observed σ) : Observed σ :=
  let c := w.coordinator
  match role with
  | .projects =>
    ⟨c.setRoots w.observation.newest, w.observation.setListener .projects ⟨false, .wanting⟩⟩
  | .settings =>
    let toolChanged := c.settings.tool ≠ c.tool
    let pathsChanged := c.settings.toolPaths ≠ c.appliedPaths
    ⟨if toolChanged then c.setTool c.settings.tool else c,
      w.observation.setListener .settings
        ⟨false, if toolChanged ∨ pathsChanged then .wanting else .idle⟩⟩

def conclude (role : Role) (rebuild : Rebuild) (w : Observed σ) : Observed σ :=
  (w.finish rebuild).rest role

/-- A listener that wants a rebuild falls asleep if another has the slot. -/
def contend (role : Role) (w : Observed σ) : Observed σ :=
  match w.coordinator.beginRebuild with
  | (c, .refused) =>
    let o := w.observation.setPhase role .asleep
    ⟨c, { o with sleepers := o.sleepers ++ [role] }⟩
  | (c, .aborted) => rest role ⟨c, w.observation.wake⟩
  | (c, .searching rebuild) =>
    if rebuild.searches = [] then conclude role rebuild ⟨c, w.observation⟩
    else ⟨c, (w.observation.setPhase role (.searching rebuild)).enqueue role⟩

def advance (role : Role) (w : Observed σ) : Observed σ :=
  match (w.observation.listener role).phase with
  | .idle => if (w.observation.listener role).unseen then w.takeUp role else w
  | .wanting => w.contend role
  | .searching rebuild => w.conclude role rebuild
  | .asleep => w

def advances (role : Role) : Nat → Observed σ → Observed σ
  | 0, w => w
  | n + 1, w => advances role n (w.advance role)

theorem contend_eq_attempt (role : Role) (p : Phase) (c : Coordinator σ) (o : Observation) :
    contend role ⟨c, o.setPhase role p⟩ =
      if (attempt role ⟨c, o⟩).2 then rest role (attempt role ⟨c, o⟩).1
      else (attempt role ⟨c, o⟩).1 := by
  rcases hb : c.beginRebuild with ⟨c', refused | aborted | r⟩
  · simp [contend, attempt, hb]
  · simp [contend, attempt, hb, rest, Observation.setPhase_wake]
  · by_cases h : r.searches = []
    · simp [contend, attempt, hb, h, conclude, rest, finish, Observation.setPhase_wake]
    · simp [contend, attempt, hb, h]

theorem advance_wanting {role : Role} {w : Observed σ}
    (h : (w.observation.listener role).phase = .wanting) : w.advance role = w.contend role := by
  rw [advance, h]

theorem advance_rest {role : Role} {w : Observed σ}
    (h : (w.observation.listener role).unseen = true) :
    (w.rest role).advance role = (w.rest role).takeUp role := by
  simp [advance, rest, Observation.setPhase, h]

theorem look_eq_advances (role : Role) (w : Observed σ) :
    ∃ n, w.look role = advances role n (w.rest role) := by
  obtain ⟨c, o⟩ := w
  by_cases hu : (o.listener role).unseen = true
  · cases role with
    | projects =>
      refine ⟨2, ?_⟩
      have ht : takeUp .projects (rest .projects ⟨c, o⟩) =
          ⟨c.setRoots o.newest,
            (o.setListener .projects { o.listener .projects with unseen := false }).setPhase
              .projects .wanting⟩ := rfl
      rw [advances, advances, advances, advance_rest hu, ht, advance_wanting rfl,
        contend_eq_attempt]
      simp only [look, hu, if_true, react]
      split
      · next w' h =>
        change attempt .projects ⟨c.setRoots o.newest, _⟩ = _ at h
        rw [h]
        rfl
      · next w' h =>
        change attempt .projects ⟨c.setRoots o.newest, _⟩ = _ at h
        rw [h]
        rfl
    | settings =>
      have ht : takeUp .settings (rest .settings ⟨c, o⟩) =
          ⟨if c.settings.tool ≠ c.tool then c.setTool c.settings.tool else c,
            (o.setListener .settings { o.listener .settings with unseen := false }).setPhase
              .settings (if c.settings.tool ≠ c.tool ∨ c.settings.toolPaths ≠ c.appliedPaths
                then .wanting else .idle)⟩ := rfl
      by_cases hc : c.settings.tool ≠ c.tool ∨ c.settings.toolPaths ≠ c.appliedPaths
      · refine ⟨2, ?_⟩
        rw [if_pos hc] at ht
        rw [advances, advances, advances, advance_rest hu, ht, advance_wanting rfl,
          contend_eq_attempt]
        simp only [look, hu, if_true, react, applySettings, if_pos hc]
        split
        · next w' h =>
          rw [h]
          rfl
        · next w' h =>
          rw [h]
          rfl
      · refine ⟨1, ?_⟩
        rw [if_neg hc] at ht
        rw [advances, advances, advance_rest hu, ht]
        simp only [look, hu, if_true, react, applySettings, if_neg hc]
  · refine ⟨0, ?_⟩
    simp [look, hu, advances, rest]

theorem turn_eq_advances (role : Role) (w : Observed σ) : ∃ n, w.turn role = advances role n w := by
  cases hp : (w.observation.listener role).phase with
  | idle =>
    obtain ⟨n, hn⟩ := look_eq_advances role w
    refine ⟨n, ?_⟩
    rw [turn, hp]
    simp only
    rw [hn, rest, Observation.setPhase_eq_self hp]
  | wanting =>
    have hc := contend_eq_attempt role .wanting w.coordinator w.observation
    rw [Observation.setPhase_eq_self hp] at hc
    rw [turn, hp]
    simp only
    split
    · next w' h =>
      obtain ⟨n, hn⟩ := look_eq_advances role w'
      refine ⟨n + 1, ?_⟩
      rw [h, if_pos rfl] at hc
      rw [hn, advances, advance_wanting hp, hc]
    · next w' h =>
      refine ⟨1, ?_⟩
      rw [h] at hc
      rw [advances, advances, advance_wanting hp, hc]
      rfl
  | searching rebuild =>
    obtain ⟨n, hn⟩ := look_eq_advances role (w.finish rebuild)
    refine ⟨n + 1, ?_⟩
    have hm : w.advance role = (w.finish rebuild).rest role := by
      rw [advance, hp]
      rfl
    rw [turn, hp]
    simp only
    rw [hn, advances, hm]
  | asleep =>
    refine ⟨0, ?_⟩
    rw [turn, hp]
    rfl

end Observed

end FormatService
