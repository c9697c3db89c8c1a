import FormatService.Proofs.Session.Turn

/-!
# The listeners come to rest

Callers and listeners take their steps and turns in any order, the listeners first in,
first out, and those that are stopped are reaped sooner or later. Whatever has happened,
the turns that are left are bounded, and after them each listener waits: for a new value,
or for a rebuild that a caller still holds.
-/

set_option autoImplicit false

namespace FormatService

/-- What happens next: a caller's step, the turn of the listener that is first in the queue, or
the end of those that are stopped. -/
inductive Beat (σ : Type)
  | perform (step : Session.Step σ)
  | turn
  | reap

namespace Observed

variable {σ : Type} [Host σ]

theorem runTurns_of_empty {w : Observed σ} (h : w.observation.queue = []) (n : Nat) :
    runTurns n w = w := by
  cases n with
  | zero => rfl
  | succ n => rw [runTurns, h]

theorem runTurns_cons {w : Observed σ} {role : Role} {queue : List Role}
    (h : w.observation.queue = role :: queue) (n : Nat) :
    runTurns (n + 1) w =
      runTurns n (turn role { w with observation := { w.observation with queue := queue } }) := by
  rw [runTurns, h]

end Observed

namespace Session

variable {σ : Type}

def turnsLeft (s : Session σ) : Nat := s.observation.elim 0 Observed.turnsLeft

/-- Each listener waits, and one that is asleep waits for a rebuild that a caller holds. -/
structure Settled (s : Session σ) : Prop where
  reaped : s.aborted = []
  quiet : ∀ o, s.observation = some o → o.queue = []
  waits : ∀ o, s.observation = some o → ∀ role, (o.listener role).Waits
  held : ∀ o, s.observation = some o → ∀ role, (o.listener role).phase = .asleep →
    s.coordinator.rebuilding = true ∧ ∃ id held, s.held = [(id, held)]

def Scheduled (s : Session σ) : Prop := ∀ o, s.observation = some o → o.Scheduled

/-- Nobody misses a turn, and nobody sleeps while the slot is free. -/
structure Wakeful (s : Session σ) : Prop where
  attentive : s.Attentive
  scheduled : s.Scheduled

/-- When no turn is left, who does not sleep waits for a new value, so it is a caller who has the
slot if anyone sleeps. -/
theorem Wakeful.settled {s : Session σ} (h : s.Wakeful) (reaped : s.aborted = [])
    (quiet : ∀ o, s.observation = some o → o.queue = []) : s.Settled := by
  have waits : ∀ o, s.observation = some o → ∀ role, (o.listener role).Waits := by
    intro o ho role
    by_contra hn
    have hm := h.scheduled o ho role hn
    rw [quiet o ho] at hm
    exact List.not_mem_nil hm
  refine ⟨reaped, quiet, waits, ?_⟩
  intro o ho role asleep
  have busy : s.coordinator.rebuilding = true := by
    by_contra free
    exact h.attentive.awake (by simpa using free) o ho role asleep
  have searching : o.searching = [] := by
    rw [List.eq_nil_iff_forall_not_mem]
    intro rebuild hm
    obtain ⟨r, hr⟩ := Observation.mem_searching.mp hm
    rcases waits o ho r with ⟨idle, -⟩ | asleep
    · rw [idle] at hr
      contradiction
    · rw [asleep] at hr
      contradiction
  have slot := h.attentive.sound.slot
  rw [suspended, ho, Option.elim_some, searching, reaped, List.append_nil, List.append_nil,
    List.length_map, busy] at slot
  obtain ⟨⟨id, held⟩, he⟩ := List.length_eq_one_iff.mp slot
  exact ⟨busy, id, held, he⟩

theorem reap_aborted (s : Session σ) : s.reap.aborted = [] := by
  rcases s.reap_cases with ⟨none, same⟩ | ⟨-, reaped⟩
  · rw [same, none]
  · rw [reaped]

variable [Host σ]

def turns (n : Nat) (s : Session σ) : Session σ := s.listen (Observed.runTurns n)

def beat (s : Session σ) : Beat σ → Session σ
  | .perform step => (s.perform step).1
  | .turn => s.turns 1
  | .reap => s.reap

def beats (s : Session σ) : List (Beat σ) → Session σ
  | [] => s
  | b :: bs => (s.beat b).beats bs

theorem turns_succ (n : Nat) (s : Session σ) : s.turns (n + 1) = (s.turns 1).turns n := by
  rw [turns, turns, turns, listen_listen]
  congr 1
  funext w
  cases hq : w.observation.queue with
  | nil => rw [Observed.runTurns_of_empty hq, Observed.runTurns_of_empty hq,
      Observed.runTurns_of_empty hq]
  | cons role queue => rw [Observed.runTurns_cons hq, Observed.runTurns_cons hq]; rfl

theorem turns_add (m n : Nat) (s : Session σ) : s.turns (m + n) = (s.turns m).turns n := by
  induction m generalizing s with
  | zero =>
    rw [Nat.zero_add, turns, turns, turns, listen_listen]
    rfl
  | succ m ih => rw [Nat.add_right_comm, turns_succ, ih, ← turns_succ]

theorem turns_of_quiet {s : Session σ} (quiet : ∀ o, s.observation = some o → o.queue = [])
    (n : Nat) : s.turns n = s := by
  cases ho : s.observation with
  | none => rw [turns, listen_none ho]
  | some o => rw [turns, listen_some ho, Observed.runTurns_of_empty (quiet o ho), ← ho]

theorem turns_aborted (n : Nat) (s : Session σ) : (s.turns n).aborted = s.aborted := by
  cases ho : s.observation with
  | none => rw [turns, listen_none ho]
  | some o => rw [turns, listen_some ho]

theorem settle_eq (s : Session σ) : s.settle = s.reap.turns s.reap.turnsLeft := by
  rw [settle]
  generalize s.reap = r
  cases ho : r.observation with
  | none => simp only [turns, listen_none ho]
  | some o => simp only [turns, ho, listen_some ho, turnsLeft, Option.elim_some, Observed.settle]

theorem Attentive.turns {s : Session σ} (h : s.Attentive) (n : Nat) : (s.turns n).Attentive := by
  obtain ⟨actions, -, ha⟩ := Chronicled.run_turns ⟨s, []⟩ n
  have hr := Chronicled.run_attentive (x := ⟨s, []⟩) h actions
  rwa [ha] at hr

theorem Attentive.act {s : Session σ} (h : s.Attentive) (action : Action σ) :
    (s.act action).Attentive :=
  Chronicled.run_attentive (x := ⟨s, []⟩) h [action]

end Session

namespace Observation

variable {o : Observation}

theorem mem_queue_announce {role r : Role} : r ∈ (o.announce role).queue ↔
    r ∈ o.queue ∨ r = role ∧ (o.listener role).phase = .idle := by
  rw [announce]
  split
  · next idle => rw [mem_queue_enqueue, queue_setListener, and_iff_left idle]
  · next busy => rw [queue_setListener, or_iff_left fun h => busy h.2]

theorem mem_queue_rouse {role r : Role} :
    r ∈ (o.rouse role).queue ↔ r ∈ o.queue ∨ r = role := by
  rw [rouse, mem_queue_enqueue, setPhase, queue_setListener]

theorem mem_queue_foldl_rouse {r : Role} (sleepers : List Role) :
    r ∈ (sleepers.foldl rouse o).queue ↔ r ∈ o.queue ∨ r ∈ sleepers := by
  induction sleepers generalizing o with
  | nil => simp
  | cons role sleepers ih => rw [List.foldl_cons, ih, mem_queue_rouse, List.mem_cons, or_assoc]

theorem Scheduled.announce (h : o.Scheduled) (role : Role) : (o.announce role).Scheduled := by
  intro r hw
  rw [mem_queue_announce]
  rw [listener_announce] at hw
  split at hw
  · next hr =>
    by_cases idle : (o.listener role).phase = .idle
    · exact .inr ⟨hr, idle⟩
    · refine .inl (h r fun waits => hw (.inr ?_))
      rcases waits with ⟨hi, -⟩ | asleep
      · exact absurd (hr ▸ hi) idle
      · exact asleep
  · exact .inl (h r hw)

theorem Scheduled.wake (h : o.Scheduled) : o.wake.Scheduled := by
  intro r hw
  rw [Observation.wake, mem_queue_foldl_rouse]
  rw [listener_wake] at hw
  split at hw
  · next hm => exact .inr hm
  · exact .inl (h r hw)

theorem scheduled_begin (channel : String) (roots : List ProjectRoot) (changed : Bool) :
    (begin channel roots changed).Scheduled := by
  intro role _
  cases role <;> simp [begin]

end Observation

namespace Session

variable {σ : Type} {s : Session σ}

theorem Scheduled.map (h : s.Scheduled) {f : Observation → Observation}
    (hf : ∀ o : Observation, o.Scheduled → (f o).Scheduled) (c : Coordinator σ) :
    Scheduled { s with coordinator := c, observation := s.observation.map f } := by
  intro o' ho'
  obtain ⟨o, ho, rfl⟩ := Option.map_eq_some_iff.mp ho'
  exact hf o (h o ho)

theorem Scheduled.wake (h : s.Scheduled) : s.wake.Scheduled := by
  by_cases busy : s.coordinator.rebuilding = true
  · rwa [wake_of_busy busy]
  · rw [wake_of_free (by simpa using busy)]
    exact h.map (fun _ ho => ho.wake) s.coordinator

theorem Scheduled.reap (h : s.Scheduled) : s.reap.Scheduled := by
  rcases s.reap_cases with ⟨-, same⟩ | ⟨-, reaped⟩
  · rwa [same]
  · rw [reaped]
    exact h.map (fun _ ho => ho.wake) s.coordinator.release

variable [Host σ]

theorem Scheduled.start (h : s.Scheduled) (id : String) (call : Call) :
    (s.start id call).1.Scheduled := by
  rw [Session.start]
  split
  · split
    · exact Scheduled.wake (s := s.withCoordinator _) h
    · exact h
  · exact h

theorem Scheduled.requested (h : s.Scheduled) {step : Step σ} {name : String}
    (requested : s.Requested step name) : (s.perform step).1.Scheduled := by
  have delivered : ∀ r, (s.deliver name r).1.Scheduled := fun r =>
    Scheduled.wake (s := (s.withCoordinator r.1).setBuffer name r.2.1) h
  cases requested with
  | missing missing does told => rwa [does]
  | skipped b there does told =>
    rw [does]
    exact delivered _
  | formatted b tool file there does told =>
    rw [does]
    exact delivered _
  | held id formatting free live does told =>
    rw [does]
    exact h

theorem Scheduled.perform (h : s.Scheduled) (step : Step σ) : (s.perform step).1.Scheduled := by
  cases step with
  | call call => exact Scheduled.wake (s := s.withCoordinator _) h
  | start id call => exact h.start id call
  | finish id =>
    rw [Session.perform]
    split
    · next held there =>
      obtain ⟨host, buffers, hf, -⟩ := s.finish_eq id held
      rw [hf]
      exact h.map (fun _ ho => ho.wake) s.coordinator
    · exact h
  | drop id =>
    rw [Session.perform]
    split
    · exact Scheduled.wake (s := (s.forget id).withCoordinator _) h
    · exact h
  | settings settings => exact h.map (fun _ ho => ho.announce .settings) _
  | observe channel roots =>
    cases live : s.coordinator.disposed with
    | true => rwa [Session.perform, observe, if_pos live]
    | false =>
      obtain ⟨host, ho⟩ := s.observe_eq channel roots live
      rw [Session.perform, ho]
      rintro _ ⟨⟩
      exact Observation.scheduled_begin _ _ _
  | send channel roots =>
    refine h.map (fun o ho => ?_) s.coordinator
    split
    · have renewed : ({ o with newest := roots } : Observation).Scheduled := ho
      exact renewed.announce .projects
    · exact ho
  | resolve tool project => exact h
  | dispose => exact fun _ ho => absurd ho (Option.some_ne_none _).symm
  | host change => exact h
  | openBuffer name buffer => exact h
  | edit name step =>
    rw [Session.perform]
    split
    · exact h
    · split <;> exact h
  | format name tool file => exact h.requested (s.requested rfl)
  | willSave name => exact h.requested (s.requested rfl)
  | startFormat id name tool file => exact h.requested (s.requested rfl)
  | startWillSave id name => exact h.requested (s.requested rfl)

/-- After the turn of a listener everyone who does not wait has a turn coming again, and there
are fewer turns left. -/
theorem Scheduled.turn (h : s.Scheduled) (attentive : s.Attentive) :
    (s.turns 1).Scheduled ∧ ∀ o, s.observation = some o → o.queue ≠ [] →
      (s.turns 1).turnsLeft < s.turnsLeft := by
  cases ho : s.observation with
  | none =>
    rw [turns, listen_none ho]
    exact ⟨h, fun _ he => nomatch he⟩
  | some o =>
    cases hq : o.queue with
    | nil =>
      rw [turns, listen_some ho, Observed.runTurns_of_empty hq]
      refine ⟨?_, ?_⟩
      · rintro _ ⟨⟩
        exact h o ho
      · rintro _ ⟨⟩ hne
        exact absurd hq hne
    | cons role queue =>
      let popped : Observation := { o with queue := queue }
      have roster : popped.Roster :=
        ⟨(attentive.roster o ho).nodup, (attentive.roster o ho).mem_iff⟩
      have others : popped.ScheduledBut role := by
        intro r hr hw
        have hm : r ∈ o.queue := h o ho r hw
        rw [hq] at hm
        exact (List.mem_cons.mp hm).resolve_left hr
      have served := Observed.turn_serves (w := ⟨s.coordinator, popped⟩) role roster
      rw [turns, listen_some ho, Observed.runTurns_cons hq]
      refine ⟨?_, ?_⟩
      · rintro _ ⟨⟩
        exact served.scheduled others
      · rintro _ ⟨⟩ -
        have less : popped.besides role + 1 = o.besides role := by
          cases role <;> simp only [Observation.besides, popped, hq, List.length_cons] <;> omega
        have before := Observation.turnsLeft_eq role o
        have after : _ ≤ popped.besides role + _ := served.turns
        have same : popped.listener role = o.listener role := by cases role <;> rfl
        rw [same] at after
        rw [turnsLeft, turnsLeft, ho, Option.elim_some, Option.elim_some]
        change Observed.turnsLeft (Observed.turn role ⟨s.coordinator, popped⟩).observation < _
        omega

namespace Wakeful

theorem perform (h : s.Wakeful) (step : Step σ) : (s.perform step).1.Wakeful :=
  ⟨h.attentive.act (.perform step), h.scheduled.perform step⟩

theorem turn (h : s.Wakeful) : (s.turns 1).Wakeful :=
  ⟨h.attentive.turns 1, (h.scheduled.turn h.attentive).1⟩

theorem reap (h : s.Wakeful) : s.reap.Wakeful := ⟨h.attentive.act .reap, h.scheduled.reap⟩

theorem beats (h : s.Wakeful) (bs : List (Beat σ)) : (s.beats bs).Wakeful := by
  induction bs generalizing s with
  | nil => exact h
  | cons b bs ih =>
    cases b with
    | perform step => exact ih (h.perform step)
    | turn => exact ih h.turn
    | reap => exact ih h.reap

/-- When all turns that are left are taken, everyone waits. The induction is on a bound for them. -/
theorem turns_settled (h : s.Wakeful) (reaped : s.aborted = []) {n : Nat} (hn : s.turnsLeft ≤ n) :
    (s.turns n).Settled := by
  induction n generalizing s with
  | zero =>
    have quiet : ∀ o, s.observation = some o → o.queue = [] := by
      intro o ho
      rw [turnsLeft, ho, Option.elim_some, Observed.turnsLeft] at hn
      exact List.length_eq_zero_iff.mp (by omega)
    rw [turns_of_quiet quiet]
    exact h.settled reaped quiet
  | succ n ih =>
    by_cases quiet : ∀ o, s.observation = some o → o.queue = []
    · rw [turns_of_quiet quiet]
      exact h.settled reaped quiet
    · simp only [not_forall] at quiet
      obtain ⟨o, ho, hne⟩ := quiet
      have fewer := (h.scheduled.turn h.attentive).2 o ho hne
      rw [turns_succ]
      exact ih h.turn ((turns_aborted 1 s).trans reaped) (by omega)

theorem settle (h : s.Wakeful) : s.settle.Settled := by
  rw [settle_eq]
  exact h.reap.turns_settled s.reap_aborted (Nat.le_refl _)

theorem turns_eq_settle (h : s.Wakeful) {n : Nat} (hn : s.reap.turnsLeft ≤ n) :
    s.reap.turns n = s.settle := by
  obtain ⟨more, rfl⟩ := Nat.exists_eq_add_of_le hn
  have settled := h.settle
  rw [settle_eq] at settled
  rw [turns_add, turns_of_quiet settled.quiet, settle_eq]

end Wakeful

/-- However callers and listeners have taken their steps and turns: nobody is asleep while the slot
is free. When those that are stopped are reaped, the listeners come to rest within a bounded
number of turns, and so they do after any further step: each waits for a new value, or asleep
for a rebuild that a caller holds. -/
theorem listeners_settle (host : σ) (settings : Settings) (roots : List ProjectRoot)
    (bs : List (Beat σ)) :
    let s := (new (.new host settings roots)).beats bs
    (s.coordinator.rebuilding = false → ∀ o, s.observation = some o → o.Awake) ∧
      (s.settle.Settled ∧ ∀ n, s.reap.turnsLeft ≤ n → s.reap.turns n = s.settle) ∧
        ∀ step : Step σ, (s.step step).1.Settled ∧
          ∀ n, (s.perform step).1.reap.turnsLeft ≤ n →
            (s.perform step).1.reap.turns n = (s.step step).1 := by
  intro s
  have start : (new (.new host settings roots) : Session σ).Wakeful :=
    ⟨new_attentive rfl, fun _ ho => nomatch ho⟩
  have h : s.Wakeful := start.beats bs
  refine ⟨h.attentive.awake, ⟨h.settle, fun n hn => h.turns_eq_settle hn⟩, fun step => ?_⟩
  have after := h.perform step
  exact ⟨after.settle, fun n hn => after.turns_eq_settle hn⟩

end Session

end FormatService
