import FormatService.MemoryHost
import FormatService.Proofs.ToolCache
import FormatService.Proofs.Session.Provenance
import FormatService.Proofs.Session.Shift

/-!
# Whether the cache is that of the newest roots

Roots that come through a channel are adopted before they are rebuilt for, so the
project listener owes a rebuild in between. It always pays, unless it is replaced
before it has: then the new listener sees no change and the debt is forfeited.
-/

set_option autoImplicit false

namespace FormatService

open Coordinator (Rebuild)

namespace Entry

def forfeited? : Entry → Option (List ProjectRoot)
  | .forfeited roots => some roots
  | _ => none

/-- The roots forfeited last, if that was after the rebuild that ended last had begun. -/
def forfeitedSince : List Entry → Option (List ProjectRoot)
  | [] => none
  | .forfeited roots :: _ => some roots
  | .ended _ _ :: log => sinceBegan forfeited? log
  | _ :: log => forfeitedSince log

theorem mem_of_sinceBegan {log : List Entry} {roots : List ProjectRoot}
    (h : sinceBegan forfeited? log = some roots) : .forfeited roots ∈ log := by
  induction log with
  | nil => contradiction
  | cons e log ih =>
    cases e with
    | began r => contradiction
    | forfeited roots' =>
      obtain rfl := Option.some.inj h
      exact List.mem_cons_self
    | ended r found => exact List.mem_cons_of_mem _ (ih h)
    | looked paths => exact List.mem_cons_of_mem _ (ih h)

theorem mem_of_forfeitedSince {log : List Entry} {roots : List ProjectRoot}
    (h : forfeitedSince log = some roots) : .forfeited roots ∈ log := by
  induction log with
  | nil => contradiction
  | cons e log ih =>
    cases e with
    | forfeited roots' =>
      obtain rfl := Option.some.inj h
      exact List.mem_cons_self
    | ended r found => exact List.mem_cons_of_mem _ (mem_of_sinceBegan h)
    | began r => exact List.mem_cons_of_mem _ (ih h)
    | looked paths => exact List.mem_cons_of_mem _ (ih h)

end Entry

open Entry

namespace Session

variable {σ : Type} {allowed : Call → Prop} {s s' : Session σ} {es : List Entry}

def Resting (s : Session σ) : Prop := ∀ o, s.observation = some o → o.projects.phase = .idle

theorem forfeits_iff {roots : List ProjectRoot} (live : s.coordinator.disposed = false) :
    s.forfeits roots = true ↔ roots = s.coordinator.roots ∧ ¬s.Resting := by
  rw [forfeits, live, Resting]
  cases ho : s.observation with
  | none => simp
  | some o => simp

variable [Host σ] (ha : ∀ call, allowed call → call.keepsRoots)
include ha

/-- The project listener rests after a move if it did before, or if it has just ended its
rebuild or forfeited it. -/
theorem Shift.resting (m : Shift allowed s es s') (h : s.Sound)
    (live : s'.coordinator.disposed = false) (rest : s'.Resting) :
    s.coordinator.disposed = false ∧
      ((∃ roots, es = [.forfeited roots] ∧ s'.coordinator.roots = roots) ∨
        s'.coordinator.roots = s.coordinator.roots ∧ (∀ roots, .forfeited roots ∉ es) ∧
          (s.Resting ∨ ∃ rebuild found o, es = [.ended rebuild found] ∧
            s.observation = some o ∧ o.projects.phase = .searching rebuild)) := by
  cases m with
  | goes goes told live' roots tool quiet =>
    refine ⟨live'.symm.trans live, .inr ⟨roots ha, quiet.2, .inl ?_⟩⟩
    intro o ho
    rw [ho] at goes
    cases ho' : s'.observation with
    | none =>
      rw [ho'] at goes
      contradiction
    | some o' =>
      rw [ho'] at goes
      cases goes with
      | some g => exact g.idle .projects (rest o' ho')
  | observed channel roots live' =>
    obtain ⟨host, ho⟩ := s.observe_eq channel roots live'
    rw [ho] at rest ⊢
    refine ⟨live', ?_⟩
    by_cases hf : s.forfeits roots = true
    · rw [if_pos hf]
      exact .inl ⟨roots, rfl, rfl⟩
    · have hr : roots = s.coordinator.roots := by
        have hi : (if decide (roots ≠ s.coordinator.roots) = true then Phase.wanting
          else Phase.idle) = .idle := rest _ rfl
        split at hi
        · contradiction
        · next hn => simpa using hn
      rw [forfeits_iff live'] at hf
      rw [if_neg (by rwa [forfeits_iff live'])]
      exact .inr ⟨hr, by simp, .inl (Classical.byContradiction fun hn => hf ⟨hr, hn⟩)⟩
  | disposed late none => exact absurd (late.symm.trans live) (by decide)
  | adopted o observed idle unseen => exact absurd (rest _ rfl) (by nofun)
  | looked o observed idle unseen phase heed =>
    refine ⟨live, .inr ⟨rfl, by simp, .inl ?_⟩⟩
    intro p hp
    obtain rfl := Option.some.inj (observed.symm.trans hp)
    exact rest (o.setListener .settings ⟨false, phase⟩) rfl
  | searches role o observed wanting =>
    refine ⟨live, .inr ⟨rfl, by simp, .inl ?_⟩⟩
    intro p hp
    obtain rfl := Option.some.inj (observed.symm.trans hp)
    exact Observation.idle_of_setPhase .projects role (by nofun) (rest _ rfl)
  | concluded role rebuild o found observed searching =>
    obtain ⟨cache, paths, hc⟩ := Coordinator.concluded_eq rebuild found s.coordinator
    simp only [hc] at live ⊢
    refine ⟨live, .inr ⟨trivial, by simp, ?_⟩⟩
    cases role with
    | projects => exact .inr ⟨rebuild, found, o, rfl, observed, searching⟩
    | settings =>
      refine .inl ?_
      intro p hp
      obtain rfl := Option.some.inj (observed.symm.trans hp)
      have hi : (o.wake.listener .projects).phase = .idle :=
        rest (o.wake.setPhase .settings .idle) rfl
      exact ((h.dozing o observed).idle_wake .projects).mp hi

theorem Shift.searching (m : Shift allowed s es s') (h : s.Sound) {o' : Observation}
    (observed' : s'.observation = some o') {rebuild : Rebuild}
    (searching : o'.projects.phase = .searching rebuild) :
    s'.coordinator.roots = s.coordinator.roots ∧
      ((es = [.began rebuild] ∧ rebuild = s.coordinator.plan) ∨
        (∀ roots, .forfeited roots ∉ es) ∧
          ∃ o, s.observation = some o ∧ o.projects.phase = .searching rebuild) := by
  cases m with
  | goes goes told live roots tool quiet =>
    rw [observed'] at goes
    obtain ⟨o, ho, g⟩ := goes_some goes
    exact ⟨roots ha, .inr ⟨quiet.2, o, ho, g.searching .projects rebuild searching⟩⟩
  | observed channel roots live =>
    obtain ⟨host, ho⟩ := s.observe_eq channel roots live
    rw [ho] at observed'
    obtain rfl := Option.some.inj observed'
    have hs : (if decide (roots ≠ s.coordinator.roots) = true then Phase.wanting
      else Phase.idle) = .searching rebuild := searching
    split at hs <;> contradiction
  | disposed late none =>
    rw [none] at observed'
    contradiction
  | adopted o observed idle unseen =>
    obtain rfl := Option.some.inj observed'
    contradiction
  | looked o observed idle unseen phase heed =>
    obtain rfl := Option.some.inj observed'
    exact ⟨rfl, .inr ⟨by simp, o, observed, searching⟩⟩
  | searches role o observed wanting =>
    obtain rfl := Option.some.inj observed'
    cases role with
    | projects =>
      have he : Phase.searching s.coordinator.plan = .searching rebuild := searching
      rw [Phase.searching.injEq] at he
      exact ⟨rfl, .inl ⟨by rw [he], he.symm⟩⟩
    | settings => exact ⟨rfl, .inr ⟨by simp, o, observed, searching⟩⟩
  | concluded role r o found observed searching' =>
    obtain ⟨cache, paths, hc⟩ := Coordinator.concluded_eq r found s.coordinator
    obtain rfl := Option.some.inj observed'
    refine ⟨by rw [hc], .inr ⟨by simp, o, observed, ?_⟩⟩
    cases role with
    | projects => contradiction
    | settings =>
      exact (h.dozing o observed).goes_wake.searching .projects rebuild searching

theorem Shift.adopts (m : Shift allowed s es s')
    (before : ∀ o, s.observation = some o → o.projects.unseen = false →
      s.coordinator.roots = o.newest)
    {o' : Observation} (observed' : s'.observation = some o')
    (seen : o'.projects.unseen = false) : s'.coordinator.roots = o'.newest := by
  cases m with
  | goes goes told live roots tool quiet =>
    rw [observed'] at goes
    obtain ⟨o, ho, g⟩ := goes_some goes
    rw [roots ha, g.newest seen]
    exact before o ho (g.unseen .projects seen)
  | observed channel roots live =>
    obtain ⟨host, ho⟩ := s.observe_eq channel roots live
    rw [ho] at observed' ⊢
    obtain rfl := Option.some.inj observed'
    rfl
  | disposed late none =>
    rw [none] at observed'
    contradiction
  | adopted o observed idle unseen =>
    obtain rfl := Option.some.inj observed'
    rfl
  | looked o observed idle unseen phase heed =>
    obtain rfl := Option.some.inj observed'
    exact before o observed seen
  | searches role o observed wanting =>
    obtain rfl := Option.some.inj observed'
    have hn : (o.setPhase role (.searching s.coordinator.plan)).newest = o.newest := by
      cases role <;> rfl
    have hu := (o.unseen_setPhase .projects role (.searching s.coordinator.plan)).symm.trans seen
    rw [hn]
    exact before o observed hu
  | concluded role r o found observed searching =>
    obtain ⟨cache, paths, hc⟩ := Coordinator.concluded_eq r found s.coordinator
    obtain rfl := Option.some.inj observed'
    have hn : (o.wake.setPhase role .idle).newest = o.newest := by
      rw [← o.newest_wake]
      cases role <;> rfl
    have hu := (o.wake.unseen_setPhase .projects role .idle).symm.trans seen
    rw [hn, hc]
    exact before o observed ((o.unseen_wake .projects).symm.trans hu)

end Session

namespace Chronicled

variable {σ : Type}

/-- No rebuild is owed: those in progress and the last one that has ended are for the
roots of the coordinator, unless a rebuild for these has been forfeited. -/
structure Rested (x : Chronicled σ) : Prop where
  running : ∀ rebuild ∈ x.session.suspended,
    rebuild.keys = CacheKey.forRoots x.session.coordinator.roots ∨
      (sinceBegan forfeited? x.log).isSome
  settled : ∀ rebuild found, lastEnded x.log = some (rebuild, some found) →
    rebuild.keys = CacheKey.forRoots x.session.coordinator.roots ∨ (forfeitedSince x.log).isSome
  during : ∀ roots, sinceBegan forfeited? x.log = some roots → roots = x.session.coordinator.roots
  since : ∀ roots, forfeitedSince x.log = some roots → roots = x.session.coordinator.roots

structure Adopted (x : Chronicled σ) : Prop where
  kept : x.Kept
  roots : ∀ o, x.session.observation = some o → o.projects.unseen = false →
    x.session.coordinator.roots = o.newest
  /-- The rebuild of the project listener is for the roots it has adopted. -/
  paying : ∀ o rebuild, x.session.observation = some o → o.projects.phase = .searching rebuild →
    rebuild.keys = CacheKey.forRoots x.session.coordinator.roots ∧
      sinceBegan forfeited? x.log = none
  rested : x.session.coordinator.disposed = false → x.session.Resting → x.Rested

theorem Rested.turnover {x : Chronicled σ} (h : x.Rested) {s : Session σ} {es : List Entry}
    {plan : Rebuild} (hp : plan.keys = CacheKey.forRoots s.coordinator.roots)
    (same : s.coordinator.roots = x.session.coordinator.roots)
    (turn : Session.Turnover plan x.session.suspended es s.suspended)
    (quiet : ∀ roots, .forfeited roots ∉ es) : Rested ⟨s, es ++ x.log⟩ := by
  obtain ⟨running, settled, during, since⟩ := h
  rw [← same] at running settled during since
  generalize x.session.suspended = before at turn running
  generalize hs : s.suspended = after at turn
  cases turn with
  | kept sub => exact ⟨hs ▸ fun r hm => running r (sub hm), settled, during, since⟩
  | looked paths => exact ⟨hs ▸ running, settled, during, since⟩
  | forfeited roots => exact absurd List.mem_cons_self (quiet roots)
  | begun =>
    refine ⟨hs ▸ fun r hm => .inl ?_, settled, (fun _ h => nomatch h), since⟩
    rw [List.mem_singleton.mp hm, hp]
  | whole found =>
    refine ⟨hs ▸ (fun r hm => absurd hm List.not_mem_nil), ?_, (fun _ h => nomatch h),
      fun _ h => nomatch h⟩
    rintro _ _ ⟨⟩
    exact .inl hp
  | ended r found =>
    refine ⟨hs ▸ (fun r hm => absurd hm List.not_mem_nil), ?_, during, during⟩
    rintro _ _ ⟨⟩
    exact running r List.mem_cons_self

theorem rested_of_paid {x : Chronicled σ} {s : Session σ} {rebuild : Rebuild}
    {found : Option (List (CacheKey × Option String))}
    (paid : rebuild.keys = CacheKey.forRoots s.coordinator.roots)
    (clear : sinceBegan forfeited? x.log = none) (free : s.suspended = []) :
    Rested ⟨s, .ended rebuild found :: x.log⟩ := by
  have hn : sinceBegan forfeited? (.ended rebuild found :: x.log) = none := clear
  have hs : forfeitedSince (.ended rebuild found :: x.log) = none := clear
  refine ⟨?_, ?_, ?_, ?_⟩
  · intro r hm
    rw [free] at hm
    exact absurd hm List.not_mem_nil
  · rintro _ _ ⟨⟩
    exact .inl paid
  · simp [hn]
  · simp [hs]

theorem rested_of_forfeited {x : Chronicled σ} {s : Session σ} {roots : List ProjectRoot}
    (same : s.coordinator.roots = roots) : Rested ⟨s, .forfeited roots :: x.log⟩ := by
  refine ⟨fun _ _ => .inr rfl, fun _ _ _ => .inr rfl, ?_, ?_⟩
  · rintro _ ⟨⟩
    exact same.symm
  · rintro _ ⟨⟩
    exact same.symm

theorem Kept.cache_eq {x : Chronicled σ} (h : x.Kept) {o : Observation} {rebuild : Rebuild}
    {found : List (CacheKey × Option String)} (observed : x.session.observation = some o)
    (last : lastEnded x.log = some (rebuild, some found)) :
    x.session.coordinator.disposed = false ∧
      x.session.coordinator.cache = some (ToolCache.ofResolutions found) ∧
        ∀ e ∈ (ToolCache.ofResolutions found).entries, e.1 ∈ rebuild.keys := by
  have live := h.sound.live_of_observed observed
  have hf := lastFound_of_lastEnded last
  refine ⟨live, ?_, fun e he => ?_⟩
  · rw [h.cache live, hf]
    rfl
  · rw [← h.keys rebuild found hf]
    exact ToolCache.key_of_mem_ofResolutions he

theorem new_adopted (host : σ) (settings : Settings) (roots : List ProjectRoot) :
    (new host settings roots).Adopted := by
  refine ⟨new_kept host settings roots, (fun _ h => nomatch h), (fun _ _ h => nomatch h),
    fun _ _ => ⟨?_, ?_, ?_, ?_⟩⟩
  · exact fun _ hm => absurd hm List.not_mem_nil
  · exact fun _ _ h => nomatch h
  · exact fun _ h => nomatch h
  · exact fun _ h => nomatch h

variable [Host σ] {allowed : Call → Prop}

theorem Adopted.move (ha : ∀ call, allowed call → call.keepsRoots) {x : Chronicled σ}
    {es : List Entry} {s : Session σ} (h : x.Adopted)
    (m : Session.Move allowed x.session es s) : Adopted ⟨s, es ++ x.log⟩ := by
  have hk := h.kept.move m
  obtain ⟨-, turn⟩ := m.sound h.kept.sound
  have shift := m.shift h.kept.sound
  have hp : x.session.coordinator.plan.keys = CacheKey.forRoots x.session.coordinator.roots :=
    x.session.coordinator.plan_keys
  refine ⟨hk, fun o => shift.adopts ha h.roots, ?_, ?_⟩
  · intro o r observed searching
    obtain ⟨same, ⟨rfl, rfl⟩ | ⟨quiet, o', observed', searching'⟩⟩ :=
      shift.searching ha h.kept.sound observed searching
    · exact ⟨by rw [same]; exact hp, rfl⟩
    · obtain ⟨hr, hn⟩ := h.paying o' r observed' searching'
      refine ⟨by rw [same]; exact hr, ?_⟩
      -- While the listener has the slot, no other rebuild can clear the record or add to it.
      have hb := List.ne_nil_of_mem (Session.mem_suspended observed' .projects searching')
      have hs := List.ne_nil_of_mem (Session.mem_suspended observed .projects searching)
      rcases turn.of_ne_nil hb hs with rfl | ⟨paths, rfl⟩ | ⟨roots, rfl⟩
      · exact hn
      · exact hn
      · exact absurd List.mem_cons_self (quiet roots)
  · intro live rest
    obtain ⟨live', ⟨roots, rfl, same⟩ |
        ⟨same, quiet, rest' | ⟨r, found, o, rfl, observed, searching⟩⟩⟩ :=
      shift.resting ha h.kept.sound live rest
    · exact rested_of_forfeited same
    · exact (h.rested live' rest').turnover (by rw [same]; exact hp) same turn quiet
    -- The listener did not rest, but it has just ended the rebuild that it owed.
    · obtain ⟨hr, hn⟩ := h.paying o r observed searching
      exact rested_of_paid (by rw [same]; exact hr) hn turn.of_ended

theorem run_adopted (ha : ∀ call, allowed call → call.keepsRoots) (host : σ) (settings : Settings)
    (roots : List ProjectRoot) (actions : List (Action σ))
    (ok : ∀ step ∈ Action.steps actions, step.Calls allowed) :
    ((new host settings roots).run actions).Adopted :=
  run_keeps _ (Adopted.move ha) (new_adopted host settings roots) actions ok

/-- Once the project listener has seen the newest roots and waits, and the rebuild that ended
last has succeeded, all keys of the cache are keys of the adopted roots just if no rebuild
for these has been forfeited since that rebuild began, or what it found is for them too. -/
theorem keys_current_iff (host : σ) (settings : Settings) (roots : List ProjectRoot)
    (actions : List (Action σ)) (ok : ∀ step ∈ Action.steps actions, step.Calls (·.keepsRoots))
    {o : Observation} {rebuild : Rebuild} {found : List (CacheKey × Option String)}
    (observed : ((new host settings roots).run actions).session.observation = some o)
    (waiting : o.projects = ⟨false, .idle⟩)
    (last : lastEnded ((new host settings roots).run actions).log = some (rebuild, some found)) :
    let x := (new host settings roots).run actions
    x.session.coordinator.roots = o.newest ∧
      ∃ cache, x.session.coordinator.cache = some cache ∧
        ((∀ e ∈ cache.entries, e.1 ∈ CacheKey.forRoots x.session.coordinator.roots) ↔
          ∀ forfeited, forfeitedSince x.log = some forfeited →
            ∀ e ∈ (ToolCache.ofResolutions found).entries, e.1 ∈ CacheKey.forRoots forfeited) := by
  have h := run_adopted (fun _ keeps => keeps) host settings roots actions ok
  intro x
  change x.session.observation = some o at observed
  change lastEnded x.log = some (rebuild, some found) at last
  change x.Adopted at h
  obtain ⟨live, cache, keys⟩ := h.kept.cache_eq observed last
  have rest : x.session.Resting := by
    intro p hp
    obtain rfl := Option.some.inj (observed.symm.trans hp)
    rw [waiting]
  have rested := h.rested live rest
  refine ⟨h.roots o observed (by rw [waiting]), _, cache, ?_, ?_⟩
  · intro current forfeited hf
    rwa [rested.since forfeited hf]
  · intro fit e he
    rcases rested.settled rebuild found last with paid | hf
    · rw [← paid]
      exact keys e he
    · obtain ⟨forfeited, hf⟩ := Option.isSome_iff_exists.mp hf
      rw [← rested.since forfeited hf]
      exact fit forfeited hf e he

/-- While a caller's rebuild is held, the roots change, and then the coordinator is observed
again with the roots it has just adopted. -/
def observedAgain : List (Action MemoryHost) :=
  [.perform (.observe "first" [⟨"/a"⟩]), .advance .settings,
   .perform (.start "held" .rebuild),
   .perform (.send "first" [⟨"/b"⟩]), .advance .projects, .advance .projects,
   .perform (.observe "second" [⟨"/b"⟩]), .advance .settings,
   .perform (.finish "held")]

def unpaid : Chronicled MemoryHost :=
  run (new ⟨⟨"/"⟩, .silent, [], [], [(.gofmt, none, "/usr/bin/gofmt")], .never, [], []⟩ .default
    [⟨"/a"⟩]) observedAgain

theorem keys_current_iff_unpaid :
    ∃ o rebuild found, (∀ step ∈ Action.steps observedAgain, step.Calls (·.keepsRoots)) ∧
      unpaid.session.observation = some o ∧ o.projects = ⟨false, .idle⟩ ∧
        lastEnded unpaid.log = some (rebuild, some found) ∧
          unpaid.session.coordinator.roots = o.newest ∧
            ∃ cache, unpaid.session.coordinator.cache = some cache ∧
              ((∀ e ∈ cache.entries, e.1 ∈ CacheKey.forRoots unpaid.session.coordinator.roots) ↔
                ∀ forfeited, forfeitedSince unpaid.log = some forfeited →
                  ∀ e ∈ (ToolCache.ofResolutions found).entries,
                    e.1 ∈ CacheKey.forRoots forfeited) := by
  have ok : ∀ step ∈ Action.steps observedAgain, step.Calls (·.keepsRoots) := by decide
  exact ⟨_, _, _, ok, rfl, rfl, rfl, keys_current_iff _ _ _ observedAgain ok rfl rfl rfl⟩

theorem unpaid_stale :
    unpaid.session.coordinator.rebuilding = false ∧
      unpaid.session.coordinator.disposed = false ∧
        unpaid.session.observation.map (·.projects) = some ⟨false, .idle⟩ ∧
          unpaid.session.observation.map (·.settings) = some ⟨false, .idle⟩ ∧
            (lastEnded unpaid.log).any (·.2.isSome) = true ∧
              unpaid.session.coordinator.cache.any fun cache => cache.entries.any fun e =>
                e.1 ∉ CacheKey.forRoots unpaid.session.coordinator.roots := by
  decide

end Chronicled

end FormatService
