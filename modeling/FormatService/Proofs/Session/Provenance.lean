import FormatService.Proofs.Session.Slot

/-!
# Where the cache comes from

The cache and the tool paths that count as applied are those of the last rebuild
that ran to its end and did not fail. Rebuilds that are refused, fail or are given
up leave them as they were.
-/

set_option autoImplicit false

namespace FormatService

open Coordinator (Rebuild concluded)

/-- The last rebuild that has put something into the cache, with what it found. -/
def Entry.lastFound : List Entry → Option (Rebuild × List (CacheKey × Option String))
  | [] => none
  | .ended rebuild (some found) :: _ => some (rebuild, found)
  | _ :: log => lastFound log

theorem Entry.lastFound_of_lastEnded {log : List Entry} {rebuild : Rebuild}
    {found : List (CacheKey × Option String)}
    (h : lastEnded log = some (rebuild, some found)) : lastFound log = some (rebuild, found) := by
  induction log with
  | nil => contradiction
  | cons e log ih =>
    cases e with
    | ended r f =>
      rw [lastEnded] at h
      obtain ⟨rfl, rfl⟩ := Prod.mk.inj (Option.some.inj h)
      rfl
    | began r => exact ih h
    | looked paths => exact ih h
    | forfeited roots => exact ih h

namespace Chronicled

variable {σ : Type}

/-- The cache is what the last successful rebuild has left. -/
structure Kept (x : Chronicled σ) : Prop where
  sound : x.session.Sound
  paths : x.session.coordinator.appliedPaths =
    (Entry.lastFound x.log).elim .empty (·.1.toolPaths)
  cache : x.session.coordinator.disposed = false →
    x.session.coordinator.cache = (Entry.lastFound x.log).map (ToolCache.ofResolutions ·.2)
  keys : ∀ rebuild found, Entry.lastFound x.log = some (rebuild, found) →
    found.map (·.1) = rebuild.keys

theorem Kept.same {x : Chronicled σ} (h : x.Kept) {s : Session σ} {es : List Entry}
    (sound : s.Sound) (hl : Entry.lastFound (es ++ x.log) = Entry.lastFound x.log)
    (hp : s.coordinator.appliedPaths = x.session.coordinator.appliedPaths)
    (hc : s.coordinator.disposed = false →
      x.session.coordinator.disposed = false ∧ s.coordinator.cache = x.session.coordinator.cache) :
    Kept ⟨s, es ++ x.log⟩ := by
  refine ⟨sound, ?_, ?_, ?_⟩
  · simp only [hl, hp, h.paths]
  · intro live
    obtain ⟨live, he⟩ := hc live
    simp only [hl, he, h.cache live]
  · simp only [hl]
    exact h.keys

theorem new_kept (host : σ) (settings : Settings) (roots : List ProjectRoot) :
    (new host settings roots).Kept :=
  ⟨⟨rfl, (fun _ h => nomatch h), fun _ => rfl⟩, rfl, fun _ => rfl, fun _ _ h => nomatch h⟩

variable [Host σ] {allowed : Call → Prop}

theorem Kept.ended {x : Chronicled σ} (h : x.Kept) {s : Session σ} (es : List Entry)
    {rebuild : Rebuild} {found : Option (List (CacheKey × Option String))} (sound : s.Sound)
    (hl : Entry.lastFound (es ++ x.log) = Entry.lastFound x.log)
    (hc : s.coordinator = concluded rebuild found x.session.coordinator)
    (finds : x.session.coordinator.CanFind rebuild found) :
    Kept ⟨s, .ended rebuild found :: es ++ x.log⟩ := by
  cases found with
  | none =>
    refine h.same sound hl ?_ ?_
    · rw [hc]
      rfl
    · rw [hc]
      exact fun live => ⟨live, rfl⟩
  | some found =>
    refine ⟨sound, ?_, ?_, ?_⟩
    · simp only [hc]
      rfl
    · intro live
      simp only [hc]
      rfl
    · rintro _ _ ⟨⟩
      exact finds.keys

theorem Kept.move {x : Chronicled σ} {es : List Entry} {s : Session σ} (h : x.Kept)
    (m : Session.Move allowed x.session es s) : Kept ⟨s, es ++ x.log⟩ := by
  obtain ⟨sound, -⟩ := m.sound h.sound
  cases m with
  | still => exact h.same sound rfl rfl fun live => ⟨live, rfl⟩
  | prepare call => cases call <;> exact h.same sound rfl rfl fun live => ⟨live, rfl⟩
  | settings settings => exact h.same sound rfl rfl fun live => ⟨live, rfl⟩
  | send channel roots => exact h.same sound rfl rfl fun live => ⟨live, rfl⟩
  | wake => exact h.same sound rfl rfl fun live => ⟨live, rfl⟩
  | queue turns => exact h.same sound rfl rfl fun live => ⟨live, rfl⟩
  | hold id formatting free live => exact h.same sound rfl rfl fun live => ⟨live, rfl⟩
  | whole found free live finds => exact h.ended [.began _] sound rfl rfl finds
  | finish id held found there finds => exact h.ended [] sound rfl rfl finds
  | drop id held there => exact h.same sound rfl rfl fun live => ⟨live, rfl⟩
  | observe channel roots live =>
    obtain ⟨host, ho⟩ := x.session.observe_eq channel roots live
    rw [ho] at sound ⊢
    refine h.same sound ?_ rfl fun live => ⟨live, rfl⟩
    split <;> rfl
  | dispose => exact h.same sound rfl rfl fun live => Bool.noConfusion live
  | reap stopped => exact h.same sound rfl rfl fun live => ⟨live, rfl⟩
  | adopt o observed idle unseen => exact h.same sound rfl rfl fun live => ⟨live, rfl⟩
  | look o observed idle unseen phase heed => exact h.same sound rfl rfl fun live => ⟨live, rfl⟩
  | sleep role o observed wanting busy => exact h.same sound rfl rfl fun live => ⟨live, rfl⟩
  | quit role o observed wanting late => exact h.same sound rfl rfl fun live => ⟨live, rfl⟩
  | search role o observed wanting free live => exact h.same sound rfl rfl fun live => ⟨live, rfl⟩
  | conclude role rebuild o found observed searching finds =>
    exact h.ended [] sound rfl rfl finds

theorem run_kept (host : σ) (settings : Settings) (roots : List ProjectRoot)
    (actions : List (Action σ)) : ((new host settings roots).run actions).Kept :=
  run_keeps _ Kept.move (new_kept host settings roots) actions fun step _ => step.calls_any

end Chronicled

end FormatService
