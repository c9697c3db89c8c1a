import FormatService.MemoryHost
import FormatService.Proofs.Session.Provenance
import FormatService.Proofs.Session.Shift

/-!
# Whether the newest tool paths are the applied ones

The settings listener compares the newest settings with those of the last rebuild
that ended, while a rebuild in progress may have read others. What it then leaves
undone is the only way in which the cache stays behind the settings.
-/

set_option autoImplicit false

namespace FormatService

open Coordinator (Rebuild concluded)

namespace Entry

def looked? : Entry → Option ToolPaths
  | .looked paths => some paths
  | _ => none

def lastLooked (log : List Entry) : Option ToolPaths := log.findSome? looked?

/-- The tool paths that the settings listener looked at last, if the rebuild that ended
last had the slot at that time. -/
def lookedDuring : List Entry → Option ToolPaths
  | [] => none
  | .looked _ :: _ => none
  | .ended _ _ :: log => sinceBegan looked? log
  | _ :: log => lookedDuring log

theorem lastLooked_of_sinceBegan {log : List Entry} {paths : ToolPaths}
    (h : sinceBegan looked? log = some paths) : lastLooked log = some paths := by
  induction log with
  | nil => contradiction
  | cons e log ih =>
    cases e with
    | began r => contradiction
    | looked p => exact h
    | ended r found => exact ih h
    | forfeited roots => exact ih h

theorem lastLooked_of_lookedDuring {log : List Entry} {paths : ToolPaths}
    (h : lookedDuring log = some paths) : lastLooked log = some paths := by
  induction log with
  | nil => contradiction
  | cons e log ih =>
    cases e with
    | looked p => contradiction
    | ended r found => exact lastLooked_of_sinceBegan h
    | began r => exact ih h
    | forfeited roots => exact ih h

end Entry

open Entry

namespace Session

variable {σ : Type} [Host σ] {allowed : Call → Prop}

/-- If the settings listener has seen the newest settings after a move, it has just looked
at them or it had seen them before. -/
theorem Shift.settings_seen {s s' : Session σ} {es : List Entry} (m : Shift allowed s es s')
    {o' : Observation} (observed' : s'.observation = some o')
    (seen : o'.settings.unseen = false) :
    s'.coordinator.settings = s.coordinator.settings ∧
      ((es = [.looked s.coordinator.settings.toolPaths] ∧
          (o'.settings.phase = .idle →
            s.coordinator.settings.toolPaths = s.coordinator.appliedPaths)) ∨
        (∀ paths, .looked paths ∉ es) ∧
          ∃ o, s.observation = some o ∧ o.settings.unseen = false ∧
            (o'.settings.phase = .idle →
              o.settings.phase = .idle ∨ ∃ r found, es = [.ended r found])) := by
  cases m with
  | goes goes told live roots tool quiet =>
    rw [observed'] at goes told
    obtain ⟨o, ho, g⟩ := goes_some goes
    refine ⟨?_, .inr ⟨quiet.1, o, ho, g.unseen .settings seen, fun hi => ?_⟩⟩
    · rcases told with told | told
      · exact told
      · exact absurd seen (by rw [told o' rfl]; decide)
    · exact .inl (g.idle .settings hi)
  | observed channel roots live =>
    obtain ⟨host, ho⟩ := s.observe_eq channel roots live
    rw [ho] at observed'
    obtain rfl := Option.some.inj observed'
    contradiction
  | disposed late none =>
    rw [none] at observed'
    contradiction
  | adopted o observed idle unseen =>
    obtain rfl := Option.some.inj observed'
    exact ⟨rfl, .inr ⟨by simp, o, observed, seen, .inl⟩⟩
  | looked o observed idle unseen phase heed =>
    obtain rfl := Option.some.inj observed'
    refine ⟨rfl, .inl ⟨rfl, fun hi => ?_⟩⟩
    rcases heed with rfl | ⟨-, he⟩
    · contradiction
    · exact he
  | searches role o observed wanting =>
    obtain rfl := Option.some.inj observed'
    have hu : ((o.setPhase role (.searching s.coordinator.plan)).listener .settings).unseen =
        false := seen
    rw [Observation.unseen_setPhase] at hu
    exact ⟨rfl, .inr ⟨by simp, o, observed, hu, fun hi =>
      .inl (Observation.idle_of_setPhase .settings role (by nofun) hi)⟩⟩
  | concluded role rebuild o found observed searching =>
    obtain rfl := Option.some.inj observed'
    obtain ⟨cache, paths, hc⟩ := Coordinator.concluded_eq rebuild found s.coordinator
    have hu : ((o.wake.setPhase role .idle).listener .settings).unseen = false := seen
    rw [Observation.unseen_setPhase, Observation.unseen_wake] at hu
    exact ⟨by rw [hc], .inr ⟨by simp, o, observed, hu, fun _ => .inr ⟨_, _, rfl⟩⟩⟩

end Session

namespace Chronicled

variable {σ : Type}

/-- The newest settings have been seen, and what the rebuilds have read is what they say,
unless the settings listener has looked while a rebuild was in progress. -/
structure Heeded (x : Chronicled σ) : Prop where
  looked : ∀ paths, lastLooked x.log = some paths →
    paths = x.session.coordinator.settings.toolPaths
  running : ∀ rebuild ∈ x.session.suspended,
    rebuild.toolPaths = x.session.coordinator.settings.toolPaths ∨
      (sinceBegan looked? x.log).isSome

/-- The same of the last rebuild that has ended, once the settings listener waits. -/
def Settled (x : Chronicled σ) : Prop :=
  ∀ rebuild found, lastEnded x.log = some (rebuild, some found) →
    rebuild.toolPaths = x.session.coordinator.settings.toolPaths ∨ (lookedDuring x.log).isSome

structure Followed (x : Chronicled σ) : Prop where
  kept : x.Kept
  heeded : ∀ o, x.session.observation = some o → o.settings.unseen = false → x.Heeded
  settled : ∀ o, x.session.observation = some o → o.settings.unseen = false →
    o.settings.phase = .idle → x.Settled

theorem Kept.appliedPaths_eq {x : Chronicled σ} (h : x.Kept) {rebuild : Rebuild}
    {found : List (CacheKey × Option String)}
    (last : lastEnded x.log = some (rebuild, some found)) :
    x.session.coordinator.appliedPaths = rebuild.toolPaths := by
  rw [h.paths, lastFound_of_lastEnded last]
  rfl

theorem Heeded.turnover {x : Chronicled σ} (h : x.Heeded) {s : Session σ} {es : List Entry}
    {plan : Rebuild} (hp : plan.toolPaths = s.coordinator.settings.toolPaths)
    (same : s.coordinator.settings = x.session.coordinator.settings)
    (turn : Session.Turnover plan x.session.suspended es s.suspended)
    (quiet : ∀ paths, .looked paths ∉ es) : Heeded ⟨s, es ++ x.log⟩ := by
  obtain ⟨looked, running⟩ := h
  rw [← same] at looked running
  generalize x.session.suspended = before at turn running
  generalize hs : s.suspended = after at turn
  cases turn with
  | kept sub => exact ⟨looked, hs ▸ fun r hm => running r (sub hm)⟩
  | looked paths => exact absurd List.mem_cons_self (quiet paths)
  | forfeited roots => exact ⟨looked, hs ▸ running⟩
  | begun =>
    refine ⟨looked, hs ▸ fun r hm => .inl ?_⟩
    rw [List.mem_singleton.mp hm, hp]
  | whole found => exact ⟨looked, hs ▸ fun r hm => absurd hm List.not_mem_nil⟩
  | ended r found => exact ⟨looked, hs ▸ fun r hm => absurd hm List.not_mem_nil⟩

theorem Heeded.settled_turnover {x : Chronicled σ} (h : x.Heeded) {s : Session σ}
    {es : List Entry} {plan : Rebuild}
    (hp : plan.toolPaths = s.coordinator.settings.toolPaths)
    (same : s.coordinator.settings = x.session.coordinator.settings)
    (turn : Session.Turnover plan x.session.suspended es s.suspended)
    (quiet : ∀ paths, .looked paths ∉ es)
    (settled : x.Settled ∨ ∃ r found, es = [.ended r found]) : Settled ⟨s, es ++ x.log⟩ := by
  have running := h.running
  rw [Settled, ← same] at settled
  rw [← same] at running
  -- Only the end of a rebuild settles a listener that was not settled before.
  have before : (∀ r found, es ≠ [.ended r found]) →
      ∀ r found, lastEnded x.log = some (r, some found) →
        r.toolPaths = s.coordinator.settings.toolPaths ∨ (lookedDuring x.log).isSome := by
    intro hn
    rcases settled with hs | ⟨r, found, he⟩
    · exact hs
    · exact absurd he (hn r found)
  generalize x.session.suspended = rebuilds at turn running
  generalize s.suspended = left at turn
  cases turn with
  | kept sub => exact before (by simp)
  | looked paths => exact absurd List.mem_cons_self (quiet paths)
  | forfeited roots => exact before (by simp)
  | begun => exact before (by simp)
  | whole found =>
    rintro _ _ ⟨⟩
    exact .inl hp
  | ended r found =>
    rintro _ _ ⟨⟩
    exact running r List.mem_cons_self

variable [Host σ] {allowed : Call → Prop}

theorem Followed.move {x : Chronicled σ} {es : List Entry} {s : Session σ} (h : x.Followed)
    (m : Session.Move allowed x.session es s) : Followed ⟨s, es ++ x.log⟩ := by
  have hk := h.kept.move m
  obtain ⟨-, turn⟩ := m.sound h.kept.sound
  refine ⟨hk, ?_, ?_⟩
  -- A look sees the newest paths, and then counts as one for every rebuild in progress.
  · intro o' observed' seen
    obtain ⟨same, ⟨rfl, -⟩ | ⟨quiet, o, observed, hu, -⟩⟩ :=
      (m.shift h.kept.sound).settings_seen observed' seen
    · refine ⟨?_, fun r _ => .inr rfl⟩
      rintro _ ⟨⟩
      rw [same]
    · exact (h.heeded o observed hu).turnover (by rw [same, Coordinator.plan_toolPaths]) same
        turn quiet
  · intro o' observed' seen idle
    obtain ⟨same, ⟨rfl, heed⟩ | ⟨quiet, o, observed, hu, hi⟩⟩ :=
      (m.shift h.kept.sound).settings_seen observed' seen
    · intro r found last
      refine .inl ?_
      rw [same, heed idle]
      exact (h.kept.appliedPaths_eq last).symm
    · refine (h.heeded o observed hu).settled_turnover
        (by rw [same, Coordinator.plan_toolPaths]) same turn quiet ?_
      rcases hi idle with hi | hi
      · exact .inl (h.settled o observed hu hi)
      · exact .inr hi

theorem run_followed (host : σ) (settings : Settings) (roots : List ProjectRoot)
    (actions : List (Action σ)) : ((new host settings roots).run actions).Followed := by
  refine run_keeps _ Followed.move ?_ actions fun step _ => step.calls_any
  exact ⟨new_kept host settings roots, (fun o h => nomatch h), fun o h => nomatch h⟩

/-- Once the settings listener has seen the newest settings and waits, and the rebuild that
ended last has succeeded, the applied tool paths are not those of the newest settings just
if the listener last looked while that rebuild had the slot, and saw other paths than the
rebuild had read. -/
theorem appliedPaths_stale_iff (host : σ) (settings : Settings) (roots : List ProjectRoot)
    (actions : List (Action σ)) {o : Observation} {rebuild : Rebuild}
    {found : List (CacheKey × Option String)}
    (observed : ((new host settings roots).run actions).session.observation = some o)
    (waiting : o.settings = ⟨false, .idle⟩)
    (last : lastEnded ((new host settings roots).run actions).log = some (rebuild, some found)) :
    ((new host settings roots).run actions).session.coordinator.appliedPaths ≠
        ((new host settings roots).run actions).session.coordinator.settings.toolPaths ↔
      ∃ paths, lookedDuring ((new host settings roots).run actions).log = some paths ∧
        paths ≠ rebuild.toolPaths := by
  have h := run_followed host settings roots actions
  generalize (new host settings roots).run actions = x at h observed last ⊢
  have seen : o.settings.unseen = false := by rw [waiting]
  have idle : o.settings.phase = .idle := by rw [waiting]
  have newest := (h.heeded o observed seen).looked
  rw [h.kept.appliedPaths_eq last]
  constructor
  · intro stale
    rcases h.settled o observed seen idle rebuild found last with same | during
    · exact absurd same stale
    · obtain ⟨paths, hp⟩ := Option.isSome_iff_exists.mp during
      refine ⟨paths, hp, ?_⟩
      rw [newest paths (lastLooked_of_lookedDuring hp)]
      exact stale.symm
  · rintro ⟨paths, hp, other⟩
    rw [← newest paths (lastLooked_of_lookedDuring hp)]
    exact other.symm

/-- The tool paths are changed and changed back. The listener's rebuild for the change fails,
and a caller's rebuild, which has read the changed paths, ends after they are changed back. -/
def changedBack : List (Action MemoryHost) :=
  [.perform (.observe "projects" []), .advance .settings,
   .perform (.host fun h => { h with searchFault := .always "offline" }),
   .perform (.settings { Settings.default with toolPaths := .set .empty .gofmt "/opt/gofmt" }),
   .advance .settings, .advance .settings, .advance .settings,
   .perform (.host fun h => { h with searchFault := .never }),
   .perform (.start "held" .rebuild),
   .perform (.settings .default), .advance .settings,
   .perform (.finish "held")]

def leftBehind : Chronicled MemoryHost :=
  run (new ⟨⟨"/"⟩, .silent, [(⟨"/opt/gofmt"⟩, [])], [], [], .never, [], []⟩ .default []) changedBack

theorem appliedPaths_stale_iff_leftBehind :
    ∃ o rebuild found, leftBehind.session.observation = some o ∧ o.settings = ⟨false, .idle⟩ ∧
      lastEnded leftBehind.log = some (rebuild, some found) ∧
        (leftBehind.session.coordinator.appliedPaths ≠
            leftBehind.session.coordinator.settings.toolPaths ↔
          ∃ paths, lookedDuring leftBehind.log = some paths ∧ paths ≠ rebuild.toolPaths) :=
  ⟨_, _, _, rfl, rfl, rfl, appliedPaths_stale_iff _ _ _ changedBack rfl rfl rfl⟩

theorem leftBehind_stale :
    leftBehind.session.coordinator.rebuilding = false ∧
      leftBehind.session.coordinator.disposed = false ∧
        leftBehind.session.observation.map (·.settings) = some ⟨false, .idle⟩ ∧
          (lastEnded leftBehind.log).any (·.2.isSome) = true ∧
            leftBehind.session.coordinator.appliedPaths ≠
              leftBehind.session.coordinator.settings.toolPaths := by
  decide

end Chronicled

end FormatService
