import FormatService.Proofs.Coordinator.Request
import FormatService.Proofs.Session.Slot

/-!
# What the chronicle tells of an action

An action tells of one rebuild at most: that it takes the slot, that it ends, or both.
What it tells of the suspended rebuild is told of the one that took the slot last, so
start and end of a rebuild can be put together.
-/

set_option autoImplicit false

namespace FormatService

open Coordinator (Rebuild)

namespace Coordinator

variable {σ : Type} [Host σ] {c : Coordinator σ}

theorem formatEntries_cases (b : Buffer) (tool : Option Tool) (file : Option Path)
    (c : Coordinator σ) :
    c.formatEntries b tool file = [] ∨ c.formatEntries b tool file = c.wholeEntries := by
  rw [formatEntries]
  split
  · exact .inr rfl
  · exact .inl rfl

end Coordinator

namespace Session

variable {σ : Type} [Host σ]

/-- The coordinator as a rebuild finds it that is attempted in an action: a call has set the
roots or the tool before. -/
def source (s : Session σ) : Action σ → Coordinator σ
  | .perform (.call call) => prepare call s.coordinator
  | .perform (.start _ call) => prepare call s.coordinator
  | _ => s.coordinator

inductive Told (s : Session σ) (action : Action σ) : List Entry → Prop
  | nothing : Told s action []
  | looked (paths : ToolPaths) : Told s action [.looked paths]
  | forfeited (channel : String) (roots : List ProjectRoot)
      (observe : action = .perform (.observe channel roots)) : Told s action [.forfeited roots]
  | began (free : (s.source action).rebuilding = false) (live : (s.source action).disposed = false) :
      Told s action [.began (s.source action).plan]
  | whole (free : (s.source action).rebuilding = false) (live : (s.source action).disposed = false) :
      Told s action [.ended (s.source action).plan
        ((s.source action).beginRebuild.1.found? (s.source action).plan),
        .began (s.source action).plan]
  | ended (rebuild : Rebuild) (suspended : rebuild ∈ s.suspended) :
      Told s action [.ended rebuild (s.coordinator.found? rebuild)]

theorem Told.eq_of_ended {s : Session σ} {action : Action σ} {es : List Entry}
    (h : s.Told action es) {rebuild : Rebuild}
    {found : Option (List (CacheKey × Option String))} (ended : .ended rebuild found ∈ es) :
    ∃ before, es = .ended rebuild found :: before := by
  cases h with
  | whole free live =>
    rcases List.mem_cons.mp ended with he | he
    · exact ⟨_, by rw [he]⟩
    · simp at he
  | ended rebuild suspended => exact ⟨_, by rw [List.mem_singleton.mp ended]⟩
  | _ => simp at ended

variable (s : Session σ) (action : Action σ)

theorem wholeEntries_told : s.Told action (s.source action).wholeEntries := by
  rcases (s.source action).barred_or_open with barred | ⟨free, live⟩
  · rw [barred.wholeEntries]
    exact .nothing
  · rw [Coordinator.wholeEntries_eq free live]
    exact .whole free live

theorem startEntries_told : s.Told action (s.source action).startEntries := by
  rcases (s.source action).barred_or_open with barred | ⟨free, live⟩
  · rw [barred.startEntries]
    exact .nothing
  · rw [Coordinator.startEntries_eq free live]
    split
    · exact wholeEntries_told s action
    · exact .began free live

theorem formatEntries_told (b : Buffer) (tool : Option Tool) (file : Option Path)
    (here : s.source action = s.coordinator) :
    s.Told action (s.coordinator.formatEntries b tool file) := by
  rcases s.coordinator.formatEntries_cases b tool file with nothing | whole
  · rw [nothing]
    exact .nothing
  · rw [whole, ← here]
    exact wholeEntries_told s action

theorem requested_told {step : Step σ} {name : String} (h : s.Requested step name)
    (here : s.source (.perform step) = s.coordinator) :
    s.Told (.perform step) (s.performEntries step) := by
  cases h with
  | missing missing does told =>
    rw [told]
    exact .nothing
  | skipped b there does told =>
    rw [told]
    exact .nothing
  | formatted b tool file there does told =>
    rw [told]
    exact formatEntries_told s _ b tool file here
  | held id formatting free live does told =>
    rw [told, ← here]
    exact .began (here ▸ free) (here ▸ live)

theorem entries_told : s.Told action (s.entries action) := by
  cases action with
  | perform step =>
    cases step with
    | call call => exact wholeEntries_told s (.perform (.call call))
    | start id call => exact startEntries_told s (.perform (.start id call))
    | finish id =>
      simp only [entries, performEntries]
      cases there : s.held? id with
      | none => exact .nothing
      | some held => exact .ended held.rebuild (mem_suspended_of_held? there)
    | observe channel roots =>
      simp only [entries, performEntries]
      split
      · exact .forfeited channel roots rfl
      · exact .nothing
    | format name tool file => exact requested_told s (s.requested rfl) rfl
    | willSave name => exact requested_told s (s.requested rfl) rfl
    | startFormat id name tool file => exact requested_told s (s.requested rfl) rfl
    | startWillSave id name => exact requested_told s (s.requested rfl) rfl
    | _ => exact .nothing
  | advance role =>
    simp only [entries]
    cases observed : s.observation with
    | none => exact .nothing
    | some o =>
      simp only [advanceEntries]
      cases hp : (o.listener role).phase with
      | idle =>
        simp only
        split
        · exact .looked _
        · exact .nothing
      | wanting => exact startEntries_told s (.advance role)
      | searching rebuild => exact .ended rebuild (mem_suspended observed role hp)
      | asleep => exact .nothing
  | queue turns => exact .nothing
  | reap => exact .nothing

end Session

/-- The rebuild that the chronicle tells of last, if it does not tell of its end. -/
def Entry.running : List Entry → Option Rebuild
  | [] => none
  | .began rebuild :: _ => some rebuild
  | .ended _ _ :: _ => none
  | _ :: log => running log

namespace Chronicled

variable {σ : Type}

/-- The rebuild that is suspended is the one that the chronicle has told of last. -/
structure Tracked (x : Chronicled σ) : Prop where
  sound : x.session.Sound
  running : ∀ rebuild ∈ x.session.suspended, Entry.running x.log = some rebuild

theorem new_tracked (host : σ) (settings : Settings) (roots : List ProjectRoot) :
    (new host settings roots).Tracked :=
  ⟨⟨rfl, (fun _ h => nomatch h), fun _ => rfl⟩, nofun⟩

theorem Tracked.free_of_ended {x : Chronicled σ} (h : x.Tracked) {rebuild : Rebuild}
    {found : Option (List (CacheKey × Option String))} {log : List Entry}
    (ended : x.log = .ended rebuild found :: log) : x.session.coordinator.rebuilding = false := by
  cases hr : x.session.coordinator.rebuilding with
  | false => rfl
  | true =>
    have hl := h.sound.slot
    rw [hr] at hl
    obtain ⟨r, hs⟩ := List.length_eq_one_iff.mp hl
    have hn := h.running r (hs ▸ List.mem_singleton_self r)
    rw [ended] at hn
    contradiction

variable [Host σ]

theorem Tracked.move {allowed : Call → Prop} {x : Chronicled σ} {es : List Entry} {s : Session σ}
    (h : x.Tracked) (m : Session.Move allowed x.session es s) : Tracked ⟨s, es ++ x.log⟩ := by
  obtain ⟨sound, turn⟩ := m.sound h.sound
  refine ⟨sound, ?_⟩
  have running := h.running
  change ∀ rebuild ∈ s.suspended, Entry.running (es ++ x.log) = some rebuild
  generalize x.session.suspended = before at turn running
  generalize s.suspended = after at turn ⊢
  cases turn with
  | kept sub => exact fun r hm => running r (sub hm)
  | looked paths => exact running
  | forfeited roots => exact running
  | begun =>
    intro r hm
    rw [List.mem_singleton.mp hm]
    rfl
  | whole found => nofun
  | ended r found => nofun

theorem Tracked.act {x : Chronicled σ} (h : x.Tracked) (action : Action σ) :
    (x.act action).Tracked :=
  moves_keep _ Tracked.move h (Session.act_moves x.session action fun step _ => step.calls_any)

theorem run_tracked (host : σ) (settings : Settings) (roots : List ProjectRoot)
    (actions : List (Action σ)) : ((new host settings roots).run actions).Tracked :=
  run_keeps _ Tracked.move (new_tracked host settings roots) actions
    fun step _ => step.calls_any

end Chronicled

end FormatService
