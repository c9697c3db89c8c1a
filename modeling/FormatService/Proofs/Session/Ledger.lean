import FormatService.Proofs.Coordinator.Completion
import FormatService.Proofs.Session.Course
import FormatService.Proofs.Session.Disposal
import FormatService.Proofs.Session.Provenance

/-!
# The ledger of a session's rebuilds

The ledger keeps the coordinator as the rebuild that last took the slot has found it,
and the last rebuild that has succeeded. From these two the cache and the applied tool
paths follow, whatever else has happened between the start and the end of a rebuild.
-/

set_option autoImplicit false

namespace FormatService

open Coordinator (Completion Rebuild)
open Host (Asked)

variable {σ : Type} [Host σ]

def Session.carriesCall (s : Session σ) : Session.Step σ → Bool
  | .call _ | .start _ _ => true
  | .finish id => (s.held? id).all (·.formatting.isNone)
  | _ => false

structure Ledger (σ : Type) where
  session : Session σ
  /-- The coordinator when a rebuild last took the slot. -/
  taken : Option (Coordinator σ)
  /-- The last rebuild that has succeeded. -/
  last : Option (Completion σ)

namespace Ledger

def new (host : σ) (settings : Settings) (roots : List ProjectRoot) : Ledger σ :=
  ⟨.new (.new host settings roots), none, none⟩

/-- The rebuild that comes to its end in an action: one that has just issued its searches, or
the one that was suspended at them. -/
def completes (y : Ledger σ) (action : Action σ) : Option (Completion σ) :=
  if y.session.concludes action then
    if y.session.takes action then
      some ⟨y.session.source action, (y.session.source action).beginRebuild.1⟩
    else y.taken.map (⟨·, y.session.coordinator⟩)
  else none

def act (y : Ledger σ) (action : Action σ) : Ledger σ where
  session := y.session.act action
  taken := if y.session.takes action then some (y.session.source action) else y.taken
  last := ((y.completes action).filter (·.succeeded)).or y.last

def run (y : Ledger σ) : List (Action σ) → Ledger σ
  | [] => y
  | action :: actions => (y.act action).run actions

theorem run_append (y : Ledger σ) (actions more : List (Action σ)) :
    y.run (actions ++ more) = (y.run actions).run more := by
  induction actions generalizing y with
  | nil => rfl
  | cons action actions ih => exact ih _

structure Agrees (y : Ledger σ) (x : Chronicled σ) : Prop where
  session : y.session = x.session
  taken : ∀ rebuild, Entry.running x.log = some rebuild → ∃ c, y.taken = some c ∧ c.plan = rebuild
  last : Entry.lastFound x.log = y.last.map fun k => (k.start.plan, k.resolutions)

theorem new_agrees (host : σ) (settings : Settings) (roots : List ProjectRoot) :
    Agrees (new host settings roots) (.new host settings roots) where
  session := rfl
  taken := by
    intro rebuild none
    contradiction
  last := rfl

theorem lastFound_ended (k : Completion σ) (log : List Entry) (last : Option (Completion σ))
    (h : Entry.lastFound log = last.map fun k => (k.start.plan, k.resolutions)) :
    Entry.lastFound (.ended k.start.plan (k.stop.found? k.start.plan) :: log) =
      (((some k).filter (·.succeeded)).or last).map fun k => (k.start.plan, k.resolutions) := by
  rw [k.found?_plan, Option.filter_some]
  cases k.succeeded with
  | true => rfl
  | false => exact h

theorem Agrees.act {y : Ledger σ} {x : Chronicled σ} (h : Agrees y x) (tracked : x.Tracked)
    (action : Action σ) : Agrees (y.act action) (x.act action) := by
  obtain ⟨s, taken, last⟩ := y
  obtain ⟨same, ht, hl⟩ := h
  obtain rfl : s = x.session := same
  have told := x.session.entries_told action
  generalize he : x.session.entries action = es at told
  have hx : (x.act action).log = es ++ x.log := congrArg (· ++ x.log) he
  have began : x.session.takes action = es.any Entry.isBegan := by rw [Session.takes, he]
  have ended : x.session.concludes action = es.any Entry.isEnded := by
    rw [Session.concludes, he]
  refine ⟨rfl, ?_, ?_⟩
  · rw [hx, Ledger.act]
    simp only [began]
    clear began ended hx he
    intro rebuild running
    cases told with
    | began free live =>
      obtain rfl := Option.some.inj running
      exact ⟨_, rfl, rfl⟩
    | whole free live => contradiction
    | ended r suspended => contradiction
    | _ => exact ht rebuild running
  · rw [hx, Ledger.act]
    simp only [completes, began, ended]
    clear began ended hx he
    cases told with
    | whole free live =>
      exact lastFound_ended ⟨x.session.source action, (x.session.source action).beginRebuild.1⟩
        (_ :: x.log) last hl
    | ended r suspended =>
      obtain ⟨c, rfl, rfl⟩ := ht r (tracked.running r suspended)
      exact lastFound_ended ⟨c, x.session.coordinator⟩ x.log last hl
    | _ => exact hl

theorem run_agrees {y : Ledger σ} {x : Chronicled σ} (h : Agrees y x) (tracked : x.Tracked)
    (actions : List (Action σ)) : Agrees (y.run actions) (x.run actions) := by
  induction actions generalizing y x with
  | nil => exact h
  | cons action actions ih => exact ih (h.act tracked action) (tracked.act action)

/-- The cache and the paths that count as applied are those of the last rebuild that has
succeeded. -/
structure Balanced (y : Ledger σ) : Prop where
  cache : y.session.coordinator.cache =
    if y.session.coordinator.disposed then none
    else y.last.map fun k => ToolCache.ofResolutions k.resolutions
  paths : y.session.coordinator.appliedPaths = y.last.elim .empty (·.start.settings.toolPaths)

theorem Agrees.balanced {y : Ledger σ} {x : Chronicled σ} (h : Agrees y x) (kept : x.Kept)
    (done : x.session.Sealed) : y.Balanced := by
  refine ⟨?_, ?_⟩
  · rw [h.session]
    cases hd : x.session.coordinator.disposed with
    | true => exact done hd
    | false =>
      rw [kept.cache hd, h.last, Option.map_map]
      rfl
  · rw [h.session, kept.paths, h.last]
    cases y.last <;> rfl

theorem Balanced.kept {y : Ledger σ} {action : Action σ} (before : y.Balanced)
    (after : (y.act action).Balanced) (other : action ≠ .perform .dispose)
    (failed : ∀ k, y.completes action = some k → k.succeeded = false) :
    (y.session.act action).coordinator.cache = y.session.coordinator.cache ∧
      (y.session.act action).coordinator.appliedPaths = y.session.coordinator.appliedPaths := by
  have last : (y.act action).last = y.last := by
    have none : (y.completes action).filter (·.succeeded) = none := by
      cases hk : y.completes action with
      | none => rfl
      | some k => rw [Option.filter_some, failed k hk, if_neg (by decide)]
    rw [act, none, Option.none_or]
  have disposed : (y.act action).session.coordinator.disposed = y.session.coordinator.disposed :=
    (y.session.course action).disposed other
  refine ⟨?_, ?_⟩
  · rw [before.cache, ← last, ← disposed]
    exact after.cache
  · rw [before.paths, ← last]
    exact after.paths

theorem Agrees.suspended {y : Ledger σ} {x : Chronicled σ} (h : Agrees y x) (tracked : x.Tracked)
    (rebuild : Rebuild) (suspended : rebuild ∈ y.session.suspended) :
    ∃ c, y.taken = some c ∧ c.plan = rebuild := by
  rw [h.session] at suspended
  exact h.taken rebuild (tracked.running rebuild suspended)

theorem completes_none {y : Ledger σ} {action : Action σ}
    (none : y.session.concludes action = false) : y.completes action = .none := by
  rw [completes, none]
  rfl

theorem completes_whole {y : Ledger σ} {action : Action σ} {c : Coordinator σ}
    (source : y.session.source action = c) (free : c.rebuilding = false) (live : c.disposed = false)
    (told : y.session.entries action = c.wholeEntries) :
    y.completes action = some ⟨c, c.beginRebuild.1⟩ := by
  rw [Coordinator.wholeEntries_eq free live] at told
  rw [completes, Session.concludes, Session.takes, told, source]
  rfl

theorem completes_suspended {y : Ledger σ} {action : Action σ} {rebuild : Rebuild}
    {found : Option (List (CacheKey × Option String))}
    (told : y.session.entries action = [.ended rebuild found]) :
    y.completes action = y.taken.map (⟨·, y.session.coordinator⟩) := by
  rw [completes, Session.concludes, Session.takes, told]
  rfl

theorem Agrees.completes_isSome {y : Ledger σ} {x : Chronicled σ} (h : Agrees y x)
    (tracked : x.Tracked) (action : Action σ) :
    (y.completes action).isSome = y.session.concludes action := by
  cases ended : y.session.concludes action with
  | false =>
    rw [completes_none ended]
    rfl
  | true =>
    have told := y.session.entries_told action
    generalize he : y.session.entries action = es at told
    rw [Session.concludes, he] at ended
    cases told with
    | whole free live =>
      rw [completes_whole rfl free live (he.trans (Coordinator.wholeEntries_eq free live).symm)]
      rfl
    | ended rebuild suspended =>
      obtain ⟨c, taken, -⟩ := h.suspended tracked rebuild suspended
      rw [completes_suspended he, taken]
      rfl
    | _ => contradiction

theorem answers_of_none {y : Ledger σ} {action : Action σ} {reply : Session.Reply}
    (no : reply ≠ .flag true) (none : y.session.concludes action = false) :
    reply = .flag true ↔ ∃ k, y.completes action = some k ∧ k.succeeded = true := by
  rw [completes_none none]
  simp [no]

theorem answers_of_some {y : Ledger σ} {action : Action σ} {reply : Session.Reply}
    {k : Completion σ} (told : reply = .flag k.succeeded) (ended : y.completes action = some k) :
    reply = .flag true ↔ ∃ k, y.completes action = some k ∧ k.succeeded = true := by
  rw [ended]
  simp [told]

theorem answers_call (y : Ledger σ) (call : Call) :
    (y.session.perform (.call call)).2 = .flag true ↔
      ∃ k, y.completes (.perform (.call call)) = some k ∧ k.succeeded = true := by
  let c := Session.prepare call y.session.coordinator
  have told : y.session.entries (.perform (.call call)) = c.wholeEntries := rfl
  rcases c.barred_or_open with barred | ⟨free, live⟩
  · obtain ⟨host, hp, -⟩ :=
      Session.perform_call_barred ((Session.prepare_barred call).mp barred) call
    rw [hp]
    refine answers_of_none (by simp) ?_
    rw [Session.concludes, told, barred.wholeEntries]
    rfl
  · refine answers_of_some ?_ (completes_whole rfl free live told)
    exact congrArg Session.Reply.flag (Coordinator.rebuild_succeeded free live)

theorem answers_start (y : Ledger σ) (id : String) (call : Call) :
    (y.session.perform (.start id call)).2 = .flag true ↔
      ∃ k, y.completes (.perform (.start id call)) = some k ∧ k.succeeded = true := by
  let c := Session.prepare call y.session.coordinator
  have told : y.session.entries (.perform (.start id call)) = c.startEntries := rfl
  rcases c.barred_or_open with barred | ⟨free, live⟩
  · obtain ⟨host, hs, -⟩ := Session.start_barred ((Session.prepare_barred call).mp barred) id call
    rw [Session.perform, hs]
    refine answers_of_none (by simp) ?_
    rw [Session.concludes, told, barred.startEntries]
    rfl
  · rw [Coordinator.startEntries_eq free live] at told
    have begun : c.beginRebuild = (c.beginRebuild.1, .searching c.plan) := by
      rw [Coordinator.beginRebuild_eq free live]
    have reply : (y.session.perform (.start id call)).2 = if c.plan.searches = [] then
        .flag (c.beginRebuild.1.finishRebuild c.plan).2 else .pending := by
      rw [Session.perform, Session.start, begun]
      simp only
      split <;> rfl
    rw [reply]
    by_cases hn : c.plan.searches = []
    · rw [if_pos hn] at told ⊢
      have ended : y.completes (.perform (.start id call)) = some ⟨c, c.beginRebuild.1⟩ :=
        completes_whole rfl free live told
      refine answers_of_some ?_ ended
      rw [← Completion.finishRebuild_plan]
    · rw [if_neg hn] at told ⊢
      refine answers_of_none (by simp) ?_
      rw [Session.concludes, told]
      rfl

theorem Agrees.answers_finish {y : Ledger σ} {x : Chronicled σ} (h : Agrees y x)
    (tracked : x.Tracked) {id : String} (carries : y.session.carriesCall (.finish id) = true) :
    (y.session.perform (.finish id)).2 = .flag true ↔
      ∃ k, y.completes (.perform (.finish id)) = some k ∧ k.succeeded = true := by
  cases there : y.session.held? id with
  | none =>
    refine answers_of_none ?_ ?_
    · simp [Session.perform, there]
    · simp only [Session.concludes, Session.entries, Session.performEntries, there]
      rfl
  | some held =>
    have called : held.formatting = none := by simpa [Session.carriesCall, there] using carries
    obtain ⟨c, taken, plan⟩ :=
      h.suspended tracked held.rebuild (Session.mem_suspended_of_held? there)
    have told : y.session.entries (.perform (.finish id)) =
        [.ended c.plan (y.session.coordinator.found? c.plan)] := by
      simp only [Session.entries, Session.performEntries, there, plan]
    have ended : y.completes (.perform (.finish id)) = some ⟨c, y.session.coordinator⟩ := by
      rw [completes_suspended told, taken]
      rfl
    refine answers_of_some ?_ ended
    rw [← Completion.finishRebuild_plan, plan]
    simp only [Session.perform, there, Session.finish, called]

theorem Agrees.answers {y : Ledger σ} {x : Chronicled σ} (h : Agrees y x) (tracked : x.Tracked)
    (step : Session.Step σ) (carries : y.session.carriesCall step = true) :
    (y.session.perform step).2 = .flag true ↔
      ∃ k, y.completes (.perform step) = some k ∧ k.succeeded = true := by
  cases step with
  | call call => exact y.answers_call call
  | start id call => exact y.answers_start id call
  | finish id => exact h.answers_finish tracked carries
  | _ => contradiction

theorem completes_call (y : Ledger σ) (call : Call) :
    (y.completes (.perform (.call call))).isSome =
      (!y.session.coordinator.rebuilding && !y.session.coordinator.disposed) := by
  let c := Session.prepare call y.session.coordinator
  have told : y.session.entries (.perform (.call call)) = c.wholeEntries := rfl
  obtain ⟨host, roots, tool, hp, -⟩ := Session.prepare_eq call y.session.coordinator
  have same : c.rebuilding = y.session.coordinator.rebuilding ∧
      c.disposed = y.session.coordinator.disposed := by
    simp only [c, hp, and_self]
  rw [← same.1, ← same.2]
  rcases c.barred_or_open with barred | ⟨free, live⟩
  · have none : y.session.concludes (.perform (.call call)) = false := by
      rw [Session.concludes, told, barred.wholeEntries]
      rfl
    rw [completes_none none]
    rcases barred with busy | late
    · simp [busy]
    · simp [late]
  · have whole : y.completes (.perform (.call call)) = some ⟨c, c.beginRebuild.1⟩ :=
      completes_whole rfl free live told
    rw [whole, free, live]
    rfl

/-- The account that the ledger gives of a session. -/
structure Accounts (y : Ledger σ) : Prop extends Balanced y where
  /-- A rebuild that takes the slot issues one search for each key that has no override, and
  is then suspended or comes to its end at once. -/
  issues : ∀ action, y.session.takes action = true →
    let c := y.session.source action
    c.rebuilding = false ∧ c.disposed = false ∧
      c.beginRebuild.1.host =
        Host.serve (c.searched.map fun key => .search key.tool key.root) c.host ∧
      (y.session.concludes action = false →
        (y.session.act action).coordinator = c.beginRebuild.1)
  /-- No other search is issued. -/
  quiet : ∀ action, y.session.takes action = false →
    (∀ change, action ≠ .perform (.host change)) →
      Asked (fun e => !e.isSearch) y.session.coordinator.host
        (y.session.act action).coordinator.host
  /-- The rebuild that is suspended is the one that took the slot last. -/
  suspended : ∀ rebuild ∈ y.session.suspended, ∃ c, y.taken = some c ∧ c.plan = rebuild
  /-- No rebuild is missed that comes to its end. -/
  complete : ∀ action, (y.completes action).isSome = y.session.concludes action
  runs : ∀ call, (y.completes (.perform (.call call))).isSome =
    (!y.session.coordinator.rebuilding && !y.session.coordinator.disposed)
  /-- Success is told of those rebuilds only that have got the slot, found the coordinator in
  use at their end, and had no search of theirs fail. -/
  answers : ∀ step : Session.Step σ, y.session.carriesCall step = true →
    ((y.session.perform step).2 = .flag true ↔
      ∃ k, y.completes (.perform step) = some k ∧ k.succeeded = true)
  kept : ∀ action, action ≠ .perform .dispose →
    (∀ k, y.completes action = some k → k.succeeded = false) →
      (y.session.act action).coordinator.cache = y.session.coordinator.cache ∧
        (y.session.act action).coordinator.appliedPaths = y.session.coordinator.appliedPaths

/-- At every moment of every run, the cache is what the last successful rebuild has made of
what it read at its start and of the answers to its own searches. -/
theorem run_accounts (host : σ) (settings : Settings) (roots : List ProjectRoot)
    (actions : List (Action σ)) : ((new host settings roots).run actions).Accounts := by
  have agrees : ∀ actions : List (Action σ), Agrees ((new host settings roots).run actions)
      ((Chronicled.new host settings roots).run actions) :=
    run_agrees (new_agrees host settings roots) (Chronicled.new_tracked host settings roots)
  have balanced : ∀ actions, ((new host settings roots).run actions).Balanced := fun actions =>
    (agrees actions).balanced (Chronicled.run_kept host settings roots actions)
      (Chronicled.run_sealed host settings roots actions)
  have tracked := Chronicled.run_tracked host settings roots actions
  have next : ∀ action, (((new host settings roots).run actions).act action).Balanced := by
    intro action
    have h := balanced (actions ++ [action])
    rwa [run_append] at h
  refine ⟨balanced actions, ?_, ?_, (agrees actions).suspended tracked,
    (agrees actions).completes_isSome tracked, completes_call _,
    (agrees actions).answers tracked, ?_⟩
  · intro action takes
    obtain ⟨free, live⟩ := Session.open_of_takes takes
    refine ⟨free, live, ?_, (Session.course _ action).suspended takes⟩
    rw [Coordinator.beginRebuild_eq free live]
  · exact fun action => (Session.course _ action).quiet
  · exact fun action => (balanced actions).kept (next action)

end Ledger

end FormatService
