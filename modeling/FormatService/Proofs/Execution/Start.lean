import FormatService.Execution
import FormatService.Proofs.Coordinator.Rebuilt

/-!
# How a run starts

The settings are looked up, and if they are there the tools are resolved once. Up to then
the host has only been asked to read, to search and to note something. On a steady host a
coordinator that was rebuilt comes of it.
-/

set_option autoImplicit false

namespace FormatService

open Host (Asked Steady replies)

theorem Event.preparing {e : Event} (h : (e.isRead || e.isSearch || e.isNote) = true) :
    e.isWrite = false ∧ e.isRun = false ∧ e.isLog = false ∧ e.isEmit = false := by
  cases e with
  | read path => exact ⟨rfl, rfl, rfl, rfl⟩
  | search tool root => exact ⟨rfl, rfl, rfl, rfl⟩
  | note text => exact ⟨rfl, rfl, rfl, rfl⟩
  | _ => contradiction

variable {σ : Type} [Host σ]

namespace Settings

theorem load_host (path : Path) (h : σ) : (load path h).2 =
    (Host.read path (Host.debug ("Resolving config from " ++ path.text) h)).2 := by
  rw [load]
  cases Host.read path (Host.debug ("Resolving config from " ++ path.text) h) with
  | mk answer h' =>
    cases answer with
    | error failure => rfl
    | ok text =>
      simp only
      split <;> rfl

theorem load_asked (path : Path) (h : σ) :
    Asked (fun e => e.isRead || e.isNote) h (load path h).2 := by
  have noted := Host.debug_asked ("Resolving config from " ++ path.text) h
  rw [load_host]
  exact (noted.mono fun e he => by rw [he, Bool.or_true]).trans (.one (.read path) rfl _)

theorem lookup_asked (asked : Option Path) (h : σ) :
    Asked (fun e => e.isRead || e.isNote) h (lookup asked h).2 := by
  cases asked with
  | some path =>
    rw [lookup]
    split
    · exact load_asked _ h
    · exact .refl h
  | none =>
    rw [lookup]
    split
    · exact load_asked _ h
    · exact (Host.debug_asked _ h).mono fun e he => by rw [he, Bool.or_true]

end Settings

namespace Execution

def place (h : σ) (file : String) : Path := Path.resolve (Host.directory h) ⟨file⟩

theorem place_congr {h h' : σ} (same : replies h' = replies h) : place h' = place h := by
  have directory : Host.directory h' = Host.directory h := congrArg Replies.directory same
  funext file
  rw [place, place, directory]

variable {h : σ} {asked : Option String}

def without : Settings.LookupFault → Ending
  | .invalid _ .numberTooLarge => .overflow
  | fault => .failed fault.failure

theorem without_ne_done (fault : Settings.LookupFault) : without fault ≠ .done := by
  cases fault with
  | invalid path fault => cases fault <;> nofun
  | _ => nofun

theorem coordinator_eq_of_error {fault : Settings.LookupFault} {h' : σ}
    (failed : Settings.lookup (asked.map Path.mk) h = (.error fault, h')) (tool : Option Tool)
    (projects : List String) :
    coordinator asked tool projects h = (.error (without fault), h') := by
  rw [coordinator, failed]
  cases fault with
  | invalid path fault => cases fault <;> rfl
  | _ => rfl

theorem coordinator_of_error {fault : Settings.LookupFault}
    (failed : (Settings.lookup (asked.map Path.mk) h).1 = .error fault) (tool : Option Tool)
    (projects : List String) :
    ∃ ending h', coordinator asked tool projects h = (.error ending, h') ∧ ending ≠ .done ∧
      Asked (fun e => e.isRead || e.isNote) h h' := by
  have looked := Settings.lookup_asked (asked.map Path.mk) h
  have start := coordinator_eq_of_error (Prod.ext failed rfl) tool projects
  exact ⟨_, _, start, without_ne_done fault, looked⟩

def unresolved (settings : Settings) (tool : Option Tool) (projects : List String) (h : σ) :
    Coordinator σ :=
  .new h { settings with tool := tool.getD settings.tool } (rootsFrom (Host.directory h) projects)

theorem coordinator_eq {settings : Settings} {h' : σ}
    (found : Settings.lookup (asked.map Path.mk) h = (.ok settings, h')) (tool : Option Tool)
    (projects : List String) :
    let c := (unresolved settings tool projects h').rebuild.1
    coordinator asked tool projects h = (.ok c, c.host) := by
  rw [coordinator, found]
  rfl

theorem coordinator_asked {settings : Settings} {h' : σ}
    (found : Settings.lookup (asked.map Path.mk) h = (.ok settings, h')) (tool : Option Tool)
    (projects : List String) :
    Asked (fun e => e.isRead || e.isSearch || e.isNote) h
      (unresolved settings tool projects h').rebuild.1.host := by
  have looked := Settings.lookup_asked (asked.map Path.mk) h
  rw [found] at looked
  have searched := (unresolved settings tool projects h').rebuild_asked
  exact (looked.mono fun e he => by grind).trans (searched.mono fun e he => by grind)

theorem coordinator_of_ok (steady : Steady h) {settings : Settings}
    (found : (Settings.lookup (asked.map Path.mk) h).1 = .ok settings) (tool : Option Tool)
    (projects : List String) :
    ∃ c, coordinator asked tool projects h = (.ok c, c.host) ∧ c.Rebuilt ∧
      Asked (fun e => e.isRead || e.isSearch || e.isNote) h c.host := by
  have looked := Settings.lookup_asked (asked.map Path.mk) h
  cases hl : Settings.lookup (asked.map Path.mk) h with
  | mk answer h' =>
    rw [hl] at found looked
    obtain rfl : answer = .ok settings := found
    have steady' : Steady h' := by
      obtain ⟨events, -, rfl⟩ := looked
      exact steady.serve events
    exact ⟨_, coordinator_eq hl tool projects, Coordinator.rebuild_rebuilt steady' rfl rfl,
      coordinator_asked hl tool projects⟩

variable {tool : Option Tool} {projects : List String}

open CommandLine in
theorem withCoordinator_of_ok {i : Invocation Text} {c : Coordinator σ} {h' : σ}
    (started : coordinator i.settings tool projects h = (.ok c, h'))
    (task : Coordinator σ → Ending × σ) : withCoordinator i tool projects task h = task c := by
  rw [withCoordinator, started]

open CommandLine in
theorem withCoordinator_of_error {i : Invocation Text} {ending : Ending} {h' : σ}
    (failed : coordinator i.settings tool projects h = (.error ending, h'))
    (task : Coordinator σ → Ending × σ) :
    withCoordinator i tool projects task h = (ending, h') := by
  rw [withCoordinator, failed]

end Execution

end FormatService
