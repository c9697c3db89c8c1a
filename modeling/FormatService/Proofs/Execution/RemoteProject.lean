import FormatService.Proofs.Coordinator.Overrides
import FormatService.Proofs.Execution.Pairing
import FormatService.Proofs.Execution.Start
import FormatService.Proofs.Path.Resolution
import FormatService.Proofs.Except

/-!
# Remote projects on a command line

A coordinator leaves out roots that are addresses of other machines. On a command line such an
address is taken for a path, as seen from the current directory, before a coordinator can tell.
So it counts like every other project: tools are searched for it, and files belong to it.
-/

set_option autoImplicit false

namespace FormatService

open Host (Hushed Quieter Steady)
open ProjectRoot (Thinned locals projectOf)

variable {σ : Type} [Host σ]

namespace Execution

open Coordinator (Accord accord_pairing)

theorem alike_of_accord {R : σ → σ → Prop} (quieter : Quieter R) {files : List Path} {file : Path}
    (mem : file ∈ files) : Alike (Accord R files) file := by
  intro c d accord text
  obtain ⟨command, here, there⟩ := accord.command file mem
  let r : Coordinator.Request := ⟨c.tool, some file, projectOf c.roots (some file)⟩
  have same : d.request (opened file text) none none = r := by
    change Coordinator.Request.mk d.tool (some file) (projectOf d.roots (some file)) = r
    rw [accord.tool, accord.project file mem]
  have first : c.command? r = some command := here
  have second : d.command? r = some command := there
  have looked : Accord R files (c.lookUp r) (d.lookUp r) ∧
      (d.lookUp r).command? r = (c.lookUp r).command? r := by
    rw [Coordinator.lookUp_of_known first, Coordinator.lookUp_of_known second, first, second]
    exact ⟨accord, rfl⟩
  exact (accord_pairing R files).format accord quieter same looked

/-- Whether a project on the command line is written as an address elsewhere. -/
def isRemote (project : String) : Bool := ProjectRoot.hasScheme project.toList

def withoutRemote (projects : List String) : List String := projects.filter (!isRemote ·)

variable {h h' : σ} {asked : Option String} {settings : Settings}

theorem coordinator_searches
    (found : Settings.lookup (asked.map Path.mk) h = (.ok settings, h')) (tool : Option Tool)
    (projects : List String) :
    ∃ notes, (∀ e ∈ notes, e.isNote = true) ∧
      let searched := (unresolved settings tool projects h').searched
      (coordinator asked tool projects h).2 =
        Host.serve (searched.map (fun key => .search key.tool key.root) ++ notes) h' := by
  rw [coordinator_eq found]
  exact Coordinator.rebuild_searches rfl rfl

/-- Tasks that format some of the files, with their projects left open. -/
inductive Formatting (tool : Option Tool) (files : List String) :
    (List String → CommandLine.Task Text) → Prop
  | files : Formatting tool files fun projects => .format tool projects files
  | input {file : String} (mem : file ∈ files) (text : Text) :
    Formatting tool files fun projects => .formatInput tool projects file text

section

variable {tool : Option Tool} {projects others files : List String}

def SameProjects (h : σ) (files projects others : List String) : Prop :=
  ∀ file ∈ files.map (place h), projectOf (rootsFrom (Host.directory h) others) (some file) =
    projectOf (rootsFrom (Host.directory h) projects) (some file)

theorem accord_of_unset (none : (unresolved settings tool projects h).unset = [])
    (named : ∀ t, settings.toolPaths.get t ≠ some "")
    (same : SameProjects h files projects others) :
    let c (given : List String) := (unresolved settings tool given h).rebuild.1
    Accord (Hushed h) (files.map (place h)) (c projects) (c others) := by
  intro c
  have none' : (unresolved settings tool others h).unset = [] := none
  obtain ⟨roots, active⟩ := (unresolved settings tool projects h).rebuild_roots_tool rfl rfl
  obtain ⟨roots', active'⟩ := (unresolved settings tool others h).rebuild_roots_tool rfl rfl
  refine ⟨?_, active'.trans active.symm, ?_, ?_⟩
  · obtain ⟨notes, quiet, served⟩ :=
      Coordinator.rebuild_searches (c := unresolved settings tool projects h) rfl rfl
    obtain ⟨notes', quiet', served'⟩ :=
      Coordinator.rebuild_searches (c := unresolved settings tool others h) rfl rfl
    rw [Coordinator.searched_of_unset none] at served
    rw [Coordinator.searched_of_unset none'] at served'
    rw [served, served']
    exact .of_notes quiet quiet'
  · rw [roots, roots']
    exact same
  · intro file mem
    obtain ⟨command, set⟩ :=
      Option.isSome_iff_exists.mp (Coordinator.unset_eq_nil_iff.mp none (c projects).tool)
    refine ⟨command, ?_, ?_⟩
    · rw [roots, Coordinator.resolved_of_unset rfl rfl none named]
      exact set
    · have project : projectOf (c projects).roots (some file) =
          projectOf (unresolved settings tool others h).roots (some file) :=
        (congrArg (projectOf · _) roots).trans (same file mem).symm
      rw [project, Coordinator.resolved_of_unset rfl rfl none' named]
      exact set

theorem run_of_unset (found : Settings.lookup (asked.map Path.mk) h = (.ok settings, h'))
    (steady : Steady h') (none : (unresolved settings tool projects h').unset = [])
    (named : ∀ t, settings.toolPaths.get t ≠ some "") (same : SameProjects h' files projects others)
    {task : List String → CommandLine.Task Text} (formats : Formatting tool files task)
    (level : LogLevel) :
    Matched Eq (Hushed h') (run ⟨task projects, level, asked⟩ h)
      (run ⟨task others, level, asked⟩ h) := by
  have accord := accord_of_unset none named same
  have quieter : Quieter (Hushed h') := Hushed.quieter steady
  let c := (unresolved settings tool projects h').rebuild.1
  have there : place c.host = place h' := place_congr (Coordinator.replies_rebuild steady)
  have alike : ∀ file ∈ files,
      Alike (Accord (Hushed h') (files.map (place h'))) (place c.host file) := by
    intro file mem
    rw [there]
    exact alike_of_accord quieter (List.mem_map_of_mem mem)
  have start (given : List String) := coordinator_eq found tool given
  cases formats with
  | files =>
    change Matched Eq _ (withCoordinator _ tool projects _ h) (withCoordinator _ tool others _ h)
    rw [withCoordinator_of_ok (start projects), withCoordinator_of_ok (start others)]
    exact format_paired quieter (accord_pairing _ _) accord alike
  | input mem text =>
    change Matched Eq _ (withCoordinator _ tool projects _ h) (withCoordinator _ tool others _ h)
    rw [withCoordinator_of_ok (start projects), withCoordinator_of_ok (start others)]
    exact formatInput_paired quieter (accord_pairing _ _) accord (alike _ mem) text

end

variable (directory : Path) (projects : List String)

def rootOf (project : String) : ProjectRoot := ⟨(directory.resolve ⟨project⟩).text⟩

theorem rootsFrom_thinned :
    Thinned (fun root => ∃ p ∈ projects, isRemote p = true ∧ root.path = directory.resolve ⟨p⟩)
      (rootsFrom directory projects) (rootsFrom directory (withoutRemote projects)) :=
  .map_filter (rootOf directory) fun p mem remote => ⟨p, mem, by simpa using remote, rfl⟩

theorem length_locals_lt_iff :
    (locals (rootsFrom directory (withoutRemote projects))).length <
        (locals (rootsFrom directory projects)).length ↔
      ∃ p ∈ projects, isRemote p = true := by
  let isHere (p : String) : Bool := (rootOf directory p).isLocal
  have here (projects : List String) :
      locals (rootsFrom directory projects) = (projects.filter isHere).map (rootOf directory) := by
    rw [locals, rootsFrom, List.filter_map]
    rfl
  rw [here, here, List.length_map, List.length_map, withoutRemote, List.filter_comm,
    List.length_filter_lt_length_iff_exists]
  constructor
  · rintro ⟨p, mem, remote⟩
    exact ⟨p, (List.mem_filter.mp mem).1, by simpa using remote⟩
  · rintro ⟨p, mem, remote⟩
    have there : isHere p = true := ProjectRoot.isLocal_resolve_of_hasScheme directory remote
    exact ⟨p, List.mem_filter.mpr ⟨mem, there⟩, by simpa using remote⟩

/-- The searches of a run are those that it would have without its remote projects just if there
are none, or nothing has to be searched for: a remote project has a search of its own for every
tool that is not set. The project of a file, in which its tool runs, is the one that it would
have without them, or it is one of them. Where it is not and nothing has to be searched for, all
that formatting asks of a steady host is the same, and so is the end. -/
theorem searched_withoutRemote_iff
    (found : Settings.lookup (asked.map Path.mk) h = (.ok settings, h')) (tool : Option Tool)
    (projects : List String) :
    let c (given : List String) := unresolved settings tool given h'
    let directory := Host.directory h'
    let here := withoutRemote projects
    (∀ given, ∃ notes, (∀ e ∈ notes, e.isNote = true) ∧
      (coordinator asked tool given h).2 =
        Host.serve ((c given).searched.map (fun key => .search key.tool key.root) ++ notes) h') ∧
    ((c projects).searched = (c here).searched ↔
      (∀ p ∈ projects, isRemote p = false) ∨ ∀ t, ((c projects).override? t).isSome = true) ∧
    (∀ p ∈ projects, isRemote p = true → ∀ t, (c projects).override? t = none →
      ⟨t, some (directory.resolve ⟨p⟩)⟩ ∈ (c projects).searched) ∧
    (∀ file, projectOf (c projects).roots file = projectOf (c here).roots file ∨
      ∃ p ∈ projects, isRemote p = true ∧
        projectOf (c projects).roots file = some (directory.resolve ⟨p⟩)) ∧
    (Steady h' → (∀ t, ((c projects).override? t).isSome = true) →
      (∀ t, settings.toolPaths.get t ≠ some "") →
      ∀ files, SameProjects h' files projects here → ∀ task, Formatting tool files task →
        ∀ level, Matched Eq (Hushed h') (run ⟨task projects, level, asked⟩ h)
          (run ⟨task here, level, asked⟩ h)) := by
  intro c directory here
  have unset : (c here).unset = (c projects).unset := rfl
  refine ⟨coordinator_searches found tool, ⟨?_, ?_⟩, ?_, ?_, ?_⟩
  · intro same
    by_contra wrong
    obtain ⟨remote, needed⟩ := not_or.mp wrong
    have some : (c projects).unset ≠ [] := fun none => needed (Coordinator.unset_eq_nil_iff.mp none)
    refine Coordinator.searched_ne unset some ?_ same
    exact (length_locals_lt_iff directory projects).mpr (by simpa using remote)
  · rintro (none | set)
    · have all : here = projects := by
        simpa [here, withoutRemote, List.filter_eq_self] using none
      rw [all]
    · have none := Coordinator.unset_eq_nil_iff.mpr set
      rw [Coordinator.searched_of_unset none, Coordinator.searched_of_unset (unset.trans none)]
  · intro p mem remote t needed
    have there : rootOf directory p ∈ locals (rootsFrom directory projects) :=
      List.mem_filter.mpr ⟨List.mem_map_of_mem mem,
        ProjectRoot.isLocal_resolve_of_hasScheme directory remote⟩
    rw [Coordinator.searched_of_local (List.ne_nil_of_mem there)]
    refine List.mem_flatMap_of_mem there (List.mem_map_of_mem ?_)
    exact List.mem_filter.mpr ⟨CacheKey.mem_all t, by rw [needed]; rfl⟩
  · intro file
    rcases (rootsFrom_thinned directory projects).projectOf_eq_or file with same | other
    · exact .inl same
    · obtain ⟨root, project, p, mem, remote, path⟩ := other
      exact .inr ⟨p, mem, remote, path ▸ project⟩
  · intro steady set named files same task formats
    exact run_of_unset found steady (Coordinator.unset_eq_nil_iff.mpr set) named same formats

def content : MemoryHost where
  directory := ⟨"/"⟩
  level := .silent
  files := [(⟨"/x.go"⟩, ['x'])]
  readOnly := []
  tools := [(.gofmt, none, "gofmt")]
  searchFault := .never
  commands := [("gofmt", ⟨none, 1, [], [], none, [], []⟩)]
  events := []

def configuration : Text :=
  "\x7b'toolPaths':\x7b'gofmt':'/g','goimports':'/g','goreturns':'/g'\x7d\x7d".toList

def overriding : Settings :=
  { Settings.default with toolPaths := ⟨some "/g", some "/g", some "/g"⟩ }

def configured : MemoryHost :=
  { content with
    files := [(⟨"/x.go"⟩, ['x']), (⟨"/g"⟩, []), (⟨"/goformat.json"⟩, configuration)] }

theorem parse_configuration : Settings.parse configuration = .ok overriding :=
  eq_ok_of_toOption (by decide +kernel)

theorem lookup_configured : Settings.lookup (Option.map Path.mk none) configured =
    (.ok overriding, configured.record (.read ⟨"/goformat.json"⟩)) := by
  have path : (Host.directory configured).join Settings.defaultFile = ⟨"/goformat.json"⟩ := by
    decide
  have there : Host.present ⟨"/goformat.json"⟩ configured = true := by decide
  have text : Host.read ⟨"/goformat.json"⟩ configured =
    (.ok configuration, configured.record (.read ⟨"/goformat.json"⟩)) := rfl
  have quiet (text : String) : Host.debug text configured = configured := rfl
  rw [Option.map_none, Settings.lookup]
  simp only [path, there, if_true]
  rw [Settings.load]
  simp only [quiet, text, parse_configuration]

theorem searched_withoutRemote_iff_address :
    let searched (projects : List String) := (unresolved .default none projects content).searched
    let formatted (projects : List String) :=
      run ⟨.format none projects ["/x.go"], .silent, none⟩ configured
    Settings.lookup none content = (.ok .default, content) ∧
      searched ["ssh://host/dir"] ≠ searched (withoutRemote ["ssh://host/dir"]) ∧
      Matched Eq (Hushed (configured.record (.read ⟨"/goformat.json"⟩)))
        (formatted ["/", "ssh://host/dir"])
        (formatted (withoutRemote ["/", "ssh://host/dir"])) := by
  intro searched formatted
  have found : Settings.lookup (Option.map Path.mk none) content = (.ok .default, content) := rfl
  refine ⟨found, fun same => ?_, ?_⟩
  · obtain ⟨-, exactly, -, -, -⟩ := searched_withoutRemote_iff found none ["ssh://host/dir"]
    rcases exactly.mp same with here | set
    · exact absurd (here _ List.mem_cons_self) (by decide)
    · exact absurd (set .gofmt) (by decide)
  · obtain ⟨-, -, -, -, whole⟩ :=
      searched_withoutRemote_iff lookup_configured none ["/", "ssh://host/dir"]
    refine whole (MemoryHost.steady _) ?_ ?_ ["/x.go"] ?_ _ .files .silent
    · intro tool
      cases tool <;> decide
    · intro tool
      cases tool <;> decide
    · simp only [SameProjects]
      decide

theorem remote_taken_for_path :
    let events (projects : List String) :=
      (run ⟨.format none projects ["/x.go"], .silent, none⟩ content).2.events
    let formatted (root : Option Path) (directory : Path) : List Event :=
      [.search .gofmt root, .search .goimports root, .search .goreturns root, .read ⟨"/x.go"⟩,
        .run "gofmt" ["-e"] directory ['x']]
    events ["ssh://host/dir"] = formatted (some ⟨"/ssh:/host/dir"⟩) ⟨"/ssh:/host/dir"⟩ ∧
      events (withoutRemote ["ssh://host/dir"]) = formatted none ⟨"/"⟩ := by
  decide

end Execution

end FormatService
