import Mathlib.Algebra.GroupWithZero.Nat
import FormatService.Proofs.Execution.File

/-!
# Files are formatted independently

All files of a run share one coordinator and one host. On a steady host neither carries
anything from one file to the next: what becomes of a file is settled when the run starts,
whichever files go before it, as long as none of them is at the same place.
-/

set_option autoImplicit false

namespace FormatService.Execution

open Host (Steady replies)

variable {σ : Type} [Host σ] {c : Coordinator σ}

/-- What becomes of a file and what is left of it, wherever the answers are those of the host of the
coordinator and the file reads as it does there. -/
def Fated (c : Coordinator σ) (file : Path) (result : FileResult) (left : Except Failure Text) :
    Prop :=
  ∀ (h : σ) (read : Path → Except Failure Text), Steady h →
    replies h = (replies c.host).reading read → read file = (replies c.host).read file →
    ∃ asked, formatFile file { c with host := h } =
        ({ c with host := Host.serve asked h }, result) ∧
      (∀ e ∈ asked, e.isLog = false ∧ e.isEmit = false) ∧
      replies (Host.serve asked h) = (replies c.host).reading (Function.update read file left)

theorem fated_of_unreadable {file : Path} {failure : Failure}
    (unread : (replies c.host).read file = .error failure) :
    Fated c file .failed (.error failure) := by
  intro h read steady same here
  rw [unread] at here
  have unread' : (replies h).read file = .error failure := by
    rw [same]
    exact here
  obtain ⟨asked, done, silent, kept⟩ :=
    formatFile_of_unreadable (c := { c with host := h }) steady unread'
  refine ⟨asked, done, silent, ?_⟩
  rw [← here, Function.update_eq_self]
  exact kept.trans same

theorem fated_of_text (rebuilt : c.Rebuilt) (steady : Steady c.host) {file : Path} {text : Text}
    (there : (replies c.host).read file = .ok text)
    (present : (replies c.host).present file = true) :
    let r := c.format (opened file text) none none
    let new := r.2.1.document.text
    let saved := (replies c.host).write file new
    Fated c file (.of r.2.2 saved)
      (.ok (if r.2.2 = .formatted ∧ saved = .ok () then new else text)) := by
  intro r new saved h read steady' same here
  have there' : (replies h).read file = .ok text := by
    rw [same]
    exact here.trans there
  have write : (replies h).write = (replies c.host).write := by rw [same]; rfl
  obtain ⟨outcome, written⟩ := rebuilt.format_move steady steady' same (b := opened file text) rfl
  obtain ⟨asked, done, silent, -, kept⟩ := formatFile_handles (c := { c with host := h })
    (rebuilt.move same) steady' there'
  simp only [outcome, written, write] at done kept
  refine ⟨asked, done, silent, ?_⟩
  have untouched : Function.update read file (.ok text) = read := by
    rw [← there, ← here, Function.update_eq_self]
  rw [kept]
  by_cases formatted : r.2.2 = .formatted
  · rw [if_pos formatted]
    cases hs : saved with
    | ok =>
      have present' : (replies h).present file = true := by
        rw [same]
        exact present
      have wrote : (replies h).write file new = .ok () := by rwa [write]
      rw [if_pos ⟨formatted, rfl⟩, Replies.after_write_of_ok wrote,
        Replies.filed_of_present present', same]
      rfl
    | error failure =>
      have missed : (replies h).write file new = .error failure := by rwa [write]
      rw [if_neg (by simp), untouched, Replies.after_write_of_error missed]
      exact same
  · rw [if_neg formatted, if_neg fun both => formatted both.1, untouched, same]

theorem exists_fated (rebuilt : c.Rebuilt) (steady : Steady c.host)
    (sound : (replies c.host).Sound) (file : Path) : ∃ result left, Fated c file result left := by
  cases there : (replies c.host).read file with
  | error failure => exact ⟨_, _, fated_of_unreadable there⟩
  | ok text => exact ⟨_, _, fated_of_text rebuilt steady there (sound file text there)⟩

theorem formatFiles_of_fated {result : Path → FileResult} {left : Path → Except Failure Text}
    (fated : ∀ file, Fated c file (result file) (left file)) {files : List Path}
    (distinct : files.Nodup) {h : σ} {read : Path → Except Failure Text} (steady : Steady h)
    (same : replies h = (replies c.host).reading read)
    (untouched : ∀ file ∈ files, read file = (replies c.host).read file) :
    ∃ asked, formatFiles files { c with host := h } =
        ({ c with host := Host.serve asked h }, files.map result) ∧
      (∀ e ∈ asked, e.isLog = false ∧ e.isEmit = false) ∧
      replies (Host.serve asked h) = (replies c.host).reading fun path =>
        if path ∈ files then left path else read path := by
  induction files generalizing h read with
  | nil =>
    refine ⟨[], rfl, by simp, ?_⟩
    simp only [List.not_mem_nil, if_false]
    exact same
  | cons file files ih =>
    obtain ⟨alone, distinct⟩ := List.nodup_cons.mp distinct
    obtain ⟨first, done, silent, kept⟩ :=
      fated file h read steady same (untouched file List.mem_cons_self)
    have untouched' : ∀ other ∈ files,
        Function.update read file (left file) other = (replies c.host).read other := by
      intro other ho
      have apart : other ≠ file := fun same => alone (same ▸ ho)
      rw [Function.update_of_ne apart]
      exact untouched other (List.mem_cons_of_mem _ ho)
    obtain ⟨asked, rest, silent', kept'⟩ := ih distinct (steady.serve first) kept untouched'
    refine ⟨first ++ asked, ?_, List.forall_mem_append.mpr ⟨silent, silent'⟩, ?_⟩
    · rw [formatFiles, done]
      simp only
      rw [rest, Host.serve_append]
      rfl
    · rw [Host.serve_append, kept']
      congr 1
      funext path
      by_cases same : path = file
      · rw [same, Function.update_self, ite_self, if_pos List.mem_cons_self]
      · rw [Function.update_of_ne same]
        simp only [List.mem_cons, same, false_or]

/-- A run ends with the verdict on its files, and says how many were written. -/
structure Tallied (h : σ) (ended : Ending × σ) (results : List FileResult) : Prop where
  ending : ended.1 = verdict (results.count .failed)
  log : ∃ asked, ended.2 = Host.serve asked h ∧
    asked.filter Event.isLog = announcement (results.count .written)

theorem Tallied.since {h h' : σ} {ended : Ending × σ} {results : List FileResult}
    {before : List Event} (tallied : Tallied h' ended results) (served : h' = Host.serve before h)
    (silent : ∀ e ∈ before, e.isLog = false) : Tallied h ended results := by
  obtain ⟨asked, served', log⟩ := tallied.log
  refine ⟨tallied.ending, before ++ asked, by rw [served', served, Host.serve_append], ?_⟩
  rw [List.filter_append, Event.filter_eq_nil silent, log, List.nil_append]

/-- Files at different places do not depend on one another: each is left with what a run on it alone
leaves there, the results of those runs add up, and the order of the files does not count. -/
structure Independent (place : String → Path) (ended : List String → Ending × σ)
    (results : List String → List FileResult) (files : List String) : Prop where
  left : ∀ file ∈ files, (Host.read (place file) (ended files).2).1 =
    (Host.read (place file) (ended [file]).2).1
  total : ∀ result, (results files).count result =
    (files.map fun file => (results [file]).count result).sum
  order : ∀ other, files.Perm other →
    (ended other).1 = (ended files).1 ∧ replies (ended other).2 = replies (ended files).2

theorem independent_of_const (place : String → Path) (ending : Ending × σ) (files : List String) :
    Independent place (fun _ => ending) (fun _ => []) files where
  left := fun _ _ => rfl
  total := fun result => by
    have none : ([] : List FileResult) = files.flatMap fun _ => [] := by simp
    exact (congrArg (List.count result) none).trans List.count_flatMap
  order := fun _ _ => ⟨rfl, rfl⟩

theorem independent_of_fates {place : String → Path} {ended : List String → Ending × σ}
    {results : List String → List FileResult} {result : Path → FileResult}
    {left : Path → Except Failure Text} {a : Replies}
    (outcomes : ∀ files, (files.map place).Nodup → results files = (files.map place).map result)
    (endings : ∀ files, (files.map place).Nodup →
      (ended files).1 = verdict ((results files).count .failed))
    (kept : ∀ files, (files.map place).Nodup → replies (ended files).2 =
      a.reading fun path => if path ∈ files.map place then left path else a.read path)
    {files : List String} (distinct : (files.map place).Nodup) :
    Independent place ended results files := by
  have one (file : String) : ([file].map place).Nodup := by simp
  refine ⟨?_, ?_, ?_⟩
  · intro file listed
    have mem : place file ∈ files.map place := List.mem_map_of_mem listed
    change (replies (ended files).2).read (place file) =
      (replies (ended [file]).2).read (place file)
    rw [kept files distinct, kept [file] (one file)]
    exact (if_pos mem).trans (if_pos List.mem_cons_self).symm
  · intro r
    have flat : results files = files.flatMap fun file => results [file] := by
      simp only [outcomes files distinct, outcomes _ (one _)]
      rw [List.map_map, List.map_eq_flatMap]
      rfl
    rw [flat, List.count_flatMap]
    rfl
  · intro other perm
    have moved : (files.map place).Perm (other.map place) := perm.map place
    have distinct' : (other.map place).Nodup := moved.nodup_iff.mp distinct
    have failures : (results other).count .failed = (results files).count .failed := by
      rw [outcomes files distinct, outcomes other distinct', (moved.map result).count_eq]
    refine ⟨by rw [endings files distinct, endings other distinct', failures], ?_⟩
    rw [kept files distinct, kept other distinct']
    simp only [moved.mem_iff]

theorem format_of_fated {result : Path → FileResult} {left : Path → Except Failure Text}
    (fated : ∀ file, Fated c file (result file) (left file)) (steady : Steady c.host)
    {files : List String} (distinct : (files.map (place c.host)).Nodup) :
    (formatFiles (files.map (place c.host)) c).2 = (files.map (place c.host)).map result ∧
      Tallied c.host (format files c) ((files.map (place c.host)).map result) ∧
      replies (format files c).2 = (replies c.host).reading fun path =>
        if path ∈ files.map (place c.host) then left path else (replies c.host).read path := by
  let paths := files.map (place c.host)
  obtain ⟨asked, done, silent, kept⟩ :=
    formatFiles_of_fated fated distinct steady rfl fun _ _ => rfl
  change formatFiles paths c = (_, paths.map result) at done
  have ended : format files c = (verdict ((formatFiles paths c).2.count .failed),
      announce ((formatFiles paths c).2.count .written) (formatFiles paths c).1.host) := rfl
  rw [done, announce_eq, ← Host.serve_append] at ended
  refine ⟨congrArg Prod.snd done, ⟨congrArg Prod.fst ended, _, congrArg Prod.snd ended, ?_⟩, ?_⟩
  · have none : asked.filter Event.isLog = [] := Event.filter_eq_nil fun e he => (silent e he).1
    rw [List.filter_append, none, filter_isLog_announcement, List.nil_append]
  · rw [ended, Host.serve_append, (steady.serve asked).quiet (not_isWrite_announcement _)]
    exact kept

theorem format_tallied (rebuilt : c.Rebuilt) (steady : Steady c.host)
    (sound : (replies c.host).Sound) {files : List String}
    (distinct : (files.map (place c.host)).Nodup) :
    Tallied c.host (format files c) (formatFiles (files.map (place c.host)) c).2 := by
  choose result left fated using exists_fated rebuilt steady sound
  obtain ⟨outcomes, tallied, -⟩ := format_of_fated fated steady distinct
  rw [outcomes]
  exact tallied

theorem format_independent (rebuilt : c.Rebuilt) (steady : Steady c.host)
    (sound : (replies c.host).Sound) {files : List String}
    (distinct : (files.map (place c.host)).Nodup) :
    Independent (place c.host) (fun files => format files c)
      (fun files => (formatFiles (files.map (place c.host)) c).2) files := by
  choose result left fated using exists_fated rebuilt steady sound
  refine independent_of_fates (fun _ hn => (format_of_fated fated steady hn).1) (fun _ hn => ?_)
    (fun _ hn => (format_of_fated fated steady hn).2.2) distinct
  exact (format_tallied rebuilt steady sound hn).ending

/-- What becomes of the files of a run, in their order; without a coordinator it comes to none. -/
def results (settings : Option String) (tool : Option Tool) (projects files : List String)
    (h : σ) : List FileResult :=
  match (coordinator settings tool projects h).1 with
  | .ok c => (formatFiles (files.map (place c.host)) c).2
  | .error _ => []

/-- The files of a run do not depend on one another. The results that add up are those that a run
ends with and speaks of, if it gets as far as that. -/
theorem run_independent {h : σ} (steady : Steady h) (sound : (replies h).Sound)
    (tool : Option Tool) (projects : List String) (level : LogLevel) (settings : Option String)
    {files : List String} (distinct : (files.map (place h)).Nodup) :
    let ended files := run ⟨.format tool projects files, level, settings⟩ h
    let results files := results settings tool projects files h
    Independent (place h) ended results files ∧
      ∀ found, (Settings.lookup (settings.map Path.mk) h).1 = .ok found →
        Tallied h (ended files) (results files) ∧
          ∀ file ∈ files, Tallied h (ended [file]) (results [file]) := by
  intro ended results
  cases looked : (Settings.lookup (settings.map Path.mk) h).1 with
  | error fault =>
    obtain ⟨ending, h', failed, -, -⟩ := coordinator_of_error looked tool projects
    have ended_eq : ended = fun _ => (ending, h') :=
      funext fun _ => withCoordinator_of_error failed _
    have results_eq : results = fun _ => [] := by
      unfold results
      simp only [Execution.results, failed]
    rw [ended_eq, results_eq]
    exact ⟨independent_of_const _ _ files, nofun⟩
  | ok found =>
    obtain ⟨c, started, rebuilt, before, kinds, served⟩ :=
      coordinator_of_ok steady looked tool projects
    have ended_eq : ended = fun files => format files c :=
      funext fun _ => withCoordinator_of_ok started _
    have results_eq : results = fun files => (formatFiles (files.map (place c.host)) c).2 := by
      unfold results
      simp only [Execution.results, started]
    have same : replies c.host = replies h := by
      rw [served]
      exact steady.quiet fun e he => (Event.preparing (kinds e he)).1
    have steady' : Steady c.host := served ▸ steady.serve before
    have silent : ∀ e ∈ before, e.isLog = false := fun e he => (Event.preparing (kinds e he)).2.2.1
    rw [← place_congr same] at distinct ⊢
    rw [← same] at sound
    rw [ended_eq, results_eq]
    refine ⟨format_independent rebuilt steady' sound distinct, fun _ _ => ⟨?_, fun file _ => ?_⟩⟩
    · exact (format_tallied rebuilt steady' sound distinct).since served silent
    · have one : ([file].map (place c.host)).Nodup := by simp
      exact (format_tallied rebuilt steady' sound one).since served silent

def mixed : MemoryHost where
  directory := ⟨"/a"⟩
  level := .info
  files := [(⟨"/a/x.go"⟩, ['x']), (⟨"/a/y.go"⟩, ['y'])]
  readOnly := [⟨"/a/y.go"⟩]
  tools := [(.gofmt, none, "gofmt")]
  searchFault := .never
  commands := [("gofmt", ⟨none, 0, [], [], none, [], ['\n']⟩)]
  events := []

/-- A third file is not there, and it does not matter which comes first. -/
theorem run_independent_mixed :
    let ended files := run ⟨.format none [] files, .info, none⟩ mixed
    let failed files := (results none none [] files mixed).count .failed
    (["x.go", "y.go", "z.go"].map (place mixed)).Nodup ∧
      (Host.read (place mixed "x.go") (ended ["x.go", "y.go", "z.go"]).2).1 =
        (Host.read (place mixed "x.go") (ended ["x.go"]).2).1 ∧
      failed ["x.go", "y.go", "z.go"] = failed ["x.go"] + (failed ["y.go"] + failed ["z.go"]) ∧
      (ended ["z.go", "y.go", "x.go"]).1 = (ended ["x.go", "y.go", "z.go"]).1 := by
  intro ended failed
  have distinct : (["x.go", "y.go", "z.go"].map (place mixed)).Nodup := by decide
  obtain ⟨independent, -⟩ := run_independent (MemoryHost.steady mixed)
    (MemoryHost.sound mixed) none [] .info none distinct
  refine ⟨distinct, independent.left "x.go" List.mem_cons_self, independent.total .failed, ?_⟩
  exact (independent.order _ (List.reverse_perm _).symm).1

end FormatService.Execution
