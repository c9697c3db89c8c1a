import FormatService.Machine.Program
import FormatService.Proofs.Execution.File
import FormatService.Proofs.Host.Filing

/-!
# The accounts of a run over files

Every file that is named is visited once, in order, whatever came of the ones before it. A
visit reads the file, formats its text and writes a new text if there is one. What a run
asks for, says and ends with, and what it leaves in the files, is what its visits add up to,
on every kind of host.
-/

set_option autoImplicit false

namespace FormatService

open Host (Asked Filing)

theorem Event.not_isRead_of_work {e : Event} (h : (e.isSearch || e.isRun || e.isNote) = true) :
    e.isRead = false := by
  cases e with
  | read path => contradiction
  | _ => rfl

theorem Coordinator.format_work {σ : Type} [Host σ] {b : Buffer}
    (editable : b.document.editable = true) (c : Coordinator σ) :
    Asked (fun e => e.isSearch || e.isRun || e.isNote) c.host (c.format b none none).1.host := by
  have looked := c.lookUp_asked (c.request b none none)
  have formats := format_formats editable none none c
  exact (looked.mono fun e he => by grind).trans (formats.asked.mono fun e he => by grind)

namespace Execution

inductive Visit
  | unread (failure : Failure)
  /-- There is no new text for the file. -/
  | kept (outcome : Outcome)
  /-- There is a new text, and it was attempted to write it. -/
  | replaced (text : Text) (answer : Except Failure Unit)

namespace Visit

def failed : Visit → Bool
  | unread _ => true
  | kept outcome => outcome = .toolNotFound ∨ outcome = .failed
  | replaced _ (.ok ()) => false
  | replaced _ (.error _) => true

def offered? : Visit → Option Text
  | replaced text _ => some text
  | _ => none

def saved? : Visit → Option Text
  | replaced text answer => answer.toOption.map fun _ => text
  | _ => none

def result (visit : Visit) : FileResult :=
  if visit.failed then .failed else if visit.saved?.isSome then .written else .kept

theorem result_eq_failed_iff (visit : Visit) : visit.result = .failed ↔ visit.failed = true := by
  rw [result]
  split
  · simp_all
  · split <;> simp_all

theorem result_eq_written_iff (visit : Visit) :
    visit.result = .written ↔ visit.saved?.isSome = true := by
  cases visit with
  | unread failure => simp [result, failed, saved?]
  | kept outcome => cases outcome <;> simp [result, failed, saved?]
  | replaced text answer => cases answer <;> simp [result, failed, saved?, Except.toOption]

end Visit

variable {σ : Type} [Host σ] {c c' c'' : Coordinator σ} {file : Path}

/-- What comes of a file, from a coordinator as it is when the turn of the file comes. -/
inductive Befalls (c : Coordinator σ) (file : Path) : Visit → Prop
  | unread {failure : Failure} {h : σ} (unreadable : Host.read file c.host = (.error failure, h)) :
      Befalls c file (.unread failure)
  | kept {text : Text} {h : σ} {c' : Coordinator σ} {b : Buffer} {outcome : Outcome}
      (there : Host.read file c.host = (.ok text, h))
      (formatted : Coordinator.format (opened file text) none none { c with host := h } =
        (c', b, outcome))
      (other : outcome ≠ .formatted) : Befalls c file (.kept outcome)
  | replaced {text : Text} {h : σ} {c' : Coordinator σ} {b : Buffer}
      (there : Host.read file c.host = (.ok text, h))
      (formatted : Coordinator.format (opened file text) none none { c with host := h } =
        (c', b, .formatted)) :
      Befalls c file (.replaced b.document.text (Host.write file b.document.text c'.host).1)

/-- A visit to a file, with all that is asked for on the way. -/
structure Visited (c : Coordinator σ) (file : Path) (visit : Visit) (asked : List Event)
    (c' : Coordinator σ) : Prop where
  befalls : Befalls c file visit
  served : c'.host = Host.serve asked c.host
  reads : asked.filter Event.isRead = [.read file]
  writes : asked.filter Event.isWrite = (visit.offered?.map (.write file)).toList
  silent : ∀ e ∈ asked, e.isLog = false
  files : ∀ {view : σ → Path → Option Text}, Filing view →
    view c'.host = visit.saved?.elim (view c.host) fun text =>
      Function.update (view c.host) file (some text)

theorem visited_of_trace {visit : Visit} {work notes : List Event} (befalls : Befalls c file visit)
    (working : ∀ e ∈ work ++ notes, (e.isSearch || e.isRun || e.isNote) = true)
    (served : c'.host = Host.serve
      (.read file :: (work ++ (visit.offered?.map (.write file)).toList ++ notes)) c.host)
    (files : ∀ {view : σ → Path → Option Text}, Filing view →
      view c'.host = visit.saved?.elim (view c.host) fun text =>
        Function.update (view c.host) file (some text)) :
    ∃ asked, Visited c file visit asked c' := by
  have quiet := fun e he => Event.harmless (working e he)
  have reads : (work ++ notes).filter Event.isRead = [] :=
    Event.filter_eq_nil fun e he => Event.not_isRead_of_work (working e he)
  have writes : (work ++ notes).filter Event.isWrite = [] :=
    Event.filter_eq_nil fun e he => (quiet e he).1
  rw [List.filter_append, List.append_eq_nil_iff] at reads writes
  refine ⟨_, befalls, served, ?_, ?_, ?_, files⟩
  · rw [List.filter_cons_of_pos rfl, List.filter_append, List.filter_append, reads.1, reads.2]
    cases visit <;> rfl
  · rw [List.filter_cons_of_neg (by simp [Event.isWrite]), List.filter_append, List.filter_append,
      writes.1, writes.2]
    cases visit <;> rfl
  · simp only [List.forall_mem_cons, List.forall_mem_append] at quiet ⊢
    refine ⟨rfl, ⟨fun e he => (quiet.1 e he).2.1, ?_⟩, fun e he => (quiet.2 e he).2.1⟩
    cases visit <;> simp [Visit.offered?, Event.isLog]

theorem visited_of_quiet {visit : Visit} {work : List Event} (befalls : Befalls c file visit)
    (none : visit.offered? = none)
    (working : ∀ e ∈ work, (e.isSearch || e.isRun || e.isNote) = true)
    (served : c'.host = Host.serve (.read file :: work) c.host) :
    ∃ asked, Visited c file visit asked c' := by
  have unsaved : visit.saved? = .none := by cases visit <;> simp_all [Visit.offered?, Visit.saved?]
  have alone : ∀ e ∈ work ++ [], (e.isSearch || e.isRun || e.isNote) = true := by
    rwa [List.append_nil]
  refine visited_of_trace befalls alone (by simpa [none]) ?_
  intro view filing
  rw [served, unsaved, filing.quiet]
  · rfl
  · exact List.forall_mem_cons.mpr ⟨rfl, fun e he => (Event.harmless (working e he)).1⟩

theorem visited_of_saved {text : Text} {h : σ} {b : Buffer} {work notes : List Event}
    (there : Host.read file c.host = (.ok text, h))
    (formatted : Coordinator.format (opened file text) none none { c with host := h } =
      (c', b, .formatted))
    (working : ∀ e ∈ work ++ notes, (e.isSearch || e.isRun || e.isNote) = true)
    (before : c'.host = Host.serve (.read file :: work) c.host)
    (served : c''.host = Host.serve (.write file b.document.text :: notes) c'.host) :
    ∃ asked,
      Visited c file (.replaced b.document.text (Host.write file b.document.text c'.host).1) asked
        c'' := by
  have quiet := fun e he => (Event.harmless (working e he)).1
  simp only [List.forall_mem_append] at quiet
  refine visited_of_trace (.replaced there formatted) working ?_ ?_
  · rw [served, before, ← Host.serve_append]
    simp [Visit.offered?]
  · intro view filing
    have unchanged : view c'.host = view c.host := by
      rw [before, filing.quiet]
      exact List.forall_mem_cons.mpr ⟨rfl, quiet.1⟩
    rw [served, ← List.singleton_append, Host.serve_append, filing.quiet quiet.2, ← unchanged]
    exact filing.write file b.document.text c'.host

theorem formatText_visited {text : Text} {h : σ}
    (there : Host.read file c.host = (.ok text, h)) :
    ∃ visit asked, Visited c file visit asked (formatText file text { c with host := h }).1 ∧
      (formatText file text { c with host := h }).2 = visit.result := by
  have read : h = Host.serve [.read file] c.host := (congrArg Prod.snd there).symm
  obtain ⟨work, working, worked⟩ :=
    Coordinator.format_work (b := opened file text) rfl { c with host := h }
  rw [formatText]
  cases formatted : Coordinator.format (opened file text) none none { c with host := h } with
  | mk c' rest =>
    obtain ⟨b, outcome⟩ := rest
    have before : c'.host = Host.serve (.read file :: work) c.host := by
      rw [formatted, read, ← Host.serve_append] at worked
      exact worked
    have left (other : outcome ≠ .formatted) : Befalls c file (.kept outcome) :=
      .kept there formatted other
    obtain ⟨notes, complained, kinds⟩ := fail_trace c' ("Error formatting " ++ file.text)
    have reported : ∀ e ∈ work ++ notes, (e.isSearch || e.isRun || e.isNote) = true :=
      List.forall_mem_append.mpr ⟨working, fun e he => by rw [kinds e he, Bool.or_true]⟩
    have report : (c'.onHost (Host.complain ("Error formatting " ++ file.text))).host =
        Host.serve (.read file :: (work ++ notes)) c.host := by
      rw [complained, ← List.cons_append, Host.serve_append, ← before]
    rw [opened] at formatted
    rw [formatted]
    cases outcome with
    | formatted =>
      obtain ⟨notes, saved, kinds⟩ := save_trace file b.document.text c'
      have done : ∀ e ∈ work ++ notes, (e.isSearch || e.isRun || e.isNote) = true :=
        List.forall_mem_append.mpr ⟨working, fun e he => by rw [kinds e he, Bool.or_true]⟩
      obtain ⟨asked, visited⟩ := visited_of_saved there formatted done before
        (congrArg (·.1.host) saved)
      refine ⟨_, asked, visited, (congrArg Prod.snd saved).trans ?_⟩
      cases (Host.write file b.document.text c'.host).1 <;> rfl
    | unchanged =>
      obtain ⟨asked, visited⟩ := visited_of_quiet (left (by decide)) rfl working before
      exact ⟨_, asked, visited, rfl⟩
    | skipped =>
      obtain ⟨asked, visited⟩ := visited_of_quiet (left (by decide)) rfl working before
      exact ⟨_, asked, visited, rfl⟩
    | toolNotFound =>
      obtain ⟨asked, visited⟩ := visited_of_quiet (left (by decide)) rfl reported report
      exact ⟨_, asked, visited, rfl⟩
    | failed =>
      obtain ⟨asked, visited⟩ := visited_of_quiet (left (by decide)) rfl reported report
      exact ⟨_, asked, visited, rfl⟩

theorem formatFile_visited (file : Path) (c : Coordinator σ) :
    ∃ visit asked, Visited c file visit asked (formatFile file c).1 ∧
      (formatFile file c).2 = visit.result := by
  rw [formatFile]
  cases there : Host.read file c.host with
  | mk answer h =>
    cases answer with
    | error failure =>
      have read : h = Host.serve [.read file] c.host := (congrArg Prod.snd there).symm
      obtain ⟨notes, failed, kinds⟩ := fail_trace { c with host := h } failure.message
      let ended : Coordinator σ := { c with host := Host.complain failure.message h }
      have report : ended.host = Host.serve (.read file :: notes) c.host := by
        rw [← List.singleton_append, Host.serve_append, ← read]
        exact congrArg Coordinator.host failed
      obtain ⟨asked, visited⟩ := visited_of_quiet (.unread there) rfl
        (fun e he => by rw [kinds e he, Bool.or_true]) report
      exact ⟨_, asked, visited, rfl⟩
    | ok text => exact formatText_visited there

/-- Visits to all files that are named, one after the other. -/
inductive Tour : Coordinator σ → List Path → List Visit → List Event → Coordinator σ → Prop
  | nil (c : Coordinator σ) : Tour c [] [] [] c
  | cons {c c' c'' : Coordinator σ} {file : Path} {files : List Path} {visit : Visit}
      {visits : List Visit} {asked more : List Event} (visited : Visited c file visit asked c')
      (rest : Tour c' files visits more c'') :
      Tour c (file :: files) (visit :: visits) (asked ++ more) c''

theorem formatFiles_tour (files : List Path) (c : Coordinator σ) :
    ∃ visits asked, Tour c files visits asked (formatFiles files c).1 ∧
      (formatFiles files c).2 = visits.map Visit.result := by
  induction files generalizing c with
  | nil => exact ⟨[], [], .nil c, rfl⟩
  | cons file files ih =>
    obtain ⟨visit, asked, visited, result⟩ := formatFile_visited file c
    obtain ⟨visits, more, rest, results⟩ := ih (formatFile file c).1
    exact ⟨visit :: visits, asked ++ more, .cons visited rest, congrArg₂ List.cons result results⟩

def gather (text? : Visit → Option Text) (files : List Path) (visits : List Visit) :
    List (Path × Text) :=
  (files.zip visits).flatMap fun (file, visit) => ((text? visit).map (file, ·)).toList

theorem gather_cons (text? : Visit → Option Text) (file : Path) (files : List Path)
    (visit : Visit) (visits : List Visit) : gather text? (file :: files) (visit :: visits) =
      ((text? visit).map (file, ·)).toList ++ gather text? files visits :=
  List.flatMap_cons

namespace Tour

variable {files : List Path} {visits : List Visit} {asked : List Event}

theorem length_eq (tour : Tour c files visits asked c') : visits.length = files.length := by
  induction tour with
  | nil c => rfl
  | cons visited rest ih => rw [List.length_cons, List.length_cons, ih]

theorem served (tour : Tour c files visits asked c') : c'.host = Host.serve asked c.host := by
  induction tour with
  | nil c => rfl
  | cons visited rest ih => rw [ih, visited.served, Host.serve_append]

theorem reads (tour : Tour c files visits asked c') :
    asked.filter Event.isRead = files.map .read := by
  induction tour with
  | nil c => rfl
  | cons visited rest ih => rw [List.filter_append, visited.reads, ih]; rfl

theorem writes (tour : Tour c files visits asked c') :
    asked.filter Event.isWrite = 
      (gather Visit.offered? files visits).map fun w => .write w.1 w.2 := by
  induction tour with
  | nil c => rfl
  | @cons c c' c'' file files visit visits asked more visited rest ih =>
    rw [List.filter_append, visited.writes, ih, gather_cons, List.map_append]
    cases visit.offered? <;> rfl

theorem silent (tour : Tour c files visits asked c') : ∀ e ∈ asked, e.isLog = false := by
  induction tour with
  | nil c => exact fun _ he => absurd he List.not_mem_nil
  | cons visited rest ih => exact List.forall_mem_append.mpr ⟨visited.silent, ih⟩

theorem files_eq (tour : Tour c files visits asked c') {view : σ → Path → Option Text}
    (filing : Filing view) (path : Path) :
    view c'.host path =
      ((gather Visit.saved? files visits).reverse.lookup path).or (view c.host path) := by
  induction tour with
  | nil c => rfl
  | @cons c c' c'' file files visit visits asked more visited rest ih =>
    rw [ih, visited.files filing, gather_cons, List.reverse_append, List.lookup_append]
    cases visit.saved? with
    | none => simp
    | some text =>
      by_cases same : path = file
      · simp [same]
      · simp [same, List.lookup_cons, beq_eq_false_iff_ne.mpr same]

theorem count_written (tour : Tour c files visits asked c') :
    (visits.map Visit.result).count .written = (gather Visit.saved? files visits).length := by
  induction tour with
  | nil c => rfl
  | @cons c c' c'' file files visit visits asked more visited rest ih =>
    rw [List.map_cons, List.count_cons, ih, gather_cons, List.length_append, Nat.add_comm]
    have counts := visit.result_eq_written_iff
    cases hs : visit.saved? with
    | none => simp_all
    | some text => simp_all

end Tour

theorem count_failed (visits : List Visit) :
    (visits.map Visit.result).count .failed = visits.countP Visit.failed := by
  rw [List.count, List.countP_map]
  exact List.countP_congr fun visit _ => beq_iff_eq.trans visit.result_eq_failed_iff

/-- What a run over files comes to by the visits that it makes. -/
structure Accounted (h : σ) (files : List Path) (visits : List Visit) (asked : List Event)
    (ended : Ending × σ) : Prop where
  served : ended.2 = Host.serve asked h
  writes : asked.filter Event.isWrite =
    (gather Visit.offered? files visits).map fun w => .write w.1 w.2
  log : asked.filter Event.isLog = announcement (gather Visit.saved? files visits).length
  done : ended.1 = .done ↔ ∀ visit ∈ visits, visit.failed = false
  failed : ended.1 ≠ .done → ended.1 = .failed
    ⟨["Had " ++ counted (visits.countP Visit.failed) "error" "errors" ++ " formatting."]⟩
  exitCode : ∀ m, (Machine.finish (ended.1, m)).1 = if ended.1 = .done then 0 else 1
  files : ∀ view : σ → Path → Option Text, Filing view → ∀ path,
    view ended.2 path = ((gather Visit.saved? files visits).reverse.lookup path).or (view h path)

theorem verdict_accounted (visits : List Visit) :
    let ending := verdict (visits.countP Visit.failed)
    (ending = .done ↔ ∀ visit ∈ visits, visit.failed = false) ∧
      (ending ≠ .done → ending = .failed
        ⟨["Had " ++ counted (visits.countP Visit.failed) "error" "errors" ++ " formatting."]⟩) ∧
      ∀ m, (Machine.finish (ending, m)).1 = if ending = .done then 0 else 1 := by
  intro ending
  have done : ending = .done ↔ ∀ visit ∈ visits, visit.failed = false := by
    simp [ending, verdict_eq_done_iff, List.countP_eq_zero]
  refine ⟨done, ?_⟩
  unfold ending
  rw [verdict]
  split
  · exact ⟨fun other => absurd rfl other, fun _ => rfl⟩
  · exact ⟨fun _ => rfl, fun _ => rfl⟩

/-- A run over files whose settings are there visits each of them in turn, and its visits account
for all that it does, says and leaves behind. -/
theorem run_accounted {h : σ} {settings : Option String} {loaded : Settings}
    (found : (Settings.lookup (settings.map Path.mk) h).1 = .ok loaded) (tool : Option Tool)
    (projects files : List String) (level : LogLevel) :
    ∃ c c' before visits asked, coordinator settings tool projects h = (.ok c, c.host) ∧
      c.host = Host.serve before h ∧ (∀ e ∈ before, (e.isRead || e.isSearch || e.isNote) = true) ∧
      Tour c (files.map (place c.host)) visits asked c' ∧
      asked.filter Event.isRead = files.map (.read ∘ place c.host) ∧
      Accounted h (files.map (place c.host)) visits (before ++ asked ++
          announcement (gather Visit.saved? (files.map (place c.host)) visits).length)
        (run ⟨.format tool projects files, level, settings⟩ h) := by
  obtain ⟨h', looked⟩ : ∃ h', Settings.lookup (settings.map Path.mk) h = (.ok loaded, h') :=
    ⟨_, Prod.ext found rfl⟩
  have started := coordinator_eq looked tool projects
  obtain ⟨before, kinds, resolved⟩ := coordinator_asked looked tool projects
  generalize (unresolved loaded tool projects h').rebuild.1 = c at started resolved
  obtain ⟨visits, asked, tour, results⟩ := formatFiles_tour (files.map (place c.host)) c
  have quiet := fun e he => Event.preparing (kinds e he)
  have ended : run ⟨.format tool projects files, level, settings⟩ h =
      (verdict (visits.countP Visit.failed), Host.serve (before ++ asked ++
        announcement (gather Visit.saved? (files.map (place c.host)) visits).length) h) := by
    have formatted : format files c =
        (verdict ((formatFiles (files.map (place c.host)) c).2.count .failed),
          announce ((formatFiles (files.map (place c.host)) c).2.count .written)
            (formatFiles (files.map (place c.host)) c).1.host) := rfl
    have reached : (formatFiles (files.map (place c.host)) c).1.host =
        Host.serve (before ++ asked) h := by rw [tour.served, resolved, Host.serve_append]
    rw [results, count_failed, tour.count_written, announce_eq, reached,
      ← Host.serve_append] at formatted
    exact (withCoordinator_of_ok started _).trans formatted
  obtain ⟨done, failed, exitCode⟩ := verdict_accounted visits
  refine ⟨c, _, before, visits, asked, started, resolved, kinds, tour, ?_, ?_⟩
  · rw [tour.reads, List.map_map]
  · rw [ended]
    refine ⟨rfl, ?_, ?_, done, failed, exitCode, fun view filing path => ?_⟩
    · rw [List.filter_append, List.filter_append, tour.writes,
        Event.filter_eq_nil fun e he => (quiet e he).1,
        Event.filter_eq_nil (not_isWrite_announcement _), List.nil_append, List.append_nil]
    · rw [List.filter_append, List.filter_append, Event.filter_eq_nil tour.silent,
        Event.filter_eq_nil fun e he => (quiet e he).2.2.1, filter_isLog_announcement]
      rfl
    · rw [Host.serve_append, filing.quiet (not_isWrite_announcement _), Host.serve_append,
        ← resolved, ← tour.served, tour.files_eq filing, resolved,
        filing.quiet fun e he => (quiet e he).1]

/-- Two files, of which one cannot be written, and a third one that is not there. -/
def repeated : MemoryHost where
  directory := ⟨"/a"⟩
  level := .info
  files := [(⟨"/a/x.go"⟩, ['x']), (⟨"/a/y.go"⟩, ['y'])]
  readOnly := [⟨"/a/y.go"⟩]
  tools := [(.gofmt, none, "gofmt")]
  searchFault := .never
  commands := [("gofmt", ⟨none, 0, [], [], none, [], ['\n']⟩)]
  events := []

/-- What the visits account for is the record that the host keeps, and the files that it has. -/
theorem run_accounted_repeated :
    let named := ["x.go", "z.go", "./y.go", "/a//x.go"]
    let files : List Path := [⟨"/a/x.go"⟩, ⟨"/a/z.go"⟩, ⟨"/a/y.go"⟩, ⟨"/a/x.go"⟩]
    let ended := run ⟨.format none [] named, .info, none⟩ repeated
    (Settings.lookup none repeated).1 = .ok .default ∧
      ∃ visits, visits.length = 4 ∧ Accounted repeated files visits ended.2.events ended ∧
        ∀ path, ended.2.file? path =
          ((gather Visit.saved? files visits).reverse.lookup path).or (repeated.file? path) := by
  intro named files ended
  have found : (Settings.lookup (Option.map Path.mk none) repeated).1 = .ok .default := rfl
  obtain ⟨c, c', before, visits, asked, -, served, kinds, tour, -, accounted⟩ :=
    run_accounted found none [] named .info
  have here : place c.host = place repeated := place_congr (by
    rw [served]
    exact (MemoryHost.steady repeated).quiet fun e he => (Event.preparing (kinds e he)).1)
  have places : named.map (place c.host) = files := by
    rw [here]
    decide
  rw [places] at tour accounted
  have recorded := congrArg MemoryHost.events accounted.served
  rw [Host.events_serve] at recorded
  exact ⟨found, visits, tour.length_eq, recorded.symm ▸ accounted,
    accounted.files MemoryHost.file? MemoryHost.filing⟩

end Execution

end FormatService
