import FormatService.Proofs.Execution.File

/-!
# A file in place and its text on standard input

A file is formatted in place or its text is formatted from standard input. On a steady
host both runs start alike and make the same request to format, so they run the same
commands and end well or badly together, and what the one leaves in the file is what the
other writes to standard output.
-/

set_option autoImplicit false

namespace FormatService.Execution

open Host (Steady replies)

variable {σ : Type} [Host σ] {c : Coordinator σ}

theorem formatInput_of_format {file : String} {text : Text} {c' : Coordinator σ} {b : Buffer}
    {outcome : Outcome}
    (formatted : c.format (opened (place c.host file) text) none none = (c', b, outcome)) :
    (formatInput file text c).2 = Host.emit b.document.text c'.host ∧
      ((formatInput file text c).1 = .done ↔ outcome ≠ .toolNotFound ∧ outcome ≠ .failed) := by
  rw [opened, place] at formatted
  rw [formatInput, formatted]
  cases outcome <;> simp

theorem formatInput_eq (rebuilt : c.Rebuilt) (steady : Steady c.host) (file : String)
    (text : Text) :
    let b := opened (place c.host file) text
    let r := c.format b none none
    ∃ asked, (formatInput file text c).2 =
        Host.serve (asked ++ [.emit r.2.1.document.text]) c.host ∧
      ((formatInput file text c).1 = .done ↔ r.2.2 ≠ .toolNotFound ∧ r.2.2 ≠ .failed) ∧
      (∀ e ∈ asked, e.isWrite = false ∧ e.isLog = false ∧ e.isEmit = false) ∧
      asked.filter Event.isRun = (c.call? b).toList.map ToolCall.event := by
  intro b r
  obtain ⟨asked, stays, kinds, runs, -⟩ := rebuilt.format steady (b := b) rfl
  have formatted : r = ({ c with host := Host.serve asked c.host }, r.2) := by rw [← stays]
  obtain ⟨emitted, ending⟩ := formatInput_of_format formatted
  refine ⟨asked, ?_, ending, fun e he => Event.harmless (kinds e he), runs⟩
  rw [emitted, Host.serve_append]
  rfl

theorem format_single (rebuilt : c.Rebuilt) (steady : Steady c.host) {file : String} {text : Text}
    (there : (replies c.host).read (place c.host file) = .ok text)
    (writable : ∀ new, (replies c.host).write (place c.host file) new = .ok ()) :
    let b := opened (place c.host file) text
    let r := c.format b none none
    ∃ asked, (format [file] c).2 = Host.serve asked c.host ∧
      ((format [file] c).1 = .done ↔ r.2.2 ≠ .toolNotFound ∧ r.2.2 ≠ .failed) ∧
      asked.filter Event.isRun = (c.call? b).toList.map ToolCall.event ∧
      (replies (format [file] c).2).read (place c.host file) = .ok r.2.1.document.text := by
  intro b r
  obtain ⟨asked, done, -, runs, left⟩ := formatFile_handles rebuilt steady there
  have single : format [file] c = (verdict ([(formatFile (place c.host file) c).2].count .failed),
      announce ([(formatFile (place c.host file) c).2].count .written)
        (formatFile (place c.host file) c).1.host) := rfl
  rw [done, writable, announce_eq, ← Host.serve_append] at single
  rw [single]
  refine ⟨_, rfl, ?_, ?_, ?_⟩
  · rw [verdict_eq_done_iff, List.count_eq_zero, List.mem_singleton, eq_comm,
      FileResult.of_ok_eq_failed_iff, not_or]
  · rw [List.filter_append, runs, filter_isRun_announcement, List.append_nil]
  · have said (n : Nat) : replies (Host.serve (asked ++ announcement n) c.host) =
        replies (Host.serve asked c.host) := by
      rw [Host.serve_append]
      exact (steady.serve asked).quiet (not_isWrite_announcement n)
    rw [said, left]
    by_cases formatted : r.2.2 = .formatted
    · rw [if_pos formatted, Replies.after_write_of_ok (writable _)]
      exact Function.update_self ..
    · obtain ⟨-, -, -, -, delivers⟩ := rebuilt.format steady (b := b) rfl
      have kept : r.2.1 = b := delivers.kept formatted
      rw [if_neg formatted, kept]
      exact there

/-- Two runs from a host that ask for the same runs of commands and end well or badly together, the
second without writing a file or saying anything. -/
structure Concur (h : σ) (first second : Ending × σ) (asked asked' : List Event) : Prop where
  served : first.2 = Host.serve asked h
  served' : second.2 = Host.serve asked' h
  endings : first.1 = .done ↔ second.1 = .done
  runs : asked.filter Event.isRun = asked'.filter Event.isRun
  silent : ∀ e ∈ asked', e.isWrite = false ∧ e.isLog = false

theorem Concur.since {h h' : σ} {first second : Ending × σ} {asked asked' before : List Event}
    (concur : Concur h' first second asked asked') (served : h' = Host.serve before h)
    (silent : ∀ e ∈ before, e.isWrite = false ∧ e.isLog = false) :
    Concur h first second (before ++ asked) (before ++ asked') where
  served := by rw [concur.served, served, Host.serve_append]
  served' := by rw [concur.served', served, Host.serve_append]
  endings := concur.endings
  runs := by rw [List.filter_append, List.filter_append, concur.runs]
  silent := List.forall_mem_append.mpr ⟨silent, concur.silent⟩

/-- Both runs make the same request to format. What it leaves of the text goes to the file in the one
and to standard output in the other. -/
theorem format_concur (rebuilt : c.Rebuilt) (steady : Steady c.host) {file : String} {text : Text}
    (there : (replies c.host).read (place c.host file) = .ok text)
    (writable : ∀ new, (replies c.host).write (place c.host file) new = .ok ()) :
    ∃ asked asked', Concur c.host (format [file] c) (formatInput file text c) asked asked' ∧
      ∃ new, asked'.filter Event.isEmit = [.emit new] ∧
        (replies (format [file] c).2).read (place c.host file) = .ok new := by
  obtain ⟨asked, here, ending, runs, left⟩ := format_single rebuilt steady there writable
  obtain ⟨asked', there', ending', silent, runs'⟩ := formatInput_eq rebuilt steady file text
  let new := (c.format (opened (place c.host file) text) none none).2.1.document.text
  refine ⟨asked, asked' ++ [.emit new], ⟨here, there', ending.trans ending'.symm, ?_, ?_⟩,
    new, ?_, left⟩
  · have emitted : [Event.emit new].filter Event.isRun = [] := rfl
    rw [List.filter_append, runs, runs', emitted, List.append_nil]
  · refine List.forall_mem_append.mpr ⟨fun e he => ⟨(silent e he).1, (silent e he).2.1⟩, ?_⟩
    exact fun e he => List.mem_singleton.mp he ▸ ⟨rfl, rfl⟩
  · rw [List.filter_append, Event.filter_eq_nil fun e he => (silent e he).2.2]
    rfl

/-- Formatting a file that can be read and written comes to the same as formatting its text from
standard input: the one text that is written there is the one that is left in the file. Without
settings both runs fail at the start. -/
theorem run_concur {h : σ} (steady : Steady h) {file : String} {text : Text}
    (there : (Host.read (place h file) h).1 = .ok text)
    (writable : ∀ new, (Host.write (place h file) new h).1 = .ok ())
    (tool : Option Tool) (projects : List String) (level : LogLevel) (settings : Option String) :
    let filed := run ⟨.format tool projects [file], level, settings⟩ h
    let piped := run ⟨.formatInput tool projects file text, level, settings⟩ h
    ∃ asked asked', Concur h filed piped asked asked' ∧
      match (Settings.lookup (settings.map Path.mk) h).1 with
      | .ok _ => ∃ new, asked'.filter Event.isEmit = [.emit new] ∧
          (Host.read (place h file) filed.2).1 = .ok new
      | .error _ => filed.1 ≠ .done ∧ piped.1 ≠ .done ∧
          ∀ e ∈ asked ++ asked', (e.isRead || e.isNote) = true := by
  intro filed piped
  cases found : (Settings.lookup (settings.map Path.mk) h).1 with
  | error fault =>
    obtain ⟨ending, h', failed, bad, asked, kinds, rfl⟩ := coordinator_of_error found tool projects
    have filed_eq : filed = (ending, Host.serve asked h) := withCoordinator_of_error failed _
    have piped_eq : piped = (ending, Host.serve asked h) := withCoordinator_of_error failed _
    have silent : ∀ e ∈ asked, e.isWrite = false ∧ e.isLog = false := fun e he => by
      have asks := kinds e he
      have kind : (e.isRead || e.isSearch || e.isNote) = true := by grind
      exact ⟨(Event.preparing kind).1, (Event.preparing kind).2.2.1⟩
    rw [filed_eq, piped_eq]
    exact ⟨asked, asked, ⟨rfl, rfl, Iff.rfl, rfl, silent⟩, bad, bad,
      List.forall_mem_append.mpr ⟨kinds, kinds⟩⟩
  | ok loaded =>
    obtain ⟨c, started, rebuilt, before, kinds, served⟩ :=
      coordinator_of_ok steady found tool projects
    have filed_eq : filed = format [file] c := withCoordinator_of_ok started _
    have piped_eq : piped = formatInput file text c := withCoordinator_of_ok started _
    have calm := fun e he => Event.preparing (kinds e he)
    have same : replies c.host = replies h := by
      rw [served]
      exact steady.quiet fun e he => (calm e he).1
    change (replies h).read _ = _ at there
    change ∀ new, (replies h).write _ new = _ at writable
    rw [← same, ← place_congr same] at there writable
    obtain ⟨asked, asked', concur, new, emitted, left⟩ :=
      format_concur rebuilt (served ▸ steady.serve before) there writable
    have silent : ∀ e ∈ before, e.isWrite = false ∧ e.isLog = false :=
      fun e he => ⟨(calm e he).1, (calm e he).2.2.1⟩
    rw [filed_eq, piped_eq, ← place_congr same]
    refine ⟨before ++ asked, before ++ asked', concur.since served silent, new, ?_, left⟩
    rw [List.filter_append, Event.filter_eq_nil fun e he => (calm e he).2.2.2, emitted]
    rfl

/-- A file without a line break at its end, and a tool that puts one there. -/
def unended : MemoryHost where
  directory := ⟨"/a"⟩
  level := .info
  files := [(⟨"/a/x.go"⟩, ['x'])]
  readOnly := []
  tools := [(.gofmt, none, "gofmt")]
  searchFault := .never
  commands := [("gofmt", ⟨none, 0, [], [], none, [], ['\n']⟩)]
  events := []

/-- The record that is kept of the two runs. -/
theorem run_concur_unended :
    let path := place unended "x.go"
    let filed := run ⟨.format none [] ["x.go"], .info, none⟩ unended
    let piped := run ⟨.formatInput none [] "x.go" ['x'], .info, none⟩ unended
    (Host.read path unended).1 = .ok ['x'] ∧ (∀ new, (Host.write path new unended).1 = .ok ()) ∧
      (filed.1 = .done ↔ piped.1 = .done) ∧
      filed.2.events.filter Event.isRun = piped.2.events.filter Event.isRun ∧
      ∃ new, piped.2.events.filter Event.isEmit = [.emit new] ∧
        (Host.read path filed.2).1 = .ok new := by
  intro path filed piped
  have there : (Host.read path unended).1 = .ok ['x'] := rfl
  have writable : ∀ new, (Host.write path new unended).1 = .ok () := fun _ => rfl
  have found : (Settings.lookup (Option.map Path.mk none) unended).1 = .ok .default := rfl
  obtain ⟨asked, asked', concur, rest⟩ :=
    run_concur (MemoryHost.steady unended) there writable none [] .info none
  rw [found] at rest
  obtain ⟨new, emitted, left⟩ := rest
  refine ⟨there, writable, concur.endings, ?_, new, ?_, left⟩
  · rw [concur.served, concur.served', Host.events_serve, Host.events_serve]
    exact concur.runs
  · rw [concur.served', Host.events_serve]
    exact emitted

end FormatService.Execution
