import FormatService.Proofs.CommandLine.Request

/-!
# Every command line has an answer

Whatever the arguments are, they are read as one of three commands or refused. Files are
there just where no text is to come from standard input, and standard input is read once if
it is to be formatted with a known tool, and not at all otherwise.
-/

set_option autoImplicit false

namespace FormatService.CommandLine

variable {r : Reading}

theorem files_of_input {arguments : List Text} (h : readAll arguments = .ok r)
    (input : r.after.has .stdin = true) : r.after.values .files = [] := by
  obtain ⟨_, _, -, taken⟩ := taken_of_readAll h
  have apart := ((rivals?_eq_none_iff _).mp taken.rivals).2
  apply Given.values_of_not_has
  cases files : r.after.has .files with
  | false => rfl
  | true => exact absurd ⟨files, input⟩ apart

theorem files_of_no_input {arguments : List Text} (h : readAll arguments = .ok r)
    (fmt : r.command = .fmt) (none : r.after.has .stdin = false) : r.after.values .files ≠ [] := by
  obtain ⟨_, _, -, taken⟩ := taken_of_readAll h
  have whole := taken.whole
  rw [fmt, lacksFiles, none] at whole
  apply taken.filled .files _ rfl
  cases files : r.after.has .files with
  | false =>
    rw [files] at whole
    contradiction
  | true => rfl

namespace Invocation

theorem files_of_format {arguments : List String} {i : Invocation Unit}
    (h : parse arguments = .ok i) {tool : Option Tool} {projects files : List String}
    (task : i.task = .format tool projects files) : files ≠ [] := by
  rcases parse_cases h with (other | ⟨text, other⟩) | ⟨r, ok, h⟩
  · simp [task] at other
  · simp [task] at other
  · by_cases fmt : r.command = .fmt
    · obtain ⟨tool', known⟩ := exists_tool_of_ok fmt h
      rw [ofReading_of_format fmt known] at h
      rw [← Except.ok.inj h] at task
      cases input : r.after.has .stdin with
      | true =>
        obtain ⟨_, _, -, taken⟩ := taken_of_readAll ok
        obtain ⟨file, asked⟩ := exists_value taken input rfl
        simp [asked] at task
      | false =>
        rw [r.after.values_of_not_has .stdin input] at task
        obtain ⟨-, -, rfl⟩ := Task.format.inj task
        simpa [strings] using files_of_no_input ok fmt input
    · obtain ⟨task', other, same⟩ := ofReading_of_other fmt
      rw [same] at h
      rw [← Except.ok.inj h] at task
      rcases other with rfl | ⟨projects, rfl⟩ <;> cases task

theorem format_of_supply {σ : Type} {read : σ → Except String Text × σ} {s : σ}
    {i : Invocation Unit} {j : Invocation Text} (h : (i.supply read s).1 = .ok j)
    {tool : Option Tool} {projects files : List String}
    (task : j.task = .format tool projects files) : i.task = .format tool projects files := by
  obtain ⟨task', level, settings⟩ := i
  cases task' with
  | formatInput =>
    rw [supply] at h
    dsimp only at h
    split at h
    · rw [← Except.ok.inj h] at task
      cases task
    · cases h
  | format =>
    rw [← Except.ok.inj h] at task
    cases task
    rfl
  | _ =>
    rw [← Except.ok.inj h] at task
    cases task

/-- Reading is total, comes to a task, and asks for standard input at most once. -/
theorem request_safe (arguments : List String) :
    (∀ r, readAll (arguments.tail.map String.toList) = .ok r →
      (r.command = .fmt ∨ r.command = .outputTools ∨ r.command = .version) ∧
      (r.after.has .stdin = true → r.after.values .files = [])) ∧
    (∀ {σ : Type} (read : σ → Except String Text × σ) (s : σ) (i : Invocation Text),
      (request read arguments s).1 = .ok i →
      ∀ tool projects files, i.task = .format tool projects files → files ≠ []) ∧
    (∀ r, readAll (arguments.tail.map String.toList) = .ok r → r.WantsInput → r.KnowsTool →
      ∃ tool file, toolOf (r.after.values .tool).head? = .ok tool ∧
        (r.after.values .stdin).head? = some file ∧
        ∀ {σ : Type} (read : σ → Except String Text × σ) (s : σ), request read arguments s =
          (((read s).1.mapError .unreadableInput).map fun text =>
            ⟨.formatInput tool (strings r.after .project) (String.ofList file) text,
              .ofFlags (r.flag .verbose) (r.flag .silent), (r.value? .config).map String.ofList⟩,
            (read s).2)) ∧
    ((∀ r, readAll (arguments.tail.map String.toList) = .ok r → r.WantsInput → ¬r.KnowsTool) →
      ∃ answer, (∀ reason, answer ≠ .error (.unreadableInput reason)) ∧
        ∀ {σ : Type} (read : σ → Except String Text × σ) (s : σ),
          request read arguments s = (answer, s)) ∧
    (∀ r text, readAll (arguments.tail.map String.toList) = .ok r → r.command = .fmt →
      (r.after.values .tool).head? = some text → Tool.parse? (String.ofList text) = none →
      ∀ {σ : Type} (read : σ → Except String Text × σ) (s : σ),
        request read arguments s = (.error (.unknownTool (String.ofList text)), s)) := by
  refine ⟨fun r ok => ⟨?_, files_of_input ok⟩, fun read s i h tool projects files task => ?_,
    fun r ok wanted known => request_of_wanted ok wanted known, fun unwanted => ?_,
    fun r text ok fmt asked unknown σ read s => ?_⟩
  · simpa [tasked] using (readAll_eq_ok_iff.mp ok).1
  · cases parsed : parse arguments with
    | error fault =>
      rw [request_of_error parsed] at h
      cases h
    | ok j =>
      rw [request_of_ok parsed] at h
      exact files_of_format parsed (format_of_supply h task)
  · apply request_of_unwanted
    intro i parsed tool projects file task
    obtain ⟨r, ok, wanted, known⟩ := wanted_of_formatInput parsed task
    exact unwanted r ok wanted known
  · exact request_of_error ((parse_of_read ok).trans (ofReading_of_unknown fmt asked unknown))

end Invocation

end FormatService.CommandLine
