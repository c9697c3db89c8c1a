import FormatService.CommandLine.Invocation
import FormatService.Proofs.CommandLine.Level

/-!
# From a command line to a request

What is asked for is read off the arguments, apart from the few that stand alone. Standard
input is needed for one kind of task; a request for any other neither reads it nor depends
on what it would give.
-/

set_option autoImplicit false

namespace FormatService.CommandLine

namespace Reading

def WantsInput (r : Reading) : Prop := r.command = .fmt ∧ r.after.has .stdin = true

def KnowsTool (r : Reading) : Prop :=
  r.command = .fmt → ∀ text, (r.after.values .tool).head? = some text →
    (Tool.parse? (String.ofList text)).isSome = true

end Reading

theorem taken_of_readAll {arguments : List Text} {r : Reading}
    (h : readAll arguments = .ok r) : ∃ front back, Takes .root front r.before ∧
      Takes r.command back r.after := by
  obtain ⟨-, front, back, -, -, taken⟩ := readAll_eq_ok_iff.mp h
  exact ⟨front, back, taken⟩

theorem exists_value {c : Command} {p : Parameter} {arguments : List Text} {g : Given}
    (h : Takes c arguments g) (has : g.has p = true) (valued : p.valued = true) :
    ∃ value, (g.values p).head? = some value := by
  have filled := h.filled p has valued
  cases values : g.values p with
  | nil => exact absurd values filled
  | cons value rest => exact ⟨value, rfl⟩

namespace Invocation

variable {arguments : List String} {r : Reading} {i : Invocation Unit}

theorem toolOf_eq_ok_iff (text : Option Text) (tool : Option Tool) : toolOf text = .ok tool ↔
    text.map (fun t => Tool.parse? (String.ofList t)) = tool.map some := by
  cases text with
  | none => cases tool <;> simp [toolOf]
  | some t =>
    cases parsed : Tool.parse? (String.ofList t) <;> cases tool <;> simp [toolOf, parsed]

theorem ofReading_of_unknown {text : Text} (fmt : r.command = .fmt)
    (asked : (r.after.values .tool).head? = some text)
    (unknown : Tool.parse? (String.ofList text) = none) :
    ofReading r = .error (.unknownTool (String.ofList text)) := by
  simp only [ofReading, taskOf, fmt, asked, toolOf, unknown]
  rfl

theorem ofReading_of_format {tool : Option Tool} (fmt : r.command = .fmt)
    (known : toolOf (r.after.values .tool).head? = .ok tool) :
    ofReading r = .ok ⟨match (r.after.values .stdin).head? with
      | some file => .formatInput tool (strings r.after .project) (String.ofList file) ()
      | none => .format tool (strings r.after .project) (strings r.after .files),
      .ofFlags (r.flag .verbose) (r.flag .silent), (r.value? .config).map String.ofList⟩ := by
  simp only [ofReading, taskOf, fmt, known]
  cases (r.after.values .stdin).head? <;> rfl

theorem ofReading_of_other (other : r.command ≠ .fmt) :
    ∃ task, (task = .showVersion ∨ ∃ projects, task = .listTools projects) ∧
      ofReading r = .ok ⟨task, .ofFlags (r.flag .verbose) (r.flag .silent),
        (r.value? .config).map String.ofList⟩ := by
  cases command : r.command with
  | fmt => exact absurd command other
  | outputTools =>
    refine ⟨.listTools (strings r.after .project), .inr ⟨_, rfl⟩, ?_⟩
    simp only [ofReading, taskOf, command]
    rfl
  | _ =>
    refine ⟨.showVersion, .inl rfl, ?_⟩
    simp only [ofReading, taskOf, command]
    rfl

theorem knowsTool_iff (fmt : r.command = .fmt) :
    r.KnowsTool ↔ ∃ tool, toolOf (r.after.values .tool).head? = .ok tool := by
  rw [Reading.KnowsTool, fmt]
  cases asked : (r.after.values .tool).head? with
  | none => simp [toolOf]
  | some text => cases parsed : Tool.parse? (String.ofList text) <;> simp [toolOf, parsed]

theorem fault_of_ofReading {fault : Fault} (h : ofReading r = .error fault) :
    ∃ text, fault = .unknownTool text := by
  by_cases fmt : r.command = .fmt
  · cases asked : (r.after.values .tool).head? with
    | none =>
      rw [ofReading_of_format fmt (by rw [asked, toolOf])] at h
      cases h
    | some text =>
      cases parsed : Tool.parse? (String.ofList text) with
      | none =>
        rw [ofReading_of_unknown fmt asked parsed] at h
        exact ⟨_, (Except.error.inj h).symm⟩
      | some tool =>
        rw [ofReading_of_format fmt (by rw [asked, toolOf, parsed])] at h
        cases h
  · obtain ⟨task, -, same⟩ := ofReading_of_other fmt
    rw [same] at h
    cases h

theorem exists_tool_of_ok (fmt : r.command = .fmt) (h : ofReading r = .ok i) :
    ∃ tool, toolOf (r.after.values .tool).head? = .ok tool := by
  obtain ⟨task, h, -⟩ := bind_eq_ok.mp h
  simp only [taskOf, fmt] at h
  obtain ⟨tool, known, -⟩ := bind_eq_ok.mp h
  exact ⟨tool, known⟩

theorem level_of_ofReading (h : ofReading r = .ok i) :
    i.level = .ofFlags (r.flag .verbose) (r.flag .silent) := by
  obtain ⟨task, -, h⟩ := bind_eq_ok.mp h
  rw [← Except.ok.inj h]

theorem not_read_alone {argument : String} {task : Task Unit} (h : alone? argument = some task) :
    readAll [argument.toList] ≠ .ok r := by
  rw [alone?] at h
  split at h
  · rename_i help
    rcases help with rfl | rfl <;> nofun
  · split at h
    · rename_i version
      rcases version with rfl | rfl | rfl <;> nofun
    · cases h

theorem parse_of_read (h : readAll (arguments.tail.map String.toList) = .ok r) :
    parse arguments = ofReading r := by
  have read : ofArguments arguments.tail = ofReading r := by rw [ofArguments, h]
  rcases arguments with - | ⟨program, - | ⟨argument, - | ⟨next, rest⟩⟩⟩
  · exact read
  · cases h
  · rw [parse]
    cases single : alone? argument with
    | none => exact read
    | some task => exact absurd h (not_read_alone single)
  · exact read

theorem task_of_alone {argument : String} {task : Task Unit} (h : alone? argument = some task) :
    task = .showVersion ∨ ∃ text, task = .show text := by
  rw [alone?] at h
  split at h
  · exact .inr ⟨_, (Option.some.inj h).symm⟩
  · split at h
    · exact .inl (Option.some.inj h).symm
    · cases h

theorem parse_eq (arguments : List String) : parse arguments = ofArguments arguments.tail ∨
    ∃ task, parse arguments = .ok (plain task) ∧
      (task = .showVersion ∨ ∃ text, task = .show text) := by
  rcases arguments with - | ⟨program, - | ⟨argument, - | ⟨next, rest⟩⟩⟩
  · exact .inl rfl
  · exact .inr ⟨_, rfl, .inr ⟨_, rfl⟩⟩
  · rw [parse]
    cases single : alone? argument with
    | none => exact .inl rfl
    | some task => exact .inr ⟨task, rfl, task_of_alone single⟩
  · exact .inl rfl

theorem parse_cases (h : parse arguments = .ok i) :
    (i.task = .showVersion ∨ ∃ text, i.task = .show text) ∨
      ∃ r, readAll (arguments.tail.map String.toList) = .ok r ∧ ofReading r = .ok i := by
  rcases parse_eq arguments with read | ⟨task, single, other⟩
  · rw [read, ofArguments] at h
    split at h
    · rename_i r ok
      exact .inr ⟨r, ok, h⟩
    · cases h
  · rw [single] at h
    rw [← Except.ok.inj h]
    exact .inl other

variable {σ : Type} {read : σ → Except String Text × σ} {s : σ}

theorem level_of_supply {j : Invocation Text} (h : (i.supply read s).1 = .ok j) :
    j.level = i.level := by
  rw [supply] at h
  split at h
  · rw [← Except.ok.inj h]
  · split at h
    · rw [← Except.ok.inj h]
    · cases h
  all_goals rw [← Except.ok.inj h]

theorem request_of_error {fault : Fault} (h : parse arguments = .error fault) :
    request read arguments s = (.error fault, s) := by
  rw [request, h]

theorem request_of_ok (h : parse arguments = .ok i) :
    request read arguments s = i.supply read s := by
  rw [request, h]

theorem request_of_wanted (h : readAll (arguments.tail.map String.toList) = .ok r)
    (wanted : r.WantsInput) (known : r.KnowsTool) :
    ∃ tool file, toolOf (r.after.values .tool).head? = .ok tool ∧
      (r.after.values .stdin).head? = some file ∧
      ∀ {σ : Type} (read : σ → Except String Text × σ) (s : σ), request read arguments s =
        (((read s).1.mapError .unreadableInput).map fun text =>
          ⟨.formatInput tool (strings r.after .project) (String.ofList file) text,
            .ofFlags (r.flag .verbose) (r.flag .silent), (r.value? .config).map String.ofList⟩,
          (read s).2) := by
  obtain ⟨_, _, -, taken⟩ := taken_of_readAll h
  obtain ⟨tool, known⟩ := (knowsTool_iff wanted.1).mp known
  obtain ⟨file, asked⟩ := exists_value taken wanted.2 rfl
  refine ⟨tool, file, known, asked, fun read s => ?_⟩
  have parsed := (parse_of_read h).trans (ofReading_of_format wanted.1 known)
  rw [asked] at parsed
  rw [request_of_ok parsed, supply]
  cases read s with
  | mk input s' => cases input <;> rfl

theorem wanted_of_formatInput (h : parse arguments = .ok i) {tool : Option Tool}
    {projects : List String} {file : String} (task : i.task = .formatInput tool projects file ()) :
    ∃ r, readAll (arguments.tail.map String.toList) = .ok r ∧ r.WantsInput ∧ r.KnowsTool := by
  rcases parse_cases h with (other | ⟨text, other⟩) | ⟨r, ok, h⟩
  · simp [task] at other
  · simp [task] at other
  · by_cases fmt : r.command = .fmt
    · obtain ⟨tool', known⟩ := exists_tool_of_ok fmt h
      refine ⟨r, ok, ⟨fmt, ?_⟩, (knowsTool_iff fmt).mpr ⟨tool', known⟩⟩
      cases has : r.after.has .stdin with
      | true => rfl
      | false =>
        rw [ofReading_of_format fmt known, r.after.values_of_not_has .stdin has] at h
        simp [← Except.ok.inj h] at task
    · obtain ⟨task', other, same⟩ := ofReading_of_other fmt
      rw [same] at h
      rw [← Except.ok.inj h] at task
      rcases other with rfl | ⟨projects, rfl⟩ <;> cases task

theorem readable_of_parse {fault : Fault} (h : parse arguments = .error fault) (reason : String) :
    fault ≠ .unreadableInput reason := by
  rcases parse_eq arguments with read | ⟨task, single, -⟩
  · rw [read, ofArguments] at h
    split at h
    · obtain ⟨text, rfl⟩ := fault_of_ofReading h
      nofun
    · rw [← Except.error.inj h]
      nofun
  · rw [single] at h
    cases h

theorem supply_of_other
    (other : ∀ tool projects file, i.task ≠ .formatInput tool projects file ()) :
    ∃ j : Invocation Text, ∀ {σ : Type} (read : σ → Except String Text × σ) (s : σ),
      i.supply read s = (.ok j, s) := by
  obtain ⟨task, level, settings⟩ := i
  cases task with
  | formatInput tool projects file input => exact absurd rfl (other tool projects file)
  | format tool projects files =>
    exact ⟨⟨.format tool projects files, level, settings⟩, fun _ _ => rfl⟩
  | listTools projects => exact ⟨⟨.listTools projects, level, settings⟩, fun _ _ => rfl⟩
  | showVersion => exact ⟨⟨.showVersion, level, settings⟩, fun _ _ => rfl⟩
  | «show» text => exact ⟨⟨.show text, level, settings⟩, fun _ _ => rfl⟩

theorem request_of_unwanted (unwanted : ∀ i, parse arguments = .ok i →
      ∀ tool projects file, i.task ≠ .formatInput tool projects file ()) :
    ∃ answer, (∀ reason, answer ≠ .error (.unreadableInput reason)) ∧
      ∀ {σ : Type} (read : σ → Except String Text × σ) (s : σ),
        request read arguments s = (answer, s) := by
  cases parsed : parse arguments with
  | error fault =>
    refine ⟨.error fault, fun reason same => ?_, fun read s => request_of_error parsed⟩
    exact readable_of_parse parsed reason (Except.error.inj same)
  | ok i =>
    obtain ⟨j, same⟩ := supply_of_other (unwanted i parsed)
    exact ⟨.ok j, by simp, fun read s => (request_of_ok parsed).trans (same read s)⟩

theorem knowsTool_of_ok (h : ofReading r = .ok i) : r.KnowsTool := by
  by_cases fmt : r.command = .fmt
  · exact (knowsTool_iff fmt).mpr (exists_tool_of_ok fmt h)
  · exact fun same => absurd same fmt

theorem exists_ofReading (known : r.KnowsTool) : ∃ i, ofReading r = .ok i := by
  by_cases fmt : r.command = .fmt
  · obtain ⟨tool, known⟩ := (knowsTool_iff fmt).mp known
    exact ⟨_, ofReading_of_format fmt known⟩
  · obtain ⟨task, -, same⟩ := ofReading_of_other fmt
    exact ⟨_, same⟩

variable (arguments) in
theorem ofCommandLine_of_read {input : Except String Text}
    (h : readAll (arguments.tail.map String.toList) = .ok r) :
    (∃ i, ofCommandLine arguments input = .ok i) ↔
      r.KnowsTool ∧ (r.WantsInput → ∃ text, input = .ok text) := by
  have parsed := parse_of_read h
  -- The tool is looked at first: standard input is not read for one that is unknown.
  by_cases known : r.KnowsTool
  · by_cases wanted : r.WantsInput
    · obtain ⟨tool, file, -, -, same⟩ := request_of_wanted h wanted known
      rw [ofCommandLine, same]
      cases input <;> simp [known, wanted, Except.mapError, Except.map]
    · obtain ⟨i, ok⟩ := exists_ofReading known
      have other : ∀ tool projects file, i.task ≠ .formatInput tool projects file () := by
        intro tool projects file task
        obtain ⟨r', ok', wanted', -⟩ := wanted_of_formatInput (parsed.trans ok) task
        exact wanted (Except.ok.inj (h.symm.trans ok') ▸ wanted')
      obtain ⟨j, same⟩ := supply_of_other other
      simp [known, wanted, ofCommandLine, request_of_ok (parsed.trans ok), same]
  · refine iff_of_false ?_ fun accepted => known accepted.1
    rintro ⟨j, accepted⟩
    cases read : ofReading r with
    | ok i => exact known (knowsTool_of_ok read)
    | error fault =>
      rw [ofCommandLine, request_of_error (parsed.trans read)] at accepted
      cases accepted

end Invocation

end FormatService.CommandLine
