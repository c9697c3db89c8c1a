import FormatService.Proofs.CommandLine.Request

/-!
# What is written on a command line is what is read

Every option of the format command can be written in one argument with its value. In whatever
order the options stand they are read back with their values as they were, and so are the files
behind the two dashes.
-/

set_option autoImplicit false

namespace FormatService.CommandLine

inductive Written
  | tool (name : String)
  | project (directory : String)
  | stdin (file : String)
  | config (path : String)
  | verbose
  | silent

namespace Written

def parameter : Written → Parameter
  | tool _ => .tool
  | project _ => .project
  | stdin _ => .stdin
  | config _ => .config
  | verbose => .verbose
  | silent => .silent

def value? : Written → Option String
  | tool value => some value
  | project value => some value
  | stdin value => some value
  | config value => some value
  | verbose => none
  | silent => none

def flag? : Written → Option LogLevel
  | verbose => some .debug
  | silent => some .silent
  | _ => none

def text (w : Written) : String := "--" ++ w.parameter.name ++ w.value?.elim "" ("=" ++ ·)

def said (p : Parameter) (ws : List Written) : List String :=
  ws.filterMap fun w => if w.parameter = p then w.value? else none

def gather (ws : List Written) (g : Given) : Given :=
  ws.foldl (fun g w => g.add w.parameter (w.value?.toList.map String.toList)) g

theorem has_gather (ws : List Written) (g : Given) (p : Parameter) :
    (gather ws g).has p = (g.has p || ws.any (·.parameter == p)) := by
  induction ws generalizing g with
  | nil => simp [gather]
  | cons w ws ih =>
    rw [gather, List.foldl_cons, ← gather, ih, Given.has_add, List.any_cons]
    cases g.has p <;> cases w.parameter == p <;> rfl

theorem values_gather (ws : List Written) (g : Given) (p : Parameter) :
    (gather ws g).values p = g.values p ++ (said p ws).map String.toList := by
  induction ws generalizing g with
  | nil => simp [gather, said]
  | cons w ws ih =>
    rw [gather, List.foldl_cons, ← gather, ih, Given.values_add]
    by_cases same : w.parameter = p
    · cases value : w.value? <;> simp [same, said, value]
    · simp [same, said]

theorem mem_options (w : Written) : w.parameter ∈ Command.fmt.options := by
  cases w <;> simp [parameter, Command.options, Command.parameters, Parameter.isPositional]

end Written

open Written (said gather has_gather values_gather)

variable {c : Command} {s : Progress}

theorem said_append (p : Parameter) (ws ws' : List Written) :
    said p (ws ++ ws') = said p ws ++ said p ws' := by
  simp [said]

theorem said_eq_nil_iff {p : Parameter} {ws : List Written} (valued : p.takesValue = true) :
    said p ws = [] ↔ (gather ws []).has p = false := by
  rw [said, List.filterMap_eq_nil_iff, has_gather, Given.has_nil, Bool.false_or,
    List.any_eq_false]
  refine forall₂_congr fun w _ => ?_
  by_cases same : w.parameter = p
  · subst same
    cases w <;> simp_all [Written.value?, Written.parameter, Parameter.takesValue,
      Parameter.valueName?]
  · simp [same]

theorem head?_said {p : Parameter} {ws : List Written} {value : Option String}
    (h : said p ws = value.toList) :
    ((gather ws []).values p).head? = value.map String.toList := by
  rw [values_gather, h]
  cases value <;> rfl

theorem strings_gather (p : Parameter) (ws : List Written) :
    Invocation.strings (gather ws []) p = said p ws := by
  simp [Invocation.strings, values_gather]

theorem flag_mem (ws : List Written) :
    ((gather ws []).has .verbose = true ↔ .debug ∈ ws.filterMap Written.flag?) ∧
      ((gather ws []).has .silent = true ↔ .silent ∈ ws.filterMap Written.flag?) := by
  simp only [has_gather, Given.has_nil, Bool.false_or, List.any_eq_true, List.mem_filterMap]
  constructor <;> refine exists_congr fun w => and_congr_right fun _ => ?_ <;>
    cases w <;> simp [Written.parameter, Written.flag?]

theorem ofText_written (w : Written) : Shape.ofText w.text.toList =
    .long w.parameter.name.toList (w.value?.map String.toList) := by
  rw [← ofText_named]
  cases w <;> simp [Written.text, Written.value?]

theorem not_escape (ws : List Written) : "--" ∉ ws.map Written.text := by
  intro mem
  obtain ⟨w, -, escape⟩ := List.mem_map.mp mem
  have long := ofText_written w
  rw [escape] at long
  cases long

theorem texts (ws : List Written) :
    (ws.map Written.text).map String.toList = ws.map (·.text.toList) := List.map_map

theorem command?_written (w : Written) : c.command? w.text.toList = none := by
  rw [Command.command?, List.find?_eq_none]
  intro sub _
  cases sub <;> simp [Written.text, Command.name]

theorem readArgument_written {w : Written} (mem : w.parameter ∈ c.options) (idle : s.pending = none)
    (free : s.onlyValues = false)
    (new : s.given.has w.parameter = true → w.parameter.repeats = true) (rest : List Text) :
    readArgument c w.text.toList rest s = .ok { s with given := gather [w] s.given } := by
  have checked : check c w.parameter (w.value?.toList.map String.toList) s.given =
      .ok (gather [w] s.given) := by
    refine check_eq_ok_iff.mpr ⟨?_, ?_, ?_, ?_, rfl⟩
    · cases w <;> simp [Written.value?, Written.parameter]
      all_goals decide
    · cases w <;> simp [Written.parameter]
    · cases w <;> simp [Written.parameter]
    · cases given : s.given.has w.parameter with
      | true => exact .inl (new given)
      | false => exact .inr rfl
  have accepted : accept c w.parameter (w.value?.toList.map String.toList) s =
      .ok { s with given := gather [w] s.given } := by
    rw [accept, settle_of_idle idle]
    exact bind_eq_ok.mpr ⟨s, rfl, bind_eq_ok.mpr ⟨_, checked, rfl⟩⟩
  rw [readArgument, if_neg (by simp [free]), ofText_written]
  simp only [readLong, option?_of_mem mem]
  cases w <;> exact accepted

theorem read_written {ws : List Written} (mem : ∀ w ∈ ws, w.parameter ∈ c.options)
    (once : ws.Pairwise fun a b => a.parameter = b.parameter → a.parameter.repeats = true)
    (idle : s.pending = none) (free : s.onlyValues = false)
    (new : ∀ w ∈ ws, s.given.has w.parameter = true → w.parameter.repeats = true)
    (rest : List Text) : read c (ws.map (·.text.toList) ++ rest) s =
      read c rest { s with given := gather ws s.given } := by
  induction ws generalizing s with
  | nil => rfl
  | cons w ws ih =>
    obtain ⟨others, once⟩ := List.pairwise_cons.mp once
    have unnamed : commandAt? c w.text.toList s = none := by
      simp [commandAt?, command?_written]
    -- What was given before may be given again where `new` allows it; `once` hands that on.
    have ok := readArgument_written (mem w List.mem_cons_self) idle free
      (new w List.mem_cons_self) (ws.map (·.text.toList) ++ rest)
    rw [List.map_cons, List.cons_append, read, unnamed, ok]
    refine ih (fun w' h => mem w' (List.mem_cons_of_mem _ h)) once idle free ?_
    intro w' h given
    rw [has_gather, Bool.or_eq_true] at given
    rcases given with given | same
    · exact new w' (List.mem_cons_of_mem _ h) given
    · have same : w.parameter = w'.parameter := by simpa using same
      exact same ▸ others w' h same

theorem read_files {files : List Text} {values : List Text}
    (only : s.onlyValues = true) (pending : s.pending = some (.files, values)) :
    read .fmt files s = .ok ({ s with pending := some (.files, values ++ files) }, none) := by
  induction files generalizing s values with
  | nil => simp [read, ← pending]
  | cons file files ih =>
    have unnamed : commandAt? .fmt file s = none := by simp [commandAt?, only]
    have ok : readArgument .fmt file files s =
        .ok { s with pending := some (.files, values ++ [file]) } := by
      simp [readArgument, only, readPositional, pending, Command.takesFiles, Command.parameters]
    rw [read, unnamed, ok]
    refine (ih (s := { s with pending := some (.files, values ++ [file]) }) only rfl).trans ?_
    simp

theorem read_escaped (g : Given) {files : List Text} (some : files ≠ []) :
    read .fmt (['-', '-'] :: files) ⟨g, none, false⟩ =
      .ok (⟨g, Option.some (.files, files), true⟩, none) := by
  cases files with
  | nil => contradiction
  | cons file files => exact read_files (s := ⟨g, Option.some (.files, [file]), true⟩) rfl rfl

section Level

variable {ws : List Written} (mem : ∀ w ∈ ws, w.parameter ∈ c.options)
  (once : ws.Pairwise fun a b => a.parameter = b.parameter → a.parameter.repeats = true)
  (flags : ¬((gather ws []).has .verbose = true ∧ (gather ws []).has .silent = true))

theorem has_files_gather (ws : List Written) : (gather ws []).has .files = false := by
  rw [has_gather, Given.has_nil, Bool.false_or, List.any_eq_false]
  intro w _
  cases w <;> simp [Written.parameter]

include mem once in
theorem read_start (rest : List Text) : read c (ws.map (·.text.toList) ++ rest) .start =
    read c rest ⟨gather ws [], none, false⟩ :=
  read_written mem once rfl rfl (fun _ _ given => by simp [Progress.start] at given) rest

include mem once flags in
theorem takes_options (whole : lacksFiles c (gather ws []) = false) :
    Takes c (ws.map (·.text.toList)) (gather ws []) := by
  refine ⟨⟨gather ws [], none, false⟩, ?_, ?_⟩
  · simpa [read] using read_start mem once []
  · refine conclude_eq_ok_iff.mpr ⟨_, settle_of_idle rfl, rfl, ?_, whole⟩
    exact (rivals?_eq_none_iff _).mpr ⟨flags, by simp [has_files_gather]⟩

include once flags in
theorem takes_files (mem : ∀ w ∈ ws, w.parameter ∈ Command.fmt.options)
    (closed : (gather ws []).has .stdin = false) {files : List Text} (some : files ≠ []) :
    Takes .fmt (ws.map (·.text.toList) ++ ['-', '-'] :: files)
      ((gather ws []).add .files files) := by
  refine ⟨⟨gather ws [], Option.some (.files, files), true⟩, ?_, ?_⟩
  · rw [read_start mem once]
    exact read_escaped _ some
  · have checked : check .fmt .files files (gather ws []) = .ok ((gather ws []).add .files files) :=
      check_eq_ok_iff.mpr ⟨fun _ => some, nofun, nofun, .inl rfl, rfl⟩
    refine conclude_eq_ok_iff.mpr ⟨_, settle_of_pending rfl checked, rfl, ?_, ?_⟩
    · exact (rivals?_eq_none_iff _).mpr ⟨by simpa [Given.has_add] using flags,
        by simp [Given.has_add, closed]⟩
    · simp [lacksFiles, Given.has_add]

end Level

end FormatService.CommandLine
