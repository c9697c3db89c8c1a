import FormatService.Proofs.CommandLine.Written

/-!
# Writing a command line

What a command line is to say can be written with the general options on either side of the
command and all options in any order. Read, it is what was to be said.
-/

set_option autoImplicit false

namespace FormatService.CommandLine

open Written (said gather has_gather values_gather)

/-- What the options of a command line are to say. -/
structure Line where
  tool : Option String
  projects : List String
  /-- The file that standard input stands for. -/
  input : Option String
  settings : Option String
  /-- The level that a flag sets. -/
  level : Option LogLevel

/-- The options in front of the command and behind it say it, in any order. -/
structure Line.Arranged (l : Line) (front back : List Written) : Prop where
  general : ∀ w ∈ front, w.parameter ∈ Command.root.options
  tool : said .tool back = l.tool.toList
  projects : said .project back = l.projects
  input : said .stdin back = l.input.toList
  settings : said .config (front ++ back) = l.settings.toList
  level : (front ++ back).filterMap Written.flag? = l.level.toList

theorem eq_none_of_pair {α β : Type} {f : α → Option β} {l : List α} {o : Option β}
    (h : l.filterMap f = o.toList) {a b : α} (pair : [a, b].Sublist l)
    (first : (f a).isSome = true) : f b = none := by
  obtain ⟨x, hx⟩ := Option.isSome_iff_exists.mp first
  cases hy : f b with
  | none => rfl
  | some y =>
    have short := (h ▸ pair.filterMap f).length_le
    cases o <;> simp [hx, hy] at short

namespace Line.Arranged

variable {l : Line} {front back : List Written} (h : l.Arranged front back)
include h

theorem said_front {p : Parameter} (other : p ∉ Command.root.options) : said p front = [] := by
  rw [said, List.filterMap_eq_nil_iff]
  intro w mem
  apply if_neg
  rintro rfl
  exact other (h.general w mem)

theorem once : (front ++ back).Pairwise
    fun a b => a.parameter = b.parameter → a.parameter.repeats = true := by
  have tool : said .tool (front ++ back) = l.tool.toList := by
    rw [said_append, h.said_front (by decide), h.tool, List.nil_append]
  have input : said .stdin (front ++ back) = l.input.toList := by
    rw [said_append, h.said_front (by decide), h.input, List.nil_append]
  rw [List.pairwise_iff_forall_sublist]
  intro a b pair same
  -- An option written twice would say two values, or set two levels, where one is said.
  cases a <;> cases b <;> simp only [Written.parameter, reduceCtorEq] at same
  · simpa [Written.value?, Written.parameter] using eq_none_of_pair tool pair rfl
  · rfl
  · simpa [Written.value?, Written.parameter] using eq_none_of_pair input pair rfl
  · simpa [Written.value?, Written.parameter] using eq_none_of_pair h.settings pair rfl
  · simpa [Written.flag?] using eq_none_of_pair h.level pair rfl
  · simpa [Written.flag?] using eq_none_of_pair h.level pair rfl

theorem not_both {ws : List Written} (part : ws.Sublist (front ++ back)) :
    ¬((gather ws []).has .verbose = true ∧ (gather ws []).has .silent = true) := by
  rw [(flag_mem ws).1, (flag_mem ws).2]
  rintro ⟨verbose, silent⟩
  have all := h.level ▸ part.filterMap Written.flag?
  have hv := all.subset verbose
  have hs := all.subset silent
  cases level : l.level with
  | none => simp [level] at hv
  | some other =>
    simp only [level, Option.toList_some, List.mem_singleton] at hv hs
    exact absurd (hv.trans hs.symm) (by decide)

theorem takes_front : Takes .root (front.map (·.text.toList)) (gather front []) :=
  takes_options h.general (List.pairwise_append.mp h.once).1
    (h.not_both (List.sublist_append_left front back))
    (by simp [lacksFiles, Command.takesFiles, Command.parameters])

theorem takes_input {file : String} (input : l.input = some file) :
    Takes .fmt (back.map (·.text.toList)) (gather back []) := by
  have given : (gather back []).has .stdin = true := by
    rw [← Bool.not_eq_false, ← said_eq_nil_iff rfl, h.input, input]
    nofun
  exact takes_options (fun w _ => w.mem_options) (List.pairwise_append.mp h.once).2.1
    (h.not_both (List.sublist_append_right front back)) (by simp [lacksFiles, given])

theorem takes_back (input : l.input = none) {files : List Text} (some : files ≠ []) :
    Takes .fmt (back.map (·.text.toList) ++ ['-', '-'] :: files)
      ((gather back []).add .files files) := by
  have closed : (gather back []).has .stdin = false := by
    rw [← said_eq_nil_iff rfl, h.input, input]
    rfl
  exact takes_files (List.pairwise_append.mp h.once).2.1
    (h.not_both (List.sublist_append_right front back)) (fun w _ => w.mem_options) closed some

theorem ofFlags_eq : LogLevel.ofFlags
    ((gather front []).has .verbose || (gather back []).has .verbose)
    ((gather front []).has .silent || (gather back []).has .silent) = l.level.getD .info := by
  have all (p : Parameter) : ((gather front []).has p || (gather back []).has p) =
      (gather (front ++ back) []).has p := by
    simp [has_gather]
  obtain ⟨verbose, silent⟩ := flag_mem (front ++ back)
  rw [h.level] at verbose silent
  rw [all, all, Bool.eq_iff_iff.mpr (verbose.trans decide_eq_true_iff.symm),
    Bool.eq_iff_iff.mpr (silent.trans decide_eq_true_iff.symm)]
  cases level : l.level with
  | none => rfl
  | some x =>
    have mem : x ∈ (front ++ back).filterMap Written.flag? := by simp [h.level, level]
    obtain ⟨w, -, sets⟩ := List.mem_filterMap.mp mem
    cases w <;> simp only [Written.flag?, reduceCtorEq, Option.some.injEq] at sets <;>
      subst sets <;> rfl

theorem settings_eq : (((gather back []).values .config).head?.or
    ((gather front []).values .config).head?).map String.ofList = l.settings := by
  have both := h.settings
  rw [said_append] at both
  rw [values_gather, values_gather]
  cases first : said .config front with
  | nil => 
    rw [first, List.nil_append] at both
    cases settings : l.settings <;> simp [both, settings]
  | cons value values =>
    rw [first] at both
    cases settings : l.settings <;> simp_all

theorem parse_eq {tool : Option Tool} (spelled : l.tool.map Tool.parse? = tool.map some)
    {rest : List String} {g : Given} (taken : Takes .fmt (rest.map String.toList) g)
    (values : ∀ p, p ≠ .files → g.values p = (gather back []).values p)
    (has : ∀ p, p ≠ .files → g.has p = (gather back []).has p) (program : String) :
    Invocation.parse (program :: (front.map Written.text ++ "fmt" :: rest)) =
      .ok ⟨match l.input with
        | some file => .formatInput tool l.projects file ()
        | none => .format tool l.projects (Invocation.strings g .files),
        l.level.getD .info, l.settings⟩ := by
  have ok : readAll ((program :: (front.map Written.text ++ "fmt" :: rest)).tail.map
      String.toList) = .ok ⟨.fmt, gather front [], g⟩ :=
    readAll_map_eq_ok_iff.mpr ⟨by simp [tasked], _, rest, rfl, not_escape front,
      texts front ▸ h.takes_front, taken⟩
  have known : Invocation.toolOf (g.values .tool).head? = .ok tool := by
    rw [Invocation.toolOf_eq_ok_iff, values _ (by decide), head?_said h.tool, ← spelled]
    cases l.tool <;> simp
  have projects : Invocation.strings g .project = l.projects := by
    rw [Invocation.strings, values _ (by decide), ← Invocation.strings, strings_gather, h.projects]
  rw [Invocation.parse_of_read ok, Invocation.ofReading_of_format rfl known]
  simp only [Reading.flag, Reading.value?, projects, values .stdin (by decide), head?_said h.input,
    values .config (by decide), has .verbose (by decide), has .silent (by decide), h.ofFlags_eq,
    h.settings_eq]
  cases l.input <;> simp

end Line.Arranged

def Written.ofLevel : LogLevel → List Written
  | .debug => [verbose]
  | .silent => [silent]
  | _ => []

namespace Line

variable (l : Line)

/-- The options that may stand on either side of the command. -/
def free : List Written :=
  l.settings.toList.map .config ++ l.level.toList.flatMap Written.ofLevel

def bound : List Written :=
  l.tool.toList.map .tool ++ l.projects.map .project ++ l.input.toList.map .stdin

theorem said_bound (p : Parameter) : said p l.bound =
    match p with
    | .tool => l.tool.toList
    | .project => l.projects
    | .stdin => l.input.toList
    | _ => [] := by
  cases p <;> simp [said, bound, List.filterMap_map, Written.parameter, Written.value?]

theorem said_free (p : Parameter) :
    said p l.free = if p = .config then l.settings.toList else [] := by
  have flags : said p (l.level.toList.flatMap Written.ofLevel) = [] := by
    rcases l.level with - | level
    · rfl
    · cases level <;> simp [said, Written.ofLevel, Written.value?]
  rw [free, said_append, flags, List.append_nil]
  by_cases config : p = .config
  · simp [said, config, List.filterMap_map, Written.parameter, Written.value?]
  · simp [said, config, List.filterMap_map, Written.parameter, Ne.symm config]

theorem flags_bound : l.bound.filterMap Written.flag? = [] := by
  simp [bound, List.filterMap_map, Written.flag?]

theorem flags_free (sets : ∀ level ∈ l.level, Written.ofLevel level ≠ []) :
    l.free.filterMap Written.flag? = l.level.toList := by
  rw [free, List.filterMap_append]
  cases given : l.level with
  | none => simp [List.filterMap_map, Written.flag?]
  | some level =>
    have set := sets level given
    cases level <;> simp [List.filterMap_map, Written.flag?, Written.ofLevel] at set ⊢

theorem mem_options_of_free {w : Written} (mem : w ∈ l.free) :
    w.parameter ∈ Command.root.options := by
  rw [free, List.mem_append, List.mem_map, List.mem_flatMap] at mem
  rcases mem with ⟨path, -, rfl⟩ | ⟨level, -, set⟩
  · simp [Written.parameter, Command.options, Command.parameters, Parameter.isPositional]
  · cases level <;> simp only [Written.ofLevel, List.mem_singleton, List.not_mem_nil] at set <;>
      subst set <;> decide

theorem eq_of_perm_toList {α : Type} {o : Option α} {xs : List α} (h : xs.Perm o.toList) :
    xs = o.toList := by
  cases o with
  | none => exact h.eq_nil
  | some x => exact List.perm_singleton.mp h

theorem arranged (sets : ∀ level ∈ l.level, Written.ofLevel level ≠ []) {front back : List Written}
    (all : (front ++ back).Perm l.free) : l.Arranged front (l.bound ++ back) := by
  have said_all (p : Parameter) :
      (said p front ++ said p back).Perm (if p = .config then l.settings.toList else []) := by
    rw [← said_append, ← said_free]
    exact all.filterMap _
  have none (p : Parameter) (other : p ≠ .config) : said p back = [] := by
    have empty := said_all p
    rw [if_neg other, List.perm_nil] at empty
    exact (List.append_eq_nil_iff.mp empty).2
  have flags := l.flags_free sets ▸ all.filterMap Written.flag?
  exact {
    general := fun w mem => l.mem_options_of_free (all.subset (List.mem_append_left _ mem))
    tool := by rw [said_append, said_bound, none _ (by decide), List.append_nil]
    projects := by rw [said_append, said_bound, none _ (by decide), List.append_nil]
    input := by rw [said_append, said_bound, none _ (by decide), List.append_nil]
    settings := by
      rw [said_append, said_append, said_bound, List.nil_append]
      exact eq_of_perm_toList (said_all .config)
    level := by
      rw [List.filterMap_append, List.filterMap_append, flags_bound, List.nil_append,
        ← List.filterMap_append]
      exact eq_of_perm_toList flags }

end Line

/-- A command line that is written out is read as it was meant: with the files behind two
dashes whatever they look like, or with standard input in place of one. -/
theorem ofCommandLine_written {l : Line} {front back : List Written} (h : l.Arranged front back)
    {tool : Option Tool} (spelled : l.tool.map Tool.parse? = tool.map some) (program : String) :
    (l.input = none → ∀ files, files ≠ [] → ∀ input, Invocation.ofCommandLine
      (program :: (front.map Written.text ++ "fmt" :: (back.map Written.text ++ "--" :: files)))
        input = .ok ⟨.format tool l.projects files, l.level.getD .info, l.settings⟩) ∧
    ∀ file, l.input = some file → ∀ text, Invocation.ofCommandLine
      (program :: (front.map Written.text ++ "fmt" :: back.map Written.text)) (.ok text) =
        .ok ⟨.formatInput tool l.projects file text, l.level.getD .info, l.settings⟩ := by
  constructor
  · intro none files some input
    have taken : Takes .fmt ((back.map Written.text ++ "--" :: files).map String.toList)
        ((gather back []).add .files (files.map String.toList)) := by
      rw [List.map_append, texts]
      exact h.takes_back none (by simpa using some)
    have parsed := h.parse_eq spelled taken (fun p other => by simp [Given.values_add, other.symm])
      (fun p other => by simp [Given.has_add, other.symm]) program
    rw [Invocation.ofCommandLine, Invocation.request_of_ok parsed, none]
    simp [Invocation.supply, Invocation.strings, Given.values_add, Given.values_of_not_has,
      has_files_gather]
  · intro file input text
    have taken : Takes .fmt ((back.map Written.text).map String.toList) (gather back []) := by
      rw [texts]
      exact h.takes_input input
    have parsed := h.parse_eq spelled taken (fun _ _ => rfl) (fun _ _ => rfl) program
    rw [Invocation.ofCommandLine, Invocation.request_of_ok parsed, input]
    rfl

theorem ofCommandLine_written_dashes :
    Invocation.ofCommandLine ["goformat", "--verbose", "fmt", "--tool=imports", "--project=-p",
      "--project=", "--config=a=b", "--", "--silent", "fmt", ""] (.error "closed") =
        .ok ⟨.format (some .goimports) ["-p", ""] ["--silent", "fmt", ""], .debug, some "a=b"⟩ ∧
    Invocation.ofCommandLine ["goformat", "--config=", "fmt", "--stdin=--", "--silent"]
      (.ok ['x']) = .ok ⟨.formatInput none [] "--" ['x'], .silent, some ""⟩ := by
  constructor
  · have line : Line.Arranged ⟨some "imports", ["-p", ""], none, some "a=b", some .debug⟩
        [.verbose] [.tool "imports", .project "-p", .project "", .config "a=b"] :=
      Line.arranged _ (by decide) (List.Perm.swap _ _ _)
    exact (ofCommandLine_written line rfl "goformat").1 rfl ["--silent", "fmt", ""] (by decide) _
  · have line : Line.Arranged ⟨none, [], some "--", some "", some .silent⟩
        [.config ""] [.stdin "--", .silent] :=
      Line.arranged _ (by decide) (.refl _)
    exact (ofCommandLine_written line rfl "goformat").2 _ rfl _

end FormatService.CommandLine
