import FormatService.Proofs.CommandLine.Request

/-!
# The flags of the log level

Both flags are options of the program and of each command, and neither level of a command line
takes both. The levels are checked apart, so an argument list with both is accepted just if one
flag stands in front of the command and the other behind it. The run is silent then.
-/

set_option autoImplicit false

namespace FormatService.CommandLine

variable {c : Command} {p : Parameter} {g : Given} {s t : Progress}

def dashed (p : Parameter) : Text := '-' :: '-' :: p.name.toList

theorem ofText_dashed (p : Parameter) : Shape.ofText (dashed p) = .long p.name.toList none := by
  simpa [dashed] using ofText_named p none

theorem has_of_accept {values : List Text} (h : accept c p values s = .ok t) :
    t.given.has p = true := by
  rw [accept] at h
  obtain ⟨s', -, h⟩ := bind_eq_ok.mp h
  obtain ⟨g, checked, h⟩ := bind_eq_ok.mp h
  obtain ⟨-, -, -, -, rfl⟩ := check_eq_ok_iff.mp checked
  simp [← Except.ok.inj h, Given.has_add]

theorem has_of_readArgument {rest : List Text} (mem : p ∈ c.options) (flag : p.takesValue = false)
    (free : s.onlyValues = false) (h : readArgument c (dashed p) rest s = .ok t) :
    t.given.has p = true := by
  rw [readArgument, free, ofText_dashed] at h
  simp only [readLong, option?_of_mem mem, flag] at h
  exact has_of_accept h

theorem has_of_read {arguments : List Text} (mem : p ∈ c.options) (flag : p.takesValue = false)
    (free : s.onlyValues = false) (h : read c arguments s = .ok (t, none))
    (given : dashed p ∈ arguments.takeWhile (· ≠ ['-', '-'])) : t.given.has p = true := by
  induction arguments generalizing s with
  | nil => simp at given
  | cons argument arguments ih =>
    obtain ⟨-, s', ok, hr⟩ := read_cons_iff.mp h
    by_cases escape : argument = ['-', '-']
    · simp [escape] at given
    · rw [List.takeWhile_cons_of_pos (by simpa using escape)] at given
      rcases List.mem_cons.mp given with rfl | later
      · exact read_keep (fun _ _ move => move.has_mono) (fun _ has => has) hr
          (has_of_readArgument mem flag free ok)
      · exact ih ((onlyValues_readArgument ok).mpr ⟨free, escape⟩) hr later

/-- The arguments that can be options: those in front of the first `--`. -/
def optional (arguments : List String) : List String := arguments.takeWhile (· ≠ "--")

theorem dashed_mem {arguments : List String} (h : "--" ++ p.name ∈ optional arguments) :
    dashed p ∈ (arguments.map String.toList).takeWhile (· ≠ ['-', '-']) := by
  induction arguments with
  | nil => simp [optional] at h
  | cons argument arguments ih =>
    by_cases escape : argument = "--"
    · simp [optional, escape] at h
    · have other : argument.toList ≠ ['-', '-'] := fun same =>
        escape (String.toList_injective same)
      rw [optional, List.takeWhile_cons_of_pos (by simpa using escape)] at h
      rw [List.map_cons, List.takeWhile_cons_of_pos (by simpa using other)]
      rcases List.mem_cons.mp h with rfl | later
      · simp [dashed]
      · exact List.mem_cons_of_mem _ (ih later)

theorem Takes.has {arguments : List String} (taken : Takes c (arguments.map String.toList) g)
    (mem : p ∈ c.options) (flag : p.takesValue = false)
    (given : "--" ++ p.name ∈ optional arguments) : g.has p = true := by
  obtain ⟨s, hr, concluded⟩ := taken
  obtain ⟨t, settled, rfl, -⟩ := conclude_eq_ok_iff.mp concluded
  exact (Move.settle settled).has_mono (has_of_read mem flag rfl hr (dashed_mem given))

theorem optional_append {front : List String} (free : "--" ∉ front) (rest : List String) :
    optional (front ++ rest) = front ++ optional rest := by
  apply List.takeWhile_append_of_pos
  intro word mem
  simpa using fun same : word = "--" => free (same ▸ mem)

theorem optional_of_free {front : List String} (free : "--" ∉ front) : optional front = front := by
  simpa [optional] using optional_append free []

def Parted (front back : List String) : Prop :=
  ("--verbose" ∈ front ∧ "--silent" ∈ optional back) ∨
    ("--silent" ∈ front ∧ "--verbose" ∈ optional back)

theorem flags_mem_options (h : c ∈ Command.root :: tasked) :
    Parameter.verbose ∈ c.options ∧ Parameter.silent ∈ c.options := by
  cases c <;> first | decide | exact absurd h (by decide)

theorem Takes.not_both {arguments : List String}
    (taken : Takes c (arguments.map String.toList) g) (mem : c ∈ Command.root :: tasked) :
    ¬("--verbose" ∈ optional arguments ∧ "--silent" ∈ optional arguments) := by
  rintro ⟨verbose, silent⟩
  obtain ⟨hv, hs⟩ := flags_mem_options mem
  exact ((rivals?_eq_none_iff _).mp taken.rivals).1
    ⟨taken.has hv rfl verbose, taken.has hs rfl silent⟩

theorem mem_optional_of_split {front back : List String} (free : "--" ∉ front) (c : Command)
    {p : Parameter} (h : "--" ++ p.name ∈ optional (front ++ c.name :: back)) :
    "--" ++ p.name ∈ front ∨ "--" ++ p.name ∈ optional back := by
  have command : c.name ≠ "--" := by cases c <;> decide
  have apart : "--" ++ p.name ≠ c.name := by cases c <;> cases p <;> decide
  rw [optional_append free, optional, List.takeWhile_cons_of_pos (by simpa using command)] at h
  simpa [optional, apart] using h

theorem parted_of_takes {front back : List String} {before after : Given} (mem : c ∈ tasked)
    (free : "--" ∉ front) (first : Takes .root (front.map String.toList) before)
    (second : Takes c (back.map String.toList) after)
    (verbose : "--verbose" ∈ optional (front ++ c.name :: back))
    (silent : "--silent" ∈ optional (front ++ c.name :: back)) : Parted front back := by
  have same := optional_of_free free
  -- Either flag has a side; one side with both would not have been taken.
  rcases mem_optional_of_split (p := .verbose) free c verbose with hv | hv <;>
    rcases mem_optional_of_split (p := .silent) free c silent with hs | hs
  · exact absurd ⟨same.symm ▸ hv, same.symm ▸ hs⟩ (first.not_both List.mem_cons_self)
  · exact .inl ⟨hv, hs⟩
  · exact .inr ⟨hs, hv⟩
  · exact absurd ⟨hv, hs⟩ (second.not_both (List.mem_cons_of_mem _ mem))

theorem flags_of_parted {front back : List String} {r : Reading} (mem : r.command ∈ tasked)
    (free : "--" ∉ front) (first : Takes .root (front.map String.toList) r.before)
    (second : Takes r.command (back.map String.toList) r.after) (parted : Parted front back) :
    r.flag .silent = true := by
  rw [Reading.flag, Bool.or_eq_true]
  rcases parted with ⟨-, silent⟩ | ⟨silent, -⟩
  · exact .inr (second.has (flags_mem_options (List.mem_cons_of_mem _ mem)).2 rfl silent)
  · exact .inl (first.has (flags_mem_options List.mem_cons_self).2 rfl
      ((optional_of_free free).symm ▸ silent))

theorem read_of_both {program : String} {arguments : List String}
    (verbose : "--verbose" ∈ optional arguments) (silent : "--silent" ∈ optional arguments)
    {input : Except String Text} {i : Invocation Text}
    (h : Invocation.ofCommandLine (program :: arguments) input = .ok i) :
    ∃ r, readAll (arguments.map String.toList) = .ok r ∧
      i.level = .ofFlags (r.flag .verbose) (r.flag .silent) := by
  have whole : Invocation.parse (program :: arguments) = Invocation.ofArguments arguments := by
    rcases arguments with - | ⟨argument, - | ⟨next, rest⟩⟩
    · simp [optional] at verbose
    · have hv : "--verbose" = argument :=
        List.mem_singleton.mp ((List.takeWhile_prefix _).subset verbose)
      have hs : "--silent" = argument :=
        List.mem_singleton.mp ((List.takeWhile_prefix _).subset silent)
      exact absurd (hv.trans hs.symm) (by decide)
    · rfl
  rw [Invocation.ofCommandLine] at h
  cases parsed : Invocation.parse (program :: arguments) with
  | error fault =>
    rw [Invocation.request_of_error parsed] at h
    cases h
  | ok j =>
    rw [Invocation.request_of_ok parsed] at h
    rw [whole, Invocation.ofArguments] at parsed
    split at parsed
    · rename_i r ok
      exact ⟨r, ok, (Invocation.level_of_supply h).trans (Invocation.level_of_ofReading parsed)⟩
    · cases parsed

/-- The flags are checked on each side of the command only: with both of them an argument
list is accepted if and only if they are on different sides and all else is right. -/
theorem both_flags_accepted_iff (program : String) {arguments : List String}
    (verbose : "--verbose" ∈ optional arguments) (silent : "--silent" ∈ optional arguments)
    (input : Except String Text) :
    ((∃ i, Invocation.ofCommandLine (program :: arguments) input = .ok i) ↔
      ∃ (r : Reading) (front back : List String), arguments = front ++ r.command.name :: back ∧
        r.command ∈ tasked ∧ "--" ∉ front ∧ Parted front back ∧
        Takes .root (front.map String.toList) r.before ∧
        Takes r.command (back.map String.toList) r.after ∧
        r.KnowsTool ∧ (r.WantsInput → ∃ text, input = .ok text)) ∧
    ∀ i, Invocation.ofCommandLine (program :: arguments) input = .ok i → i.level = .silent := by
  refine ⟨⟨?_, ?_⟩, fun i h => ?_⟩
  · rintro ⟨i, h⟩
    obtain ⟨r, ok, -⟩ := read_of_both verbose silent h
    obtain ⟨mem, front, back, rfl, free, first, second⟩ := readAll_map_eq_ok_iff.mp ok
    have right := (Invocation.ofCommandLine_of_read (program :: _) ok).mp ⟨i, h⟩
    exact ⟨r, front, back, rfl, mem, free, parted_of_takes mem free first second verbose silent,
      first, second, right⟩
  · rintro ⟨r, front, back, rfl, mem, free, -, first, second, right⟩
    have ok := readAll_map_eq_ok_iff.mpr ⟨mem, front, back, rfl, free, first, second⟩
    exact (Invocation.ofCommandLine_of_read (program :: _) ok).mpr right
  · obtain ⟨r, ok, level⟩ := read_of_both verbose silent h
    obtain ⟨mem, front, back, rfl, free, first, second⟩ := readAll_map_eq_ok_iff.mp ok
    have parted := parted_of_takes mem free first second verbose silent
    rw [level, flags_of_parted mem free first second parted]
    rfl

theorem both_flags_accepted_iff_apart :
    "--verbose" ∈ optional ["--verbose", "fmt", "--silent", "x.go"] ∧
      "--silent" ∈ optional ["--verbose", "fmt", "--silent", "x.go"] ∧
      ∃ (r : Reading) (front back : List String),
        ["--verbose", "fmt", "--silent", "x.go"] = front ++ r.command.name :: back ∧
          Parted front back := by
  have verbose : "--verbose" ∈ optional ["--verbose", "fmt", "--silent", "x.go"] := by decide
  have silent : "--silent" ∈ optional ["--verbose", "fmt", "--silent", "x.go"] := by decide
  obtain ⟨r, front, back, split, -, -, parted, -⟩ :=
    (both_flags_accepted_iff "goformat" verbose silent (.ok [])).1.mp ⟨_, rfl⟩
  exact ⟨verbose, silent, r, front, back, split, parted⟩

/-- The flags do not exclude each other. -/
theorem both_flags_accepted : ¬∀ (program : String) (arguments : List String)
    (input : Except String Text), "--verbose" ∈ optional arguments →
      "--silent" ∈ optional arguments →
        ∃ fault, Invocation.ofCommandLine (program :: arguments) input = .error fault := by
  intro h
  obtain ⟨fault, refused⟩ :=
    h "goformat" ["--verbose", "fmt", "--silent", "x.go"] (.ok []) (by decide) (by decide)
  have accepted : Invocation.ofCommandLine ["goformat", "--verbose", "fmt", "--silent", "x.go"]
    (.ok []) = .ok ⟨.format none [] ["x.go"], .silent, none⟩ := rfl
  rw [accepted] at refused
  cases refused

end FormatService.CommandLine
