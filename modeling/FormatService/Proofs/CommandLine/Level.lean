import Mathlib.Data.List.Basic
import Mathlib.Logic.Relation
import FormatService.Proofs.CommandLine.Given

/-!
# The two levels of a command line

Reading an argument is a sequence of a few moves. None of them takes back what was given,
and what is read depends on later arguments only in its errors. So an argument list is read
just if it falls into two parts around the name of a command, and either part is taken by
its own level alone: nothing is checked across the name.
-/

set_option autoImplicit false

namespace FormatService.CommandLine

open Relation (ReflTransGen)

/-- What reading an argument can do besides ending the options. -/
inductive Move (c : Command) : Progress → Progress → Prop
  | collect {s : Progress} {p : Parameter} {values : List Text} (word : Text) :
      s.pending = some (p, values) → Move c s { s with pending := some (p, values ++ [word]) }
  | settle {s t : Progress} : settle c s = .ok t → Move c s t
  | add {s : Progress} {p : Parameter} {values : List Text} {g : Given} :
      s.pending = none → check c p values s.given = .ok g → Move c s { s with given := g }
  | await {s : Progress} {p : Parameter} (values : List Text) :
      s.pending = none → p.valued = true → Move c s { s with pending := some (p, values) }

/-- Only parameters that need a value wait for one, and all that were given have one. -/
structure Progress.Proper (s : Progress) : Prop where
  waiting : ∀ p values, s.pending = some (p, values) → p.valued = true
  filled : s.given.Filled

variable {c : Command} {p : Parameter} {values : List Text} {g : Given} {s t : Progress}
  {argument : Text} {arguments front rest : List Text}

theorem pending_of_settle (h : settle c s = .ok t) : t.pending = none := by
  rcases settle_cases h with ⟨idle, rfl⟩ | ⟨p, values, g, -, -, rfl⟩
  · exact idle
  · rfl

namespace Move

theorem onlyValues_eq (h : Move c s t) : t.onlyValues = s.onlyValues := by
  cases h with
  | settle settled => rcases settle_cases settled with ⟨-, rfl⟩ | ⟨p, values, g, -, -, rfl⟩ <;> rfl
  | _ => rfl

theorem proper (h : Move c s t) (hs : s.Proper) : t.Proper := by
  cases h with
  | collect word pending =>
    refine ⟨fun p values h => ?_, hs.filled⟩
    obtain ⟨rfl, -⟩ := Prod.mk.inj (Option.some.inj h)
    exact hs.waiting _ _ pending
  | settle settled =>
    rcases settle_cases settled with ⟨-, rfl⟩ | ⟨p, values, g, -, checked, rfl⟩
    · exact hs
    · obtain ⟨filled, -, -, -, rfl⟩ := check_eq_ok_iff.mp checked
      exact ⟨fun _ _ h => by simp at h, hs.filled.add filled⟩
  | add idle checked =>
    obtain ⟨filled, -, -, -, rfl⟩ := check_eq_ok_iff.mp checked
    exact ⟨fun _ _ h => by simp [idle] at h, hs.filled.add filled⟩
  | await values idle valued =>
    refine ⟨fun p values h => ?_, hs.filled⟩
    obtain ⟨rfl, -⟩ := Prod.mk.inj (Option.some.inj h)
    exact valued

theorem has_mono (h : Move c s t) (has : s.given.has p = true) : t.given.has p = true := by
  cases h with
  | settle settled =>
    rcases settle_cases settled with ⟨-, rfl⟩ | ⟨q, values, g, -, checked, rfl⟩
    · exact has
    · obtain ⟨-, -, -, -, rfl⟩ := check_eq_ok_iff.mp checked
      simp [Given.has_add, has]
  | add idle checked =>
    obtain ⟨-, -, -, -, rfl⟩ := check_eq_ok_iff.mp checked
    simp [Given.has_add, has]
  | _ => exact has

end Move

theorem moves_keep {P : Progress → Prop} (step : ∀ s t, Move c s t → P s → P t)
    (h : ReflTransGen (Move c) s t) (hs : P s) : P t := by
  induction h with
  | refl => exact hs
  | tail _ move ih => exact step _ _ move ih

theorem accept_moves (h : accept c p values s = .ok t) : ReflTransGen (Move c) s t := by
  rw [accept] at h
  obtain ⟨s', settled, h⟩ := bind_eq_ok.mp h
  obtain ⟨g, checked, h⟩ := bind_eq_ok.mp h
  obtain rfl := Except.ok.inj h
  exact .tail (.single (.settle settled)) (.add (pending_of_settle settled) checked)

theorem settled_moves {q : Parameter} (valued : q.valued = true)
    (h : (do let s ← settle c s; return { s with pending := some (q, values) }) = Except.ok t) :
    ReflTransGen (Move c) s t := by
  obtain ⟨s', settled, h⟩ := bind_eq_ok.mp h
  obtain rfl := Except.ok.inj h
  exact .tail (.single (.settle settled)) (.await values (pending_of_settle settled) valued)

theorem await_moves (valued : p.takesValue = true) (h : await c p s = .ok t) :
    ReflTransGen (Move c) s t :=
  settled_moves (by simp [Parameter.valued, valued]) h

theorem readLong_moves {name : Text} {value : Option Text}
    (h : readLong c name value rest s = .ok t) : ReflTransGen (Move c) s t := by
  cases known : c.option? name with
  | none => simp [readLong, known, misuse] at h
  | some p =>
    by_cases takes : p.takesValue = true
    · cases value with
      | none => exact await_moves takes (by simpa [readLong, known, takes] using h)
      | some value => exact accept_moves (by simpa [readLong, known, takes] using h)
    · cases value with
      | none => exact accept_moves (by simpa [readLong, known, takes] using h)
      | some value => simp [readLong, known, takes, misuse] at h

theorem readLetters_moves (letters : Text) (h : readLetters c letters s = .ok t) :
    ReflTransGen (Move c) s t := by
  induction letters generalizing s with
  | nil =>
    rw [readLetters] at h
    rw [Except.ok.inj h]
  | cons letter letters ih =>
    rw [readLetters] at h
    split at h
    · cases h
    · rename_i q _
      by_cases takes : q.takesValue = true
      · rw [if_neg (by simp [takes])] at h
        split at h
        · exact accept_moves h
        · exact await_moves takes h
      · rw [if_pos (by simp [takes])] at h
        obtain ⟨s', accepted, h⟩ := bind_eq_ok.mp h
        exact (accept_moves accepted).trans (ih h)

theorem readPositional_moves (h : readPositional c argument s = .ok t) :
    ReflTransGen (Move c) s t := by
  rw [readPositional] at h
  split at h
  · split at h
    · rename_i values pending
      rw [← Except.ok.inj h]
      exact .single (.collect argument pending)
    · exact settled_moves rfl h
  · rw [refuse] at h
    split at h
    · cases h
    · split at h <;> cases h

theorem readWord_moves (h : readWord c argument s = .ok t) : ReflTransGen (Move c) s t := by
  rw [readWord] at h
  split at h
  · rename_i q awaiting
    have pending : s.pending = some (q, []) := by
      rw [Progress.awaiting?] at awaiting
      split at awaiting
      · simp_all
      · cases awaiting
    rw [← Except.ok.inj h]
    exact .single (.collect argument pending)
  · exact readPositional_moves h

theorem ofText_eq_escape_iff : Shape.ofText argument = .escape ↔ argument = ['-', '-'] := by
  constructor
  · intro h
    unfold Shape.ofText at h
    split at h <;> simp_all
  · rintro rfl
    rfl

theorem option?_of_mem (h : p ∈ c.options) : c.option? p.name.toList = some p := by
  cases c <;> cases p <;> first | rfl | exact absurd h (by decide)

theorem ofText_named (p : Parameter) (value : Option Text) :
    Shape.ofText ('-' :: '-' :: (p.name.toList ++ value.elim [] ('=' :: ·))) =
      .long p.name.toList value := by
  cases value with
  | none => cases p <;> rfl
  | some value =>
    have plain : '=' ∉ p.name.toList := by cases p <;> decide
    have long : Shape.ofText ('-' :: '-' :: (p.name.toList ++ '=' :: value)) =
        .long (Shape.beforeEquals (p.name.toList ++ '=' :: value))
          (Shape.afterEquals? (p.name.toList ++ '=' :: value)) := by
      cases p <;> rfl
    rw [Option.elim_some, long, Shape.beforeEquals_append _ _ plain,
      Shape.afterEquals?_append _ _ plain]

theorem readArgument_moves (h : readArgument c argument rest s = .ok t) :
    (s.onlyValues = false ∧ argument = ['-', '-'] ∧ t = { s with onlyValues := true }) ∨
      ((s.onlyValues = false → argument ≠ ['-', '-']) ∧ ReflTransGen (Move c) s t) := by
  rw [readArgument] at h
  by_cases only : s.onlyValues = true
  · rw [if_pos only] at h
    exact .inr ⟨by simp [only], readPositional_moves h⟩
  · rw [if_neg only] at h
    have free : s.onlyValues = false := by simpa using only
    by_cases escape : argument = ['-', '-']
    · rw [ofText_eq_escape_iff.mpr escape] at h
      exact .inl ⟨free, escape, (Except.ok.inj h).symm⟩
    · refine .inr ⟨fun _ => escape, ?_⟩
      split at h
      · rename_i shape
        exact absurd (ofText_eq_escape_iff.mp shape) escape
      · exact readLong_moves h
      · exact readLetters_moves _ h
      · exact readWord_moves h

theorem readArgument_keep {P : Progress → Prop} (step : ∀ s t, Move c s t → P s → P t)
    (escape : ∀ s, P s → P { s with onlyValues := true })
    (h : readArgument c argument rest s = .ok t) (hs : P s) : P t := by
  rcases readArgument_moves h with ⟨-, -, rfl⟩ | ⟨-, moves⟩
  · exact escape s hs
  · exact moves_keep step moves hs

theorem onlyValues_readArgument (h : readArgument c argument rest s = .ok t) :
    t.onlyValues = false ↔ s.onlyValues = false ∧ argument ≠ ['-', '-'] := by
  rcases readArgument_moves h with ⟨-, escape, rfl⟩ | ⟨other, moves⟩
  · simp [escape]
  · have same : t.onlyValues = s.onlyValues :=
      moves_keep (fun _ _ move eq => move.onlyValues_eq.trans eq) moves rfl
    rw [same]
    exact ⟨fun free => ⟨free, other free⟩, fun h => h.1⟩

theorem readArgument_congr (h : readArgument c argument rest s = .ok t) (rest' : List Text) :
    readArgument c argument rest' s = .ok t := by
  rw [readArgument] at h ⊢
  split at h
  · rename_i only
    rw [if_pos only, h]
  · rename_i free
    rw [if_neg free]
    split at h
    · exact h
    · rename_i name value _
      cases known : c.option? name with
      | none => simp [readLong, known, misuse] at h
      | some p => cases value <;> simpa [readLong, known] using h
    · exact h
    · exact h

theorem read_cons_iff : read c (argument :: rest) s = .ok (t, none) ↔
    commandAt? c argument s = none ∧
      ∃ s', readArgument c argument rest s = .ok s' ∧ read c rest s' = .ok (t, none) := by
  rw [read]
  cases named : commandAt? c argument s with
  | some sub => simp
  | none => simp only [bind_eq_ok, true_and]

theorem read_append (h : read c front s = .ok (t, none)) (rest : List Text) :
    read c (front ++ rest) s = read c rest t := by
  -- The front was read with nothing behind it, so each of its arguments is read anew.
  induction front generalizing s with
  | nil =>
    rw [read, Except.ok.injEq, Prod.mk.injEq] at h
    rw [List.nil_append, h.1]
  | cons argument front ih =>
    obtain ⟨unnamed, s', ok, hr⟩ := read_cons_iff.mp h
    rw [List.cons_append, read, unnamed, readArgument_congr ok]
    exact ih hr

theorem read_named {sub : Command} (h : read c arguments s = .ok (t, some (sub, rest))) :
    ∃ front word, arguments = front ++ word :: rest ∧ read c front s = .ok (t, none) ∧
      commandAt? c word t = some sub := by
  induction arguments generalizing s with
  | nil => simp [read] at h
  | cons argument arguments ih =>
    rw [read] at h
    cases named : commandAt? c argument s with
    | some found =>
      simp only [named, Except.ok.injEq, Prod.mk.injEq, Option.some.injEq] at h
      obtain ⟨rfl, rfl, rfl⟩ := h
      exact ⟨[], argument, rfl, rfl, named⟩
    | none =>
      rw [named] at h
      obtain ⟨s', ok, h⟩ := bind_eq_ok.mp h
      obtain ⟨front, word, rfl, hr, last⟩ := ih h
      refine ⟨argument :: front, word, rfl, ?_, last⟩
      exact read_cons_iff.mpr ⟨named, s', readArgument_congr ok front, hr⟩

theorem read_keep {P : Progress → Prop} (step : ∀ s t, Move c s t → P s → P t)
    (escape : ∀ s, P s → P { s with onlyValues := true })
    (h : read c arguments s = .ok (t, none)) (hs : P s) : P t := by
  induction arguments generalizing s with
  | nil =>
    rw [read, Except.ok.injEq, Prod.mk.injEq] at h
    exact h.1 ▸ hs
  | cons argument arguments ih =>
    obtain ⟨-, s', ok, hr⟩ := read_cons_iff.mp h
    exact ih hr (readArgument_keep step escape ok hs)

theorem proper_start : Progress.start.Proper :=
  ⟨fun _ _ h => by simp [Progress.start] at h, fun _ h => by simp [Progress.start] at h⟩

theorem read_proper (h : read c arguments .start = .ok (t, none)) : t.Proper :=
  read_keep (fun _ _ move => move.proper) (fun _ hs => ⟨hs.waiting, hs.filled⟩) h proper_start

theorem onlyValues_read (h : read c arguments s = .ok (t, none)) :
    t.onlyValues = false ↔ s.onlyValues = false ∧ ['-', '-'] ∉ arguments := by
  induction arguments generalizing s with
  | nil =>
    rw [read, Except.ok.injEq, Prod.mk.injEq] at h
    simp [h.1]
  | cons argument arguments ih =>
    obtain ⟨-, s', ok, hr⟩ := read_cons_iff.mp h
    rw [ih hr, onlyValues_readArgument ok, List.mem_cons, not_or, and_assoc, ne_comm]

/-- A command takes these arguments, none of them the name of a command, for what is given. -/
def Takes (c : Command) (arguments : List Text) (g : Given) : Prop :=
  ∃ s, read c arguments .start = .ok (s, none) ∧ conclude c s = .ok g

theorem Takes.filled (h : Takes c arguments g) : g.Filled := by
  obtain ⟨s, hr, concluded⟩ := h
  obtain ⟨t, settled, rfl, -⟩ := conclude_eq_ok_iff.mp concluded
  exact ((Move.settle settled).proper (read_proper hr)).filled

theorem Takes.rivals (h : Takes c arguments g) : rivals? g = none := by
  obtain ⟨s, -, concluded⟩ := h
  obtain ⟨t, -, rfl, peace, -⟩ := conclude_eq_ok_iff.mp concluded
  exact peace

theorem Takes.whole (h : Takes c arguments g) : lacksFiles c g = false := by
  obtain ⟨s, -, concluded⟩ := h
  obtain ⟨t, -, rfl, -, whole⟩ := conclude_eq_ok_iff.mp concluded
  exact whole

theorem awaiting?_of_settle (proper : s.Proper) (h : settle c s = .ok t) :
    s.awaiting? = none := by
  rcases settle_cases h with ⟨idle, -⟩ | ⟨p, values, g, pending, checked, -⟩
  · simp [Progress.awaiting?, idle]
  · have filled := (check_eq_ok_iff.mp checked).1 (proper.waiting p values pending)
    cases values with
    | nil => exact absurd rfl filled
    | cons value values => simp [Progress.awaiting?, pending]

theorem commandAt?_eq_some_iff {sub : Command} : commandAt? c argument s = some sub ↔
    s.onlyValues = false ∧ s.awaiting? = none ∧ c.command? argument = some sub := by
  rw [commandAt?]
  cases s.onlyValues <;> cases s.awaiting? <;> simp

theorem read_of_bare {named : Option (Command × List Text)} (bare : c.commands = [])
    (h : read c arguments s = .ok (t, named)) : named = none := by
  cases named with
  | none => rfl
  | some named =>
    obtain ⟨sub, rest⟩ := named
    obtain ⟨-, word, -, -, found⟩ := read_named h
    obtain ⟨-, -, found⟩ := commandAt?_eq_some_iff.mp found
    simp [Command.command?, bare] at found

def tasked : List Command := [.fmt, .outputTools, .version]

theorem command?_root_iff (word : Text) (c : Command) : Command.root.command? word = some c ↔
    c ∈ Command.help :: tasked ∧ word = c.name.toList := by
  constructor
  · intro h
    have mem := List.mem_of_find?_eq_some h
    have named := List.find?_some h
    cases c <;> simp_all [tasked, Command.commands]
  · rintro ⟨mem, rfl⟩
    cases c <;> first | rfl | simp [tasked] at mem

theorem bare_of_tasked (h : c ∈ tasked) : c.commands = [] := by
  cases c <;> first | rfl | simp [tasked] at h

theorem readAll_eq_ok_iff {r : Reading} : readAll arguments = .ok r ↔
    r.command ∈ tasked ∧ ∃ front back, arguments = front ++ r.command.name.toList :: back ∧
      ['-', '-'] ∉ front ∧ Takes .root front r.before ∧ Takes r.command back r.after := by
  constructor
  · intro h
    rw [readAll] at h
    obtain ⟨⟨s, named⟩, hr, h⟩ := bind_eq_ok.mp h
    dsimp only at h
    split at h
    · obtain ⟨s', -, h⟩ := bind_eq_ok.mp h
      cases h
    · cases h
    · rename_i command rest notHelp
      obtain ⟨⟨t, further⟩, hr', h⟩ := bind_eq_ok.mp h
      obtain ⟨after, concluded', h⟩ := bind_eq_ok.mp h
      obtain ⟨before, concluded, h⟩ := bind_eq_ok.mp h
      obtain rfl := Except.ok.inj h
      obtain ⟨front, word, rfl, hf, found⟩ := read_named hr
      obtain ⟨free, -, found⟩ := commandAt?_eq_some_iff.mp found
      obtain ⟨mem, rfl⟩ := (command?_root_iff word command).mp found
      have task : command ∈ tasked := by
        rcases List.mem_cons.mp mem with rfl | mem
        · exact absurd rfl notHelp
        · exact mem
      obtain rfl : further = none := read_of_bare (bare_of_tasked task) hr'
      exact ⟨task, front, rest, rfl, ((onlyValues_read hf).mp free).2, ⟨s, hf, concluded⟩,
        t, hr', concluded'⟩
  · obtain ⟨command, before, after⟩ := r
    dsimp only
    rintro ⟨mem, front, back, rfl, free, ⟨s, hr, concluded⟩, t, hr', concluded'⟩
    obtain ⟨s', settled, -⟩ := conclude_eq_ok_iff.mp concluded
    -- A front that can be concluded leaves no option waiting, which would take the name.
    have named : commandAt? .root command.name.toList s = some command :=
      commandAt?_eq_some_iff.mpr ⟨(onlyValues_read hr).mpr ⟨rfl, free⟩,
        awaiting?_of_settle (read_proper hr) settled,
        (command?_root_iff _ _).mpr ⟨List.mem_cons_of_mem _ mem, rfl⟩⟩
    rw [readAll, read_append hr, read, named]
    obtain rfl | rfl | rfl : command = .fmt ∨ command = .outputTools ∨ command = .version := by
      simpa [tasked] using mem
    all_goals simp only [bind, Except.bind, hr', concluded', concluded, pure, Except.pure]

theorem toList_mem_map (word : String) (words : List String) :
    word.toList ∈ words.map String.toList ↔ word ∈ words :=
  List.mem_map_of_injective fun _ _ same => String.toList_inj.mp same

theorem readAll_map_eq_ok_iff {arguments : List String} {r : Reading} :
    readAll (arguments.map String.toList) = .ok r ↔
      r.command ∈ tasked ∧ ∃ front back, arguments = front ++ r.command.name :: back ∧
        "--" ∉ front ∧ Takes .root (front.map String.toList) r.before ∧
        Takes r.command (back.map String.toList) r.after := by
  have dashes : ∀ words : List String, ['-', '-'] ∈ words.map String.toList ↔ "--" ∈ words :=
    toList_mem_map "--"
  rw [readAll_eq_ok_iff]
  refine and_congr_right fun _ => ⟨?_, ?_⟩
  · rintro ⟨front, back, split, free, taken⟩
    obtain ⟨front, rest, rfl, rfl, named⟩ := List.map_eq_append_iff.mp split
    obtain ⟨name, back, rfl, same, rfl⟩ := List.map_eq_cons_iff.mp named
    obtain rfl := String.toList_injective same
    exact ⟨front, back, rfl, mt (dashes front).mpr free, taken⟩
  · rintro ⟨front, back, rfl, free, taken⟩
    exact ⟨front.map String.toList, back.map String.toList, by simp,
      mt (dashes front).mp free, taken⟩

end FormatService.CommandLine
