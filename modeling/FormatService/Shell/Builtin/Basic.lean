import FormatService.Shell.State

/-!
# Built-in commands

A built-in command gets its arguments and changes the state of the script. Many of them
take options, which are letters behind a dash.
-/

set_option autoImplicit false

namespace FormatService.Shell

abbrev Builtin := List Text → State → State × Flow

namespace Builtin

def ends (n : Nat) (s : State) : State × Flow := (s.withStatus n, .next)

def done (s : State) : State × Flow := ends 0 s

def prints (t : Text) (s : State) : State × Flow := done (s.write 1 t)

/-- Options with their values, and the words after them. -/
structure Given where
  options : List (Char × Text)
  words : List Text
  deriving DecidableEq, Repr

namespace Given

def has (g : Given) (c : Char) : Bool := g.options.any (·.1 == c)

end Given

/-- Which options a command takes: letters alone, and letters with a value. -/
structure Known where
  plain : Text
  valued : Text

def letters (k : Known) : Text → Except Text (List (Char × Text) × Option Char)
  | [] => .ok ([], none)
  | c :: t =>
    if k.valued.contains c then
      if t.isEmpty then .ok ([], some c) else .ok ([(c, t)], none)
    else if k.plain.contains c then
      (letters k t).map fun (more, last) => ((c, []) :: more, last)
    else .error ("Illegal option -".toList ++ [c])

def given (k : Known) : List Text → Except Text Given
  | ['-', '-'] :: ws => .ok ⟨[], ws⟩
  | ('-' :: c :: t) :: ws =>
    match letters k (c :: t), ws with
    | .error complaint, _ => .error complaint
    | .ok (found, none), ws => (given k ws).map fun g => { g with options := found ++ g.options }
    | .ok (_, some c), [] => .error ("No arg for -".toList ++ c :: " option".toList)
    | .ok (found, some c), value :: ws =>
      (given k ws).map fun g => { g with options := found ++ (c, value) :: g.options }
  | ws => .ok ⟨[], ws⟩

def taking (plain valued : String) (run : Given → State → State × Flow) : Builtin := fun ws s =>
  match given ⟨plain.toList, valued.toList⟩ ws with
  | .error complaint => s.mistaken complaint
  | .ok g => run g s

def number (w : Text) (s : State) (use : Nat → State × Flow) : State × Flow :=
  match Arithmetic.count? w with
  | some n => use n
  | none => s.mistaken ("Illegal number: ".toList ++ w)

def numberOr (otherwise : Nat) (ws : List Text) (s : State) (use : Nat → State × Flow) :
    State × Flow :=
  match ws with
  | [] => use otherwise
  | w :: _ => number w s use

def setting (name value : Text) (s : State) (andThen : State → State × Flow) : State × Flow :=
  match s.assign name value with
  | .ok s => andThen s
  | .error complaint => s.mistaken complaint

end Builtin

end FormatService.Shell
