import FormatService.Shell.Builtin.Basic

/-!
# Sending signals
-/

set_option autoImplicit false

namespace FormatService.Shell.Builtin

def mourn (ended : Ended) (s : State) : State :=
  match ended with
  | .exited _ => s
  | .killed n => if Signal.isQuiet n then s else s.write 2 (n.title ++ ['\n'])

def killOrder (ws : List Text) : Except Text (Signal × List Text) :=
  match ws with
  | ('-' :: w) :: rest =>
    match Signal.ofText? w with
    | some n => .ok (n, rest)
    | none => do
      let g ← given ⟨[], ['s']⟩ ws
      let value := ((g.options.getLast?).map (·.2)).getD "TERM".toList
      match Signal.ofText? value with
      | some n => .ok (n, g.words)
      | none => .error ("invalid signal number or name: ".toList ++ value)
  | ws => .ok (15, ws)

/-- Sends a signal to processes. Only the script itself can be reached. -/
def sending (n : Signal) : Nat → List Text → State → State × Flow
  | status, [], s => ends status s
  | status, w :: ws, s =>
    number w s fun process =>
      if process ≠ s.process then sending n 1 ws (s.complain "No such process\n".toList)
      else if Signal.isHarmless n then sending n status ws s
      else (s, .killed n)

def kill : Builtin := fun ws s =>
  match killOrder ws with
  | .error complaint => s.mistaken complaint
  | .ok (n, ws) => sending n 0 ws s

end FormatService.Shell.Builtin
