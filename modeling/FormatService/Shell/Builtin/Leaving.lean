import FormatService.Shell.Builtin.Basic

/-!
# Leaving scripts, functions and loops
-/

set_option autoImplicit false

namespace FormatService.Shell.Builtin

def exit : Builtin := fun ws s =>
  match ws with
  | [] => (s, .leave)
  | w :: _ => number w s fun n => ({ s with final := some n }, .leave)

def back : Builtin := fun ws s =>
  match ws with
  | [] => (s, .back)
  | w :: _ => number w s fun n => (s.withStatus n, .back)

def looping (flow : Nat → Flow) : Builtin := fun ws s =>
  numberOr 1 ws s fun n =>
    if n = 0 then s.mistaken ("Illegal number: ".toList ++ ws.headD [])
    else
      let s := s.withStatus 0
      (s, if s.loops = 0 then .next else flow (min n s.loops))

def stop : Builtin := looping .stop

def skip : Builtin := looping .skip

end FormatService.Shell.Builtin
