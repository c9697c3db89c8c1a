import FormatService.Shell.Builtin.Basic
import FormatService.Shell.Condition
import FormatService.Shell.Lookup
import FormatService.Shell.Print

/-!
# Commands that print and test
-/

set_option autoImplicit false

namespace FormatService.Shell.Builtin

def echo : Builtin := fun ws => prints (Print.echo ws)

/-- Prints arguments by a format. Doubts about arguments only show in the status. What is printed
is held back until the command ends, so complaints come before it. -/
def printf : Builtin := taking "" "" fun g s =>
  match g.words with
  | [] => s.mistaken "usage: printf format [arg ...]".toList
  | format :: ws =>
    let printed := Print.printf format ws
    let s := printed.doubts.foldl (fun (s : State) (w, d) =>
      s.complain (w ++ ": ".toList ++ d.message.toList)) s
    let (s, flow) := match printed.fault with
      | some f => s.mistaken f.message
      | none => ends (if printed.doubts.isEmpty then 0 else 1) s
    (s.write 1 printed.out, flow)

def test (inBrackets : Bool) : Builtin := fun ws s =>
  if inBrackets && ws.getLast? != some [']'] then s.mistaken "missing ]".toList
  else
    match Condition.holds s (if inBrackets then ws.dropLast else ws) with
    | .ok answer => ends (if answer then 0 else 1) s
    | .error complaint => s.mistaken complaint

def command : Builtin := taking "v" "" fun g s =>
  match if g.has 'v' then g.words.head? else none with
  | none => done s
  | some name =>
    match Lookup.runner? s name with
    | some t => prints (t ++ ['\n']) s
    | none => ends 127 s

end FormatService.Shell.Builtin
