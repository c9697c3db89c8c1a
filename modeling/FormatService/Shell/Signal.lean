import FormatService.Text.Basic

/-!
# Signals

Signals have numbers and names. Number zero is none: it only asks whether there is a process.
-/

set_option autoImplicit false

namespace FormatService.Shell

abbrev Signal := Nat

namespace Signal

def count : Nat := 32

def names : List String :=
  ["EXIT", "HUP", "INT", "QUIT", "ILL", "TRAP", "ABRT", "BUS", "FPE", "KILL", "USR1", "SEGV",
    "USR2", "PIPE", "ALRM", "TERM", "16", "CHLD", "CONT", "STOP", "TSTP", "TTIN", "TTOU", "URG",
    "XCPU", "XFSZ", "VTALRM", "PROF", "WINCH", "IO", "PWR", "SYS"]

def name (n : Signal) : Text := (names.getD n "").toList

def titles : List (Nat × String) :=
  [(1, "Hangup"), (2, "Interrupt"), (3, "Quit"), (4, "Illegal instruction"),
    (5, "Trace/breakpoint trap"), (6, "Aborted"), (7, "Bus error"), (8, "Floating point exception"),
    (9, "Killed"), (10, "User defined signal 1"), (11, "Segmentation fault"),
    (12, "User defined signal 2"), (13, "Broken pipe"), (14, "Alarm clock"), (15, "Terminated"),
    (16, "Stack fault"), (24, "CPU time limit exceeded"), (25, "File size limit exceeded"),
    (26, "Virtual timer expired"), (27, "Profiling timer expired"), (29, "I/O possible"),
    (30, "Power failure"), (31, "Bad system call")]

def title (n : Signal) : Text :=
  match titles.find? (·.1 == n) with
  | some (_, t) => t.toList
  | none => "Unknown signal ".toList ++ (toString n).toList

def isQuiet (n : Signal) : Bool := n == 2 || n == 13

def isHarmless (n : Signal) : Bool := [0, 17, 18, 23, 28].contains n

def ofDigits? (t : Text) : Option Signal :=
  if t.isEmpty || !t.all Char.isDigit then none
  else
    let n := t.foldl (fun n c => 10 * n + (c.toNat - 48)) 0
    if n < count then some n else none

def ofText? (t : Text) : Option Signal :=
  (ofDigits? t).or ((List.range count).find? fun n => 1 ≤ n && name n == t.map Char.toUpper)

end Signal

inductive Ended
  | exited (status : Nat)
  | killed (signal : Signal)
  deriving DecidableEq, Repr

namespace Ended

def status : Ended → Nat
  | exited n => n % 256
  | killed signal => 128 + signal

end Ended

end FormatService.Shell
