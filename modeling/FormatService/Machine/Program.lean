import FormatService.Execution
import FormatService.Machine.Basic

/-!
# The program on a machine

A run of the whole program: its arguments are read, the task is carried out, and
a failure is reported on standard error unless the run is silent.
-/

set_option autoImplicit false

namespace FormatService.Machine

def overflowCode : Nat := 101

def report (f : Failure) (m : Machine) : Machine :=
  if m.level = .silent ∨ f.message = "" then m else m.note f.message

def finish : Ending × Machine → Nat × Machine
  | (.done, m) => (0, m)
  | (.failed f, m) => (Ending.failureCode, m.report f)
  | (.overflow, m) => (overflowCode, m)

/-- Runs the program with its arguments and standard input. Until the arguments are
understood, nothing is silent. -/
def program (arguments : List String) (input : Bytes) (m : Machine) : Nat × Machine :=
  let name := CommandLine.Command.root.name
  let m := { m with level := .info, forMachine := false }
  match CommandLine.Invocation.ofCommandLine (name :: arguments)
      ((Bytes.text input).mapError fun _ => notText) with
  | .error fault => (Ending.failureCode, m.report fault.failure)
  | .ok i => finish (Execution.run i { m with level := i.level, forMachine := i.forMachine })

end FormatService.Machine
