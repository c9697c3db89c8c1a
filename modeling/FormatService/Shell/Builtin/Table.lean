import FormatService.Shell.Builtin.Directory
import FormatService.Shell.Builtin.Leaving
import FormatService.Shell.Builtin.Option
import FormatService.Shell.Builtin.Output
import FormatService.Shell.Builtin.Process

/-!
# The table of built-in commands

The commands here run no other command; those that do belong to the running of scripts.
-/

set_option autoImplicit false

namespace FormatService.Shell

def builtin? (name : Text) : Option Builtin :=
  match String.ofList name with
  | ":" | "true" => some fun _ => Builtin.done
  | "false" => some fun _ => Builtin.ends 1
  | "[" => some (Builtin.test true)
  | "break" => some Builtin.stop
  | "cd" => some Builtin.cd
  | "command" => some Builtin.command
  | "continue" => some Builtin.skip
  | "echo" => some Builtin.echo
  | "exit" => some Builtin.exit
  | "export" => some Builtin.publish
  | "kill" => some Builtin.kill
  | "local" => some Builtin.confine
  | "printf" => some Builtin.printf
  | "pwd" => some Builtin.pwd
  | "read" => some Builtin.read
  | "readonly" => some Builtin.fix
  | "return" => some Builtin.back
  | "set" => some Builtin.set
  | "shift" => some Builtin.shift
  | "test" => some (Builtin.test false)
  | "unset" => some Builtin.unset
  | _ => none

end FormatService.Shell
