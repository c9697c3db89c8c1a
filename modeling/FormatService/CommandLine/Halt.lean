import FormatService.Text.Plain
import FormatService.CommandLine.Usage

/-!
# Why reading the arguments stops

Help and the version stop the reading, and so does every misuse. A misuse is
reported with what is wrong, at times a tip, and the usage of the command.
-/

set_option autoImplicit false

namespace FormatService.CommandLine

inductive Tip
  | parameter (p : Parameter)
  /-- The parameter belongs to a command that is named later. -/
  | parameterOf (c : Command) (p : Parameter)
  | commands (similar : List Command)
  /-- The argument is a value that looks like an option. -/
  | asValue (argument : Text)
  /-- The argument would be a command without the two dashes. -/
  | withoutDashes (c : Command)
  deriving DecidableEq, Repr

inductive Cause
  | missingCommand
  | unknownCommand (word : Text)
  | unexpected (argument : Text)
  | missingValue (p : Parameter)
  | surplusValue (p : Parameter) (value : Text)
  | repeated (p : Parameter)
  | together (p rival : Parameter)
  | missingFiles
  deriving DecidableEq, Repr

structure Misuse where
  command : Command
  cause : Cause
  tip : Option Tip
  /-- The parameters that the usage is shown for. -/
  used : List Parameter
  deriving DecidableEq, Repr

def quoted (s : String) : String := "'" ++ s ++ "'"

def typed (t : Text) : String := String.ofList (Text.plain t)

def Tip.message : Tip → String
  | parameter p => "a similar argument exists: " ++ quoted ("--" ++ p.name)
  | parameterOf c p => quoted (c.name ++ " --" ++ p.name) ++ " exists"
  | commands similar =>
    let names := ", ".intercalate (similar.map fun c => quoted c.name)
    if similar.length = 1 then "a similar subcommand exists: " ++ names
    else "some similar subcommands exist: " ++ names
  | asValue t => "to pass " ++ quoted (typed t) ++ " as a value, use " ++ quoted ("-- " ++ typed t)
  | withoutDashes c =>
    "subcommand " ++ quoted c.name ++ " exists; to use it, remove the '--' before it"

def Cause.message : Cause → String
  | missingCommand =>
    quoted Command.root.name ++ " requires a subcommand but one was not provided\n  [subcommands: " ++
      ", ".intercalate (Command.root.commands.map Command.name) ++ "]"
  | unknownCommand t => "unrecognized subcommand " ++ quoted (typed t)
  | unexpected t => "unexpected argument " ++ quoted (typed t) ++ " found"
  | missingValue p => "a value is required for " ++ quoted p.display ++ " but none was supplied"
  | surplusValue p t =>
    "unexpected value " ++ quoted (typed t) ++ " for " ++ quoted p.display ++
      " found; no more were expected"
  | repeated p => "the argument " ++ quoted p.display ++ " cannot be used multiple times"
  | together p rival =>
    "the argument " ++ quoted p.display ++ " cannot be used with " ++ quoted rival.display
  | missingFiles =>
    "the following required arguments were not provided:\n  " ++ Parameter.files.displayRequired

namespace Misuse

def showsUsage (m : Misuse) : Bool :=
  match m.cause with
  | .missingValue _ => false
  | _ => true

def pointer (c : Command) : String :=
  if c.parameters.contains .help then "\n\nFor more information, try '--help'.\n" else "\n"

def message (m : Misuse) : String :=
  "error: " ++ m.cause.message ++ (m.tip.elim "" fun tip => "\n\n  tip: " ++ tip.message) ++
    (if m.showsUsage then "\n\nUsage: " ++ m.command.usage m.used else "") ++ pointer m.command

end Misuse

inductive Halt
  | help (c : Command)
  | version
  | misuse (m : Misuse)
  deriving DecidableEq, Repr

def Halt.message : Halt → String
  | help c => c.helpText
  | version => versionText
  | misuse m => m.message

end FormatService.CommandLine
