import FormatService.Tool
import FormatService.LogLevel
import FormatService.Host
import FormatService.CommandLine.Reading

/-!
# Invocations

What an argument list asks the program to do. Standard input is read last, and
only if its text is to be formatted.
-/

set_option autoImplicit false

namespace FormatService.CommandLine

/-- A task, with what is known of the text on standard input. -/
inductive Task (Input : Type)
  | format (tool : Option Tool) (projects files : List String)
  | formatInput (tool : Option Tool) (projects : List String) (file : String) (input : Input)
  | listTools (projects : List String)
  | showVersion
  | show (text : String)
  deriving DecidableEq, Repr

structure Invocation (Input : Type) where
  task : Task Input
  level : LogLevel
  /-- Where the settings are said to be. -/
  settings : Option String
  deriving DecidableEq, Repr

inductive Fault
  | halted (halt : Halt)
  | unknownTool (text : String)
  | unreadableInput (reason : String)
  deriving DecidableEq, Repr

def Fault.failure : Fault → Failure
  | halted halt => ⟨[halt.message]⟩
  | unknownTool text => ⟨[Tool.unknownMessage text]⟩
  | unreadableInput reason => ⟨["Error reading stdin as UTF-8 text.", reason]⟩

namespace Invocation

def plain {Input : Type} (task : Task Input) : Invocation Input := ⟨task, .info, none⟩

def forMachine {Input : Type} (i : Invocation Input) : Bool :=
  match i.task with
  | .formatInput .. => true
  | _ => false

def toolOf (text : Option Text) : Except Fault (Option Tool) :=
  match text with
  | none => .ok none
  | some text =>
    match Tool.parse? (String.ofList text) with
    | some tool => .ok (some tool)
    | none => .error (.unknownTool (String.ofList text))

def strings (g : Given) (p : Parameter) : List String := (g.values p).map String.ofList

def taskOf (r : Reading) : Except Fault (Task Unit) :=
  let projects := strings r.after .project
  match r.command with
  | .fmt => do
    let tool ← toolOf (r.after.values .tool).head?
    match (r.after.values .stdin).head? with
    | some file => return .formatInput tool projects (String.ofList file) ()
    | none => return .format tool projects (strings r.after .files)
  | .outputTools => .ok (.listTools projects)
  | _ => .ok .showVersion

def ofReading (r : Reading) : Except Fault (Invocation Unit) := do
  let task ← taskOf r
  return ⟨task, .ofFlags (r.flag .verbose) (r.flag .silent), (r.value? .config).map String.ofList⟩

def alone? (argument : String) : Option (Task Unit) :=
  if argument = "help" ∨ argument = "--help" then some (.show Command.overview)
  else if argument = "-v" ∨ argument = "-V" ∨ argument = "--version" then some .showVersion
  else none

def ofArguments (arguments : List String) : Except Fault (Invocation Unit) :=
  match readAll (arguments.map String.toList) with
  | .ok reading => ofReading reading
  | .error halt => .error (.halted halt)

def parse : List String → Except Fault (Invocation Unit)
  | [] => ofArguments []
  | [_] => .ok (plain (.show Command.overview))
  | [_, argument] =>
    match alone? argument with
    | some task => .ok (plain task)
    | none => ofArguments [argument]
  | _ :: arguments => ofArguments arguments

/-- Puts the text of standard input in its place, or says why it cannot be read. It is
read where it is needed, and reading it changes a state. -/
def supply {σ : Type} (read : σ → Except String Text × σ) (i : Invocation Unit) (s : σ) :
    Except Fault (Invocation Text) × σ :=
  match i.task with
  | .format tool projects files => (.ok ⟨.format tool projects files, i.level, i.settings⟩, s)
  | .formatInput tool projects file () =>
    match read s with
    | (.ok text, s) => (.ok ⟨.formatInput tool projects file text, i.level, i.settings⟩, s)
    | (.error reason, s) => (.error (.unreadableInput reason), s)
  | .listTools projects => (.ok ⟨.listTools projects, i.level, i.settings⟩, s)
  | .showVersion => (.ok ⟨.showVersion, i.level, i.settings⟩, s)
  | .show text => (.ok ⟨.show text, i.level, i.settings⟩, s)

def request {σ : Type} (read : σ → Except String Text × σ) (arguments : List String) (s : σ) :
    Except Fault (Invocation Text) × σ :=
  match parse arguments with
  | .ok i => i.supply read s
  | .error fault => (.error fault, s)

def ofCommandLine (arguments : List String) (input : Except String Text) :
    Except Fault (Invocation Text) :=
  (request (fun s => (input, s)) arguments ()).1

end Invocation

end FormatService.CommandLine
