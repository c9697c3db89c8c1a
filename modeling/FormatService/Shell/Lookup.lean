import FormatService.Shell.State
import FormatService.Shell.Token
import FormatService.Machine.Launch

/-!
# Looking up commands

What the name of a command stands for. A name with a slash is the path of a program; any
other name is a function, a built-in command, or a program in the search path.
-/

set_option autoImplicit false

namespace FormatService.Shell

def otherBuiltins : List String :=
  ["[", "cd", "command", "echo", "false", "kill", "printf", "pwd", "read", "test", "true"]

def settingBuiltins : List String := ["export", "local", "readonly"]

inductive Meaning
  | function (body : Command)
  | builtin (special : Bool)
  /-- A program at the first path, or at one of those after it. -/
  | program (paths : List Text)
  | nothing (cause : SystemFault)

namespace Lookup

def usualPath : Text := "/usr/local/sbin:/usr/local/bin:/usr/sbin:/usr/bin:/sbin:/bin".toList

def isIn (names : List String) (name : Text) : Bool := names.any fun n => n.toList == name

def function? (s : State) (name : Text) : Option Command :=
  (s.functions.find? (·.1 == name)).map (·.2)

def searched (files : FileTree) (directory : Location) :
    SystemFault → List Text → Except SystemFault (List Text)
  | cause, [] => .error cause
  | cause, path :: paths =>
    match files.find directory path with
    | .ok content =>
      if FileTree.isRunnable content then .ok (path :: paths)
      else searched files directory .denied paths
    | .error .missing | .error .notDirectory => searched files directory cause paths
    | .error f => searched files directory f paths

def program (s : State) (searchPath : Option Text) (name : Text) : Meaning :=
  match searchPath with
  | none => .nothing .missing
  | some entries =>
    let paths := (Launch.entries entries).map fun entry => Launch.within entry name
    match searched s.world.files s.directory .missing paths with
    | .ok paths => .program paths
    | .error f => .nothing f

def meaning (s : State) (withFunctions : Bool) (searchPath : Option Text) (name : Text) : Meaning :=
  if name.contains '/' then .program [name]
  else
    match if withFunctions then function? s name else none with
    | some body => .function body
    | none =>
      if isIn specialBuiltins name then .builtin true
      else if isIn otherBuiltins name then .builtin false
      else program s searchPath name

def cause : SystemFault → Text
  | .missing | .notDirectory => "not found".toList
  | f => f.text.toList

def runner? (s : State) (name : Text) : Option Text :=
  if keywords.contains (String.ofList name) then some name
  else
    match meaning s true (s.value? State.searchPath) name with
    | .function _ | .builtin _ => some name
    | .program paths =>
      if name.contains '/' && !s.world.files.present s.directory name then none
      else some (paths.headD [])
    | .nothing _ => none

end Lookup

end FormatService.Shell
