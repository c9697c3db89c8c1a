import FormatService.Machine.FileTree
import FormatService.Utility.Options

/-!
# Utilities

The programs that scripts use beside the shell. Each reads the files that it is
given, or its standard input, and writes to its standard output.
-/

set_option autoImplicit false

namespace FormatService

structure Written where
  out : Text
  complaints : Text
  status : Nat
  files : FileTree
  /-- What it has not read of its standard input. -/
  left : Text
  deriving DecidableEq, Repr

namespace Utility

structure Reading where
  files : FileTree
  directory : Location
  /-- What can be read from standard input, if it can be read. -/
  input : Except SystemFault Text
  /-- The size of the file that standard input comes from, if it is one. -/
  inputSize : Option Nat

namespace Reading

def inputName : Text := ['-']

def isInputDevice (r : Reading) (name : Text) : Bool :=
  name != inputName && (r.files.find r.directory name).toOption == some (.channel 0)

def read (r : Reading) (name : Text) : Except SystemFault Text :=
  if name = inputName then r.input
  else if r.isInputDevice name then r.input
  else (r.files.readBytes r.directory name).map Bytes.toOctets

def after (r : Reading) (name : Text) : Reading :=
  if name = inputName || r.isInputDevice name then { r with input := r.input.map fun _ => [] }
  else r

def left (r : Reading) : Text := r.input.toOption.getD []

end Reading

def complaint (front name : Text) (f : SystemFault) : Text :=
  front ++ name ++ ": ".toList ++ f.text.toList ++ ['\n']

def orInput (names : List Text) : List Text := if names.isEmpty then [['-']] else names

def misused (program : Text) (f : OptionFault) : Text :=
  program ++ ": ".toList ++ f.message ++ "\nTry '".toList ++ program ++
    " --help' for more information.\n".toList

end Utility

end FormatService
