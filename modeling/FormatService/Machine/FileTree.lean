import FormatService.Text.Utf8
import FormatService.Path

/-!
# File trees

Directories and files below a root, as a system with ordinary access rules sees
them: a path is walked piece by piece, and each piece but the last has to be a
directory.
-/

set_option autoImplicit false

namespace FormatService

inductive SystemFault
  | missing
  /-- A program is given more text than it can take over. -/
  | tooMuch
  /-- The file is no program. -/
  | notProgram
  /-- A channel leads nowhere. -/
  | closed
  | denied
  | notDirectory
  | isDirectory
  | nameTooLong
  /-- Files lead from one to the next too often. -/
  | tooManyLevels
  deriving DecidableEq, Repr

namespace SystemFault

def number : SystemFault → Nat
  | missing => 2
  | tooMuch => 7
  | notProgram => 8
  | closed => 9
  | denied => 13
  | notDirectory => 20
  | isDirectory => 21
  | nameTooLong => 36
  | tooManyLevels => 40

def text : SystemFault → String
  | missing => "No such file or directory"
  | tooMuch => "Argument list too long"
  | notProgram => "Exec format error"
  | closed => "Bad file descriptor"
  | denied => "Permission denied"
  | notDirectory => "Not a directory"
  | isDirectory => "Is a directory"
  | nameTooLong => "File name too long"
  | tooManyLevels => "Too many levels of symbolic links"

def message (f : SystemFault) : String := f.text ++ " (os error " ++ toString f.number ++ ")"

end SystemFault

inductive Utility
  | shell
  /-- Writes files one after the other. -/
  | concatenate
  /-- Edits a text line by line. -/
  | lineEditor
  /-- Counts lines, words and bytes. -/
  | counter
  deriving DecidableEq, Repr

inductive Content
  | directory
  | file (bytes : Bytes) (executable : Bool)
  | program (utility : Utility)
  /-- Reads as empty and swallows what is written. -/
  | void
  /-- Stands for what a channel of a process leads to. -/
  | channel (number : Nat)
  deriving DecidableEq, Repr

def FileTree.programBytes : Bytes := [127, 69, 76, 70, 255]

def Content.read : Content → Except SystemFault Bytes
  | directory => .error .isDirectory
  | file bytes _ => .ok bytes
  | program _ => .ok FileTree.programBytes
  | void | channel _ => .ok []

abbrev Location := List Text

structure FileTree where
  nodes : List (Location × Content)
  deriving DecidableEq, Repr

namespace FileTree

def content? (t : FileTree) (place : Location) : Option Content :=
  if place = [] then some .directory else (t.nodes.find? (·.1 == place)).map (·.2)

def above (place : Location) : List Location :=
  ((List.range place.length).drop 1).map fun n => place.take n

def insert (t : FileTree) (place : Location) (content : Content) : FileTree :=
  let above := (above place).filter fun p => (t.content? p).isNone
  ⟨t.nodes.filter (·.1 != place) ++ above.map (fun p => (p, .directory)) ++ [(place, content)]⟩

def nameLimit : Nat := 255

def pathLimit : Nat := 4095

def walk (t : FileTree) : Location → List Text → Except SystemFault Location
  | here, [] => .ok here
  | here, piece :: rest =>
    match t.content? here with
    | none => .error .missing
    | some .directory =>
      if piece = [] ∨ piece = ['.'] then walk t here rest
      else if piece = ['.', '.'] then walk t here.dropLast rest
      else if nameLimit < piece.length then .error .nameTooLong
      else if (t.content? (here ++ [piece])).isSome then walk t (here ++ [piece]) rest
      else .error .missing
    | some _ => .error .notDirectory

def origin (directory : Location) (path : Text) : Location :=
  if path.head? = some '/' then [] else directory

def locate (t : FileTree) (directory : Location) (path : Text) : Except SystemFault Location :=
  if path = [] then .error .missing
  else if pathLimit < path.length then .error .nameTooLong
  else t.walk (origin directory path) (Path.pieces path)

def find (t : FileTree) (directory : Location) (path : Text) : Except SystemFault Content := do
  let place ← t.locate directory path
  match t.content? place with
  | some content => return content
  | none => .error .missing

def present (t : FileTree) (directory : Location) (path : Text) : Bool :=
  (t.find directory path).toOption.isSome

def readBytes (t : FileTree) (directory : Location) (path : Text) : Except SystemFault Bytes := do
  (← t.find directory path).read

/-- The place for a file that is to be written. A slash at the end asks for a
directory, which cannot be written. -/
def target (t : FileTree) (directory : Location) (path : Text) : Except SystemFault Location :=
  let backwards := (Path.pieces path).reverse
  if pathLimit < path.length then .error .nameTooLong
  else match backwards.dropWhile (· == []) with
  | [] => .error (if path = [] then .missing else .isDirectory)
  | name :: above => do
    let parent ← t.walk (origin directory path) (above.reverse ++ [[]])
    if backwards.head? = some [] ∨ name = ['.'] ∨ name = ['.', '.'] then .error .isDirectory
    else if nameLimit < name.length then .error .nameTooLong
    else return parent ++ [name]

def updateBytes (t : FileTree) (place : Location) (f : Bytes → Bytes) :
    Except SystemFault FileTree :=
  match t.content? place with
  | some .directory => .error .isDirectory
  | some (.file bytes executable) => .ok (t.insert place (.file (f bytes) executable))
  | some (.program _) => .error .denied
  | some .void | some (.channel _) => .ok t
  | none => .ok (t.insert place (.file (f []) false))

def writeBytes (t : FileTree) (directory : Location) (path : Text) (bytes : Bytes) :
    Except SystemFault FileTree := do
  t.updateBytes (← t.target directory path) fun _ => bytes

def isRunnable : Content → Bool
  | .file _ executable => executable
  | .program _ => true
  | _ => false

def pathText (place : Location) : Text := '/' :: Path.joinPieces place

end FileTree

end FormatService
