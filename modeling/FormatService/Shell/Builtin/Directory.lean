import FormatService.Shell.Builtin.Basic

/-!
# Commands for the current directory
-/

set_option autoImplicit false

namespace FormatService.Shell.Builtin

def pwd : Builtin := taking "LP" "" fun _ s => prints (FileTree.pathText s.directory ++ ['\n']) s

def follow : Location → List Text → Location
  | here, [] => here
  | here, piece :: rest =>
    if piece.isEmpty ∨ piece = ['.'] then follow here rest
    else if piece = ['.', '.'] then follow here.dropLast rest
    else follow (here ++ [piece]) rest

def placeOf (s : State) (path : Text) : Location :=
  follow (FileTree.origin s.directory path) (Path.pieces path)

def enter? (s : State) (place : Location) : Option State :=
  if s.world.files.content? place = some .directory then
    let exporting (s : State) (name : String) (place : Location) : State :=
      (s.setVariable name.toList (FileTree.pathText place)).exportVariable name.toList
    let left := s.directory
    some (exporting (exporting { s with directory := place } "OLDPWD" left) "PWD" place)
  else none

/-- Changes the directory. A hyphen stands for the one that was left last, and the new one is
shown then. -/
def cd : Builtin := taking "LP" "" fun g s =>
  let (path, shown) :=
    match g.words with
    | [] => ((s.value? "HOME".toList).getD [], false)
    | w :: _ => if w = ['-'] then ((s.value? "OLDPWD".toList).getD [], true) else (w, false)
  match enter? s (placeOf s (if path.isEmpty then ['.'] else path)) with
  | some s => if shown then prints (FileTree.pathText s.directory ++ ['\n']) s else done s
  | none => s.mistaken ("can't cd to ".toList ++ path)

end FormatService.Shell.Builtin
