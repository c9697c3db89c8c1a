import FormatService.Settings.Lookup
import FormatService.Machine.Program

/-!
# Snapshots

The part of a file system that a run of the program can be about: the files that
its arguments name, the settings, and the tools in the search path. A machine is
made from these files, and after the run the files that it has changed are known.
-/

set_option autoImplicit false

namespace FormatService

structure Snapshot.File where
  path : Path
  bytes : Bytes

namespace Snapshot

def candidates (directory : Path) (searchPath : Option String) (arguments : List String) :
    List Path :=
  let tools := ((searchPath.map String.toList).map Launch.entries).getD [] |>.flatMap fun entry =>
    Tool.all.map fun tool => String.ofList (Launch.within entry tool.name.toList)
  (Settings.defaultFile :: (arguments ++ tools).map Path.mk).map directory.resolve

def placeOf (path : Path) : Location := (Path.pieces (Machine.octets path.text)).filter (· != [])

def content (bytes : Bytes) : Content := .file bytes (Launch.interpreter? bytes).isSome

def machine (directory : Path) (searchPath : Option String) (files : List File) : Machine :=
  let bare := Machine.bareFiles.insert (placeOf directory) .directory
  let tree := files.foldl (fun (t : FileTree) f => t.insert (placeOf f.path) (content f.bytes)) bare
  .new tree (placeOf directory) (searchPath.map Machine.octets) .info

def changes (files : List File) (m : Machine) : List File :=
  m.files.nodes.filterMap fun (place, c) =>
    match c with
    | .file bytes _ =>
      if files.any fun f => placeOf f.path == place && f.bytes == bytes then none
      else some ⟨⟨String.ofList (Machine.textOfOctets (FileTree.pathText place))⟩, bytes⟩
    | _ => none

end Snapshot

end FormatService
