import FormatService.Machine.Snapshot

/-!
# The command line program

The outer layer: it reads arguments, standard input and the files that matter,
runs the program on a machine with these files, and then writes what was written
there.
-/

set_option autoImplicit false

namespace FormatService.Main

/-- Reads a stream to its end. -/
partial def readAll (stream : IO.FS.Stream) (read : ByteArray) : IO ByteArray := do
  let more ← stream.read 65536
  if more.isEmpty then return read else readAll stream (read ++ more)

def readFile (path : Path) : IO (Option Snapshot.File) := do
  try
    let bytes ← IO.FS.readBinFile path.text
    return some ⟨path, bytes.toList⟩
  catch _ => return none

def writeFile (file : Snapshot.File) : IO Unit := do
  try IO.FS.writeBinFile file.path.text ⟨file.bytes.toArray⟩
  catch e => IO.eprintln (toString e)

def run (arguments : List String) : IO UInt32 := do
  let directory : Path := ⟨toString (← IO.currentDir)⟩
  let searchPath ← IO.getEnv "PATH"
  let files := (← (Snapshot.candidates directory searchPath arguments).mapM readFile).filterMap id
  let input ← readAll (← IO.getStdin) .empty
  let (code, m) := (Snapshot.machine directory searchPath files).program arguments input.toList
  (Snapshot.changes files m).forM writeFile
  IO.print (String.ofList m.stdout)
  IO.eprint (String.ofList m.stderr)
  return UInt32.ofNat code

end FormatService.Main

def main (arguments : List String) : IO UInt32 := FormatService.Main.run arguments
