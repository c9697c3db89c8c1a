import FormatService.Host
import FormatService.Shell.Evaluation

/-!
# Machines

A machine has files, a current directory and a search path, and it keeps what is
written to the standard output and the standard error of the program that runs on
it. Commands are run to their end before anything else happens.

A tool that is started here is a script: of all programs a machine has the shell that runs it
and the three filters that it passes its text through.

Names of files are kept as bytes, one character for each.
-/

set_option autoImplicit false

namespace FormatService

structure Machine where
  files : FileTree
  /-- The current directory. -/
  place : Location
  /-- Where commands are looked for, if that is set. -/
  searchPath : Option Text
  level : LogLevel
  /-- Whether standard output is read by another program. -/
  forMachine : Bool
  /-- What has been written, the last piece first. -/
  printed : List Text
  noted : List Text

/-- A command that is to be run. Without a directory it runs in the current one. -/
structure Order where
  command : String
  arguments : List String
  directory : Option Path
  /-- Variables that are set beside those of the program. -/
  environment : List (String × String)
  input : Text

namespace Machine

def programs : List (String × Utility) :=
  [("sh", .shell), ("cat", .concatenate), ("sed", .lineEditor), ("wc", .counter)]

def channelDevices : Nat := 10

def devices : List (List String × Content) :=
  let numbered := (List.range channelDevices).map fun n => (["fd", toString n], Content.channel n)
  [(["null"], .void), (["stdin"], .channel 0), (["stdout"], .channel 1),
    (["stderr"], .channel 2)] ++ numbered

def bareFiles : FileTree :=
  let programs := programs.flatMap fun (name, u) =>
    [(["bin", name], Content.program u), (["usr", "bin", name], .program u)]
  let places := programs ++ devices.map (fun (name, c) => ("dev" :: name, c)) ++
    [(["tmp"], .directory)]
  places.foldl (fun (t : FileTree) (place, c) => t.insert (place.map String.toList) c) ⟨[]⟩

def new (files : FileTree) (place : Location) (searchPath : Option Text) (level : LogLevel) :
    Machine :=
  ⟨files, place, searchPath, level, false, [], []⟩

def octets (s : String) : Text := Bytes.toOctets (Bytes.ofText s.toList)

def textOfOctets (t : Text) : Text := Bytes.lenientText (Bytes.ofOctets t)

def stdout (m : Machine) : Text := m.printed.reverse.flatten

def stderr (m : Machine) : Text := m.noted.reverse.flatten

def print (t : Text) (m : Machine) : Machine := { m with printed := t :: m.printed }

def note (line : String) (m : Machine) : Machine :=
  { m with noted := (line.toList ++ ['\n']) :: m.noted }

def debug (line : String) (m : Machine) : Machine :=
  if m.level = .debug then m.note ("[DEBUG]: " ++ line) else m

def directory (m : Machine) : Path :=
  ⟨String.ofList (textOfOctets (FileTree.pathText m.place))⟩

def log (line : String) (m : Machine) : Machine :=
  if m.level = .silent ∨ m.forMachine = true then m else m.print (line.toList ++ ['\n'])

def notText : String := "stream did not contain valid UTF-8"

def isPlain (t : String) : Bool := !t.toList.contains '\x00'

def notPlain : String := "file name contained an unexpected NUL byte"

def readFile (path : Path) (m : Machine) : Except Failure Text :=
  let refused (cause : String) : Except Failure Text :=
    .error ⟨["Error reading file " ++ path.text, cause]⟩
  if isPlain path.text = false then refused notPlain
  else match m.files.readBytes m.place (octets path.text) with
  | .error f => refused f.message
  | .ok bytes =>
    match Bytes.text bytes with
    | .ok text => .ok text
    | .error _ => refused notText

def writeFile (path : Path) (text : Text) (m : Machine) : Except Failure Unit × Machine :=
  if isPlain path.text = false then (.error ⟨["Error writing file " ++ path.text, notPlain]⟩, m)
  else match m.files.writeBytes m.place (octets path.text) (Bytes.ofText text) with
  | .ok files => (.ok (), { m with files := files })
  | .error f => (.error ⟨["Error writing file " ++ path.text, f.message]⟩, m)

def isPresent (path : Path) (m : Machine) : Bool := m.files.present m.place (octets path.text)

def search (tool : Tool) (m : Machine) : Except Failure (Option String) :=
  match m.searchPath with
  | none =>
    .error ⟨["Error searching for " ++ tool.name ++ ".",
      "no path to search and provided name is not an absolute path"]⟩
  | some searchPath =>
    let found := Launch.tool? m.files m.place searchPath (octets tool.name)
    .ok (found.map fun path => String.ofList (textOfOctets path))

def channels : List (Nat × Shell.Link) := [(0, .source 0), (1, .sink 1), (2, .sink 2)]

def worldFor (input : Text) (m : Machine) : Shell.World :=
  ⟨m.files, [], [(0, Bytes.toOctets (Bytes.ofText input))], [(1, []), (2, [])], 3⟩

def depth : Nat := 1000000

def directoryOf (o : Order) (m : Machine) : Except SystemFault Location :=
  match o.directory with
  | none => .ok m.place
  | some path => do
    let place ← m.files.locate m.place (octets path.text)
    if m.files.content? place = some .directory then return place else .error .notDirectory

def environmentOf (o : Order) (m : Machine) : List (Text × Text) :=
  let own := (m.searchPath.map fun path => ("PATH".toList, path)).toList
  Shell.Surroundings.overlaid own (o.environment.map fun (name, value) => (octets name, octets value))

/-- Starts a command and waits for it. A search path among its own variables is the
one that counts, and then a script without an interpreter goes to the shell. -/
def start (o : Order) (m : Machine) : Except SystemFault (Shell.World × Shell.Ended) := do
  let place ← m.directoryOf o
  let environment := m.environmentOf o
  let searchPath := (environment.find? (·.1 == "PATH".toList)).map (·.2)
  let asShell := o.environment.any (·.1 == "PATH") && !o.command.toList.contains '/'
  let image ← Launch.command m.files place ⟨asShell, environment⟩ searchPath
    (octets o.command :: o.arguments.map octets)
  let around : Shell.Surroundings := ⟨place, environment, channels⟩
  return Shell.Evaluation.launch depth image around (m.worldFor o.input)

def exitCode : Shell.Ended → Int
  | .exited status => (status % 256 : Nat)
  | .killed _ => -1

def canHandOver (o : Order) : Bool :=
  let passed := o.environment.flatMap fun (name, value) => [name, value]
  (o.command :: (o.arguments ++ (o.directory.map Path.text).toList ++ passed)).all Machine.isPlain

/-- Runs a command. Its output has to be a text, its complaints need not be. -/
def perform (o : Order) (m : Machine) : Except Failure Run × Machine :=
  let refused (cause : String) : Except Failure Run × Machine :=
    (.error ⟨["Error starting " ++ o.command, cause]⟩, m)
  if canHandOver o = false then refused "nul byte found in provided data"
  else match m.start o with
  | .error f => refused f.message
  | .ok (world, ended) =>
    let m := { m with files := world.files }
    match Bytes.text (Bytes.ofOctets (world.sink 1)) with
    | .error f => (.error ⟨["Output of " ++ o.command ++ " was not UTF-8.", f.message]⟩, m)
    | .ok output => (.ok ⟨exitCode ended, output, textOfOctets (world.sink 2)⟩, m)

instance : Host Machine where
  level := level
  directory := directory
  log := log
  note := note
  emit := print
  read path m :=
    let m := m.debug ("Reading file: " ++ path.text)
    (m.readFile path, m)
  write path text m := (m.debug ("Writing file: " ++ path.text)).writeFile path text
  present := isPresent
  issueSearch tool project m :=
    let origin := project.getD m.directory
    m.debug ("Searching for " ++ tool.name ++ " from " ++ origin.text)
  answerSearch tool _ m := m.search tool
  run command arguments directory input m :=
    (m.debug ("Running: " ++ command ++ " " ++ " ".intercalate arguments)).perform
      ⟨command, arguments, some directory, [], input⟩

end Machine

end FormatService
