import FormatService.Text.Search
import FormatService.Host

/-!
# A host in memory

Files, tools and the behaviour of commands are given as data, and everything that
is asked of the host is recorded in order.
-/

set_option autoImplicit false

namespace FormatService

inductive Event
  | log (text : String)
  | note (text : String)
  | emit (text : Text)
  | read (path : Path)
  | write (path : Path) (text : Text)
  | search (tool : Tool) (root : Option Path)
  | run (command : String) (arguments : List String) (directory : Path) (input : Text)
  deriving DecidableEq, Repr

structure Handler where
  /-- The command fails on inputs that contain this. -/
  failIf : Option Text
  failCode : Int
  failStdout : Text
  failStderr : Text
  /-- What is written instead of the input. -/
  stdout : Option Text
  replacements : List (Text × Text)
  ending : Text
  deriving DecidableEq, Repr, Inhabited

def Handler.run (h : Handler) (input : Text) : Run :=
  if h.failIf.any input.includes then ⟨h.failCode, h.failStdout, h.failStderr⟩
  else
    let text := h.replacements.foldl (fun t (pattern, new) => Text.replaceAll pattern new t)
      (h.stdout.getD input)
    ⟨0, text ++ h.ending, []⟩

/-- Which searches fail, and with what message. -/
inductive SearchFault
  | never
  | always (message : String)
  | forTools (messages : List (String × String))
  deriving DecidableEq, Repr, Inhabited

def SearchFault.message? (tool : Tool) : SearchFault → Option String
  | never => none
  | always message => some message
  | forTools messages => (messages.find? (·.1 == tool.name)).map (·.2)

structure MemoryHost where
  directory : Path
  level : LogLevel
  files : List (Path × Text)
  readOnly : List Path
  tools : List (Tool × Option Path × String)
  searchFault : SearchFault
  commands : List (String × Handler)
  events : List Event
  deriving Repr, Inhabited

namespace MemoryHost

def record (e : Event) (h : MemoryHost) : MemoryHost := { h with events := h.events ++ [e] }

def file? (h : MemoryHost) (path : Path) : Option Text := (h.files.find? (·.1 == path)).map (·.2)

def setFile (h : MemoryHost) (path : Path) (text : Text) : MemoryHost :=
  { h with files := h.files.filter (·.1 != path) ++ [(path, text)] }

def removeFile (h : MemoryHost) (path : Path) : MemoryHost :=
  { h with files := h.files.filter (·.1 != path) }

def entry? (h : MemoryHost) (tool : Tool) (root : Option Path) : Option String :=
  (h.tools.reverse.find? fun (t, r, _) => t == tool && r == root).map (·.2.2)

def find? (h : MemoryHost) (tool : Tool) (root : Option Path) : Option String :=
  match root with
  | some root => (h.entry? tool (some root)).or (h.entry? tool none)
  | none => h.entry? tool none

def readFile (path : Path) (h : MemoryHost) : Except Failure Text × MemoryHost :=
  let h := h.record (.read path)
  match h.file? path with
  | some text => (.ok text, h)
  | none => (.error ⟨["Could not find file at path " ++ path.text]⟩, h)

def writeFile (path : Path) (text : Text) (h : MemoryHost) : Except Failure Unit × MemoryHost :=
  let h := h.record (.write path text)
  if h.readOnly.contains path then
    (.error ⟨["Error writing file " ++ path.text, "read-only file"]⟩, h)
  else (.ok (), h.setFile path text)

def answer (tool : Tool) (root : Option Path) (h : MemoryHost) : Except Failure (Option String) :=
  match h.searchFault.message? tool with
  | some message => .error ⟨["Error searching for " ++ tool.name ++ ".", message]⟩
  | none => .ok (h.find? tool root)

def runCommand (command : String) (arguments : List String) (directory : Path) (input : Text)
    (h : MemoryHost) : Except Failure Run × MemoryHost :=
  let h := h.record (.run command arguments directory input)
  match h.commands.find? (·.1 == command) with
  | some (_, handler) => (.ok (handler.run input), h)
  | none => (.error ⟨["Error starting " ++ command]⟩, h)

instance : Host MemoryHost where
  level := level
  directory := directory
  log text := record (.log text)
  note text := record (.note text)
  emit text := record (.emit text)
  read := readFile
  write := writeFile
  present path h := (h.file? path).isSome
  issueSearch tool root := record (.search tool root)
  answerSearch := answer
  run := runCommand

end MemoryHost

end FormatService
