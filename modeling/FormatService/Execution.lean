import FormatService.Table
import FormatService.Settings.Lookup
import FormatService.Coordinator.Format
import FormatService.CommandLine.Invocation

/-!
# Carrying out an invocation

Formatting resolves the tools once and then goes through the files one by one; a
file that fails does not keep the others from being formatted. The text on
standard input is formatted like a file that is nowhere written.
-/

set_option autoImplicit false

namespace FormatService

inductive Ending
  | done
  | failed (failure : Failure)
  /-- A number in the settings is beyond every value: everything stops at once. -/
  | overflow
  deriving DecidableEq, Repr

namespace Ending

/-- The exit code of every failure. -/
def failureCode : Nat := 1

end Ending

inductive FileResult
  /-- The formatted text was written. -/
  | written
  /-- The file was formatted before, or is not to be formatted. -/
  | kept
  | failed
  deriving DecidableEq, Repr

namespace Execution

open CommandLine

variable {σ : Type} [Host σ]

/-- The project directories, as they are seen from the current directory. -/
def rootsFrom (directory : Path) (projects : List String) : List ProjectRoot :=
  projects.map fun p => ⟨(Path.resolve directory ⟨p⟩).text⟩

/-- A coordinator that has resolved its tools, or why there is none. A tool on the
command line wins over the one in the settings. -/
def coordinator (asked : Option String) (tool : Option Tool) (projects : List String) (h : σ) :
    Except Ending (Coordinator σ) × σ :=
  match Settings.lookup (asked.map Path.mk) h with
  | (.ok settings, h) =>
    let settings := { settings with tool := tool.getD settings.tool }
    let roots := rootsFrom (Host.directory h) projects
    let (c, _) := (Coordinator.new h settings roots).rebuild
    (.ok c, c.host)
  | (.error (.invalid _ .numberTooLarge), h) => (.error .overflow, h)
  | (.error fault, h) => (.error (.failed fault.failure), h)

def save (file : Path) (text : Text) (c : Coordinator σ) : Coordinator σ × FileResult :=
  match Host.write file text c.host with
  | (.ok (), h) => ({ c with host := h }, .written)
  | (.error failure, h) => ({ c with host := Host.complain failure.message h }, .failed)

/-- Formats the text of a file and writes the result, if there is a new one. -/
def formatText (file : Path) (text : Text) (c : Coordinator σ) : Coordinator σ × FileResult :=
  let buffer := Buffer.ofDocument (Document.new text (some file))
  match c.format buffer none none with
  | (c, buffer, .formatted) => save file buffer.document.text c
  | (c, _, .unchanged) => (c, .kept)
  | (c, _, .skipped) => (c, .kept)
  | (c, _, _) => (c.onHost (Host.complain ("Error formatting " ++ file.text)), .failed)

def formatFile (file : Path) (c : Coordinator σ) : Coordinator σ × FileResult :=
  match Host.read file c.host with
  | (.ok text, h) => formatText file text { c with host := h }
  | (.error failure, h) => ({ c with host := Host.complain failure.message h }, .failed)

def formatFiles : List Path → Coordinator σ → Coordinator σ × List FileResult
  | [], c => (c, [])
  | file :: files, c =>
    let (c, result) := formatFile file c
    let (c, results) := formatFiles files c
    (c, result :: results)

def counted (n : Nat) (one many : String) : String :=
  toString n ++ " " ++ (if n = 1 then one else many)

def announce (n : Nat) (h : σ) : σ :=
  if n = 0 then h else Host.log ("Formatted " ++ counted n "file" "files" ++ ".") h

def verdict (failures : Nat) : Ending :=
  if failures = 0 then .done
  else .failed ⟨["Had " ++ counted failures "error" "errors" ++ " formatting."]⟩

def format (files : List String) (c : Coordinator σ) : Ending × σ :=
  let directory := Host.directory c.host
  let (c, results) := formatFiles (files.map fun f => Path.resolve directory ⟨f⟩) c
  (verdict (results.count .failed), announce (results.count .written) c.host)

/-- Formats a text and writes it to standard output, as it was if formatting fails. -/
def formatInput (file : String) (text : Text) (c : Coordinator σ) : Ending × σ :=
  let file := Path.resolve (Host.directory c.host) ⟨file⟩
  let (c, buffer, outcome) := c.format (.ofDocument (Document.new text (some file))) none none
  let h := Host.emit buffer.document.text c.host
  match outcome with
  | .toolNotFound | .failed => (.failed ⟨["Error formatting " ++ file.text]⟩, h)
  | _ => (.done, h)

/-- A row for a resolved tool; `*` stands for no project in particular. -/
def row (entry : CacheKey × String) : Table.Row :=
  [entry.1.tool.name, entry.1.root.elim "*" Path.text, entry.2]

def listTools (c : Coordinator σ) : Ending × σ :=
  match c.cache with
  | none => (.failed ⟨["Could not resolve tools."]⟩, c.host)
  | some cache =>
    if cache.isEmpty then (.done, Host.warn "No tools found." c.host)
    else (.done, Host.log (Table.render 0 (Table.lines (cache.entries.map row))) c.host)

def withCoordinator (i : Invocation Text) (tool : Option Tool) (projects : List String)
    (task : Coordinator σ → Ending × σ) (h : σ) : Ending × σ :=
  match coordinator i.settings tool projects h with
  | (.ok c, _) => task c
  | (.error ending, h) => (ending, h)

def run (i : Invocation Text) (h : σ) : Ending × σ :=
  match i.task with
  | .show text => (.done, Host.log text h)
  | .showVersion => (.done, Host.log (Command.root.name ++ " " ++ programVersion) h)
  | .format tool projects files => withCoordinator i tool projects (format files) h
  | .formatInput tool projects file text =>
    withCoordinator i tool projects (formatInput file text) h
  | .listTools projects => withCoordinator i none projects listTools h

end Execution

end FormatService
