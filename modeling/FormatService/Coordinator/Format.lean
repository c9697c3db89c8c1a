import FormatService.Coordinator.Rebuild
import FormatService.Document

/-!
# Formatting a document

The tool is looked up, after a rebuild if it is not found, run with the document's
text on its standard input, and its output becomes the document's text if the run
succeeded. In all other cases
the document stays as it was: a failure is reported and never interrupts the user.
-/

set_option autoImplicit false

namespace FormatService

/-- A document as its editor offers it. The editor may refuse to edit it. -/
structure Buffer where
  document : Document
  refusal : Option Failure
  deriving DecidableEq, Repr

namespace Buffer

def ofDocument (d : Document) : Buffer := ⟨d, none⟩

def setText (b : Buffer) (text : Text) : Except Failure Buffer :=
  match b.refusal with
  | some failure => .error failure
  | none =>
    match b.document.setText text with
    | .ok d => .ok { b with document := d }
    | .error fault => .error ⟨[fault.message]⟩

end Buffer

inductive Outcome
  /-- The document may not be edited, or formatting on save is off. -/
  | skipped
  /-- The tool was not found, even after a rebuild. -/
  | toolNotFound
  /-- The tool could not be run, failed, or its output could not be applied. -/
  | failed
  /-- The output is the text of the document. -/
  | unchanged
  | formatted
  deriving DecidableEq, Repr

def Outcome.name : Outcome → String
  | skipped => "Skipped"
  | toolNotFound => "ToolNotFound"
  | failed => "Failed"
  | unchanged => "Unchanged"
  | formatted => "Formatted"

namespace Coordinator

variable {σ : Type}

/-- A request to format, with the tool and the paths that it has come to. -/
structure Request where
  tool : Tool
  file : Option Path
  project : Option Path
  deriving DecidableEq, Repr

/-- What came of the start of a request to format. -/
inductive Opened
  /-- The document may not be edited. -/
  | skipped
  /-- The tool is looked up, again if a rebuild was refused. -/
  | ready (request : Request)
  /-- The tool was not found, and a rebuild waits for its searches. -/
  | searching (request : Request) (rebuild : Rebuild)
  deriving DecidableEq, Repr

def request (b : Buffer) (tool : Option Tool) (file : Option Path) (c : Coordinator σ) : Request :=
  let file := file.or b.document.file
  ⟨tool.getD c.tool, file, ProjectRoot.projectOf c.roots file⟩

def command? (r : Request) (c : Coordinator σ) : Option String := c.resolved r.tool r.project

variable [Host σ]

def beginFormat (b : Buffer) (tool : Option Tool) (file : Option Path) (c : Coordinator σ) :
    Coordinator σ × Opened :=
  if !b.document.editable then (c, .skipped)
  else
    let r := c.request b tool file
    if (c.command? r).isSome then (c, .ready r)
    else
      match c.beginRebuild with
      | (c, .searching rebuild) => (c, .searching r rebuild)
      | (c, _) => (c, .ready r)

/-- What becomes of a run of a tool. -/
def accept (tool : Tool) (run : Run) (b : Buffer) (c : Coordinator σ) :
    Coordinator σ × Buffer × Outcome :=
  if !run.succeeded then
    let text := tool.name ++ " exited with code " ++ toString run.exitCode ++ ": " ++
      String.ofList run.stderr.trimEnd
    (c.onHost (Host.debug text), b, .failed)
  else if run.stdout = b.document.text then (c, b, .unchanged)
  else
    match b.setText run.stdout with
    | .ok b => (c, b, .formatted)
    | .error failure =>
      let text := "Error applying output of " ++ tool.name ++ ": " ++ failure.message
      (c.onHost (Host.warn text), b, .failed)

def serve (r : Request) (b : Buffer) (c : Coordinator σ) : Coordinator σ × Buffer × Outcome :=
  match c.command? r with
  | none =>
    let text := "Skipping format, could not find tool " ++ r.tool.name ++ "."
    (c.onHost (Host.warn text), b, .toolNotFound)
  | some command =>
    let directory := Host.directoryFor r.project c.host
    match Host.run command (r.tool.arguments r.file) directory b.document.text c.host with
    | (.ok run, h) => { c with host := h }.accept r.tool run b
    | (.error failure, h) =>
      let text := "Error running " ++ command ++ ": " ++ failure.message
      ({ c with host := Host.warn text h }, b, .failed)

/-- A request to format from its start to its end. -/
def format (b : Buffer) (tool : Option Tool) (file : Option Path) (c : Coordinator σ) :
    Coordinator σ × Buffer × Outcome :=
  match c.beginFormat b tool file with
  | (c, .skipped) => (c, b, .skipped)
  | (c, .ready r) => c.serve r b
  | (c, .searching r rebuild) => (c.finishRebuild rebuild).1.serve r b

/-- Formats with the active tool if documents are formatted on save. -/
def willSave (b : Buffer) (c : Coordinator σ) : Coordinator σ × Buffer × Outcome :=
  if c.settings.formatOnSave then c.format b none none else (c, b, .skipped)

end Coordinator

end FormatService
