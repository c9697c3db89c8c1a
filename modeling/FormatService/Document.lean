import FormatService.Path
import FormatService.Edit.Change

/-!
# Documents

A text being edited, with a cursor and an undo history. A new text is put in
place by the changes that lead to it, so that the cursor stays with the
characters around it and each replacement is undone in one step.
-/

set_option autoImplicit false

namespace FormatService

open Edit (Change ChangeFault)

structure Document where
  file : Option Path
  text : Text
  cursor : Nat
  readOnly : Bool
  closed : Bool
  /-- What undoes the last replacement, the one before it, and so on. -/
  history : List (List Change)
  deriving DecidableEq, Repr, Inhabited

namespace Document

def new (text : Text) (file : Option Path) : Document := ⟨file, text, 0, false, false, []⟩

/-- Whether the document may be formatted. -/
def editable (d : Document) : Bool := !d.closed && !d.readOnly

def setReadOnly (d : Document) (value : Bool) : Document := { d with readOnly := value }

def close (d : Document) : Document := { d with closed := true }

/-- The cursor snaps back to the boundary at or before the offset. -/
def setCursor (d : Document) (offset : Nat) : Document :=
  { d with cursor := d.text.boundaryBelow offset }

def canUndo (d : Document) : Bool := !d.history.isEmpty

def applyChanges (d : Document) (changes : List Change) :
    Except ChangeFault (Document × List Change) := do
  let inverse ← Edit.orNotABoundary (Edit.inverse? d.text changes)
  let text ← Edit.apply d.text changes
  return ({ d with text := text, cursor := Edit.shift d.cursor changes }, inverse)

/-- Replaces the text; the same text again is not a replacement. -/
def setText (d : Document) (text : Text) : Except ChangeFault Document :=
  match Edit.changes d.text text with
  | [] => .ok d
  | changes => do
    let (d, inverse) ← d.applyChanges changes
    return { d with history := inverse :: d.history }

/-- Takes the last replacement back, and says whether there was one. -/
def undo (d : Document) : Except ChangeFault (Document × Bool) :=
  match d.history with
  | [] => .ok (d, false)
  | changes :: history => do
    let (d, _) ← { d with history := history }.applyChanges changes
    return (d, true)

inductive Step
  | setText (text : Text)
  | setCursor (offset : Nat)
  | undo
  | setReadOnly (value : Bool)
  | close
  deriving DecidableEq, Repr

/-- The document after a step; undoing also says whether there was something to undo. -/
def perform (d : Document) : Step → Except ChangeFault (Document × Option Bool)
  | .setText text => (d.setText text).map fun d => (d, none)
  | .setCursor offset => .ok (d.setCursor offset, none)
  | .undo => d.undo.map fun (d, undone) => (d, some undone)
  | .setReadOnly value => .ok (d.setReadOnly value, none)
  | .close => .ok (d.close, none)

end Document

end FormatService
