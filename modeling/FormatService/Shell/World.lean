import FormatService.Machine.FileTree

/-!
# The world of scripts

Programs that run one after the other share a world: the files, those of them that are
open, what is left to read in each stream, and what has been written to each.

Texts in here are bytes: every character is the byte of its number.
-/

set_option autoImplicit false

namespace FormatService.Shell

inductive Link
  | source (id : Nat)
  | sink (id : Nat)
  /-- A file that is open, by its number. -/
  | file (id : Nat)
  | void
  deriving DecidableEq, Repr

inductive Access
  | reading
  /-- For a text of its own, which takes the place of what is there. -/
  | writing
  /-- For text behind what is there. -/
  | appending
  deriving DecidableEq, Repr

namespace Access

def writes : Access → Bool
  | reading => false
  | _ => true

end Access

structure Opening where
  place : Location
  access : Access
  /-- How far the file has been gone through. -/
  offset : Nat
  deriving DecidableEq, Repr

def overwritten (bytes new : Bytes) (offset : Nat) : Bytes :=
  bytes.take offset ++ List.replicate (offset - bytes.length) 0 ++ new ++
    bytes.drop (offset + new.length)

structure World where
  files : FileTree
  /-- The files that are open. -/
  openings : List (Nat × Opening)
  /-- What is left to read, per stream. -/
  sources : List (Nat × Text)
  /-- What has been written, per stream, the last piece first. -/
  sinks : List (Nat × List Text)
  /-- The number of the next stream, file or process. -/
  next : Nat

namespace World

def source (w : World) (id : Nat) : Text := ((w.sources.find? (·.1 == id)).map (·.2)).getD []

def setSource (w : World) (id : Nat) (t : Text) : World :=
  { w with sources := (id, t) :: w.sources.filter (·.1 != id) }

def pieces (w : World) (id : Nat) : List Text := ((w.sinks.find? (·.1 == id)).map (·.2)).getD []

def sink (w : World) (id : Nat) : Text := (w.pieces id).reverse.flatten

def openSource (w : World) (t : Text) : World × Nat :=
  ({ w with sources := (w.next, t) :: w.sources, next := w.next + 1 }, w.next)

def openSink (w : World) : World × Nat :=
  ({ w with sinks := (w.next, []) :: w.sinks, next := w.next + 1 }, w.next)

/-! ### Open files -/

def opening? (w : World) (id : Nat) : Option Opening :=
  (w.openings.find? (·.1 == id)).map (·.2)

def setOpening (w : World) (id : Nat) (o : Opening) : World :=
  { w with openings := (id, o) :: w.openings.filter (·.1 != id) }

def held (w : World) (o : Opening) : Except SystemFault Bytes :=
  ((w.files.content? o.place).map Content.read).getD (.ok [])

def addOpening (w : World) (o : Opening) : World × Link :=
  ({ w with openings := (w.next, o) :: w.openings, next := w.next + 1 }, .file w.next)

def reopened (w : World) (access : Access) (p : Link) : Except SystemFault (World × Link) :=
  match p with
  | .file id =>
    match w.opening? id with
    | none => .error .missing
    | some o =>
      let w :=
        if access ≠ .writing then .ok w
        else (w.files.updateBytes o.place fun _ => []).map fun files => { w with files := files }
      w.map fun w => w.addOpening { o with access := access, offset := 0 }
  | p => .ok (w, p)

/-- Opens the file at a path. A device for a channel stands for what the channel leads to. -/
def openAt (w : World) (links : List (Nat × Link)) (directory : Location) (access : Access)
    (path : Text) : Except SystemFault (World × Link) := do
  let place ← if access.writes then w.files.target directory path else w.files.locate directory path
  match w.files.content? place with
  | some (.channel number) =>
    match links.find? (·.1 == number) with
    | some (_, p) => w.reopened access p
    | none => .error .missing
  | some .void => return (w, .void)
  | _ =>
    let files ←
      match access with
      | .reading => pure w.files
      | .writing => w.files.updateBytes place fun _ => []
      | _ => w.files.updateBytes place id
    return { w with files := files }.addOpening ⟨place, access, 0⟩

/-! ### Reading and writing -/

def takes (w : World) (p : Link) : Bool :=
  match p with
  | .source _ => false
  | .file id => (w.opening? id).any (·.access.writes)
  | _ => true

def writeBytes (w : World) (id : Nat) (o : Opening) (new : Bytes) : World :=
  match w.held o with
  | .error _ => w
  | .ok bytes =>
    let start := if o.access = .appending then bytes.length else o.offset
    let bytes := overwritten bytes new start
    match w.files.updateBytes o.place fun _ => bytes with
    | .ok files => { w.setOpening id { o with offset := start + new.length } with files := files }
    | .error _ => w

def write (w : World) (p : Link) (t : Text) : World :=
  if t.isEmpty || !w.takes p then w
  else
    match p with
    | .sink id => { w with sinks := (id, t :: w.pieces id) :: w.sinks.filter (·.1 != id) }
    | .file id => ((w.opening? id).map fun o => w.writeBytes id o (Bytes.ofOctets t)).getD w
    | _ => w

def left (w : World) (p : Link) : Except SystemFault Text :=
  match p with
  | .source id => .ok (w.source id)
  | .sink _ => .error .closed
  | .file id =>
    match w.opening? id with
    | none => .error .closed
    | some o =>
      if o.access = .reading then (w.held o).map fun bytes => Bytes.toOctets (bytes.drop o.offset)
      else .error .closed
  | .void => .ok []

def textLeft (w : World) (p : Link) : Text := (w.left p).toOption.getD []

def leave (w : World) (p : Link) (rest : Text) : World :=
  match p with
  | .source id => w.setSource id rest
  | .file id =>
    match w.opening? id with
    | none => w
    | some o =>
      let read := (w.textLeft p).length - rest.length
      w.setOpening id { o with offset := o.offset + read }
  | _ => w

def drain (w : World) (p : Link) : World × Text := (w.leave p [], w.textLeft p)

end World

end FormatService.Shell
