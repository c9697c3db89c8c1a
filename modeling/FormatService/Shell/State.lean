import FormatService.Shell.Arithmetic
import FormatService.Shell.Signal
import FormatService.Shell.World

/-!
# The state of a running script

A script has variables, arguments and channels of its own, which connect it to the streams
and files of the world.

Texts in here are bytes: every character is the byte of its number.
-/

set_option autoImplicit false

namespace FormatService.Shell

structure Variable where
  name : Text
  value : Option Text
  exported : Bool
  /-- Whether the value must not be changed. -/
  fixed : Bool
  deriving DecidableEq, Repr

/-- The variables that a function or command gives back when it ends. -/
abbrev Frame := List (Text × Option Variable)

structure State where
  world : World
  directory : Location
  bindings : List Variable
  functions : List (Text × Command)
  /-- The texts of the here-documents that have been read, and the number of the next. -/
  documents : List (Nat × Word)
  nextDocument : Nat
  /-- What is given back, the innermost function or command first. -/
  frames : List Frame
  /-- What the script was called, and its arguments. -/
  name : Text
  arguments : List Text
  /-- How the last command ended. -/
  status : Nat
  /-- How the last script in a substitution ended. -/
  substituted : Nat
  /-- The status with which the script ends when it is left, if that is known. -/
  final : Option Nat
  links : List (Nat × Link)
  /-- The number of the process, also within the copies of the script that it starts. -/
  process : Nat
  /-- The letters of the options that are set. -/
  options : Text
  /-- The line of the command that is running, and the one that has been reached in reading. -/
  line : Nat
  reached : Nat
  /-- The built-in command that is running. -/
  command : Option Text
  /-- How many loops are running. -/
  loops : Nat

inductive Flow
  | next
  /-- The script ends. -/
  | leave
  /-- The script ends because of a mistake, unless a command makes up for it. -/
  | fail
  /-- This process, or the one that all copies belong to, is ended by a signal. -/
  | gone (signal : Signal)
  | killed (signal : Signal)
  /-- Leaves this many loops. -/
  | stop (loops : Nat)
  /-- Goes on with the next round of the loop that is this many levels out. -/
  | skip (loops : Nat)
  /-- A function ends. -/
  | back
  deriving DecidableEq, Repr

namespace Flow

def isOrderly : Flow → Bool
  | next | stop _ | skip _ | back => true
  | _ => false

end Flow

namespace State

def link? (s : State) (channel : Nat) : Option Link := (s.links.find? (·.1 == channel)).map (·.2)

def link (s : State) (channel : Nat) : Link := (s.link? channel).getD .void

def disconnect (s : State) (channel : Nat) : State :=
  { s with links := s.links.filter (·.1 != channel) }

def connect (s : State) (channel : Nat) (p : Link) : State :=
  { s with links := (channel, p) :: s.links.filter (·.1 != channel) }

def write (s : State) (channel : Nat) (t : Text) : State :=
  match s.link? channel with
  | some p => { s with world := s.world.write p t }
  | none => s

/-- What is at a path. A device for a channel stands for what the channel leads to. -/
def contentAt (s : State) (path : Text) : Except SystemFault Content := do
  match ← s.world.files.find s.directory path with
  | .channel number =>
    match s.link? number with
    | none => .error .missing
    | some .void => return .void
    | some (.file id) =>
      return ((s.world.opening? id).bind fun o => s.world.files.content? o.place).getD .void
    | some _ => return .channel number
  | content => return content

def withStatus (s : State) (n : Nat) : State := { s with status := n % 256 }

def has (s : State) (option : Char) : Bool := s.options.contains option

def header (s : State) : Text :=
  let command := match s.command with
    | some c => c ++ ": ".toList
    | none => []
  s.name ++ ": ".toList ++ (toString s.line).toList ++ ": ".toList ++ command

def complain (s : State) (t : Text) : State := s.write 2 (s.header ++ t ++ ['\n'])

def mistakeStatus : Nat := 2

def mistaken (s : State) (t : Text) : State × Flow :=
  ((s.complain t).withStatus mistakeStatus, .fail)

/-! ### Variables -/

def find? (s : State) (name : Text) : Option Variable := s.bindings.find? (·.name == name)

def value? (s : State) (name : Text) : Option Text := (s.find? name).bind (·.value)

def isFixed (s : State) (name : Text) : Bool := ((s.find? name).map (·.fixed)).getD false

def separators (s : State) : Text := (s.value? "IFS".toList).getD [' ', '\t', '\n']

def searchPath : Text := "PATH".toList

def put (s : State) (v : Variable) : State :=
  { s with bindings := v :: s.bindings.filter (·.name != v.name) }

def setVariable (s : State) (name value : Text) : State :=
  let old := s.find? name
  s.put ⟨name, some value, (old.map (·.exported)).getD false, (old.map (·.fixed)).getD false⟩

def refusal? (s : State) (name : Text) : Option Text :=
  if isName name = false then some (name ++ ": bad variable name".toList)
  else if s.isFixed name then some (name ++ ": is read only".toList)
  else none

def assign (s : State) (name value : Text) : Except Text State :=
  match s.refusal? name with
  | some complaint => .error complaint
  | none => .ok (s.setVariable name value)

def lasting : List Text := ["IFS", "PATH", "PS1", "PS2", "PS4"].map String.toList

def unset (s : State) (name : Text) : Except Text State :=
  match s.refusal? name with
  | some complaint => .error complaint
  | none =>
    let stays := lasting.contains name || s.frames.any fun f => f.any (·.1 == name)
    let exported := ((s.find? name).map (·.exported)).getD false
    .ok (if stays then s.put ⟨name, none, exported, false⟩
      else { s with bindings := s.bindings.filter (·.name != name) })

def exportVariable (s : State) (name : Text) : State :=
  match s.find? name with
  | some v => s.put { v with exported := true }
  | none => s.put ⟨name, none, true, false⟩

def fixVariable (s : State) (name : Text) : State :=
  match s.find? name with
  | some v => s.put { v with fixed := true }
  | none => s.put ⟨name, none, false, true⟩

def openFrame (s : State) : State := { s with frames := [] :: s.frames }

def remember (s : State) (name : Text) : State :=
  match s.frames with
  | f :: frames =>
    if f.any (·.1 == name) then s
    else { s with frames := ((name, s.find? name) :: f) :: frames }
  | [] => s

def closeFrame (s : State) : State :=
  match s.frames with
  | f :: frames =>
    let kept := s.bindings.filter fun v => !f.any (·.1 == v.name)
    { s with bindings := f.filterMap (·.2) ++ kept, frames := frames }
  | [] => s

def closeFrames (s : State) (left : Nat) : State :=
  (List.range (s.frames.length - left)).foldl (fun (s : State) _ => s.closeFrame) s

def environment (s : State) : List (Text × Text) :=
  s.bindings.filterMap fun v => if v.exported then v.value.map fun t => (v.name, t) else none

def inWorldOf (s other : State) : State :=
  { s with
    world := other.world
    documents := other.documents
    nextDocument := other.nextDocument }

end State

end FormatService.Shell
