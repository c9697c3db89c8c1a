import FormatService.LineEditor.Grammar
import FormatService.Machine.FileTree

/-!
# Editing line by line

A script is run once for each line of the input: the line is in the pattern space,
commands change it, and it is written when they are done. A hold space keeps a text
from line to line.

Scripts need not end, so a bound is given on the number of steps.
-/

set_option autoImplicit false

namespace FormatService.LineEditor

/-- A text that is edited, and whether a line end belongs to it. -/
structure Space where
  text : Text
  ended : Bool

/-- What has been written to one place, the last piece first, and whether a line end
is due before more is written. -/
structure Output where
  pieces : List Text
  due : Bool

inductive RangeState
  | closed
  | opened
  /-- The range ends at this line. -/
  | until (line : Nat)
  deriving DecidableEq, Repr, Inhabited

inductive Abort
  | noExpression
  | unreadable (name : Text) (fault : SystemFault)
  deriving DecidableEq, Repr

namespace Abort

def message : Abort → Text
  | noExpression => "-e expression #1, char 0: no previous regular expression".toList
  | unreadable name fault => "read error on ".toList ++ name ++ ": ".toList ++ fault.text.toList

def status : Abort → Nat
  | noExpression => 1
  | unreadable .. => 4

end Abort

structure Editor where
  files : FileTree
  directory : Location
  /-- What has not been taken of standard input, if it can be read. -/
  input : Except SystemFault Text
  /-- The files that have not been opened, and the current one with what is left of it. -/
  waiting : List Text
  name : Text
  rest : Text
  line : Nat
  pattern : Space
  hold : Space
  replaced : Bool
  ranges : Array RangeState
  /-- What is written behind the current line. -/
  queue : List Text
  lastExpression : Option Expression
  out : Output
  /-- Complaints about files that cannot be read, in reverse. -/
  complaints : List Text
  status : Option Nat
  abort : Option Abort

namespace Output

def empty : Output := ⟨[], false⟩

def text (o : Output) : Text := o.pieces.reverse.flatten

def raw (t : Text) (o : Output) : Output :=
  ⟨t :: (if o.due then ['\n'] :: o.pieces else o.pieces), false⟩

/-- Writes a line. Its end may be left out for the time being. -/
def line (s : Space) (o : Output) : Output :=
  let o := o.raw s.text
  if s.ended then ⟨['\n'] :: o.pieces, false⟩ else ⟨o.pieces, true⟩

end Output

namespace Editor

def inputName : Text := "/dev/stdin".toList

def streamName : Text := ['-']

def isStream (name : Text) : Bool := name == streamName || name == inputName

def writeLine (s : Space) (e : Editor) : Editor := { e with out := e.out.line s }

def writeText (t : Text) (e : Editor) : Editor := { e with out := e.out.raw t }

def complain (name : Text) (f : SystemFault) (e : Editor) : Editor :=
  let text := "can't read ".toList ++ name ++ ": ".toList ++ f.text.toList
  { e with complaints := text :: e.complaints }

/-- Opens the next file that can be read and that holds anything. Who only looks ahead passes
over files that are there but cannot be read. -/
def openNext (ahead : Bool) : List Text → Editor → Editor
  | [], e => { e with waiting := [] }
  | name :: names, e =>
    let (found, e) :=
      if isStream name then (e.input, { e with input := e.input.map fun _ => [] })
      else ((e.files.readBytes e.directory name).map Bytes.toOctets, e)
    let shown := if name = streamName then "stdin".toList else name
    match found with
    | .ok [] => openNext ahead names { e with name := name }
    | .ok t => { e with waiting := names, name := name, rest := t }
    | .error f =>
      if f = .isDirectory || (f = .closed && name = streamName) then
        if ahead then openNext ahead names e
        else { e with waiting := names, abort := some (.unreadable shown f) }
      else openNext ahead names (e.complain name (if f = .closed then .missing else f))

def left (e : Editor) : Text := if isStream e.name then e.rest else e.input.toOption.getD []

def isLast (e : Editor) : Bool × Editor :=
  if !e.rest.isEmpty then (false, e)
  else
    let e := openNext true e.waiting e
    (e.rest.isEmpty, e)

def dump (e : Editor) : Editor :=
  { e.queue.foldl (fun (e : Editor) t => e.writeText t) e with queue := [] }

def takeLine (e : Editor) : Option Space × Editor :=
  let e := if e.rest.isEmpty then openNext false e.waiting e else e
  if e.rest.isEmpty then (none, e)
  else
    let line := e.rest.takeWhile (· != '\n')
    let rest := e.rest.drop line.length
    (some ⟨line, !rest.isEmpty⟩, { e with rest := rest.drop 1, line := e.line + 1 })

def holdsAt (a : Address) (e : Editor) : Bool × Editor :=
  match a with
  | .line n => (n == e.line, e)
  | .every first step => (first ≤ e.line && (e.line - first) % step == 0, e)
  | .last => e.isLast
  | .containing found =>
    match found.or e.lastExpression with
    | none => (false, { e with abort := some .noExpression })
    | some r => (r.occursIn e.pattern.text, { e with lastExpression := some r })

def opening (final : RangeEnd) (e : Editor) : RangeState :=
  let ending (n : Nat) : RangeState := if n ≤ e.line then .closed else .until n
  match final with
  | .behind n => ending (e.line + n)
  | .address (.line n) => ending n
  | .address _ => .opened

def selects (place : Nat) (s : Scope) (e : Editor) : Bool × Editor :=
  match s with
  | .all => (true, e)
  | .one a => e.holdsAt a
  | .range first final =>
    match e.ranges.getD place .closed with
    | .closed =>
      let (holds, e) := e.holdsAt first
      if holds then (true, { e with ranges := e.ranges.set! place (e.opening final) })
      else (false, e)
    | .until n =>
      let e := if n ≤ e.line then { e with ranges := e.ranges.set! place .closed } else e
      (e.line ≤ n, e)
    | .opened =>
      match final with
      | .address a =>
        let (holds, e) := e.holdsAt a
        (true, if holds then { e with ranges := e.ranges.set! place .closed } else e)
      | _ => (true, e)

inductive Turn
  | goOn (place : Nat)
  /-- The script is done with the line. -/
  | done (prints : Bool)
  /-- The script begins again without another line. -/
  | again
  /-- The editor stops; if it prints, the line is finished before that. -/
  | stop (prints : Bool)

def jump (script : Script) (label : Text) : Nat :=
  if label.isEmpty then script.commands.size
  else ((script.labels.find? (·.1 == label)).map (·.2)).getD script.commands.size

def withText (t : Text) (e : Editor) : Editor := { e with pattern := { e.pattern with text := t } }

def firstLine? (e : Editor) : Option (Text × Text) :=
  let t := e.pattern.text
  let line := t.takeWhile (· != '\n')
  match t.drop line.length with
  | [] => none
  | _ :: rest => some (line, rest)

def substitute (s : Substitution) (e : Editor) : Editor :=
  match s.expression.or e.lastExpression with
  | none => { e with abort := some .noExpression }
  | some r =>
    let (line, any) := substituted r s e.pattern.text
    let e := { e with lastExpression := some r }
    if any then
      let e := { e.withText line with replaced := true }
      if s.prints then e.writeLine e.pattern else e
    else e

/-- Carries out the action of the command at a place, and says where to go on. The
text of a change is written at the end of its range. -/
def act (script : Script) (place : Nat) (a : Action) (e : Editor) : Turn × Editor :=
  let on (e : Editor) : Turn × Editor := (.goOn (place + 1), e)
  match a with
  | .block _ | .blockEnd | .label _ => on e
  | .substitute s => on (e.substitute s)
  | .exchange pairs =>
    on (e.withText (e.pattern.text.map fun c => ((pairs.find? (·.1 == c)).map (·.2)).getD c))
  | .insert t => on (if t.isEmpty then e else e.writeLine ⟨t.dropLast, true⟩)
  | .append t => on { e with queue := e.queue ++ [t] }
  | .change t =>
    let within := match e.ranges.getD place .closed with
      | .closed => false
      | _ => true
    (.done false, if within then e else e.writeText t)
  | .delete => (.done false, e)
  | .deleteFirst =>
    match e.firstLine? with
    | none => (.done false, e)
    | some (_, rest) => (.again, e.withText rest)
  | .print => on (e.writeLine e.pattern)
  | .printFirst =>
    on (e.writeLine (match e.firstLine? with
      | some (line, _) => ⟨line, true⟩
      | none => ⟨e.pattern.text, true⟩))
  | .next =>
    let (last, e) := e.isLast
    if last then (.done true, e)
    else
      match (if script.quiet then e else e.writeLine e.pattern).dump.takeLine with
      | (none, e) => (.done false, e)
      | (some s, e) => on { e with pattern := s }
  | .appendNext =>
    let (last, e) := e.isLast
    if last then (.done true, e)
    else
      match e.dump.takeLine with
      | (none, e) => (.done true, e)
      | (some s, e) =>
        on { e with pattern := ⟨e.pattern.text ++ '\n' :: s.text, s.ended⟩ }
  | .hold => on { e with hold := e.pattern }
  | .holdMore =>
    on { e with hold := { e.hold with text := e.hold.text ++ '\n' :: e.pattern.text } }
  | .recall => on { e with pattern := e.hold }
  | .recallMore => on (e.withText (e.pattern.text ++ '\n' :: e.hold.text))
  | .swap => on { e with pattern := e.hold, hold := e.pattern }
  | .lineNumber => on (e.writeLine ⟨(toString e.line).toList, true⟩)
  | .jump label => (.goOn (jump script label), e)
  | .jumpIfReplaced label =>
    if e.replaced then (.goOn (jump script label), { e with replaced := false }) else on e
  | .jumpUnlessReplaced label =>
    if e.replaced then on { e with replaced := false } else (.goOn (jump script label), e)
  | .quit status prints => (.stop prints, { e with status := some status })

def finishLine (script : Script) (prints : Bool) (e : Editor) : Editor :=
  (if prints && !script.quiet then e.writeLine e.pattern else e).dump

/-- One command; where a line is done, the next one is read. Nothing when there is no
more to do. -/
def step (script : Script) (place : Nat) (e : Editor) : Option Nat × Editor :=
  let turn (done : Turn × Editor) : Option Nat × Editor :=
    match done with
    | (.goOn place, e) => (some place, e)
    | (.done prints, e) =>
      match (e.finishLine script prints).takeLine with
      | (none, e) => (none, e)
      | (some s, e) => (some 0, { e with pattern := s, replaced := false })
    | (.again, e) => (some 0, e.finishLine script false)
    | (.stop prints, e) => (none, if prints then e.finishLine script true else e)
  match script.commands[place]? with
  | none => turn (.done true, e)
  | some c =>
    let (holds, e) := e.selects place c.scope
    if e.abort.isSome then (none, e)
    else if holds == c.negated then
      match c.action with
      | .block behind => (some behind, e)
      | _ => (some (place + 1), e)
    else turn (act script place c.action e)

def run (script : Script) : Nat → Nat → Editor → Editor
  | 0, _, e => e
  | n + 1, place, e =>
    match e.step script place with
    | (none, e) => e
    | (some place, e) => if e.abort.isSome then e else run script n place e

def bound : Nat := 1000000000

def start (script : Script) (files : FileTree) (directory : Location)
    (input : Except SystemFault Text) (names : List Text) : Editor :=
  let blank : Space := ⟨[], true⟩
  let states := script.commands.map fun c =>
    match c.scope with
    | .range (.line 0) _ => RangeState.opened
    | _ => .closed
  ⟨files, directory, input, names, [], [], 0, blank, blank, false, states, [], none, .empty, [],
    none, none⟩

def finish (script : Script) (e : Editor) : Editor :=
  match e.takeLine with
  | (none, e) => e
  | (some s, e) => if e.abort.isSome then e else run script bound 0 { e with pattern := s }

end Editor

end FormatService.LineEditor
