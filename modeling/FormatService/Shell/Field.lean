import FormatService.Shell.Pattern
import FormatService.Machine.FileTree

/-!
# Fields

A word that has been expanded is cut into fields at the blanks that the
expansions have brought in. Quoted characters never separate fields, and quotes
around nothing make an empty field. A field with unquoted pattern characters
stands for the files of that pattern, if there are any.
-/

set_option autoImplicit false

namespace FormatService.Shell

inductive Origin
  | written
  | expanded
  | quoted
  deriving DecidableEq, Repr

inductive Atom
  | char (c : Char) (o : Origin)
  /-- An expansion begins. All arguments in quotes are cut only where one of them ends. -/
  | opening (whole : Bool)
  /-- The end of an argument among all arguments, and what joins them where nothing is
  cut. -/
  | boundary (joint : Text)
  /-- Quotes: there is a field even if nothing is in it. -/
  | quotes
  deriving DecidableEq, Repr

namespace Field

def ofText (o : Origin) (t : Text) : List Atom := t.map fun c => .char c o

def ofExpansion (o : Origin) (t : Text) : List Atom :=
  if o = .expanded then .opening false :: ofText o t else ofText o t

def textOf (atoms : List Atom) : Text :=
  atoms.flatMap fun
    | .char c _ => [c]
    | .boundary joint => joint
    | .opening _ | .quotes => []

def patternOf (atoms : List Atom) : List Marked :=
  atoms.flatMap fun
    | .char c o => [(c, o == .quoted)]
    | .boundary joint => joint.map fun c => (c, true)
    | .opening _ | .quotes => []

structure Cutting where
  /-- The fields so far, and the characters of the current one, all in reverse. -/
  fields : List (List Marked)
  current : List Marked
  /-- Whether the current field is one even if it has no character. -/
  held : Bool
  /-- How many fields may come before the last one, if there is a limit. -/
  room : Option Nat
  /-- Whether the current field is the last one that there is room for, and has been
  ended before. -/
  full : Bool
  /-- Where the last field ends if only separators follow. -/
  cut : Option (List Marked)
  /-- Whether a field has just been ended by a blank. -/
  blank : Bool
  /-- Whether the current expansion, and the one before it, is all arguments in quotes. -/
  whole : Bool
  afterWhole : Bool

namespace Cutting

def start (room : Option Nat) : Cutting :=
  ⟨[], [], false, room, false, none, false, false, false⟩

def isBlank (c : Char) : Bool := c == ' ' || c == '\t' || c == '\n'

def isEmpty (x : Cutting) : Bool := x.current.isEmpty && !x.held

def add (x : Cutting) (c : Char) (quoted : Bool) : Cutting :=
  { x with current := (c, quoted) :: x.current, blank := false }

def close (x : Cutting) : Cutting :=
  { x with fields := x.current.reverse :: x.fields, current := [], held := false }

/-- A character behind the end of the last field. Blanks at the very end do not belong
to the field, nor does a single other separator. -/
def trail (x : Cutting) (c : Char) (separates blank : Bool) : Cutting :=
  if blank then
    { x with current := (c, false) :: x.current, cut := x.cut.or (some x.current) }
  else ({ x with cut := if separates && x.blank then x.cut else none }).add c false

/-- A separator ends a field. Blanks around another separator belong to it, and blanks
before the first field are passed over. -/
def separate (x : Cutting) (c : Char) (blank : Bool) : Cutting :=
  if x.blank then { x with blank := blank }
  else
    let blank := blank && !x.whole && !x.afterWhole
    if blank && x.isEmpty then x
    else if x.room = some 0 then
      { x with current := (c, false) :: x.current, full := true, cut := some x.current, blank := blank }
    else { x.close with room := x.room.map (· - 1), blank := blank }

def split (separators : Text) (x : Cutting) (c : Char) : Cutting :=
  let separates := separators.contains c
  let blank := separates && isBlank c
  if x.full then x.trail c separates blank
  else if separates then x.separate c blank
  else x.add c false

def step (separators : Text) (x : Cutting) : Atom → Cutting
  | .char c .expanded => x.split separators c
  | .char c o => x.add c (o == .quoted)
  | .opening whole => { x with blank := false, whole := whole, afterWhole := x.whole }
  | .boundary _ => x.separate '\x00' true
  | .quotes => { x with held := true, blank := false }

def finish (x : Cutting) : List (List Marked) :=
  let x := { x with current := x.cut.getD x.current }
  (if x.isEmpty && !x.whole then x else x.close).fields.reverse

end Cutting

/-- Cuts an expanded word at separators, into at most one more field than there is
room for. -/
def cut (separators : Text) (room : Option Nat) (atoms : List Atom) : List (List Marked) :=
  (atoms.foldl (Cutting.step separators) (Cutting.start room)).finish

/-! ### Names of files -/

def levels : Text → List Text
  | [] => [[]]
  | '\\' :: '/' :: t => [] :: levels t
  | '/' :: t => [] :: levels t
  | '\\' :: c :: t => onFirst ['\\', c] (levels t)
  | c :: t => onFirst [c] (levels t)
where
  onFirst (front : Text) : List Text → List Text
    | [] => [front]
    | l :: ls => (front ++ l) :: ls

def closesBrackets : Text → Bool
  | [] => false
  | '\\' :: _ :: t => t.head? == some ']' || closesBrackets t
  | _ :: t => t.head? == some ']' || closesBrackets t

def isPattern : Text → Bool
  | [] => false
  | '\\' :: _ :: t => isPattern t
  | c :: t =>
    c == '*' || c == '?' ||
      (c == '[' && closesBrackets (if t.head? = some '!' then t.drop 1 else t)) || isPattern t

def literal : Text → Text
  | '\\' :: c :: t => c :: literal t
  | c :: t => c :: literal t
  | [] => []

def namesIn (files : FileTree) (place : Location) : List Text :=
  [['.'], ['.', '.']] ++ files.nodes.filterMap fun (p, _) =>
    if p.length = place.length + 1 ∧ place.isPrefixOf p then p.getLast? else none

def before (a b : Text) : Bool := compareOfLessAndEq a b != .gt

def showsHidden (level : Text) : Bool := (literal (level.take 2)).head? == some '.'

/-- The paths below a directory that fit levels of a pattern, each with the text
before it. -/
def pathsBelow (files : FileTree) : List Text → Location → Text → List Text
  | [], _, front => [front]
  | level :: rest, place, front =>
    let within (name : Text) : List Text :=
      match files.walk place [name] with
      | .ok place =>
        if rest.isEmpty then [front ++ name]
        else if files.content? place = some .directory then
          pathsBelow files rest place (front ++ name ++ ['/'])
        else []
      | .error _ => []
    if isPattern level then
      let items := Pattern.itemsWithin level.length level
      let names := (namesIn files place).filter fun name =>
        Pattern.fits items name && (name.head? != some '.' || showsHidden level)
      names.flatMap within
    else within (literal level)

def fieldText (field : List Marked) : Text := field.map (·.1)

def paths (files : FileTree) (directory : Location) (field : List Marked) : List Text :=
  let levels := levels (Pattern.written field)
  if levels.any isPattern then
    let found := match levels with
      | [] :: rest => pathsBelow files rest [] ['/']
      | levels => pathsBelow files levels directory []
    if found.isEmpty then [fieldText field] else found.mergeSort before
  else [fieldText field]

end Field

end FormatService.Shell
