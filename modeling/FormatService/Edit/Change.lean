import FormatService.Text.Quoted
import FormatService.Edit.Difference

/-!
# Changes to a text

A change replaces the characters between two byte offsets of a text. A list of
changes is applied at once: all offsets are those of the text before.
-/

set_option autoImplicit false

namespace FormatService.Edit

structure Change where
  start : Nat
  stop : Nat
  newText : Text
  deriving DecidableEq, Repr, Inhabited

namespace Change

def width (c : Change) : Nat := c.stop - c.start

def growth (c : Change) : Int := (c.newText.byteLength : Int) - c.width

/-- The number of offsets. -/
def limit : Nat := Nat.pow 2 64

def offset (i : Int) : Nat := (i % limit).toNat

def byPosition (a b : Change) : Bool :=
  a.start < b.start || (a.start == b.start && a.stop ≤ b.stop)

/-- Changes by position; of changes with equal ranges the first stays first. -/
def sort (changes : List Change) : List Change := changes.mergeSort byPosition

def describe (c : Change) : String :=
  "TextChange \x7b range: " ++ toString c.start ++ ".." ++ toString c.stop ++ ", new_text: " ++
    String.ofList (Text.quoted c.newText) ++ " \x7d"

def describeAll (changes : List Change) : String :=
  "[" ++ ", ".intercalate (changes.map describe) ++ "]"

end Change

/-- Why a list of changes cannot be applied. -/
inductive ChangeFault
  /-- The last of these changes ends before it starts. -/
  | reversed (upTo : List Change) (change : Change)
  /-- The last of these changes starts before the one before it ends. -/
  | overlapping (upTo : List Change) (past : Nat) (change : Change)
  /-- An offset lies inside a character or outside the text. -/
  | notABoundary
  deriving DecidableEq, Repr

def ChangeFault.message : ChangeFault → String
  | .reversed upTo c =>
    "Text change had start index " ++ toString c.start ++ " greater than end index " ++
      toString c.stop ++ ".\n\n" ++ Change.describeAll upTo
  | .overlapping upTo past c =>
    "Text changes were overlapping. Past index was " ++ toString past ++
      ", but new change had index " ++ toString c.start ++ ".\n\n" ++ Change.describeAll upTo
  | .notABoundary => "a position is not on a character boundary"

def orNotABoundary {α : Type} : Option α → Except ChangeFault α
  | some a => .ok a
  | none => .error .notABoundary

/-- What is kept between the end of one change and the start of the next. Changes
may lie beyond the end of the text. -/
def keptBetween (source : Text) (last start : Nat) : Except ChangeFault Text :=
  if last < start ∧ last < source.byteLength then
    orNotABoundary (source.slice? last (min source.byteLength start))
  else .ok []

def keptAfter (source : Text) (last : Nat) : Except ChangeFault Text :=
  if last < source.byteLength then orNotABoundary (source.from? last) else .ok []

def applyFrom (source : Text) (seen : List Change) (last : Nat) :
    List Change → Except ChangeFault Text
  | [] => keptAfter source last
  | c :: rest =>
    if c.stop < c.start then .error (.reversed (seen ++ [c]) c)
    else if c.start < last then .error (.overlapping (seen ++ [c]) last c)
    else do
      let kept ← keptBetween source last c.start
      let tail ← applyFrom source (seen ++ [c]) c.stop rest
      return kept ++ c.newText ++ tail

/-- The text after the changes, which may come in any order. -/
def apply (source : Text) (changes : List Change) : Except ChangeFault Text :=
  applyFrom source [] 0 (Change.sort changes)

def inverseFrom (source : Text) (moved : Int) : List Change → Option (List Change)
  | [] => some []
  | c :: rest => do
    let replaced ← source.slice? c.start c.stop
    let start : Int := c.start + moved
    let others ← inverseFrom source (moved + c.growth) rest
    return ⟨Change.offset start, Change.offset (start + c.newText.byteLength), replaced⟩ :: others

/-- The changes that undo the given ones, which have to be sorted and apart. -/
def inverse? (source : Text) (changes : List Change) : Option (List Change) :=
  inverseFrom source 0 changes

def shiftFrom (position : Nat) (moved : Int) : List Change → Nat
  | [] => Change.offset (position + moved)
  | c :: rest =>
    if c.stop ≤ position then shiftFrom position (moved + c.growth) rest
    else if c.start < position then Change.offset (c.start + moved + c.newText.byteLength)
    else Change.offset (position + moved)

/-- Where a position comes to lie. A position inside a change moves to the end of
the new text. -/
def shift (position : Nat) (changes : List Change) : Nat := shiftFrom position 0 changes

def changesFrom (index : Nat) (pending : Option Change) : Script → List Change
  | [] => pending.toList
  | .keep t :: rest => pending.toList ++ changesFrom (index + t.byteLength) none rest
  | .delete t :: rest =>
    let c := pending.getD ⟨index, index, []⟩
    changesFrom (index + t.byteLength) (some { c with stop := c.stop + t.byteLength }) rest
  | .insert t :: rest =>
    let c := pending.getD ⟨index, index, []⟩
    changesFrom index (some { c with newText := c.newText ++ t }) rest

/-- The changes that turn one text into the other: in order, apart, and on
character boundaries. -/
def changes (s t : Text) : List Change := changesFrom 0 none (difference s t)

end FormatService.Edit
