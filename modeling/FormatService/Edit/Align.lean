import FormatService.Edit.Script
import FormatService.Edit.Common

/-!
# Aligning edits

An edit between two kept stretches can often be moved sideways without changing
either text. It is put where its two ends look most natural: at the edge of a
text, at a blank line, a line break, the end of a sentence, white space or
punctuation, in this order.
-/

set_option autoImplicit false

namespace FormatService.Edit

def isAsciiSpace (c : Char) : Bool :=
  c = ' ' || c = '\t' || c = '\n' || c = '\x0c' || c = '\r'

def isControl (c : Char) : Bool := c.toNat < 0x20 || (0x7f ≤ c.toNat && c.toNat < 0xa0)

def endsWithBlankLine (t : Text) : Bool :=
  ['\n', '\n'].isSuffixOf t || ['\n', '\r', '\n'].isSuffixOf t

def startsWithBlankLine (t : Text) : Bool :=
  ['\n', '\n'].isPrefixOf t || ['\r', '\n', '\r', '\n'].isPrefixOf t

def boundaryScore (before after : Text) : Nat :=
  match before.getLast?, after.head? with
  | some a, some b =>
    let other1 := !a.isAlphanum
    let other2 := !b.isAlphanum
    let space1 := other1 && isAsciiSpace a
    let space2 := other2 && isAsciiSpace b
    let break1 := space1 && isControl a
    let break2 := space2 && isControl b
    if (break1 && endsWithBlankLine before) || (break2 && startsWithBlankLine after) then 5
    else if break1 || break2 then 4
    else if other1 && !space1 && space2 then 3
    else if space1 || space2 then 2
    else if other1 || other2 then 1
    else 0
  | _, _ => 6

/-- An edit with the kept stretches beside it. -/
structure Placement where
  before : Text
  edit : Text
  after : Text
  deriving DecidableEq, Repr

def Placement.score (p : Placement) : Nat :=
  boundaryScore p.before p.edit + boundaryScore p.edit p.after

def Placement.leftmost (p : Placement) : Placement :=
  let n := sharedEnd p.before p.edit
  let common := p.edit.drop (p.edit.length - n)
  ⟨p.before.take (p.before.length - n), common ++ p.edit.take (p.edit.length - n), common ++ p.after⟩

/-- The best place among the given one and those further right; of equally good
places the last. -/
def Placement.bestFrom (before edit : Text) (best : Placement) : Text → Placement
  | [] => best
  | n :: after =>
    match edit with
    | [] => best
    | e :: es =>
      if e = n then
        let next : Placement := ⟨before ++ [e], es ++ [n], after⟩
        bestFrom next.before next.edit (if best.score ≤ next.score then next else best) after
      else best

def Placement.best (p : Placement) : Placement :=
  let start := p.leftmost
  bestFrom start.before start.edit start start.after

/-- Puts every single edit between kept stretches in its best place. -/
def align : Script → Script
  | .keep a :: edit :: .keep b :: rest =>
    if edit.isKeep then .keep a :: align (edit :: .keep b :: rest)
    else
      let best := Placement.best ⟨a, edit.text, b⟩
      let head := Script.ofParts best.before [] [] ++ [edit.withText best.edit]
      if best.after = [] then head ++ align rest
      else head ++ align (.keep best.after :: rest)
  | c :: rest => c :: align rest
  | [] => []
termination_by s => s.length

end FormatService.Edit
