import FormatService.Edit.Merge
import FormatService.Edit.Align

/-!
# Scripts that read well

A kept stretch that is no longer than the edits on both of its sides is noise: it
is deleted and inserted again. A deletion and an insertion that overlap by at
least half of the shorter one keep the overlap.
-/

set_option autoImplicit false

namespace FormatService.Edit

/-- The edits on one side of a kept stretch, by the characters in them. -/
structure Weight where
  inserted : Nat
  deleted : Nat

namespace Weight

def zero : Weight := ⟨0, 0⟩

def add (w : Weight) : Chunk → Weight
  | .insert t => { w with inserted := w.inserted + t.length }
  | .delete t => { w with deleted := w.deleted + t.length }
  | .keep _ => w

def larger (w : Weight) : Nat := max w.inserted w.deleted

end Weight

def keeps (s : Script) : Nat := s.countP Chunk.isKeep

/-- The chunks before the last kept stretch of a reversed script, and the rest. -/
def splitLastKeep (s : Script) : Script × Script := s.span fun c => !c.isKeep

/-- The script with its last kept stretch, of those in the reversed first part,
turned into edits. The work goes on after the kept stretch that lies two before
it, or from the start. -/
def dropNoise (passed rest : Script) : Option (Script × Script) :=
  match splitLastKeep passed with
  | (after, .keep t :: before) =>
    let redone := .delete t :: .insert t :: (after.reverse ++ rest)
    match splitLastKeep before with
    | (between, previous :: further) =>
      let (edits, anchor) := splitLastKeep further
      some (anchor, edits.reverse ++ previous :: (between.reverse ++ redone))
    | (between, []) => some ([], between.reverse ++ redone)
  | _ => none

/-- State of the walk over a script: the chunks passed (last first), the length of
the last kept stretch if it may still be noise, and the edits around it. -/
structure Walk where
  passed : Script
  candidate : Option Nat
  before : Weight
  after : Weight

def Walk.start (passed : Script) : Walk := ⟨passed, none, .zero, .zero⟩

def Walk.isNoise (w : Walk) : Bool :=
  w.candidate.any fun n => n ≤ w.before.larger && n ≤ w.after.larger

def removeNoise : Nat → Walk → Script → Script
  | _, w, [] => w.passed.reverse
  | 0, w, rest => w.passed.reverse ++ rest
  | n + 1, w, .keep t :: rest =>
    removeNoise n ⟨.keep t :: w.passed, some t.length, w.after, .zero⟩ rest
  | n + 1, w, edit :: rest =>
    let w := { w with passed := edit :: w.passed, after := w.after.add edit }
    if w.isNoise then
      match dropNoise w.passed rest with
      | some (passed, rest) => removeNoise n (.start passed) rest
      | none => w.passed.reverse ++ rest
    else removeNoise n w rest

/-- Each removal starts the walk again, so the number of kept stretches times the
length of the script with all of them removed bounds the steps. -/
def withoutNoise (s : Script) : Script :=
  removeNoise ((keeps s + 1) * (2 * s.length + 1)) (.start []) s

/-- Keeps what a deletion and the insertion after it have in common. -/
def keepOverlaps : Script → Script
  | .delete d :: .insert i :: rest =>
    let forth := overlap d i
    let back := overlap i d
    let shorter := min d.length i.length
    if back ≤ forth then
      if shorter ≤ 2 * forth then
        .delete (d.take (d.length - forth)) :: .keep (i.take forth) :: .insert (i.drop forth) ::
          keepOverlaps rest
      else .delete d :: .insert i :: keepOverlaps rest
    else if shorter ≤ 2 * back then
      .insert (i.take (i.length - back)) :: .keep (d.take back) :: .delete (d.drop back) ::
        keepOverlaps rest
    else .delete d :: .insert i :: keepOverlaps rest
  | c :: rest => c :: keepOverlaps rest
  | [] => []

/-- The script made readable: noise removed, edits aligned, overlaps kept. -/
def polish (s : Script) : Script :=
  let quiet := withoutNoise s
  keepOverlaps (align (if keeps quiet = keeps s then quiet else merge quiet))

end FormatService.Edit
