import FormatService.Edit.Script
import FormatService.Edit.Common

/-!
# Merging chunks

The normal form of a script: between two kept stretches there is at most one
deletion followed by at most one insertion, which share no beginning and no end,
and no edit can be moved over a whole kept stretch beside it.
-/

set_option autoImplicit false

namespace FormatService.Edit

/-- Gathers the edits between kept stretches. What a deletion and an insertion
share at their ends is kept. -/
def gather (kept deleted inserted : Text) : Script → Script
  | .delete t :: rest => gather kept (deleted ++ t) inserted rest
  | .insert t :: rest => gather kept deleted (inserted ++ t) rest
  | .keep t :: rest =>
    if deleted = [] ∧ inserted = [] then gather (kept ++ t) [] [] rest
    else
      let start := sharedStart deleted inserted
      let d := deleted.drop start
      let i := inserted.drop start
      let stop := sharedEnd d i
      Script.ofParts (kept ++ deleted.take start) (d.take (d.length - stop))
        (i.take (i.length - stop)) ++ gather (d.drop (d.length - stop) ++ t) [] [] rest
  | [] =>
    let start := sharedStart deleted inserted
    let d := deleted.drop start
    let i := inserted.drop start
    let stop := sharedEnd d i
    Script.ofParts (kept ++ deleted.take start) (d.take (d.length - stop))
      (i.take (i.length - stop)) ++ Script.ofParts (d.drop (d.length - stop)) [] []

/-- Moves an edit over the kept stretch on its left, or else on its right, when
the text of the edit allows it. Also says whether any edit was moved. -/
def moveOver : Script → Script × Bool
  | .keep a :: edit :: .keep b :: rest =>
    if edit.isKeep then
      let (s, moved) := moveOver (edit :: .keep b :: rest)
      (.keep a :: s, moved)
    else if a.isSuffixOf edit.text then
      let text := a ++ edit.text.take (edit.text.length - a.length)
      let (s, _) := moveOver (.keep (a ++ b) :: rest)
      (edit.withText text :: s, true)
    else if b.isPrefixOf edit.text then
      let text := edit.text.drop b.length ++ b
      let (s, _) := moveOver (edit.withText text :: rest)
      (.keep (a ++ b) :: s, true)
    else
      let (s, moved) := moveOver (edit :: .keep b :: rest)
      (.keep a :: s, moved)
  | c :: rest =>
    let (s, moved) := moveOver rest
    (c :: s, moved)
  | [] => ([], false)
termination_by s => s.length

def mergeRounds : Nat → Script → Script
  | 0, s => s
  | n + 1, s =>
    match moveOver (gather [] [] [] s) with
    | (s, true) => mergeRounds n s
    | (s, false) => s

/-- Every round that moves an edit uses up a kept stretch, so there are fewer
rounds than chunks and characters. -/
def merge (s : Script) : Script :=
  mergeRounds (s.length + s.old.length + s.new.length + 1) s

end FormatService.Edit
