import FormatService.Text.Search
import FormatService.Edit.MiddleSnake
import FormatService.Edit.Semantic

/-!
# The difference of two texts

A short and readable script between two texts. What they share at the ends is
set aside, a text that contains the other is compared at once, and all else is
split where shortest edit paths meet.
-/

set_option autoImplicit false

namespace FormatService.Edit

def replacement (s t : Text) : Script := Script.ofParts [] s t

def containment? (s t : Text) : Option Script :=
  if t.length < s.length then
    (Text.find? t s).map fun n => [.delete (s.take n), .keep t, .delete (s.drop (n + t.length))]
  else
    (Text.find? s t).map fun n => [.insert (t.take n), .keep s, .insert (t.drop (n + s.length))]

mutual

/-- The script between two texts. The number bounds the depth of the splits, each
of which is smaller than what was split. -/
def compareTexts (depth : Nat) (s t : Text) : Script :=
  let start := sharedStart s t
  let s' := s.drop start
  let t' := t.drop start
  let stop := sharedEnd s' t'
  merge (Script.ofParts (s.take start) [] [] ++
    compareMiddles depth (s'.take (s'.length - stop)) (t'.take (t'.length - stop)) ++
    Script.ofParts (s'.drop (s'.length - stop)) [] [])
termination_by (depth, 1)

/-- The script between two texts that share neither a beginning nor an end. -/
def compareMiddles (depth : Nat) (s t : Text) : Script :=
  if s = [] ∨ t = [] then replacement s t
  else match containment? s t with
    | some script => script
    | none =>
      if s.length = 1 ∨ t.length = 1 then replacement s t
      else match depth with
        | 0 => replacement s t
        | depth + 1 =>
          match MiddleSnake.point? s t with
          | some (x, y) =>
            compareTexts depth (s.take x) (t.take y) ++ compareTexts depth (s.drop x) (t.drop y)
          | none => replacement s t
termination_by (depth, 0)

end

def difference (s t : Text) : Script :=
  merge (polish (compareTexts (s.length + t.length) s t))

end FormatService.Edit
