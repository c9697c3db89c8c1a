import FormatService.Text.Basic
import FormatService.Number.Binary64

/-!
# Similar texts

How much two short texts resemble each other, from 0 to 1: the share of their
characters that they have in common at nearly the same place, and the share of
these that are in the same order. The figure is computed in binary floating point.
-/

set_option autoImplicit false

namespace FormatService.Text

/-- Takes the first free character equal to `c` at a position from `low` and below
`high`; the list begins at position `i`. -/
def take? (c : Char) (low high : Nat) : Nat → List (Char × Bool) → Option (List (Char × Bool))
  | _, [] => none
  | i, (d, taken) :: rest =>
    if low ≤ i ∧ i < high ∧ c = d ∧ taken = false then some ((d, true) :: rest)
    else (take? c low high (i + 1) rest).map ((d, taken) :: ·)

/-- The characters of a text, from position `i` on, that find an equal free one
within reach, and the other text with the taken ones marked. -/
def matchUp (reach : Nat) : Nat → Text → List (Char × Bool) → Text × List (Char × Bool)
  | _, [], marked => ([], marked)
  | i, c :: t, marked =>
    match take? c (i - reach) (i + reach + 1) 0 marked with
    | some marked =>
      let (found, marked) := matchUp reach (i + 1) t marked
      (c :: found, marked)
    | none => matchUp reach (i + 1) t marked

def shared (s t : Text) : Text × Text :=
  let reach := max s.length t.length / 2 - 1
  let (found, marked) := matchUp reach 0 s (t.map fun c => (c, false))
  (found, (marked.filter (·.2)).map (·.1))

def swaps (s t : Text) : Nat := ((s.zip t).filter fun (c, d) => c != d).length / 2

def similarity? (s t : Text) : Option Binary64 :=
  let (inS, inT) := shared s t
  let n := inS.length
  if n = 0 then some .zero
  else do
    let a ← Binary64.ofFraction? n s.length
    let b ← Binary64.ofFraction? n t.length
    let c ← Binary64.ofFraction? (n - swaps inS inT) n
    let sum ← (← a.add? b).add? c
    sum.div? (← Binary64.ofNat? 3)

def threshold? : Option Binary64 := Binary64.ofFraction? 7 10

def likeness? (s t : Text) : Option Binary64 := do
  let similarity ← similarity? s t
  if (← threshold?).lt similarity then return similarity else none

def similar {α : Type} (name : α → String) (candidates : List α) (t : Text) : List α :=
  let scored := candidates.filterMap fun a => (likeness? t (name a).toList).map fun s => (s, a)
  (scored.mergeSort fun x y => !y.1.lt x.1).map (·.2)

def mostSimilar? {α : Type} (name : α → String) (candidates : List α) (t : Text) : Option α :=
  (similar name candidates t).getLast?

end FormatService.Text
