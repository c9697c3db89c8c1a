import FormatService.Text.Basic

/-!
# Where shortest edit paths meet

A path from the start of both texts and a path from their ends advance together,
one edit at a time. Each keeps, for every diagonal of the grid, how far it has
come. Where they meet, the texts can be split and compared half by half.
-/

set_option autoImplicit false

namespace FormatService.Edit.MiddleSnake

def advance (a b : Array Char) (x y : Nat) : Nat :=
  if x < a.size ∧ y < b.size then
    if a[x]? = b[y]? then advance a b (x + 1) (y + 1) + 1 else 0
  else 0
termination_by a.size - x

structure Front where
  /-- The furthest column reached on each diagonal, or -1. -/
  reach : Array Int
  /-- How many of the lowest diagonals have left the grid. -/
  low : Int
  /-- How many of the highest diagonals have left the grid. -/
  high : Int

def Front.at (f : Front) (i : Int) : Int :=
  if i < 0 then -1 else f.reach.getD i.toNat (-1)

def Front.begin (limit : Nat) : Front :=
  ⟨(Array.replicate (2 * limit) (-1)).setIfInBounds (limit + 1) 0, 0, 0⟩

/-- The grid: both texts, the middle of the diagonals, and whether the forward
path is the one that detects a meeting. -/
structure Grid where
  a : Array Char
  b : Array Char
  middle : Int
  shift : Int
  odd : Bool

def Grid.ofTexts (a b : Array Char) : Grid :=
  let shift : Int := a.size - b.size
  ⟨a, b, ((a.size + b.size + 1) / 2 : Nat), shift, shift % 2 != 0⟩

/-- The furthest column on a diagonal after one more edit, before equal
characters are followed. -/
def Front.enter (f : Front) (middle d k : Int) : Int :=
  let i := middle + k
  if k = -d ∨ (k ≠ d ∧ f.at (i - 1) < f.at (i + 1)) then f.at (i + 1) else f.at (i - 1) + 1

/-- Notes the column reached, and whether the diagonal has left the grid. -/
def Front.record (f : Front) (g : Grid) (k x y : Int) : Front × Bool :=
  let f := { f with reach := f.reach.setIfInBounds (g.middle + k).toNat x }
  if x < 0 ∨ (g.a.size : Int) < x then ({ f with high := f.high + 2 }, true)
  else if y < 0 ∨ (g.b.size : Int) < y then ({ f with low := f.low + 2 }, true)
  else (f, false)

def follow (a b : Array Char) (x y : Int) : Nat :=
  if x < 0 ∨ y < 0 then 0 else advance a b x.toNat y.toNat

/-- One edit more of the forward path on the diagonals from `k` on. -/
def forward (g : Grid) (back : Front) (d : Int) : Nat → Int → Front → Front ⊕ (Nat × Nat)
  | 0, _, f => .inl f
  | n + 1, k, f =>
    if d - f.high < k then .inl f else
    let x := f.enter g.middle d k
    let step := follow g.a g.b x (x - k)
    let x := x + step
    let y := x - k
    let (f, out) := f.record g k x y
    let other := back.at (g.middle + g.shift - k)
    if !out && g.odd && other != -1 && (g.a.size : Int) - other ≤ x then
      .inr (x.toNat, y.toNat)
    else forward g back d n (k + 2) f

/-- One edit more of the backward path, which counts columns from the end. -/
def backward (g : Grid) (ar br : Array Char) (front : Front) (d : Int) :
    Nat → Int → Front → Front ⊕ (Nat × Nat)
  | 0, _, f => .inl f
  | n + 1, k, f =>
    if d - f.high < k then .inl f else
    let x := f.enter g.middle d k
    let step := follow ar br x (x - k)
    let x := x + step
    let y := x - k
    let (f, out) := f.record g k x y
    let i := g.shift - k
    let other := front.at (g.middle + i)
    if !out && !g.odd && other != -1 && (g.a.size : Int) - x ≤ other then
      .inr (other.toNat, (other - i).toNat)
    else backward g ar br front d n (k + 2) f

def search (g : Grid) (ar br : Array Char) : Nat → Int → Front → Front → Option (Nat × Nat)
  | 0, _, _, _ => none
  | n + 1, d, front, back =>
    match forward g back d (d.toNat + 1) (-d + front.low) front with
    | .inr point => some point
    | .inl front =>
      match backward g ar br front d (d.toNat + 1) (-d + back.low) back with
      | .inr point => some point
      | .inl back => search g ar br n (d + 1) front back

/-- A point of the grid on a shortest edit path near its middle, or nothing when
the texts have no character in common. -/
def point? (s t : Text) : Option (Nat × Nat) :=
  let a := s.toArray
  let b := t.toArray
  let limit := (a.size + b.size + 1) / 2
  search (Grid.ofTexts a b) a.reverse b.reverse limit 0 (.begin limit) (.begin limit)

end FormatService.Edit.MiddleSnake
