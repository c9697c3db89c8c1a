import FormatService.Utility.Basic

/-!
# Joining files

Files are written one after the other, and on demand their lines are numbered.
-/

set_option autoImplicit false

namespace FormatService.Utility.Concatenate

def known : Known := ⟨['n', 'u'], []⟩

/-- What is shown, the last piece first, the number of the last line, and whether a line
begins. -/
structure Progress where
  out : List Text
  number : Nat
  atStart : Bool

def numeral (n : Nat) : Text :=
  let ds := Nat.toDigits 10 n
  List.replicate (6 - ds.length) ' ' ++ ds ++ ['\t']

def step (x : Progress) (c : Char) : Progress :=
  if x.atStart then ⟨[c] :: numeral (x.number + 1) :: x.out, x.number + 1, c == '\n'⟩
  else ⟨[c] :: x.out, x.number, c == '\n'⟩

def display (numbers : Bool) (x : Progress) (t : Text) : Progress :=
  if numbers then t.foldl step x else { x with out := t :: x.out }

def displayAll (numbers : Bool) (program : Text) :
    List Text → Reading → Progress × List Text → Reading × Progress × List Text
  | [], r, done => (r, done)
  | name :: names, r, (x, complaints) =>
    match r.read name with
    | .ok t => displayAll numbers program names (r.after name) (display numbers x t, complaints)
    | .error f =>
      displayAll numbers program names r
        (x, complaint (program ++ ": ".toList) name f :: complaints)

def run (program : Text) (arguments : List Text) (r : Reading) : Written :=
  match given known arguments with
  | .error f => ⟨[], misused program f, 1, r.files, r.left⟩
  | .ok g =>
    let (s, x, complaints) :=
      displayAll (g.has 'n') program (orInput g.words) r (⟨[], 0, true⟩, [])
    ⟨x.out.reverse.flatten, complaints.reverse.flatten, if complaints.isEmpty then 0 else 1, r.files,
      s.left⟩

end FormatService.Utility.Concatenate
