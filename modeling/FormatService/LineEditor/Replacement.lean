import FormatService.LineEditor.Command

/-!
# Escapes and replacements

What backslashes mean in the texts of a script, and the pieces that take the place
of a match.
-/

set_option autoImplicit false

namespace FormatService.LineEditor

inductive Purpose
  /-- It is taken as it is: other characters only lose their backslash. -/
  | literal
  | expression
  | replacement
  deriving DecidableEq, Repr

def escaped? (c : Char) : Option Char :=
  match c with
  | 'a' => some '\x07'
  | 'f' => some '\x0c'
  | 'n' | '\n' => some '\n'
  | 'r' => some '\r'
  | 't' => some '\t'
  | 'v' => some '\x0b'
  | _ => none

def digitValue? (c : Char) : Option Nat :=
  if c.isDigit then some (c.toNat - 48)
  else if 'a' ≤ c && c ≤ 'f' then some (c.toNat - 87)
  else if 'A' ≤ c && c ≤ 'F' then some (c.toNat - 55)
  else none

def byteOf (digits : Text) : Char :=
  Char.ofNat (digits.foldl (fun n c => n * 16 + (digitValue? c).getD 0) 0)

/-- A character that a number stands for. In a replacement it has no other meaning. -/
def numbered (p : Purpose) (c : Char) : Text :=
  if p = .replacement ∧ (c = '&' ∨ c = '\\') then ['\\', c] else [c]

def unescapeWithin (p : Purpose) : Nat → Text → Text
  | 0, t => t
  | _, [] => []
  | n + 1, '\\' :: 'x' :: t =>
    let digits := (t.take 2).takeWhile fun c => (digitValue? c).isSome
    (if digits.isEmpty then ['x'] else numbered p (byteOf digits)) ++
      unescapeWithin p n (t.drop digits.length)
  | n + 1, '\\' :: c :: t =>
    match escaped? c with
    | some e => e :: unescapeWithin p n t
    | none => (if p = .literal then [c] else ['\\', c]) ++ unescapeWithin p n t
  | n + 1, c :: t => c :: unescapeWithin p n t

def unescape (p : Purpose) (t : Text) : Text := unescapeWithin p t.length t

namespace LetterCase

def apply (k : LetterCase) (c : Char) : Char :=
  match k with
  | asIs => c
  | upper => c.toUpper
  | lower => c.toLower

end LetterCase

namespace CaseChange

def apply (k : CaseChange) (t : Text) : Text :=
  match t with
  | [] => []
  | c :: t => (if k.first = .asIs then k.all else k.first).apply c :: t.map k.all.apply

end CaseChange

/-- How far the reading of a replacement has come: the current piece in reverse, how
its letters change, and what holds behind it. -/
structure Piecing where
  pieces : List Piece
  text : Text
  change : CaseChange
  lasting : LetterCase

namespace Piecing

def close (x : Piecing) (group : Option Nat) : Piecing :=
  ⟨⟨x.text.reverse, group, x.change⟩ :: x.pieces, [], ⟨x.lasting, .asIs⟩, x.lasting⟩

def turnAll (x : Piecing) (k : LetterCase) : Piecing :=
  { x.close none with change := ⟨k, .asIs⟩, lasting := k }

def turnFirst (x : Piecing) (k : LetterCase) : Piecing :=
  let x := x.close none
  { x with change := ⟨x.lasting, k⟩ }

def add (x : Piecing) (c : Char) : Piecing := { x with text := c :: x.text }

end Piecing

def piecesAfter (x : Piecing) : Text → Piecing
  | [] => x
  | ['\\'] => x.add '\\'
  | '\\' :: c :: t =>
    match c with
    | 'L' => piecesAfter (x.turnAll .lower) t
    | 'U' => piecesAfter (x.turnAll .upper) t
    | 'E' => piecesAfter (x.turnAll .asIs) t
    | 'l' => piecesAfter (x.turnFirst .lower) t
    | 'u' => piecesAfter (x.turnFirst .upper) t
    | c =>
      if c.isDigit then piecesAfter (x.close (some (c.toNat - 48))) t
      else piecesAfter (x.add c) t
  | '&' :: t => piecesAfter (x.close (some 0)) t
  | c :: t => piecesAfter (x.add c) t

def pieces (t : Text) : List Piece :=
  ((piecesAfter ⟨[], [], ⟨.asIs, .asIs⟩, .asIs⟩ t).close none).pieces.reverse

def greatestGroup (ps : List Piece) : Nat := (ps.map fun p => p.group.getD 0).foldl max 0

def groupText (matched : Text) (groups : List (Nat × Text)) (number : Nat) : Text :=
  if number = 0 then matched else ((groups.find? (·.1 == number)).map (·.2)).getD []

/-- What the pieces are for a match. A change of a first letter that finds no letter
in an empty group is for the next piece. -/
def expand (matched : Text) (groups : List (Nat × Text)) : LetterCase → List Piece → Text
  | _, [] => []
  | waiting, p :: ps =>
    let first := if p.change.first = .asIs then waiting else p.change.first
    let own := (CaseChange.mk p.change.all first).apply p.text
    let first := if p.text.isEmpty then first else .asIs
    match p.group with
    | none => own ++ expand matched groups .asIs ps
    | some number =>
      let t := groupText matched groups number
      if t.isEmpty then
        own ++ expand matched groups (if p.change.first = .asIs then .asIs else first) ps
      else own ++ (CaseChange.mk p.change.all first).apply t ++ expand matched groups .asIs ps

structure Substituting where
  /-- What has been written, in reverse. -/
  done : Text
  /-- The number of the next match. -/
  number : Nat
  /-- Whether a match that took a character has ended here. -/
  afterMatch : Bool
  replaced : Bool

def Substituting.pass (x : Substituting) (c : Char) : Substituting :=
  { x with done := c :: x.done, afterMatch := false }

/-- Substitutes matches from a place in a line on. An empty match directly behind
another one does not count. -/
def substituteFrom (e : Expression) (s : Substitution) :
    Nat → Option Char → Text → Substituting → Substituting
  | 0, _, t, x => { x with done := t.reverse ++ x.done }
  | n + 1, previous, t, x =>
    match (e.matchAt? previous t).filter fun p => 0 < p.taken || !x.afterMatch with
    | some p =>
      let matched := t.take p.taken
      let replaces := x.number == s.number || (s.all && s.number < x.number)
      let new := if replaces then expand matched p.groups .asIs s.pieces else matched
      let x : Substituting :=
        ⟨new.reverse ++ x.done, x.number + 1, 0 < p.taken, x.replaced || replaces⟩
      if replaces && !s.all then { x with done := p.rest.reverse ++ x.done }
      else if 0 < p.taken then substituteFrom e s n p.previous p.rest x
      else
        match t with
        | [] => x
        | c :: t => substituteFrom e s n (some c) t (x.pass c)
    | none =>
      match t with
      | [] => x
      | c :: t => substituteFrom e s n (some c) t (x.pass c)

def substituted (e : Expression) (s : Substitution) (line : Text) : Text × Bool :=
  let x := substituteFrom e s (2 * line.length + 2) none line ⟨[], 1, false, false⟩
  (x.done.reverse, x.replaced)

end FormatService.LineEditor
