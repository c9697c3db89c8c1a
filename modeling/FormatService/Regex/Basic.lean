import FormatService.Text.Basic

/-!
# Regular expressions

What an expression matches in a text. A match is as far left as possible, and of
the matches that begin there the first of the longest ones, where repetitions go
on as long as they can and alternatives come in their order.
-/

set_option autoImplicit false

namespace FormatService

inductive Anchor
  | textStart
  | textEnd
  | wordStart
  | wordEnd
  /-- The start or the end of a word. -/
  | wordEdge
  | noWordEdge
  deriving DecidableEq, Repr

inductive Regex
  | empty
  | char (c : Char)
  | anyChar
  /-- A character in one of the ranges, or in none of them. -/
  | range (negated : Bool) (ranges : List (Char × Char))
  | anchor (a : Anchor)
  | sequence (first second : Regex)
  | either (first second : Regex)
  /-- At least and at most this many times. -/
  | times (least : Nat) (most : Option Nat) (body : Regex)
  | group (number : Nat) (body : Regex)
  /-- The text of a group once more. -/
  | again (number : Nat)
  deriving Repr, Inhabited

structure Expression where
  body : Regex
  groups : Nat
  /-- Whether the case of letters does not matter. -/
  anyCase : Bool
  deriving Repr, Inhabited

namespace Regex

def otherCase (c : Char) : Char := if c.isUpper then c.toLower else c.toUpper

def isWordChar (c : Char) : Bool := c.isAlphanum || c == '_'

def inRanges (rs : List (Char × Char)) (c : Char) : Bool :=
  rs.any fun (a, b) => a.toNat ≤ c.toNat && c.toNat ≤ b.toNat

def looksBack : Regex → Bool
  | sequence a b | either a b => looksBack a || looksBack b
  | times _ _ body | group _ body => looksBack body
  | again _ => true
  | _ => false

/-- How far a match has come: the number of characters it has taken, the one before
its end, what follows, and what its groups have matched, the last match first. -/
structure Progress where
  taken : Nat
  previous : Option Char
  rest : Text
  groups : List (Nat × Text)

def Progress.single (wanted : Char → Bool) (p : Progress) : List Progress :=
  match p.rest with
  | c :: t => if wanted c then [⟨p.taken + 1, some c, t, p.groups⟩] else []
  | [] => []

def stretch (wanted : Char → Bool) (groups : List (Nat × Text)) :
    Option Nat → Nat → Option Char → Text → List Progress → List Progress
  | _, taken, previous, [], done => ⟨taken, previous, [], groups⟩ :: done
  | most, taken, previous, c :: t, done =>
    let done := ⟨taken, previous, c :: t, groups⟩ :: done
    if wanted c && most != some 0 then stretch wanted groups (most.map (· - 1)) (taken + 1) (some c) t done
    else done

def firstWays (ps : List Progress) : List Progress :=
  (ps.foldl (fun ((kept, seen) : List Progress × Nat) p =>
    if seen.testBit p.taken then (kept, seen)
    else (p :: kept, seen ||| (1 <<< p.taken))) ([], 0)).1.reverse

def distinct (looksBack : Bool) (ps : List Progress) : List Progress :=
  match ps with
  | [] | [_] => ps
  | ps => if looksBack then ps else firstWays ps

variable (e : Expression)

def isSame (a b : Char) : Bool := a == b || (e.anyCase && otherCase a == b)

def isInRange (negated : Bool) (rs : List (Char × Char)) (c : Char) : Bool :=
  let found := inRanges rs c || (e.anyCase && inRanges rs (otherCase c))
  found != negated

def wanted? : Regex → Option (Char → Bool)
  | char c => some (isSame e c)
  | anyChar => some fun _ => true
  | range negated rs => some (isInRange e negated rs)
  | _ => none

def holds (a : Anchor) (p : Progress) : Bool :=
  let before := p.previous.any isWordChar
  let after := p.rest.head?.any isWordChar
  match a with
  | .textStart => p.previous.isNone
  | .textEnd => p.rest.isEmpty
  | .wordStart => !before && after
  | .wordEnd => before && !after
  | .wordEdge => before != after
  | .noWordEdge => before == after

def takeText (t : Text) (p : Progress) : List Progress :=
  let found := p.rest.take t.length
  if found.length == t.length && (found.zip t).all fun (a, b) => isSame e a b then
    [⟨p.taken + t.length, found.getLast?.or p.previous, p.rest.drop t.length, p.groups⟩]
  else []

def exactly (step : Progress → List Progress) : Nat → List Progress → List Progress
  | 0, ps => ps
  | n + 1, ps => if ps.isEmpty then [] else exactly step n (distinct (looksBack e.body) (ps.flatMap step))

/-- Goes on as long as characters are taken, in all ways; a way that goes on comes
before the one that stops. The ways are collected in reverse, with the marks of the
places from which the same rounds have been tried. -/
def onwards (step : Progress → List Progress) (width : Nat) :
    Nat → Option Nat → Progress → List Progress × Nat → List Progress × Nat
  | 0, _, p, (done, seen) => (p :: done, seen)
  | n + 1, most, p, (done, seen) =>
    let mark := most.getD 0 * width + p.taken
    if most = some 0 then (p :: done, seen)
    else if !looksBack e.body && seen.testBit mark then (done, seen)
    else
      let (done, seen) := ((step p).filter fun q => p.taken < q.taken).foldl
        (fun found q => onwards step width n (most.map (· - 1)) q found)
        (done, seen ||| (1 <<< mark))
      (p :: done, seen)

def onwardsFrom (step : Progress → List Progress) (most : Option Nat) (left : Nat)
    (ps : List Progress) : List Progress :=
  (ps.foldl (fun found p =>
    onwards e step (p.taken + p.rest.length + 1) (left + 1) (most.map (min (left + 1))) p found) ([], 0)).1.reverse

def ways : Regex → Progress → List Progress
  | empty, p => [p]
  | char c, p => p.single (isSame e c)
  | anyChar, p => p.single fun _ => true
  | range negated rs, p => p.single (isInRange e negated rs)
  | anchor a, p => if holds a p then [p] else []
  | sequence a b, p =>
    distinct (looksBack e.body) ((ways a p).flatMap fun q => ways b q)
  | either a b, p => distinct (looksBack e.body) (ways a p ++ ways b p)
  | times least most body, p =>
    match wanted? e body with
    | some wanted =>
      (stretch wanted p.groups most p.taken p.previous p.rest []).takeWhile fun q =>
        p.taken + least ≤ q.taken
    | none =>
      distinct (looksBack e.body) <|
        onwardsFrom e (fun q => ways body q) (most.map (· - least)) p.rest.length
          (exactly e (fun q => ways body q) least [p])
  | group number body, p =>
    (ways body p).map fun q =>
      { q with groups := (number, p.rest.take (q.taken - p.taken)) :: q.groups }
  | again number, p =>
    match p.groups.find? (·.1 == number) with
    | some (_, t) => takeText e t p
    | none => []

end Regex

namespace Expression

open Regex (Progress)

def longest? (ps : List Progress) : Option Progress :=
  ps.foldl (fun best p =>
    match best with
    | none => some p
    | some q => if q.taken < p.taken then some p else some q) none

def matchAt? (e : Expression) (previous : Option Char) (t : Text) : Option Progress :=
  longest? (Regex.ways e e.body ⟨0, previous, t, []⟩)

def occursAfter (e : Expression) : Option Char → Text → Bool
  | previous, [] => (e.matchAt? previous []).isSome
  | previous, c :: t => (e.matchAt? previous (c :: t)).isSome || occursAfter e (some c) t

def occursIn (e : Expression) (t : Text) : Bool := e.occursAfter none t

end Expression

end FormatService
