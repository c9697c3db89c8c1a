import FormatService.Number.Shortest

/-!
# Numbers in JSON

A number is kept as it was written. It stands for a 64-bit whole number when it
has neither fraction nor exponent and fits, and for a binary floating point value
otherwise. A literal beyond the greatest such value stands for nothing.
-/

set_option autoImplicit false

namespace FormatService.Json

structure Literal where
  negative : Bool
  whole : List Char
  /-- The digits after the point, if there is a point. -/
  fraction : Option (List Char)
  /-- The sign and the digits of the exponent, if there is one. -/
  exponent : Option (Bool × List Char)
  deriving DecidableEq, Repr

inductive Number
  | whole (n : Nat)
  | negative (n : Nat)
  | real (negative : Bool) (magnitude : Binary64)
  deriving DecidableEq, Repr

namespace Number

def wordLimit : Nat := Nat.pow 2 64

def exponentLimit : Nat := Nat.pow 2 31

def digit (c : Char) : Nat := c.toNat - '0'.toNat

/-- Reads digits for as long as they fit a 64-bit word; also gives the digits
that were not read. -/
def readWord (word : Nat) : List Char → Nat × List Char
  | [] => (word, [])
  | c :: rest =>
    if word * 10 + digit c < wordLimit then readWord (word * 10 + digit c) rest
    else (word, c :: rest)

/-- The literal as a 64-bit word times a power of ten. Digits that do not fit are
dropped. -/
def scaled (literal : Literal) : Nat × Int :=
  let (word, dropped) := readWord 0 literal.whole
  match literal.fraction with
  | none => (word, dropped.length)
  | some fraction =>
    let (word', unread) := readWord word fraction
    (word', (dropped.length : Int) - ((fraction.length - unread.length : Nat) : Int))

def exponent? (digits : List Char) : Option Nat :=
  let n := digits.foldl (fun n c => min (n * 10 + digit c) exponentLimit) 0
  if n < exponentLimit then some n else none

def saturate (e : Int) : Int := max (-(exponentLimit : Int)) (min e (exponentLimit - 1))

def greatestPower : Nat := 308

def divideByTens : Nat → Binary64 → Nat → Option Binary64
  | 0, x, _ => some x
  | steps + 1, x, e =>
    if e ≤ greatestPower then (Binary64.ofNat? (Nat.pow 10 e)).bind x.div?
    else if x.isZero then some x
    else do
      let x ← (Binary64.ofNat? (Nat.pow 10 greatestPower)).bind x.div?
      divideByTens steps x (e - greatestPower)

/-- A word times a power of ten, by one floating point operation where one power
of ten suffices. Any word divided three times by the greatest power is zero. -/
def magnitude? (word : Nat) (e : Int) : Option Binary64 := do
  let x ← Binary64.ofNat? word
  if 0 ≤ e then
    if e.toNat ≤ greatestPower then (Binary64.ofNat? (Nat.pow 10 e.toNat)).bind x.mul?
    else if x.isZero then some x
    else none
  else divideByTens 4 x (-e).toNat

def ofLiteral? (literal : Literal) : Option Number :=
  let (word, power) := scaled literal
  match literal.fraction, literal.exponent with
  | none, none =>
    if power ≠ 0 then (magnitude? word power).map (real literal.negative)
    else if !literal.negative then some (whole word)
    else if word = 0 ∨ Nat.pow 2 63 < word then (Binary64.ofNat? word).map (real true)
    else some (negative word)
  | _, none => (magnitude? word power).map (real literal.negative)
  | _, some (down, digits) =>
    match exponent? digits with
    | some e =>
      let e : Int := if down then -(e : Int) else e
      (magnitude? word (saturate (power + e))).map (real literal.negative)
    | none =>
      if word ≠ 0 ∧ !down then none else some (real literal.negative Binary64.zero)

/-- Floating point values are written with a point or an exponent, positionally
from five places after the point to sixteen before it. -/
def style : DecimalStyle := ⟨-5, 15, ['.', '0'], ['+']⟩

def render : Number → String
  | whole n => toString n
  | negative n => "-" ++ toString n
  | real sign x => (if sign then "-" else "") ++ String.ofList (x.shortest.render style)

end Number

end FormatService.Json
