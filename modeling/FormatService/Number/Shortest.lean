import FormatService.Number.Binary64

/-!
# Shortest decimal text

The fewest decimal digits that read back as a given binary value, and of those
the nearest to it.
-/

set_option autoImplicit false

namespace FormatService

/-- A decimal number: its digits without a point, and the power of ten of the
first digit. -/
structure Decimal where
  digits : List Char
  exponent : Int
  deriving DecidableEq, Repr

namespace Binary64

/-- The interval of numbers that round to a value: twice its ends and the value
itself, all over one denominator. The ends belong to it when the mantissa is even. -/
structure Interval where
  low : Nat
  value : Nat
  high : Nat
  den : Nat
  closed : Bool

def interval (x : Binary64) : Interval :=
  let narrow := x.mantissa = Nat.pow 2 (precision - 1) ∧ leastExponent < x.exponent
  let low := if narrow then 4 * x.mantissa - 1 else 4 * x.mantissa - 2
  let (unit, den) := scale 1 4 x.exponent
  ⟨low * unit, 4 * x.mantissa * unit, (4 * x.mantissa + 2) * unit, den, x.mantissa % 2 == 0⟩

def Interval.has (i : Interval) (num den : Nat) : Bool :=
  let n := num * i.den
  let low := i.low * den
  let high := i.high * den
  if i.closed then low ≤ n && n ≤ high else low < n && n < high

def tenTo (power : Int) : Nat × Nat :=
  if 0 ≤ power then (Nat.pow 10 power.toNat, 1) else (1, Nat.pow 10 (-power).toNat)

def decimalExponent (num den : Nat) : Int :=
  let guess : Int := ((Nat.toDigits 10 num).length : Int) - (Nat.toDigits 10 den).length
  let (a, b) := tenTo guess
  if num * b < a * den then guess - 1 else guess

/-- The point of a decimal grid that is nearest to the value among those in the
interval. -/
def nearestOn? (i : Interval) (power : Int) : Option Nat :=
  let (a, b) := tenTo power
  let below := i.value * b / (i.den * a)
  let above := below + 1
  let inBelow := i.has (below * a) b
  let inAbove := i.has (above * a) b
  let twice := 2 * (i.value * b)
  let middle := (below + above) * (i.den * a)
  if inBelow && inAbove then
    if twice < middle then some below
    else if middle < twice then some above
    else if below % 2 = 0 then some below else some above
  else if inBelow then some below
  else if inAbove then some above
  else none

def shortestFrom (i : Interval) (exponent : Int) : Nat → Nat → Nat × Int
  | 0, _ => (0, 0)
  | tries + 1, n =>
    let power := exponent - n
    match nearestOn? i power with
    | some point => (point, power)
    | none => shortestFrom i exponent tries (n + 1)

def dropTrailingZeros (digits : List Char) : List Char :=
  (digits.reverse.dropWhile (· == '0')).reverse

def shortest (x : Binary64) : Decimal :=
  if x.isZero then ⟨['0'], 0⟩
  else
    let i := x.interval
    let (point, power) := shortestFrom i (decimalExponent i.value i.den) 17 0
    let digits := Nat.toDigits 10 point
    ⟨dropTrailingZeros digits, power + (digits.length : Int) - 1⟩

end Binary64

structure DecimalStyle where
  /-- Positional notation is used from this power of ten of the first digit … -/
  leastPositional : Int
  /-- … up to this one. -/
  greatestPositional : Int
  /-- What follows a whole number in positional notation. -/
  wholeMark : List Char
  /-- What precedes a positive power of ten. -/
  positiveMark : List Char

namespace Decimal

def render (style : DecimalStyle) (d : Decimal) : List Char :=
  if style.leastPositional ≤ d.exponent ∧ d.exponent ≤ style.greatestPositional then
    if d.exponent < 0 then
      ['0', '.'] ++ List.replicate (-d.exponent - 1).toNat '0' ++ d.digits
    else
      let whole := d.exponent.toNat + 1
      if d.digits.length ≤ whole then
        d.digits ++ List.replicate (whole - d.digits.length) '0' ++ style.wholeMark
      else d.digits.take whole ++ '.' :: d.digits.drop whole
  else
    let fraction := d.digits.drop 1
    let mark := if d.exponent < 0 then ['-'] else style.positiveMark
    d.digits.take 1 ++ (if fraction = [] then [] else '.' :: fraction) ++
      'e' :: mark ++ Nat.toDigits 10 d.exponent.natAbs

end Decimal

end FormatService
