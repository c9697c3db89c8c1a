import FormatService.Shell.Command

/-!
# Arithmetic of a script

Whole numbers of 64 bits with the usual operators. A name stands for the number that its
variable holds, and for zero without one. Values can be assigned. What need not be known
for the result is read but not computed.
-/

set_option autoImplicit false

namespace FormatService.Shell.Arithmetic

inductive Fault
  | wantsOperand
  | wantsEnd
  | wantsParenthesis
  | wantsColon
  | divisionByZero
  | illegalNumber (t : Text)
  /-- A variable that must not be changed. -/
  | fixed (name : Text)
  /-- The quotient has no place in 64 bits: the processor refuses to divide. -/
  | tooLarge
  deriving DecidableEq, Repr

def Fault.message? : Fault → Option String
  | wantsOperand => some "expecting primary"
  | wantsEnd => some "expecting EOF"
  | wantsParenthesis => some "expecting ')'"
  | wantsColon => some "expecting ':'"
  | divisionByZero => some "division by zero"
  | _ => none

inductive Sign
  | number (n : Int)
  | name (t : Text)
  | operator (symbol : String)
  | finish
  | bad
  deriving DecidableEq, Repr

structure Variables where
  value : Text → Text
  isFixed : Text → Bool

def isSpace (c : Char) : Bool := c == ' ' || ('\t' ≤ c && c ≤ '\x0d')

def digitValue (c : Char) : Nat :=
  if c.isDigit then c.toNat - 48 else if 'a' ≤ c then c.toNat - 87 else c.toNat - 55

def inBase (base : Nat) (digits : Text) : Nat :=
  digits.foldl (fun n c => n * base + digitValue c) 0

def isHexDigit (c : Char) : Bool := c.isDigit || ('a' ≤ c && c ≤ 'f') || ('A' ≤ c && c ≤ 'F')

def isOctalDigit (c : Char) : Bool := '0' ≤ c && c ≤ '7'

/-- The number at the front of a text, and what follows: in hexadecimal after `0x`, in octal
after `0`. -/
def unsigned (t : Text) : Nat × Text :=
  match t with
  | '0' :: x :: c :: rest =>
    if (x = 'x' ∨ x = 'X') ∧ isHexDigit c then
      let ds := (c :: rest).takeWhile isHexDigit
      (inBase 16 ds, (c :: rest).drop ds.length)
    else
      let ds := t.takeWhile isOctalDigit
      (inBase 8 ds, t.drop ds.length)
  | '0' :: _ =>
    let ds := t.takeWhile isOctalDigit
    (inBase 8 ds, t.drop ds.length)
  | t =>
    let ds := t.takeWhile Char.isDigit
    (inBase 10 ds, t.drop ds.length)

def greatest : Int := 9223372036854775807

def least : Int := -9223372036854775808

def wrapped (n : Int) : Int := (BitVec.ofInt 64 n).toInt

def signed? (t : Text) : Option (Int × Text) :=
  let t := t.dropWhile isSpace
  let (negative, ds) := match t with
    | '-' :: t => (true, t)
    | '+' :: t => (false, t)
    | t => (false, t)
  if (ds.head?.map Char.isDigit).getD false then
    let (n, rest) := unsigned ds
    some (if negative then -(n : Int) else n, rest)
  else none

def decimal? (t : Text) : Option Int :=
  let digits := t.dropWhile isSpace
  let (negative, digits) := match digits with
    | '-' :: ds => (true, ds)
    | '+' :: ds => (false, ds)
    | ds => (false, ds)
  let ds := digits.takeWhile Char.isDigit
  let n : Int := inBase 10 ds
  let n := if negative then -n else n
  if ds.isEmpty || !(digits.drop ds.length).all isSpace || n < least || greatest < n then none
  else some n

def count? (t : Text) : Option Nat :=
  match decimal? t with
  | some n => if 0 ≤ n ∧ n < 2147483648 then some n.toNat else none
  | none => none

def valueOf (t : Text) : Except Fault Int :=
  match signed? t with
  | none => if t.all isSpace then .ok 0 else .error (.illegalNumber t)
  | some (n, rest) =>
    if rest.all isSpace ∧ least ≤ n ∧ n ≤ greatest then .ok n else .error (.illegalNumber t)

def operators : List String :=
  ["<<=", ">>=", "<<", ">>", "<=", ">=", "==", "!=", "&&", "||", "*=", "/=", "%=", "+=", "-=", "&=",
    "^=", "|=", "<", ">", "=", "!", "*", "/", "%", "+", "-", "&", "^", "|", "(", ")", "~", "?", ":"]

def sign (t : Text) : Sign × Text :=
  match t.dropWhile fun c => c == ' ' || c == '\t' || c == '\n' with
  | [] => (.finish, [])
  | c :: t =>
    if c.isDigit then
      let (n, rest) := unsigned (c :: t)
      (.number (min n greatest), rest)
    else if isNameStart c then
      let name := (c :: t).takeWhile isNameChar
      (.name name, (c :: t).drop name.length)
    else
      match operators.find? fun s => s.toList.isPrefixOf (c :: t) with
      | some s => (.operator s, (c :: t).drop s.length)
      | none => (.bad, c :: t)

def level? (s : Sign) : Option Nat :=
  match s with
  | .operator s =>
    match s with
    | "*" | "/" | "%" => some 0
    | "+" | "-" => some 1
    | "<<" | ">>" => some 2
    | "<" | "<=" | ">" | ">=" => some 3
    | "==" | "!=" => some 4
    | "&" => some 5
    | "^" => some 6
    | "|" => some 7
    | _ => none
  | _ => none

def loosest : Nat := 8

def truth (b : Bool) : Int := if b then 1 else 0

def bits (f : BitVec 64 → BitVec 64 → BitVec 64) (a b : Int) : Int :=
  (f (BitVec.ofInt 64 a) (BitVec.ofInt 64 b)).toInt

def places (b : Int) : Nat := (BitVec.ofInt 64 b).toNat % 64

def divided (f : Int → Int → Int) (a b : Int) : Except Fault Int :=
  if b = 0 then .error .divisionByZero
  else if a = least ∧ b = -1 then .error .tooLarge
  else .ok (f a b)

def combined (s : String) (a b : Int) : Except Fault Int :=
  match s with
  | "*" => .ok (wrapped (a * b))
  | "/" => divided Int.tdiv a b
  | "%" => divided Int.tmod a b
  | "+" => .ok (wrapped (a + b))
  | "-" => .ok (wrapped (a - b))
  | "<<" => .ok (bits (fun x _ => x <<< places b) a b)
  | ">>" => .ok (a / Nat.pow 2 (places b))
  | "<" => .ok (truth (a < b))
  | "<=" => .ok (truth (a ≤ b))
  | ">" => .ok (truth (b < a))
  | ">=" => .ok (truth (b ≤ a))
  | "==" => .ok (truth (a == b))
  | "!=" => .ok (truth (a != b))
  | "&" => .ok (bits (· &&& ·) a b)
  | "^" => .ok (bits (· ^^^ ·) a b)
  | _ => .ok (bits (· ||| ·) a b)

def combining? (s : Sign) : Option String :=
  match s with
  | .operator s =>
    if ["*=", "/=", "%=", "+=", "-=", "<<=", ">>=", "&=", "^=", "|="].contains s then
      some (String.ofList s.toList.dropLast)
    else none
  | _ => none

structure Progress where
  rest : Text
  /-- The sign behind what has been computed. -/
  last : Sign
  /-- The values that have been assigned, the last one first. -/
  settings : List (Text × Int)

abbrev Computing := StateT Progress (Except Fault)

def fail {α : Type} (f : Fault) : Computing α := fun _ => .error f

def next : Computing Sign := fun p =>
  let (s, rest) := sign p.rest
  .ok (s, { p with rest := rest })

def setLast (s : Sign) : Computing Unit := modify fun p => { p with last := s }

def last : Computing Sign := do return (← get).last

variable (known : Variables)

def lookUp (name : Text) : Computing Int := fun p =>
  match p.settings.find? (·.1 == name) with
  | some (_, n) => .ok (n, p)
  | none => (valueOf (known.value name)).map fun n => (n, p)

def assign (name : Text) (n : Int) : Computing Unit := fun p =>
  if known.isFixed name then .error (.fixed name)
  else .ok ((), { p with settings := (name, n) :: p.settings })

def lazily (needed : Bool) (otherwise : Int) (r : Except Fault Int) : Computing Int := fun p =>
  if needed then r.map fun n => (n, p) else .ok (otherwise, p)

mutual

def operand : Nat → Bool → Sign → Sign → Computing Int
  | 0, _, _, _ => fail .wantsOperand
  | n + 1, needed, s, following => do
    match s with
    | .number m =>
      setLast following
      return m
    | .name t =>
      setLast following
      if needed then lookUp known t else return 0
    | .operator "(" =>
      let a ← assignment n needed following
      if (← last) ≠ .operator ")" then fail .wantsParenthesis
      setLast (← next)
      return a
    | .operator "+" => operand n needed following (← next)
    | .operator "-" => return wrapped (-(← operand n needed following (← next)))
    | .operator "!" => return truth ((← operand n needed following (← next)) == 0)
    | .operator "~" => return -(← operand n needed following (← next)) - 1
    | _ => fail .wantsOperand

/-- Goes on from a first operand and the operator behind it, with operators that bind more
tightly than a level. -/
def chain : Nat → Bool → Nat → Int → String → Computing Int
  | 0, _, _, _, _ => fail .wantsOperand
  | n + 1, needed, level, a, s => do
    let first ← next
    let b ← operand n needed first (← next)
    let own := (level? (.operator s)).getD loosest
    let b ← match ← last with
      | .operator t =>
        if (level? (.operator t)).any (· < own) then chain n needed own b t else pure b
      | _ => pure b
    let a ← lazily needed b (combined s a b)
    match ← last with
    | .operator t => if (level? (.operator t)).any (· < level) then chain n needed level a t else return a
    | _ => return a

def combination : Nat → Bool → Sign → Sign → Computing Int
  | 0, _, _, _ => fail .wantsOperand
  | n + 1, needed, s, following => do
    let a ← operand n needed s following
    match ← last with
    | .operator t => if (level? (.operator t)).isSome then chain n needed loosest a t else return a
    | _ => return a

def conjunction : Nat → Bool → Sign → Sign → Computing Int
  | 0, _, _, _ => fail .wantsOperand
  | n + 1, needed, s, following => do
    let a ← combination n needed s following
    if (← last) ≠ .operator "&&" then return a
    let first ← next
    let b ← conjunction n (needed && a != 0) first (← next)
    return truth (a != 0 && b != 0)

def disjunction : Nat → Bool → Sign → Sign → Computing Int
  | 0, _, _, _ => fail .wantsOperand
  | n + 1, needed, s, following => do
    let a ← conjunction n needed s following
    if (← last) ≠ .operator "||" then return a
    let first ← next
    let b ← disjunction n (needed && a == 0) first (← next)
    return truth (a != 0 || b != 0)

def conditional : Nat → Bool → Sign → Sign → Computing Int
  | 0, _, _, _ => fail .wantsOperand
  | n + 1, needed, s, following => do
    let a ← disjunction n needed s following
    if (← last) ≠ .operator "?" then return a
    let b ← assignment n (needed && a != 0) (← next)
    if (← last) ≠ .operator ":" then fail .wantsColon
    let first ← next
    let c ← conditional n (needed && a == 0) first (← next)
    return if a != 0 then b else c

def assignment : Nat → Bool → Sign → Computing Int
  | 0, _, _ => fail .wantsOperand
  | n + 1, needed, s => do
    let following ← next
    match s with
    | .name t =>
      if following = .operator "=" then
        let a ← assignment n needed (← next)
        if needed then assign known t a
        return a
      else
        match combining? following with
        | some op =>
          let a ← assignment n needed (← next)
          if needed then
            let a ← lazily true 0 (combined op (← lookUp known t) a)
            assign known t a
            return a
          else return a
        | none => conditional n needed s following
    | s => conditional n needed s following

end

def evaluate (t : Text) : Except Fault (Int × List (Text × Int)) := do
  let whole : Computing Int := do
    let a ← assignment known (8 * t.length + 16) true (← next)
    if (← last) ≠ .finish then fail .wantsEnd
    return a
  let (a, p) ← whole.run ⟨t, .finish, []⟩
  return (a, p.settings.reverse)

end FormatService.Shell.Arithmetic
