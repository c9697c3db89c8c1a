import FormatService.Shell.Arithmetic

/-!
# Printing

The escapes of a backslash, and the directives of a format: what the commands of a
script that print their arguments write.
-/

set_option autoImplicit false

namespace FormatService.Shell.Print

def escape? (c : Char) : Option Char :=
  match c with
  | '\\' => some '\\'
  | 'a' => some '\x07'
  | 'b' => some '\x08'
  | 'e' => some '\x1b'
  | 'f' => some '\x0c'
  | 'n' => some '\n'
  | 'r' => some '\r'
  | 't' => some '\t'
  | 'v' => some '\x0b'
  | _ => none

/-- What stands behind a backslash: the character it means, and what follows. Octal
numbers have at most three digits. -/
def escaped (t : Text) : Char × Text :=
  match t with
  | [] => ('\\', [])
  | c :: rest =>
    match escape? c with
    | some e => (e, rest)
    | none =>
      let digits := (t.take 3).takeWhile Arithmetic.isOctalDigit
      if digits.isEmpty then ('\\', t)
      else (Char.ofNat (Arithmetic.inBase 8 digits % 256), t.drop digits.length)

/-- Replaces the escapes of an argument, in at most the given number of steps, and says
whether the output ends there. A zero may come before an octal number, and `c` ends the
output. -/
def unescape : Nat → Text → Text × Bool
  | 0, t => (t, false)
  | _, [] => ([], false)
  | n + 1, '\\' :: t =>
    if t.head? = some 'c' then ([], true)
    else
      let t := match t with
        | '0' :: d :: more => if Arithmetic.isOctalDigit d then d :: more else t
        | t => t
      let (char, rest) := escaped t
      let (more, ends) := unescape n rest
      (char :: more, ends)
  | n + 1, c :: t =>
    let (more, ends) := unescape n t
    (c :: more, ends)

/-- What is written for arguments with spaces between them; `-n` leaves out the
line end. -/
def echo (arguments : List Text) : Text :=
  let (last, words) := match arguments with
    | ['-', 'n'] :: words => ([], words)
    | words => (['\n'], words)
  let t := [' '].intercalate words
  let (t, ends) := if t.contains '\\' then unescape t.length t else (t, false)
  if ends then t else t ++ last

structure Layout where
  left : Bool
  zeros : Bool
  plus : Bool
  blank : Bool
  marked : Bool
  width : Nat
  precision : Option Nat
  deriving DecidableEq, Repr, Inhabited

namespace Layout

def flag (l : Layout) (c : Char) : Layout :=
  match c with
  | '-' => { l with left := true }
  | '0' => { l with zeros := true }
  | '+' => { l with plus := true }
  | ' ' => { l with blank := true }
  | '#' => { l with marked := true }
  | _ => l

def isFlag (c : Char) : Bool := c == '-' || c == '0' || c == '+' || c == ' ' || c == '#'

def fill (n : Nat) (c : Char) : Text := List.replicate n c

def pad (l : Layout) (t : Text) : Text :=
  if l.left then t ++ fill (l.width - t.length) ' ' else fill (l.width - t.length) ' ' ++ t

def text (l : Layout) (t : Text) : Text := l.pad (l.precision.elim t t.take)

def padDigits (l : Layout) (mark : Text) (ds : Text) : Text :=
  if l.zeros && !l.left then mark ++ fill (l.width - mark.length - ds.length) '0' ++ ds
  else l.pad (mark ++ ds)

def whole (l : Layout) (mark : Text) (ds : Text) : Text :=
  match l.precision with
  | some n =>
    let ds := if n = 0 ∧ ds = ['0'] then [] else ds
    { l with zeros := false }.padDigits mark (fill (n - ds.length) '0' ++ ds)
  | none => l.padDigits mark ds

def sign (l : Layout) (negative : Bool) : Text :=
  if negative then ['-'] else if l.plus then ['+'] else if l.blank then [' '] else []

def signed (l : Layout) (n : Int) : Text := l.whole (l.sign (n < 0)) (Nat.toDigits 10 n.natAbs)

def unsigned (l : Layout) (base : Nat) (n : Nat) : Text := l.whole [] (Nat.toDigits base n)

def octal (l : Layout) (n : Nat) : Text :=
  let ds := Nat.toDigits 8 n
  if l.marked then
    let least := if n = 0 then 1 else ds.length + 1
    match l.precision with
    | some p => { l with precision := some (max p least) }.whole [] ds
    | none => if n = 0 then l.whole [] ds else l.whole [] ('0' :: ds)
  else l.whole [] ds

def hexadecimal (l : Layout) (upper : Bool) (n : Nat) : Text :=
  let mark := if l.marked && n != 0 then (if upper then ['0', 'X'] else ['0', 'x']) else []
  let ds := Nat.toDigits 16 n
  l.whole mark (if upper then ds.map Char.toUpper else ds)

end Layout

/-- What is said about an argument that should be a number. -/
inductive Doubt
  | noNumber
  | notAll
  | tooLarge
  deriving DecidableEq, Repr

def Doubt.message : Doubt → String
  | noNumber => "expected numeric value"
  | notAll => "not completely converted"
  | tooLarge => "Numerical result out of range"

inductive Fault
  | noDirective
  | unknownDirective (t : Text)
  deriving DecidableEq, Repr

def Fault.message : Fault → Text
  | noDirective => "missing format character".toList
  | unknownDirective t => t ++ ": invalid directive".toList

/-- What has been printed and complained about, the last piece first, and what is left
of the arguments. -/
structure Progress where
  out : List Text
  doubts : List (Text × Doubt)
  arguments : List Text

abbrev Printing := StateM Progress

def write (t : Text) : Printing Unit := modify fun p => { p with out := t :: p.out }

def next? : Printing (Option Text) := fun p =>
  match p.arguments with
  | [] => (none, p)
  | a :: rest => (some a, { p with arguments := rest })

def check (argument rest : Text) (found inRange : Bool) : Printing Unit := modify fun p =>
  let note (d : Doubt) : Progress := { p with doubts := (argument, d) :: p.doubts }
  if !rest.isEmpty then note (if found then .notAll else .noNumber)
  else if found && !inRange then note .tooLarge
  else p

def quotedNumber? (t : Text) : Option Nat :=
  match t with
  | '"' :: t | '\'' :: t => some ((t.head?.map Char.toNat).getD 0)
  | _ => none

/-- The next argument as a whole number within limits. One that is too large counts as the
greatest, and something else is put in place of one that is too small. -/
def wholeNumber (least greatest below : Int) : Printing Int := do
  match ← next? with
  | none => return 0
  | some t =>
    match quotedNumber? t with
    | some n => return n
    | none =>
      match Arithmetic.signed? t with
      | none =>
        check t t false true
        return 0
      | some (n, rest) =>
        check t rest true (least ≤ n && n ≤ greatest)
        return if n < least then below else min n greatest

def signedNumber : Printing Int := 
  wholeNumber Arithmetic.least Arithmetic.greatest Arithmetic.least

def greatestUnsigned : Int := 18446744073709551615

/-- The next argument as a number without a sign; negative ones are counted back from the
end of the range. -/
def unsignedNumber : Printing Nat := do
  let n ← wholeNumber (-greatestUnsigned) greatestUnsigned greatestUnsigned
  return (BitVec.ofInt 64 n).toNat

/-- Writes what a directive asks for, or says that there is no such directive. Also says
whether the output ends there. -/
def directive (l : Layout) (c : Char) : Printing (Option Bool) := do
  match c with
  | 's' => write (l.text ((← next?).getD []))
  | 'b' =>
    let t := (← next?).getD []
    let (t, ends) := unescape t.length t
    write (l.text t)
    if ends then return some true
  | 'c' => write (l.pad [((← next?).bind List.head?).getD '\x00'])
  | 'd' | 'i' => write (l.signed (← signedNumber))
  | 'u' => write (l.unsigned 10 (← unsignedNumber))
  | 'o' => write (l.octal (← unsignedNumber))
  | 'x' | 'X' => write (l.hexadecimal (c == 'X') (← unsignedNumber))
  | _ => return none
  return some false

def measure (t : Text) : Printing (Int × Text) := do
  match t with
  | '*' :: t => return (← signedNumber, t)
  | t =>
    let ds := t.takeWhile Char.isDigit
    return (Arithmetic.inBase 10 ds, t.drop ds.length)

/-- Reads the layout of a directive. A negative width asks for the left side, a negative
precision for none. -/
def layout (t : Text) : Printing (Layout × Text) := do
  let flags := t.takeWhile Layout.isFlag
  let l : Layout := flags.foldl Layout.flag default
  let (width, t) ← measure (t.drop flags.length)
  let l := { l with width := width.natAbs, left := l.left || width < 0 }
  match t with
  | '.' :: t =>
    let (precision, t) ← measure t
    return ({ l with precision := if precision < 0 then none else some precision.toNat }, t)
  | t => return (l, t)

def pass : Nat → Text → Printing (Except Fault Bool)
  | 0, _ => return .ok false
  | _, [] => return .ok false
  | n + 1, '\\' :: t => do
    let (c, rest) := escaped t
    write [c]
    pass n rest
  | n + 1, '%' :: '%' :: t => do
    write ['%']
    pass n t
  | n + 1, '%' :: t => do
    let (l, rest) ← layout t
    match rest with
    | [] => return .error .noDirective
    | c :: rest =>
      match ← directive l c with
      | none => return .error (.unknownDirective ('%' :: t.take (t.length - rest.length)))
      | some true => return .ok true
      | some false => pass n rest
  | n + 1, c :: t => do
    write [c]
    pass n t

def passes : Nat → Text → Printing (Option Fault)
  | 0, _ => return none
  | n + 1, format => do
    let before ← get
    match ← pass (format.length + 1) format with
    | .error f => return some f
    | .ok ends =>
      let p ← get
      if ends || p.arguments.isEmpty || p.arguments.length == before.arguments.length then
        return none
      else passes n format

structure Printed where
  out : Text
  doubts : List (Text × Doubt)
  fault : Option Fault

def printf (format : Text) (arguments : List Text) : Printed :=
  let (fault, p) := (passes (arguments.length + 1) format).run ⟨[], [], arguments⟩
  ⟨p.out.reverse.flatten, p.doubts.reverse, fault⟩

end FormatService.Shell.Print
