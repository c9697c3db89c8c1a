import FormatService.LineEditor.Replacement

/-!
# Reading a script of the line editor

A script comes in chunks, one for each argument or file that gives a part of it.
Commands are read character by character, as what a character means depends on the
command it belongs to; a fault is told with the number of characters read.
-/

set_option autoImplicit false

namespace FormatService.LineEditor

inductive Source
  | argument (number : Nat)
  | file (name : Text)
  deriving DecidableEq, Repr

structure Chunk where
  source : Source
  text : Text
  deriving DecidableEq, Repr

structure OpenBlock where
  place : Nat
  origin : Origin

structure Reading where
  /-- Whether expressions are in the extended notation. -/
  extended : Bool
  source : Source
  rest : Text
  /-- How many characters and line ends of the chunk have been read. -/
  position : Nat
  lines : Nat
  commands : Array Command
  labels : List (Text × Nat)
  blocks : List OpenBlock

abbrev Reader := StateT Reading (Except ScriptFault)

namespace Reader

def originOf (r : Reading) : Origin :=
  match r.source with
  | .argument number => .argument number r.position
  | .file name => .file name (r.lines + 1)

def refuse {α : Type} (cause : ScriptCause) : Reader α := fun r => .error ⟨originOf r, cause⟩

def peek : Reader (Option Char) := return (← get).rest.head?

def skip (n : Nat) : Reader Unit := modify fun r =>
  { r with
    rest := r.rest.drop n
    position := r.position + min n r.rest.length
    lines := r.lines + ((r.rest.take n).filter (· == '\n')).length }

def char? : Reader (Option Char) := do
  let c ← peek
  skip 1
  return c

def taken (wanted : Char → Bool) : Reader Text := do
  let t := (← get).rest.takeWhile wanted
  skip t.length
  return t

def isBlank (c : Char) : Bool := c == ' ' || c == '\t'

def isSpace (c : Char) : Bool := c == ' ' || ('\t' ≤ c && c ≤ '\x0d')

def blanks : Reader Unit := do let _ ← taken isBlank

def next? : Reader (Option Char) := do
  blanks
  char?

def number : Reader Nat := do
  return (← taken Char.isDigit).foldl (fun n c => n * 10 + (c.toNat - 48)) 0

def numberBehind : Reader Nat := do
  blanks
  number

def endCommand : Reader Unit := do
  blanks
  match ← peek with
  | none | some '\x7d' | some '#' => return ()
  | some c =>
    skip 1
    if c != ';' && c != '\n' then refuse .extraCharacters

inductive Brackets
  | outside
  /-- A closing bracket here is one of the characters. -/
  | opened
  | inside
  /-- A named element ends at this mark before a closing bracket. -/
  | named (mark : Char)
  deriving DecidableEq, Repr

def Brackets.behind (b : Brackets) (c : Char) (next : Option Char) : Brackets :=
  match b with
  | outside => if c = '[' then (if next = some '^' then outside else opened) else outside
  | opened | inside =>
    if c = ']' ∧ b = inside then outside
    else if c = '[' then
      match next with
      | some '.' => named '.'
      | some ':' => named ':'
      | some '=' => named '='
      | _ => inside
    else inside
  | named mark => if c = mark ∧ next = some ']' then inside else named mark

/-- A field with the number of characters that it takes, its end included; or the
number of characters that there are when it does not end. -/
abbrev Field := Except Nat (Text × Nat)

def Field.cons (own : Text) (f : Field) : Field := f.map fun (t, read) => (own ++ t, read)

/-- A field of an expression up to the delimiter, which may also stand in brackets or
behind a backslash. -/
def expressionField (delimiter : Char) : Nat → Brackets → Text → Nat → Field
  | n + 1, .outside, '\\' :: c :: t, read =>
    if delimiter = '\\' then .ok ([], read + 1)
    else
      let own := if c = 'n' then ['\n'] else if c = delimiter ∨ c = '\n' then [c] else ['\\', c]
      Field.cons own (expressionField delimiter n .outside t (read + 2))
  | n + 1, .outside, '[' :: '^' :: t, read =>
    if delimiter = '[' then .ok ([], read + 1)
    else Field.cons ['[', '^'] (expressionField delimiter n .opened t (read + 2))
  | n + 1, .outside, c :: t, read =>
    if c = '\n' then .error read
    else if c = delimiter then .ok ([], read + 1)
    else
      Field.cons [c]
        (expressionField delimiter n (if c = '[' then .opened else .outside) t (read + 1))
  | n + 1, _, '\\' :: 'n' :: t, read =>
    Field.cons ['\n'] (expressionField delimiter n .inside t (read + 2))
  | n + 1, _, '\\' :: '\\' :: t, read =>
    Field.cons ['\\', '\\'] (expressionField delimiter n .inside t (read + 2))
  | n + 1, b, c :: t, read =>
    if c = '\n' then .error read
    else Field.cons [c] (expressionField delimiter n (b.behind c t.head?) t (read + 1))
  | _, _, _, read => .error read

def plainField (delimiter : Char) : Nat → Text → Nat → Field
  | n + 1, '\\' :: c :: t, read =>
    if delimiter = '\\' then .ok ([], read + 1)
    else
      let own := if c = '\n' ∨ (c = delimiter ∧ c ≠ '&') then [c] else ['\\', c]
      Field.cons own (plainField delimiter n t (read + 2))
  | n + 1, c :: t, read =>
    if c = '\n' then .error read
    else if c = delimiter then .ok ([], read + 1)
    else Field.cons [c] (plainField delimiter n t (read + 1))
  | _, _, read => .error read

def field (cause : ScriptCause) (read : Nat → Text → Field) : Reader Text := do
  let t := (← get).rest
  match read (t.length + 1) t with
  | .ok (found, n) =>
    skip n
    return found
  | .error n =>
    skip n
    refuse cause

def expression (delimiter : Char) (cause : ScriptCause) : Reader Text :=
  field cause fun n t => expressionField delimiter n .outside t 0

def plain (delimiter : Char) (cause : ScriptCause) : Reader Text :=
  field cause fun n t => plainField delimiter n t 0

def compiled (t : Text) (anyCase : Bool) (greatest : Nat) : Reader (Option Expression) := do
  if t.isEmpty then
    if anyCase then refuse .badModifiers else return none
  else
    match Expression.parse (← get).extended anyCase (unescape .expression t) with
    | .error f => refuse (.regex f)
    | .ok e => if e.groups < greatest then refuse (.badGroup greatest) else return some e

def addressFlags : Nat → Bool → Reader Bool
  | 0, anyCase => return anyCase
  | n + 1, anyCase => do
    blanks
    if (← peek) = some 'I' then
      skip 1
      addressFlags n true
    else return anyCase

def containing (delimiter : Char) : Reader Address := do
  let t ← expression delimiter .openAddress
  let anyCase ← addressFlags (← get).rest.length false
  return .containing (← compiled t anyCase 0)

def numbered : Reader Address := do
  let first ← number
  blanks
  if (← peek) = some '~' then
    skip 1
    let step ← numberBehind
    return if step = 0 then .line first else .every first step
  else return .line first

def address? : Reader (Option Address) := do
  match ← peek with
  | some '/' =>
    skip 1
    return some (← containing '/')
  | some '\\' =>
    skip 1
    match ← char? with
    | some delimiter => return some (← containing delimiter)
    | none => refuse .openAddress
  | some '$' =>
    skip 1
    return some .last
  | some c => if c.isDigit then return some (← numbered) else return none
  | none => return none

def rangeEnd : Reader RangeEnd := do
  match ← peek with
  | some '+' =>
    skip 1
    return .behind (← numberBehind)
  | _ =>
    match ← address? with
    | some a => return .address a
    | none =>
      skip 1
      refuse .unexpectedComma

def hasWrongZero : Scope → Bool
  | .one (.line 0) => true
  | .range (.line 0) (.address (.containing _)) => false
  | .range (.line 0) _ => true
  | _ => false

/-- The lines that a command is for. A fault is told behind the character that follows. -/
def scope : Reader Scope := do
  match ← address? with
  | none => return .all
  | some first =>
    blanks
    let s ←
      if (← peek) = some ',' then
        skip 1
        blanks
        pure (.range first (← rangeEnd))
      else pure (.one first)
    blanks
    if hasWrongZero s then
      skip 1
      refuse .lineZero
    else return s

structure Flags where
  number : Option Nat
  all : Bool
  prints : Bool
  anyCase : Bool

def flags : Nat → Flags → Reader Flags
  | 0, f => return f
  | n + 1, f => do
    match ← peek with
    | some 'i' | some 'I' =>
      skip 1
      flags n { f with anyCase := true }
    | some ' ' | some '\t' =>
      skip 1
      flags n f
    | some 'p' =>
      skip 1
      if f.prints then refuse .manyPrints else flags n { f with prints := true }
    | some 'g' =>
      skip 1
      if f.all then refuse .manyGlobals else flags n { f with all := true }
    | none | some '\x7d' | some '#' => return f
    | some '\n' | some ';' =>
      skip 1
      return f
    | some '\x0d' =>
      skip 1
      if (← char?) = some '\n' then return f else refuse .unknownFlag
    | some c =>
      if c.isDigit then
        if f.number.isSome then
          skip 1
          refuse .manyNumbers
        else
          let number ← number
          if number = 0 then refuse .zeroNumber else flags n { f with number := some number }
      else
        skip 1
        refuse .unknownFlag

def delimiter (cause : ScriptCause) : Reader Char := do
  match ← char? with
  | none => refuse cause
  | some c => return c

def substitution : Reader Action := do
  let d ← delimiter .openSubstitution
  let t ← expression d .openSubstitution
  let replacement ← plain d .openSubstitution
  let pieces := pieces (unescape .replacement replacement)
  let f ← flags ((← get).rest.length + 1) ⟨none, false, false, false⟩
  let e ← compiled t f.anyCase (greatestGroup pieces)
  return .substitute ⟨e, pieces, f.number.getD 1, f.all, f.prints⟩

def exchange : Reader Action := do
  let d ← delimiter .openExchange
  let old := unescape .literal (← plain d .openExchange)
  let new := unescape .literal (← plain d .openExchange)
  if old.length != new.length then refuse .differentLengths
  endCommand
  return .exchange (old.zip new).reverse

def textLines : Text → Text × Text
  | [] | ['\\'] => (['\n'], [])
  | '\\' :: c :: t =>
    let (line, rest) := textLines t
    ('\\' :: c :: line, rest)
  | '\n' :: t => (['\n'], t)
  | c :: t =>
    let (line, rest) := textLines t
    (c :: line, rest)

def textAfter (before : Text) : Reader Text := do
  let t := (← get).rest
  let (line, rest) := textLines t
  skip (t.length - rest.length)
  return unescape .literal (before ++ line)

/-- The text of a command. It may begin on the next line, behind a backslash; without
one there, it is an empty line. -/
def commandText : Reader Text := do
  match ← next? with
  | none => refuse .noText
  | some '\n' => return ['\n']
  | some '\\' =>
    match ← char? with
    | none => refuse .noText
    | some '\n' => textAfter []
    | some '\\' => textAfter ['\\']
    | some c => textAfter [c]
  | some c => textAfter [c]

def isLabelEnd (c : Char) : Bool := isSpace c || c == ';' || c == '\x7d' || c == '#'

def labelName : Reader Text := do
  blanks
  taken fun c => !isLabelEnd c

def optionalNumber : Reader (Option Nat) := do
  blanks
  let n ← if (← peek).any Char.isDigit then (some <$> number) else pure none
  endCommand
  return n

def simple (a : Action) : Reader Action := do
  endCommand
  return a

def action (s : Scope) (c : Char) : Reader Action := do
  let oneAddress : Reader Unit :=
    match s with
    | .range .. => refuse .oneAddress
    | _ => return ()
  match c with
  | 's' => substitution
  | 'y' => exchange
  | 'a' => return .append (← commandText)
  | 'i' => return .insert (← commandText)
  | 'c' => return .change (← commandText)
  | 'd' => simple .delete
  | 'D' => simple .deleteFirst
  | 'p' => simple .print
  | 'P' => simple .printFirst
  | 'n' => simple .next
  | 'N' => simple .appendNext
  | 'h' => simple .hold
  | 'H' => simple .holdMore
  | 'g' => simple .recall
  | 'G' => simple .recallMore
  | 'x' => simple .swap
  | '=' => simple .lineNumber
  | 'q' =>
    oneAddress
    return .quit ((← optionalNumber).getD 0) true
  | 'Q' =>
    oneAddress
    return .quit ((← optionalNumber).getD 0) false
  | 'b' => return .jump (← labelName)
  | 't' => return .jumpIfReplaced (← labelName)
  | 'T' => return .jumpUnlessReplaced (← labelName)
  | c => refuse (.unknownCommand c)

def push (c : Command) : Reader Unit := modify fun r => { r with commands := r.commands.push c }

def openBlock (s : Scope) (negated : Bool) : Reader Unit := do
  let r ← get
  let origin := match originOf r with
    | .argument number _ => Origin.argument number 0
    | origin => origin
  set { r with blocks := ⟨r.commands.size, origin⟩ :: r.blocks }
  push ⟨s, negated, .block 0⟩

def closeBlock (s : Scope) : Reader Unit := do
  match (← get).blocks with
  | [] => refuse .closedBlock
  | b :: blocks =>
    if !(s matches .all) then refuse .blockEndAddress
    endCommand
    modify fun r =>
      { r with
        blocks := blocks
        commands := (r.commands.modify b.place fun c => { c with action := .block r.commands.size }) }
    push ⟨.all, false, .blockEnd⟩

def command : Reader Unit := do
  let s ← scope
  blanks
  let negated := (← peek) == some '!'
  if negated then
    skip 1
    blanks
    if (← peek) = some '!' then
      skip 1
      refuse .manyNegations
  match ← char? with
  | none => refuse .missingCommand
  | some '#' =>
    if !(s matches .all) then refuse .commentAddress
    let _ ← taken (· != '\n')
  | some ':' =>
    if !(s matches .all) then refuse .labelAddress
    let name ← labelName
    if name.isEmpty then refuse .noLabel
    modify fun r => { r with labels := (name, r.commands.size) :: r.labels }
    push ⟨.all, false, .label name⟩
  | some '\x7b' => openBlock s negated
  | some '\x7d' => closeBlock s
  | some c => push ⟨s, negated, ← action s c⟩

def commands : Nat → Reader Unit
  | 0 => return ()
  | n + 1 => do
    let _ ← taken fun c => isSpace c || c == ';'
    if (← peek).isSome then
      command
      commands n

def chunk (c : Chunk) : Reader Unit := do
  modify fun r => { r with source := c.source, rest := c.text, position := 0, lines := 0 }
  commands (c.text.length + 1)

def target? : Action → Option Text
  | .jump name | .jumpIfReplaced name | .jumpUnlessReplaced name =>
    if name.isEmpty then none else some name
  | _ => none

def finish : Reader Unit := do
  let r ← get
  match r.blocks with
  | b :: _ => throw (ScriptFault.mk b.origin .openBlock)
  | [] =>
    let missing := (r.commands.toList.filterMap fun c => target? c.action).find? fun name =>
      !r.labels.any (·.1 == name)
    match missing with
    | some name => refuse (.unknownLabel name)
    | none => return ()

def script (chunks : List Chunk) : Reader Unit := do
  chunks.forM chunk
  finish

end Reader

def Script.parse (extended quiet : Bool) (chunks : List Chunk) : Except ScriptFault Script := do
  let ((), r) ← (Reader.script chunks).run ⟨extended, .argument 1, [], 0, 0, #[], [], []⟩
  return ⟨r.commands, r.labels, quiet⟩

end FormatService.LineEditor
