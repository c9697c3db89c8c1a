import FormatService.Regex.Basic

/-!
# Reading regular expressions

Expressions are written in one of two classic notations. In the basic one, braces,
parentheses and most operators stand after a backslash, anchors have a meaning only
at the ends, and an operator without an operand is a plain character. In the
extended notation operators are plain and always need an operand.
-/

set_option autoImplicit false

namespace FormatService

inductive RegexFault
  | invalid
  | badClassName
  | strayBackslash
  | badReference
  | openBracket
  | openGroup
  | closedGroup
  | openBraces
  | badBraces
  | badRange
  | noOperand
  | tooBig
  /-- Brackets that look like the name of a class and lack brackets around them. -/
  | mistakenClass
  deriving DecidableEq, Repr

def RegexFault.message : RegexFault → String
  | invalid => "Invalid regular expression"
  | badClassName => "Invalid character class name"
  | strayBackslash => "Trailing backslash"
  | badReference => "Invalid back reference"
  | openBracket => "Unmatched [, [^, [:, [., or [="
  | openGroup => "Unmatched ( or \\("
  | closedGroup => "Unmatched ) or \\)"
  | openBraces => "Unmatched \\\x7b"
  | badBraces => "Invalid content of \\\x7b\\\x7d"
  | badRange => "Invalid range end"
  | noOperand => "Invalid preceding regular expression"
  | tooBig => "Regular expression too big"
  | mistakenClass => "character class syntax is [[:space:]], not [:space:]"

namespace Regex

inductive Sign
  | plain (c : Char)
  | dot
  | bracket
  | oneOf (negated : Bool) (ranges : List (Char × Char))
  | anchor (a : Anchor)
  | star
  | plus
  | question
  | bar
  | opening
  | closing
  | openBrace
  | closeBrace
  | back (number : Nat)
  | backslash
  | finish
  deriving DecidableEq, Repr, Inhabited

def blanks : List (Char × Char) := [('\t', '\x0d'), (' ', ' ')]

def wordChars : List (Char × Char) := [('a', 'z'), ('A', 'Z'), ('0', '9'), ('_', '_')]

def classes : List (String × List (Char × Char)) :=
  [("alpha", [('a', 'z'), ('A', 'Z')]), ("digit", [('0', '9')]),
    ("alnum", [('a', 'z'), ('A', 'Z'), ('0', '9')]), ("upper", [('A', 'Z')]),
    ("lower", [('a', 'z')]), ("space", blanks), ("blank", [('\t', '\t'), (' ', ' ')]),
    ("punct", [('!', '/'), (':', '@'), ('[', '\x60'), ('\x7b', '~')]), ("graph", [('!', '~')]),
    ("print", [(' ', '~')]), ("cntrl", [('\x00', '\x1f'), ('\x7f', '\x7f')]),
    ("xdigit", [('0', '9'), ('a', 'f'), ('A', 'F')])]

def shorthand? (c : Char) : Option Sign :=
  match c with
  | 's' => some (.oneOf false blanks)
  | 'S' => some (.oneOf true blanks)
  | 'w' => some (.oneOf false wordChars)
  | 'W' => some (.oneOf true wordChars)
  | '<' => some (.anchor .wordStart)
  | '>' => some (.anchor .wordEnd)
  | 'b' => some (.anchor .wordEdge)
  | 'B' => some (.anchor .noWordEdge)
  | '\x60' => some (.anchor .textStart)
  | '\'' => some (.anchor .textEnd)
  | c => if '1' ≤ c && c ≤ '9' then some (.back (c.toNat - 48)) else none

/-- What a character means after a backslash in the basic notation, and without
one in the extended notation. -/
def operator? (c : Char) : Option Sign :=
  match c with
  | '+' => some .plus
  | '?' => some .question
  | '|' => some .bar
  | '(' => some .opening
  | ')' => some .closing
  | '\x7b' => some .openBrace
  | '\x7d' => some .closeBrace
  | _ => none

/-- The next sign and what follows it. In the basic notation a caret is an anchor
only where a part may begin, and a dollar sign only where one ends. -/
def sign (extended partBegins : Bool) (t : Text) : Sign × Text :=
  match t with
  | [] => (.finish, [])
  | ['\\'] => (.backslash, [])
  | '\\' :: c :: t =>
    match (if extended then none else operator? c).or (shorthand? c) with
    | some s => (s, t)
    | none => (.plain c, t)
  | '.' :: t => (.dot, t)
  | '*' :: t => (.star, t)
  | '[' :: t => (.bracket, t)
  | '^' :: t => (if extended || partBegins then .anchor .textStart else .plain '^', t)
  | '$' :: t =>
    let ends := t.isEmpty || "\\)".toList.isPrefixOf t || "\\|".toList.isPrefixOf t
    (if extended || ends then .anchor .textEnd else .plain '$', t)
  | c :: t =>
    match if extended then operator? c else none with
    | some s => (s, t)
    | none => (.plain c, t)

inductive Element
  | char (c : Char)
  | ranges (rs : List (Char × Char))
  deriving Repr

def namedElement (mark : Char) : Nat → Text → Except RegexFault (Text × Text)
  | n + 1, c :: ']' :: t =>
    if c = mark then (if t.isEmpty then .error .openBracket else .ok ([], t))
    else do
      let (name, t) ← namedElement mark n (']' :: t)
      return (c :: name, t)
  | n + 1, c :: t => do
    let (name, t) ← namedElement mark n t
    return (c :: name, t)
  | _, _ => .error .openBracket

def nameLimit : Nat := 32

/-- The names of classes in upper or lower case mean all letters where case does not
matter. -/
def classRanges (anyCase : Bool) (name : Text) : Except RegexFault (List (Char × Char)) :=
  let name := String.ofList name
  let name := if anyCase && (name == "upper" || name == "lower") then "alpha" else name
  match classes.find? (·.1 == name) with
  | some (_, rs) => .ok rs
  | none => .error .badClassName

def isRangeSign (t : Text) : Bool :=
  t.head? == some '-' && !(t.take 3 == ['-', '-', '-'])

/-- One element between brackets. A hyphen is one where it comes first or last. -/
def element (anyCase allowsHyphen : Bool) (t : Text) : Except RegexFault (Element × Text) :=
  match t with
  | [] => .error .openBracket
  | '[' :: ':' :: t => do
    let (name, t) ← namedElement ':' nameLimit t
    return (.ranges (← classRanges anyCase name), t)
  | '-' :: rest =>
    if isRangeSign t then
      if allowsHyphen || rest.head? == some ']' then .ok (.char '-', rest)
      else if rest.isEmpty then .error .openBracket
      else .error .badRange
    else .ok (.char '-', rest.drop 2)
  | c :: t => .ok (.char c, t)

def ranges (anyCase : Bool) : Nat → Bool → Text → Except RegexFault (List (Char × Char) × Text)
  | 0, _, _ => .error .openBracket
  | n + 1, first, t => do
    if t.head? = some ']' ∧ first = false then return ([], t.drop 1)
    let (start, t) ← element anyCase first t
    let isRange := match start with
      | .ranges _ => false
      | .char _ => isRangeSign t && (t.drop 1).head? != some ']'
    if isRange then
      let (final, t) ← element anyCase true (t.drop 1)
      match start, final with
      | .char a, .char b =>
        if b < a then .error .badRange
        else
          let (more, t) ← ranges anyCase n false t
          return ((a, b) :: more, t)
      | _, _ => .error .badRange
    else
      let own := match start with
        | .char c => [(c, c)]
        | .ranges rs => rs
      let (more, t) ← ranges anyCase n false t
      return (own ++ more, t)

def isMistaken (content : Text) (rs : List (Char × Char)) : Bool :=
  rs.length == content.length && content.head? == some ':' && content.getLast? == some ':' &&
    content.any (· != ':')

def bracket (anyCase : Bool) (t : Text) : Except RegexFault (Regex × Bool × Text) := do
  let negated := t.head? == some '^'
  let t := if negated then t.drop 1 else t
  if t.isEmpty then .error .invalid
  let (rs, rest) ← ranges anyCase (t.length + 1) true t
  let content := t.take (t.length - rest.length - 1)
  return (.range negated rs, isMistaken content rs, rest)

def repetitionLimit : Nat := 32767

inductive Bound
  | missing
  | wrong
  | number (n : Nat)
  deriving DecidableEq, Repr

def Bound.digit (b : Bound) (c : Char) : Bound :=
  match b with
  | .wrong => .wrong
  | .missing => .number (c.toNat - 48)
  | .number n => .number (min (repetitionLimit + 1) (n * 10 + (c.toNat - 48)))

def bound (extended : Bool) : Nat → Bound → Text → Bound × Sign × Text
  | 0, _, t => (.wrong, .finish, t)
  | n + 1, b, t =>
    match sign extended false t with
    | (.finish, t) => (.wrong, .finish, t)
    | (.closeBrace, t) => (b, .closeBrace, t)
    | (.plain ',', t) => (b, .plain ',', t)
    | (.plain c, t) => bound extended n (if c.isDigit then b.digit c else .wrong) t
    | (_, t) => bound extended n .wrong t

def bounds (extended : Bool) (t : Text) : Except RegexFault (Nat × Option Nat × Text) := do
  let (low, ended, rest) := bound extended (t.length + 1) .missing t
  let broken : Except RegexFault (Nat × Option Nat × Text) :=
    .error (if ended = .finish then .openBraces else .badBraces)
  let least ← match low with
    | .number n => pure n
    | .missing => if ended = .plain ',' then pure 0 else .error .badBraces
    | .wrong => return ← broken
  if ended = .closeBrace then
    if repetitionLimit < least then .error .tooBig else return (least, some least, rest)
  else
    match bound extended (rest.length + 1) .missing rest with
    | (.missing, .closeBrace, rest) =>
      if repetitionLimit < least then .error .tooBig else return (least, none, rest)
    | (.number most, .closeBrace, rest) =>
      if most < least then .error .badBraces
      else if repetitionLimit < most then .error .tooBig
      else return (least, some most, rest)
    | (.wrong, .finish, _) => .error .openBraces
    | _ => .error .badBraces

/-- What is left to be read: the next sign, what follows it, the number of the next
group, the groups that have been closed, and whether any brackets look like a mistake. -/
structure Rest where
  sign : Sign
  text : Text
  next : Nat
  closed : List Nat
  mistaken : Bool

def Rest.fetch (extended partBegins : Bool) (x : Rest) : Rest :=
  let (s, t) := Regex.sign extended partBegins x.text
  { x with sign := s, text := t }

def Rest.endsPart (nested : Bool) (x : Rest) : Bool :=
  x.sign == .finish || x.sign == .bar || (nested && x.sign == .closing)

/-- Applies the repetitions that follow an expression. In the basic notation some of
them cannot be repeated in turn. -/
def repeated (extended : Bool) : Nat → Regex → Rest → Except RegexFault (Regex × Rest)
  | 0, r, x => .ok (r, x)
  | n + 1, r, x => do
    let again (r : Regex) (x : Rest) : Except RegexFault (Regex × Rest) :=
      let x := x.fetch extended false
      if extended = false ∧ (x.sign = .star ∨ x.sign = .openBrace) then .error .noOperand
      else repeated extended n r x
    match x.sign with
    | .star => again (.times 0 none r) x
    | .plus => again (.times 1 none r) x
    | .question => again (.times 0 (some 1) r) x
    | .openBrace =>
      let (least, most, t) ← bounds extended x.text
      again (.times least most r) { x with text := t }
    | _ => return (r, x)

mutual

def alternatives (extended anyCase : Bool) :
    Nat → Bool → Rest → Except RegexFault (Regex × Rest)
  | 0, _, _ => .error .tooBig
  | n + 1, nested, x => do
    let (first, y) ← concatenation extended anyCase n nested x
    if y.sign = .bar then
      let z := { y.fetch extended true with closed := x.closed }
      let (second, z) ← alternatives extended anyCase n nested z
      return (.either first second, { z with closed := y.closed ++ z.closed })
    else return (first, y)

def concatenation (extended anyCase : Bool) :
    Nat → Bool → Rest → Except RegexFault (Regex × Rest)
  | 0, _, _ => .error .tooBig
  | n + 1, nested, x => do
    if x.endsPart nested then return (.empty, x)
    let (first, x) ← item extended anyCase n x
    if x.endsPart nested then return (first, x)
    let (rest, x) ← concatenation extended anyCase n nested x
    return (.sequence first rest, x)

/-- An operand with its repetitions. Anchors cannot be repeated. -/
def item (extended anyCase : Bool) : Nat → Rest → Except RegexFault (Regex × Rest)
  | 0, _ => .error .tooBig
  | n + 1, x => do
    let followed (r : Regex) (x : Rest) : Except RegexFault (Regex × Rest) :=
      repeated extended (x.text.length + 1) r (x.fetch extended false)
    let operator (c : Char) : Except RegexFault (Regex × Rest) :=
      if extended then .error .noOperand else followed (.char c) x
    match x.sign with
    | .plain c => followed (.char c) x
    | .dot => followed .anyChar x
    | .oneOf negated rs => followed (.range negated rs) x
    | .bracket =>
      let (r, mistaken, t) ← bracket anyCase x.text
      followed r { x with text := t, mistaken := x.mistaken || mistaken }
    | .anchor a => return (.anchor a, x.fetch extended false)
    | .back number =>
      if x.closed.contains number then followed (.again number) x else .error .badReference
    | .opening =>
      let number := x.next
      let x := { x with next := number + 1 }.fetch extended true
      let (body, x) ←
        if x.sign = .closing then pure (.empty, x) else alternatives extended anyCase n true x
      if x.sign = .closing then
        followed (.group number body) { x with closed := number :: x.closed }
      else .error .openGroup
    | .openBrace => .error .noOperand
    | .star => operator '*'
    | .plus => operator '+'
    | .question => operator '?'
    | .closing => .error .closedGroup
    | .closeBrace => followed (.char '\x7d') x
    | .backslash => .error .strayBackslash
    | .bar | .finish => return (.empty, x)

end

end Regex

def Expression.parse (extended anyCase : Bool) (t : Text) :
    Except RegexFault Expression := do
  let start := (Regex.Rest.mk .finish t 1 [] false).fetch extended true
  let (body, x) ← Regex.alternatives extended anyCase (4 * t.length + 4) false start
  if x.mistaken then .error .mistakenClass else return ⟨body, x.next - 1, anyCase⟩

end FormatService
