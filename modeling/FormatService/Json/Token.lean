import FormatService.Text.Blank
import FormatService.Text.Alphanumeric
import FormatService.Json.Number

/-!
# Tokens of relaxed JSON

Relaxed JSON allows comments, single quoted strings, bare words as member names
and commas after the last item. This module splits a text into tokens. A place in
the text is given by how many characters are left from there on.
-/

set_option autoImplicit false

namespace FormatService.Json

inductive Token
  | openBrace
  | closeBrace
  | openBracket
  | closeBracket
  | comma
  | colon
  | string (value : Text)
  | word (text : Text)
  | number (literal : Literal) (text : Text)
  | boolean (value : Bool)
  | null
  deriving DecidableEq, Repr

inductive Fault
  | unexpectedToken
  | unterminatedComment
  | unterminatedString
  | badEscape
  | escapedDoubleQuote
  | escapedSingleQuote
  | fourHexDigits
  | noCharacter (hex : Text)
  | digitAfterMinus
  | digit
  | exponent
  | unexpectedCloseBrace
  | unexpectedCloseBracket
  | unexpectedComma
  | unexpectedColon
  | unexpectedWord
  | unexpectedInObject
  | colonAfterName
  | valueAfterColon
  | unterminatedArray
  | unterminatedObject
  | severalValues
  deriving DecidableEq, Repr

def Fault.message : Fault → String
  | unexpectedToken => "Unexpected token"
  | unterminatedComment => "Unterminated comment block"
  | unterminatedString => "Unterminated string literal"
  | badEscape => "Invalid escape"
  | escapedDoubleQuote => "Invalid escape in single quote string"
  | escapedSingleQuote => "Invalid escape in double quote string"
  | fourHexDigits => "Expected four hex digits"
  | noCharacter hex =>
    "Invalid unicode escape sequence. '" ++ String.ofList hex ++ "' is not a valid UTF8 character"
  | digitAfterMinus => "Expected digit following negative sign"
  | digit => "Expected digit"
  | exponent => "Expected plus, minus, or digit in number literal"
  | unexpectedCloseBrace => "Unexpected close brace"
  | unexpectedCloseBracket => "Unexpected close bracket"
  | unexpectedComma => "Unexpected comma"
  | unexpectedColon => "Unexpected colon"
  | unexpectedWord => "Unexpected word"
  | unexpectedInObject => "Unexpected token in object"
  | colonAfterName => "Expected colon after the string or word in object property"
  | valueAfterColon => "Expected value after colon in object property"
  | unterminatedArray => "Unterminated array"
  | unterminatedObject => "Unterminated object"
  | severalValues => "Text cannot contain more than one JSON value"

/-- A fault and how many characters are left from its place on. -/
structure Located where
  fault : Fault
  left : Nat
  deriving DecidableEq, Repr

abbrev Scanned (α : Type) := Except Located (α × List Char)

def skipLine : List Char → List Char
  | [] => []
  | '\n' :: t => '\n' :: t
  | '\r' :: '\n' :: t => '\r' :: '\n' :: t
  | _ :: t => skipLine t

def skipBlock? : List Char → Option (List Char)
  | [] => none
  | '*' :: '/' :: t => some t
  | _ :: t => skipBlock? t

def isHex (c : Char) : Bool :=
  c.isDigit || ('a' ≤ c && c ≤ 'f') || ('A' ≤ c && c ≤ 'F')

def hexDigit (c : Char) : Nat :=
  if c.isDigit then c.toNat - '0'.toNat
  else if 'a' ≤ c then c.toNat - 'a'.toNat + 10 else c.toNat - 'A'.toNat + 10

def hexValue (digits : List Char) : Nat := digits.foldl (fun n c => n * 16 + hexDigit c) 0

def character? (n : Nat) : Option Char :=
  if h : n.isValidChar then some (Char.ofNatAux n h) else none

def unescape? (quote e : Char) : Except Fault Char :=
  if e = '"' then if quote = '"' then .ok e else .error .escapedDoubleQuote
  else if e = '\'' then if quote = '"' then .error .escapedSingleQuote else .ok e
  else if e = '\\' ∨ e = '/' then .ok e
  else if e = 'b' then .ok '\x08'
  else if e = 'f' then .ok '\x0c'
  else if e = 'n' then .ok '\n'
  else if e = 'r' then .ok '\r'
  else if e = 't' then .ok '\t'
  else .error .badEscape

def scanString (quote : Char) (start : Nat) : List Char → Scanned Text
  | [] => .error ⟨.unterminatedString, start⟩
  | '\\' :: 'u' :: a :: b :: c :: d :: t =>
    if isHex a && isHex b && isHex c && isHex d then
      match character? (hexValue [a, b, c, d]) with
      | some x => (scanString quote start t).map fun (s, r) => (x :: s, r)
      | none => .error ⟨.noCharacter [a, b, c, d], t.length + 6⟩
    else .error ⟨.fourHexDigits, t.length + 6⟩
  | '\\' :: 'u' :: t => .error ⟨.fourHexDigits, t.length + 2⟩
  | ['\\'] => .error ⟨.unterminatedString, start⟩
  | '\\' :: e :: t =>
    match unescape? quote e with
    | .ok x => (scanString quote start t).map fun (s, r) => (x :: s, r)
    | .error fault => .error ⟨fault, t.length + 2⟩
  | c :: t =>
    if c = quote then .ok ([], t)
    else (scanString quote start t).map fun (s, r) => (c :: s, r)

def takeDigits (s : List Char) : List Char × List Char := s.span Char.isDigit

/-- The digits before the point: a zero on its own, or any number without leading zeros. -/
def scanWhole : List Char → Scanned (List Char)
  | '0' :: t => .ok (['0'], t)
  | s =>
    match takeDigits s with
    | ([], _) => .error ⟨.digitAfterMinus, s.length⟩
    | (digits, rest) => .ok (digits, rest)

def scanDigits (s : List Char) : Scanned (List Char) :=
  match takeDigits s with
  | ([], _) => .error ⟨.digit, s.length⟩
  | (digits, rest) => .ok (digits, rest)

def scanFraction : List Char → Scanned (Option (List Char))
  | '.' :: t => (scanDigits t).map fun (digits, rest) => (some digits, rest)
  | s => .ok (none, s)

def scanExponentDigits : List Char → Scanned (Bool × List Char)
  | '-' :: t => (scanDigits t).map fun (digits, rest) => ((true, digits), rest)
  | '+' :: t => (scanDigits t).map fun (digits, rest) => ((false, digits), rest)
  | s =>
    match takeDigits s with
    | ([], _) => .error ⟨.exponent, s.length⟩
    | (digits, rest) => .ok ((false, digits), rest)

def scanExponent : List Char → Scanned (Option (Bool × List Char))
  | c :: t =>
    if c = 'e' ∨ c = 'E' then (scanExponentDigits t).map fun (e, rest) => (some e, rest)
    else .ok (none, c :: t)
  | [] => .ok (none, [])

def scanNumber (s : List Char) : Except Located (Token × List Char) := do
  let (sign, afterSign) := match s with
    | '-' :: t => (true, t)
    | _ => (false, s)
  let (whole, afterWhole) ← scanWhole afterSign
  let (fraction, afterFraction) ← scanFraction afterWhole
  let (exponent, rest) ← scanExponent afterFraction
  return (.number ⟨sign, whole, fraction, exponent⟩ (s.take (s.length - rest.length)), rest)

/-- A bare word reaches to the next blank or colon and holds letters, digits and
hyphens only. -/
def scanWord (start : Nat) : List Char → Scanned Text
  | [] => .ok ([], [])
  | c :: t =>
    if Text.isBlank c || c = ':' then .ok ([], c :: t)
    else if Text.isAlphanumeric c || c = '-' then
      (scanWord start t).map fun (w, r) => (c :: w, r)
    else .error ⟨.unexpectedToken, start⟩

def keyword? (keyword s : List Char) : Option (List Char) :=
  if keyword.isPrefixOf s then
    let rest := s.drop keyword.length
    if rest.head?.any Text.isAlphanumeric then none else some rest
  else none

def scanKeywordOrWord (s : List Char) : Scanned Token :=
  match keyword? "true".toList s with
  | some rest => .ok (.boolean true, rest)
  | none =>
    match keyword? "false".toList s with
    | some rest => .ok (.boolean false, rest)
    | none =>
      match keyword? "null".toList s with
      | some rest => .ok (.null, rest)
      | none => (scanWord s.length s).map fun (w, r) => (.word w, r)

/-- The token at the beginning of a text that begins with neither a blank nor a
comment. -/
def scanToken : List Char → Scanned Token
  | [] => .error ⟨.unexpectedToken, 0⟩
  | c :: t =>
    if c = '\x7b' then .ok (.openBrace, t)
    else if c = '\x7d' then .ok (.closeBrace, t)
    else if c = '[' then .ok (.openBracket, t)
    else if c = ']' then .ok (.closeBracket, t)
    else if c = ',' then .ok (.comma, t)
    else if c = ':' then .ok (.colon, t)
    else if c = '"' ∨ c = '\'' then
      (scanString c (t.length + 1) t).map fun (s, r) => (.string s, r)
    else if c = '/' then .error ⟨.unexpectedToken, t.length + 1⟩
    else if c = '-' ∨ c.isDigit then scanNumber (c :: t)
    else scanKeywordOrWord (c :: t)

/-- A token and how many characters are left from its first one on. -/
structure Lexeme where
  token : Token
  left : Nat
  deriving DecidableEq, Repr

/-- The tokens of a text, up to its end or to the first fault. -/
structure Lexemes where
  items : List Lexeme
  fault : Option Located
  deriving DecidableEq, Repr

def Lexemes.cons (lexeme : Lexeme) (l : Lexemes) : Lexemes := { l with items := lexeme :: l.items }

/-- Every step uses up at least one character, so as many steps as there are
characters suffice. -/
def lexFrom : Nat → List Char → Lexemes
  | _, [] => ⟨[], none⟩
  | 0, s => ⟨[], some ⟨.unexpectedToken, s.length⟩⟩
  | n + 1, '/' :: '/' :: t => lexFrom n (skipLine t)
  | n + 1, '/' :: '*' :: t =>
    match skipBlock? t with
    | some rest => lexFrom n rest
    | none => ⟨[], some ⟨.unterminatedComment, t.length + 2⟩⟩
  | n + 1, c :: t =>
    if Text.isBlank c then lexFrom n t
    else
      match scanToken (c :: t) with
      | .ok (token, rest) => (lexFrom n rest).cons ⟨token, t.length + 1⟩
      | .error located => ⟨[], some located⟩

def lex (text : List Char) : Lexemes := lexFrom text.length text

end FormatService.Json
