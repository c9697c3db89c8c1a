import FormatService.Shell.Source

/-!
# Reading words

A word ends at a blank, a line break or an operator that is not quoted. Quotes, parameters,
substitutions and arithmetic can be nested in each other. How the script in a
substitution is read is left open here.
-/

set_option autoImplicit false

namespace FormatService.Shell

def isBreak (c : Char) : Bool :=
  c == ' ' || c == '\t' || c == '\n' || c == ';' || c == '&' || c == '|' || c == '<' || c == '>' ||
    c == '(' || c == ')'

inductive Around
  | bare
  | double
  | document (a : Awaited)
  | arithmetic

def Around.isQuoted : Around → Bool
  | bare => false
  | _ => true

inductive Doubled
  | quotes
  /-- Between braces, within double quotes. -/
  | braces
  | document (a : Awaited)
  /-- Between braces, within a here-document. -/
  | documentBraces (a : Awaited)

namespace Doubled

def document? : Doubled → Option Awaited
  | document a | documentBraces a => some a
  | _ => none

def inBraces : Doubled → Bool
  | braces | documentBraces _ => true
  | _ => false

def isQuotable : Doubled → Bool
  | document _ => false
  | _ => true

def escapes (d : Doubled) (c : Char) : Bool :=
  c == '\\' || c == backquote || c == '$' || (c == '"' && d.isQuotable) ||
    (c == '\x7d' && d.inBraces)

def around (d : Doubled) : Around :=
  match d.document? with
  | some a => .document a
  | none => .double

def unclosed? (d : Doubled) : Option SyntaxCause :=
  match d with
  | quotes | braces => some .openQuotes
  | document _ => none
  | documentBraces _ => some .openBrace

end Doubled

inductive Bare
  | word
  /-- A word in which only quotes have a meaning. -/
  | delimiter
  | braces
  deriving DecidableEq, Repr

def isSpecialParameter (c : Char) : Bool :=
  c == '@' || c == '*' || c == '#' || c == '?' || c == '$' || c == '!' || c == '-' || c.isDigit

/-- What the characters after the name of a parameter ask for; nothing has been taken
off for a closing brace. -/
def questionOf (c : Char) (colon : Bool) : Option Question :=
  match c with
  | '-' => some (.otherwise colon)
  | '=' => some (.assigned colon)
  | '+' => some (.instead colon)
  | '?' => some (.required colon)
  | _ => none

namespace Reader

def span (isOf : Char → Bool) : Nat → Text → Reader Text
  | 0, acc => return acc.reverse
  | n + 1, acc => do
    match ← peek with
    | some c =>
      if isOf c then
        skip
        span isOf n (c :: acc)
      else return acc.reverse
    | none => return acc.reverse

def single : Nat → Word → Reader Word
  | 0, _ => refuse .openQuotes
  | n + 1, acc => do
    match ← plainPeek with
    | none => refuse .openQuotes
    | some c =>
      skip
      if c = '\'' then return acc else single n (.char c true :: acc)

/-- Passes over the end of a here-document, if it is reached at the beginning of a line. -/
def reachesEnd (a : Awaited) : Reader Bool := fun s =>
  let t := if a.strips then s.rest.dropWhile (· == '\t') else s.rest
  let s := { s with rest := t }
  let line := t.takeWhile (· != '\n')
  if line = a.delimiter then
    let rest := (t.drop line.length).drop 1
    .ok (true, { s with rest := rest, line := s.line + 1 })
  else .ok (false, s)

def betweenBackquotes (inDouble : Bool) : Nat → Text → Reader Text
  | 0, _ => refuse .openBackquote
  | n + 1, acc => do
    match ← peek with
    | none => refuse .openBackquote
    | some c =>
      skip
      if c = backquote then return acc.reverse
      else if c = '\\' then
        match ← plainPeek with
        | none => refuse .openBackquote
        | some d =>
          skip
          let plain := d = '\\' ∨ d = backquote ∨ d = '$' ∨ (inDouble ∧ d = '"')
          betweenBackquotes inDouble n (if plain then d :: acc else d :: '\\' :: acc)
      else betweenBackquotes inDouble n (c :: acc)

variable (script : Reader Command)

/-- A script after an opening parenthesis. Only its own here-documents are read at the
ends of its lines. -/
def parenthesized : Reader Piece := do
  let outer := (← get).awaited
  modify fun s => { s with awaited := [] }
  let body ← script
  modify fun s => { s with awaited := outer }
  match ← pop? with
  | some (.operator ")") => return .script body
  | some t => unexpected t (some "\")\"")
  | none => unexpected .finish (some "\")\"")

def backquoted (n : Nat) (inDouble : Bool) : Reader Piece := do
  let text ← betweenBackquotes inDouble n []
  return .script (← within 1 text script)

mutual

def bare : Nat → Bare → Word → Reader Word
  | 0, _, acc => return acc
  | n + 1, kind, acc => do
    match ← peek with
    | none => if kind = .braces then refuse .openBrace else return acc
    | some c =>
      if isBreak c && kind != .braces then return acc
      else
        skip
        if c = '\\' then
          match ← plainPeek with
          | none => bare n kind (.char '\\' true :: acc)
          | some d =>
            skip
            bare n kind (.char d true :: acc)
        else if c = '\'' then
          let acc ← single n (.mark :: acc)
          bare n kind (.mark :: acc)
        else if c = '"' then
          let acc ← doubled n .quotes false false (.mark :: acc)
          bare n kind (.mark :: acc)
        else if c = '$' ∧ kind ≠ .delimiter then
          let piece ← dollar n .bare
          bare n kind (piece :: acc)
        else if c = backquote ∧ kind ≠ .delimiter then
          let piece ← backquoted script n false
          bare n kind (piece :: acc)
        else if c = backquote then bare n kind (.char c true :: acc)
        else if c = '\x7d' ∧ kind = .braces then return acc
        else bare n kind (.char c false :: acc)

/-- Reads on with the rules of double quotes, perhaps at the beginning of a line.
Between braces there may be quotes again. -/
def doubled : Nat → Doubled → Bool → Bool → Word → Reader Word
  | 0, _, _, _, acc => return acc
  | n + 1, kind, atLine, inner, acc => do
    let ended ←
      match if atLine then kind.document? else none with
      | some a => reachesEnd a
      | none => pure false
    match ← if ended then pure none else peek with
    | none =>
      match kind.unclosed? with
      | some cause => refuse cause
      | none => return acc
    | some c =>
      skip
      if c = '\\' then
        match ← plainPeek with
        | none => doubled n kind false inner (.char '\\' true :: acc)
        | some d =>
          skip
          let acc := if kind.escapes d then acc else .char '\\' true :: acc
          doubled n kind false inner (.char d true :: acc)
      else if c = '"' ∧ kind.isQuotable then
        match kind with
        | .quotes => return acc
        | .braces => doubled n kind false (!inner) (.mark :: acc)
        | _ => doubled n kind false (!inner) acc
      else if c = '$' then
        let piece ← dollar n kind.around
        doubled n kind false inner (piece :: acc)
      else if c = backquote then
        let piece ← backquoted script n true
        doubled n kind false inner (piece :: acc)
      else if c = '\x7d' ∧ kind.inBraces ∧ inner = false then return acc
      else doubled n kind (c == '\n') inner (.char c true :: acc)

def dollar : Nat → Around → Reader Piece
  | 0, _ => return .char '$' false
  | n + 1, around => do
    match ← peek with
    | some '(' =>
      skip
      if ← accepts '(' then return .arithmetic (← arithmetic n 0 []).reverse
      else parenthesized script
    | some '\x7b' =>
      skip
      braced n around
    | some c =>
      if isNameStart c then return .parameter (← span isNameChar n []) .value []
      else if isSpecialParameter c then
        skip
        return .parameter [c] .value []
      else return .char '$' around.isQuoted
    | none => return .char '$' around.isQuoted

def braced : Nat → Around → Reader Piece
  | 0, _ => refuse .openBrace
  | n + 1, around => do
    match ← peek with
    | none => asked n around [] .unknown
    | some c =>
      if isNameStart c then questioned n around (← span isNameChar n [])
      else if c.isDigit then questioned n around (← span Char.isDigit n [])
      else if c = '\x7d' then asked n around [] .unknown
      else
        skip
        if c = '#' then measured n around
        else if isSpecialParameter c then questioned n around [c]
        else asked n around [] .unknown

/-- What follows a number sign at the beginning of braces: it asks for a length, or it is
the parameter itself. -/
def measured : Nat → Around → Reader Piece
  | 0, _ => refuse .openBrace
  | n + 1, around => do
    match ← peek with
    | none => questioned n around ['#']
    | some c =>
      if isNameStart c || c.isDigit then
        let name ← if c.isDigit then span Char.isDigit n [] else span isNameChar n []
        let closes := (← peek) = some '\x7d'
        asked n around name (if closes then .length else .unknown)
      else if c = '\x7d' then questioned n around ['#']
      else
        let before ← get
        skip
        if (← peek) = some '\x7d' then
          asked n around [c] (if isSpecialParameter c then .length else .unknown)
        else
          set before
          questioned n around ['#']

def questioned : Nat → Around → Text → Reader Piece
  | 0, _, _ => refuse .openBrace
  | n + 1, around, name => do
    match ← peek with
    | none => asked n around name .unknown
    | some c =>
      drop
      if c = '\x7d' then return .parameter name .value []
      else if c = '%' ∨ c = '#' then
        let longest ← accepts c
        asked n around name (.trimmed (c == '#') longest)
      else
        let colon := c = ':'
        let c ← if colon then peek else pure (some c)
        if colon then skip
        match c with
        | none => asked n around name .unknown
        | some c =>
          if colon ∧ c = '\x7d' then asked n around name .value
          else asked n around name ((questionOf c colon).getD .unknown)

def asked : Nat → Around → Text → Question → Reader Piece
  | 0, _, _, _ => refuse .openBrace
  | n + 1, around, name, question => do
    let trims := match question with
      | .trimmed .. => true
      | _ => false
    let word ←
      match if trims then Around.bare else around with
      | .bare => bare n .braces []
      | .document a => doubled n (.documentBraces a) false false []
      | _ => doubled n .braces false false []
    return .parameter name question word.reverse

def arithmetic : Nat → Nat → Word → Reader Word
  | 0, _, acc => return acc
  | n + 1, level, acc => do
    match ← peek with
    | none => refuse .openArithmetic
    | some c =>
      skip
      if c = '\\' then
        match ← plainPeek with
        | none => arithmetic n level (.char '\\' true :: acc)
        | some d =>
          skip
          let acc := if Doubled.quotes.escapes d then acc else .char '\\' true :: acc
          arithmetic n level (.char d true :: acc)
      else if c = '$' then
        let piece ← dollar n .arithmetic
        arithmetic n level (piece :: acc)
      else if c = backquote then
        let piece ← backquoted script n true
        arithmetic n level (piece :: acc)
      else if c = '(' then arithmetic n (level + 1) (.char c true :: acc)
      else if c = ')' then
        match level with
        | level + 1 => arithmetic n level (.char c true :: acc)
        | 0 => if ← accepts ')' then return acc else arithmetic n 0 (.char c true :: acc)
      else arithmetic n level (.char c true :: acc)

end

def literalLines (a : Awaited) : Nat → Text → Reader Text
  | 0, acc => return acc.reverse
  | n + 1, acc => do
    if ← reachesEnd a then return acc.reverse
    else
      let t := (← get).rest
      let line := t.takeWhile (· != '\n')
      match t.drop line.length with
      | [] =>
        modify fun s => { s with rest := [] }
        return acc.reverse ++ line
      | _ :: rest =>
        modify fun s => { s with rest := rest, line := s.line + 1 }
        literalLines a n ('\n' :: line.reverse ++ acc)

def document (n : Nat) (a : Awaited) : Reader Unit := do
  let word ←
    if a.literal then Word.quoted <$> literalLines a n []
    else List.reverse <$> doubled script n (.document a) true false []
  modify fun s => { s with documents := (a.id, word) :: s.documents }

def readDocuments (n : Nat) : List Awaited → Reader Unit
  | [] => return ()
  | a :: more => do
    document script n a
    readDocuments n more

def documents (n : Nat) : Reader Unit := do
  let awaited := (← get).awaited
  modify fun s => { s with awaited := [] }
  readDocuments script n awaited

end Reader

end FormatService.Shell
