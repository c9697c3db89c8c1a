import FormatService.Shell.Command

/-!
# A script that is being read

A script is read character by character. A line break behind a backslash joins two
lines.
-/

set_option autoImplicit false

namespace FormatService.Shell

/-- What a redirection asks for; its file or delimiter follows. -/
inductive Arrow
  | read
  | write
  | append
  | duplicate
  | document (strips : Bool)
  deriving DecidableEq, Repr

inductive Token
  | finish
  | newline
  | operator (symbol : String)
  | keyword (name : String)
  | word (w : Word)
  | redirection (channel : Nat) (arrow : Arrow)

def Token.name : Token → String
  | finish => "end of file"
  | newline => "newline"
  | operator symbol => "\"" ++ symbol ++ "\""
  | keyword name => "\"" ++ name ++ "\""
  | word _ => "word"
  | redirection .. => "redirection"

structure Awaited where
  id : Nat
  delimiter : Text
  /-- Whether tabs at the beginnings of lines are dropped. -/
  strips : Bool
  /-- Whether the text is taken as it is. -/
  literal : Bool

/-- What is left of a script, and what is known from what has been read. -/
structure Source where
  rest : Text
  line : Nat
  /-- A token that has been read and put back. -/
  pushed : Option Token
  awaited : List Awaited
  /-- The texts of the here-documents, and the number of the next one. -/
  documents : List (Nat × Word)
  next : Nat

abbrev Reader := StateT Source (Except SyntaxFault)

def backquote : Char := '\x60'

namespace Reader

def refuse {α : Type} (cause : SyntaxCause) : Reader α := fun s => .error ⟨s.line, cause⟩

def unexpected {α : Type} (t : Token) (wanted : Option String) : Reader α :=
  refuse (.unexpected t.name wanted)

def plainPeek : Reader (Option Char) := fun s => .ok (s.rest.head?, s)

def withoutJoints : Text → Nat × Text
  | '\\' :: '\n' :: t =>
    let (n, rest) := withoutJoints t
    (n + 1, rest)
  | t => (0, t)

def peek : Reader (Option Char) := fun s =>
  match s.rest with
  | '\\' :: '\n' :: _ =>
    let (n, rest) := withoutJoints s.rest
    .ok (rest.head?, { s with rest := rest, line := s.line + n })
  | c :: _ => .ok (some c, s)
  | [] => .ok (none, s)

def skip : Reader Unit := fun s =>
  match s.rest with
  | '\n' :: t => .ok ((), { s with rest := t, line := s.line + 1 })
  | _ :: t => .ok ((), { s with rest := t })
  | [] => .ok ((), s)

def drop : Reader Unit := modify fun s => { s with rest := s.rest.drop 1 }

def accepts (c : Char) : Reader Bool := do
  if (← peek) = some c then
    skip
    return true
  else return false

def push (t : Token) : Reader Unit := modify fun s => { s with pushed := some t }

def pop? : Reader (Option Token) := fun s => .ok (s.pushed, { s with pushed := none })

def within {α : Type} (line : Nat) (t : Text) (read : Reader α) : Reader α := fun s =>
  match read { s with rest := t, line := line, pushed := none, awaited := [] } with
  | .error f => .error f
  | .ok (a, found) => .ok (a, { s with documents := found.documents, next := found.next })

def announce (delimiter : Text) (strips literal : Bool) : Reader Nat := fun s =>
  let awaited := s.awaited ++ [⟨s.next, delimiter, strips, literal⟩]
  .ok (s.next, { s with awaited := awaited, next := s.next + 1 })

def isBlank (c : Char) : Bool := c == ' ' || c == '\t'

end Reader

end FormatService.Shell
