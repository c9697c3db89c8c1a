import FormatService.Text.Basic

/-!
# Commands of a script

The structure of a script. Words keep their quotes and what they ask for: what they
stand for is found when the command is run.
-/

set_option autoImplicit false

namespace FormatService.Shell

def isNameStart (c : Char) : Bool := c.isAlpha || c == '_'

def isNameChar (c : Char) : Bool := c.isAlphanum || c == '_'

def isName (t : Text) : Bool :=
  match t with
  | [] => false
  | c :: t => isNameStart c && t.all isNameChar

/-- Built-in commands that change the script itself: what is assigned before them stays,
their mistakes end the script, and no function can have their names. -/
def specialBuiltins : List String :=
  [".", ":", "break", "continue", "eval", "exec", "exit", "export", "local", "readonly",
    "return", "set", "shift", "unset"]

/-- What is asked of a parameter. A colon counts an empty value as none. -/
inductive Question
  | value
  | length
  /-- Another word if there is no value. -/
  | otherwise (colon : Bool)
  /-- Another word if there is no value, which becomes the value. -/
  | assigned (colon : Bool)
  /-- Another word if there is a value. -/
  | instead (colon : Bool)
  | required (colon : Bool)
  /-- The value without a front or back of a pattern. -/
  | trimmed (front longest : Bool)
  /-- Nothing that a parameter can be asked for. -/
  | unknown
  deriving DecidableEq, Repr, Inhabited

mutual

inductive Piece
  | char (c : Char) (quoted : Bool)
  /-- Quotes begin or end. -/
  | mark
  | parameter (name : Text) (question : Question) (word : List Piece)
  /-- What a script writes. -/
  | script (body : Command)
  | arithmetic (word : List Piece)

inductive Target
  | read (file : List Piece)
  /-- A file that is written anew. -/
  | write (file : List Piece)
  | append (file : List Piece)
  /-- The same as another channel. -/
  | channel (n : Nat)
  | nothing
  /-- The same as a channel that is found when the command is run. -/
  | duplicate (word : List Piece)
  /-- A here-document, by its number. -/
  | document (id : Nat)

inductive Command
  | nothing
  | simple (line : Nat) (settings words : List (List Piece)) (redirections : List (Nat × Target))
  | pipeline (parts : List Command)
  | negation (body : Command)
  | sequence (first second : Command)
  | both (first second : Command)
  | either (first second : Command)
  | subshell (line : Nat) (body : Command) (redirections : List (Nat × Target))
  | redirected (line : Nat) (body : Command) (redirections : List (Nat × Target))
  | choice (condition yes no : Command)
  /-- Repeats the body as long as the condition ends as it is asked to. -/
  | loop (whileTrue : Bool) (condition body : Command)
  | each (line : Nat) (name : Text) (words : List (List Piece)) (body : Command)
  | select (line : Nat) (word : List Piece) (cases : List (List (List Piece) × Command))
  | define (name : Text) (body : Command)

end

instance : Inhabited Piece := ⟨.mark⟩

instance : Inhabited Command := ⟨.nothing⟩

abbrev Word := List Piece

abbrev Redirection := Nat × Target

namespace Word

def plain? : Word → Option Text
  | [] => some []
  | .char c false :: w => (plain? w).map (c :: ·)
  | _ => none

def quoted (t : Text) : Word := t.map fun c => .char c true

def characters (w : Word) : Text :=
  w.filterMap fun
    | .char c _ => some c
    | _ => none

def isQuoted (w : Word) : Bool :=
  w.any fun
    | .mark => true
    | .char _ quoted => quoted
    | _ => false

def isSetting (w : Word) : Bool :=
  match w with
  | .char c false :: _ =>
    isNameStart c &&
      match w.dropWhile fun p => match p with
        | .char c false => isNameChar c
        | _ => false with
      | .char '=' false :: _ => true
      | _ => false
  | _ => false

end Word

inductive SyntaxCause
  /-- Something stands where nothing or something else is wanted. -/
  | unexpected (found : String) (wanted : Option String)
  | openQuotes
  | openBackquote
  | openBrace
  | openArithmetic
  | badLoopName
  | badFunctionName
  deriving DecidableEq, Repr

def SyntaxCause.message : SyntaxCause → String
  | unexpected found none => found ++ " unexpected"
  | unexpected found (some wanted) => found ++ " unexpected (expecting " ++ wanted ++ ")"
  | openQuotes => "Unterminated quoted string"
  | openBackquote => "EOF in backquote substitution"
  | openBrace => "Missing '\x7d'"
  | openArithmetic => "Missing '))'"
  | badLoopName => "Bad for loop variable"
  | badFunctionName => "Bad function name"

structure SyntaxFault where
  line : Nat
  cause : SyntaxCause
  deriving DecidableEq, Repr

end FormatService.Shell
