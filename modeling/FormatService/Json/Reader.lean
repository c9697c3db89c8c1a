import FormatService.Json.Token
import FormatService.Json.Value

/-!
# Reading relaxed JSON

A machine that takes one token at a time. Its stack holds the arrays and objects
that are still open, so a text may be nested to any depth. A comma may follow any
item and may be left out between items.
-/

set_option autoImplicit false

namespace FormatService.Json

inductive Phase
  /-- A member name or the end; or a comma, where one may stand. -/
  | member (comma : Bool)
  | colon (name : String)
  | value (name : String)
  deriving DecidableEq, Repr

/-- An open array or object: where it began and what it holds so far, last first. -/
inductive Frame
  | array (left : Nat) (items : List Value) (comma : Bool)
  | object (left : Nat) (members : List (String × Value)) (phase : Phase)
  deriving Repr

inductive State
  /-- No value yet. -/
  | start
  | inside (frame : Frame) (outer : List Frame)
  | done (value : Value)
  deriving Repr

namespace State

def complete (value : Value) : List Frame → State
  | [] => done value
  | .array left items _ :: outer => inside (.array left (value :: items) true) outer
  | .object left members (.value name) :: outer =>
    inside (.object left ((name, value) :: members) (.member true)) outer
  | frame :: outer => inside frame outer

def beginValue (outer : List Frame) (lexeme : Lexeme) : Except Fault State :=
  match lexeme.token with
  | .openBrace => .ok (inside (.object lexeme.left [] (.member false)) outer)
  | .openBracket => .ok (inside (.array lexeme.left [] false) outer)
  | .string s => .ok (complete (.string (String.ofList s)) outer)
  | .boolean b => .ok (complete (.boolean b) outer)
  | .number literal _ => .ok (complete (.number literal) outer)
  | .null => .ok (complete .null outer)
  | .closeBrace => .error .unexpectedCloseBrace
  | .closeBracket => .error .unexpectedCloseBracket
  | .comma => .error .unexpectedComma
  | .colon => .error .unexpectedColon
  | .word _ => .error .unexpectedWord

def stepArray (left : Nat) (items : List Value) (comma : Bool) (outer : List Frame)
    (lexeme : Lexeme) : Except Fault State :=
  match lexeme.token, comma with
  | .closeBracket, _ => .ok (complete (.array items.reverse) outer)
  | .comma, true => .ok (inside (.array left items false) outer)
  | _, _ => beginValue (.array left items comma :: outer) lexeme

def stepObject (left : Nat) (members : List (String × Value)) (phase : Phase)
    (outer : List Frame) (lexeme : Lexeme) : Except Fault State :=
  match phase with
  | .member comma =>
    match lexeme.token, comma with
    | .closeBrace, _ => .ok (complete (.object members.reverse) outer)
    | .comma, true => .ok (inside (.object left members (.member false)) outer)
    | .string s, _ => .ok (inside (.object left members (.colon (String.ofList s))) outer)
    | .word s, _ => .ok (inside (.object left members (.colon (String.ofList s))) outer)
    | .number _ s, _ => .ok (inside (.object left members (.colon (String.ofList s))) outer)
    | _, _ => .error .unexpectedInObject
  | .colon name =>
    match lexeme.token with
    | .colon => .ok (inside (.object left members (.value name)) outer)
    | _ => .error .colonAfterName
  | .value _ => beginValue (.object left members phase :: outer) lexeme

def step (s : State) (lexeme : Lexeme) : Except Fault State :=
  match s with
  | start => beginValue [] lexeme
  | inside (.array left items comma) outer => stepArray left items comma outer lexeme
  | inside (.object left members phase) outer => stepObject left members phase outer lexeme
  | done _ => .error .severalValues

def finish : State → Except Located (Option Value)
  | start => .ok none
  | done value => .ok (some value)
  | inside (.array left _ _) _ => .error ⟨.unterminatedArray, left⟩
  | inside (.object left _ (.member _)) _ => .error ⟨.unterminatedObject, left⟩
  | inside (.object _ _ (.colon _)) _ => .error ⟨.colonAfterName, 0⟩
  | inside (.object _ _ (.value _)) _ => .error ⟨.valueAfterColon, 0⟩

def run (s : State) : List Lexeme → Except Located State
  | [] => .ok s
  | lexeme :: rest =>
    match s.step lexeme with
    | .ok s => run s rest
    | .error fault => .error ⟨fault, lexeme.left⟩

end State

def read (text : List Char) : Except Located (Option Value) := do
  let lexemes := lex text
  let s ← State.start.run lexemes.items
  match lexemes.fault with
  | some located => .error located
  | none => s.finish

def position (text : List Char) (left : Nat) : Nat × Nat :=
  let before := text.take (text.length - left)
  (before.count '\n' + 1, (before.reverse.takeWhile (· != '\n')).length + 1)

def Located.message (located : Located) (text : List Char) : String :=
  let (line, column) := position text located.left
  located.fault.message ++ " on line " ++ toString line ++ " column " ++ toString column

end FormatService.Json
