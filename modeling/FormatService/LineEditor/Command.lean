import FormatService.Regex.Grammar

/-!
# Commands of the line editor

A script is a row of commands. A block says where it ends, and a jump names a label,
so that the row alone decides what comes next.
-/

set_option autoImplicit false

namespace FormatService.LineEditor

inductive LetterCase
  | asIs
  | upper
  | lower
  deriving DecidableEq, Repr

/-- What becomes of the letters of a piece, and of its first character if that has a
case of its own. -/
structure CaseChange where
  all : LetterCase
  first : LetterCase
  deriving DecidableEq, Repr

/-- A text in the place of a match and what a group has matched behind it; group 0 is
the whole match. -/
structure Piece where
  text : Text
  group : Option Nat
  change : CaseChange
  deriving DecidableEq, Repr

inductive Address
  | line (number : Nat)
  /-- Every line that is a multiple of the step behind the first one. -/
  | every (first step : Nat)
  | last
  /-- Lines that an expression occurs in; without one, the expression used last. -/
  | containing (e : Option Expression)
  deriving Repr

inductive RangeEnd
  | address (a : Address)
  /-- So many lines behind the first. -/
  | behind (lines : Nat)
  deriving Repr

inductive Scope
  | all
  | one (a : Address)
  | range (first : Address) (final : RangeEnd)
  deriving Repr

structure Substitution where
  /-- Without an expression, the one used last. -/
  expression : Option Expression
  pieces : List Piece
  /-- The number of the first match that is replaced. -/
  number : Nat
  /-- Whether all matches behind it are replaced too. -/
  all : Bool
  prints : Bool
  deriving Repr

inductive Action
  /-- The block reaches up to a place in the script. -/
  | block (behind : Nat)
  | blockEnd
  | label (name : Text)
  | substitute (s : Substitution)
  | exchange (pairs : List (Char × Char))
  | insert (t : Text)
  | append (t : Text)
  | change (t : Text)
  | delete
  /-- Deletes the first of several lines and begins again with the rest. -/
  | deleteFirst
  | print
  | printFirst
  | next
  | appendNext
  | hold
  | holdMore
  | recall
  | recallMore
  | swap
  | lineNumber
  | jump (label : Text)
  | jumpIfReplaced (label : Text)
  | jumpUnlessReplaced (label : Text)
  /-- Ends the run with a status; if it prints, the line is written before that. -/
  | quit (status : Nat) (prints : Bool)
  deriving Repr, Inhabited

structure Command where
  scope : Scope
  /-- Whether the command is for all other lines. -/
  negated : Bool
  action : Action
  deriving Repr

structure Script where
  commands : Array Command
  labels : List (Text × Nat)
  /-- Whether lines are only written where a command asks for it. -/
  quiet : Bool

/-- Where a command has been read: an argument or a file. -/
inductive Origin
  | argument (number position : Nat)
  | file (name : Text) (line : Nat)
  deriving DecidableEq, Repr

inductive ScriptCause
  | manyNegations
  | unexpectedComma
  | lineZero
  | openBlock
  | closedBlock
  | extraCharacters
  | noText
  | blockEndAddress
  | labelAddress
  | commentAddress
  | missingCommand
  | oneAddress
  | openAddress
  | openSubstitution
  | openExchange
  | unknownFlag
  | manyPrints
  | manyGlobals
  | manyNumbers
  | zeroNumber
  | differentLengths
  | noLabel
  | unknownCommand (c : Char)
  | badGroup (number : Nat)
  | badModifiers
  | regex (f : RegexFault)
  /-- A jump leads to no label. -/
  | unknownLabel (name : Text)
  deriving DecidableEq, Repr

namespace ScriptCause

def quoted (t : String) : String := "\x60" ++ t ++ "'"

def message : ScriptCause → String
  | manyNegations => "multiple " ++ quoted "!" ++ "s"
  | unexpectedComma => "unexpected " ++ quoted ","
  | lineZero => "invalid usage of line address 0"
  | openBlock => "unmatched " ++ quoted "\x7b"
  | closedBlock => "unexpected " ++ quoted "\x7d"
  | extraCharacters => "extra characters after command"
  | noText => "expected \\ after " ++ quoted "a" ++ ", " ++ quoted "c" ++ " or " ++ quoted "i"
  | blockEndAddress => quoted "\x7d" ++ " doesn't want any addresses"
  | labelAddress => ": doesn't want any addresses"
  | commentAddress => "comments don't accept any addresses"
  | missingCommand => "missing command"
  | oneAddress => "command only uses one address"
  | openAddress => "unterminated address regex"
  | openSubstitution => "unterminated " ++ quoted "s" ++ " command"
  | openExchange => "unterminated " ++ quoted "y" ++ " command"
  | unknownFlag => "unknown option to " ++ quoted "s"
  | manyPrints => "multiple " ++ quoted "p" ++ " options to " ++ quoted "s" ++ " command"
  | manyGlobals => "multiple " ++ quoted "g" ++ " options to " ++ quoted "s" ++ " command"
  | manyNumbers => "multiple number options to " ++ quoted "s" ++ " command"
  | zeroNumber => "number option to " ++ quoted "s" ++ " command may not be zero"
  | differentLengths => "strings for " ++ quoted "y" ++ " command are different lengths"
  | noLabel => "\":\" lacks a label"
  | unknownCommand c => "unknown command: " ++ quoted (String.singleton c)
  | badGroup n =>
    "invalid reference \\" ++ toString n ++ " on " ++ quoted "s" ++ " command's RHS"
  | badModifiers => "cannot specify modifiers on empty regexp"
  | regex f => f.message
  | unknownLabel name => "can't find label for jump to " ++ quoted (String.ofList name)

/-- Whether the place of the cause is not told, and the run ends as after a failure of
the system. -/
def isPlaceless : ScriptCause → Bool
  | unknownLabel _ => true
  | regex .mistakenClass => true
  | _ => false

end ScriptCause

structure ScriptFault where
  origin : Origin
  cause : ScriptCause
  deriving DecidableEq, Repr

namespace ScriptFault

def message (f : ScriptFault) : Text :=
  let cause := f.cause.message.toList
  if f.cause.isPlaceless then cause
  else match f.origin with
  | .argument number position =>
    ("-e expression #" ++ toString number ++ ", char " ++ toString position ++ ": ").toList ++ cause
  | .file name line =>
    "file ".toList ++ name ++ (" line " ++ toString line ++ ": ").toList ++ cause

def status (f : ScriptFault) : Nat := if f.cause.isPlaceless then 4 else 1

end ScriptFault

end FormatService.LineEditor
