import FormatService.Shell.Arithmetic
import FormatService.Shell.Field
import FormatService.Shell.State

/-!
# Parameters

Variables, arguments and the special parameters of a script.
-/

set_option autoImplicit false

namespace FormatService.Shell.Parameter

def optionLetters : Text := "uxsfe".toList

def value? (s : State) (name : Text) : Option Text :=
  match name with
  | ['#'] => some (toString s.arguments.length).toList
  | ['?'] => some (toString s.status).toList
  | ['$'] => some (toString s.process).toList
  | ['-'] => some (optionLetters.filter s.has)
  | c :: _ =>
    if c.isDigit then
      match Arithmetic.inBase 10 name with
      | 0 => some s.name
      | n + 1 => s.arguments[n]?
    else s.value? name
  | [] => none

def isAll (name : Text) : Bool := name == ['@'] || name == ['*']

def joint (s : State) : Text := s.separators.take 1

def text? (s : State) (name : Text) : Option Text :=
  if isAll name then some ((joint s).intercalate s.arguments) else value? s name

def keepsApart (quoted : Bool) (name : Text) : Bool :=
  name == ['@'] || (name == ['*'] && !quoted)

def ofArguments (s : State) (quoted : Bool) (arguments : List Text) : List Atom :=
  let origin : Origin := if quoted then .quoted else .expanded
  if arguments.isEmpty then []
  else
    .opening quoted ::
      [Atom.boundary (joint s)].intercalate (arguments.map (Field.ofText origin))

def atoms (s : State) (quoted : Bool) (name : Text) : List Atom :=
  if keepsApart quoted name then ofArguments s quoted s.arguments
  else Field.ofExpansion (if quoted then .quoted else .expanded) ((text? s name).getD [])

end FormatService.Shell.Parameter
