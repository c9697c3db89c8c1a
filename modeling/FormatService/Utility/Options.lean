import FormatService.Text.Basic

/-!
# Options of utilities

A utility knows options of one letter, which can be put together behind a hyphen. Other words
may stand between them; two hyphens alone end the options.
-/

set_option autoImplicit false

namespace FormatService.Utility

/-- The letters of options that stand alone, and of those that a text belongs to. -/
structure Known where
  plain : Text
  valued : Text

inductive OptionFault
  | unknownLetter (c : Char)
  | noText (c : Char)
  | unknownName (name : Text)
  deriving DecidableEq, Repr

def OptionFault.message : OptionFault → Text
  | unknownLetter c => ("invalid option -- '" ++ String.singleton c ++ "'").toList
  | noText c => ("option requires an argument -- '" ++ String.singleton c ++ "'").toList
  | unknownName name => "unrecognized option '--".toList ++ name ++ ['\'']

/-- The options with their texts, in order, and the other words. -/
structure Given where
  options : List (Char × Text)
  words : List Text
  deriving DecidableEq, Repr

def Given.has (g : Given) (c : Char) : Bool := g.options.any (·.1 == c)

/-- Letters that have been put together, and whether the next word belongs to the last
of them. -/
def letters (known : Known) : Text → Except OptionFault (List (Char × Text) × Option Char)
  | [] => .ok ([], none)
  | c :: t =>
    if known.valued.contains c then
      if t.isEmpty then .ok ([], some c) else .ok ([(c, t)], none)
    else if known.plain.contains c then
      (letters known t).map fun (os, waits) => ((c, []) :: os, waits)
    else .error (.unknownLetter c)

def given (known : Known) : List Text → Except OptionFault Given
  | [] => .ok ⟨[], []⟩
  | ['-', '-'] :: ws => .ok ⟨[], ws⟩
  | ('-' :: '-' :: name) :: _ => .error (.unknownName name)
  | ('-' :: c :: w) :: ws => do
    let (options, waits) ← letters known (c :: w)
    match waits, ws with
    | none, ws =>
      let g ← given known ws
      return { g with options := options ++ g.options }
    | some c, [] => .error (.noText c)
    | some c, t :: ws =>
      let g ← given known ws
      return { g with options := options ++ (c, t) :: g.options }
  | w :: ws => do
    let g ← given known ws
    return { g with words := w :: g.words }

end FormatService.Utility
