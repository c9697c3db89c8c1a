import FormatService.Text.Basic

/-!
# Texts without terminal controls

Messages that quote what a user has typed are printed without escape sequences
and control characters, so that they cannot drive the terminal. Line breaks and
tabs stay.
-/

set_option autoImplicit false

namespace FormatService.Text

/-- What kind of sequence the next character belongs to. -/
inductive Sequence
  | none
  /-- After the escape character. -/
  | escape
  /-- After the escape character and an intermediate one. -/
  | intermediate
  /-- A control sequence, up to its final character. -/
  | control
  /-- A command to the operating system, up to a bell. -/
  | command
  /-- The start of a string for a device, where a mark of privacy may stand. -/
  | opening
  /-- The parameters in front of a string for a device. -/
  | parameters
  /-- Intermediate characters in front of a string for a device. -/
  | selector
  /-- A string for a device, up to the code that ends a string. -/
  | device
  deriving DecidableEq, Repr

namespace Sequence

def isSpacing (c : Char) : Bool := c == '\t' || c == '\n' || c == '\x0c' || c == '\r'

def isControl (c : Char) : Bool := c.toNat < 32 || c == '\x7f'

def endsDevice (c : Char) : Bool := (String.singleton c).toUTF8.toList.contains 156

def next (s : Sequence) (c : Char) : Sequence :=
  match s with
  | none => none
  | escape =>
    if isControl c || 127 < c.toNat then escape
    else if c.toNat < 48 then intermediate
    else if c = '[' then control
    else if c = ']' then command
    else if c = 'P' then opening
    else if c = 'X' ∨ c = '^' ∨ c = '_' then device
    else none
  | intermediate => if 48 ≤ c.toNat && c.toNat < 127 then none else intermediate
  | control => if 64 ≤ c.toNat && c.toNat < 127 then none else control
  | command => if c = '\x07' then none else command
  | opening =>
    if isControl c || 127 < c.toNat then opening
    else if c.toNat < 48 then selector
    else if c.toNat < 64 then parameters
    else device
  | parameters =>
    if isControl c || 127 < c.toNat then parameters
    else if c.toNat < 48 then selector
    else if c.toNat < 60 then parameters
    else device
  | selector => if 48 ≤ c.toNat && c.toNat < 127 then device else selector
  | device => if endsDevice c then none else device

def allowsSpacing : Sequence → Bool
  | command | opening | parameters | selector | device => false
  | _ => true

end Sequence

def plainWithin : Sequence → Text → Text
  | _, [] => []
  | s, c :: t =>
    if c = '\x1b' then plainWithin .escape t
    else if c = '\x18' ∨ c = '\x1a' then plainWithin .none t
    else if s.allowsSpacing && Sequence.isSpacing c then c :: plainWithin .none t
    else if s = .none then
      if Sequence.isControl c then plainWithin .none t else c :: plainWithin .none t
    else plainWithin (s.next c) t

def plain (t : Text) : Text := plainWithin .none t

end FormatService.Text
