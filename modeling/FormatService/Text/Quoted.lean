import FormatService.Text.Basic
import FormatService.Text.Unseen

/-!
# Quoted texts

A text in double quotes on one line. Quotes and backslashes are escaped, line
breaks, tabs and the zero character have short escapes, and a character that
would not be seen is given by its code point.
-/

set_option autoImplicit false

namespace FormatService.Text

def codePoint (c : Char) : List Char :=
  ['\\', 'u', '\x7b'] ++ Nat.toDigits 16 c.toNat ++ ['\x7d']

def escape (c : Char) : List Char :=
  if c = '"' then ['\\', '"']
  else if c = '\\' then ['\\', '\\']
  else if c = '\n' then ['\\', 'n']
  else if c = '\r' then ['\\', 'r']
  else if c = '\t' then ['\\', 't']
  else if c = '\x00' then ['\\', '0']
  else if isUnseen c then codePoint c
  else [c]

def quoted (t : Text) : Text := '"' :: t.flatMap escape ++ ['"']

end FormatService.Text
