import FormatService.Text.Basic

/-!
# Writing JSON strings

Quotes and backslashes are escaped, control characters have short escapes or are
given by their code point, and all else is written as it is.
-/

set_option autoImplicit false

namespace FormatService.Json

def hexChar (n : Nat) : Char := Nat.digitChar n

def escapeChar (c : Char) : List Char :=
  if c = '"' then ['\\', '"']
  else if c = '\\' then ['\\', '\\']
  else if c = '\x08' then ['\\', 'b']
  else if c = '\x0c' then ['\\', 'f']
  else if c = '\n' then ['\\', 'n']
  else if c = '\r' then ['\\', 'r']
  else if c = '\t' then ['\\', 't']
  else if c.toNat < 0x20 then ['\\', 'u', '0', '0', hexChar (c.toNat / 16), hexChar (c.toNat % 16)]
  else [c]

def printString (t : Text) : Text := '"' :: t.flatMap escapeChar ++ ['"']

end FormatService.Json
