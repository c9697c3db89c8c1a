import FormatService.Shell.Word

/-!
# Tokens of a script

A script is cut into words, operators, redirections and line ends. Some words make up the
structure of a script where a command may begin.
-/

set_option autoImplicit false

namespace FormatService.Shell

structure Lookout where
  /-- Whether line ends are passed over. -/
  lines : Bool
  keywords : Bool

namespace Lookout

def nothing : Lookout := ⟨false, false⟩

def command : Lookout := ⟨false, true⟩

def commandBelow : Lookout := ⟨true, true⟩

end Lookout

def keywords : List String :=
  ["!", "case", "do", "done", "elif", "else", "esac", "fi", "for", "if", "in", "then", "until",
    "while", "\x7b", "\x7d"]

namespace Reader

def skipBlanks : Nat → Reader Unit
  | 0 => return ()
  | n + 1 => do
    match ← peek with
    | some c =>
      if isBlank c then
        skip
        skipBlanks n
      else if c = '#' then modify fun s => { s with rest := s.rest.dropWhile (· != '\n') }
      else return ()
    | none => return ()

def arrow (first : Char) : Reader Arrow := do
  if first = '>' then
    if ← accepts '>' then return .append
    else if ← accepts '&' then return .duplicate
    else return .write
  else if ← accepts '<' then return .document (← accepts '-')
  else if ← accepts '&' then return .duplicate
  else return .read

def digit? : Word → Option Nat
  | [.char c false] => if c.isDigit then some (c.toNat - 48) else none
  | _ => none

variable (script : Reader Command)

def wordOrRedirection (n : Nat) (kind : Bare) : Reader Token := do
  let w := (← bare script n kind []).reverse
  match ← plainPeek with
  | some c =>
    if (c = '<' ∨ c = '>') ∧ (w.isEmpty ∨ (digit? w).isSome) then
      skip
      return .redirection ((digit? w).getD (if c = '<' then 0 else 1)) (← arrow c)
    else return .word w
  | none => return .word w

def operator (c : Char) : Reader Token := do
  skip
  let one := String.singleton c
  if c = '(' ∨ c = ')' then return .operator one
  else if ← accepts c then return .operator (one ++ one)
  else return .operator one

def written (n : Nat) (kind : Bare) : Reader Token := do
  skipBlanks n
  match ← peek with
  | none => return .finish
  | some '\n' =>
    skip
    return .newline
  | some c =>
    if c = '&' ∨ c = '|' ∨ c = ';' ∨ c = '(' ∨ c = ')' then operator c
    else wordOrRedirection script n kind

def keyword? (w : Word) : Option String :=
  w.plain?.bind fun t => keywords.find? fun k => k.toList == t

def token : Nat → Lookout → Reader Token
  | 0, _ => return .finish
  | n + 1, look => do
    match ← (← pop?).getDM (written script n .word) with
    | .newline =>
      if look.lines then
        documents script n
        token n look
      else return .newline
    | .word w =>
      match if look.keywords then keyword? w else none with
      | some k => return .keyword k
      | none => return .word w
    | t => return t

end Reader

end FormatService.Shell
