import FormatService.Shell.Builtin.Variable

/-!
# Options of a script

Every option has a name and a letter. The same words set options when a script is started and
while it runs.
-/

set_option autoImplicit false

namespace FormatService.Shell

namespace Setting

def table : List (String × Char) :=
  [("errexit", 'e'), ("noglob", 'f'), ("stdin", 's'), ("xtrace", 'x'), ("nounset", 'u')]

def turn (options : Text) (c : Char) (on : Bool) : Text :=
  let rest := options.filter (· != c)
  if on then c :: rest else rest

def letter? (name : Text) : Option Char :=
  (table.find? fun (n, _) => n.toList == name).map (·.2)

/-- What options come to: those that are set, whether the script is an argument itself, and
the words that are left. -/
structure Outcome where
  options : Text
  inLine : Bool
  words : List Text

def ofLetters (atStart on : Bool) : Text → Outcome → Except Text Outcome
  | [], o => .ok o
  | c :: t, o =>
    if c = 'c' ∧ atStart then ofLetters atStart on t { o with inLine := true }
    else if c = 'o' then
      match o.words with
      | [] => ofLetters atStart on t o
      | name :: words =>
        match letter? name with
        | some d => ofLetters atStart on t { o with options := turn o.options d on, words := words }
        | none => .error ("Illegal option -o ".toList ++ name)
    else if table.any (·.2 == c) then
      ofLetters atStart on t { o with options := turn o.options c on }
    else .error ("Illegal option -".toList ++ [c])

/-- Sets options up to the first word that is none; nothing is left where arguments are
to be kept. -/
def ofWords (atStart : Bool) : Nat → Outcome → Except Text (Outcome × Bool)
  | 0, o => .ok (o, false)
  | n + 1, o =>
    match o.words with
    | ['-'] :: ws =>
      let o := { o with words := ws }
      if atStart then .ok (o, false)
      else .ok ({ o with options := turn o.options 'x' false }, false)
    | ['-', '-'] :: ws => .ok ({ o with words := ws }, true)
    | ('-' :: t) :: ws => do ofWords atStart n (← ofLetters atStart true t { o with words := ws })
    | ('+' :: t) :: ws => do ofWords atStart n (← ofLetters atStart false t { o with words := ws })
    | _ => .ok (o, false)

end Setting

namespace Builtin

/-- Sets options and arguments. Two dashes take the arguments away if nothing follows them. -/
def set : Builtin := fun ws s =>
  match Setting.ofWords false (ws.length + 1) ⟨s.options, false, ws⟩ with
  | .error complaint => s.mistaken complaint
  | .ok (o, closed) =>
    let s := { s with options := o.options }
    done (if o.words.isEmpty && !closed then s else { s with arguments := o.words })

end Builtin

end FormatService.Shell
