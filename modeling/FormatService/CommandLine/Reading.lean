import FormatService.Text.Similar
import FormatService.CommandLine.Shape
import FormatService.CommandLine.Halt

/-!
# Reading the arguments of a command

Arguments are read one at a time. A parameter collects its values and is settled
when the next one begins or the arguments end; only then is it checked. The
first thing that is wrong stops the reading.
-/

set_option autoImplicit false

namespace FormatService.CommandLine

/-- The parameters given to a command with their values, in the order in which
they first appeared. -/
abbrev Given := List (Parameter × List Text)

namespace Given

def values (g : Given) (p : Parameter) : List Text :=
  ((g.find? fun (q, _) => q == p).map (·.2)).getD []

def has (g : Given) (p : Parameter) : Bool := g.any fun (q, _) => q == p

def names (g : Given) : List Parameter := g.map (·.1)

def without (g : Given) (p : Parameter) : Given := g.filter fun (q, _) => q != p

def add (p : Parameter) (values : List Text) : Given → Given
  | [] => [(p, values)]
  | (q, old) :: g => if q = p then (q, old ++ values) :: g else (q, old) :: add p values g

end Given

structure Progress where
  given : Given
  /-- The parameter that collects values. An option that has none yet awaits one. -/
  pending : Option (Parameter × List Text)
  /-- Whether two dashes have been read, so that only values follow. -/
  onlyValues : Bool
  deriving DecidableEq, Repr

namespace Progress

def start : Progress := ⟨[], none, false⟩

def awaiting? (s : Progress) : Option Parameter :=
  match s.pending with
  | some (p, []) => some p
  | _ => none

end Progress

def misuse {α : Type} (c : Command) (cause : Cause) (tip : Option Tip) (used : List Parameter) :
    Except Halt α := .error (.misuse ⟨c, cause, tip, used⟩)

def check (c : Command) (p : Parameter) (values : List Text) (g : Given) : Except Halt Given :=
  if (p.takesValue || p.isPositional) && values.isEmpty then misuse c (.missingValue p) none []
  else if p = .help then .error (.help c)
  else if p = .version then .error .version
  else if !p.repeats && g.has p then misuse c (.repeated p) none []
  else .ok (g.add p values)

def settle (c : Command) (s : Progress) : Except Halt Progress :=
  match s.pending with
  | none => .ok s
  | some (p, values) => (check c p values s.given).map fun g => { s with given := g, pending := none }

/-- What counts as given when something else is wrong. A parameter that was given
twice does not count. -/
def salvaged (c : Command) (s : Progress) : Given :=
  match s.pending with
  | none => s.given
  | some (p, values) =>
    match check c p values s.given with
    | .ok g => g
    | .error _ => if values.isEmpty then s.given else s.given.without p

def accept (c : Command) (p : Parameter) (values : List Text) (s : Progress) :
    Except Halt Progress := do
  let s ← settle c s
  let g ← check c p values s.given
  return { s with given := g }

def await (c : Command) (p : Parameter) (s : Progress) : Except Halt Progress := do
  let s ← settle c s
  return { s with pending := some (p, []) }

def nearest? (rest : List Text) (found : List (Command × Parameter)) : Option (Command × Parameter) :=
  rest.findSome? fun word => found.find? fun (c, _) => word == c.name.toList

def optionTip? (c : Command) (name : Text) (rest : List Text) : Option Tip :=
  match Text.mostSimilar? Parameter.name c.options name with
  | some p => some (.parameter p)
  | none =>
    let found := c.commands.filterMap fun sub =>
      (Text.mostSimilar? Parameter.name sub.options name).map fun p => (sub, p)
    match nearest? rest found with
    | some (sub, p) => some (.parameterOf sub p)
    | none => if c.takesFiles then some (.asValue ('-' :: '-' :: name)) else none

def suggested : Option Tip → List Parameter
  | some (.parameter p) => [p]
  | _ => []

def readLong (c : Command) (name : Text) (value : Option Text) (rest : List Text) (s : Progress) :
    Except Halt Progress :=
  match c.option? name, value with
  | some p, some value =>
    if p.takesValue then accept c p [value] s
    else misuse c (.surplusValue p value) none (s.given.names ++ [p])
  | some p, none => if p.takesValue then await c p s else accept c p [] s
  | none, _ =>
    let tip := optionTip? c name rest
    misuse c (.unexpected ('-' :: '-' :: name)) tip ((salvaged c s).names ++ suggested tip)

def attached? : Text → Option Text
  | [] => none
  | '=' :: t => some t
  | t => some t

/-- Reads the letters after one dash. What follows the letter of an option is its value. -/
def readLetters (c : Command) : Text → Progress → Except Halt Progress
  | [], s => .ok s
  | letter :: t, s =>
    match c.letter? letter with
    | none =>
      let tip := if c.takesFiles then some (.asValue ['-', letter]) else none
      misuse c (.unexpected ['-', letter]) tip []
    | some p =>
      if !p.takesValue then do
        let s ← accept c p [] s
        readLetters c t s
      else
        match attached? t with
        | some value => accept c p [value] s
        | none => await c p s

def commandTip? (c : Command) (word : Text) : Option Tip :=
  match Text.similar Command.name c.commands word with
  | [] => none
  | similar => some (.commands similar)

def refuse {α : Type} (c : Command) (word : Text) (s : Progress) : Except Halt α :=
  match if s.onlyValues then c.command? word else none with
  | some sub => misuse c (.unexpected word) (some (.withoutDashes sub)) []
  | none =>
    if c.commands.isEmpty then misuse c (.unexpected word) none []
    else misuse c (.unknownCommand word) (commandTip? c word) []

def readPositional (c : Command) (word : Text) (s : Progress) : Except Halt Progress :=
  if c.takesFiles then
    match s.pending with
    | some (.files, values) => .ok { s with pending := some (.files, values ++ [word]) }
    | _ => do
      let s ← settle c s
      return { s with pending := some (.files, [word]) }
  else refuse c word s

def readWord (c : Command) (word : Text) (s : Progress) : Except Halt Progress :=
  match s.awaiting? with
  | some p => .ok { s with pending := some (p, [word]) }
  | none => readPositional c word s

def readArgument (c : Command) (argument : Text) (rest : List Text) (s : Progress) :
    Except Halt Progress :=
  if s.onlyValues then readPositional c argument s
  else
    match Shape.ofText argument with
    | .escape => .ok { s with onlyValues := true }
    | .long name value => readLong c name value rest s
    | .letters first t => readLetters c (first :: t) s
    | .word => readWord c argument s

def commandAt? (c : Command) (argument : Text) (s : Progress) : Option Command :=
  if s.onlyValues || s.awaiting?.isSome then none else c.command? argument

def read (c : Command) : List Text → Progress → Except Halt (Progress × Option (Command × List Text))
  | [], s => .ok (s, none)
  | argument :: rest, s =>
    match commandAt? c argument s with
    | some sub => .ok (s, some (sub, rest))
    | none => do
      let s ← readArgument c argument rest s
      read c rest s

def rivals? (g : Given) : Option (Parameter × Parameter) :=
  g.names.findSome? fun p => (p.rival?.filter g.has).map fun rival => (p, rival)

def lacksFiles (c : Command) (g : Given) : Bool :=
  c.takesFiles && !g.has .files && !g.has .stdin

def conclude (c : Command) (s : Progress) : Except Halt Given := do
  let s ← settle c s
  match rivals? s.given with
  | some (p, rival) => misuse c (.together p rival) none (s.given.without rival).names
  | none =>
    if lacksFiles c s.given then misuse c .missingFiles none (s.given.names ++ [.files])
    else return s.given

def helpFor (c : Command) : List Text → Halt
  | [] => .help c
  | word :: rest =>
    match c.command? word with
    | some sub => helpFor sub rest
    | none => .misuse ⟨c, .unknownCommand word, none, []⟩

/-- A command with what was given before and after its name. -/
structure Reading where
  command : Command
  before : Given
  after : Given
  deriving DecidableEq, Repr

/-- Reads all arguments. What follows the name of the command is checked first. -/
def readAll (arguments : List Text) : Except Halt Reading := do
  let (s, named) ← read .root arguments .start
  match named with
  | none =>
    let _ ← settle .root s
    misuse .root .missingCommand none []
  | some (.help, rest) => .error (helpFor .root rest)
  | some (command, rest) =>
    let (t, _) ← read command rest .start
    let after ← conclude command t
    let before ← conclude .root s
    return ⟨command, before, after⟩

namespace Reading

def flag (r : Reading) (p : Parameter) : Bool := r.before.has p || r.after.has p

def value? (r : Reading) (p : Parameter) : Option Text :=
  ((r.after.values p).head?).or (r.before.values p).head?

end Reading

end FormatService.CommandLine
