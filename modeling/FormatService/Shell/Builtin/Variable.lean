import FormatService.Shell.Builtin.Basic
import FormatService.Shell.Field

/-!
# Commands for variables
-/

set_option autoImplicit false

namespace FormatService.Shell.Builtin

def assignment (w : Text) : Text × Option Text :=
  (w.takeWhile (· != '='), (w.dropWhile (· != '=')).tail?)

def marking (mark : State → Text → State) : List Text → State → State × Flow
  | [], s => done s
  | w :: ws, s =>
    match assignment w with
    | (name, some value) => setting name value s fun s => marking mark ws (mark s name)
    | (name, none) =>
      if (s.find? name).isSome || isName name then marking mark ws (mark s name)
      else s.mistaken (name ++ ": bad variable name".toList)

def publish : Builtin := taking "" "" fun g => marking State.exportVariable g.words

def fix : Builtin := taking "" "" fun g => marking State.fixVariable g.words

def confining : List Text → State → State × Flow
  | [], s => done s
  | w :: ws, s =>
    let (name, value) := assignment w
    let known := s.find? name
    let s := s.remember name
    match value with
    | some value => setting name value s (confining ws)
    | none =>
      if known.isSome then confining ws s
      else if isName name then confining ws (s.put ⟨name, none, false, false⟩)
      else s.mistaken (name ++ ": bad variable name".toList)

def confine : Builtin := taking "" "" fun g s =>
  if s.frames.isEmpty then s.mistaken "not in a function".toList else confining g.words s

def unsetting : List Text → State → State × Flow
  | [], s => done s
  | w :: ws, s =>
    match s.unset (assignment w).1 with
    | .ok s => unsetting ws s
    | .error complaint => s.mistaken complaint

def unset : Builtin := taking "vf" "" fun g s =>
  if (g.options.getLast?.map (·.1)) = some 'f' then
    done { s with functions := s.functions.filter fun (name, _) => !g.words.contains name }
  else unsetting g.words s

def shift : Builtin := fun ws s =>
  numberOr 1 ws s fun n =>
    if n ≤ s.arguments.length then
      done { s with arguments := s.arguments.drop n }
    else s.mistaken "can't shift that many".toList

/-! ### Reading a line -/

/-- A line that has been read, and what is left of the input after its end, if it has
one. A backslash takes away what the character behind it means, and joins lines, unless
backslashes are like other characters. -/
def lineOf (plain : Bool) : Text → List Atom × Option Text
  | [] => ([], none)
  | '\n' :: t => ([], some t)
  | '\x00' :: t => lineOf plain t
  | '\\' :: '\n' :: t =>
    if plain then ([.char '\\' .expanded], some t)
    else
      let (atoms, rest) := lineOf plain t
      (.opening false :: atoms, rest)
  | '\\' :: c :: t =>
    let (atoms, rest) := lineOf plain t
    if plain then (.char '\\' .expanded :: .char c .expanded :: atoms, rest)
    else (.char c .quoted :: .opening false :: atoms, rest)
  | c :: t =>
    let (atoms, rest) := lineOf plain t
    (if c = '\\' ∧ plain = false then atoms else .char c .expanded :: atoms, rest)

def distribute (status : Nat) : List Text → List Text → State → State × Flow
  | [], _, s => ends status s
  | name :: names, fields, s =>
    setting name (fields.headD []) s (distribute status names (fields.drop 1))

def read : Builtin := taking "r" "p" fun g s =>
  if g.words.isEmpty then s.mistaken "arg count".toList
  else
    let (atoms, rest) := lineOf (g.has 'r') (s.world.textLeft (s.link 0))
    let room := some (g.words.length - 1)
    let fields := (Field.cut s.separators room (.opening false :: atoms)).map Field.fieldText
    let s := { s with world := s.world.leave (s.link 0) (rest.getD []) }
    distribute (if rest.isSome then 0 else 1) g.words fields s

end FormatService.Shell.Builtin
