import FormatService.Shell.Parameter

/-!
# Expansion of words

What a word stands for: parameters are replaced by their values, scripts in
substitutions by what they write, and quotes are removed. How a script is run is
left open here.
-/

set_option autoImplicit false

namespace FormatService.Shell

/-- Work on a word. It may change the state, and it may end a command or the
whole script. -/
abbrev Expanding := StateT State (Except (State × Flow))

def Expanding.refuse {α : Type} (complaint : Text) : Expanding α := fun s =>
  .error (s.mistaken complaint)

def Expanding.assign (name value : Text) : Expanding Unit := fun s =>
  match s.assign name value with
  | .ok s => .ok ((), s)
  | .error complaint => .error (s.mistaken complaint)

namespace Expansion

/-- What is done with a word besides replacing parameters. -/
structure Manner where
  /-- Whether quotes surround the word. -/
  quoted : Bool
  /-- Whether unquoted characters of the word can separate fields. -/
  cuttable : Bool

namespace Manner

def word : Manner := ⟨false, false⟩

def document : Manner := ⟨true, false⟩

end Manner

def isSet (s : State) (colon : Bool) (name : Text) : Bool :=
  match Parameter.text? s name with
  | none => false
  | some t => !colon || !t.isEmpty

def known (name : Text) : Expanding Unit := do
  let s ← get
  if s.has 'u' && (Parameter.text? s name).isNone then
    Expanding.refuse (name ++ ": parameter not set".toList)

def arithmetic (t : Text) : Expanding Text := do
  let s ← get
  match Arithmetic.evaluate ⟨fun name => (s.value? name).getD [], s.isFixed⟩ t with
  | .ok (n, settings) =>
    set (settings.foldl (fun (s : State) (name, n) => s.setVariable name (toString n).toList) s)
    return (toString n).toList
  | .error f =>
    match f with
    | .illegalNumber value => Expanding.refuse ("Illegal number: ".toList ++ value)
    | .fixed name => Expanding.refuse (name ++ ": is read only".toList)
    | .tooLarge => fun s => .error (s, .gone 8)
    | f =>
      let cause := (f.message?.getD "").toList
      Expanding.refuse ("arithmetic expression: ".toList ++ cause ++ ": \"".toList ++ t ++ ['"'])

def quotedArguments? : Word → Option Word
  | .mark :: .parameter ['@'] .value _ :: .mark :: rest => some rest
  | _ => none

variable (substitute : Command → Expanding Text)

mutual

def atomsFrom : Nat → Manner → Bool → Word → Expanding (List Atom)
  | 0, _, _, _ => return []
  | _, _, _, [] => return []
  | n + 1, m, inQuotes, p :: w => do
    let quoted := m.quoted || inQuotes
    let s ← get
    match if inQuotes then none else quotedArguments? (p :: w) with
    | some rest =>
      return Parameter.atoms s true ['@'] ++ (← atomsFrom n m inQuotes rest)
    | none =>
      match p with
      | .mark => return .quotes :: (← atomsFrom n m (!inQuotes) w)
      | .char c isQuoted =>
        let origin : Origin :=
          if isQuoted then .quoted
          else if m.cuttable && !quoted then .expanded
          else .written
        return .char c origin :: (← atomsFrom n m inQuotes w)
      | .script body =>
        let text ← substitute body
        let found := Field.ofExpansion (if quoted then .quoted else .expanded) text
        return found ++ (← atomsFrom n m inQuotes w)
      | .arithmetic e =>
        let text := Field.textOf (← atomsFrom n .word false e)
        let found := Field.ofExpansion (if quoted then .quoted else .expanded) (← arithmetic text)
        return found ++ (← atomsFrom n m inQuotes w)
      | .parameter name question word =>
        let found ← answer n { m with quoted := quoted } name question word
        return found ++ (← atomsFrom n m inQuotes w)

/-- What is asked of a parameter. A pattern is left alone if there is nothing to trim. -/
def answer : Nat → Manner → Text → Question → Word → Expanding (List Atom)
  | 0, _, _, _, _ => return []
  | n + 1, m, name, question, word => do
    let s ← get
    let origin : Origin := if m.quoted then .quoted else .expanded
    let value := Parameter.atoms s m.quoted name
    let inner : Manner := { m with cuttable := true }
    match question with
    | .unknown => Expanding.refuse "Bad substitution".toList
    | .value =>
      known name
      return value
    | .length =>
      known name
      let length := ((Parameter.text? s name).getD []).length
      return Field.ofExpansion origin (toString length).toList
    | .otherwise colon => if isSet s colon name then return value else atomsFrom n inner false word
    | .instead colon => if isSet s colon name then atomsFrom n inner false word else return []
    | .assigned colon =>
      if isSet s colon name then return value
      else
        let text := Field.textOf (← atomsFrom n m false word)
        Expanding.assign name text
        return Parameter.atoms (← get) m.quoted name
    | .required colon =>
      if isSet s colon name then return value
      else
        let text := Field.textOf (← atomsFrom n m false word)
        let usual := if colon then "parameter not set or null" else "parameter not set"
        Expanding.refuse (name ++ ": ".toList ++ if word.isEmpty then usual.toList else text)
    | .trimmed front longest =>
      known name
      match Parameter.text? s name with
      | none => return []
      | some text =>
        let items := Pattern.items (Field.patternOf (← atomsFrom n .word false word))
        return Field.ofExpansion origin (if front then Pattern.trimFront longest items text
          else Pattern.trimBack longest items text)

end

mutual

def sizeOf : Word → Nat
  | [] => 1
  | p :: w => sizeOfPiece p + sizeOf w

def sizeOfPiece : Piece → Nat
  | .parameter _ _ word => 4 + sizeOf word
  | .arithmetic word => 4 + sizeOf word
  | _ => 2

end

def atoms (w : Word) : Expanding (List Atom) := atomsFrom substitute (sizeOf w + 2) .word false w

def text (w : Word) : Expanding Text := return Field.textOf (← atoms substitute w)

def documentText (w : Word) : Expanding Text :=
  return Field.textOf (← atomsFrom substitute (sizeOf w + 2) .document false w)

def items (w : Word) : Expanding (List PatternItem) :=
  return Pattern.items (Field.patternOf (← atoms substitute w))

def fields (w : Word) : Expanding (List Text) := do
  let atoms ← atoms substitute w
  let s ← get
  let cut := Field.cut s.separators none atoms
  if s.has 'f' then return cut.map Field.fieldText
  else return cut.flatMap (Field.paths s.world.files s.directory)

def allFields : List Word → Expanding (List Text)
  | [] => return []
  | w :: more => do
    let first ← fields substitute w
    return first ++ (← allFields more)

def splitSetting : Word → Text × Word
  | .char '=' false :: w => ([], w)
  | .char c _ :: w =>
    let (name, value) := splitSetting w
    (c :: name, value)
  | w => ([], w)

def setting (w : Word) : Expanding (Text × Text) := do
  let (name, value) := splitSetting w
  let found ← atoms substitute value
  return (name, Field.textOf found)

/-- The fields of an argument. Some commands take settings, which are not cut. -/
def argument (takesSettings : Bool) (w : Word) : Expanding (List Text) := do
  if takesSettings && w.isSetting then
    let (name, value) ← setting substitute w
    return [name ++ '=' :: value]
  else fields substitute w

def arguments (takesSettings : Bool) : List Word → Expanding (List Text)
  | [] => return []
  | w :: more => do
    let first ← argument substitute takesSettings w
    return first ++ (← arguments takesSettings more)

def firstFields : List Word → Expanding (List Text × List Word)
  | [] => return ([], [])
  | w :: more => do
    match ← fields substitute w with
    | [] => firstFields more
    | found => return (found, more)

/-! ### Redirections -/

def unopened {α : Type} (verb : String) (name : Text) (usual : String) (f : SystemFault) :
    Expanding α :=
  let cause := match f with
    | .missing | .notDirectory => usual
    | f => f.text
  Expanding.refuse (verb.toList ++ ' ' :: name ++ ": ".toList ++ cause.toList)

def feed (channel : Nat) (t : Text) : Expanding Unit := modify fun s =>
  let (world, id) := s.world.openSource t
  { s with world := world }.connect channel (.source id)

def openFile (channel : Nat) (access : Access) (name : Text) : Expanding Unit := do
  let s ← get
  match s.world.openAt s.links s.directory access name with
  | .ok (world, link) => set ({ s with world := world }.connect channel link)
  | .error f =>
    if access = .reading then unopened "cannot open" name "No such file" f
    else unopened "cannot create" name "Directory nonexistent" f

def duplicate (channel other : Nat) : Expanding Unit := do
  let s ← get
  match s.link? other with
  | some link => set (s.connect channel link)
  | none => Expanding.refuse ((toString other).toList ++ ": Bad file descriptor".toList)

def noChannel {α : Type} : Expanding α := do
  modify fun s => { s with line := s.reached }
  Expanding.refuse "Syntax error: Bad fd number".toList

def channelOf (w : Word) : Expanding Target := do
  match ← text substitute w with
  | ['-'] => return .nothing
  | [c] =>
    if c.isDigit then return .channel (c.toNat - 48)
    else noChannel
  | _ => noChannel

def settled (t : Target) : Expanding Target := do
  match t with
  | .read w => return .read (Word.quoted (← text substitute w))
  | .write w => return .write (Word.quoted (← text substitute w))
  | .append w => return .append (Word.quoted (← text substitute w))
  | .duplicate w => channelOf substitute w
  | t => return t

def settledAll : List Redirection → Expanding (List Redirection)
  | [] => return []
  | (channel, t) :: more => do
    let first ← settled substitute t
    return (channel, first) :: (← settledAll more)

def redirect (r : Redirection) : Expanding Unit := do
  let (channel, target) := r
  match target with
  | .read w => openFile channel .reading (Word.characters w)
  | .write w => openFile channel .writing (Word.characters w)
  | .append w => openFile channel .appending (Word.characters w)
  | .channel n => duplicate channel n
  | .nothing | .duplicate _ => modify fun s => s.disconnect channel
  | .document id =>
    let word := (((← get).documents.find? (·.1 == id)).map (·.2)).getD []
    feed channel (← documentText substitute word)

def redirectAll : List Redirection → Expanding Unit
  | [] => return ()
  | r :: more => do
    redirect substitute r
    redirectAll more

end Expansion

end FormatService.Shell
