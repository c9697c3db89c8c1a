import FormatService.Shell.Token

/-!
# Reading commands

Commands are read from a script by descent. Every step takes a token or goes down one
level, which bounds the reading. A script is read and run line by line: what cannot be
understood only matters when it is reached.
-/

set_option autoImplicit false

namespace FormatService.Shell

inductive Extent
  | line
  /-- At least one command, up to a token that closes the list. -/
  | body
  /-- Like a body, but there need not be a command. -/
  | script
  deriving DecidableEq, Repr

namespace Reader

def closes : Token → Bool
  | .finish => true
  | .operator symbol => symbol == ")" || symbol == ";;"
  | .keyword name => ["do", "done", "elif", "else", "esac", "fi", "then", "\x7d"].contains name
  | _ => false

def after (before : Option Command) (c : Command) : Command :=
  match before with
  | none => c
  | some b => .sequence b c

def channelTarget (w : Word) : Target :=
  match digit? w, w with
  | some n, _ => .channel n
  | none, [.char '-' false] => .nothing
  | none, _ => .duplicate w

def target (script : Reader Command) (n : Nat) (a : Arrow) : Reader Target := do
  let kind : Bare := match a with
    | .document _ => .delimiter
    | _ => .word
  match ← written script n kind with
  | .word w =>
    match a with
    | .read => return .read w
    | .write => return .write w
    | .append => return .append w
    | .duplicate => return channelTarget w
    | .document strips => return .document (← announce w.characters strips w.isQuoted)
  | t => unexpected t none

def redirections (script : Reader Command) : Nat → Reader (List Redirection)
  | 0 => return []
  | n + 1 => do
    match ← token script n .command with
    | .redirection channel a =>
      let r := (channel, ← target script n a)
      return r :: (← redirections script n)
    | t =>
      push t
      return []

structure Simple where
  settings : List Word
  words : List Word
  redirections : List Redirection

def simpleParts (script : Reader Command) : Nat → Simple → Reader (Simple × Token)
  | 0, parts => return (parts, .finish)
  | n + 1, parts => do
    match ← token script n .nothing with
    | .word w =>
      if parts.words.isEmpty && w.isSetting then
        simpleParts script n { parts with settings := w :: parts.settings }
      else simpleParts script n { parts with words := w :: parts.words }
    | .redirection channel a =>
      let r := (channel, ← target script n a)
      simpleParts script n { parts with redirections := r :: parts.redirections }
    | t => return (parts, t)

def loopWords (script : Reader Command) : Nat → List Word → Reader (List Word × Token)
  | 0, ws => return (ws.reverse, .finish)
  | n + 1, ws => do
    match ← token script n .nothing with
    | .word w => loopWords script n (w :: ws)
    | t => return (ws.reverse, t)

/-- The patterns of a case after a token that has been read. Any token is taken for a
pattern; one that is no word stands for the last word before it. -/
def patterns (script : Reader Command) : Nat → Word → Token → Reader (List Word)
  | 0, _, t => unexpected t none
  | n + 1, last, t => do
    let w := match t with
      | .word w => w
      | .keyword k => k.toList.map fun c => .char c false
      | _ => last
    match ← token script n .nothing with
    | .operator "|" => return w :: (← patterns script n w (← token script n .nothing))
    | .operator ")" => return [w]
    | t => unexpected t (some "\")\"")

mutual

def list : Nat → Extent → Option Command → Reader (Option Command)
  | 0, _, _ => refuse (.unexpected Token.finish.name none)
  | n + 1, extent, before => do
    let script := do return ((← list n .script none).getD .nothing)
    let isLine := extent = .line
    match ← token script n { Lookout.command with lines := !isLine } with
    | .newline =>
      documents script n
      return some (before.getD .nothing)
    | .finish =>
      documents script n
      push .finish
      return if isLine then before else some (before.getD .nothing)
    | t =>
      push t
      if closes t && (extent = .script || (extent = .body && before.isSome)) then
        return some (before.getD .nothing)
      else
        let found := after before (← andOr n)
        match ← token script n .nothing with
        | .finish =>
          documents script n
          push .finish
          return some found
        | .newline =>
          push .newline
          list n extent (some found)
        | .operator ";" => list n extent (some found)
        | t =>
          if isLine then unexpected t none
          else
            push t
            return some found

def body : Nat → Reader Command
  | 0 => refuse (.unexpected Token.finish.name none)
  | n + 1 => return ((← list n .body none).getD .nothing)

def andOr : Nat → Reader Command
  | 0 => refuse (.unexpected Token.finish.name none)
  | n + 1 => do andOrAfter n (← pipeline n .nothing)

def andOrAfter : Nat → Command → Reader Command
  | 0, c => return c
  | n + 1, first => do
    let script := do return ((← list n .script none).getD .nothing)
    match ← token script n .nothing with
    | .operator "&&" => andOrAfter n (.both first (← pipeline n .commandBelow))
    | .operator "||" => andOrAfter n (.either first (← pipeline n .commandBelow))
    | t =>
      push t
      return first

def pipeline : Nat → Lookout → Reader Command
  | 0, _ => refuse (.unexpected Token.finish.name none)
  | n + 1, look => do
    let script := do return ((← list n .script none).getD .nothing)
    let t ← token script n look
    let negated := if let .keyword "!" := t then true else false
    if !negated then push t
    let first ← command n (if negated then .command else .nothing)
    let parts ← pipelineAfter n [first]
    let c := match parts with
      | [c] => c
      | parts => .pipeline parts
    return if negated then .negation c else c

def pipelineAfter : Nat → List Command → Reader (List Command)
  | 0, parts => return parts.reverse
  | n + 1, parts => do
    let script := do return ((← list n .script none).getD .nothing)
    match ← token script n .nothing with
    | .operator "|" => pipelineAfter n ((← command n .commandBelow) :: parts)
    | t =>
      push t
      return parts.reverse

def command : Nat → Lookout → Reader Command
  | 0, _ => refuse (.unexpected Token.finish.name none)
  | n + 1, look => do
    let script := do return ((← list n .script none).getD .nothing)
    let line := (← get).line
    match ← token script n look with
    | .keyword "if" => finished n line (← conditional n)
    | .keyword "while" => finished n line (.loop true (← body n) (← block n))
    | .keyword "until" => finished n line (.loop false (← body n) (← block n))
    | .keyword "for" => finished n line (← iteration n line)
    | .keyword "case" => finished n line (← selection n line)
    | .operator "(" =>
      let c ← body n
      expect n (.operator ")")
      let rs ← redirections script n
      return .subshell line c rs
    | .keyword "\x7b" =>
      let c ← body n
      expect n (.keyword "\x7d")
      finished n line c
    | .word w =>
      push (.word w)
      simple n
    | .redirection channel a =>
      push (.redirection channel a)
      simple n
    | t => unexpected t none

/-- A command with the redirections behind it. Those behind braces take the place of those
behind a single subshell between them. -/
def finished : Nat → Nat → Command → Reader Command
  | 0, _, c => return c
  | n + 1, line, c => do
    let script := do return ((← list n .script none).getD .nothing)
    let rs ← redirections script n
    return if rs.isEmpty then c
      else match c with
        | .subshell line body _ => .subshell line body rs
        | c => .redirected line c rs

def expect : Nat → Token → Reader Unit
  | 0, wanted => unexpected .finish (some wanted.name)
  | n + 1, wanted => do
    let script := do return ((← list n .script none).getD .nothing)
    let t ← token script n .nothing
    if t.name ≠ wanted.name then unexpected t (some wanted.name)

def block : Nat → Reader Command
  | 0 => refuse (.unexpected Token.finish.name none)
  | n + 1 => do
    expect n (.keyword "do")
    let c ← body n
    expect n (.keyword "done")
    return c

def conditional : Nat → Reader Command
  | 0 => refuse (.unexpected Token.finish.name none)
  | n + 1 => do
    let script := do return ((← list n .script none).getD .nothing)
    let condition ← body n
    expect n (.keyword "then")
    let yes ← body n
    match ← token script n .nothing with
    | .keyword "elif" => return .choice condition yes (← conditional n)
    | .keyword "else" =>
      let no ← body n
      expect n (.keyword "fi")
      return .choice condition yes no
    | t =>
      push t
      expect n (.keyword "fi")
      return .choice condition yes .nothing

def iteration : Nat → Nat → Reader Command
  | 0, _ => refuse .badLoopName
  | n + 1, line => do
    let script := do return ((← list n .script none).getD .nothing)
    let name ← do
      match ← token script n .nothing with
      | .word w =>
        match w.plain? with
        | some name => if isName name then pure name else refuse .badLoopName
        | none => refuse .badLoopName
      | _ => refuse .badLoopName
    let words ← do
      match ← token script n .commandBelow with
      | .keyword "in" =>
        match ← loopWords script n [] with
        | (ws, .newline) | (ws, .operator ";") => pure ws
        | (_, t) => unexpected t none
      | t =>
        if t.name ≠ Token.name (.operator ";") then push t
        pure [[.mark, .parameter ['@'] .value [], .mark]]
    match ← token script n .commandBelow with
    | .keyword "do" =>
      let c ← body n
      expect n (.keyword "done")
      return .each line name words c
    | t => unexpected t (some (Token.name (.keyword "do")))

def selection : Nat → Nat → Reader Command
  | 0, _ => refuse (.unexpected Token.finish.name none)
  | n + 1, line => do
    let script := do return ((← list n .script none).getD .nothing)
    match ← token script n .nothing with
    | .word w =>
      match ← token script n .commandBelow with
      | .keyword "in" => return .select line w (← cases n w)
      | t => unexpected t (some (Token.name (.keyword "in")))
    | t => unexpected t (some "word")

def cases : Nat → Word → Reader (List (List Word × Command))
  | 0, _ => return []
  | n + 1, last => do
    let script := do return ((← list n .script none).getD .nothing)
    match ← token script n .commandBelow with
    | .keyword "esac" => return []
    | t =>
      let t ← if let .operator "(" := t then token script n .nothing else pure t
      let ps ← patterns script n last t
      let c := (← list n .script none).getD .nothing
      match ← token script n .commandBelow with
      | .keyword "esac" => return [(ps, c)]
      | .operator ";;" => return (ps, c) :: (← cases n (ps.getLastD last))
      | t => unexpected t (some (Token.name (.operator ";;")))

def simple : Nat → Reader Command
  | 0 => refuse (.unexpected Token.finish.name none)
  | n + 1 => do
    let script := do return ((← list n .script none).getD .nothing)
    let line := (← get).line
    let (parts, t) ← simpleParts script n ⟨[], [], []⟩
    match t, parts.words, parts.settings, parts.redirections with
    | .operator "(", [w], [], [] =>
      expect n (.operator ")")
      let name := w.plain?.getD []
      if isName name && !specialBuiltins.contains (String.ofList name) then
        return .define name (← command n .commandBelow)
      else refuse .badFunctionName
    | t, _, _, _ =>
      push t
      return .simple line parts.settings.reverse parts.words.reverse parts.redirections.reverse

end

end Reader

def Source.ofText (t : Text) (next : Nat) : Source := ⟨t, 1, none, [], [], next⟩

namespace Source

def bound (s : Source) : Nat := 10 * (s.rest.length + 1) + 100

def line? (s : Source) : Except SyntaxFault (Option Command × Source) :=
  (Reader.list s.bound .line none).run { s with pushed := none, awaited := [] }

def isAtEnd (s : Source) : Bool :=
  match s.pushed with
  | some .finish => true
  | _ => false

def document? (t : Text) : Except SyntaxFault Word :=
  let s := Source.ofText t 0
  let script := do return ((← Reader.list s.bound .script none).getD .nothing)
  let all : Awaited := ⟨0, ['\n'], false, false⟩
  (·.1.reverse) <$> (Reader.doubled script s.bound (.document all) false false []).run s

end Source

end FormatService.Shell
