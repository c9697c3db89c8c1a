import FormatService.Shell.State
import FormatService.Shell.Arithmetic

/-!
# Conditions

What the test command of a script answers: comparisons of texts and numbers, and
questions about files, combined with `!`, `-a`, `-o` and parentheses. Words are read from
the left; a word that could be a question is an operand where it stands before a
comparison.
-/

set_option autoImplicit false

namespace FormatService.Shell.Condition

inductive Sign
  | operand
  | finish
  | opening
  | closing
  | negation
  | both
  | either
  | question
  | comparison
  deriving DecidableEq, Repr

def questions : List String :=
  ["-r", "-w", "-x", "-e", "-f", "-d", "-s", "-z", "-n"]

def comparisons : List String :=
  ["=", "!=", "-eq", "-ne", "-ge", "-gt", "-le", "-lt"]

def sign? (word : Text) : Option Sign :=
  let w := String.ofList word
  if questions.contains w then some .question
  else if comparisons.contains w then some .comparison
  else match w with
    | "!" => some .negation
    | "-a" => some .both
    | "-o" => some .either
    | "(" => some .opening
    | ")" => some .closing
    | _ => none

def sign (ws : List Text) : Sign :=
  match ws with
  | [] => .finish
  | w :: rest =>
    match sign? w with
    | none => .operand
    | some .question =>
      match rest with
      | [] => .operand
      | next :: _ :: _ => if sign? next = some .comparison then .operand else .question
      | _ => .question
    | some .opening => if rest.isEmpty then .operand else .opening
    | some s => s

/-- The words from the current one on; what is wrong with them. -/
abbrev Judging := StateT (List Text) (Except Text)

def fail {α : Type} (t : Text) : Judging α := fun _ => .error t

def advance (n : Nat) : Judging Unit := modify fun ws => ws.drop n

def number (t : Text) : Judging Int := fun ws =>
  match Arithmetic.decimal? t with
  | some n => .ok (n, ws)
  | none => .error ("Illegal number: ".toList ++ t)

def answer (s : State) (question word : Text) : Judging Bool := do
  let found := (s.contentAt word).toOption
  match String.ofList question with
  | "-n" => return !word.isEmpty
  | "-z" => return word.isEmpty
  | "-e" | "-r" | "-w" => return found.isSome
  | "-d" => return found == some .directory
  | "-f" => return match found with
    | some (.file ..) | some (.program _) => true
    | _ => false
  | "-s" => return match found with
    | some (.file bytes _) => !bytes.isEmpty
    | some (.program _) | some .directory => true
    | _ => false
  | "-x" => return found.any fun c => FileTree.isRunnable c || c == .directory
  | _ => return false

def compared (a comparison b : Text) : Judging Bool := do
  let numbers (holds : Int → Int → Bool) : Judging Bool := do
    let m ← number a
    return holds m (← number b)
  match String.ofList comparison with
  | "=" => return a == b
  | "!=" => return a != b
  | "-eq" => numbers fun m n => m == n
  | "-ne" => numbers fun m n => m != n
  | "-lt" => numbers fun m n => m < n
  | "-le" => numbers fun m n => m ≤ n
  | "-gt" => numbers fun m n => n < m
  | "-ge" => numbers fun m n => n ≤ m
  | _ => return false

variable (s : State)

mutual

/-- Conditions of which one has to hold, from a word with a meaning on. Afterwards the
current word is the last one that belongs to them. -/
def either : Nat → Sign → Judging Bool
  | 0, _ => return false
  | n + 1, sign₁ => do
    let a ← both n sign₁
    if sign ((← get).drop 1) ≠ .either then return a
    advance 2
    let b ← either n (sign (← get))
    return a || b

def both : Nat → Sign → Judging Bool
  | 0, _ => return false
  | n + 1, sign₁ => do
    let a ← negated n sign₁
    if sign ((← get).drop 1) ≠ .both then return a
    advance 2
    let b ← both n (sign (← get))
    return a && b

def negated : Nat → Sign → Judging Bool
  | 0, _ => return false
  | n + 1, sign₁ => do
    if sign₁ ≠ .negation then single n sign₁
    else
      let next := sign ((← get).drop 1)
      if next ≠ .finish then advance 1
      return !(← negated n next)

def single : Nat → Sign → Judging Bool
  | 0, _ => return false
  | n + 1, sign₁ => do
    let ws ← get
    match sign₁ with
    | .finish => return false
    | .opening =>
      advance 1
      let next := sign (← get)
      if next = .closing then return false
      let a ← either n next
      advance 1
      if sign (← get) ≠ .closing then fail "closing paren expected".toList
      return a
    | .question =>
      advance 1
      match ws with
      | question :: word :: _ => answer s question word
      | question :: _ => fail (question ++ ": argument expected".toList)
      | [] => return false
    | _ =>
      match ws with
      | a :: comparison :: rest =>
        if sign (comparison :: rest) = .comparison then
          match rest with
          | [] => fail (comparison ++ ": argument expected".toList)
          | b :: _ =>
            advance 2
            compared a comparison b
        else return !a.isEmpty
      | ws => return !(ws.headD []).isEmpty

end

def whole (first : Sign) (ws : List Text) : Except Text Bool := do
  let (a, rest) ← (either s (4 * ws.length + 4) first).run ws
  match rest with
  | w :: _ :: _ => .error (if w.isEmpty then "unexpected operator".toList
      else w ++ ": unexpected operator".toList)
  | _ => return a

/-- Three or four words may be negated or in parentheses as a whole. Negating them again
makes no difference. -/
def reduced : Nat → Bool → List Text → Except Text Bool
  | 0, negated, ws => (whole s (sign ws) ws).map (· != negated)
  | n + 1, negated, ws =>
    let first := match ws with
      | [_, comparison, _] => if sign? comparison = some .comparison then Sign.operand else sign ws
      | _ => sign ws
    let few := ws.length = 4 ∨ (ws.length = 3 ∧ sign? (ws.getD 1 []) ≠ some .comparison)
    if few ∧ ws.head? = some ['('] ∧ ws.getLast? = some [')'] then
      reduced n negated (ws.drop 1).dropLast
    else if few ∧ ws.head? = some ['!'] then reduced n true (ws.drop 1)
    else (whole s first ws).map (· != negated)

def holds (ws : List Text) : Except Text Bool :=
  if ws.isEmpty then return false else reduced s 4 false ws

end FormatService.Shell.Condition
