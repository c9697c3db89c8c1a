import FormatService.Text.Basic

/-!
# Patterns

Patterns for texts and file names: a star stands for any text, a question mark for any
character, and brackets for any of the listed characters. Quoted characters stand for
themselves, and so does a character behind a backslash that an expansion has brought in.
-/

set_option autoImplicit false

namespace FormatService.Shell

abbrev Marked := Char × Bool

inductive Listed
  | range (first last : Char)
  | kind (isOf : Char → Bool)

inductive PatternItem
  | anything
  | anyChar
  | char (c : Char)
  /-- A character that is listed, or one that is not. -/
  | listed (negated : Bool) (listed : List Listed)

namespace Pattern

def isBlank (c : Char) : Bool := c == ' ' || c == '\t'

def isSpace (c : Char) : Bool := c == ' ' || ('\t' ≤ c && c ≤ '\x0d')

def isGraph (c : Char) : Bool := '!' ≤ c && c ≤ '~'

def isHexDigit (c : Char) : Bool := c.isDigit || ('a' ≤ c && c ≤ 'f') || ('A' ≤ c && c ≤ 'F')

def kinds : List (String × (Char → Bool)) :=
  [("alnum", Char.isAlphanum), ("cntrl", fun c => c < ' ' || c == '\x7f'), ("lower", Char.isLower),
    ("space", isSpace), ("alpha", Char.isAlpha), ("digit", Char.isDigit),
    ("print", fun c => c == ' ' || isGraph c), ("upper", Char.isUpper), ("blank", isBlank),
    ("graph", isGraph), ("punct", fun c => isGraph c && !c.isAlphanum), ("xdigit", isHexDigit)]

def kind? (t : Text) : Option ((Char → Bool) × Text) :=
  kinds.findSome? fun (name, isOf) =>
    let written := ':' :: name.toList ++ ":]".toList
    if written.isPrefixOf t then some (isOf, t.drop written.length) else none

def literal? : Text → Option (Char × Text)
  | '\\' :: c :: t => some (c, t)
  | c :: t => some (c, t)
  | [] => none

/-- What is listed up to the closing bracket, and what follows it. A closing bracket that
comes first is listed itself. -/
def listed? : Nat → Bool → Text → Option (List Listed × Text)
  | 0, _, _ => none
  | n + 1, first, t =>
    match t with
    | [] => none
    | ']' :: rest =>
      if first then single n t else some ([], rest)
    | '[' :: rest =>
      match kind? rest with
      | some (isOf, rest) => (listed? n false rest).map fun (ls, rest) => (.kind isOf :: ls, rest)
      | none => single n t
    | t => single n t
where
  /-- A character, or a range that begins with it. -/
  single (n : Nat) (t : Text) : Option (List Listed × Text) :=
    match literal? t with
    | none => none
    | some (a, rest) =>
      match rest with
      | '-' :: c :: more =>
        if c = ']' then (listed? n false rest).map fun (ls, rest) => (.range a a :: ls, rest)
        else
          match literal? (c :: more) with
          | some (b, rest) => (listed? n false rest).map fun (ls, rest) => (.range a b :: ls, rest)
          | none => none
      | rest => (listed? n false rest).map fun (ls, rest) => (.range a a :: ls, rest)

def bracket? (t : Text) : Option (PatternItem × Text) :=
  let negated := t.head? == some '!'
  (listed? (t.length + 1) true (if negated then t.drop 1 else t)).map fun (ls, rest) =>
    (.listed negated ls, rest)

def itemsWithin : Nat → Text → List PatternItem
  | 0, _ => []
  | _, [] => []
  | n + 1, '*' :: t => .anything :: itemsWithin n t
  | n + 1, '?' :: t => .anyChar :: itemsWithin n t
  | n + 1, '[' :: t =>
    match bracket? t with
    | some (item, rest) => item :: itemsWithin n rest
    | none => .char '[' :: itemsWithin n t
  | n + 1, '\\' :: c :: t => .char c :: itemsWithin n t
  | n + 1, c :: t => .char c :: itemsWithin n t

def needsBackslash (c : Char) : Bool := "!*?[=~:/-]\\".toList.contains c

def written (t : List Marked) : Text :=
  t.flatMap fun (c, quoted) => if quoted && needsBackslash c then ['\\', c] else [c]

def items (t : List Marked) : List PatternItem :=
  let t := written t
  itemsWithin t.length t

def Listed.contains (c : Char) : Listed → Bool
  | .range first last => first.toNat ≤ c.toNat && c.toNat ≤ last.toNat
  | .kind isOf => isOf c

def anySuffix (p : Text → Bool) : Text → Bool
  | [] => p []
  | c :: t => p (c :: t) || anySuffix p t

def fits : List PatternItem → Text → Bool
  | [], t => t.isEmpty
  | .anything :: items, t => anySuffix (fits items) t
  | _, [] => false
  | .anyChar :: items, _ :: t => fits items t
  | .char a :: items, c :: t => a == c && fits items t
  | .listed negated ls :: items, c :: t =>
    (ls.any (Listed.contains c)) != negated && fits items t

def frontAt? (items : List PatternItem) (t : Text) (lengths : List Nat) : Option Nat :=
  lengths.find? fun n => fits items (t.take n)

def backAt? (items : List PatternItem) (t : Text) (lengths : List Nat) : Option Nat :=
  lengths.find? fun n => fits items (t.drop n)

def trimFront (longest : Bool) (items : List PatternItem) (t : Text) : Text :=
  let lengths := List.range (t.length + 1)
  match frontAt? items t (if longest then lengths.reverse else lengths) with
  | some n => t.drop n
  | none => t

def trimBack (longest : Bool) (items : List PatternItem) (t : Text) : Text :=
  let lengths := List.range (t.length + 1)
  match backAt? items t (if longest then lengths else lengths.reverse) with
  | some n => t.take n
  | none => t

end Pattern

end FormatService.Shell
