import FormatService.Utility.Basic

/-!
# Counting

Lines, words and bytes of files are counted.
-/

set_option autoImplicit false

namespace FormatService.Utility.Count

def known : Known := ⟨['c', 'l', 'm', 'w'], []⟩

structure Counts where
  lines : Nat
  words : Nat
  bytes : Nat
  deriving DecidableEq, Repr

namespace Counts

def zero : Counts := ⟨0, 0, 0⟩

def add (a b : Counts) : Counts := ⟨a.lines + b.lines, a.words + b.words, a.bytes + b.bytes⟩

def isSeen (c : Char) : Bool := '!' ≤ c && c ≤ '~'

def isSpace (c : Char) : Bool := c == ' ' || ('\t' ≤ c && c ≤ '\x0d')

/-- Counts a character, given whether a word goes on. Only characters that can be seen make a
word. -/
def step (x : Counts × Bool) (c : Char) : Counts × Bool :=
  let counts := { x.1 with
    bytes := x.1.bytes + 1
    lines := x.1.lines + if c = '\n' then 1 else 0 }
  if isSpace c then (counts, false)
  else if isSeen c && !x.2 then ({ counts with words := counts.words + 1 }, true)
  else (counts, x.2)

def ofText (t : Text) : Counts := (t.foldl step (zero, false)).1

end Counts

def figures (g : Given) (c : Counts) : List Nat :=
  let asked := (if g.has 'l' then [c.lines] else []) ++ (if g.has 'w' then [c.words] else []) ++
    (if g.has 'm' then [c.bytes] else []) ++ (if g.has 'c' then [c.bytes] else [])
  if asked.isEmpty then [c.lines, c.words, c.bytes] else asked

def figureText (width n : Nat) : Text :=
  let ds := Nat.toDigits 10 n
  List.replicate (width - ds.length) ' ' ++ ds

def size? (r : Reading) (name : Text) : Option (Option Nat) :=
  if name = Reading.inputName || r.isInputDevice name then some r.inputSize
  else
    match r.files.find r.directory name with
    | .ok (.file bytes _) => some (some bytes.length)
    | .ok (.program _) => some (some FileTree.programBytes.length)
    | .ok _ => some none
    | .error _ => none

/-- A single figure takes no more room than it needs. Several take as many places as the
sum of the sizes of the files, and at least seven if something is no regular file. -/
def figureWidth (g : Given) (r : Reading) (names : List Text) : Nat :=
  if names.length ≤ 1 ∧ (figures g Counts.zero).length = 1 then 1
  else
    let sizes := names.filterMap (size? r)
    let width := (Nat.toDigits 10 ((sizes.filterMap id).foldl (· + ·) 0)).length
    if sizes.contains none then max 7 width else width

def line (g : Given) (width : Nat) (name : Text) (c : Counts) : Text :=
  [' '].intercalate ((figures g c).map (figureText width)) ++
    (if name.isEmpty then [] else ' ' :: name) ++ ['\n']

/-- What a file has. What cannot be read though it is there has nothing, and is
complained about under a name of its own. -/
def counted (program shown : Text) (r : Reading) (name : Text) : Option Counts × Text :=
  match r.read name with
  | .ok t => (some (Counts.ofText t), [])
  | .error f =>
    (if f = .isDirectory ∨ f = .closed then some Counts.zero else none,
      complaint (program ++ ": ".toList) shown f)

def countedAll (program : Text) (shown : Text → Text) :
    List Text → Reading → List (Text × Option Counts × Text) × Reading
  | [], r => ([], r)
  | name :: names, r =>
    let (more, s) := countedAll program shown names (r.after name)
    ((name, counted program (shown name) r name) :: more, s)

def run (program : Text) (arguments : List Text) (r : Reading) : Written :=
  match given known arguments with
  | .error f => ⟨[], misused program f, 1, r.files, r.left⟩
  | .ok g =>
    let names := orInput g.words
    let shown (name : Text) : Text :=
      if g.words.isEmpty then "'standard input'".toList else name
    let (found, s) := countedAll program shown names r
    let rows := found.filterMap fun (name, counts, _) =>
      counts.map fun c => (if g.words.isEmpty then [] else name, c)
    let width := figureWidth g r names
    let sum := rows.foldl (fun total (_, c) => total.add c) Counts.zero
    let lines := rows.map fun (name, c) => line g width name c
    let total := if 1 < names.length then line g width "total".toList sum else []
    let complaints := (found.map fun (_, _, t) => t).flatten
    ⟨lines.flatten ++ total, complaints, if complaints.isEmpty then 0 else 1, r.files, s.left⟩

end FormatService.Utility.Count
