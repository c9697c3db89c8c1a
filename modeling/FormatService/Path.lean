/-!
# Slash separated paths

A path keeps its text. What it means is its list of components: empty pieces
between slashes and `.` pieces stand for nothing, except that a relative path
may begin with `.`. Two texts with the same components name the same place.
-/

set_option autoImplicit false

namespace FormatService

structure Path where
  text : String
  deriving DecidableEq, Repr, Inhabited

namespace Path

inductive Component
  | root
  | here
  | up
  | name (text : List Char)
  deriving DecidableEq, Repr

namespace Component

/-- The piece of a path's text that stands for a component other than the root. -/
def text : Component → List Char
  | root => []
  | here => ['.']
  | up => ['.', '.']
  | name t => t

def rank : Component → Nat
  | root => 0
  | here => 1
  | up => 2
  | name _ => 3

/-- The root comes first, then `.`, `..` and names, these by code points. -/
def compare : Component → Component → Ordering
  | name a, name b => compareOfLessAndEq a b
  | a, b => Ord.compare a.rank b.rank

end Component

def pieces : List Char → List (List Char)
  | [] => [[]]
  | c :: t =>
    if c = '/' then [] :: pieces t
    else match pieces t with
      | [] => [[c]]
      | p :: ps => (c :: p) :: ps

/-- What a piece stands for when it is not the first of a relative path. -/
def component? (piece : List Char) : Option Component :=
  if piece = [] ∨ piece = ['.'] then none
  else if piece = ['.', '.'] then some .up
  else some (.name piece)

def componentsOf : List Char → List Component
  | '/' :: t => .root :: (pieces t).filterMap component?
  | t => match pieces t with
    | [] => []
    | first :: rest =>
      (if first = ['.'] then [.here] else (component? first).toList) ++ rest.filterMap component?

def components (p : Path) : List Component := componentsOf p.text.toList

def isAbsolute (p : Path) : Bool := p.text.toList.head? == some '/'

def joinPieces : List (List Char) → List Char
  | [] => []
  | [p] => p
  | p :: q :: rest => p ++ '/' :: joinPieces (q :: rest)

def ofComponents : List Component → Path
  | .root :: rest => ⟨String.ofList ('/' :: joinPieces (rest.map Component.text))⟩
  | cs => ⟨String.ofList (joinPieces (cs.map Component.text))⟩

/-- An absolute path stands for itself, a relative one starts from the base. -/
def join (base p : Path) : Path :=
  if p.isAbsolute then p
  else if base.text.toList.getLast?.any (· != '/') then ⟨base.text ++ "/" ++ p.text⟩
  else ⟨base.text ++ p.text⟩

/-- The path taken from a directory, in normal form: `.` components, repeated
slashes and a trailing slash are dropped, `..` components are kept. -/
def resolve (directory p : Path) : Path :=
  ofComponents ((join directory p).components.filter (· != .here))

def isVoid (piece : List Char) : Bool := (component? piece).isNone

/-- The pieces without the last one that means something and without what
surrounds it. -/
def dropLast? (ps : List (List Char)) : Option (List (List Char)) :=
  match ps.reverse.dropWhile isVoid with
  | [] => none
  | _ :: rest => some (rest.dropWhile isVoid).reverse

/-- The path without its last component, spelled as before. The root and the
empty path have none. -/
def parent? (p : Path) : Option Path :=
  match p.text.toList with
  | '/' :: t => (dropLast? (pieces t)).map fun ps => ⟨String.ofList ('/' :: joinPieces ps)⟩
  | t => match pieces t with
    | ['.'] :: rest =>
      match dropLast? rest with
      | some ps => some ⟨String.ofList (joinPieces (['.'] :: ps))⟩
      | none => some ⟨""⟩
    | ps => (dropLast? ps).map fun ps => ⟨String.ofList (joinPieces ps)⟩

/-- Component-wise: `/ab` does not start with `/a`. -/
def startsWith (p base : Path) : Bool := base.components.isPrefixOf p.components

def depth (p : Path) : Nat := p.components.length

/-- Whether two texts name the same place. -/
def same (p q : Path) : Bool := p.components == q.components

def compareComponents : List Component → List Component → Ordering
  | [], [] => .eq
  | [], _ :: _ => .lt
  | _ :: _, [] => .gt
  | a :: as, b :: bs => (a.compare b).then (compareComponents as bs)

def compare (p q : Path) : Ordering := compareComponents p.components q.components

end Path

end FormatService
