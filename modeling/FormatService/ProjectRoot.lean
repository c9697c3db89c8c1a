import FormatService.Path

/-!
# Project roots

The base directory of an open project. Editors also report remote or virtual
roots such as `ssh://host/dir`, so the text is kept as it came.
-/

set_option autoImplicit false

namespace FormatService

structure ProjectRoot where
  text : String
  deriving DecidableEq, Repr, Inhabited

namespace ProjectRoot

def path (root : ProjectRoot) : Path := ⟨root.text⟩

def hasScheme : List Char → Bool
  | [] => false
  | ':' :: '/' :: '/' :: _ => true
  | _ :: t => hasScheme t

/-- Whether the root is a directory of this machine. -/
def isLocal (root : ProjectRoot) : Bool := root.text != "" && !hasScheme root.text.toList

/-- Of two candidates the deeper one, and the later one of two equally deep. -/
def deeper (best : Option ProjectRoot) (root : ProjectRoot) : Option ProjectRoot :=
  match best with
  | none => some root
  | some other => if other.path.depth ≤ root.path.depth then some root else some other

def locals (roots : List ProjectRoot) : List ProjectRoot := roots.filter isLocal

def containing? (roots : List ProjectRoot) (file : Path) : Option ProjectRoot :=
  ((locals roots).filter fun (root : ProjectRoot) => file.startsWith root.path).foldl deeper none

/-- The project a file belongs to: the deepest local root that contains it, or
else the first local root. -/
def projectOf (roots : List ProjectRoot) (file : Option Path) : Option Path :=
  ((file.bind (containing? roots)).or (locals roots).head?).map path

end ProjectRoot

end FormatService
