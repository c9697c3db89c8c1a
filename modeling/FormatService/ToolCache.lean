import FormatService.Tool
import FormatService.ProjectRoot

/-!
# Resolved tools

Where each tool was found, per project. A cache is built once from a list of
search results and never changed: it keeps the order of the results, and keys
that name the same place are one key.
-/

set_option autoImplicit false

namespace FormatService

/-- A tool resolved for a project, or for no project in particular. -/
structure CacheKey where
  tool : Tool
  root : Option Path
  deriving DecidableEq, Repr, Inhabited

namespace CacheKey

def label (key : CacheKey) : String :=
  match key.root with
  | some root => key.tool.name ++ ":" ++ root.text
  | none => key.tool.name

/-- Roots count by their components, not by their spelling. -/
def same (a b : CacheKey) : Bool :=
  a.tool == b.tool && match a.root, b.root with
    | none, none => true
    | some p, some q => p.same q
    | _, _ => false

def compareRoots : Option Path → Option Path → Ordering
  | none, none => .eq
  | none, some _ => .lt
  | some _, none => .gt
  | some p, some q => p.compare q

def compare (a b : CacheKey) : Ordering :=
  (Ord.compare a.tool.rank b.tool.rank).then (compareRoots a.root b.root)

def sort (keys : List CacheKey) : List CacheKey :=
  keys.mergeSort fun a b => a.compare b != .gt

/-- The keys that have to be resolved: every tool for every local root, or every
tool on its own when no root is local. -/
def forRoots (roots : List ProjectRoot) : List CacheKey :=
  match ProjectRoot.locals roots with
  | [] => Tool.all.map fun tool => ⟨tool, none⟩
  | locals => locals.flatMap fun root => Tool.all.map fun tool => ⟨tool, some root.path⟩

end CacheKey

structure ToolCache where
  entries : List (CacheKey × String)
  deriving DecidableEq, Repr, Inhabited

namespace ToolCache

def insertEntry (key : CacheKey) (path : String) :
    List (CacheKey × String) → List (CacheKey × String)
  | [] => [(key, path)]
  | (k, p) :: rest =>
    if k.same key then (k, path) :: rest else (k, p) :: insertEntry key path rest

/-- Tools that were not found, or found at an empty path, are left out. -/
def addResolution (entries : List (CacheKey × String)) :
    CacheKey × Option String → List (CacheKey × String)
  | (key, some path) => if path = "" then entries else insertEntry key path entries
  | (_, none) => entries

def ofResolutions (resolutions : List (CacheKey × Option String)) : ToolCache :=
  ⟨resolutions.foldl addResolution []⟩

def get? (cache : ToolCache) (key : CacheKey) : Option String :=
  (cache.entries.find? fun entry => entry.1.same key).map (·.2)

/-- The tool for the project, or else for no project in particular. -/
def lookup (cache : ToolCache) (tool : Tool) (project : Option Path) : Option String :=
  match project with
  | some project => (cache.get? ⟨tool, some project⟩).or (cache.get? ⟨tool, none⟩)
  | none => cache.get? ⟨tool, none⟩

def size (cache : ToolCache) : Nat := cache.entries.length

def isEmpty (cache : ToolCache) : Bool := cache.entries.isEmpty

end ToolCache

end FormatService
