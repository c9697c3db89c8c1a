import FormatService.ToolCache
import FormatService.Settings.Basic
import FormatService.Host

/-!
# The coordinator

It knows the projects, the active tool and the newest settings, and holds the
cache of resolved tools. The cache is replaced as a whole or not at all.
-/

set_option autoImplicit false

namespace FormatService

structure Coordinator (σ : Type) where
  host : σ
  /-- The newest settings. -/
  settings : Settings
  roots : List ProjectRoot
  /-- The tool used when none is asked for. -/
  tool : Tool
  cache : Option ToolCache
  /-- The tool paths of the settings that the cache was built with. -/
  appliedPaths : ToolPaths
  /-- Whether a rebuild has the slot. -/
  rebuilding : Bool
  disposed : Bool
  deriving Repr

namespace Coordinator

variable {σ : Type}

def new (host : σ) (settings : Settings) (roots : List ProjectRoot) : Coordinator σ :=
  ⟨host, settings, roots, settings.tool, none, .empty, false, false⟩

/-- Whether a document can be formatted without resolving tools first. -/
def ready (c : Coordinator σ) : Bool := !c.rebuilding && c.cache.any (!·.isEmpty)

/-- The tool for the project, or else for no project in particular. -/
def resolved (c : Coordinator σ) (tool : Tool) (project : Option Path) : Option String :=
  c.cache.bind (·.lookup tool project)

def onHost (f : σ → σ) (c : Coordinator σ) : Coordinator σ := { c with host := f c.host }

variable [Host σ]

def setRoots (roots : List ProjectRoot) (c : Coordinator σ) : Coordinator σ :=
  let text := ", ".intercalate (roots.map ProjectRoot.text)
  { c.onHost (Host.debug ("Project roots changed: " ++ text)) with roots := roots }

def setTool (tool : Tool) (c : Coordinator σ) : Coordinator σ :=
  { c.onHost (Host.debug ("Format tool changed to " ++ tool.name)) with tool := tool }

/-- A disposed coordinator has no cache and never gets one again. -/
def dispose (c : Coordinator σ) : Coordinator σ := { c with disposed := true, cache := none }

end Coordinator

end FormatService
