import FormatService.Tool

/-!
# Settings

The tool to format with, whether documents are formatted when they are saved, and
executables to use instead of searching for a tool.
-/

set_option autoImplicit false

namespace FormatService

structure ToolPaths where
  gofmt : Option String
  goimports : Option String
  goreturns : Option String
  deriving DecidableEq, Repr, Inhabited

namespace ToolPaths

def empty : ToolPaths := ⟨none, none, none⟩

def get (paths : ToolPaths) : Tool → Option String
  | .gofmt => paths.gofmt
  | .goimports => paths.goimports
  | .goreturns => paths.goreturns

def set (paths : ToolPaths) (tool : Tool) (path : String) : ToolPaths :=
  match tool with
  | .gofmt => { paths with gofmt := some path }
  | .goimports => { paths with goimports := some path }
  | .goreturns => { paths with goreturns := some path }

def toList (paths : ToolPaths) : List (Tool × String) :=
  Tool.all.filterMap fun tool => (paths.get tool).map fun path => (tool, path)

theorem get_set (paths : ToolPaths) (a b : Tool) (path : String) :
    (paths.set a path).get b = if a = b then some path else paths.get b := by
  cases a <;> cases b <;> rfl

end ToolPaths

structure Settings where
  tool : Tool
  formatOnSave : Bool
  toolPaths : ToolPaths
  deriving DecidableEq, Repr, Inhabited

def Settings.default : Settings := ⟨.gofmt, false, .empty⟩

end FormatService
