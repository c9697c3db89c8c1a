import FormatService.Coordinator.Basic

/-!
# Rebuilding the cache

A rebuild takes the slot, issues a search for every tool of every project that
has no override, and later puts all answers into a new cache. There is one slot:
while a rebuild has it, others are refused.
-/

set_option autoImplicit false

namespace FormatService.Coordinator

/-- A rebuild that waits for its searches: the keys, each with its override or to
be searched for, and the tool paths it has read. -/
structure Rebuild where
  lookups : List (CacheKey × Option String)
  toolPaths : ToolPaths
  deriving DecidableEq, Repr

def Rebuild.searches (r : Rebuild) : List CacheKey :=
  (r.lookups.filter (·.2.isNone)).map (·.1)

inductive Begun
  /-- Another rebuild has the slot. -/
  | refused
  /-- The coordinator is disposed. -/
  | aborted
  | searching (rebuild : Rebuild)
  deriving DecidableEq, Repr

variable {σ : Type} [Host σ]

def override? (c : Coordinator σ) (tool : Tool) : Option String :=
  (c.settings.toolPaths.get tool).filter fun path => Host.present ⟨path⟩ c.host

def plan (c : Coordinator σ) : Rebuild :=
  ⟨(CacheKey.forRoots c.roots).map fun key => (key, c.override? key.tool), c.settings.toolPaths⟩

def issueSearches (keys : List CacheKey) (h : σ) : σ :=
  keys.foldl (fun h key => Host.issueSearch key.tool key.root h) h

def beginRebuild (c : Coordinator σ) : Coordinator σ × Begun :=
  if c.rebuilding then
    (c.onHost (Host.debug "Formatter cache rebuild already in progress."), .refused)
  else if c.disposed then (c, .aborted)
  else
    let rebuild := c.plan
    ({ c.onHost (issueSearches rebuild.searches) with rebuilding := true }, .searching rebuild)

/-- The answers of all searches, or the failure of the first that fails. -/
def answers (h : σ) : List (CacheKey × Option String) →
    Except Failure (List (CacheKey × Option String))
  | [] => .ok []
  | (key, some path) :: rest => do
    let others ← answers h rest
    return (key, some path) :: others
  | (key, none) :: rest => do
    let path ← Host.answerSearch key.tool key.root h
    let others ← answers h rest
    return (key, path) :: others

def describe : CacheKey × Option String → String
  | (key, some path) => "Resolved " ++ key.label ++ " to " ++ path
  | (key, none) => "Could not find " ++ key.label

def report (resolutions : List (CacheKey × Option String)) (h : σ) : σ :=
  resolutions.foldl (fun h r => Host.debug (describe r) h) h

/-- Gives the slot back. -/
def release (c : Coordinator σ) : Coordinator σ := { c with rebuilding := false }

def finishRebuild (rebuild : Rebuild) (c : Coordinator σ) : Coordinator σ × Bool :=
  match answers c.host rebuild.lookups with
  | .error failure =>
    ((c.onHost (Host.complain ("Error updating formatter cache: " ++ failure.message))).release,
      false)
  | .ok resolutions =>
    let c := c.onHost (report resolutions)
    if c.disposed then (c.release, false)
    else
      ({ c with cache := some (ToolCache.ofResolutions resolutions),
                appliedPaths := rebuild.toolPaths }.release, true)

def rebuild (c : Coordinator σ) : Coordinator σ × Bool :=
  match c.beginRebuild with
  | (c, .searching rebuild) => c.finishRebuild rebuild
  | (c, _) => (c, false)

end FormatService.Coordinator
