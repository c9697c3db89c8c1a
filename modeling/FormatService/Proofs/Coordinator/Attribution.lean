import Mathlib.Data.List.Basic
import FormatService.Proofs.Coordinator.Completion
import FormatService.Proofs.ToolCache
import FormatService.Proofs.ProjectRoot

/-!
# Which executable a file gets

One piece of the program makes the keys that are resolved from the roots, another one
picks the project of a file from them. They agree: after a rebuild a tool is looked up
under a key that was resolved, and what is found there was found for that project, however
its root was spelled, or is the override of the tool.
-/

set_option autoImplicit false

namespace FormatService.Coordinator

variable {σ : Type} [Host σ]

/-- The keys that are searched for on behalf of a tool in a project, in any spelling of its root. -/
def searchedFor (c : Coordinator σ) (tool : Tool) (project : Option Path) : List CacheKey :=
  c.searched.filter (·.same ⟨tool, project⟩)

def answer? (h : σ) (key : CacheKey) : Option String :=
  (Host.answerSearch key.tool key.root h).toOption.join.filter (· ≠ "")

theorem mem_searched {c : Coordinator σ} {key : CacheKey} :
    key ∈ c.searched ↔ key ∈ CacheKey.forRoots c.roots ∧ c.override? key.tool = none := by
  simp [searched]

theorem tool_of_same {key : CacheKey} {tool : Tool} {project : Option Path}
    (same : key.same ⟨tool, project⟩ = true) : key.tool = tool :=
  ((CacheKey.same_iff key ⟨tool, project⟩).mp same).1

theorem override?_ne_empty {c : Coordinator σ}
    (named : ∀ tool, c.settings.toolPaths.get tool ≠ some "") {tool : Tool} {path : String}
    (set : c.override? tool = some path) : path ≠ "" := by
  rintro rfl
  exact named tool (Option.filter_eq_some_iff.mp set).1

theorem mem_searchedFor_projectOf {c : Coordinator σ} {tool : Tool}
    (unset : c.override? tool = none) (file : Option Path) :
    ⟨tool, ProjectRoot.projectOf c.roots file⟩ ∈
      c.searchedFor tool (ProjectRoot.projectOf c.roots file) :=
  List.mem_filter.mpr ⟨mem_searched.mpr ⟨CacheKey.projectOf_mem_forRoots c.roots file tool, unset⟩,
    CacheKey.same_refl _⟩

theorem begun_cases {c c₁ : Coordinator σ} {rebuild : Rebuild}
    (begun : c.beginRebuild = (c₁, .searching rebuild)) :
    rebuild = c.plan ∧ c₁ = { c with
      host := Host.serve (c.searched.map fun key => .search key.tool key.root) c.host
      rebuilding := true } := by
  rcases c.barred_or_open with barred | ⟨free, live⟩
  · obtain ⟨other, host, hb, none, -⟩ := barred.beginRebuild
    rw [hb] at begun
    exact absurd (Prod.mk.inj begun).2 (none rebuild)
  · rw [beginRebuild_eq free live] at begun
    obtain ⟨rfl, same⟩ := Prod.mk.inj begun
    exact ⟨(Begun.searching.inj same).symm, rfl⟩

namespace Completion

variable (k : Completion σ)

theorem cache_of_finished {c : Coordinator σ}
    (finished : k.stop.finishRebuild k.start.plan = (c, true)) :
    k.succeeded = true ∧ c.cache = some (ToolCache.ofResolutions k.resolutions) ∧
      c.roots = k.stop.roots := by
  obtain ⟨host, hf⟩ := finishRebuild_eq k.start.plan k.stop
  have done : k.succeeded = true := by rw [← k.finishRebuild_plan, finished]
  rw [k.found?_plan, if_pos done] at hf
  obtain ⟨rfl, -⟩ := Prod.mk.inj (hf.symm.trans finished)
  exact ⟨done, rfl, rfl⟩

theorem isOk_of_mem_searched {key : CacheKey} (done : k.succeeded = true)
    (mem : key ∈ k.start.searched) :
    ∃ found, Host.answerSearch key.tool key.root k.stop.host = .ok found := by
  rw [succeeded, Bool.and_eq_true, List.all_eq_true] at done
  have ok := done.2 key mem
  cases h : Host.answerSearch key.tool key.root k.stop.host with
  | ok found => exact ⟨found, rfl⟩
  | error failure =>
    rw [h] at ok
    contradiction

theorem offers_eq (query : CacheKey) : k.resolutions.filterMap (ToolCache.offered query) =
    (CacheKey.forRoots k.start.roots).filterMap fun key =>
      if key.same query then (k.path key).filter (· ≠ "") else none := by
  rw [resolutions, List.filterMap_map]
  rfl

theorem lookup_resolutions (tool : Tool) (file : Option Path) :
    let project := ProjectRoot.projectOf k.start.roots file
    (ToolCache.ofResolutions k.resolutions).lookup tool project =
      (k.resolutions.filterMap (ToolCache.offered ⟨tool, project⟩)).getLast? := by
  intro project
  rw [← ToolCache.get?_ofResolutions]
  cases hp : project with
  | none => rfl
  | some root =>
    -- With a project there is no key without one to fall back on.
    have bare : (ToolCache.ofResolutions k.resolutions).get? ⟨tool, none⟩ = none := by
      rw [ToolCache.get?_ofResolutions, offers_eq, List.getLast?_eq_none_iff,
        List.filterMap_eq_nil_iff]
      intro key mem
      have rooted := CacheKey.isSome_root_of_mem_forRoots _ file mem
      have apart : ¬key.same ⟨tool, none⟩ = true := by
        rw [CacheKey.same_iff]
        rintro ⟨-, same⟩
        change key.root.isSome = project.isSome at rooted
        rw [Option.map_eq_none_iff.mp same, hp] at rooted
        contradiction
      rw [if_neg apart]
    rw [ToolCache.lookup, bare, Option.or_none]

theorem offers_of_override {tool : Tool} {path : String} (set : k.start.override? tool = some path)
    (given : path ≠ "") (file : Option Path) :
    let project := ProjectRoot.projectOf k.start.roots file
    (k.resolutions.filterMap (ToolCache.offered ⟨tool, project⟩)).getLast? = some path := by
  intro project
  have one : ∀ key, key.same ⟨tool, project⟩ = true → (k.path key).filter (· ≠ "") = some path := by
    intro key same
    rw [Completion.path, tool_of_same same, set]
    simp [given]
  rw [offers_eq]
  generalize ho : (CacheKey.forRoots k.start.roots).filterMap _ = offers
  have all : ∀ other ∈ offers, other = path := by
    rw [← ho]
    intro other mem
    obtain ⟨key, -, found⟩ := List.mem_filterMap.mp mem
    by_cases same : key.same ⟨tool, project⟩ = true
    · rw [if_pos same, one key same] at found
      exact (Option.some.inj found).symm
    · rw [if_neg same] at found
      contradiction
  have some : path ∈ offers := by
    rw [← ho]
    refine List.mem_filterMap.mpr ⟨_, CacheKey.projectOf_mem_forRoots k.start.roots file tool, ?_⟩
    rw [if_pos (CacheKey.same_refl _), one _ (CacheKey.same_refl _)]
  have last : offers ≠ [] := List.ne_nil_of_mem some
  rw [List.getLast?_eq_some_getLast last, all _ (List.getLast_mem last)]

theorem offers_of_searched {tool : Tool} (unset : k.start.override? tool = none)
    (project : Option Path) :
    k.resolutions.filterMap (ToolCache.offered ⟨tool, project⟩) =
      (k.start.searchedFor tool project).filterMap (answer? k.stop.host) := by
  rw [offers_eq, searchedFor, searched, List.filter_filter, List.filterMap_filter]
  refine List.filterMap_congr fun key _ => ?_
  by_cases same : key.same ⟨tool, project⟩ = true
  · rw [tool_of_same same, unset, Completion.path, tool_of_same same, unset, answer?,
      tool_of_same same]
    simp [same]
  · simp [same]

end Completion

/-- After a rebuild, with the roots that it has read, a tool is resolved for a file to its override,
or else to what was last found by the searches for the project of the file, which there are. -/
theorem resolved_of_rebuilt {c c₁ c₂ c₃ : Coordinator σ} {rebuild : Rebuild}
    (named : ∀ tool, c.settings.toolPaths.get tool ≠ some "")
    (begun : c.beginRebuild = (c₁, .searching rebuild)) (unchanged : c₂.roots = c₁.roots)
    (finished : c₂.finishRebuild rebuild = (c₃, true)) (tool : Tool) (file : Option Path) :
    let project := ProjectRoot.projectOf c₃.roots file
    let searches := c.searchedFor tool project
    let found (key : CacheKey) := Host.answerSearch key.tool key.root c₂.host
    c₁.host = Host.serve (c.searched.map fun key => .search key.tool key.root) c.host ∧
      (c.override? tool = none → searches ≠ []) ∧
      c₃.resolved tool project =
        (c.override? tool).or (searches.filterMap (answer? c₂.host)).getLast? ∧
      (c₃.resolved tool project = none ↔ c.override? tool = none ∧
        ∀ key ∈ searches, found key = .ok none ∨ found key = .ok (some "")) ∧
      ∀ path, c₃.resolved tool project = some path → c.override? tool = some path ∨
        ∃ key ∈ searches, found key = .ok (some path) := by
  intro project searches found
  obtain ⟨rfl, rfl⟩ := begun_cases begun
  let k : Completion σ := ⟨c, c₂⟩
  obtain ⟨done, cache, roots⟩ := k.cache_of_finished finished
  have here : project = ProjectRoot.projectOf c.roots file := by
    unfold project
    rw [roots]
    exact congrArg (ProjectRoot.projectOf · file) unchanged
  have answered : ∀ key ∈ searches, ∃ path, found key = .ok path ∧
      answer? c₂.host key = path.filter (· ≠ "") := by
    intro key mem
    obtain ⟨path, ok⟩ := k.isOk_of_mem_searched done (List.mem_filter.mp mem).1
    have ok' : found key = .ok path := ok
    refine ⟨path, ok', ?_⟩
    rw [answer?, ok]
    rfl
  have resolved : c₃.resolved tool project =
      (c.override? tool).or (searches.filterMap (answer? c₂.host)).getLast? := by
    have lookup := k.lookup_resolutions tool file
    rw [Coordinator.resolved, cache, here, Option.bind_some, lookup]
    cases set : c.override? tool with
    | some path => exact k.offers_of_override set (override?_ne_empty named set) file
    | none =>
      unfold searches
      rw [here]
      exact congrArg List.getLast? (k.offers_of_searched set _)
  refine ⟨rfl, fun unset => ?_, resolved, ?_, ?_⟩
  · unfold searches
    rw [here]
    exact List.ne_nil_of_mem (mem_searchedFor_projectOf unset file)
  · rw [resolved, Option.or_eq_none_iff, List.getLast?_eq_none_iff, List.filterMap_eq_nil_iff]
    refine and_congr_right fun _ => forall₂_congr fun key mem => ?_
    obtain ⟨path, ok, hp⟩ := answered key mem
    rw [ok, hp]
    cases path <;> simp
  · intro path some
    rw [resolved, Option.or_eq_some_iff] at some
    rcases some with set | ⟨-, last⟩
    · exact .inl set
    · obtain ⟨key, mem, hk⟩ := List.mem_filterMap.mp (List.mem_of_getLast? last)
      obtain ⟨other, ok, hp⟩ := answered key mem
      rw [hk] at hp
      obtain ⟨rfl, -⟩ := Option.filter_eq_some_iff.mp hp.symm
      exact .inr ⟨key, mem, ok⟩

/-- One project in two spellings between which there are others, and a tool with an override. -/
def spelled : Coordinator MemoryHost :=
  .new
    { directory := ⟨"/"⟩
      level := .silent
      files := [(⟨"/opt/goimports"⟩, [])]
      readOnly := []
      tools := [(.gofmt, none, "gofmt"), (.gofmt, some ⟨"/a/b"⟩, "first"),
        (.gofmt, some ⟨"/a//b/"⟩, "second"), (.gofmt, some ⟨"/a/bc"⟩, "other")]
      searchFault := .never
      commands := []
      events := [] }
    { Settings.default with toolPaths := ToolPaths.empty.set .goimports "/opt/goimports" }
    [⟨"/a/b"⟩, ⟨"ssh://host/a/b"⟩, ⟨"/a//b/"⟩, ⟨""⟩, ⟨"/a/bc"⟩]

theorem resolved_of_rebuilt_spelled :
    let c := spelled.rebuild.1
    let project := ProjectRoot.projectOf c.roots (some ⟨"/a/b/x.go"⟩)
    (∀ tool, spelled.settings.toolPaths.get tool ≠ some "") ∧ spelled.rebuild.2 = true ∧
      c.resolved .gofmt project = some "second" ∧
      c.resolved .goimports project = some "/opt/goimports" ∧
      c.resolved .goreturns project = none := by
  intro c project
  have named : ∀ tool, spelled.settings.toolPaths.get tool ≠ some "" := by
    intro tool
    cases tool <;> decide
  have finished : spelled.beginRebuild.1.finishRebuild spelled.plan = (c, true) := rfl
  have resolved := fun tool =>
    (resolved_of_rebuilt named rfl rfl finished tool (some ⟨"/a/b/x.go"⟩)).2.2.1
  refine ⟨named, rfl, ?_, ?_, ?_⟩
  · exact (resolved .gofmt).trans (by decide)
  · exact (resolved .goimports).trans (by decide)
  · exact (resolved .goreturns).trans (by decide)

end FormatService.Coordinator
