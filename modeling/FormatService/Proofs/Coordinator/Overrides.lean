import FormatService.Proofs.Coordinator.Attribution
import FormatService.Proofs.Coordinator.Pairing

/-!
# Tools that are set

A tool is set if there is something at its path in the settings; every other tool is searched
for in each local project. Where all tools are set, roots only count as places to run them in.
-/

set_option autoImplicit false

namespace FormatService.Coordinator

open ProjectRoot (locals projectOf)

variable {σ : Type} [Host σ] {c d : Coordinator σ}

def unset (c : Coordinator σ) : List Tool := Tool.all.filter fun tool => (c.override? tool).isNone

theorem unset_eq_nil_iff : c.unset = [] ↔ ∀ tool, (c.override? tool).isSome = true := by
  simp [unset, List.filter_eq_nil_iff, CacheKey.mem_all, Option.isSome_iff_ne_none]

theorem searched_of_remote (remote : locals c.roots = []) :
    c.searched = c.unset.map fun tool => ⟨tool, none⟩ := by
  rw [searched, CacheKey.forRoots_of_remote remote, List.filter_map]
  rfl

theorem searched_of_local (some : locals c.roots ≠ []) :
    c.searched = (locals c.roots).flatMap fun root =>
      c.unset.map fun tool => ⟨tool, Option.some root.path⟩ := by
  rw [searched, CacheKey.forRoots_of_local some, List.filter_flatMap]
  simp only [List.filter_map]
  rfl

theorem length_searched (some : locals c.roots ≠ []) :
    c.searched.length = (locals c.roots).length * c.unset.length := by
  simp [searched_of_local some, List.length_flatMap]

theorem searched_of_unset (none : c.unset = []) : c.searched = [] := by
  by_cases remote : locals c.roots = []
  · rw [searched_of_remote remote, none, List.map_nil]
  · rw [searched_of_local remote, none]
    simp

theorem searched_ne (unset : d.unset = c.unset) (some : c.unset ≠ [])
    (fewer : (locals d.roots).length < (locals c.roots).length) : c.searched ≠ d.searched := by
  have here : locals c.roots ≠ [] := List.ne_nil_of_length_pos (by omega)
  intro same
  by_cases remote : locals d.roots = []
  · obtain ⟨root, hr⟩ := List.exists_mem_of_ne_nil _ here
    obtain ⟨tool, ht⟩ := List.exists_mem_of_ne_nil _ some
    have mem : ⟨tool, Option.some root.path⟩ ∈ c.searched := by
      rw [searched_of_local here]
      exact List.mem_flatMap_of_mem hr (List.mem_map_of_mem ht)
    rw [same, searched_of_remote remote] at mem
    simp at mem
  · have length := congrArg List.length same
    rw [length_searched here, length_searched remote, unset] at length
    have searched : 0 < c.unset.length := List.length_pos_iff.mpr some
    exact absurd (Nat.eq_of_mul_eq_mul_right searched length) (Nat.ne_of_gt fewer)

theorem rebuild_roots_tool (free : c.rebuilding = false) (live : c.disposed = false) :
    c.rebuild.1.roots = c.roots ∧ c.rebuild.1.tool = c.tool := by
  obtain ⟨host, hf⟩ := finishRebuild_eq c.plan c.beginRebuild.1
  obtain ⟨cache, paths, hc⟩ := concluded_eq c.plan (c.beginRebuild.1.found? c.plan) c.beginRebuild.1
  rw [hc, beginRebuild_eq free live] at hf
  rw [rebuild, beginRebuild_eq free live]
  simp only
  rw [hf]
  exact ⟨rfl, rfl⟩

theorem resolved_of_unset (free : c.rebuilding = false) (live : c.disposed = false)
    (none : c.unset = []) (named : ∀ tool, c.settings.toolPaths.get tool ≠ some "") (tool : Tool)
    (file : Option Path) :
    c.rebuild.1.resolved tool (projectOf c.roots file) = c.override? tool := by
  let k : Completion σ := ⟨c, c.beginRebuild.1⟩
  have begun := beginRebuild_eq free live
  have done : k.succeeded = true := by
    rw [Completion.succeeded, searched_of_unset none]
    simp [k, begun, live]
  have finished : k.stop.finishRebuild k.start.plan = (c.rebuild.1, true) := by
    refine Prod.ext ?_ (k.finishRebuild_plan.trans done)
    simp only [rebuild, begun, k]
  obtain ⟨-, cache, -⟩ := k.cache_of_finished finished
  obtain ⟨path, set⟩ := Option.isSome_iff_exists.mp (unset_eq_nil_iff.mp none tool)
  rw [resolved, cache, Option.bind_some, k.lookup_resolutions tool file, set]
  exact k.offers_of_override set (override?_ne_empty named set) file

/-- Coordinators on related hosts that run the same command for each file, in the same place. -/
structure Accord (R : σ → σ → Prop) (files : List Path) (c d : Coordinator σ) : Prop where
  hosts : R c.host d.host
  tool : d.tool = c.tool
  project : ∀ file ∈ files, projectOf d.roots (some file) = projectOf c.roots (some file)
  command : ∀ file ∈ files, ∃ command,
    c.resolved c.tool (projectOf c.roots (some file)) = some command ∧
      d.resolved c.tool (projectOf c.roots (some file)) = some command

omit [Host σ] in
theorem accord_pairing (R : σ → σ → Prop) (files : List Path) : Pairing R (Accord R files) where
  hosts := Accord.hosts
  move accord _ _ r := ⟨r, accord.tool, accord.project, accord.command⟩

theorem lookUp_of_known {r : Request} {command : String} (known : c.command? r = some command) :
    c.lookUp r = c := by
  rw [lookUp, known]
  rfl

end FormatService.Coordinator
