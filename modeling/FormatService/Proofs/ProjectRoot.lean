import FormatService.ToolCache

/-!
# The project of a file

Every file has a project as soon as one root is local, and that project is one of the local
roots. The tools are resolved for just the projects that files can have.
-/

set_option autoImplicit false

namespace FormatService

namespace ProjectRoot

theorem deeper_eq_some (best : Option ProjectRoot) (root : ProjectRoot) :
    ∃ deepest, deeper best root = some deepest ∧ (some deepest = best ∨ deepest = root) := by
  cases best with
  | none => exact ⟨root, rfl, .inr rfl⟩
  | some other =>
    rw [deeper]
    split
    · exact ⟨root, rfl, .inr rfl⟩
    · exact ⟨other, rfl, .inl rfl⟩

theorem mem_of_foldl_deeper {roots : List ProjectRoot} {best : Option ProjectRoot}
    {root : ProjectRoot} (h : roots.foldl deeper best = some root) :
    some root = best ∨ root ∈ roots := by
  induction roots generalizing best with
  | nil => exact .inl h.symm
  | cons next roots ih =>
    obtain ⟨deepest, hd, source⟩ := deeper_eq_some best next
    rw [List.foldl_cons, hd] at h
    rcases ih h with same | mem
    · obtain rfl := Option.some.inj same
      rcases source with kept | rfl
      · exact .inl kept
      · exact .inr List.mem_cons_self
    · exact .inr (List.mem_cons_of_mem _ mem)

theorem mem_of_containing? {roots : List ProjectRoot} {file : Path} {root : ProjectRoot}
    (h : containing? roots file = some root) : root ∈ locals roots := by
  rcases mem_of_foldl_deeper h with none | mem
  · contradiction
  · exact (List.mem_filter.mp mem).1

theorem projectOf_of_remote {roots : List ProjectRoot} (remote : locals roots = [])
    (file : Option Path) : projectOf roots file = none := by
  have outside : file.bind (containing? roots) = none := by
    cases h : file.bind (containing? roots) with
    | none => rfl
    | some root =>
      obtain ⟨path, -, contains⟩ := Option.bind_eq_some_iff.mp h
      have mem := mem_of_containing? contains
      rw [remote] at mem
      contradiction
  rw [projectOf, outside, remote]
  rfl

theorem projectOf_of_local {roots : List ProjectRoot} (some : locals roots ≠ [])
    (file : Option Path) : ∃ root ∈ locals roots, projectOf roots file = Option.some root.path := by
  rw [projectOf]
  cases h : file.bind (containing? roots) with
  | some root =>
    obtain ⟨path, -, contains⟩ := Option.bind_eq_some_iff.mp h
    exact ⟨root, mem_of_containing? contains, rfl⟩
  | none =>
    cases hl : locals roots with
    | nil => exact absurd hl some
    | cons root roots => exact ⟨root, List.mem_cons_self, rfl⟩

/-- The second list is the first one without some members, of which each is of a given kind. -/
inductive Thinned (kind : ProjectRoot → Prop) : List ProjectRoot → List ProjectRoot → Prop
  | nil : Thinned kind [] []
  | keep {roots kept : List ProjectRoot} (root : ProjectRoot) (rest : Thinned kind roots kept) :
    Thinned kind (root :: roots) (root :: kept)
  | drop {roots kept : List ProjectRoot} {root : ProjectRoot} (h : kind root)
    (rest : Thinned kind roots kept) : Thinned kind (root :: roots) kept

def rank (best : Option ProjectRoot) : Nat := best.elim 0 (·.path.depth + 1)

theorem deeper_eq (best : Option ProjectRoot) (root : ProjectRoot) :
    deeper best root = if rank best ≤ root.path.depth + 1 then some root else best := by
  cases best with
  | none => rfl
  | some other => simp [deeper, rank]

/-- The first choice is the second one or of the kind that is left out there, and it is at least
as deep. -/
structure Outranks (kind : ProjectRoot → Prop) (best kept : Option ProjectRoot) : Prop where
  source : best = kept ∨ ∃ root, best = some root ∧ kind root
  deep : rank kept ≤ rank best

namespace Outranks

variable {kind : ProjectRoot → Prop} {best kept : Option ProjectRoot}

theorem keep (h : Outranks kind best kept) (root : ProjectRoot) :
    Outranks kind (deeper best root) (deeper kept root) := by
  have deep := h.deep
  rw [deeper_eq, deeper_eq]
  by_cases wins : rank best ≤ root.path.depth + 1
  · rw [if_pos wins, if_pos (Nat.le_trans deep wins)]
    exact ⟨.inl rfl, Nat.le_refl _⟩
  · rw [if_neg wins]
    by_cases loses : rank kept ≤ root.path.depth + 1
    · rw [if_pos loses]
      refine ⟨.inr (h.source.resolve_left ?_), Nat.le_of_not_le wins⟩
      rintro rfl
      exact wins loses
    · rw [if_neg loses]
      exact h

theorem drop (h : Outranks kind best kept) {root : ProjectRoot} (of : kind root) :
    Outranks kind (deeper best root) kept := by
  rw [deeper_eq]
  by_cases wins : rank best ≤ root.path.depth + 1
  · rw [if_pos wins]
    exact ⟨.inr ⟨root, rfl, of⟩, Nat.le_trans h.deep wins⟩
  · rw [if_neg wins]
    exact h

end Outranks

namespace Thinned

variable {kind : ProjectRoot → Prop} {roots kept : List ProjectRoot}

theorem map_filter {α : Type} (f : α → ProjectRoot) {p : α → Bool} {l : List α}
    (of : ∀ a ∈ l, p a = false → kind (f a)) : Thinned kind (l.map f) ((l.filter p).map f) := by
  induction l with
  | nil => exact .nil
  | cons a l ih =>
    have rest := ih fun a h => of a (List.mem_cons_of_mem _ h)
    rw [List.filter_cons]
    by_cases h : p a = true
    · rw [if_pos h]
      exact rest.keep (f a)
    · rw [if_neg h]
      exact rest.drop (of a List.mem_cons_self (Bool.eq_false_iff.mpr h))

theorem filter (h : Thinned kind roots kept) (p : ProjectRoot → Bool) :
    Thinned kind (roots.filter p) (kept.filter p) := by
  induction h with
  | nil => exact .nil
  | keep root rest ih =>
    rw [List.filter_cons, List.filter_cons]
    split
    · exact ih.keep root
    · exact ih
  | drop of rest ih =>
    rw [List.filter_cons]
    split
    · exact ih.drop of
    · exact ih

theorem foldl_deeper (h : Thinned kind roots kept) {best best' : Option ProjectRoot}
    (ranks : Outranks kind best best') :
    Outranks kind (roots.foldl deeper best) (kept.foldl deeper best') := by
  induction h generalizing best best' with
  | nil => exact ranks
  | keep root rest ih => exact ih (ranks.keep root)
  | drop of rest ih => exact ih (ranks.drop of)

theorem head? (h : Thinned kind roots kept) :
    roots.head? = kept.head? ∨ ∃ root, roots.head? = some root ∧ kind root := by
  cases h with
  | nil => exact .inl rfl
  | keep root rest => exact .inl rfl
  | drop of rest => exact .inr ⟨_, rfl, of⟩

theorem projectOf_eq_or (h : Thinned kind roots kept) (file : Option Path) :
    projectOf roots file = projectOf kept file ∨
      ∃ root, projectOf roots file = some root.path ∧ kind root := by
  have here := h.filter isLocal
  have ranks : Outranks kind (file.bind (containing? roots)) (file.bind (containing? kept)) := by
    cases file with
    | none => exact ⟨.inl rfl, Nat.le_refl _⟩
    | some file => exact (here.filter _).foldl_deeper ⟨.inl rfl, Nat.le_refl _⟩
  rw [projectOf, projectOf]
  cases deepest : file.bind (containing? roots) with
  | none =>
    rw [deepest] at ranks
    have outside : file.bind (containing? kept) = none := by
      rcases ranks.source with same | ⟨root, wrong, -⟩
      · exact same.symm
      · contradiction
    rw [outside]
    rcases here.head? with same | ⟨root, head, of⟩
    · exact .inl (congrArg (Option.map path) same)
    · exact .inr ⟨root, congrArg (Option.map path) head, of⟩
  | some root =>
    rcases ranks.source with same | ⟨other, wins, of⟩
    · exact .inl (by rw [← same, deepest]; rfl)
    · obtain rfl := Option.some.inj (deepest.symm.trans wins)
      exact .inr ⟨root, rfl, of⟩

end Thinned

end ProjectRoot

namespace CacheKey

open ProjectRoot (locals projectOf)

theorem mem_all (tool : Tool) : tool ∈ Tool.all := by
  cases tool <;> decide

theorem forRoots_of_remote {roots : List ProjectRoot} (remote : locals roots = []) :
    forRoots roots = Tool.all.map fun tool => ⟨tool, none⟩ := by
  rw [forRoots, remote]

theorem forRoots_of_local {roots : List ProjectRoot} (some : locals roots ≠ []) :
    forRoots roots = (locals roots).flatMap fun root =>
      Tool.all.map fun tool => ⟨tool, Option.some root.path⟩ := by
  rw [forRoots]
  split
  · next remote => exact absurd remote some
  · rfl

variable (roots : List ProjectRoot) (file : Option Path)

theorem projectOf_mem_forRoots (tool : Tool) : ⟨tool, projectOf roots file⟩ ∈ forRoots roots := by
  by_cases h : locals roots = []
  · rw [ProjectRoot.projectOf_of_remote h, forRoots_of_remote h]
    exact List.mem_map_of_mem (mem_all tool)
  · obtain ⟨root, mem, project⟩ := ProjectRoot.projectOf_of_local h file
    rw [project, forRoots_of_local h]
    exact List.mem_flatMap_of_mem mem (List.mem_map_of_mem (mem_all tool))

theorem isSome_root_of_mem_forRoots {key : CacheKey} (mem : key ∈ forRoots roots) :
    key.root.isSome = (projectOf roots file).isSome := by
  by_cases h : locals roots = []
  · rw [forRoots_of_remote h] at mem
    obtain ⟨tool, -, rfl⟩ := List.mem_map.mp mem
    rw [ProjectRoot.projectOf_of_remote h]
  · rw [forRoots_of_local h] at mem
    obtain ⟨root, -, mem⟩ := List.mem_flatMap.mp mem
    obtain ⟨tool, -, rfl⟩ := List.mem_map.mp mem
    obtain ⟨root', -, project⟩ := ProjectRoot.projectOf_of_local h file
    rw [project]
    rfl

end CacheKey

end FormatService
