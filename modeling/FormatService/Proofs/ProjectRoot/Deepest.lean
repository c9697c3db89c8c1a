import FormatService.Proofs.ProjectRoot

/-!
# The deepest root

The roots that contain a file are all on the way to it, so the one with the most components has
the others on its way. It is the project of the file, whatever the order of the roots. A file that
no local root contains has the first local root for its project.
-/

set_option autoImplicit false

namespace FormatService

namespace ProjectRoot

/-- The file is in the root's directory, or it is that directory. Paths are taken component by
component. -/
def Contains (root : ProjectRoot) (file : Path) : Prop :=
  root.path.components <+: file.components

instance (root : ProjectRoot) (file : Path) : Decidable (root.Contains file) :=
  inferInstanceAs (Decidable (root.path.components <+: file.components))

theorem startsWith_iff (root : ProjectRoot) (file : Path) :
    file.startsWith root.path = true ↔ root.Contains file :=
  List.isPrefixOf_iff_prefix

theorem rank_foldl_deeper (roots : List ProjectRoot) (best : Option ProjectRoot) :
    rank best ≤ rank (roots.foldl deeper best) ∧
      ∀ root ∈ roots, root.path.depth + 1 ≤ rank (roots.foldl deeper best) := by
  induction roots generalizing best with
  | nil => simp
  | cons next roots ih =>
    obtain ⟨kept, later⟩ := ih (deeper best next)
    have step : rank best ≤ rank (deeper best next) ∧
        next.path.depth + 1 ≤ rank (deeper best next) := by
      rw [deeper_eq]
      by_cases wins : rank best ≤ next.path.depth + 1
      · rw [if_pos wins]
        exact ⟨wins, Nat.le_refl _⟩
      · rw [if_neg wins]
        omega
    rw [List.foldl_cons]
    constructor
    · omega
    · intro root mem
      rcases List.mem_cons.mp mem with rfl | mem
      · omega
      · exact later root mem

variable {roots others : List ProjectRoot} {file : Path} {root : ProjectRoot}

theorem mem_locals : root ∈ locals roots ↔ root ∈ roots ∧ root.isLocal = true :=
  List.mem_filter

theorem depth_lt_rank_containing? (h : root ∈ locals roots) (contains : root.Contains file) :
    root.path.depth + 1 ≤ rank (containing? roots file) := by
  apply (rank_foldl_deeper _ none).2
  apply List.mem_filter.mpr
  exact ⟨h, (startsWith_iff root file).mpr contains⟩

theorem prefix_of_containing? (h : containing? roots file = some root) :
    root ∈ locals roots ∧ root.Contains file ∧
      ∀ other ∈ locals roots, other.Contains file →
        other.path.components <+: root.path.components := by
  rcases mem_of_foldl_deeper h with missing | mem
  · contradiction
  obtain ⟨mem, contains⟩ := List.mem_filter.mp mem
  have contains := (startsWith_iff root file).mp contains
  constructor
  · exact mem
  constructor
  · exact contains
  · intro other there within
    have deep := depth_lt_rank_containing? there within
    rw [h] at deep
    apply List.prefix_of_prefix_length_le within contains
    exact Nat.le_of_succ_le_succ deep

theorem containing?_eq_none_iff :
    containing? roots file = none ↔ ∀ root ∈ locals roots, ¬root.Contains file := by
  constructor
  · intro missing root mem contains
    have deep := depth_lt_rank_containing? mem contains
    rw [missing] at deep
    exact absurd deep (Nat.not_succ_le_zero _)
  · intro outside
    have empty : (locals roots).filter (fun root => file.startsWith root.path) = [] := by
      apply List.filter_eq_nil_iff.mpr
      intro root mem contains
      exact outside root mem ((startsWith_iff root file).mp contains)
    rw [containing?, empty]
    rfl

theorem projectOf_of_contains (h : root ∈ locals roots) (contains : root.Contains file) :
    ∃ deepest ∈ locals roots, deepest.Contains file ∧
      projectOf roots (some file) = some deepest.path ∧
      ∀ other ∈ locals roots, other.Contains file →
        other.path.components <+: deepest.path.components := by
  cases found : containing? roots file with
  | none => exact absurd contains (containing?_eq_none_iff.mp found root h)
  | some deepest =>
    obtain ⟨mem, within, all⟩ := prefix_of_containing? found
    have project : projectOf roots (some file) = some deepest.path := by
      rw [projectOf, Option.bind_some, found]
      rfl
    exact ⟨deepest, mem, within, project, all⟩

theorem projectOf_of_outside {file : Option Path}
    (outside : ∀ path ∈ file, ∀ root ∈ locals roots, ¬root.Contains path) :
    projectOf roots file = (locals roots).head?.map path := by
  have missing : file.bind (containing? roots) = none := by
    cases file with
    | none => rfl
    | some path => exact containing?_eq_none_iff.mpr (outside path rfl)
  rw [projectOf, missing]
  rfl

theorem projectOf_eq_none_iff (roots : List ProjectRoot) (file : Option Path) :
    projectOf roots file = none ↔ locals roots = [] := by
  constructor
  · intro missing
    cases here : locals roots with
    | nil => rfl
    | cons root rest =>
      obtain ⟨root, -, project⟩ := projectOf_of_local (here ▸ List.cons_ne_nil root rest) file
      rw [missing] at project
      contradiction
  · intro remote
    exact projectOf_of_remote remote file

theorem projectOf_perm (h : others.Perm roots) (mem : root ∈ locals roots)
    (contains : root.Contains file) :
    (projectOf others (some file)).map Path.components =
      (projectOf roots (some file)).map Path.components := by
  have same : (locals others).Perm (locals roots) := h.filter isLocal
  obtain ⟨a, ha, within, project, all⟩ := projectOf_of_contains mem contains
  obtain ⟨b, hb, within', project', all'⟩ := projectOf_of_contains (same.mem_iff.mpr mem) contains
  have ab := all' a (same.mem_iff.mpr ha) within
  have ba := all b (same.mem_iff.mp hb) within'
  rw [project, project']
  exact congrArg some (ba.eq_of_length_le ab.length_le)

/-- A file has a project just if some root is local. If local roots contain the file, it is one of
them and all of them are on its way, so the order of the roots shows in its spelling at most. It is
the first local root otherwise. -/
theorem projectOf_deepest (roots : List ProjectRoot) (file : Option Path) :
    (projectOf roots file = none ↔ ∀ root ∈ roots, root.isLocal = false) ∧
      (∀ path ∈ file, (∃ root ∈ roots, root.isLocal = true ∧ root.Contains path) →
        (∃ deepest ∈ roots, deepest.isLocal = true ∧ deepest.Contains path ∧
          projectOf roots file = some deepest.path ∧
          ∀ other ∈ roots, other.isLocal = true → other.Contains path →
            other.path.components <+: deepest.path.components) ∧
        ∀ others : List ProjectRoot, others.Perm roots →
          (projectOf others file).map Path.components =
            (projectOf roots file).map Path.components) ∧
      ((∀ path ∈ file, ∀ root ∈ roots, root.isLocal = true → ¬root.Contains path) →
        projectOf roots file = (roots.find? isLocal).map path) := by
  constructor
  · rw [projectOf_eq_none_iff, locals, List.filter_eq_nil_iff]
    simp
  constructor
  · rintro path here ⟨root, mem, isLocal, contains⟩
    obtain rfl : file = some path := here
    have mem := mem_locals.mpr ⟨mem, isLocal⟩
    constructor
    · obtain ⟨deepest, there, within, project, all⟩ := projectOf_of_contains mem contains
      obtain ⟨there, isLocal⟩ := mem_locals.mp there
      refine ⟨deepest, there, isLocal, within, project, ?_⟩
      intro other mem isLocal contains
      exact all other (mem_locals.mpr ⟨mem, isLocal⟩) contains
    · intro others perm
      exact projectOf_perm perm mem contains
  · intro outside
    rw [projectOf_of_outside, locals, List.head?_filter]
    intro path here root mem
    obtain ⟨mem, isLocal⟩ := mem_locals.mp mem
    exact outside path here root mem isLocal

/-- A deeper root that is spelled with slashes and dots to spare, a remote one, and one whose text
but not whose path begins the file's. -/
theorem projectOf_deepest_spelled :
    let roots : List ProjectRoot :=
      [⟨""⟩, ⟨"/work/nest"⟩, ⟨"/work//nested/./"⟩, ⟨"ssh://work/nested/deep"⟩, ⟨"/work"⟩]
    let others : List ProjectRoot :=
      [⟨"/work"⟩, ⟨""⟩, ⟨"/work/nest"⟩, ⟨"/work//nested/./"⟩, ⟨"ssh://work/nested/deep"⟩]
    let file : Path := ⟨"/work/nested/x.go"⟩
    (∃ root ∈ roots, root.isLocal = true ∧ root.Contains file) ∧ others.Perm roots ∧
      projectOf roots (some file) = some ⟨"/work//nested/./"⟩ ∧
      (projectOf others (some file)).map Path.components =
        (projectOf roots (some file)).map Path.components := by
  intro roots others file
  have contained : ∃ root ∈ roots, root.isLocal = true ∧ root.Contains file := by decide
  have perm : others.Perm roots := by decide
  obtain ⟨-, deepest, -⟩ := projectOf_deepest roots (some file)
  exact ⟨contained, perm, by decide, (deepest file rfl contained).2 others perm⟩

end ProjectRoot

end FormatService
