import FormatService.Proofs.Path.Resolution

/-!
# The text of a resolved path

Every absolute place has one text in which each component is written once, with one slash in
front of it. Resolving a path gives this text. So it depends on the components of the path only,
and resolving again changes nothing.
-/

set_option autoImplicit false

namespace FormatService.Path

theorem pieces_append_slash (a b : List Char) :
    pieces (a ++ '/' :: b) = pieces a ++ pieces b := by
  induction a with
  | nil => exact pieces_slash b
  | cons c a ih =>
    by_cases hc : c = '/'
    · rw [hc, List.cons_append, pieces_slash, pieces_slash, ih]
      rfl
    · obtain ⟨first, rest, ha, hca⟩ := pieces_cons hc a
      rw [List.cons_append, pieces, if_neg hc, ih, ha, hca]
      rfl

theorem pieces_of_slash_notMem {piece : List Char} (h : '/' ∉ piece) : pieces piece = [piece] := by
  induction piece with
  | nil => rfl
  | cons c piece ih =>
    obtain ⟨hc, rest⟩ := not_or.mp (mt List.mem_cons.mpr h)
    rw [pieces, if_neg (Ne.symm hc), ih rest]

theorem pieces_joinPieces {ps : List (List Char)} (some : ps ≠ [])
    (clean : ∀ p ∈ ps, '/' ∉ p) : pieces (joinPieces ps) = ps := by
  induction ps with
  | nil => contradiction
  | cons p ps ih =>
    have first := pieces_of_slash_notMem (clean p List.mem_cons_self)
    cases ps with
    | nil => exact first
    | cons q rest =>
      have later := ih (List.cons_ne_nil _ _) fun p h => clean p (List.mem_cons_of_mem _ h)
      rw [joinPieces, pieces_append_slash, first, later]
      rfl

theorem text_of_component? {piece : List Char} {c : Component} (h : component? piece = some c) :
    c.text = piece := by
  rw [component?] at h
  split at h
  · contradiction
  · split at h
    · next up =>
      obtain rfl := Option.some.inj h
      exact up.symm
    · obtain rfl := Option.some.inj h
      rfl

/-- What a text adds to the path that it is put behind. -/
def steps (t : List Char) : List Component := (pieces t).filterMap component?

theorem steps_append_slash (a b : List Char) : steps (a ++ '/' :: b) = steps a ++ steps b := by
  rw [steps, pieces_append_slash, List.filterMap_append]
  rfl

theorem mem_steps {t : List Char} {c : Component} (h : c ∈ steps t) :
    component? c.text = some c ∧ Solid c.text := by
  obtain ⟨piece, mem, hc⟩ := List.mem_filterMap.mp h
  rw [text_of_component? hc]
  exact ⟨hc, text_of_component? hc ▸ solid_of_component? mem hc⟩

theorem component?_ne_here (piece : List Char) : component? piece ≠ some .here := by
  intro h
  obtain rfl : ['.'] = piece := text_of_component? h
  exact absurd h (by decide)

theorem filter_filterMap_component? (ps : List (List Char)) :
    (ps.filterMap component?).filter (· != .here) = ps.filterMap component? := by
  refine List.filter_eq_self.mpr fun c mem => bne_iff_ne.mpr ?_
  rintro rfl
  obtain ⟨piece, -, h⟩ := List.mem_filterMap.mp mem
  exact component?_ne_here piece h

theorem steps_joinPieces (t : List Char) : steps (joinPieces ((steps t).map Component.text)) =
    steps t := by
  by_cases none : steps t = []
  · rw [none]
    rfl
  · have clean : ∀ p ∈ (steps t).map Component.text, '/' ∉ p := by
      intro p hp
      obtain ⟨c, hc, rfl⟩ := List.mem_map.mp hp
      exact (mem_steps hc).2.2
    have each : ∀ c ∈ steps t, (component? ∘ Component.text) c = some c := fun c hc =>
      (mem_steps hc).1
    rw [steps, pieces_joinPieces (by simpa using none) clean, List.filterMap_map,
      List.filterMap_congr each, List.filterMap_some]

theorem componentsOf_slash (t : List Char) : componentsOf ('/' :: t) = .root :: steps t := rfl

theorem filter_componentsOf_slash (t : List Char) :
    (componentsOf ('/' :: t)).filter (· != .here) = .root :: steps t := by
  rw [componentsOf_slash, List.filter_cons_of_pos (by decide), steps, filter_filterMap_component?]

theorem filter_componentsOf {t : List Char} (relative : t.head? ≠ some '/') :
    (componentsOf t).filter (· != .here) = steps t := by
  rw [componentsOf.eq_def, steps]
  split
  · contradiction
  · cases pieces t with
    | nil => rfl
    | cons first rest =>
      by_cases dot : first = ['.']
      · simp only [dot, if_true, List.filter_append, filter_filterMap_component?]
        rfl
      · have whole : (component? first).toList ++ rest.filterMap component? =
            (first :: rest).filterMap component? := by
          rw [List.filterMap_cons]
          cases component? first <;> rfl
        simp only [dot, if_false, whole, filter_filterMap_component?]

theorem isAbsolute_iff {p : Path} : p.isAbsolute = true ↔ ∃ t, p.text.toList = '/' :: t := by
  rw [isAbsolute, beq_iff_eq, List.head?_eq_some_iff]

variable {directory : Path}

def reached (directory p : Path) : List Component :=
  (if p.isAbsolute then [] else directory.components) ++ p.components.filter (· != .here)

theorem exists_join (absolute : directory.isAbsolute = true) (p : Path) :
    ∃ t, (join directory p).text.toList = '/' :: t ∧ .root :: steps t = reached directory p := by
  obtain ⟨d, hd⟩ := isAbsolute_iff.mp absolute
  have base : directory.components = .root :: steps d := by rw [components, hd, componentsOf_slash]
  by_cases here : p.isAbsolute = true
  · obtain ⟨t, ht⟩ := isAbsolute_iff.mp here
    refine ⟨t, by rw [join, if_pos here, ht], ?_⟩
    rw [reached, if_pos here, List.nil_append, components, ht, filter_componentsOf_slash]
  · have relative : p.components.filter (· != .here) = steps p.text.toList := by
      refine filter_componentsOf fun slash => here ?_
      rw [isAbsolute, slash, beq_self_eq_true]
    rw [reached, if_neg here, relative, base, join, if_neg here]
    split
    · refine ⟨d ++ '/' :: p.text.toList, by simp [hd], ?_⟩
      rw [steps_append_slash]
      rfl
    · next ending =>
      -- The directory ends in a slash: it is the root, or the slash adds an empty piece only.
      rcases List.eq_nil_or_concat d with rfl | ⟨front, last, rfl⟩
      · exact ⟨p.text.toList, by simp [hd], rfl⟩
      · rw [List.concat_eq_append] at hd ⊢
        obtain rfl : last = '/' := by simpa [hd, List.getLast?_cons] using ending
        refine ⟨front ++ '/' :: p.text.toList, by simp [hd], ?_⟩
        rw [steps_append_slash, steps_append_slash]
        simp [steps, pieces, component?]

/-- Each component is written once, behind one slash. -/
structure Canonical (p : Path) : Prop where
  absolute : p.isAbsolute = true
  undotted : ['.'] ∉ pieces p.text.toList
  spaced : Spaced p.text.toList
  unended : p.text ≠ "/" → p.text.toList.getLast? ≠ some '/'

theorem getLast?_joinPieces {ps : List (List Char)} (solid : ∀ p ∈ ps, Solid p) :
    (joinPieces ps).getLast? ≠ some '/' := by
  induction ps with
  | nil => nofun
  | cons p ps ih =>
    have first := solid p List.mem_cons_self
    cases ps with
    | nil => exact fun last => first.2 (List.mem_of_getLast? last)
    | cons q rest =>
      have solid' : ∀ p ∈ q :: rest, Solid p := fun p h => solid p (List.mem_cons_of_mem _ h)
      have some := joinPieces_ne_nil (List.cons_ne_nil q rest) solid'
      rw [joinPieces, List.getLast?_append_of_ne_nil _ (List.cons_ne_nil _ _),
        List.getLast?_cons_of_ne_nil some]
      exact ih solid'

theorem Canonical.of_solid {p : Path} {ps : List (List Char)}
    (text : p.text.toList = '/' :: joinPieces ps) (solid : ∀ q ∈ ps, Solid q)
    (undotted : ['.'] ∉ ps) : p.Canonical where
  absolute := isAbsolute_iff.mpr ⟨_, text⟩
  undotted := by
    rw [text, pieces_slash]
    by_cases none : ps = []
    · rw [none]
      decide
    · rw [pieces_joinPieces none fun q hq => (solid q hq).2]
      simpa using undotted
  spaced := text ▸ spaced_joinPieces solid
  unended := by
    intro below last
    by_cases none : ps = []
    · rw [none] at text
      exact below (String.toList_injective text)
    · rw [text, List.getLast?_cons_of_ne_nil (joinPieces_ne_nil none solid)] at last
      exact getLast?_joinPieces solid last

/-- A resolved path has one text for the place that it leads to. The place is reached from the
directory unless the path is absolute, and only dots are dropped on the way. -/
theorem resolve_canonical (absolute : directory.isAbsolute = true) (p : Path) :
    (resolve directory p).Canonical ∧
      (resolve directory p).components =
        (if p.isAbsolute then [] else directory.components) ++ p.components.filter (· != .here) ∧
      (∀ other, resolve other (resolve directory p) = resolve directory p) ∧
      ∀ q : Path, q.isAbsolute = p.isAbsolute →
        q.components.filter (· != .here) = p.components.filter (· != .here) →
        resolve directory q = resolve directory p := by
  obtain ⟨t, joined, way⟩ := exists_join absolute p
  have text : (resolve directory p).text.toList =
      '/' :: joinPieces ((steps t).map Component.text) := by
    rw [resolve, components, joined, filter_componentsOf_slash, toList_ofComponents_root]
  have place : (resolve directory p).components = .root :: steps t := by
    rw [components, text, componentsOf_slash, steps_joinPieces]
  have canonical : (resolve directory p).Canonical := by
    refine .of_solid text ?_ ?_
    · intro piece mem
      obtain ⟨c, hc, rfl⟩ := List.mem_map.mp mem
      exact (mem_steps hc).2
    · intro mem
      obtain ⟨c, hc, dot⟩ := List.mem_map.mp mem
      have read := (mem_steps hc).1
      rw [dot] at read
      cases read
  refine ⟨canonical, place.trans way, fun other => ?_, fun q same alike => ?_⟩
  · rw [resolve, join, if_pos canonical.absolute, place, ← componentsOf_slash,
      filter_componentsOf_slash, resolve, components, joined, filter_componentsOf_slash]
  · obtain ⟨u, joined', way'⟩ := exists_join absolute q
    have equal : reached directory q = reached directory p := by rw [reached, reached, same, alike]
    rw [resolve, components, joined', filter_componentsOf_slash, way', equal, ← way,
      ← filter_componentsOf_slash, ← joined]
    rfl

theorem resolve_canonical_spelled :
    let directory : Path := ⟨"/srv/./go/"⟩
    let p : Path := ⟨"./a//../b/."⟩
    let q : Path := ⟨"a/./../b"⟩
    directory.isAbsolute = true ∧ q.isAbsolute = p.isAbsolute ∧
      (resolve directory p).components =
        [.root, .name ['s', 'r', 'v'], .name ['g', 'o'], .name ['a'], .up, .name ['b']] ∧
      resolve directory q = resolve directory p := by
  intro directory p q
  have absolute : directory.isAbsolute = true := by decide
  obtain ⟨-, place, -, same⟩ := resolve_canonical absolute p
  exact ⟨absolute, by decide, place.trans (by decide), same q (by decide) (by decide)⟩

end FormatService.Path
