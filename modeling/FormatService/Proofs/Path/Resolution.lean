import Mathlib.Data.List.Chain
import FormatService.ProjectRoot

/-!
# Resolved paths

Taken from a directory, every path comes to a text in which no two slashes follow each other.
Such a text has no scheme, so it stands for a place on this machine even if the path was
written as the address of another one.
-/

set_option autoImplicit false

namespace FormatService

namespace Path

theorem pieces_slash (t : List Char) : pieces ('/' :: t) = [] :: pieces t := by
  rw [pieces, if_pos rfl]

theorem pieces_cons {c : Char} (hc : c ≠ '/') (t : List Char) :
    ∃ first rest, pieces t = first :: rest ∧ pieces (c :: t) = (c :: first) :: rest := by
  have some : ∃ first rest, pieces t = first :: rest := by
    cases t with
    | nil => exact ⟨[], [], rfl⟩
    | cons d t =>
      rw [pieces]
      split
      · exact ⟨_, _, rfl⟩
      · split <;> exact ⟨_, _, rfl⟩
  obtain ⟨first, rest, h⟩ := some
  refine ⟨first, rest, h, ?_⟩
  rw [pieces, if_neg hc, h]

theorem slash_notMem_of_mem_pieces {t piece : List Char} (h : piece ∈ pieces t) :
    '/' ∉ piece := by
  induction t generalizing piece with
  | nil =>
    obtain rfl := List.mem_singleton.mp h
    exact List.not_mem_nil
  | cons c t ih =>
    by_cases hc : c = '/'
    · rw [hc, pieces_slash] at h
      rcases List.mem_cons.mp h with rfl | h
      · exact List.not_mem_nil
      · exact ih h
    · obtain ⟨first, rest, ht, hct⟩ := pieces_cons hc t
      rw [hct] at h
      rcases List.mem_cons.mp h with rfl | h
      · have clean := ih (ht ▸ List.mem_cons_self)
        simp [Ne.symm hc, clean]
      · exact ih (ht ▸ List.mem_cons_of_mem _ h)

theorem exists_mem_pieces {t : List Char} {c : Char} (hc : c ≠ '/') (h : c ∈ t) :
    ∃ piece ∈ pieces t, c ∈ piece := by
  induction t with
  | nil => contradiction
  | cons d t ih =>
    by_cases hd : d = '/'
    · have later : c ∈ t := by simpa [hd, hc] using h
      obtain ⟨piece, mem, there⟩ := ih later
      rw [hd, pieces_slash]
      exact ⟨piece, List.mem_cons_of_mem _ mem, there⟩
    · obtain ⟨first, rest, ht, hdt⟩ := pieces_cons hd t
      rw [hdt]
      rcases List.mem_cons.mp h with rfl | later
      · exact ⟨_, List.mem_cons_self, List.mem_cons_self⟩
      · obtain ⟨piece, mem, there⟩ := ih later
        rw [ht] at mem
        rcases List.mem_cons.mp mem with rfl | mem
        · exact ⟨_, List.mem_cons_self, List.mem_cons_of_mem _ there⟩
        · exact ⟨piece, List.mem_cons_of_mem _ mem, there⟩

def Solid (piece : List Char) : Prop := piece ≠ [] ∧ '/' ∉ piece

theorem solid_of_component? {t piece : List Char} {c : Component} (mem : piece ∈ pieces t)
    (h : component? piece = some c) : Solid c.text := by
  have clean := slash_notMem_of_mem_pieces mem
  rw [component?] at h
  split at h
  · contradiction
  · next void =>
    split at h
    · obtain rfl := Option.some.inj h
      exact ⟨by decide, by decide⟩
    · obtain rfl := Option.some.inj h
      exact ⟨fun empty => void (.inl empty), clean⟩

theorem componentsOf_solid (t : List Char) :
    ∃ rest, (∀ c ∈ rest, Solid c.text) ∧
      (componentsOf t = rest ∨ componentsOf t = .root :: rest) := by
  have filtered {t : List Char} {ps : List (List Char)} (within : ∀ p ∈ ps, p ∈ pieces t) :
      ∀ c ∈ ps.filterMap component?, Solid c.text := by
    intro c hc
    obtain ⟨piece, mem, h⟩ := List.mem_filterMap.mp hc
    exact solid_of_component? (within piece mem) h
  rw [componentsOf.eq_def]
  split
  · next t => exact ⟨_, filtered fun p h => h, .inr rfl⟩
  · cases ht : pieces t with
    | nil => exact ⟨[], by simp, .inl rfl⟩
    | cons first rest =>
      refine ⟨_, ?_, .inl rfl⟩
      intro c hc
      rcases List.mem_append.mp hc with early | late
      · split at early
        · obtain rfl := List.mem_singleton.mp early
          exact ⟨by decide, by decide⟩
        · exact solid_of_component? (ht ▸ List.mem_cons_self) (Option.mem_toList.mp early)
      · exact filtered (fun p h => ht ▸ List.mem_cons_of_mem _ h) c late

def Spaced (t : List Char) : Prop := t.IsChain fun a b => ¬(a = '/' ∧ b = '/')

theorem spaced_of_slash_notMem {t : List Char} (h : '/' ∉ t) : Spaced t := by
  refine List.isChain_iff_forall_rel_of_append_cons_cons.mpr ?_
  rintro a b before after rfl ⟨rfl, -⟩
  simp at h

theorem Solid.spaced {piece : List Char} (solid : Solid piece) : Spaced ('/' :: piece) := by
  refine List.isChain_cons.mpr ⟨?_, spaced_of_slash_notMem solid.2⟩
  rintro c first ⟨-, rfl⟩
  exact solid.2 (List.mem_of_mem_head? first)

theorem spaced_joinPieces {ps : List (List Char)} (solid : ∀ p ∈ ps, Solid p) :
    Spaced ('/' :: joinPieces ps) := by
  induction ps with
  | nil => exact .singleton _
  | cons p ps ih =>
    have first := solid p List.mem_cons_self
    cases ps with
    | nil => exact first.spaced
    | cons q rest =>
      have later := ih fun p h => solid p (List.mem_cons_of_mem _ h)
      -- Two slashes could only meet where a piece with its slash ends and the next one starts.
      have apart : ∀ c ∈ ('/' :: p).getLast?, c ≠ '/' := by
        rintro c last rfl
        rw [List.getLast?_cons_of_ne_nil first.1] at last
        exact first.2 (List.mem_of_mem_getLast? last)
      have joined := List.isChain_append.mpr ⟨first.spaced, later, fun c last d _ both =>
        apart c last both.1⟩
      exact joined

theorem not_spaced_of_hasScheme {t : List Char} (h : ProjectRoot.hasScheme t = true) :
    ¬Spaced t := by
  intro spaced
  induction t using ProjectRoot.hasScheme.induct with
  | case1 => contradiction
  -- The text goes on with `://`.
  | case2 rest => exact (List.isChain_cons_cons.mp spaced.tail).1 ⟨rfl, rfl⟩
  | case3 c t other ih =>
    rw [ProjectRoot.hasScheme] at h
    · exact ih h spaced.tail
    · exact other

theorem toList_ofComponents_root (rest : List Component) :
    (ofComponents (.root :: rest)).text.toList = '/' :: joinPieces (rest.map Component.text) :=
  String.toList_ofList

theorem toList_ofComponents {cs : List Component} (solid : ∀ c ∈ cs, Solid c.text) :
    (ofComponents cs).text.toList = joinPieces (cs.map Component.text) := by
  cases cs with
  | nil => rfl
  | cons c cs =>
    cases c with
    | root => exact absurd rfl (solid _ List.mem_cons_self).1
    | _ => exact String.toList_ofList

variable (directory p : Path)

def taken : List Component := (join directory p).components.filter (· != .here)

theorem taken_solid :
    ∃ rest, (∀ c ∈ rest, Solid c.text) ∧
      (taken directory p = rest ∨ taken directory p = .root :: rest) := by
  obtain ⟨rest, solid, shape⟩ := componentsOf_solid (join directory p).text.toList
  refine ⟨rest.filter (· != .here), fun c h => solid c (List.mem_of_mem_filter h), ?_⟩
  rw [taken, components]
  rcases shape with relative | absolute
  · rw [relative]
    exact .inl rfl
  · rw [absolute]
    exact .inr rfl

theorem resolve_spaced : Spaced (resolve directory p).text.toList := by
  obtain ⟨rest, solid, shape⟩ := taken_solid directory p
  have joined : Spaced ('/' :: joinPieces (rest.map Component.text)) :=
    spaced_joinPieces (by simpa using solid)
  rw [resolve]
  rcases shape with relative | absolute
  · rw [← taken, relative, toList_ofComponents solid]
    exact joined.tail
  · rw [← taken, absolute, toList_ofComponents_root]
    exact joined

theorem join_suffix : p.text.toList <:+ (join directory p).text.toList := by
  rw [join]
  split
  · exact List.suffix_refl _
  · split
    · exact ⟨directory.text.toList ++ ['/'], by simp⟩
    · exact ⟨directory.text.toList, by simp⟩

theorem joinPieces_ne_nil {ps : List (List Char)} (some : ps ≠ []) (solid : ∀ p ∈ ps, Solid p) :
    joinPieces ps ≠ [] := by
  cases ps with
  | nil => contradiction
  | cons p ps =>
    cases ps with
    | nil => exact (solid p List.mem_cons_self).1
    | cons q rest => simp [joinPieces]

theorem name_mem_componentsOf {t : List Char} {c : Char} (slash : c ≠ '/') (dot : c ≠ '.')
    (mem : c ∈ t) : ∃ piece, .name piece ∈ componentsOf t := by
  have named {piece : List Char} (h : c ∈ piece) : component? piece = some (.name piece) := by
    rw [component?, if_neg (by rintro (rfl | rfl) <;> simp [dot] at h),
      if_neg (by rintro rfl; simp [dot] at h)]
  rw [componentsOf.eq_def]
  split
  · next t =>
    obtain ⟨piece, mem, h⟩ := exists_mem_pieces slash (by simpa [slash] using mem)
    exact ⟨piece, List.mem_cons_of_mem _ (List.mem_filterMap.mpr ⟨piece, mem, named h⟩)⟩
  · obtain ⟨piece, mem, h⟩ := exists_mem_pieces slash mem
    cases ht : pieces t with
    | nil =>
      rw [ht] at mem
      contradiction
    | cons first rest =>
      rw [ht] at mem
      refine ⟨piece, List.mem_append.mpr ?_⟩
      rcases List.mem_cons.mp mem with rfl | later
      · have other : piece ≠ ['.'] := by
          rintro rfl
          simp [dot] at h
        rw [if_neg other, named h]
        exact .inl List.mem_cons_self
      · exact .inr (List.mem_filterMap.mpr ⟨piece, later, named h⟩)

variable {directory p}

theorem resolve_ne_empty {c : Char} (slash : c ≠ '/') (dot : c ≠ '.') (mem : c ∈ p.text.toList) :
    (resolve directory p).text.toList ≠ [] := by
  obtain ⟨piece, named⟩ := name_mem_componentsOf slash dot ((join_suffix directory p).mem mem)
  have there : .name piece ∈ taken directory p := List.mem_filter.mpr ⟨named, rfl⟩
  obtain ⟨rest, solid, shape⟩ := taken_solid directory p
  rw [resolve]
  rcases shape with relative | absolute
  · rw [← taken, relative, toList_ofComponents solid]
    rw [relative] at there
    exact joinPieces_ne_nil (List.ne_nil_of_mem (List.mem_map_of_mem there)) (by simpa using solid)
  · rw [← taken, absolute, toList_ofComponents_root]
    exact List.cons_ne_nil _ _

end Path

namespace ProjectRoot

theorem colon_mem_of_hasScheme {t : List Char} (h : hasScheme t = true) : ':' ∈ t := by
  induction t using hasScheme.induct with
  | case1 => contradiction
  | case2 rest => exact List.mem_cons_self
  | case3 c t other ih =>
    rw [hasScheme] at h
    · exact List.mem_cons_of_mem _ (ih h)
    · exact other

theorem isLocal_resolve_of_hasScheme (directory : Path) {p : String}
    (remote : hasScheme p.toList = true) :
    isLocal ⟨(Path.resolve directory ⟨p⟩).text⟩ = true := by
  have spaced := Path.resolve_spaced directory ⟨p⟩
  have some : (Path.resolve directory ⟨p⟩).text ≠ "" := fun empty =>
    Path.resolve_ne_empty (by decide) (by decide) (colon_mem_of_hasScheme remote)
      (congrArg String.toList empty)
  have here : hasScheme (Path.resolve directory ⟨p⟩).text.toList = false :=
    Bool.eq_false_iff.mpr fun h => Path.not_spaced_of_hasScheme h spaced
  rw [isLocal, here]
  simp [some]

end ProjectRoot

end FormatService
