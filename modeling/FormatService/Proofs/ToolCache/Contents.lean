import Mathlib.Data.List.Induction
import FormatService.Proofs.ToolCache

/-!
# What a cache keeps of its resolutions

Keys of one tool and one place are one key, however the place is spelled. A cache has one
entry for each key that was ever resolved to a path that is not empty. The entries stand in
the order in which their keys first were, with the spelling of that time and the last path.
-/

set_option autoImplicit false

namespace FormatService

/-- Keys that count as one: the same tool, and roots of the same components. -/
def CacheKey.Alike (a b : CacheKey) : Prop :=
  a.tool = b.tool ∧ a.root.map Path.components = b.root.map Path.components

theorem CacheKey.Alike.trans {a b c : CacheKey} (h : a.Alike b) (h' : b.Alike c) : a.Alike c :=
  ⟨h.1.trans h'.1, h.2.trans h'.2⟩

namespace ToolCache

variable {rs : List (CacheKey × Option String)} {key : CacheKey} {path : String}

def Gives (r : CacheKey × Option String) (key : CacheKey) (path : String) : Prop :=
  r.1.Alike key ∧ r.2 = some path ∧ path ≠ ""

def Found (rs : List (CacheKey × Option String)) (key : CacheKey) : Prop :=
  ∃ r ∈ rs, ∃ path, Gives r key path

/-- The key first got a path, in just this spelling, when `before` had been resolved. -/
def FirstFound (rs : List (CacheKey × Option String)) (key : CacheKey)
    (before : List (CacheKey × Option String)) : Prop :=
  ¬Found before key ∧ ∃ path after, path ≠ "" ∧ rs = before ++ (key, some path) :: after

def LastFound (rs : List (CacheKey × Option String)) (key : CacheKey) (path : String) : Prop :=
  ∃ before r after, rs = before ++ r :: after ∧ Gives r key path ∧ ¬Found after key

theorem found_append (rs rs' : List (CacheKey × Option String)) (key : CacheKey) :
    Found (rs ++ rs') key ↔ Found rs key ∨ Found rs' key := by
  simp [Found, or_and_right, exists_or]

theorem Found.alike {a b : CacheKey} (h : Found rs a) (alike : a.Alike b) : Found rs b := by
  obtain ⟨r, mem, path, same, some⟩ := h
  exact ⟨r, mem, path, same.trans alike, some⟩

theorem FirstFound.found {before : List (CacheKey × Option String)}
    (h : FirstFound rs key before) : Found rs key := by
  obtain ⟨-, path, after, ne, rfl⟩ := h
  exact ⟨(key, some path), by simp, path, ⟨rfl, rfl⟩, rfl, ne⟩

theorem FirstFound.append {before : List (CacheKey × Option String)}
    (h : FirstFound rs key before) (rs' : List (CacheKey × Option String)) :
    FirstFound (rs ++ rs') key before := by
  obtain ⟨new, path, after, ne, rfl⟩ := h
  exact ⟨new, path, after ++ rs', ne, by simp⟩

theorem offered_eq_some_iff {r : CacheKey × Option String} :
    offered key r = some path ↔ Gives r key path := by
  obtain ⟨k, p⟩ := r
  by_cases same : k.same key = true
  · have alike : k.Alike key := (CacheKey.same_iff k key).mp same
    simp [offered, same, Gives, alike, Option.filter_eq_some_iff]
  · have apart : ¬k.Alike key := fun alike => same ((CacheKey.same_iff k key).mpr alike)
    simp [offered, same, Gives, apart]

theorem not_found_iff : ¬Found rs key ↔ ∀ r ∈ rs, offered key r = none := by
  simp only [Found, ← offered_eq_some_iff, ← Option.isSome_iff_exists]
  simp

theorem get?_eq_some_iff (rs : List (CacheKey × Option String)) (key : CacheKey) (path : String) :
    (ofResolutions rs).get? key = some path ↔ LastFound rs key path := by
  rw [get?_ofResolutions, List.getLast?_eq_some_iff]
  constructor
  · rintro ⟨paths, all⟩
    -- The last path that is offered stands in one resolution, and none behind it offers any.
    obtain ⟨front, back, rfl, -, one⟩ := List.filterMap_eq_append_iff.mp all
    obtain ⟨between, r, after, rfl, -, gives, rest⟩ := List.filterMap_eq_cons_iff.mp one
    refine ⟨front ++ between, r, after, by simp, offered_eq_some_iff.mp gives, ?_⟩
    exact not_found_iff.mpr (List.filterMap_eq_nil_iff.mp rest)
  · rintro ⟨before, r, after, rfl, gives, last⟩
    refine ⟨before.filterMap (offered key), ?_⟩
    have none := List.filterMap_eq_nil_iff.mpr (not_found_iff.mp last)
    simp [offered_eq_some_iff.mpr gives, none]

theorem get?_eq_none_iff (rs : List (CacheKey × Option String)) (key : CacheKey) :
    (ofResolutions rs).get? key = none ↔ ¬Found rs key := by
  rw [get?_ofResolutions, List.getLast?_eq_none_iff, List.filterMap_eq_nil_iff, not_found_iff]

theorem keys_insertEntry (key : CacheKey) (path : String) (entries : List (CacheKey × String)) :
    (insertEntry key path entries).map (·.1) =
      if entries.any (·.1.same key) then entries.map (·.1) else entries.map (·.1) ++ [key] := by
  induction entries with
  | nil => rfl
  | cons entry entries ih =>
    obtain ⟨k, p⟩ := entry
    by_cases same : k.same key = true
    · simp [insertEntry, same]
    · rw [insertEntry, if_neg same, List.map_cons, ih]
      by_cases rest : entries.any (·.1.same key) = true <;> simp [same, rest]

structure Listed (rs : List (CacheKey × Option String)) (keys : List CacheKey) : Prop where
  first : ∀ k ∈ keys, ∃ before, FirstFound rs k before
  complete : ∀ key, Found rs key → ∃ k ∈ keys, k.Alike key
  ordered : keys.Pairwise fun a b => ∃ before, FirstFound rs b before ∧ Found before a

namespace Listed

variable {keys : List CacheKey}

theorem keep (h : Listed rs keys) {r : CacheKey × Option String}
    (known : ∀ key, Found [r] key → ∃ k ∈ keys, k.Alike key) : Listed (rs ++ [r]) keys where
  first k mem := by
    obtain ⟨before, first⟩ := h.first k mem
    exact ⟨before, first.append _⟩
  complete key found := by
    rcases (found_append _ _ _).mp found with found | found
    · exact h.complete key found
    · exact known key found
  ordered := h.ordered.imp fun ⟨before, first, found⟩ => ⟨before, first.append _, found⟩

theorem grow (h : Listed rs keys) (ne : path ≠ "") (new : ∀ k ∈ keys, ¬k.Alike key) :
    Listed (rs ++ [(key, some path)]) (keys ++ [key]) := by
  have first : FirstFound (rs ++ [(key, some path)]) key rs := by
    refine ⟨fun found => ?_, path, [], ne, rfl⟩
    obtain ⟨k, mem, alike⟩ := h.complete key found
    exact new k mem alike
  refine ⟨fun k mem => ?_, fun other found => ?_, List.pairwise_append.mpr ⟨?_, ?_, ?_⟩⟩
  · rcases List.mem_append.mp mem with mem | mem
    · obtain ⟨before, first⟩ := h.first k mem
      exact ⟨before, first.append _⟩
    · exact ⟨rs, List.mem_singleton.mp mem ▸ first⟩
  · rcases (found_append _ _ _).mp found with found | ⟨r, mem, p, gives⟩
    · obtain ⟨k, mem, alike⟩ := h.complete other found
      exact ⟨k, List.mem_append_left _ mem, alike⟩
    · rw [List.mem_singleton.mp mem] at gives
      exact ⟨key, by simp, gives.1⟩
  · exact h.ordered.imp fun ⟨before, first, found⟩ => ⟨before, first.append _, found⟩
  · exact List.pairwise_singleton _ _
  · intro a mem b last
    obtain ⟨before, found⟩ := h.first a mem
    rw [List.mem_singleton.mp last]
    exact ⟨rs, first, found.found⟩

end Listed

theorem listed_addResolution {entries : List (CacheKey × String)}
    (h : Listed rs (entries.map (·.1))) (r : CacheKey × Option String) :
    Listed (rs ++ [r]) ((addResolution entries r).map (·.1)) := by
  obtain ⟨k, _ | p⟩ := r
  · exact h.keep fun key found => by simp [Found, Gives] at found
  · by_cases he : p = ""
    · rw [addResolution, if_pos he]
      refine h.keep fun key found => ?_
      obtain ⟨r, mem, path, -, some, ne⟩ := found
      rw [List.mem_singleton.mp mem] at some
      exact absurd (he ▸ (Option.some.inj some).symm) ne
    · rw [addResolution, if_neg he, keys_insertEntry]
      split
      · rename_i there
        obtain ⟨e, mem, same⟩ := List.any_eq_true.mp there
        have alike : e.1.Alike k := (CacheKey.same_iff _ _).mp same
        refine h.keep fun key found => ⟨e.1, List.mem_map_of_mem mem, ?_⟩
        obtain ⟨r, mem, path, gives⟩ := found
        rw [List.mem_singleton.mp mem] at gives
        exact alike.trans gives.1
      · rename_i missing
        refine h.grow he fun key known alike => missing (List.any_eq_true.mpr ?_)
        obtain ⟨e, mem, rfl⟩ := List.mem_map.mp known
        exact ⟨e, mem, (CacheKey.same_iff _ _).mpr alike⟩

theorem listed_ofResolutions (rs : List (CacheKey × Option String)) :
    Listed rs ((ofResolutions rs).entries.map (·.1)) := by
  -- A fold has seen all but the last resolution, so the induction is on the end of the list.
  induction rs using List.reverseRecOn with
  | nil => exact ⟨by simp [ofResolutions], by simp [Found], List.Pairwise.nil⟩
  | append_singleton rs r ih =>
    simp only [ofResolutions, List.foldl_append, List.foldl_cons, List.foldl_nil] at ih ⊢
    exact listed_addResolution ih r

structure Holds (rs : List (CacheKey × Option String)) (entries : List (CacheKey × String)) :
    Prop where
  first : ∀ e ∈ entries, ∃ before, FirstFound rs e.1 before
  last : ∀ e ∈ entries, LastFound rs e.1 e.2
  complete : ∀ key, Found rs key → ∃ e ∈ entries, e.1.Alike key
  distinct : entries.Pairwise fun a b => ¬a.1.Alike b.1
  /-- When the later one first got a path, the earlier one had one. -/
  ordered : entries.Pairwise fun a b => ∃ before, FirstFound rs b.1 before ∧ Found before a.1

theorem Listed.distinct {keys : List CacheKey} (h : Listed rs keys) :
    keys.Pairwise fun a b => ¬a.Alike b :=
  h.ordered.imp fun ⟨_, first, found⟩ alike => first.1 (found.alike alike)

theorem find?_of_mem {entries : List (CacheKey × String)}
    (distinct : (entries.map (·.1)).Pairwise fun a b => ¬a.Alike b) {e : CacheKey × String}
    (mem : e ∈ entries) : entries.find? (·.1.same e.1) = some e := by
  induction entries with
  | nil => simp at mem
  | cons entry entries ih =>
    rw [List.map_cons, List.pairwise_cons] at distinct
    rcases List.mem_cons.mp mem with rfl | mem
    · simp [CacheKey.same_refl]
    · have apart : ¬entry.1.same e.1 = true := fun same =>
        distinct.1 e.1 (List.mem_map_of_mem mem) ((CacheKey.same_iff _ _).mp same)
      simpa [apart] using ih distinct.2 mem

/-- The entries of a cache, what it gives for a key, and where a tool is looked up: a key of
the project comes before the one without. -/
theorem ofResolutions_holds (rs : List (CacheKey × Option String)) :
    Holds rs (ofResolutions rs).entries ∧
      (∀ key path, (ofResolutions rs).get? key = some path ↔ LastFound rs key path) ∧
      (∀ key, (ofResolutions rs).get? key = none ↔ ¬Found rs key) ∧
      ∀ tool project, (ofResolutions rs).lookup tool project =
        (project.bind fun p => (ofResolutions rs).get? ⟨tool, some p⟩).or
          ((ofResolutions rs).get? ⟨tool, none⟩) := by
  have listed := listed_ofResolutions rs
  refine ⟨⟨fun e mem => listed.first e.1 (List.mem_map_of_mem mem), fun e mem => ?_,
    fun key found => ?_, List.pairwise_map.mp listed.distinct, List.pairwise_map.mp listed.ordered⟩,
    get?_eq_some_iff rs, get?_eq_none_iff rs, fun tool project => ?_⟩
  · rw [← get?_eq_some_iff, get?, find?_of_mem listed.distinct mem]
    rfl
  · obtain ⟨k, known, alike⟩ := listed.complete key found
    obtain ⟨e, mem, rfl⟩ := List.mem_map.mp known
    exact ⟨e, mem, alike⟩
  · cases project <;> rfl

/-- The place and the spelling of the first path, the path of the last. -/
example : (ofResolutions [(⟨.gofmt, some ⟨"/a"⟩⟩, none), (⟨.gofmt, some ⟨"/a/"⟩⟩, some "/1"),
    (⟨.gofmt, none⟩, some "/2"), (⟨.gofmt, some ⟨"/./a"⟩⟩, some "/3"),
    (⟨.gofmt, none⟩, some "")]).entries =
    [(⟨.gofmt, some ⟨"/a/"⟩⟩, "/3"), (⟨.gofmt, none⟩, "/2")] := by decide

end ToolCache

end FormatService
