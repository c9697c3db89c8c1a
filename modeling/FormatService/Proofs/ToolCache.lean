import FormatService.ToolCache

/-!
# What is in a cache

A cache has no key that was not asked for: each of its keys is, to the letter, the
key of one of the resolutions it was built from. For a key it holds the last path that
was resolved for the same tool and the same place, however that place was spelled.
-/

set_option autoImplicit false

namespace FormatService

namespace CacheKey

theorem same_iff (a b : CacheKey) : a.same b = true ↔
    a.tool = b.tool ∧ a.root.map Path.components = b.root.map Path.components := by
  cases ha : a.root <;> cases hb : b.root <;> simp [same, ha, hb, Path.same]

theorem same_refl (a : CacheKey) : a.same a = true := (same_iff a a).mpr ⟨rfl, rfl⟩

theorem same_congr {a b : CacheKey} (h : a.same b = true) (c : CacheKey) : a.same c = b.same c := by
  rw [same_iff] at h
  rw [Bool.eq_iff_iff, same_iff, same_iff, h.1, h.2]

end CacheKey

namespace ToolCache

theorem mem_insertEntry {key : CacheKey} {path : String} {entries : List (CacheKey × String)}
    {e : CacheKey × String} (h : e ∈ insertEntry key path entries) :
    e.1 = key ∨ e.1 ∈ entries.map (·.1) := by
  induction entries with
  | nil => exact .inl (congrArg Prod.fst (List.mem_singleton.mp h))
  | cons entry entries ih =>
    obtain ⟨k, p⟩ := entry
    rw [insertEntry] at h
    split at h
    · rcases List.mem_cons.mp h with rfl | h
      · exact .inr List.mem_cons_self
      · exact .inr (List.mem_cons_of_mem _ (List.mem_map_of_mem h))
    · rcases List.mem_cons.mp h with rfl | h
      · exact .inr List.mem_cons_self
      · rcases ih h with he | hm
        · exact .inl he
        · exact .inr (List.mem_cons_of_mem _ hm)

theorem mem_foldl_addResolution {resolutions : List (CacheKey × Option String)}
    {entries : List (CacheKey × String)} {e : CacheKey × String}
    (h : e ∈ resolutions.foldl addResolution entries) :
    e.1 ∈ resolutions.map (·.1) ∨ e.1 ∈ entries.map (·.1) := by
  induction resolutions generalizing entries with
  | nil => exact .inr (List.mem_map_of_mem h)
  | cons r resolutions ih =>
    rw [List.foldl_cons] at h
    rcases ih h with hm | hm
    · exact .inl (List.mem_cons_of_mem _ hm)
    · obtain ⟨key, path⟩ := r
      cases path with
      | none => exact .inr hm
      | some path =>
        rw [addResolution] at hm
        split at hm
        · exact .inr hm
        · obtain ⟨e', he', hk⟩ := List.mem_map.mp hm
          rw [← hk]
          rcases mem_insertEntry he' with he | hm
          · exact .inl (he ▸ List.mem_cons_self)
          · exact .inr hm

theorem key_of_mem_ofResolutions {resolutions : List (CacheKey × Option String)}
    {e : CacheKey × String} (h : e ∈ (ofResolutions resolutions).entries) :
    e.1 ∈ resolutions.map (·.1) := by
  rcases mem_foldl_addResolution h with h | h
  · exact h
  · exact absurd h List.not_mem_nil

theorem find?_insertEntry (key query : CacheKey) (path : String)
    (entries : List (CacheKey × String)) :
    ((insertEntry key path entries).find? (·.1.same query)).map (·.2) =
      if key.same query then some path else (entries.find? (·.1.same query)).map (·.2) := by
  induction entries with
  | nil => cases h : key.same query <;> simp [insertEntry, h]
  | cons entry entries ih =>
    obtain ⟨k, p⟩ := entry
    rw [insertEntry]
    by_cases hs : k.same key = true
    · have same := CacheKey.same_congr hs query
      cases h : key.same query <;> simp [hs, h, same]
    · rw [if_neg hs, List.find?_cons, List.find?_cons]
      by_cases hq : k.same query = true
      · have apart : ¬key.same query = true := by
          rw [CacheKey.same_iff] at hs hq ⊢
          exact fun h => hs ⟨hq.1.trans h.1.symm, hq.2.trans h.2.symm⟩
        simp [hq, apart]
      · simpa [hq] using ih

/-- The path that a resolution has for a key, if it is one for the same place. -/
def offered (key : CacheKey) (r : CacheKey × Option String) : Option String :=
  if r.1.same key then r.2.filter (· ≠ "") else none

theorem find?_addResolution (key : CacheKey) (r : CacheKey × Option String)
    (entries : List (CacheKey × String)) :
    ((addResolution entries r).find? (·.1.same key)).map (·.2) =
      (offered key r).or ((entries.find? (·.1.same key)).map (·.2)) := by
  obtain ⟨k, _ | path⟩ := r
  · simp [addResolution, offered]
  · by_cases he : path = ""
    · simp [addResolution, offered, he, Option.filter]
    · rw [addResolution, if_neg he, find?_insertEntry, offered]
      by_cases hs : k.same key = true <;> simp [hs, he, Option.filter]

theorem get?_ofResolutions (resolutions : List (CacheKey × Option String)) (key : CacheKey) :
    (ofResolutions resolutions).get? key = (resolutions.filterMap (offered key)).getLast? := by
  have fold : ∀ entries,
      ((resolutions.foldl addResolution entries).find? (·.1.same key)).map (·.2) =
      (resolutions.filterMap (offered key)).getLast?.or
        ((entries.find? (·.1.same key)).map (·.2)) := by
    induction resolutions with
    | nil => simp
    | cons r resolutions ih =>
      intro entries
      rw [List.foldl_cons, ih, find?_addResolution]
      cases hr : offered key r with
      | none => simp [hr]
      | some path => simp [hr, List.getLast?_cons]
  exact (fold []).trans (by simp)

end ToolCache

end FormatService
