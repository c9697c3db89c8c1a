import FormatService.Coordinator.Format

/-!
# What a rebuild does to the coordinator

The start of a rebuild is refused, aborted or takes the slot; its end gives the
slot back and replaces the cache or leaves everything as it was. What becomes of
the host on the way is left open: each result is stated up to the host.
-/

set_option autoImplicit false

namespace FormatService.Coordinator

def Rebuild.keys (rebuild : Rebuild) : List CacheKey := rebuild.lookups.map (·.1)

variable {σ : Type}

/-- The coordinator after a rebuild that has found something for the cache, or nothing. -/
def concluded (rebuild : Rebuild) (found : Option (List (CacheKey × Option String)))
    (c : Coordinator σ) : Coordinator σ :=
  match found with
  | none => { c with rebuilding := false }
  | some resolutions =>
    { c with cache := some (ToolCache.ofResolutions resolutions),
             appliedPaths := rebuild.toolPaths
             rebuilding := false }

theorem concluded_eq (rebuild : Rebuild) (found : Option (List (CacheKey × Option String)))
    (c : Coordinator σ) : ∃ cache paths, concluded rebuild found c =
      { c with cache := cache, appliedPaths := paths, rebuilding := false } := by
  cases found <;> exact ⟨_, _, rfl⟩

theorem concluded_rebuilding (rebuild : Rebuild)
    (found : Option (List (CacheKey × Option String))) (c : Coordinator σ) :
    (concluded rebuild found c).rebuilding = false := by
  obtain ⟨cache, paths, hc⟩ := concluded_eq rebuild found c
  rw [hc]

theorem concluded_disposed (rebuild : Rebuild)
    (found : Option (List (CacheKey × Option String))) (c : Coordinator σ) :
    (concluded rebuild found c).disposed = c.disposed := by
  obtain ⟨cache, paths, hc⟩ := concluded_eq rebuild found c
  rw [hc]

theorem concluded_busy (rebuild : Rebuild) (found : Option (List (CacheKey × Option String)))
    (c : Coordinator σ) : concluded rebuild found { c with rebuilding := true } =
      concluded rebuild found c := by
  cases found <;> rfl

theorem concluded_begun (rebuild : Rebuild) (found : Option (List (CacheKey × Option String)))
    (c : Coordinator σ) (h : σ) :
    concluded rebuild found { c with host := h, rebuilding := true } =
      { concluded rebuild found c with host := h } := by
  cases found <;> rfl

variable [Host σ]

/-- What a rebuild would put into the cache if it ended now, if anything. -/
def found? (rebuild : Rebuild) (c : Coordinator σ) : Option (List (CacheKey × Option String)) :=
  match answers c.host rebuild.lookups with
  | .error _ => none
  | .ok resolutions => if c.disposed then none else some resolutions

theorem beginRebuild_cases (c : Coordinator σ) :
    (c.rebuilding = true ∧ ∃ h, c.beginRebuild = ({ c with host := h }, .refused)) ∨
      (c.rebuilding = false ∧ c.disposed = true ∧ c.beginRebuild = (c, .aborted)) ∨
      (c.rebuilding = false ∧ c.disposed = false ∧
        ∃ h, c.beginRebuild = ({ c with host := h, rebuilding := true }, .searching c.plan)) := by
  by_cases hr : c.rebuilding = true
  · exact .inl ⟨hr, _, by rw [beginRebuild, if_pos hr]; rfl⟩
  · have hf : c.rebuilding = false := by simpa using hr
    by_cases hd : c.disposed = true
    · exact .inr (.inl ⟨hf, hd, by rw [beginRebuild, if_neg hr, if_pos hd]⟩)
    · have hl : c.disposed = false := by simpa using hd
      exact .inr (.inr ⟨hf, hl, _, by rw [beginRebuild, if_neg hr, if_neg hd]; rfl⟩)

theorem finishRebuild_eq (rebuild : Rebuild) (c : Coordinator σ) :
    ∃ h, c.finishRebuild rebuild =
      ({ concluded rebuild (c.found? rebuild) c with host := h }, (c.found? rebuild).isSome) := by
  cases ha : answers c.host rebuild.lookups with
  | error failure =>
    have hf : c.found? rebuild = none := by rw [found?, ha]
    rw [hf, finishRebuild, ha]
    exact ⟨_, rfl⟩
  | ok resolutions =>
    by_cases hd : c.disposed = true
    · have hf : c.found? rebuild = none := by simp only [found?, ha, if_pos hd]
      have hd' : (c.onHost (report resolutions)).disposed = true := hd
      rw [hf, finishRebuild, ha]
      simp only [if_pos hd']
      exact ⟨_, rfl⟩
    · have hf : c.found? rebuild = some resolutions := by simp only [found?, ha, if_neg hd]
      have hd' : ¬(c.onHost (report resolutions)).disposed = true := hd
      rw [hf, finishRebuild, ha]
      simp only [if_neg hd']
      exact ⟨_, rfl⟩

theorem found?_of_disposed {rebuild : Rebuild} {c : Coordinator σ} (h : c.disposed = true) :
    c.found? rebuild = none := by
  rw [found?]
  split
  · rfl
  · rw [if_pos h]

theorem keys_of_answers {h : σ} {lookups resolutions : List (CacheKey × Option String)}
    (ha : answers h lookups = .ok resolutions) : resolutions.map (·.1) = lookups.map (·.1) := by
  induction lookups generalizing resolutions with
  | nil =>
    obtain rfl := Except.ok.inj ha
    rfl
  | cons lookup lookups ih =>
    obtain ⟨key, path⟩ := lookup
    cases path with
    | some path =>
      rw [answers] at ha
      cases hr : answers h lookups with
      | error => rw [hr] at ha; contradiction
      | ok others =>
        rw [hr] at ha
        obtain rfl := Except.ok.inj ha
        simp [ih hr]
    | none =>
      rw [answers] at ha
      cases hk : Host.answerSearch key.tool key.root h with
      | error => rw [hk] at ha; contradiction
      | ok path =>
        rw [hk] at ha
        cases hr : answers h lookups with
        | error => rw [hr] at ha; contradiction
        | ok others =>
          rw [hr] at ha
          obtain rfl := Except.ok.inj ha
          simp [ih hr]

theorem keys_of_found? {rebuild : Rebuild} {c : Coordinator σ}
    {resolutions : List (CacheKey × Option String)} (h : c.found? rebuild = some resolutions) :
    resolutions.map (·.1) = rebuild.keys := by
  rw [found?] at h
  split at h
  · contradiction
  · next ha =>
    split at h
    · contradiction
    · obtain rfl := Option.some.inj h
      exact keys_of_answers ha

/-- What a rebuild may find, with the host as it is or as it comes to be. -/
def CanFind (c : Coordinator σ) (rebuild : Rebuild)
    (found : Option (List (CacheKey × Option String))) : Prop :=
  ∃ h : σ, found = found? rebuild { c with host := h }

theorem found?_canFind (c : Coordinator σ) (rebuild : Rebuild) :
    c.CanFind rebuild (c.found? rebuild) := ⟨c.host, rfl⟩

namespace CanFind

variable {c : Coordinator σ} {rebuild : Rebuild} {found : Option (List (CacheKey × Option String))}

theorem of_disposed (h : c.CanFind rebuild found) (late : c.disposed = true) : found = none := by
  obtain ⟨host, rfl⟩ := h
  exact found?_of_disposed late

theorem keys {resolutions : List (CacheKey × Option String)}
    (h : c.CanFind rebuild (some resolutions)) :
    resolutions.map (·.1) = rebuild.keys := by
  obtain ⟨host, hf⟩ := h
  exact keys_of_found? hf.symm

end CanFind

theorem plan_keys (c : Coordinator σ) : c.plan.keys = CacheKey.forRoots c.roots := by
  simp [Rebuild.keys, plan, Function.comp_def]

theorem plan_toolPaths (c : Coordinator σ) : c.plan.toolPaths = c.settings.toolPaths := rfl

end FormatService.Coordinator
