import FormatService.Proofs.Coordinator.Request

/-!
# What a completed rebuild has found

All that a rebuild puts into the cache is fixed by two moments. At its start it reads
roots, settings and which overrides are there; at its end it gets the answers to the
searches that it has issued, for all keys or, if one of them has failed, for none.
-/

set_option autoImplicit false

namespace FormatService.Coordinator

/-- A rebuild that has run to its end: the coordinator when it took the slot, and when the
answers to its searches were there. -/
structure Completion (σ : Type) where
  start : Coordinator σ
  stop : Coordinator σ

variable {σ : Type} [Host σ]

theorem found?_eq (rebuild : Rebuild) (c : Coordinator σ) :
    c.found? rebuild =
      if c.disposed then none else (answers c.host rebuild.lookups).toOption := by
  rw [found?]
  cases answers c.host rebuild.lookups with
  | error failure => exact (ite_self _).symm
  | ok resolutions => rfl

theorem answers_override (h : σ) (key : CacheKey) (path : String)
    (lookups : List (CacheKey × Option String)) :
    (answers h ((key, some path) :: lookups)).toOption =
      (answers h lookups).toOption.map ((key, some path) :: ·) := by
  rw [answers]
  cases answers h lookups <;> rfl

theorem answers_search (h : σ) (key : CacheKey) (lookups : List (CacheKey × Option String)) :
    (answers h ((key, none) :: lookups)).toOption =
      (Host.answerSearch key.tool key.root h).toOption.bind fun path =>
        (answers h lookups).toOption.map ((key, path) :: ·) := by
  rw [answers]
  cases Host.answerSearch key.tool key.root h with
  | error failure => rfl
  | ok path => cases answers h lookups <;> rfl

theorem answers_map (h : σ) (given : CacheKey → Option String) (keys : List CacheKey) :
    (answers h (keys.map fun key => (key, given key))).toOption =
      if (keys.filter fun key => (given key).isNone).all
          (fun key => (Host.answerSearch key.tool key.root h).isOk) then
        some (keys.map fun key =>
          (key, (given key).or (Host.answerSearch key.tool key.root h).toOption.join))
      else none := by
  induction keys with
  | nil => rfl
  | cons key keys ih =>
    rw [List.map_cons, List.map_cons]
    cases hg : given key with
    | some path =>
      rw [List.filter_cons_of_neg (by simp [hg]), answers_override, ih]
      split <;> rfl
    | none =>
      rw [List.filter_cons_of_pos (by simp [hg]), List.all_cons, answers_search, ih]
      cases Host.answerSearch key.tool key.root h with
      | error failure => rfl
      | ok path =>
        rw [Except.isOk, Except.toBool, Bool.true_and]
        split <;> rfl

namespace Completion

variable (k : Completion σ)

/-- The path found for a key: the override of its tool that was there at the start, and
otherwise the answer to the search. -/
def path (key : CacheKey) : Option String :=
  (k.start.override? key.tool).or
    (Host.answerSearch key.tool key.root k.stop.host).toOption.join

def resolutions : List (CacheKey × Option String) :=
  (CacheKey.forRoots k.start.roots).map fun key => (key, k.path key)

/-- The coordinator is still in use, and no search that was issued has failed. -/
def succeeded : Bool :=
  !k.stop.disposed &&
    k.start.searched.all fun key => (Host.answerSearch key.tool key.root k.stop.host).isOk

theorem found?_plan : k.stop.found? k.start.plan =
    if k.succeeded then some k.resolutions else none := by
  rw [found?_eq, plan, answers_map, succeeded, searched]
  cases k.stop.disposed with
  | true => rfl
  | false => rw [Bool.not_false, Bool.true_and]; rfl

theorem finishRebuild_plan : (k.stop.finishRebuild k.start.plan).2 = k.succeeded := by
  obtain ⟨host, hf⟩ := finishRebuild_eq k.start.plan k.stop
  rw [hf, k.found?_plan]
  cases k.succeeded <;> rfl

end Completion

theorem rebuild_succeeded {c : Coordinator σ} (free : c.rebuilding = false)
    (live : c.disposed = false) :
    c.rebuild.2 = Completion.succeeded ⟨c, c.beginRebuild.1⟩ := by
  rw [← Completion.finishRebuild_plan, rebuild, beginRebuild_eq free live]

end FormatService.Coordinator
