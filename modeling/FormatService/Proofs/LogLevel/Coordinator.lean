import FormatService.Proofs.Coordinator.Pairing
import FormatService.Proofs.Coordinator.Rebuilt

/-!
# Coordinators of different loudness

Coordinators that are twins but for the loudness of their hosts stay twins, and they give the
same answers.
-/

set_option autoImplicit false

namespace FormatService.Coordinator

open Host (Quieter replies)

variable {σ : Type}

/-- The second coordinator differs from the first one in its host alone. -/
def Twin (R : σ → σ → Prop) (c d : Coordinator σ) : Prop :=
  ∃ h, R c.host h ∧ d = { c with host := h }

variable {R : σ → σ → Prop} {c d : Coordinator σ}

theorem Twin.agree {α : Type} (twin : Twin R c d) (f : Coordinator σ → α)
    (blind : ∀ (c : Coordinator σ) h, f { c with host := h } = f c) : f d = f c := by
  obtain ⟨h, -, rfl⟩ := twin
  exact blind c h

theorem pairing : Pairing R (Twin R) where
  hosts := by
    rintro c _ ⟨h, r, rfl⟩
    exact r
  move := by
    rintro c _ ⟨h, r, rfl⟩ q v r
    exact ⟨v, r, rfl⟩

theorem Twin.release (twin : Twin R c d) : Twin R c.release d.release := by
  obtain ⟨h, r, rfl⟩ := twin
  exact ⟨h, r, rfl⟩

theorem Twin.dispose (twin : Twin R c d) : Twin R c.dispose d.dispose := by
  obtain ⟨h, r, rfl⟩ := twin
  exact ⟨h, r, rfl⟩

variable [Host σ] (quieter : Quieter R) (twin : Twin R c d)

section

variable {q v : σ} (r : R q v)
include quieter r

theorem issueSearches_quieter (keys : List CacheKey) :
    R (issueSearches keys q) (issueSearches keys v) := by
  induction keys generalizing q v with
  | nil => exact r
  | cons key keys ih => exact ih (quieter.serve r (.search key.tool key.root))

theorem report_quieter (resolutions : List (CacheKey × Option String)) :
    R (report resolutions q) (report resolutions v) := by
  induction resolutions generalizing q v with
  | nil => exact r
  | cons resolution resolutions ih => exact ih (quieter.debug r _)

theorem answers_quieter (lookups : List (CacheKey × Option String)) :
    answers v lookups = answers q lookups :=
  answers_congr (by rw [quieter.replies r]) lookups

end

namespace Twin

include quieter twin

theorem setRoots (roots : List ProjectRoot) : Twin R (c.setRoots roots) (d.setRoots roots) := by
  obtain ⟨h, r, rfl⟩ := twin
  exact ⟨_, quieter.debug r _, rfl⟩

theorem setTool (tool : Tool) : Twin R (c.setTool tool) (d.setTool tool) := by
  obtain ⟨h, r, rfl⟩ := twin
  exact ⟨_, quieter.debug r _, rfl⟩

theorem plan : d.plan = c.plan := by
  obtain ⟨h, r, rfl⟩ := twin
  exact plan_congr (by rw [quieter.replies r])

theorem beginRebuild : Matched (Twin R) Eq c.beginRebuild d.beginRebuild := by
  have plan := twin.plan quieter
  obtain ⟨h, r, rfl⟩ := twin
  rw [Coordinator.beginRebuild, Coordinator.beginRebuild]
  by_cases busy : c.rebuilding = true
  · rw [if_pos busy, if_pos busy]
    exact ⟨⟨_, quieter.debug r _, rfl⟩, rfl⟩
  · rw [if_neg busy, if_neg busy]
    by_cases late : c.disposed = true
    · rw [if_pos late, if_pos late]
      exact ⟨⟨h, r, rfl⟩, rfl⟩
    · rw [if_neg late, if_neg late, plan]
      exact ⟨⟨_, issueSearches_quieter quieter r _, rfl⟩, rfl⟩

theorem finishRebuild (rebuild : Rebuild) :
    Matched (Twin R) Eq (c.finishRebuild rebuild) (d.finishRebuild rebuild) := by
  obtain ⟨h, r, rfl⟩ := twin
  rw [Coordinator.finishRebuild, Coordinator.finishRebuild, answers_quieter quieter r]
  cases answers c.host rebuild.lookups with
  | error failure => exact ⟨⟨_, quieter.complain r _, rfl⟩, rfl⟩
  | ok resolutions =>
    by_cases late : c.disposed = true
    · simp only [Coordinator.onHost, late, if_true]
      exact ⟨⟨_, report_quieter quieter r resolutions, rfl⟩, rfl⟩
    · simp only [Coordinator.onHost, late]
      exact ⟨⟨_, report_quieter quieter r resolutions, rfl⟩, rfl⟩

theorem rebuild : Matched (Twin R) Eq c.rebuild d.rebuild := by
  rw [Coordinator.rebuild, Coordinator.rebuild]
  refine (twin.beginRebuild quieter).elim ?_
  rintro c begun d _ twin rfl
  cases begun with
  | searching rebuild => exact twin.finishRebuild quieter rebuild
  | _ => exact ⟨twin, rfl⟩

theorem beginFormat (b : Buffer) (tool : Option Tool) (file : Option Path) :
    Matched (Twin R) Eq (c.beginFormat b tool file) (d.beginFormat b tool file) := by
  have request : d.request b tool file = c.request b tool file :=
    twin.agree (·.request b tool file) fun _ _ => rfl
  have known : d.command? (c.request b tool file) = c.command? (c.request b tool file) :=
    twin.agree (·.command? _) fun _ _ => rfl
  simp only [Coordinator.beginFormat, request, known]
  split
  · exact ⟨twin, rfl⟩
  · split
    · exact ⟨twin, rfl⟩
    · refine (twin.beginRebuild quieter).elim ?_
      rintro c begun d _ twin rfl
      cases begun with
      | searching rebuild => exact ⟨twin, rfl⟩
      | _ => exact ⟨twin, rfl⟩

theorem serve (r : Request) (b : Buffer) : Matched (Twin R) Eq (c.serve r b) (d.serve r b) :=
  pairing.serve twin quieter r b (twin.agree (·.command? r) fun _ _ => rfl)

theorem format (b : Buffer) (tool : Option Tool) (file : Option Path) :
    Matched (Twin R) Eq (c.format b tool file) (d.format b tool file) := by
  rw [Coordinator.format, Coordinator.format]
  refine (twin.beginFormat quieter b tool file).elim ?_
  rintro c opened d _ twin rfl
  cases opened with
  | skipped => exact ⟨twin, rfl⟩
  | ready r => exact twin.serve quieter r b
  | searching r rebuild => exact (twin.finishRebuild quieter rebuild).1.serve quieter r b

theorem willSave (b : Buffer) : Matched (Twin R) Eq (c.willSave b) (d.willSave b) := by
  have settings : d.settings = c.settings := twin.agree (·.settings) fun _ _ => rfl
  rw [Coordinator.willSave, Coordinator.willSave, settings]
  split
  · exact twin.format quieter b none none
  · exact ⟨twin, rfl⟩

end Twin

end FormatService.Coordinator
