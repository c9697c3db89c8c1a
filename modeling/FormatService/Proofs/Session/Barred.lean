import FormatService.Proofs.Session.Request

/-!
# Attempts that cannot succeed

While a rebuild has the slot, and once the coordinator is disposed of, calls and requests
to format may still attempt a rebuild. Then nothing changes but the host, which is asked
for no search, and the roots or the tool that a call sets.
-/

set_option autoImplicit false

namespace FormatService

open Host (Asked)

variable {σ : Type} [Host σ]

namespace Coordinator.Barred

variable {c : Coordinator σ} (h : c.Barred)
include h

theorem lookUp (r : Request) :
    ∃ host, c.lookUp r = { c with host := host } ∧ Asked Event.isNote c.host host := by
  rw [Coordinator.lookUp]
  split
  · exact ⟨c.host, rfl, .refl _⟩
  · obtain ⟨host, hb, asked⟩ := h.rebuild
    rw [hb]
    exact ⟨host, rfl, asked⟩

theorem format (b : Buffer) (tool : Option Tool) (file : Option Path) :
    ∃ host, (c.format b tool file).1 = { c with host := host } ∧
      Asked (fun e => e.isRun || e.isNote) c.host host ∧
        (c.cache = none → Asked Event.isNote c.host host ∧ (c.format b tool file).2.1 = b ∧
          ((c.format b tool file).2.2 = .skipped ∨ (c.format b tool file).2.2 = .toolNotFound)) := by
  have wider : ∀ e : Event, e.isNote = true → (e.isRun || e.isNote) = true := by simp +contextual
  cases editable : b.document.editable with
  | true =>
    obtain ⟨host, hc, looked⟩ := h.lookUp (c.request b tool file)
    have formats := format_formats editable tool file c
    rw [hc] at formats
    refine ⟨(c.format b tool file).1.host, formats.coordinator,
      (looked.mono wider).trans formats.asked, ?_⟩
    intro empty
    obtain ⟨asks, kept, missing⟩ := formats.of_uncached empty
    exact ⟨looked.trans asks, kept, .inr missing⟩
  | false =>
    rw [format_locked editable]
    exact ⟨c.host, rfl, .refl _, fun _ => ⟨.refl _, rfl, .inl rfl⟩⟩

end Coordinator.Barred

namespace Session

theorem prepare_eq (call : Call) (c : Coordinator σ) :
    ∃ host roots tool, prepare call c = { c with host := host, roots := roots, tool := tool } ∧
      Asked Event.isNote c.host host := by
  cases call with
  | rebuild => exact ⟨c.host, c.roots, c.tool, rfl, .refl _⟩
  | projectsChanged roots => exact ⟨_, roots, c.tool, rfl, c.setRoots_asked roots⟩
  | toolChanged tool => exact ⟨_, c.roots, tool, rfl, c.setTool_asked tool⟩

theorem prepare_barred {c : Coordinator σ} (call : Call) :
    (prepare call c).Barred ↔ c.Barred := by
  obtain ⟨host, roots, tool, hp, -⟩ := prepare_eq call c
  rw [hp]
  rfl

variable {s : Session σ} (h : s.coordinator.Barred)
include h

theorem perform_call_barred (call : Call) :
    ∃ host, s.perform (.call call) =
        ((s.withCoordinator { prepare call s.coordinator with host := host }).wake,
          .flag false) ∧
      Asked Event.isNote s.coordinator.host host := by
  obtain ⟨host, hr, asked⟩ := ((prepare_barred call).mpr h).rebuild
  obtain ⟨host', roots, tool, hp, asked'⟩ := prepare_eq call s.coordinator
  refine ⟨host, ?_, ?_⟩
  · simp only [perform, hr]
  · rw [hp] at asked
    exact asked'.trans asked

theorem start_barred (id : String) (call : Call) :
    ∃ host, s.start id call =
        (s.withCoordinator { prepare call s.coordinator with host := host }, .flag false) ∧
      Asked Event.isNote s.coordinator.host host := by
  obtain ⟨begun, host, hb, hn, asked⟩ := ((prepare_barred call).mpr h).beginRebuild
  obtain ⟨host', roots, tool, hp, asked'⟩ := prepare_eq call s.coordinator
  refine ⟨host, ?_, ?_⟩
  · rw [start, hb]
    cases begun with
    | searching rebuild => exact absurd rfl (hn rebuild)
    | _ => rfl
  · rw [hp] at asked
    exact asked'.trans asked

end Session

end FormatService
