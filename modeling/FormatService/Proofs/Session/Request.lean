import FormatService.Proofs.Coordinator.Format
import FormatService.Proofs.Session.Chronicle

/-!
# Requests to format in a session

A request to format comes to its end at once or is held at the searches of a rebuild, and
then goes on when the rebuild has ended. What it does is said here once for all steps that
make a request or carry one to its end.
-/

set_option autoImplicit false

namespace FormatService

namespace Coordinator

variable {σ : Type} [Host σ] {c : Coordinator σ}

theorem Barred.wholeEntries (h : c.Barred) : c.wholeEntries = [] := by
  obtain ⟨begun, host, hb, hn, -⟩ := h.beginRebuild
  rw [Coordinator.wholeEntries, hb]
  cases begun with
  | searching rebuild => exact absurd rfl (hn rebuild)
  | _ => rfl

theorem Barred.startEntries (h : c.Barred) : c.startEntries = [] := by
  obtain ⟨begun, host, hb, hn, -⟩ := h.beginRebuild
  rw [Coordinator.startEntries, hb]
  cases begun with
  | searching rebuild => exact absurd rfl (hn rebuild)
  | _ => rfl

theorem wholeEntries_eq (free : c.rebuilding = false) (live : c.disposed = false) :
    c.wholeEntries = [.ended c.plan (c.beginRebuild.1.found? c.plan), .began c.plan] := by
  rw [wholeEntries, beginRebuild_eq free live]

theorem startEntries_eq (free : c.rebuilding = false) (live : c.disposed = false) :
    c.startEntries = if c.plan.searches = [] then c.wholeEntries else [.began c.plan] := by
  rw [startEntries, beginRebuild_eq free live]

theorem beginFormat_cases (b : Buffer) (tool : Option Tool) (file : Option Path)
    (c : Coordinator σ) :
    (c.lacks b tool file = true → c.startEntries = c.wholeEntries) ∧
        (∀ r rebuild, (c.beginFormat b tool file).2 ≠ .searching r rebuild) ∨
      c.lacks b tool file = true ∧ c.rebuilding = false ∧ c.disposed = false ∧
        c.beginFormat b tool file =
          (c.beginRebuild.1, .searching (c.request b tool file) c.plan) := by
  rw [lacks, beginFormat]
  cases b.document.editable with
  | false => exact .inl (by simp)
  | true =>
    cases known : c.command? (c.request b tool file) with
    | some command => exact .inl (by simp [known])
    | none =>
      simp only [known, Bool.not_true, Bool.false_eq_true, if_false, Option.isSome_none]
      rcases c.barred_or_open with barred | ⟨free, live⟩
      · refine .inl ⟨fun _ => barred.startEntries.trans barred.wholeEntries.symm, ?_⟩
        obtain ⟨begun, host, hb, hn, -⟩ := barred.beginRebuild
        rw [hb]
        cases begun with
        | searching rebuild => exact absurd rfl (hn rebuild)
        | _ => simp
      · exact .inr ⟨rfl, free, live, by rw [beginRebuild_eq free live]⟩

end Coordinator

namespace Session

open Coordinator (Rebuild concluded concluded_rebuilding)
open Host (Asked)

variable {σ : Type}

def Step.document? : Step σ → Option String
  | .format name _ _ => some name
  | .willSave name => some name
  | .startFormat _ name _ _ => some name
  | .startWillSave _ name => some name
  | _ => none

theorem wake_of_free {s : Session σ} (h : s.coordinator.rebuilding = false) :
    s.wake = { s with observation := s.observation.map (·.wake) } := by
  rw [wake, h]
  rfl

theorem wake_of_busy {s : Session σ} (h : s.coordinator.rebuilding = true) : s.wake = s := by
  rw [wake, if_pos h]

theorem wake_coordinator (s : Session σ) : s.wake.coordinator = s.coordinator := by
  rw [wake]
  split <;> rfl

theorem wake_buffers (s : Session σ) : s.wake.buffers = s.buffers := by
  rw [wake]
  split <;> rfl

theorem reap_cases (s : Session σ) : s.aborted = [] ∧ s.reap = s ∨
    s.aborted ≠ [] ∧ s.reap = { s with coordinator := s.coordinator.release
                                       observation := s.observation.map (·.wake)
                                       aborted := [] } := by
  rw [reap]
  by_cases h : s.aborted = []
  · exact .inl ⟨h, if_pos h⟩
  · exact .inr ⟨h, by rw [if_neg h, wake_of_free rfl]⟩

theorem deliver_of_free {s : Session σ} {r : Coordinator σ × Buffer × Outcome}
    (h : r.1.rebuilding = false) (name : String) :
    (s.deliver name r).1 =
      { s with coordinator := r.1
               observation := s.observation.map (·.wake)
               buffers := (s.setBuffer name r.2.1).buffers } :=
  wake_of_free (s := (s.withCoordinator r.1).setBuffer name r.2.1) h

theorem deliver_coordinator (s : Session σ) (name : String) (r : Coordinator σ × Buffer × Outcome) :
    (s.deliver name r).1.coordinator = r.1 :=
  wake_coordinator _

variable [Host σ]

inductive Requested (s : Session σ) (step : Step σ) (name : String) : Prop
  | missing (missing : s.buffer? name = none) (does : s.perform step = (s, .nothing))
      (told : s.performEntries step = [])
  /-- Documents are not formatted on save. -/
  | skipped (b : Buffer) (there : s.buffer? name = some b)
      (does : s.perform step = s.deliver name (s.coordinator, b, .skipped))
      (told : s.performEntries step = [])
  | formatted (b : Buffer) (tool : Option Tool) (file : Option Path)
      (there : s.buffer? name = some b)
      (does : s.perform step = s.deliver name (s.coordinator.format b tool file))
      (told : s.performEntries step = s.coordinator.formatEntries b tool file)
  | held (id : String) (formatting : Option (String × Coordinator.Request))
      (free : s.coordinator.rebuilding = false) (live : s.coordinator.disposed = false)
      (does : s.perform step =
        ({ s with coordinator := s.coordinator.beginRebuild.1
                  held := s.held ++ [(id, ⟨s.coordinator.plan, formatting⟩)] }, .pending))
      (told : s.performEntries step = [.began s.coordinator.plan])

theorem startFormat_cases (s : Session σ) (id name : String) (b : Buffer) (tool : Option Tool)
    (file : Option Path) :
    (s.coordinator.rebuilding = false ∧ s.coordinator.disposed = false ∧
        s.startFormat id name b tool file =
          ({ s with coordinator := s.coordinator.beginRebuild.1
                    held := s.held ++ [(id, ⟨s.coordinator.plan,
                      some (name, s.coordinator.request b tool file)⟩)] }, .pending) ∧
        s.coordinator.startFormatEntries b tool file = [.began s.coordinator.plan]) ∨
      s.startFormat id name b tool file = s.deliver name (s.coordinator.format b tool file) ∧
        s.coordinator.startFormatEntries b tool file =
          s.coordinator.formatEntries b tool file := by
  rw [startFormat, Coordinator.format, Coordinator.startFormatEntries, Coordinator.formatEntries]
  rcases s.coordinator.beginFormat_cases b tool file with ⟨same, none⟩ | ⟨lacks, free, live, begun⟩
  · refine .inr ⟨?_, ?_⟩
    · generalize s.coordinator.beginFormat b tool file = opened at none
      rcases opened with ⟨c, skipped | ready | searching⟩
      · rfl
      · rfl
      · exact absurd rfl (none _ _)
    · split
      · next lacks => exact same lacks
      · rfl
  · rw [begun, if_pos lacks, if_pos lacks, Coordinator.startEntries_eq free live]
    by_cases hn : s.coordinator.plan.searches = []
    · exact .inr ⟨if_pos hn, if_pos hn⟩
    · exact .inl ⟨free, live, if_neg hn, if_neg hn⟩

theorem requested_missing {s : Session σ} {step : Step σ} {name : String}
    (asks : step.document? = some name) (missing : s.buffer? name = none) :
    s.Requested step name := by
  cases step with
  | format name' tool file | willSave name' | startFormat id name' tool file
  | startWillSave id name' =>
    obtain rfl := Option.some.inj asks
    exact .missing missing (by simp only [perform, missing]) (by simp only [performEntries, missing])
  | _ => contradiction

theorem requested (s : Session σ) {step : Step σ} {name : String}
    (asks : step.document? = some name) : s.Requested step name := by
  cases there : s.buffer? name with
  | none => exact requested_missing asks there
  | some b =>
    have started : ∀ (id : String) (tool : Option Tool) (file : Option Path),
        s.perform step = s.startFormat id name b tool file →
          s.performEntries step = s.coordinator.startFormatEntries b tool file →
            s.Requested step name := by
      intro id tool file does told
      rcases s.startFormat_cases id name b tool file with ⟨free, live, held, began⟩ | ⟨whole, same⟩
      · exact .held id _ free live (does.trans held) (told.trans began)
      · exact .formatted b tool file there (does.trans whole) (told.trans same)
    cases step with
    | format name' tool file =>
      obtain rfl := Option.some.inj asks
      exact .formatted b tool file there (by simp only [perform, there])
        (by simp only [performEntries, there])
    | willSave name' =>
      obtain rfl := Option.some.inj asks
      by_cases onSave : s.coordinator.settings.formatOnSave = true
      · exact .formatted b none none there
          (by simp only [perform, there, Coordinator.willSave, if_pos onSave])
          (by simp only [performEntries, there, if_pos onSave])
      · exact .skipped b there (by simp only [perform, there, Coordinator.willSave, if_neg onSave])
          (by simp only [performEntries, there, if_neg onSave])
    | startFormat id name' tool file =>
      obtain rfl := Option.some.inj asks
      exact started id tool file (by simp only [perform, there])
        (by simp only [performEntries, there])
    | startWillSave id name' =>
      obtain rfl := Option.some.inj asks
      by_cases onSave : s.coordinator.settings.formatOnSave = true
      · exact started id none none (by simp only [perform, there, if_pos onSave])
          (by simp only [performEntries, there, if_pos onSave])
      · exact .skipped b there (by simp only [perform, there, if_neg onSave])
          (by simp only [performEntries, there, if_neg onSave])
    | _ => contradiction

theorem finish_eq (s : Session σ) (id : String) (held : Held) :
    ∃ host buffers, (s.finish id held).1 =
        { s.forget id with
          coordinator :=
            { concluded held.rebuild (s.coordinator.found? held.rebuild) s.coordinator with
              host := host }
          observation := s.observation.map (·.wake)
          buffers := buffers } ∧
      Asked (fun e => e.isRun || e.isNote) s.coordinator.host host := by
  have wider : ∀ e : Event, e.isNote = true → (e.isRun || e.isNote) = true := by simp +contextual
  obtain ⟨host, hf⟩ := Coordinator.finishRebuild_eq held.rebuild s.coordinator
  have asked := (Coordinator.finishRebuild_asked held.rebuild s.coordinator).mono wider
  rw [hf] at asked
  have free := concluded_rebuilding held.rebuild (s.coordinator.found? held.rebuild) s.coordinator
  rw [finish, hf]
  cases held.formatting with
  | none =>
    exact ⟨host, s.buffers, wake_of_free free, asked⟩
  | some request =>
    simp only
    split
    · exact ⟨host, s.buffers, wake_of_free free, asked⟩
    · next b there =>
      let c := { concluded held.rebuild (s.coordinator.found? held.rebuild) s.coordinator with
          host := host }
      have formats := Coordinator.serve_formats request.2 b c
      change ∃ host buffers, (((s.forget id).withCoordinator c).deliver request.1
        (c.serve request.2 b)).1 = _ ∧ _
      generalize c.serve request.2 b = served at formats ⊢
      have same : served.1 = { c with host := served.1.host } := formats.coordinator
      refine ⟨served.1.host, ((s.forget id).setBuffer request.1 served.2.1).buffers, ?_,
        asked.trans formats.asked⟩
      rw [deliver_of_free (by rw [same]; exact free), same]
      rfl

end Session

end FormatService
