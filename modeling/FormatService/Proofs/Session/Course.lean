import FormatService.Proofs.Session.Barred
import FormatService.Proofs.Session.Tracking

/-!
# Which actions search

A search is issued when a rebuild takes the slot, and only then. Nothing else that is done
with a coordinator asks for one, and nothing but its disposal disposes of it.
-/

set_option autoImplicit false

namespace FormatService

open Coordinator (Rebuild)
open Host (Asked)

namespace Entry

def isBegan : Entry → Bool
  | .began _ => true
  | _ => false

def isEnded : Entry → Bool
  | .ended _ _ => true
  | _ => false

end Entry

variable {σ : Type} [Host σ]

namespace Coordinator

theorem finishRebuild_disposed (rebuild : Rebuild) (c : Coordinator σ) :
    (c.finishRebuild rebuild).1.disposed = c.disposed := by
  obtain ⟨host, hf⟩ := finishRebuild_eq rebuild c
  rw [hf]
  exact concluded_disposed rebuild (c.found? rebuild) c

theorem Carried.disposed {c c' : Coordinator σ} {es : List Entry} (h : Carried c es c') :
    c'.disposed = c.disposed := by
  cases h with
  | same host => rfl
  | rebuilt host found free live finds => exact concluded_disposed c.plan found c

theorem barred_of_wholeEntries {c : Coordinator σ}
    (none : c.wholeEntries.any Entry.isBegan = false) : c.Barred := by
  rcases c.barred_or_open with barred | ⟨free, live⟩
  · exact barred
  · rw [wholeEntries_eq free live] at none
    contradiction

theorem wholeEntries_any (c : Coordinator σ) :
    c.wholeEntries.any Entry.isBegan = c.wholeEntries.any Entry.isEnded := by
  rw [wholeEntries]
  split <;> rfl

theorem formatEntries_any (b : Buffer) (tool : Option Tool) (file : Option Path)
    (c : Coordinator σ) : (c.formatEntries b tool file).any Entry.isBegan =
      (c.formatEntries b tool file).any Entry.isEnded := by
  rcases c.formatEntries_cases b tool file with nothing | whole
  · rw [nothing]
    rfl
  · rw [whole]
    exact c.wholeEntries_any

theorem format_asked {b : Buffer} {tool : Option Tool} {file : Option Path} {c : Coordinator σ}
    (none : (c.formatEntries b tool file).any Entry.isBegan = false) :
    Asked (fun e => !e.isSearch) c.host (c.format b tool file).1.host := by
  cases editable : b.document.editable with
  | false =>
    rw [format_locked editable]
    exact .refl _
  | true =>
    have formats := format_formats editable tool file c
    refine Asked.trans ?_ (formats.asked.mono Event.not_isSearch_of_isRun)
    cases known : c.command? (c.request b tool file) with
    | some command =>
      rw [lookUp, known]
      exact .refl _
    | none =>
      have lacks : c.lacks b tool file = true := by
        rw [lacks, editable, known]
        rfl
      rw [formatEntries, if_pos lacks] at none
      obtain ⟨host, hl, asks⟩ := (barred_of_wholeEntries none).lookUp (c.request b tool file)
      rw [hl]
      exact asks.mono Event.not_isSearch_of_isNote

end Coordinator

namespace Session

variable (s : Session σ) (action : Action σ)

def takes : Bool := (s.entries action).any Entry.isBegan

def concludes : Bool := (s.entries action).any Entry.isEnded

/-- What an action does to the coordinator, as far as it concerns the searches. -/
structure Course : Prop where
  disposed : action ≠ .perform .dispose →
    (s.act action).coordinator.disposed = s.coordinator.disposed
  /-- Unless a rebuild takes the slot, no search is issued. -/
  quiet : s.takes action = false → (∀ change, action ≠ .perform (.host change)) →
    Asked (fun e => !e.isSearch) s.coordinator.host (s.act action).coordinator.host
  /-- A rebuild that takes the slot is then suspended, or comes to its end at once. -/
  suspended : s.takes action = true → s.concludes action = false →
    (s.act action).coordinator = (s.source action).beginRebuild.1

variable {s action}

theorem open_of_takes (some : s.takes action = true) :
    (s.source action).rebuilding = false ∧ (s.source action).disposed = false := by
  have told := s.entries_told action
  generalize he : s.entries action = es at told
  rw [takes, he] at some
  cases told with
  | began free live => exact ⟨free, live⟩
  | whole free live => exact ⟨free, live⟩
  | _ => contradiction

theorem Course.of_idle (none : s.takes action = false)
    (disposed : action ≠ .perform .dispose →
      (s.act action).coordinator.disposed = s.coordinator.disposed)
    (asked : (∀ change, action ≠ .perform (.host change)) →
      Asked Event.isNote s.coordinator.host (s.act action).coordinator.host) :
    s.Course action where
  disposed := disposed
  quiet := fun _ other => (asked other).mono Event.not_isSearch_of_isNote
  suspended := by simp [none]

theorem Course.of_quiet (none : s.takes action = false)
    (disposed : (s.act action).coordinator.disposed = s.coordinator.disposed)
    (asked : Asked Event.isNote s.coordinator.host (s.act action).coordinator.host) :
    s.Course action :=
  .of_idle none (fun _ => disposed) fun _ => asked

theorem Course.of_same (none : s.takes action = false)
    (same : (s.act action).coordinator = s.coordinator) : s.Course action :=
  .of_quiet none (by rw [same]) (by rw [same]; exact .refl _)

theorem Course.of_whole (both : s.takes action = s.concludes action)
    (disposed : (s.act action).coordinator.disposed = s.coordinator.disposed)
    (quiet : s.takes action = false →
      Asked (fun e => !e.isSearch) s.coordinator.host (s.act action).coordinator.host) :
    s.Course action where
  disposed := fun _ => disposed
  quiet := fun none _ => quiet none
  suspended := by
    intro some none
    rw [both, none] at some
    contradiction

theorem Course.of_rebuilt {c : Coordinator σ} (free : c.rebuilding = false)
    (live : c.disposed = false) (told : s.entries action = c.wholeEntries)
    (disposed : (s.act action).coordinator.disposed = s.coordinator.disposed) :
    s.Course action := by
  refine .of_whole ?_ disposed ?_
  · rw [takes, concludes, told]
    exact c.wholeEntries_any
  · intro none
    rw [takes, told, Coordinator.wholeEntries_eq free live] at none
    contradiction

theorem Course.of_begun {rebuild : Rebuild} (told : s.entries action = [.began rebuild])
    (disposed : (s.act action).coordinator.disposed = s.coordinator.disposed)
    (begun : (s.act action).coordinator = (s.source action).beginRebuild.1) :
    s.Course action where
  disposed := fun _ => disposed
  quiet := by simp [takes, told, Entry.isBegan]
  suspended := fun _ _ => begun

theorem format_course (name : String) (b : Buffer) (tool : Option Tool) (file : Option Path)
    (told : s.entries action = s.coordinator.formatEntries b tool file)
    (does : s.act action = (s.deliver name (s.coordinator.format b tool file)).1) :
    s.Course action := by
  have hc : (s.act action).coordinator = (s.coordinator.format b tool file).1 := by
    rw [does, deliver_coordinator]
  refine .of_whole ?_ ?_ ?_
  · rw [takes, concludes, told]
    exact s.coordinator.formatEntries_any b tool file
  · rw [hc]
    exact (s.coordinator.format_carried b tool file).disposed
  · intro none
    rw [takes, told] at none
    rw [hc]
    exact Coordinator.format_asked none

theorem requested_course {step : Step σ} {name : String} (h : s.Requested step name)
    (here : s.source (.perform step) = s.coordinator) : s.Course (.perform step) := by
  cases h with
  | missing missing does told =>
    refine .of_same ?_ (by rw [act, does])
    rw [takes, entries, told]
    rfl
  | skipped b there does told =>
    refine .of_same ?_ (by rw [act, does, deliver_coordinator])
    rw [takes, entries, told]
    rfl
  | formatted b tool file there does told =>
    exact format_course name b tool file told (congrArg Prod.fst does)
  | held id formatting free live does told =>
    refine .of_begun told ?_ ?_
    · rw [act, does, Coordinator.beginRebuild_eq free live]
    · rw [act, does, here]

theorem finish_course {id : String} {held : Held} (s : Session σ) (there : s.held? id = some held) :
    s.Course (.perform (.finish id)) := by
  obtain ⟨host, buffers, hf, asked⟩ := s.finish_eq id held
  have does : s.act (.perform (.finish id)) = (s.finish id held).1 := by
    simp only [act, perform, there]
  have none : s.takes (.perform (.finish id)) = false := by
    simp only [takes, entries, performEntries, there]
    rfl
  refine ⟨fun _ => ?_, fun _ _ => ?_, by simp [none]⟩
  · rw [does, hf]
    exact Coordinator.concluded_disposed _ _ _
  · rw [does, hf]
    exact asked.mono Event.not_isSearch_of_isRun

variable (s)

theorem prepare_disposed (call : Call) (c : Coordinator σ) :
    (prepare call c).disposed = c.disposed := by
  cases call <;> rfl

theorem call_course (call : Call) : s.Course (.perform (.call call)) := by
  have told : s.entries (.perform (.call call)) = (prepare call s.coordinator).wholeEntries := rfl
  refine .of_whole ?_ ?_ ?_
  · rw [takes, concludes, told]
    exact (prepare call s.coordinator).wholeEntries_any
  · rw [act, perform]
    simp only [wake_coordinator]
    exact (prepare call s.coordinator).rebuild_carried.disposed.trans (prepare_disposed call _)
  · intro none
    rw [takes, told] at none
    have barred := (prepare_barred call).mp (Coordinator.barred_of_wholeEntries none)
    obtain ⟨host, hp, asks⟩ := perform_call_barred barred call
    rw [act, hp, wake_coordinator]
    exact asks.mono Event.not_isSearch_of_isNote

theorem start_course (id : String) (call : Call) : s.Course (.perform (.start id call)) := by
  have told : s.entries (.perform (.start id call)) =
      (prepare call s.coordinator).startEntries := rfl
  have does : s.act (.perform (.start id call)) = (s.start id call).1 := rfl
  have same := prepare_disposed call s.coordinator
  rcases (prepare call s.coordinator).barred_or_open with barred | ⟨free, live⟩
  · obtain ⟨host, hs, asks⟩ := start_barred ((prepare_barred call).mp barred) id call
    rw [hs] at does
    refine .of_quiet ?_ ?_ ?_
    · rw [takes, told, barred.startEntries]
      rfl
    · rw [does]
      exact same
    · rw [does]
      exact asks
  · rw [start, Coordinator.beginRebuild_eq free live] at does
    rw [Coordinator.startEntries_eq free live] at told
    by_cases hn : (prepare call s.coordinator).plan.searches = []
    · simp only [if_pos hn] at does told
      refine .of_rebuilt free live told ?_
      rw [does, wake_coordinator]
      exact (Coordinator.finishRebuild_disposed _ _).trans same
    · simp only [if_neg hn] at does told
      refine .of_begun told ?_ ?_
      · rw [does]
        exact same
      · rw [does, source, Coordinator.beginRebuild_eq free live]

theorem observe_course (channel : String) (roots : List ProjectRoot) :
    s.Course (.perform (.observe channel roots)) := by
  have none : s.takes (.perform (.observe channel roots)) = false := by
    rw [takes, entries, performEntries]
    split <;> rfl
  cases hd : s.coordinator.disposed with
  | true => exact .of_same none (by rw [act, perform, observe, if_pos hd])
  | false =>
    have live : ¬s.coordinator.disposed = true := by rw [hd]; decide
    refine .of_quiet none ?_ ?_
    · rw [act, perform, observe, if_neg live]
      simp only
      split <;> rfl
    · rw [act, perform, observe, if_neg live]
      simp only
      split
      · exact Coordinator.setRoots_asked roots _
      · exact .refl _

theorem perform_course (step : Step σ) : s.Course (.perform step) := by
  cases step with
  | call call => exact s.call_course call
  | start id call => exact s.start_course id call
  | finish id =>
    cases there : s.held? id with
    | none =>
      refine .of_same ?_ ?_
      · simp only [takes, entries, performEntries, there]
        rfl
      · simp only [act, perform, there]
    | some held => exact s.finish_course there
  | drop id =>
    refine .of_quiet rfl ?_ ?_
    · simp only [act, perform]
      split
      · rw [wake_coordinator]
        rfl
      · rfl
    · simp only [act, perform]
      split
      · rw [wake_coordinator]
        exact .refl _
      · exact .refl _
  | settings settings => exact .of_quiet rfl rfl (.refl _)
  | observe channel roots => exact s.observe_course channel roots
  | send channel roots => exact .of_same rfl rfl
  | resolve tool project => exact .of_same rfl rfl
  | dispose => exact .of_idle rfl (fun other => absurd rfl other) fun _ => .refl _
  | host change => exact .of_idle rfl (fun _ => rfl) fun other => absurd rfl (other change)
  | openBuffer name buffer => exact .of_same rfl rfl
  | edit name step =>
    refine .of_same rfl ?_
    simp only [act, perform]
    cases s.buffer? name with
    | none => rfl
    | some b =>
      simp only
      split <;> rfl
  | format name tool file => exact requested_course (s.requested rfl) rfl
  | willSave name => exact requested_course (s.requested rfl) rfl
  | startFormat id name tool file => exact requested_course (s.requested rfl) rfl
  | startWillSave id name => exact requested_course (s.requested rfl) rfl

theorem takeUp_course {role : Role} {o : Observation} (observed : s.observation = some o)
    (idle : (o.listener role).phase = .idle) : s.Course (.advance role) := by
  have none : s.takes (.advance role) = false := by
    simp only [takes, entries, observed, advanceEntries, idle]
    split <;> rfl
  have does : s.act (.advance role) = s.listen (·.advance role) := rfl
  rw [listen_some observed, Observed.advance, idle] at does
  by_cases unseen : (o.listener role).unseen = true
  · simp only [if_pos unseen] at does
    cases role with
    | projects =>
      refine .of_quiet none ?_ ?_
      · rw [does]
        rfl
      · rw [does]
        exact Coordinator.setRoots_asked o.newest s.coordinator
    | settings =>
      refine .of_quiet none ?_ ?_
      · rw [does, Observed.takeUp]
        simp only
        split <;> rfl
      · rw [does, Observed.takeUp]
        simp only
        split
        · exact Coordinator.setTool_asked _ s.coordinator
        · exact .refl _
  · simp only [if_neg unseen] at does
    exact .of_same none (by rw [does])

theorem contend_course {role : Role} {o : Observation} (observed : s.observation = some o)
    (wanting : (o.listener role).phase = .wanting) : s.Course (.advance role) := by
  have told : s.entries (.advance role) = s.coordinator.startEntries := by
    simp only [entries, observed, advanceEntries, wanting]
  have does : s.act (.advance role) = s.listen (·.advance role) := rfl
  rw [listen_some observed, Observed.advance, wanting] at does
  rcases s.coordinator.barred_or_open with barred | ⟨free, live⟩
  · obtain ⟨begun, host, hb, hn, asks⟩ := barred.beginRebuild
    have none : s.takes (.advance role) = false := by
      rw [takes, told, barred.startEntries]
      rfl
    have hc : (s.act (.advance role)).coordinator = { s.coordinator with host := host } := by
      rw [does, Observed.contend]
      cases begun with
      | searching rebuild => exact absurd rfl (hn rebuild)
      | refused => simp only [hb]
      | aborted => simp only [hb, Observed.rest]
    refine .of_quiet none ?_ ?_
    · rw [hc]
    · rw [hc]
      exact asks
  · rw [Coordinator.startEntries_eq free live] at told
    simp only [Observed.contend, Coordinator.beginRebuild_eq free live] at does
    by_cases hn : s.coordinator.plan.searches = []
    · simp only [if_pos hn] at does told
      refine .of_rebuilt free live told ?_
      rw [does]
      exact Coordinator.finishRebuild_disposed _ _
    · simp only [if_neg hn] at does told
      refine .of_begun told ?_ ?_
      · rw [does]
      · have same : s.source (.advance role) = s.coordinator := rfl
        rw [does, same, Coordinator.beginRebuild_eq free live]

theorem advance_course (role : Role) : s.Course (.advance role) := by
  cases observed : s.observation with
  | none =>
    refine .of_same ?_ ?_
    · simp only [takes, entries, observed]
      rfl
    · rw [act, listen_none observed]
  | some o =>
    cases hp : (o.listener role).phase with
    | idle => exact s.takeUp_course observed hp
    | wanting => exact s.contend_course observed hp
    | searching rebuild =>
      have none : s.takes (.advance role) = false := by
        simp only [takes, entries, observed, advanceEntries, hp]
        rfl
      have does : s.act (.advance role) = s.listen (·.advance role) := rfl
      rw [listen_some observed, Observed.advance, hp] at does
      refine .of_quiet none ?_ ?_
      · rw [does]
        exact Coordinator.finishRebuild_disposed rebuild s.coordinator
      · rw [does]
        exact Coordinator.finishRebuild_asked rebuild s.coordinator
    | asleep =>
      refine .of_same ?_ ?_
      · simp only [takes, entries, observed, advanceEntries, hp]
        rfl
      · rw [act, listen_some observed, Observed.advance, hp]

theorem course (action : Action σ) : s.Course action := by
  cases action with
  | perform step => exact s.perform_course step
  | advance role => exact s.advance_course role
  | queue turns =>
    refine .of_same rfl ?_
    cases observed : s.observation with
    | none => rw [act, listen_none observed]
    | some o => rw [act, listen_some observed]
  | reap =>
    rcases s.reap_cases with ⟨-, same⟩ | ⟨-, reaped⟩
    · exact .of_same rfl (by rw [act, same])
    · exact .of_quiet rfl (by rw [act, reaped]; rfl) (by rw [act, reaped]; exact .refl _)

end Session

end FormatService
