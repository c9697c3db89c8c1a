import FormatService.Proofs.Session.Tracking
import FormatService.Proofs.Session.Barred
import FormatService.Proofs.Session.Shift

/-!
# After a coordinator is disposed of

Disposal is final: whatever is in progress then and whatever is done afterwards, there is
no cache, nobody listens, no search is issued and no command run. Each kind of step is
harmless on a closed session, and leaves it closed.
-/

set_option autoImplicit false

namespace FormatService

open Coordinator (Rebuild concluded)
open Host (Asked)

namespace Session

variable {σ : Type}

def Sealed (s : Session σ) : Prop := s.coordinator.disposed = true → s.coordinator.cache = none

/-- The coordinator is disposed of, and nothing of it is left. -/
structure Closed (s : Session σ) : Prop where
  disposed : s.coordinator.disposed = true
  cache : s.coordinator.cache = none
  unobserved : s.observation = none

theorem Sound.closed {s : Session σ} (h : s.Sound) (done : s.Sealed)
    (late : s.coordinator.disposed = true) : s.Closed :=
  ⟨late, done late, h.silent late⟩

def Step.rebuilds : Step σ → Bool
  | .call _ | .start _ _ | .finish _ | .format _ _ _ | .willSave _ | .startFormat _ _ _ _
  | .startWillSave _ _ => true
  | _ => false

/-- The document that the step is to format, or that what it carries to its end is to. -/
def formats? (s : Session σ) : Step σ → Option String
  | .finish id => (s.held? id).bind fun held => held.formatting.map (·.1)
  | step => step.document?

def Step.changesHost : Step σ → Bool
  | .host _ => true
  | _ => false

theorem buffer?_setBuffer_self {s : Session σ} {name : String} {b : Buffer}
    (h : s.buffer? name = some b) (other : String) :
    (s.setBuffer name b).buffer? other = s.buffer? other := by
  rw [buffer?, setBuffer, List.find?_append, List.find?_filter]
  by_cases he : other = name
  · subst he
    have hn : s.buffers.find? (fun e => decide ((e.1 != other) = true ∧ (e.1 == other) = true)) =
        none := by
      simp
    rw [hn, h]
    simp
  · have hs : (fun e : String × Buffer => decide ((e.1 != name) = true ∧ (e.1 == other) = true)) =
        (·.1 == other) := by
      funext e
      by_cases h1 : e.1 = other
      · simp [h1, he]
      · simp [h1]
    rw [hs, buffer?]
    simp [Ne.symm he]

theorem Closed.barred {s : Session σ} (h : s.Closed) : s.coordinator.Barred := .inr h.disposed

variable [Host σ] {allowed : Call → Prop}

/-- What a step comes to on a closed session: no rebuild returns success or is held, the host
is asked for no search and no run, only calls set roots or tool, and no document is formatted. -/
structure Inert (s : Session σ) (step : Step σ) (s' : Session σ) (reply : Reply) : Prop where
  refused : step.rebuilds = true → reply ≠ .flag true ∧ reply ≠ .pending
  quiet : step.changesHost = false →
    Asked Event.isNote s.coordinator.host s'.coordinator.host
  steady : step.Calls (· = .rebuild) →
    s'.coordinator.roots = s.coordinator.roots ∧ s'.coordinator.tool = s.coordinator.tool
  formats : ∀ name b, s.formats? step = some name → s.buffer? name = some b →
    (reply = .outcome .skipped ∨ reply = .outcome .toolNotFound) ∧
      ∀ other, s'.buffer? other = s.buffer? other

namespace Inert

variable {s s' : Session σ} {step : Step σ} {reply : Reply}

theorem of_plain (rest : step.rebuilds = false) (formats : s.formats? step = none)
    (quiet : step.changesHost = false → Asked Event.isNote s.coordinator.host s'.coordinator.host)
    (steady : s'.coordinator.roots = s.coordinator.roots ∧ s'.coordinator.tool = s.coordinator.tool) :
    s.Inert step s' reply where
  refused := by simp [rest]
  quiet := quiet
  steady := fun _ => steady
  formats := fun name b some => by simp [formats] at some

theorem of_refused (missing : ∀ name, s.formats? step = some name → s.buffer? name = none)
    (refused : reply ≠ .flag true ∧ reply ≠ .pending)
    (quiet : Asked Event.isNote s.coordinator.host s'.coordinator.host)
    (steady : step.Calls (· = .rebuild) →
      s'.coordinator.roots = s.coordinator.roots ∧ s'.coordinator.tool = s.coordinator.tool) :
    s.Inert step s' reply where
  refused := fun _ => refused
  quiet := fun _ => quiet
  steady := steady
  formats := fun name b some there => by simp [missing name some] at there

theorem of_delivered {name : String} {b : Buffer} (there : s.buffer? name = some b)
    {t : Session σ} (buffers : t.buffers = s.buffers) {c : Coordinator σ}
    (asked : Asked Event.isNote s.coordinator.host c.host)
    (steady : c.roots = s.coordinator.roots ∧ c.tool = s.coordinator.tool) {outcome : Outcome}
    (ho : outcome = .skipped ∨ outcome = .toolNotFound) :
    s.Inert step (t.deliver name (c, b, outcome)).1 (t.deliver name (c, b, outcome)).2 where
  refused := by simp [deliver]
  quiet := fun _ => by
    rw [deliver_coordinator]
    exact asked
  steady := fun _ => by
    rw [deliver_coordinator]
    exact steady
  formats := by
    intro name' b' formats' there'
    refine ⟨ho.imp (congrArg Reply.outcome) (congrArg Reply.outcome), fun other => ?_⟩
    have same : ∀ name, t.buffer? name = s.buffer? name := fun name => by
      rw [buffer?, buffer?, buffers]
    have back := buffer?_setBuffer_self (s := t.withCoordinator c) ((same name).trans there) other
    rw [buffer?, deliver, wake_buffers]
    exact back.trans (same other)

theorem wake (h : s.Inert step s' reply) : s.Inert step s'.wake reply where
  refused := h.refused
  quiet := by
    rw [wake_coordinator]
    exact h.quiet
  steady := by
    rw [wake_coordinator]
    exact h.steady
  formats := fun name b asks there => ⟨(h.formats name b asks there).1, fun other => by
    rw [buffer?, wake_buffers]
    exact (h.formats name b asks there).2 other⟩

theorem reap (h : s.Inert step s' reply) : s.Inert step s'.reap reply := by
  rcases s'.reap_cases with ⟨-, same⟩ | ⟨-, reaped⟩
  · rwa [same]
  · rw [reaped]
    exact ⟨h.refused, h.quiet, h.steady, h.formats⟩

end Inert

theorem concluded_cache {c : Coordinator σ} {rebuild : Rebuild}
    {found : Option (List (CacheKey × Option String))} (late : c.disposed = true)
    (finds : c.CanFind rebuild found) : (concluded rebuild found c).cache = c.cache := by
  rw [finds.of_disposed late]
  rfl

theorem Move.sealed {s s' : Session σ} {es : List Entry} (m : Move allowed s es s')
    (h : s.Sealed) : s'.Sealed := by
  cases m with
  | prepare call => cases call <;> exact h
  | whole found free live finds =>
    intro late
    rw [Coordinator.concluded_disposed, live] at late
    contradiction
  | finish id held found there finds =>
    intro late
    change (concluded held.rebuild found s.coordinator).disposed = true at late
    rw [Coordinator.concluded_disposed] at late
    exact (concluded_cache late finds).trans (h late)
  | observe channel roots live =>
    obtain ⟨host, ho⟩ := s.observe_eq channel roots live
    rw [ho]
    exact h
  | dispose => exact fun _ => rfl
  | conclude role rebuild o found observed searching finds =>
    intro late
    rw [Coordinator.concluded_disposed] at late
    exact (concluded_cache late finds).trans (h late)
  | _ => exact h

theorem Shift.disposed_of_disposed {s s' : Session σ} {es : List Entry}
    (m : Shift allowed s es s') (late : s.coordinator.disposed = true) :
    s'.coordinator.disposed = true := by
  cases m with
  | goes goes told same => exact same.trans late
  | observed channel roots live =>
    rw [late] at live
    contradiction
  | disposed late' none => exact late'
  | concluded role rebuild o found observed searching =>
    exact (Coordinator.concluded_disposed rebuild found s.coordinator).trans late
  | _ => exact late

theorem Closed.move {s s' : Session σ} {es : List Entry} (m : Move allowed s es s')
    (sound : s.Sound) (h : s.Closed) : s'.Sound ∧ s'.Closed := by
  have sound' := (m.sound sound).1
  have late := (m.shift sound).disposed_of_disposed h.disposed
  exact ⟨sound', sound'.closed (m.sealed fun _ => h.cache) late⟩

namespace Closed

variable {s : Session σ} (h : s.Closed)
include h

theorem requested_inert {step : Step σ} {name : String} (asks : s.formats? step = some name)
    (requested : s.Requested step name) : s.Inert step (s.perform step).1 (s.perform step).2 := by
  cases requested with
  | missing missing does told =>
    rw [does]
    refine .of_refused (fun other same => ?_) (by simp) (.refl _) fun _ => ⟨rfl, rfl⟩
    obtain rfl := Option.some.inj (asks.symm.trans same)
    exact missing
  | skipped b there does told =>
    rw [does]
    exact .of_delivered there rfl (.refl _) ⟨rfl, rfl⟩ (.inl rfl)
  | formatted b tool file there does told =>
    obtain ⟨host, hf, -, quiet⟩ := h.barred.format b tool file
    obtain ⟨asked, hb, ho⟩ := quiet h.cache
    rw [does]
    generalize s.coordinator.format b tool file = r at hf hb ho ⊢
    obtain ⟨c, b', outcome⟩ := r
    obtain rfl : c = _ := hf
    obtain rfl : b' = b := hb
    exact .of_delivered (c := { s.coordinator with host := host }) there rfl asked ⟨rfl, rfl⟩ ho
  | held id formatting free live does told =>
    rw [h.disposed] at live
    contradiction

theorem finish_inert {id : String} {held : Held} (there : s.held? id = some held) :
    s.Inert (.finish id) (s.finish id held).1 (s.finish id held).2 := by
  obtain ⟨host, hf⟩ := Coordinator.finishRebuild_eq held.rebuild s.coordinator
  have asked := Coordinator.finishRebuild_asked held.rebuild s.coordinator
  rw [hf, Coordinator.found?_of_disposed h.disposed] at asked
  have formats : s.formats? (.finish id) = held.formatting.map (·.1) := by
    rw [formats?, there, Option.bind_some]
  rw [finish, hf, Coordinator.found?_of_disposed h.disposed]
  cases hh : held.formatting with
  | none =>
    rw [hh] at formats
    simp only
    apply Inert.wake
    exact .of_refused (by simp [formats]) (by simp) asked fun _ => ⟨rfl, rfl⟩
  | some request =>
    obtain ⟨name, r⟩ := request
    rw [hh, Option.map_some] at formats
    simp only
    split
    · next missing =>
      simp only
      apply Inert.wake
      refine .of_refused (fun other same => ?_) (by simp) asked fun _ => ⟨rfl, rfl⟩
      obtain rfl := Option.some.inj (formats.symm.trans same)
      exact missing
    · next b found =>
      let c : Coordinator σ := { concluded held.rebuild none s.coordinator with host := host }
      have serves := Coordinator.serve_formats r b c
      obtain ⟨asks, hb, ho⟩ := serves.of_uncached h.cache
      have same := serves.coordinator
      change s.Inert (.finish id) (((s.forget id).withCoordinator c).deliver name (c.serve r b)).1
        (((s.forget id).withCoordinator c).deliver name (c.serve r b)).2
      generalize c.serve r b = served at asks hb ho same ⊢
      obtain ⟨c', b', outcome⟩ := served
      obtain rfl : b' = b := hb
      refine .of_delivered (s := s) (t := (s.forget id).withCoordinator c) found rfl
        (Asked.trans asked asks) ?_ (.inr ho)
      rw [show c' = _ from same]
      exact ⟨rfl, rfl⟩

theorem perform_inert (step : Step σ) : s.Inert step (s.perform step).1 (s.perform step).2 := by
  cases step with
  | call call =>
    obtain ⟨host, hp, asked⟩ := perform_call_barred h.barred call
    rw [hp]
    apply Inert.wake
    refine .of_refused (by simp [formats?, Step.document?]) (by simp) asked fun hc => ?_
    obtain rfl := hc
    exact ⟨rfl, rfl⟩
  | start id call =>
    obtain ⟨host, hp, asked⟩ := start_barred h.barred id call
    rw [perform, hp]
    refine .of_refused (by simp [formats?, Step.document?]) (by simp) asked fun hc => ?_
    obtain rfl := hc
    exact ⟨rfl, rfl⟩
  | finish id =>
    cases there : s.held? id with
    | none =>
      simp only [perform, there]
      exact .of_refused (by simp [formats?, there]) (by simp) (.refl _) fun _ => ⟨rfl, rfl⟩
    | some held =>
      simp only [perform, there]
      exact h.finish_inert there
  | drop id =>
    simp only [perform]
    cases s.held? id with
    | none => exact .of_plain rfl rfl (fun _ => .refl _) ⟨rfl, rfl⟩
    | some rebuild =>
      simp only
      apply Inert.wake
      exact .of_plain rfl rfl (fun _ => .refl _) ⟨rfl, rfl⟩
  | settings settings => exact .of_plain rfl rfl (fun _ => .refl _) ⟨rfl, rfl⟩
  | observe channel roots =>
    rw [perform, observe, if_pos h.disposed]
    exact .of_plain rfl rfl (fun _ => .refl _) ⟨rfl, rfl⟩
  | send channel roots => exact .of_plain rfl rfl (fun _ => .refl _) ⟨rfl, rfl⟩
  | resolve tool project => exact .of_plain rfl rfl (fun _ => .refl _) ⟨rfl, rfl⟩
  | dispose => exact .of_plain rfl rfl (fun _ => .refl _) ⟨rfl, rfl⟩
  | host change => exact .of_plain rfl rfl (fun no => Bool.noConfusion no) ⟨rfl, rfl⟩
  | openBuffer name buffer => exact .of_plain rfl rfl (fun _ => .refl _) ⟨rfl, rfl⟩
  | edit name edit =>
    simp only [perform]
    cases s.buffer? name with
    | none => exact .of_plain rfl rfl (fun _ => .refl _) ⟨rfl, rfl⟩
    | some b =>
      simp only
      split <;> exact .of_plain rfl rfl (fun _ => .refl _) ⟨rfl, rfl⟩
  | format name tool file => exact h.requested_inert rfl (s.requested rfl)
  | willSave name => exact h.requested_inert rfl (s.requested rfl)
  | startFormat id name tool file => exact h.requested_inert rfl (s.requested rfl)
  | startWillSave id name => exact h.requested_inert rfl (s.requested rfl)

end Closed

end Session

namespace Chronicled

variable {σ : Type} [Host σ]

theorem run_sealed (host : σ) (settings : Settings) (roots : List ProjectRoot)
    (actions : List (Action σ)) : ((new host settings roots).run actions).session.Sealed :=
  run_keeps (fun _ => True) (P := fun x => x.session.Sealed) (fun h m => m.sealed h)
    (fun late => Bool.noConfusion late) actions fun step _ => step.calls_any

theorem run_closed {x : Chronicled σ} (sound : x.session.Sound) (closed : x.session.Closed)
    (actions : List (Action σ)) : (x.run actions).session.Sound ∧ (x.run actions).session.Closed :=
  run_keeps (fun _ => True) (P := fun x => x.session.Sound ∧ x.session.Closed)
    (fun h m => h.2.move m h.1) ⟨sound, closed⟩ actions fun step _ => step.calls_any

theorem step_inert {s : Session σ} (sound : s.Sound) (closed : s.Closed)
    (step : Session.Step σ) : s.Inert step (s.step step).1 (s.step step).2 := by
  have next : (s.perform step).1.reap.Closed :=
    (run_closed (x := ⟨s, []⟩) sound closed [.perform step, .reap]).2
  have settled : (s.perform step).1.settle = (s.perform step).1.reap := by
    simp only [Session.settle, next.unobserved]
  rw [Session.step]
  simp only [settled]
  exact (closed.perform_inert step).reap

/-- After a coordinator is disposed of, whatever was in progress and whatever is done then, the
session is closed and every further step is harmless. -/
theorem dispose_final (host : σ) (settings : Settings) (roots : List ProjectRoot)
    (actions more : List (Action σ)) :
    let s := ((new host settings roots).run (actions ++ .perform .dispose :: more)).session
    s.Closed ∧ s.coordinator.ready = false ∧
      ∀ step, s.Inert step (s.step step).1 (s.step step).2 := by
  intro s
  have h := run_tracked host settings roots (actions ++ [.perform .dispose])
  have done := run_sealed host settings roots (actions ++ [.perform .dispose])
  have hs : s = ((new host settings roots).run ((actions ++ [.perform .dispose]) ++ more)).session := by
    rw [List.append_assoc, List.singleton_append]
  have late : ((new host settings roots).run
      (actions ++ [.perform .dispose])).session.coordinator.disposed = true := by
    rw [run_append]
    rfl
  rw [run_append] at hs
  obtain ⟨sound, closed⟩ := run_closed h.sound (h.sound.closed done late) more
  rw [← hs] at sound closed
  refine ⟨closed, ?_, step_inert sound closed⟩
  rw [Coordinator.ready, closed.cache, Option.any_none, Bool.and_false]

end Chronicled

end FormatService
