import FormatService.Proofs.Coordinator.Request
import FormatService.Proofs.Edit.Change

/-!
# What a request to format does

At most one rebuild and at most one run of a command: the tool is looked up, again after
a rebuild if there is none, and what it writes becomes the text of the document only if
the run succeeds and the document takes it. Otherwise the document stays as it is.
-/

set_option autoImplicit false

namespace FormatService

open Host (Asked)

theorem Document.text_of_setText {d d' : Document} {text : Text} (h : d.setText text = .ok d') :
    d'.text = text := by
  obtain ⟨ds, paired⟩ := Edit.changes_paired d.text text
  rw [setText] at h
  split at h
  · next hc =>
    obtain rfl := Except.ok.inj h
    exact (Edit.changes_eq_nil_iff _ _).mp hc
  · next hc =>
    rw [applyChanges, paired.apply_eq] at h
    cases hi : Edit.orNotABoundary (Edit.inverse? d.text (Edit.changes d.text text)) with
    | error fault =>
      rw [hi] at h
      contradiction
    | ok inverse =>
      rw [hi] at h
      obtain rfl := Except.ok.inj h
      rfl

theorem Buffer.text_of_setText {b b' : Buffer} {text : Text} (h : b.setText text = .ok b') :
    b'.document.text = text := by
  rw [setText] at h
  split at h
  · contradiction
  · split at h
    · next d hd =>
      obtain rfl := Except.ok.inj h
      exact Document.text_of_setText hd
    · contradiction

/-- What becomes of a document, and of the request to format it, when running the tool on its
text has given an answer. -/
structure Settles (b : Buffer) (answer : Except Failure Run) (b' : Buffer) (outcome : Outcome) :
    Prop where
  formatted : outcome = .formatted ↔ ∃ run replaced, answer = .ok run ∧ run.exitCode = 0 ∧
    run.stdout ≠ b.document.text ∧ b.setText run.stdout = .ok replaced
  unchanged : outcome = .unchanged ↔ ∃ run, answer = .ok run ∧ run.exitCode = 0 ∧
    run.stdout = b.document.text
  /-- All else is a failure, also when the document refuses the edit. -/
  otherwise : outcome = .formatted ∨ outcome = .unchanged ∨ outcome = .failed
  changed : b'.document ≠ b.document ↔ outcome = .formatted
  kept : outcome ≠ .formatted → b' = b
  output : outcome = .formatted → ∃ run, answer = .ok run ∧ run.exitCode = 0 ∧
    run.stdout ≠ b.document.text ∧ b'.document.text = run.stdout

namespace Settles

variable {b b' : Buffer} {answer : Except Failure Run}

theorem of_failed
    (h : ∀ run, answer = .ok run → run.exitCode = 0 → run.stdout ≠ b.document.text ∧
      ∀ replaced, b.setText run.stdout ≠ .ok replaced) : Settles b answer b .failed where
  formatted := by
    refine ⟨nofun, ?_⟩
    rintro ⟨run, replaced, ha, hz, -, hs⟩
    exact absurd hs ((h run ha hz).2 replaced)
  unchanged := by
    refine ⟨nofun, ?_⟩
    rintro ⟨run, ha, hz, hs⟩
    exact absurd hs (h run ha hz).1
  otherwise := .inr (.inr rfl)
  changed := by simp
  kept := fun _ => rfl
  output := nofun

theorem of_unchanged {run : Run} (hz : run.exitCode = 0) (hs : run.stdout = b.document.text) :
    Settles b (.ok run) b .unchanged where
  formatted := by
    refine ⟨nofun, ?_⟩
    rintro ⟨_, replaced, ⟨⟩, -, hn, -⟩
    exact absurd hs hn
  unchanged := ⟨fun _ => ⟨run, rfl, hz, hs⟩, fun _ => rfl⟩
  otherwise := .inr (.inl rfl)
  changed := by simp
  kept := fun _ => rfl
  output := nofun

theorem of_replaced {run : Run} (hz : run.exitCode = 0) (hn : run.stdout ≠ b.document.text)
    (hs : b.setText run.stdout = .ok b') : Settles b (.ok run) b' .formatted where
  formatted := ⟨fun _ => ⟨run, b', rfl, hz, hn, hs⟩, fun _ => rfl⟩
  unchanged := by
    refine ⟨nofun, ?_⟩
    rintro ⟨_, ⟨⟩, -, he⟩
    exact absurd he hn
  otherwise := .inl rfl
  changed := by
    refine ⟨fun _ => rfl, fun _ same => hn ?_⟩
    rw [← Buffer.text_of_setText hs, same]
  kept := fun h => absurd rfl h
  output := fun _ => ⟨run, rfl, hz, hn, Buffer.text_of_setText hs⟩

end Settles

theorem Run.succeeded_iff (run : Run) : run.succeeded = true ↔ run.exitCode = 0 := beq_iff_eq

namespace Coordinator

variable {σ : Type} [Host σ]

/-- The coordinator when the tool of a request has been looked up: after a rebuild if it did not
have the tool. -/
def lookUp (r : Request) (c : Coordinator σ) : Coordinator σ :=
  if (c.command? r).isSome then c else c.rebuild.1

theorem format_locked {b : Buffer} (locked : b.document.editable = false) (tool : Option Tool)
    (file : Option Path) (c : Coordinator σ) : c.format b tool file = (c, b, .skipped) := by
  rw [format, beginFormat, locked]
  rfl

theorem format_eq {b : Buffer} (editable : b.document.editable = true) (tool : Option Tool)
    (file : Option Path) (c : Coordinator σ) :
    c.format b tool file =
      (c.lookUp (c.request b tool file)).serve (c.request b tool file) b := by
  rw [format, beginFormat, lookUp, rebuild, editable]
  simp only [Bool.not_true, Bool.false_eq_true, if_false]
  by_cases known : (c.command? (c.request b tool file)).isSome = true
  · simp only [if_pos known]
  · simp only [if_neg known]
    rcases c.beginRebuild with ⟨c', refused | aborted | rebuild⟩ <;> rfl

theorem accept_asked (tool : Tool) (run : Run) (b : Buffer) (c : Coordinator σ) :
    ∃ h, (c.accept tool run b).1 = { c with host := h } ∧ Asked Event.isNote c.host h := by
  rw [accept]
  split
  · exact ⟨_, rfl, Host.debug_asked _ _⟩
  · split
    · exact ⟨c.host, rfl, .refl _⟩
    · split
      · exact ⟨c.host, rfl, .refl _⟩
      · exact ⟨_, rfl, Host.warn_asked _ _⟩

theorem accept_settles (tool : Tool) (run : Run) (b : Buffer) (c : Coordinator σ) :
    Settles b (.ok run) (c.accept tool run b).2.1 (c.accept tool run b).2.2 := by
  rw [accept]
  by_cases hz : run.exitCode = 0
  · have hs : run.succeeded = true := run.succeeded_iff.mpr hz
    by_cases he : run.stdout = b.document.text
    · simp only [hs, he, Bool.not_true, Bool.false_eq_true, if_true, if_false]
      exact .of_unchanged hz he
    · simp only [hs, he, Bool.not_true, Bool.false_eq_true, if_false]
      cases ht : b.setText run.stdout with
      | ok b' => exact .of_replaced hz he ht
      | error failure =>
        refine .of_failed ?_
        rintro _ ⟨⟩ -
        exact ⟨he, by simp [ht]⟩
  · have hs : run.succeeded = false := by
      rw [Bool.eq_false_iff, ne_eq, run.succeeded_iff]
      exact hz
    simp only [hs, Bool.not_false, if_true]
    refine .of_failed ?_
    rintro _ ⟨⟩ h
    exact absurd h hz

/-- What a request to format comes to, once the tool is looked up in the coordinator `l`: with a
command there is one run, in the directory of the project and on the text of the document,
and without one there is none. -/
structure Formats (b : Buffer) (tool : Tool) (file project : Option Path) (l : Coordinator σ)
    (r : Coordinator σ × Buffer × Outcome) : Prop where
  coordinator : r.1 = { l with host := r.1.host }
  missing : r.2.2 = .toolNotFound ↔ l.resolved tool project = none
  notRun : l.resolved tool project = none → Asked Event.isNote l.host r.1.host ∧ r.2.1 = b
  run : ∀ command, l.resolved tool project = some command →
    let answer := Host.run command (tool.arguments file) (project.getD (Host.directory l.host))
      b.document.text l.host
    Asked Event.isNote answer.2 r.1.host ∧ Settles b answer.1 r.2.1 r.2.2

theorem Formats.asked {b : Buffer} {tool : Tool} {file project : Option Path} {l : Coordinator σ}
    {r : Coordinator σ × Buffer × Outcome} (h : Formats b tool file project l r) :
    Asked (fun e => e.isRun || e.isNote) l.host r.1.host := by
  have wider : ∀ e : Event, e.isNote = true → (e.isRun || e.isNote) = true := by simp +contextual
  cases hr : l.resolved tool project with
  | none => exact (h.notRun hr).1.mono wider
  | some command =>
    let directory := project.getD (Host.directory l.host)
    have run : Asked (fun e => e.isRun || e.isNote) l.host _ :=
      .one (.run command (tool.arguments file) directory b.document.text) rfl l.host
    exact run.trans ((h.run command hr).1.mono wider)

theorem Formats.of_uncached {b : Buffer} {tool : Tool} {file project : Option Path}
    {l : Coordinator σ} {r : Coordinator σ × Buffer × Outcome} (h : Formats b tool file project l r)
    (empty : l.cache = none) :
    Asked Event.isNote l.host r.1.host ∧ r.2.1 = b ∧ r.2.2 = .toolNotFound := by
  have missing : l.resolved tool project = none := by rw [resolved, empty, Option.bind_none]
  obtain ⟨asked, kept⟩ := h.notRun missing
  exact ⟨asked, kept, h.missing.mpr missing⟩

theorem serve_formats (r : Request) (b : Buffer) (l : Coordinator σ) :
    Formats b r.tool r.file r.project l (l.serve r b) := by
  have known : l.command? r = l.resolved r.tool r.project := rfl
  rw [serve, known]
  cases hl : l.resolved r.tool r.project with
  | none =>
    refine ⟨rfl, by simp [hl], fun _ => ⟨Host.warn_asked _ _, rfl⟩, ?_⟩
    intro command hc
    rw [hl] at hc
    contradiction
  | some command =>
    simp only [Host.directoryFor]
    cases hr : Host.run command (r.tool.arguments r.file)
      (r.project.getD (Host.directory l.host)) b.document.text l.host with
    | mk answer h =>
      cases answer with
      | error failure =>
        refine ⟨rfl, by simp [hl], by simp [hl], ?_⟩
        intro other ho
        obtain rfl := Option.some.inj (hl.symm.trans ho)
        rw [hr]
        exact ⟨Host.warn_asked _ _, .of_failed (by simp)⟩
      | ok run =>
        obtain ⟨h', ha, asks⟩ := accept_asked r.tool run b { l with host := h }
        have settles := accept_settles r.tool run b { l with host := h }
        refine ⟨by simp only [ha], ?_, by simp [hl], ?_⟩
        · rcases settles.otherwise with ho | ho | ho <;> simp [ho, hl]
        · intro other ho
          obtain rfl := Option.some.inj (hl.symm.trans ho)
          rw [hr]
          simp only [ha]
          exact ⟨asks, settles⟩

theorem format_formats {b : Buffer} (editable : b.document.editable = true) (tool : Option Tool)
    (file : Option Path) (c : Coordinator σ) :
    Formats b (tool.getD c.tool) (file.or b.document.file)
      (ProjectRoot.projectOf c.roots (file.or b.document.file)) (c.lookUp (c.request b tool file))
      (c.format b tool file) := by
  rw [format_eq editable]
  exact serve_formats (c.request b tool file) b _

theorem lookUp_asked (r : Request) (c : Coordinator σ) :
    Asked (fun e => e.isSearch || e.isNote) c.host (c.lookUp r).host := by
  rw [lookUp]
  split
  · exact .refl _
  · exact c.rebuild_asked

/-- A request to format a document that may not be edited changes nothing. Otherwise the tool
is looked up, after one rebuild if it is not found at first, and run if it is found then.
Saving a document is such a request if documents are formatted on save. -/
theorem format_spec (b : Buffer) (tool : Option Tool) (file : Option Path) (c : Coordinator σ) :
    let asked := tool.getD c.tool
    let path := file.or b.document.file
    let project := ProjectRoot.projectOf c.roots path
    let l := if (c.resolved asked project).isSome then c else c.rebuild.1
    (b.document.editable = false → c.format b tool file = (c, b, .skipped)) ∧
      (b.document.editable = true →
        Asked (fun e => e.isSearch || e.isNote) c.host l.host ∧
          Formats b asked path project l (c.format b tool file)) ∧
        c.willSave b =
          if c.settings.formatOnSave then c.format b none none else (c, b, .skipped) := by
  intro asked path project l
  refine ⟨fun locked => format_locked locked tool file c, ?_, rfl⟩
  exact fun editable => ⟨c.lookUp_asked (c.request b tool file), format_formats editable tool file c⟩

end Coordinator

end FormatService
