import FormatService.Document
import FormatService.Proofs.Edit.Change

/-!
# Documents and the texts they have had

A document remembers changes, its timeline remembers whole texts. A step keeps
the two together: each remembered list of changes still leads from the text it
will meet to the text before. So no step fails, however edits, undoing and moves
of the cursor follow each other.
-/

set_option autoImplicit false

namespace FormatService

open Edit (Change ChangeFault Paired Addressable)
open Text (IsBoundary boundaryBelow)

/-- The present text of a document, and those that undoing goes back to. -/
structure Timeline where
  now : Text
  past : List Text

namespace Timeline

/-- A text other than the present one is remembered. -/
def setText (τ : Timeline) (text : Text) : Timeline :=
  if text = τ.now then τ else ⟨text, τ.now :: τ.past⟩

def undo (τ : Timeline) : Timeline :=
  match τ.past with
  | [] => τ
  | text :: past => ⟨text, past⟩

def step (τ : Timeline) : Document.Step → Timeline
  | .setText text => τ.setText text
  | .undo => τ.undo
  | _ => τ

def reply (τ : Timeline) : Document.Step → Option Bool
  | .undo => some !τ.past.isEmpty
  | _ => none

def run (τ : Timeline) : List Document.Step → Timeline
  | [] => τ
  | step :: steps => (τ.step step).run steps

def replies (τ : Timeline) : List Document.Step → List (Option Bool)
  | [] => []
  | step :: steps => τ.reply step :: (τ.step step).replies steps

end Timeline

namespace Document

def Step.Fits : Step → Prop
  | .setText text => Addressable text
  | _ => True

instance (step : Step) : Decidable step.Fits :=
  match step with
  | .setText text => inferInstanceAs (Decidable (Addressable text))
  | .setCursor _ | .undo | .setReadOnly _ | .close => .isTrue trivial

def run (d : Document) : List Step → Except ChangeFault (Document × List (Option Bool))
  | [] => .ok (d, [])
  | step :: steps => do
    let (d, reply) ← d.perform step
    let (d, replies) ← d.run steps
    return (d, reply :: replies)

/-- Each remembered list of changes leads from one text to the one before it. -/
inductive Unwinds : Text → List (List Change) → List Text → Prop
  | start (now : Text) : Unwinds now [] []
  | back {now before : Text} {cs ds : List Change} {history : List (List Change)}
      {past : List Text} (h : Paired 0 0 cs ds now before) (rest : Unwinds before history past) :
      Unwinds now (cs :: history) (before :: past)

theorem Unwinds.isEmpty_eq {now : Text} {history : List (List Change)} {past : List Text}
    (h : Unwinds now history past) : history.isEmpty = past.isEmpty := by
  cases h <;> rfl

structure Follows (d : Document) (τ : Timeline) : Prop where
  text : d.text = τ.now
  history : Unwinds d.text d.history τ.past
  cursor : IsBoundary d.cursor d.text
  fits : ∀ t ∈ τ.now :: τ.past, Addressable t

theorem Follows.canUndo_eq {d : Document} {τ : Timeline} (h : d.Follows τ) :
    d.canUndo = !τ.past.isEmpty := by
  rw [canUndo, h.history.isEmpty_eq]

theorem follows_new {text : Text} (file : Option Path) (h : Addressable text) :
    (new text file).Follows ⟨text, []⟩ :=
  ⟨rfl, .start text, .zero text, by simpa using h⟩

theorem applyChanges_eq {d : Document} {cs ds : List Change} {t : Text}
    (h : Paired 0 0 cs ds d.text t) (ht : Addressable t) (hc : IsBoundary d.cursor d.text) :
    ∃ cursor, d.applyChanges cs = .ok ({ d with text := t, cursor := cursor }, ds) ∧
      IsBoundary cursor t := by
  refine ⟨Edit.shift d.cursor cs, ?_, h.shift_isBoundary hc ht⟩
  rw [applyChanges, h.inverse?_eq ht, h.apply_eq]
  rfl

/-- Where the document belongs and whether it may be formatted are as they were. -/
def SamePlace (d d' : Document) : Prop :=
  d'.file = d.file ∧ d'.readOnly = d.readOnly ∧ d'.closed = d.closed

/-- What a step does to the document, apart from its place in the timeline. -/
def Effect (d : Document) : Step → Document → Prop
  | .setText text, d' => d'.text = text ∧ d.SamePlace d'
  | .setCursor offset, d' =>
    d' = { d with cursor := d'.cursor } ∧ d'.cursor ≤ min offset d.text.byteLength ∧
      ∀ n ≤ min offset d.text.byteLength, IsBoundary n d.text → n ≤ d'.cursor
  | .undo, d' => d.SamePlace d'
  | .setReadOnly value, d' => d' = { d with readOnly := value }
  | .close, d' => d' = { d with closed := true }

theorem setText_follows {d : Document} {τ : Timeline} (h : d.Follows τ) {t : Text}
    (ht : Addressable t) :
    ∃ d', d.setText t = .ok d' ∧ d'.Follows (τ.setText t) ∧ d.Effect (.setText t) d' := by
  by_cases hs : t = d.text
  · have hc : Edit.changes d.text t = [] := (Edit.changes_eq_nil_iff _ _).2 hs.symm
    refine ⟨d, ?_, ?_, hs.symm, rfl, rfl, rfl⟩
    · rw [setText, hc]
    · rwa [Timeline.setText, if_pos (hs.trans h.text)]
  · obtain ⟨ds, hp⟩ := Edit.changes_paired d.text t
    obtain ⟨cursor, ha, hb⟩ := applyChanges_eq hp ht h.cursor
    refine ⟨{ d with text := t, cursor := cursor, history := ds :: d.history },
      ?_, ?_, rfl, rfl, rfl, rfl⟩
    · have hne : Edit.changes d.text t ≠ [] := fun hc =>
        hs ((Edit.changes_eq_nil_iff _ _).1 hc).symm
      rw [setText]
      split
      · contradiction
      · rw [ha]
        rfl
    · rw [Timeline.setText, if_neg (fun hn => hs (hn.trans h.text.symm))]
      refine ⟨rfl, ?_, hb, ?_⟩
      · rw [← h.text]
        exact .back hp.symm h.history
      · intro u hu
        rcases List.mem_cons.1 hu with rfl | hu
        · exact ht
        · exact h.fits u hu

theorem undo_follows {d : Document} {τ : Timeline} (h : d.Follows τ) :
    ∃ d', d.undo = .ok (d', !τ.past.isEmpty) ∧ d'.Follows τ.undo ∧ d.Effect .undo d' := by
  obtain ⟨htext, hhistory, hcursor, hfits⟩ := h
  obtain ⟨now, past⟩ := τ
  cases past with
  | nil =>
    cases hh : d.history with
    | nil => exact ⟨d, by simp [undo, hh], ⟨htext, hhistory, hcursor, hfits⟩, rfl, rfl, rfl⟩
    | cons cs history =>
      rw [hh] at hhistory
      cases hhistory
  | cons before past =>
    cases hh : d.history with
    | nil =>
      rw [hh] at hhistory
      cases hhistory
    | cons cs history =>
      rw [hh] at hhistory
      cases hhistory with
      | back hp rest =>
        have hb : Addressable before := hfits before (by simp)
        obtain ⟨cursor, ha, hc⟩ :=
          applyChanges_eq (d := { d with history := history }) hp hb hcursor
        refine ⟨{ d with history := history, text := before, cursor := cursor },
          ?_, ⟨rfl, rest, hc, ?_⟩, rfl, rfl, rfl⟩
        · simp only [undo, hh, ha]
          rfl
        · intro u hu
          exact hfits u (List.mem_cons_of_mem _ hu)

theorem setCursor_follows {d : Document} {τ : Timeline} (h : d.Follows τ) (offset : Nat) :
    (d.setCursor offset).Follows τ ∧ d.Effect (.setCursor offset) (d.setCursor offset) := by
  have hb := Text.boundaryBelow_isBoundary offset d.text
  refine ⟨⟨h.text, h.history, hb, h.fits⟩, rfl, ?_, ?_⟩
  · exact Nat.le_min.2 ⟨Text.boundaryBelow_le offset d.text, hb.le⟩
  · intro n hn hnb
    exact hnb.le_boundaryBelow (Nat.le_min.1 hn).1

theorem perform_follows {d : Document} {τ : Timeline} (h : d.Follows τ) {step : Step}
    (hs : step.Fits) :
    ∃ d', d.perform step = .ok (d', τ.reply step) ∧ d'.Follows (τ.step step) ∧ d.Effect step d' := by
  cases step with
  | setText text =>
    obtain ⟨d', ht, hf, he⟩ := setText_follows h hs
    exact ⟨d', by rw [perform, ht]; rfl, hf, he⟩
  | setCursor offset =>
    obtain ⟨hf, he⟩ := setCursor_follows h offset
    exact ⟨_, rfl, hf, he⟩
  | undo =>
    obtain ⟨d', hu, hf, he⟩ := undo_follows h
    exact ⟨d', by rw [perform, hu]; rfl, hf, he⟩
  | setReadOnly value => exact ⟨_, rfl, ⟨h.text, h.history, h.cursor, h.fits⟩, rfl⟩
  | close => exact ⟨_, rfl, ⟨h.text, h.history, h.cursor, h.fits⟩, rfl⟩

theorem run_follows {d : Document} {τ : Timeline} (h : d.Follows τ) {steps : List Step}
    (hs : ∀ step ∈ steps, step.Fits) :
    ∃ d', d.run steps = .ok (d', τ.replies steps) ∧ d'.Follows (τ.run steps) := by
  induction steps generalizing d τ with
  | nil => exact ⟨d, rfl, h⟩
  | cons step steps ih =>
    obtain ⟨d₁, hp, hf, -⟩ := perform_follows h (hs step (by simp))
    obtain ⟨d₂, hr, hf'⟩ := ih hf (fun s hm => hs s (by simp [hm]))
    refine ⟨d₂, ?_, hf'⟩
    simp only [run, hp]
    change (do let (d, replies) ← d₁.run steps; return (d, τ.reply step :: replies)) = _
    rw [hr]
    rfl

/-- No run of steps fails. The text and the answers are those of the timeline, the
cursor stays on a boundary of the text, and each further step has its effect. -/
theorem run_eq_timeline (text : Text) (file : Option Path) (steps : List Step)
    (ht : Addressable text) (hs : ∀ step ∈ steps, step.Fits) :
    ∃ d, (new text file).run steps = .ok (d, (Timeline.mk text []).replies steps) ∧
      d.text = ((Timeline.mk text []).run steps).now ∧
      d.canUndo = !((Timeline.mk text []).run steps).past.isEmpty ∧
      d.cursor ≤ d.text.byteLength ∧ IsBoundary d.cursor d.text ∧
      ∀ step : Step, step.Fits → ∃ d',
        d.perform step = .ok (d', ((Timeline.mk text []).run steps).reply step) ∧
          d'.text = (((Timeline.mk text []).run steps).step step).now ∧ d.Effect step d' := by
  obtain ⟨d, hr, hf⟩ := run_follows (follows_new file ht) hs
  refine ⟨d, hr, hf.text, hf.canUndo_eq, hf.cursor.le, hf.cursor, ?_⟩
  intro step hstep
  obtain ⟨d', hp, hf', he⟩ := perform_follows hf hstep
  exact ⟨d', hp, hf'.text, he⟩

/-- Two replacements of a text with a character of two bytes, a move of the cursor
into that character, and one undo more than there are replacements. -/
theorem run_eq_timeline_accent :
    Addressable ['a', 'é', 'b'] ∧
      (∀ step ∈ [Step.setText ['é', 'é'], .setCursor 3, .setText [], .undo, .undo, .undo],
        step.Fits) ∧
      ∃ d, (new ['a', 'é', 'b'] none).run
          [.setText ['é', 'é'], .setCursor 3, .setText [], .undo, .undo, .undo] =
          .ok (d, [none, none, none, some true, some true, some false]) ∧
        d.text = ['a', 'é', 'b'] := by
  have ht : Addressable ['a', 'é', 'b'] := by decide
  have hs : ∀ step ∈ [Step.setText ['é', 'é'], .setCursor 3, .setText [], .undo, .undo, .undo],
      step.Fits := by decide
  obtain ⟨d, hr, htext, -⟩ := run_eq_timeline ['a', 'é', 'b'] none _ ht hs
  exact ⟨ht, hs, d, hr, htext⟩

end Document

end FormatService
