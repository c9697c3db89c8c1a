import FormatService.Proofs.Host.Steady

/-!
# Hosts that differ in what is noted

Two hosts may answer alike although more is noted on one of them. They go on to do so whatever
is asked of both, and also if something is noted on the louder one alone. This is all that
happens when a program that notes by level does the same on both.
-/

set_option autoImplicit false

namespace FormatService

/-- Pairs of which the first parts are related and the second parts are. -/
def Matched {α β : Type} (A : α → α → Prop) (B : β → β → Prop) (x y : α × β) : Prop :=
  A x.1 y.1 ∧ B x.2 y.2

@[elab_as_elim]
theorem Matched.elim {α β : Type} {A : α → α → Prop} {B : β → β → Prop}
    {motive : α × β → α × β → Prop} {x y : α × β} (h : Matched A B x y)
    (pair : ∀ a b a' b', A a a' → B b b' → motive (a, b) (a', b')) : motive x y :=
  pair x.1 x.2 y.1 y.2 h.1 h.2

theorem Replies.foldl_after_eq (events : List Event) (a : Replies) :
    events.foldl after a = (events.filter (!·.isNote)).foldl after a := by
  rw [List.foldl_filter]
  congr 1
  funext a e
  cases e with
  | _ => rfl

namespace Host

variable {σ : Type} [Host σ]

/-- A relation between hosts and louder ones that are like them otherwise. -/
structure Quieter (R : σ → σ → Prop) : Prop where
  louder : ∀ {q v : σ}, R q v → (level v).rank ≤ (level q).rank
  replies : ∀ {q v : σ}, R q v → Host.replies v = { Host.replies q with level := level v }
  serve : ∀ {q v : σ}, R q v → ∀ e, R (serveOne q e) (serveOne v e)
  note : ∀ {q v : σ}, R q v → ∀ text, R q (note text v)

namespace Quieter

variable {R : σ → σ → Prop} (quieter : Quieter R) {q v : σ} (r : R q v)
include quieter r

theorem directory : Host.directory v = Host.directory q :=
  congrArg Replies.directory (quieter.replies r)

theorem present (path : Path) : Host.present path v = Host.present path q :=
  congrFun (congrArg Replies.present (quieter.replies r)) path

theorem read (path : Path) : Matched Eq R (Host.read path q) (Host.read path v) :=
  ⟨(congrFun (congrArg Replies.read (quieter.replies r)) path).symm, quieter.serve r (.read path)⟩

theorem write (path : Path) (text : Text) :
    Matched Eq R (Host.write path text q) (Host.write path text v) :=
  ⟨(congrFun (congrFun (congrArg Replies.write (quieter.replies r)) path) text).symm,
    quieter.serve r (.write path text)⟩

theorem run (command : String) (arguments : List String) (directory : Path) (input : Text) :
    Matched Eq R (Host.run command arguments directory input q)
      (Host.run command arguments directory input v) := by
  have same := congrArg (Replies.run · command arguments directory input) (quieter.replies r)
  exact ⟨same.symm, quieter.serve r (.run command arguments directory input)⟩

theorem noteIf {p p' : Prop} [Decidable p] [Decidable p'] (shown : p → p') (text : String) :
    R (if p then Host.note text q else q) (if p' then Host.note text v else v) := by
  by_cases h : p
  · rw [if_pos h, if_pos (shown h)]
    exact quieter.serve r (.note text)
  · rw [if_neg h]
    split
    · exact quieter.note r text
    · exact r

theorem debug (text : String) : R (Host.debug text q) (Host.debug text v) := by
  refine quieter.noteIf r (fun h => ?_) _
  have louder := quieter.louder r
  rw [h] at louder
  cases hv : level v with
  | debug => rfl
  | _ =>
    rw [hv] at louder
    contradiction

theorem shows {message : LogLevel} (h : (level q).shows message = true) :
    (level v).shows message = true :=
  decide_eq_true (Nat.le_trans (quieter.louder r) (of_decide_eq_true h))

theorem warn (text : String) : R (Host.warn text q) (Host.warn text v) :=
  quieter.noteIf r (quieter.shows r) text

theorem complain (text : String) : R (Host.complain text q) (Host.complain text v) :=
  quieter.noteIf r (quieter.shows r) text

end Quieter

/-- Both hosts come from a third one by the same requests, apart from what is noted. -/
def Hushed (h x y : σ) : Prop :=
  ∃ asked asked', x = Host.serve asked h ∧ y = Host.serve asked' h ∧
    asked.filter (!·.isNote) = asked'.filter (!·.isNote)

namespace Hushed

variable {h x y : σ}

theorem of_notes {notes notes' : List Event} (quiet : ∀ e ∈ notes, e.isNote = true)
    (quiet' : ∀ e ∈ notes', e.isNote = true) :
    Hushed h (Host.serve notes h) (Host.serve notes' h) := by
  refine ⟨notes, notes', rfl, rfl, ?_⟩
  rw [Event.filter_eq_nil (by simpa using quiet), Event.filter_eq_nil (by simpa using quiet')]

theorem serve (hushed : Hushed h x y) (e : Event) : Hushed h (serveOne x e) (serveOne y e) := by
  obtain ⟨asked, asked', rfl, rfl, same⟩ := hushed
  refine ⟨asked ++ [e], asked' ++ [e], (serve_append asked [e] h).symm,
    (serve_append asked' [e] h).symm, ?_⟩
  rw [List.filter_append, List.filter_append, same]

theorem replies (hushed : Hushed h x y) (steady : Steady h) : replies y = replies x := by
  obtain ⟨asked, asked', rfl, rfl, same⟩ := hushed
  rw [steady, steady, Replies.foldl_after_eq, Replies.foldl_after_eq asked, same]

theorem quieter (steady : Steady h) : Quieter (Hushed h) where
  louder := fun hushed => Nat.le_of_eq (congrArg (·.level.rank) (hushed.replies steady))
  replies := by
    intro x y hushed
    have level : level y = level x := congrArg Replies.level (hushed.replies steady)
    rw [hushed.replies steady, level]
    rfl
  serve := serve
  note := by
    rintro _ _ ⟨asked, asked', rfl, rfl, same⟩ text
    have noted : note text (Host.serve asked' h) = Host.serve (asked' ++ [.note text]) h :=
      (serve_append asked' [.note text] h).symm
    refine ⟨asked, asked' ++ [.note text], rfl, noted, ?_⟩
    rw [List.filter_append, same]
    exact (List.append_nil _).symm

end Hushed

end Host

end FormatService
