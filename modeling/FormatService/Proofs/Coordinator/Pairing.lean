import FormatService.Proofs.Coordinator.Format
import FormatService.Proofs.Host.Quieter

/-!
# Pairs of coordinators that format alike

Two coordinators on hosts that answer alike may be related in some way that has nothing to do
with the hosts. If they look tools up alike, they format alike and are still related.
-/

set_option autoImplicit false

namespace FormatService.Coordinator

open Host (Quieter)

variable {σ : Type}

/-- A relation between coordinators that stays when their hosts change to related ones. -/
structure Pairing (R : σ → σ → Prop) (T : Coordinator σ → Coordinator σ → Prop) : Prop where
  hosts : ∀ {c d : Coordinator σ}, T c d → R c.host d.host
  move : ∀ {c d : Coordinator σ}, T c d → ∀ {q v : σ}, R q v →
    T { c with host := q } { d with host := v }

namespace Pairing

variable {R : σ → σ → Prop} {T : Coordinator σ → Coordinator σ → Prop} (pairing : Pairing R T)
  {c d : Coordinator σ} (pair : T c d)
include pairing pair

theorem onHost {f : σ → σ} (kept : ∀ {q v}, R q v → R (f q) (f v)) :
    T (c.onHost f) (d.onHost f) :=
  pairing.move pair (kept (pairing.hosts pair))

variable [Host σ] (quieter : Quieter R)
include quieter

theorem accept (tool : Tool) (run : Run) (b : Buffer) :
    Matched T Eq (c.accept tool run b) (d.accept tool run b) := by
  rw [Coordinator.accept, Coordinator.accept]
  split
  · exact ⟨pairing.onHost pair fun r => quieter.debug r _, rfl⟩
  · split
    · exact ⟨pair, rfl⟩
    · split
      · exact ⟨pair, rfl⟩
      · exact ⟨pairing.onHost pair fun r => quieter.warn r _, rfl⟩

theorem serve (r : Request) (b : Buffer) (known : d.command? r = c.command? r) :
    Matched T Eq (c.serve r b) (d.serve r b) := by
  have hosts := pairing.hosts pair
  rw [Coordinator.serve, Coordinator.serve, known]
  cases c.command? r with
  | none => exact ⟨pairing.onHost pair fun q => quieter.warn q _, rfl⟩
  | some command =>
    simp only [Host.directoryFor, quieter.directory hosts]
    refine (quieter.run hosts _ _ _ _).elim ?_
    rintro answer q _ v rfl hosts
    cases answer with
    | ok run => exact pairing.accept (pairing.move pair hosts) quieter _ run b
    | error failure => exact ⟨pairing.move pair (quieter.warn hosts _), rfl⟩

theorem format {b : Buffer} {tool : Option Tool} {file : Option Path}
    (same : d.request b tool file = c.request b tool file)
    (looked : let r := c.request b tool file
      T (c.lookUp r) (d.lookUp r) ∧ (d.lookUp r).command? r = (c.lookUp r).command? r) :
    Matched T Eq (c.format b tool file) (d.format b tool file) := by
  cases editable : b.document.editable with
  | false =>
    rw [format_locked editable, format_locked editable]
    exact ⟨pair, rfl⟩
  | true =>
    rw [format_eq editable, format_eq editable, same]
    exact pairing.serve looked.1 quieter _ b looked.2

end Pairing

end FormatService.Coordinator
