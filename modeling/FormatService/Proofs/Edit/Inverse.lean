import Mathlib.Data.List.Chain
import FormatService.Proofs.Edit.RoundTrip

/-!
# Inverse changes

Changes that lie one after the other in a text, on its boundaries, can always be applied. What
inverts them lies in the changed text in the same way and leads back, and the inverse of that is
the list there was before. It makes no difference that changes can come to lie at one place.
-/

set_option autoImplicit false

namespace FormatService.Edit

open Text (IsBoundary)

/-- The changes lie one after the other in the text, and on its boundaries. -/
structure Fits (cs : List Change) (t : Text) : Prop where
  forward : ∀ c ∈ cs, c.start ≤ c.stop
  successive : cs.IsChain fun c d => c.stop ≤ d.start
  boundaries : ∀ c ∈ cs, IsBoundary c.start t ∧ IsBoundary c.stop t

instance (cs : List Change) (t : Text) : Decidable (Fits cs t) :=
  decidable_of_iff
    ((∀ c ∈ cs, c.start ≤ c.stop) ∧ (cs.IsChain fun c d => c.stop ≤ d.start) ∧
      ∀ c ∈ cs, IsBoundary c.start t ∧ IsBoundary c.stop t)
    ⟨fun h => ⟨h.1, h.2.1, h.2.2⟩, fun h => ⟨h.forward, h.successive, h.boundaries⟩⟩

namespace Fits

variable {c : Change} {cs : List Change} {t : Text}

theorem tail (h : Fits (c :: cs) t) : Fits cs t := by
  constructor
  · intro d hd
    exact h.forward d (List.mem_cons_of_mem c hd)
  · exact h.successive.tail
  · intro d hd
    exact h.boundaries d (List.mem_cons_of_mem c hd)

/-- The induction is on the changes: what lies before the next one has been dealt with. -/
theorem exists_paired_behind (before : Text) (h : Fits cs (before ++ t))
    (behind : ∀ c ∈ cs.head?, before.byteLength ≤ c.start) (m : Nat) :
    ∃ ds u, Paired before.byteLength m cs ds t u := by
  induction cs generalizing before t m with
  | nil => exact ⟨[], t, .done _ m t⟩
  | cons c cs ih =>
    obtain ⟨⟨a, x, hax, ha⟩, ⟨b, y, hby, hb⟩⟩ := h.boundaries c List.mem_cons_self
    have hstart : before.byteLength ≤ c.start := behind c rfl
    have hstop : c.start ≤ c.stop := h.forward c List.mem_cons_self
    obtain ⟨kept, rfl, rfl⟩ := Text.exists_append_of_byteLength_le hax.symm (by omega)
    obtain ⟨replaced, rfl, rfl⟩ := Text.exists_append_of_byteLength_le (hax.trans hby.symm)
      (by omega)
    have later : Fits cs ((before ++ kept ++ replaced) ++ y) := by
      rw [hby]
      exact h.tail
    have next : ∀ d ∈ cs.head?, (before ++ kept ++ replaced).byteLength ≤ d.start := by
      intro d hd
      rw [hb]
      exact (List.isChain_cons.mp h.successive).1 d hd
    obtain ⟨ds, u, rest⟩ := ih (before ++ kept ++ replaced) later next
      (m + kept.byteLength + c.newText.byteLength)
    simp only [Text.byteLength_append] at ha hb rest
    have head := Paired.change kept replaced c.newText rest
    rw [hb, ha] at head
    exact ⟨_, _, by simpa using head⟩

theorem exists_paired (h : Fits cs t) : ∃ ds u, Paired 0 0 cs ds t u := by
  apply exists_paired_behind [] h
  intro c hc
  exact Nat.zero_le c.start

theorem apply_eq (h : Fits cs t) : apply t cs = applyFrom t [] 0 cs := by
  obtain ⟨ds, u, paired⟩ := h.exists_paired
  rw [apply, paired.sort_eq]

end Fits

theorem Paired.fits {cs ds : List Change} {s t : Text} (h : Paired 0 0 cs ds s t) : Fits cs s := by
  obtain ⟨apart, ordered⟩ := h.ordered
  constructor
  · intro c hc
    exact (ordered c hc).2
  · exact apart.isChain
  · exact h.leads.boundaries

/-- Changes that fit a text can be applied to it. If both texts can be addressed, then what
inverts the changes fits the changed text, leads back to the text there was, and is itself
inverted by the changes there were. -/
theorem inverse_restores {s : Text} {cs : List Change} (fits : Fits cs s)
    (addressable : Addressable s) :
    ∃ t, apply s cs = .ok t ∧
      (Addressable t → ∃ inverse, inverse? s cs = some inverse ∧ Fits inverse t ∧
        apply t inverse = .ok s ∧ inverse? t inverse = some cs) := by
  obtain ⟨inverse, t, there⟩ := fits.exists_paired
  have back := there.symm
  refine ⟨t, there.apply_eq, ?_⟩
  intro small
  exact ⟨inverse, there.inverse?_eq small, back.fits, back.apply_eq, back.inverse?_eq addressable⟩

/-- Two insertions at one place, and two deletions that meet around a character of two bytes. -/
theorem inverse_restores_adjacent :
    let s : Text := ['a', 'b', 'é', 'c']
    let cs : List Change := [⟨1, 1, ['x']⟩, ⟨1, 1, ['é']⟩, ⟨1, 2, []⟩, ⟨2, 4, []⟩, ⟨5, 5, []⟩]
    let t : Text := ['a', 'x', 'é', 'c']
    Fits cs s ∧ Addressable s ∧ apply s cs = .ok t ∧ Addressable t ∧
      ∃ inverse, inverse? s cs = some inverse ∧ Fits inverse t ∧ apply t inverse = .ok s ∧
        inverse? t inverse = some cs := by
  intro s cs t
  have fits : Fits cs s := by decide
  have applied : apply s cs = .ok t := fits.apply_eq.trans (by decide)
  obtain ⟨u, same, restores⟩ := inverse_restores fits (by decide)
  obtain rfl : t = u := Except.ok.inj (applied.symm.trans same)
  exact ⟨fits, by decide, applied, by decide, restores (by decide)⟩

end FormatService.Edit
