import FormatService.Proofs.Edit.Change

/-!
# From one text to another and back

The changes between two texts lead from the one to the other, and what inverts them
leads back. Both lists are in order, apart, and on character boundaries of the text
that they are applied to. There is nothing to change just between equal texts.
-/

set_option autoImplicit false

namespace FormatService.Edit

open Text (IsBoundary)

/-- The changes replace parts of the first text that lie one after the other, and this gives the
second text. -/
structure Leads (s t : Text) (cs : List Change) : Prop where
  ranges : ∀ c ∈ cs, c.start ≤ c.stop ∧ c.stop ≤ s.byteLength
  boundaries : ∀ c ∈ cs, IsBoundary c.start s ∧ IsBoundary c.stop s
  apart : cs.Pairwise fun c d => c.stop ≤ d.start
  apply_eq : apply s cs = .ok t

namespace Paired

variable {n m : Nat} {cs ds : List Change} {s t : Text}

/-- Every change starts and ends on a boundary. The offset in front is that of what lies before. -/
theorem boundaries (h : Paired n m cs ds s t) : ∀ c ∈ cs, ∃ p q, IsBoundary p s ∧ IsBoundary q s ∧
    c.start = n + p ∧ c.stop = n + q := by
  induction h with
  | done => exact fun _ hc => absurd hc List.not_mem_nil
  | @change n m cs ds s t kept replaced inserted rest ih =>
    intro c hc
    rcases List.mem_cons.mp hc with rfl | hc
    · refine ⟨kept.byteLength, (kept ++ replaced).byteLength, ⟨kept, replaced ++ s, ?_, rfl⟩,
        ⟨kept ++ replaced, s, rfl, rfl⟩, rfl, ?_⟩
      · exact (List.append_assoc kept replaced s).symm
      · rw [Text.byteLength_append, Nat.add_assoc]
    · obtain ⟨p, q, hp, hq, start, stop⟩ := ih c hc
      refine ⟨_, _, hp.append (kept ++ replaced), hq.append (kept ++ replaced), ?_, ?_⟩
      · rw [start, Text.byteLength_append]
        omega
      · rw [stop, Text.byteLength_append]
        omega

theorem leads (h : Paired 0 0 cs ds s t) : Leads s t cs := by
  have boundary : ∀ c ∈ cs, IsBoundary c.start s ∧ IsBoundary c.stop s := by
    intro c hc
    obtain ⟨p, q, hp, hq, start, stop⟩ := h.boundaries c hc
    rw [start, stop, Nat.zero_add, Nat.zero_add]
    exact ⟨hp, hq⟩
  obtain ⟨apart, ordered⟩ := h.ordered
  exact ⟨fun c hc => ⟨(ordered c hc).2, (boundary c hc).2.le⟩, boundary, apart, h.apply_eq⟩

end Paired

/-- The changes between two texts lead from the one to the other and can be inverted, which leads
back; there are none just if the texts are equal. -/
theorem changes_leads (s t : Text) (fits : Addressable t) :
    Leads s t (changes s t) ∧
      (∃ inverse, inverse? s (changes s t) = some inverse ∧ Leads t s inverse) ∧
        (changes s t = [] ↔ s = t) := by
  obtain ⟨inverse, paired⟩ := changes_paired s t
  exact ⟨paired.leads, ⟨inverse, paired.inverse?_eq fits, paired.symm.leads⟩,
    changes_eq_nil_iff s t⟩

/-- A character of two bytes is kept, and what is around it goes there and back. -/
theorem changes_leads_accent :
    Addressable ['b', 'é'] ∧ changes ['a', 'é', 'b'] ['b', 'é'] ≠ [] ∧
      apply ['a', 'é', 'b'] (changes ['a', 'é', 'b'] ['b', 'é']) = .ok ['b', 'é'] ∧
        ∃ inverse, inverse? ['a', 'é', 'b'] (changes ['a', 'é', 'b'] ['b', 'é']) = some inverse ∧
          apply ['b', 'é'] inverse = .ok ['a', 'é', 'b'] := by
  have fits : Addressable ['b', 'é'] := by decide
  obtain ⟨there, ⟨inverse, hi, back⟩, empty⟩ := changes_leads ['a', 'é', 'b'] ['b', 'é'] fits
  have some : changes ['a', 'é', 'b'] ['b', 'é'] ≠ [] := fun hc => absurd (empty.mp hc) (by decide)
  exact ⟨fits, some, there.apply_eq, inverse, hi, back.apply_eq⟩

end FormatService.Edit
