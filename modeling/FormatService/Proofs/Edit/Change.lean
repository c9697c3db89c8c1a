import FormatService.Edit.Change
import FormatService.Proofs.Text.Boundary
import FormatService.Proofs.Edit.Difference

/-!
# Changes that undo each other

Two lists of changes are paired when one leads from a text to another and the
other leads back. Paired lists are in order, apart and on boundaries of the text
they are meant for, so applying them succeeds, inverting gives the other list, and
a position on a boundary is moved to a boundary.
-/

set_option autoImplicit false

namespace FormatService.Edit

open Text (IsBoundary)

/-- A text that fits into memory has fewer bytes than there are offsets. -/
def Addressable (t : Text) : Prop := t.byteLength < Change.limit

instance (t : Text) : Decidable (Addressable t) :=
  inferInstanceAs (Decidable (t.byteLength < Change.limit))

/-- The first list turns one text into the other, and the second list turns it back.
The texts are what follows an offset in each of the two whole texts. -/
inductive Paired : Nat → Nat → List Change → List Change → Text → Text → Prop
  | done (n m : Nat) (t : Text) : Paired n m [] [] t t
  | change {n m : Nat} {cs ds : List Change} {s t : Text} (kept replaced inserted : Text)
      (rest : Paired (n + kept.byteLength + replaced.byteLength)
        (m + kept.byteLength + inserted.byteLength) cs ds s t) :
      Paired n m
        (⟨n + kept.byteLength, n + kept.byteLength + replaced.byteLength, inserted⟩ :: cs)
        (⟨m + kept.byteLength, m + kept.byteLength + inserted.byteLength, replaced⟩ :: ds)
        (kept ++ replaced ++ s) (kept ++ inserted ++ t)

namespace Paired

variable {n m : Nat} {cs ds : List Change} {s t : Text}

theorem symm (h : Paired n m cs ds s t) : Paired m n ds cs t s := by
  induction h with
  | done n m t => exact .done m n t
  | change kept replaced inserted rest ih => exact .change kept inserted replaced ih

theorem keep (k : Text) (h : Paired (n + k.byteLength) (m + k.byteLength) cs ds s t) :
    Paired n m cs ds (k ++ s) (k ++ t) := by
  cases h with
  | done => exact .done n m _
  | change kept replaced inserted rest =>
    have hc := Paired.change (n := n) (m := m) (k ++ kept) replaced inserted
      (by simpa [Nat.add_assoc] using rest)
    simpa [Nat.add_assoc] using hc

theorem ordered (h : Paired n m cs ds s t) :
    cs.Pairwise (fun a b => a.stop ≤ b.start) ∧ ∀ c ∈ cs, n ≤ c.start ∧ c.start ≤ c.stop := by
  induction h with
  | done => simp
  | @change n m cs ds s t kept replaced inserted rest ih =>
    obtain ⟨hp, hb⟩ := ih
    constructor
    · exact List.pairwise_cons.2 ⟨fun c hc => (hb c hc).1, hp⟩
    · intro c hc
      rcases List.mem_cons.1 hc with rfl | hc
      · exact ⟨Nat.le_add_right _ _, Nat.le_add_right _ _⟩
      · have := hb c hc
        omega

theorem sort_eq (h : Paired n m cs ds s t) : Change.sort cs = cs := by
  obtain ⟨hp, hb⟩ := h.ordered
  apply List.mergeSort_of_pairwise
  refine hp.imp_of_mem ?_
  intro a b ha hb' hab
  have h₁ := hb a ha
  have h₂ := hb b hb'
  simp only [Change.byPosition, Bool.or_eq_true, Bool.and_eq_true, decide_eq_true_eq, beq_iff_eq]
  omega

/-! ## Applying -/

theorem keptBetween_append (before kept after : Text) :
    keptBetween (before ++ kept ++ after) before.byteLength
      (before.byteLength + kept.byteLength) = .ok kept := by
  rw [keptBetween]
  split
  · rw [Nat.min_eq_right (by simp), Text.slice?_append]
    rfl
  · next h =>
    have hk : kept.byteLength = 0 := by
      simp only [Text.byteLength_append] at h
      omega
    rw [Text.byteLength_eq_zero hk]

theorem keptAfter_append (before after : Text) :
    keptAfter (before ++ after) before.byteLength = .ok after := by
  rw [keptAfter]
  split
  · rw [Text.from?_append]
    rfl
  · next h =>
    have ha : after.byteLength = 0 := by
      simp only [Text.byteLength_append] at h
      omega
    rw [Text.byteLength_eq_zero ha]

/-- The induction is on the changes: what was kept so far is the text before them. -/
theorem applyFrom_eq (h : Paired n m cs ds s t) (before : Text) (hn : before.byteLength = n)
    (seen : List Change) : applyFrom (before ++ s) seen n cs = .ok t := by
  induction h generalizing before seen with
  | done n m t =>
    subst hn
    exact keptAfter_append before t
  | @change n m cs ds s t kept replaced inserted rest ih =>
    subst hn
    have hk := keptBetween_append before kept (replaced ++ s)
    have hr := ih (before ++ kept ++ replaced) (by simp [Nat.add_assoc])
    simp only [List.append_assoc] at hk hr ⊢
    rw [applyFrom, if_neg (by simp), if_neg (by simp)]
    simp only [hk, hr]
    exact congrArg Except.ok (List.append_assoc kept inserted t)

theorem apply_eq (h : Paired 0 0 cs ds s t) : apply s cs = .ok t := by
  rw [apply, h.sort_eq]
  exact h.applyFrom_eq [] rfl []

/-! ## Inverting -/

theorem offset_natCast {k : Nat} (h : k < Change.limit) : Change.offset (k : Int) = k := by
  rw [Change.offset, Int.emod_eq_of_lt (by omega) (by omega), Int.toNat_natCast]

theorem moved_add_growth (n m kept replaced : Nat) (inserted : Text) :
    ((m : Int) - n) + Change.growth ⟨n + kept, n + kept + replaced, inserted⟩ =
      ((m + kept + inserted.byteLength : Nat) : Int) - ((n + kept + replaced : Nat) : Int) := by
  simp only [Change.growth, Change.width]
  omega

theorem inverseFrom_eq (h : Paired n m cs ds s t) (before : Text) (hn : before.byteLength = n)
    (ht : m + t.byteLength < Change.limit) :
    inverseFrom (before ++ s) ((m : Int) - n) cs = some ds := by
  induction h generalizing before with
  | done => rfl
  | @change n m cs ds s t kept replaced inserted rest ih =>
    subst hn
    simp only [Text.byteLength_append] at ht
    have hs := Text.slice?_append (before ++ kept) replaced s
    have hr := ih (before ++ kept ++ replaced) (by simp [Nat.add_assoc]) (by omega)
    simp only [List.append_assoc, Text.byteLength_append] at hs hr ⊢
    have hg := moved_add_growth before.byteLength m kept.byteLength replaced.byteLength inserted
    have hm : ((before.byteLength + kept.byteLength : Nat) : Int) + (m - before.byteLength) =
        ((m + kept.byteLength : Nat) : Int) := by omega
    have hi : ((m + kept.byteLength : Nat) : Int) + inserted.byteLength =
        ((m + kept.byteLength + inserted.byteLength : Nat) : Int) := by omega
    rw [inverseFrom]
    simp only [hs, hg, hr, hm, hi, Option.bind_eq_bind, Option.bind_some]
    rw [offset_natCast (by omega), offset_natCast (by omega)]
    rfl

theorem inverse?_eq (h : Paired 0 0 cs ds s t) (ht : Addressable t) : inverse? s cs = some ds :=
  h.inverseFrom_eq [] rfl (by simpa [Addressable] using ht)

/-! ## Positions -/

theorem shiftFrom_nil {p : Nat} (hp : n ≤ p) (fits : m + (p - n) < Change.limit) :
    shiftFrom p ((m : Int) - n) [] = m + (p - n) := by
  have hm : (p : Int) + ((m : Int) - n) = ((m + (p - n) : Nat) : Int) := by omega
  rw [shiftFrom, hm, offset_natCast fits]

theorem shiftFrom_change {p : Nat} (kept replaced : Nat) (inserted : Text) (cs : List Change)
    (hp : n ≤ p) (fits : m + kept + inserted.byteLength < Change.limit) :
    shiftFrom p ((m : Int) - n) (⟨n + kept, n + kept + replaced, inserted⟩ :: cs) =
      if n + kept + replaced ≤ p then
        shiftFrom p (((m + kept + inserted.byteLength : Nat) : Int) -
          ((n + kept + replaced : Nat) : Int)) cs
      else if n + kept < p then m + kept + inserted.byteLength else m + (p - n) := by
  rw [shiftFrom, moved_add_growth]
  by_cases behind : n + kept + replaced ≤ p
  · rw [if_pos behind, if_pos behind]
  · rw [if_neg behind, if_neg behind]
    by_cases inside : n + kept < p
    · have hm : ((n + kept : Nat) : Int) + ((m : Int) - n) + inserted.byteLength =
          ((m + kept + inserted.byteLength : Nat) : Int) := by omega
      rw [if_pos inside, if_pos inside, hm, offset_natCast fits]
    · rw [if_neg inside, if_neg inside]
      exact shiftFrom_nil hp (by omega)

theorem shiftFrom_isBoundary (h : Paired n m cs ds s t) {p : Nat} (hp : IsBoundary p s)
    (ht : m + t.byteLength < Change.limit) :
    ∃ q, IsBoundary q t ∧ shiftFrom (n + p) ((m : Int) - n) cs = m + q := by
  induction h generalizing p with
  | done n m t =>
    have hl := hp.le
    refine ⟨p, hp, ?_⟩
    rw [shiftFrom_nil (by omega) (by omega)]
    omega
  | @change n m cs ds s t kept replaced inserted rest ih =>
    simp only [Text.byteLength_append] at ht
    obtain ⟨a, b, hab, rfl⟩ := hp
    rw [shiftFrom_change _ _ _ _ (by omega) (by omega)]
    split
    -- behind the change: the position goes on from there in both texts
    · next hstop =>
      obtain ⟨c, rfl, rfl⟩ := Text.exists_append_of_byteLength_le hab.symm
        (by simp only [Text.byteLength_append]; omega)
      obtain ⟨q, ⟨x, y, hxy, rfl⟩, hq⟩ := ih ⟨c, b, rfl, rfl⟩ (by omega)
      refine ⟨(kept ++ inserted ++ x).byteLength, ⟨kept ++ inserted ++ x, y, by simp [hxy], rfl⟩, ?_⟩
      have hn : n + (kept ++ replaced ++ c).byteLength =
          n + kept.byteLength + replaced.byteLength + c.byteLength := by
        simp only [Text.byteLength_append]
        omega
      rw [hn, hq]
      simp only [Text.byteLength_append]
      omega
    · split
      -- inside the change: the end of what is inserted
      · refine ⟨(kept ++ inserted).byteLength, ⟨kept ++ inserted, t, rfl, rfl⟩, ?_⟩
        rw [Text.byteLength_append, Nat.add_assoc]
      -- before the change: nothing has been changed up to there
      · next hstart =>
        rw [List.append_assoc] at hab
        obtain ⟨c, rfl, -⟩ := Text.exists_append_of_byteLength_le hab (by omega)
        refine ⟨a.byteLength, ⟨a, c ++ inserted ++ t, by simp, rfl⟩, ?_⟩
        omega

theorem shift_isBoundary (h : Paired 0 0 cs ds s t) {p : Nat} (hp : IsBoundary p s)
    (ht : Addressable t) : IsBoundary (shift p cs) t := by
  obtain ⟨q, hq, hs⟩ := h.shiftFrom_isBoundary hp (by simpa [Addressable] using ht)
  simp only [Nat.zero_add] at hs
  rw [shift, show (0 : Int) = ((0 : Nat) : Int) - ((0 : Nat) : Int) from rfl, hs]
  exact hq

end Paired

/-! ## The changes of a script -/

/-- From a change that is not finished yet, the changes lead from what it replaces and
the rest of the old text to its new text and the rest of the new text. -/
theorem changesFrom_paired (script : Script) (n m : Nat) :
    (∃ ds, Paired n m (changesFrom n none script) ds script.old script.new) ∧
      ∀ replaced inserted : Text, ∃ ds,
        Paired n m (changesFrom (n + replaced.byteLength)
          (some ⟨n, n + replaced.byteLength, inserted⟩) script) ds
          (replaced ++ script.old) (inserted ++ script.new) := by
  induction script generalizing n m with
  | nil =>
    refine ⟨⟨[], .done n m []⟩, fun replaced inserted => ?_⟩
    exact ⟨_, .change [] replaced inserted (.done _ _ [])⟩
  | cons chunk script ih =>
    cases chunk with
    | keep k =>
      constructor
      · obtain ⟨ds, h⟩ := (ih (n + k.byteLength) (m + k.byteLength)).1
        exact ⟨ds, h.keep k⟩
      · intro replaced inserted
        obtain ⟨ds, h⟩ := (ih (n + replaced.byteLength + k.byteLength)
          (m + inserted.byteLength + k.byteLength)).1
        exact ⟨_, .change [] replaced inserted (h.keep k)⟩
    | delete d =>
      constructor
      · obtain ⟨ds, h⟩ := (ih n m).2 d []
        exact ⟨ds, h⟩
      · intro replaced inserted
        obtain ⟨ds, h⟩ := (ih n m).2 (replaced ++ d) inserted
        exact ⟨ds, by simpa [changesFrom, Chunk.old, Chunk.new, Nat.add_assoc] using h⟩
    | insert i =>
      constructor
      · obtain ⟨ds, h⟩ := (ih n m).2 [] i
        exact ⟨ds, h⟩
      · intro replaced inserted
        obtain ⟨ds, h⟩ := (ih n m).2 replaced (inserted ++ i)
        exact ⟨ds, by simpa [changesFrom, Chunk.old, Chunk.new] using h⟩

theorem changes_paired (s t : Text) : ∃ ds, Paired 0 0 (changes s t) ds s t := by
  obtain ⟨ds, h⟩ := (changesFrom_paired (difference s t) 0 0).1
  rw [(difference_texts s t).1, (difference_texts s t).2] at h
  exact ⟨ds, h⟩

theorem changes_eq_nil_iff (s t : Text) : changes s t = [] ↔ s = t := by
  constructor
  · intro h
    obtain ⟨ds, hp⟩ := changes_paired s t
    rw [h] at hp
    cases hp
    rfl
  · rintro rfl
    rw [changes, difference_self]
    by_cases h : s = [] <;> simp [Script.ofParts, changesFrom, h]

end FormatService.Edit
