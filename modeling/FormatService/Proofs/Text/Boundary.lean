import FormatService.Text.Basic

/-!
# Character boundaries

An offset is a boundary when the text can be split there. The boundaries of a
text are ordered as the parts before them are, so an offset below another is
found inside the earlier part.
-/

set_option autoImplicit false

namespace FormatService.Text

def IsBoundary (n : Nat) (t : Text) : Prop := ∃ a b, a ++ b = t ∧ byteLength a = n

theorem cut?_eq_some_iff {n : Nat} {t a b : Text} :
    cut? n t = some (a, b) ↔ a ++ b = t ∧ byteLength a = n := by
  constructor
  · exact append_of_cut?
  · rintro ⟨rfl, rfl⟩
    exact cut?_append a b

theorem isBoundary_iff (n : Nat) (t : Text) : IsBoundary n t ↔ (cut? n t).isSome = true := by
  simp only [IsBoundary, Option.isSome_iff_exists, Prod.exists, cut?_eq_some_iff]

instance (n : Nat) (t : Text) : Decidable (IsBoundary n t) :=
  decidable_of_iff _ (isBoundary_iff n t).symm

theorem byteLength_eq_zero {t : Text} (h : byteLength t = 0) : t = [] := by
  cases t with
  | nil => rfl
  | cons c t =>
    have hc := c.utf8Size_pos
    simp only [byteLength_cons] at h
    omega

theorem IsBoundary.le {n : Nat} {t : Text} (h : IsBoundary n t) : n ≤ byteLength t := by
  obtain ⟨a, b, rfl, rfl⟩ := h
  simp

theorem IsBoundary.zero (t : Text) : IsBoundary 0 t := ⟨[], t, rfl, rfl⟩

theorem IsBoundary.cons {n : Nat} {t : Text} (c : Char) (h : IsBoundary n t) :
    IsBoundary (c.utf8Size + n) (c :: t) := by
  obtain ⟨a, b, rfl, rfl⟩ := h
  exact ⟨c :: a, b, rfl, rfl⟩

theorem IsBoundary.append {n : Nat} {t : Text} (s : Text) (h : IsBoundary n t) :
    IsBoundary (s.byteLength + n) (s ++ t) := by
  obtain ⟨a, b, rfl, rfl⟩ := h
  exact ⟨s ++ a, b, List.append_assoc s a b, byteLength_append s a⟩

theorem exists_append_of_byteLength_le {a b x y : Text} (h : a ++ x = b ++ y)
    (hl : byteLength a ≤ byteLength b) : ∃ c, b = a ++ c ∧ x = c ++ y := by
  rcases List.append_eq_append_iff.1 h with ⟨c, hb, hx⟩ | ⟨c, ha, hy⟩
  · exact ⟨c, hb, hx⟩
  · have hc : byteLength c = 0 := by
      rw [ha, byteLength_append] at hl
      omega
    obtain rfl := byteLength_eq_zero hc
    exact ⟨[], by simpa using ha.symm, by simpa using hy.symm⟩

theorem slice?_append (a b c : Text) :
    slice? (byteLength a) (byteLength a + byteLength b) (a ++ b ++ c) = some b := by
  rw [slice?, List.append_assoc, cut?_append]
  simp [cut?_append]

theorem slice?_eq_some_iff {start stop : Nat} {t inner : Text} :
    slice? start stop t = some inner ↔ ∃ front back, front ++ inner ++ back = t ∧
      byteLength front = start ∧ byteLength (front ++ inner) = stop := by
  constructor
  · intro h
    cases hf : cut? start t with
    | none => simp [slice?, hf] at h
    | some halves =>
      obtain ⟨front, rest⟩ := halves
      obtain ⟨rfl, rfl⟩ := cut?_eq_some_iff.mp hf
      simp only [slice?, hf, Option.bind_eq_bind, Option.bind_some] at h
      by_cases hl : byteLength front ≤ stop
      · rw [if_pos hl] at h
        obtain ⟨⟨a, back⟩, hi, ha⟩ := Option.bind_eq_some_iff.mp h
        obtain rfl : a = inner := Option.some.inj ha
        obtain ⟨rfl, hn⟩ := cut?_eq_some_iff.mp hi
        have reach : byteLength (front ++ a) = stop := by
          rw [byteLength_append]
          omega
        exact ⟨front, back, List.append_assoc front a back, rfl, reach⟩
      · rw [if_neg hl] at h
        contradiction
  · rintro ⟨front, back, rfl, rfl, rfl⟩
    rw [byteLength_append]
    exact slice?_append front inner back

theorem from?_append (a b : Text) : from? (byteLength a) (a ++ b) = some b := by
  rw [from?, cut?_append]
  rfl

theorem boundaryBelow_isBoundary (n : Nat) (t : Text) : IsBoundary (boundaryBelow n t) t := by
  induction t generalizing n with
  | nil => exact .zero []
  | cons c t ih =>
    rw [boundaryBelow]
    split
    · exact (ih _).cons c
    · exact .zero _

theorem boundaryBelow_le (n : Nat) (t : Text) : boundaryBelow n t ≤ n := by
  induction t generalizing n with
  | nil => exact Nat.zero_le n
  | cons c t ih =>
    have h := ih (n - c.utf8Size)
    rw [boundaryBelow]
    split <;> omega

theorem IsBoundary.le_boundaryBelow {m n : Nat} {t : Text} (h : IsBoundary m t) (hn : m ≤ n) :
    m ≤ boundaryBelow n t := by
  induction t generalizing m n with
  | nil => exact h.le
  | cons c t ih =>
    obtain ⟨a, b, hab, rfl⟩ := h
    cases a with
    | nil => exact Nat.zero_le _
    | cons d a =>
      obtain ⟨rfl, htail⟩ := List.cons.inj hab
      rw [byteLength_cons] at hn
      have ht := ih ⟨a, b, htail, rfl⟩ (Nat.le_sub_of_add_le' hn)
      rw [boundaryBelow, if_pos (by omega), byteLength_cons]
      omega

end FormatService.Text
