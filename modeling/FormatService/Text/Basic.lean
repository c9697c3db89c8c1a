/-!
# Texts and byte offsets

A text is a list of characters. Editors count positions in bytes of the UTF-8
form, so every offset below is a byte offset, and an offset that falls inside a
character addresses nothing.
-/

set_option autoImplicit false

namespace FormatService

abbrev Text := List Char

namespace Text

def byteLength : Text → Nat
  | [] => 0
  | c :: t => c.utf8Size + byteLength t

@[simp] theorem byteLength_nil : byteLength [] = 0 := rfl

@[simp] theorem byteLength_cons (c : Char) (t : Text) :
    byteLength (c :: t) = c.utf8Size + byteLength t := rfl

@[simp] theorem byteLength_append (s t : Text) :
    byteLength (s ++ t) = byteLength s + byteLength t := by
  induction s with
  | nil => simp
  | cons c s ih => simp [ih, Nat.add_assoc]

/-- Both sides of a byte offset, or nothing when the offset is past the end or
inside a character. -/
def cut? : Nat → Text → Option (Text × Text)
  | 0, t => some ([], t)
  | _ + 1, [] => none
  | n + 1, c :: t =>
    if c.utf8Size ≤ n + 1 then (cut? (n + 1 - c.utf8Size) t).map fun (a, b) => (c :: a, b)
    else none

def slice? (start stop : Nat) (t : Text) : Option Text := do
  let (_, rest) ← cut? start t
  if start ≤ stop then
    let (inner, _) ← cut? (stop - start) rest
    return inner
  else none

def from? (start : Nat) (t : Text) : Option Text := (cut? start t).map (·.2)

def boundaryBelow : Nat → Text → Nat
  | _, [] => 0
  | n, c :: t => if c.utf8Size ≤ n then c.utf8Size + boundaryBelow (n - c.utf8Size) t else 0

theorem append_of_cut? {n : Nat} {t a b : Text} (h : cut? n t = some (a, b)) :
    a ++ b = t ∧ byteLength a = n := by
  fun_induction cut? n t generalizing a b with
  | case1 t => simp_all
  | case2 => simp at h
  | case3 n c t hle ih =>
    obtain ⟨⟨x, y⟩, hxy, he⟩ := Option.map_eq_some_iff.1 h
    obtain ⟨rfl, rfl⟩ := Prod.mk.inj he
    obtain ⟨happ, hlen⟩ := ih hxy
    refine ⟨by simp [happ], ?_⟩
    simp only [byteLength_cons, hlen]
    omega
  | case4 => simp at h

theorem cut?_append (a b : Text) : cut? (byteLength a) (a ++ b) = some (a, b) := by
  induction a with
  | nil => simp [cut?]
  | cons c a ih =>
    have hc : 0 < c.utf8Size := c.utf8Size_pos
    obtain ⟨k, hk⟩ : ∃ k, byteLength (c :: a) = k + 1 := ⟨c.utf8Size + byteLength a - 1, by simp; omega⟩
    have hle : c.utf8Size ≤ k + 1 := by rw [← hk]; simp
    have hsub : k + 1 - c.utf8Size = byteLength a := by rw [← hk]; simp
    rw [hk, List.cons_append, cut?, if_pos hle, hsub, ih]
    rfl

end Text

end FormatService
