import FormatService.Text.Basic

/-!
# What two texts share

The longest common beginning and end, and the longest end of one text that is a
beginning of the other.
-/

set_option autoImplicit false

namespace FormatService.Edit

def sharedStart : Text → Text → Nat
  | a :: s, b :: t => if a = b then sharedStart s t + 1 else 0
  | _, _ => 0

/-- The length of the longest common end. -/
def sharedEnd (s t : Text) : Nat := sharedStart s.reverse t.reverse

/-- The greatest length, at most the given one, of an end of the first text that
begins the second. -/
def overlapUpTo (s t : Text) : Nat → Nat
  | 0 => 0
  | n + 1 => if s.drop (s.length - (n + 1)) = t.take (n + 1) then n + 1 else overlapUpTo s t n

def overlap (s t : Text) : Nat := overlapUpTo s t (min s.length t.length)

theorem take_sharedStart (s t : Text) : s.take (sharedStart s t) = t.take (sharedStart s t) := by
  fun_induction sharedStart s t with
  | case1 a s t ih => simp [ih]
  | case2 => simp
  | case3 => simp

end FormatService.Edit
