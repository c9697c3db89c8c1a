import FormatService.Text.Basic

/-!
# Edit scripts

A script says how one text becomes another: which stretches are kept, deleted
and inserted, from left to right. It contains both texts.
-/

set_option autoImplicit false

namespace FormatService.Edit

inductive Chunk
  | keep (t : Text)
  | delete (t : Text)
  | insert (t : Text)
  deriving DecidableEq, Repr

abbrev Script := List Chunk

namespace Chunk

def text : Chunk → Text
  | keep t => t
  | delete t => t
  | insert t => t

def withText (t : Text) : Chunk → Chunk
  | keep _ => keep t
  | delete _ => delete t
  | insert _ => insert t

def isKeep : Chunk → Bool
  | keep _ => true
  | _ => false

def old : Chunk → Text
  | keep t => t
  | delete t => t
  | insert _ => []

def new : Chunk → Text
  | keep t => t
  | delete _ => []
  | insert t => t

end Chunk

namespace Script

def old (s : Script) : Text := s.flatMap Chunk.old

def new (s : Script) : Text := s.flatMap Chunk.new

@[simp] theorem old_append (s t : Script) : old (s ++ t) = old s ++ old t := by simp [old]

@[simp] theorem new_append (s t : Script) : new (s ++ t) = new s ++ new t := by simp [new]

/-- Kept, deleted and inserted stretches, the empty ones left out. -/
def ofParts (kept deleted inserted : Text) : Script :=
  (if kept = [] then [] else [.keep kept]) ++ (if deleted = [] then [] else [.delete deleted]) ++
    (if inserted = [] then [] else [.insert inserted])

theorem old_ofParts (k d i : Text) : old (ofParts k d i) = k ++ d := by
  unfold ofParts old
  split <;> split <;> split <;> simp_all [Chunk.old]

theorem new_ofParts (k d i : Text) : new (ofParts k d i) = k ++ i := by
  unfold ofParts new
  split <;> split <;> split <;> simp_all [Chunk.new]

end Script

end FormatService.Edit
