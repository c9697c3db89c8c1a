import FormatService.Text.Basic

/-!
# The shape of an argument

What an argument looks like, before it is known which parameters there are.
-/

set_option autoImplicit false

namespace FormatService.CommandLine

inductive Shape
  /-- Two dashes alone: only values follow. -/
  | escape
  /-- A name after two dashes, with the value after an equals sign. -/
  | long (name : Text) (value : Option Text)
  /-- Letters after one dash; the rest of them may be a value. -/
  | letters (first : Char) (rest : Text)
  /-- Anything else, a single dash included. -/
  | word
  deriving DecidableEq, Repr

namespace Shape

def beforeEquals (t : Text) : Text := t.takeWhile (· != '=')

def afterEquals? (t : Text) : Option Text := (t.dropWhile (· != '=')).tail?

def ofText : Text → Shape
  | ['-', '-'] => escape
  | '-' :: '-' :: t => long (beforeEquals t) (afterEquals? t)
  | '-' :: c :: t => letters c t
  | _ => word

@[simp] theorem beforeEquals_append (name value : Text) (h : '=' ∉ name) :
    beforeEquals (name ++ '=' :: value) = name := by
  induction name with
  | nil => simp [beforeEquals]
  | cons c name ih =>
    simp only [List.mem_cons, not_or] at h
    simp only [beforeEquals] at ih ⊢
    have hc : (c != '=') = true := by simpa using Ne.symm h.1
    simp [hc, ih h.2]

@[simp] theorem afterEquals?_append (name value : Text) (h : '=' ∉ name) :
    afterEquals? (name ++ '=' :: value) = some value := by
  induction name with
  | nil => simp [afterEquals?]
  | cons c name ih =>
    simp only [List.mem_cons, not_or] at h
    simp only [afterEquals?] at ih ⊢
    have hc : (c != '=') = true := by simpa using Ne.symm h.1
    simp [hc, ih h.2]

end Shape

end FormatService.CommandLine
