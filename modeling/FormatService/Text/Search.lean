import FormatService.Text.Basic

/-!
# Searching and replacing

The first occurrence of a pattern in a text, and the replacement of all its
occurrences, which are taken from the left and do not overlap.
-/

set_option autoImplicit false

namespace FormatService.Text

def find? (pattern : Text) : Text → Option Nat
  | [] => if pattern = [] then some 0 else none
  | c :: t => if pattern.isPrefixOf (c :: t) then some 0 else (find? pattern t).map (· + 1)

def includes (t pattern : Text) : Bool := (find? pattern t).isSome

/-- Replaces from here on, after the given number of characters. An empty pattern
occurs before every character and at the end. -/
def replaceAfter (pattern replacement : Text) : Nat → Text → Text
  | _, [] => if pattern = [] then replacement else []
  | skip + 1, _ :: t => replaceAfter pattern replacement skip t
  | 0, c :: t =>
    if pattern = [] then replacement ++ c :: replaceAfter pattern replacement 0 t
    else if pattern.isPrefixOf (c :: t) then
      replacement ++ replaceAfter pattern replacement (pattern.length - 1) t
    else c :: replaceAfter pattern replacement 0 t

def replaceAll (pattern replacement t : Text) : Text := replaceAfter pattern replacement 0 t

end FormatService.Text
