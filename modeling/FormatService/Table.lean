/-!
# Aligned tables

Cells of a column start at one position: each cell but a row's last is padded
with spaces to one more than the widest cell of its column. Widths count
characters.
-/

set_option autoImplicit false

namespace FormatService.Table

abbrev Row := List String

def width (rows : List Row) (column : Nat) : Nat :=
  (rows.filterMap (·[column]?)).foldl (fun w cell => max w cell.length) 0

def spaces (n : Nat) : String := String.ofList (List.replicate n ' ')

def lineFrom (rows : List Row) : Nat → Row → String
  | _, [] => ""
  | _, [cell] => cell
  | column, cell :: next :: rest =>
    cell ++ spaces (width rows column - cell.length + 1) ++ lineFrom rows (column + 1) (next :: rest)

def lines (rows : List Row) : List String := rows.map (lineFrom rows 0)

/-- The lines below each other, each after the same number of spaces. -/
def render (indent : Nat) (lines : List String) : String :=
  "\n".intercalate (lines.map (spaces indent ++ ·))

end FormatService.Table
