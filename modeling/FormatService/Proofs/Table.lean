import Mathlib.Algebra.GroupWithZero.Nat
import Mathlib.Data.List.Forall2
import Mathlib.Order.Bounds.Basic
import FormatService.Table

/-!
# Cells of a column start at one position

A row counts for the width of every column that it has a cell in, also for that of its last cell,
which is not padded itself. So the widths reach as far as any row, and no cell is wider than its
column. The lines of a table are then the only ones with each cell in its place, only spaces
between two cells, and nothing behind the last.
-/

set_option autoImplicit false

namespace FormatService.Table

/-! ## Widths -/

def columns (rows : List Row) : Nat := rows.foldl (fun n row => max n row.length) 0

def widths (rows : List Row) : List Nat := (List.range (columns rows)).map (width rows)

/-- The spaces behind a cell. There are none for a cell that no width is given for, nor for one
that is wider than its column. -/
def gap? (given : List Nat) (column : Nat) (cell : String) : Option String := do
  let room ← given[column]?
  if cell.length ≤ room then some (spaces (room - cell.length + 1)) else none

/-- A row from the given column on, if the widths that are given do for it. -/
def lineFrom? (given : List Nat) : Nat → Row → Option String
  | _, [] => some ""
  | _, [cell] => some cell
  | column, cell :: next :: rest => do
    let gap ← gap? given column cell
    let line ← lineFrom? given (column + 1) (next :: rest)
    return cell ++ gap ++ line

def lines? (rows : List Row) : Option (List String) := rows.mapM (lineFrom? (widths rows) 0)

theorem gap?_eq_some_iff {given : List Nat} {column : Nat} {cell gap : String} :
    gap? given column cell = some gap ↔
      ∃ room, given[column]? = some room ∧ cell.length ≤ room ∧
        gap = spaces (room - cell.length + 1) := by
  cases h : given[column]? with
  | none => simp [gap?, h]
  | some room => simp [gap?, h, eq_comm]

theorem isGreatest_foldl {α : Type} (size : α → Nat) {items : List α} (ne : items ≠ []) :
    IsGreatest {n | ∃ item ∈ items, size item = n}
      (items.foldl (fun n item => max n (size item)) 0) := by
  obtain ⟨greatest, h⟩ : ∃ n, (items.map size).max? = some n := by
    apply Option.ne_none_iff_exists'.mp
    rwa [ne_eq, List.max?_eq_none_iff, List.map_eq_nil_iff]
  have fold : items.foldl (fun n item => max n (size item)) 0 = greatest := by
    rw [← List.foldl_map, List.foldl_max, h, Option.getD_some, Nat.zero_max]
  obtain ⟨mem, upper⟩ := List.max?_eq_some_iff.mp h
  rw [fold]
  refine ⟨List.mem_map.mp mem, ?_⟩
  rintro n ⟨item, there, rfl⟩
  exact upper _ (List.mem_map_of_mem there)

section

variable {rows : List Row} {row rest : Row} {column : Nat} {cell next : String}

theorem isGreatest_width (mem : row ∈ rows) (h : column < row.length) :
    IsGreatest {n | ∃ row ∈ rows, ∃ cell, row[column]? = some cell ∧ cell.length = n}
      (width rows column) := by
  have there : row[column] ∈ rows.filterMap (·[column]?) :=
    List.mem_filterMap.mpr ⟨row, mem, List.getElem?_eq_getElem h⟩
  have cells : {n | ∃ row ∈ rows, ∃ cell, row[column]? = some cell ∧ cell.length = n} =
      {n | ∃ cell ∈ rows.filterMap (·[column]?), cell.length = n} := by
    ext n
    constructor
    · rintro ⟨row, mem, cell, h, rfl⟩
      exact ⟨cell, List.mem_filterMap.mpr ⟨row, mem, h⟩, rfl⟩
    · rintro ⟨cell, mem, rfl⟩
      obtain ⟨row, mem, h⟩ := List.mem_filterMap.mp mem
      exact ⟨row, mem, cell, h, rfl⟩
  rw [cells]
  exact isGreatest_foldl String.length (List.ne_nil_of_mem there)

/-- The widths do for a row, or the rest of one, that begins in the given column. -/
def Fits (rows : List Row) (column : Nat) (row : Row) : Prop :=
  ∀ i cell, row[i]? = some cell →
    column + i < columns rows ∧ cell.length ≤ width rows (column + i)

theorem fits_of_mem (mem : row ∈ rows) : Fits rows 0 row := by
  intro i cell h
  obtain ⟨short, -⟩ := List.getElem?_eq_some_iff.mp h
  rw [Nat.zero_add]
  -- The row itself is among those that the columns are counted and measured on.
  constructor
  · have longest := (isGreatest_foldl List.length (List.ne_nil_of_mem mem)).2 ⟨row, mem, rfl⟩
    exact Nat.lt_of_lt_of_le short longest
  · exact (isGreatest_width mem short).2 ⟨row, mem, cell, h, rfl⟩

theorem Fits.head (h : Fits rows column (cell :: rest)) :
    column < columns rows ∧ cell.length ≤ width rows column := h 0 cell rfl

theorem Fits.tail (h : Fits rows column (cell :: rest)) : Fits rows (column + 1) rest := by
  intro i other there
  have fit := h (i + 1) other there
  rwa [← Nat.add_assoc, Nat.add_right_comm] at fit

theorem getElem?_widths (h : column < columns rows) :
    (widths rows)[column]? = some (width rows column) := by
  rw [widths, List.getElem?_map, List.getElem?_range h]
  rfl

theorem lineFrom?_widths (fits : Fits rows column row) :
    lineFrom? (widths rows) column row = some (lineFrom rows column row) := by
  fun_induction lineFrom rows column row with
  | case1 column => rfl
  | case2 column cell => rfl
  | case3 column cell next rest ih =>
    obtain ⟨inside, le⟩ := fits.head
    have gap : gap? (widths rows) column cell =
        some (spaces (width rows column - cell.length + 1)) :=
      gap?_eq_some_iff.mpr ⟨_, getElem?_widths inside, le, rfl⟩
    rw [lineFrom?, gap, ih fits.tail]
    rfl

theorem mapM_eq_some_map {α β : Type} {f : α → Option β} {g : α → β} {items : List α}
    (each : ∀ item ∈ items, f item = some (g item)) : items.mapM f = some (items.map g) := by
  induction items with
  | nil => rfl
  | cons item items ih =>
    have later := ih fun other mem => each other (List.mem_cons_of_mem _ mem)
    rw [List.mapM_cons, each item List.mem_cons_self, later]
    rfl

theorem lines?_eq (rows : List Row) : lines? rows = some (lines rows) :=
  mapM_eq_some_map fun _ mem => lineFrom?_widths (fits_of_mem mem)

/-! ## Places -/

/-- How far a cell stands behind the one that is `count` columns in front of it. Each of these
columns takes its width and one more. -/
def distance (rows : List Row) (column count : Nat) : Nat :=
  ((List.range' column count).map (width rows · + 1)).sum

theorem distance_zero (rows : List Row) (column : Nat) : distance rows column 0 = 0 := rfl

theorem distance_succ (rows : List Row) (column count : Nat) :
    distance rows column (count + 1) =
      width rows column + 1 + distance rows (column + 1) count := by
  rw [distance, List.range'_succ, List.map_cons, List.sum_cons]
  rfl

/-- A text with the cells of a row, or of the rest of one, that begins in the given column.
Positions are counted from where this column begins. -/
structure Aligned (rows : List Row) (column : Nat) (row : Row) (text : List Char) : Prop where
  placed : ∀ i cell, row[i]? = some cell → cell.toList <+: text.drop (distance rows column i)
  /-- From the end of a cell to where the next begins. -/
  spaced : ∀ i cell, row[i]? = some cell → i + 1 < row.length →
    ∀ p, distance rows column i + cell.length ≤ p → p < distance rows column (i + 1) →
      text[p]? = some ' '
  ended : ∀ i cell, row[i]? = some cell → i + 1 = row.length →
    text.length = distance rows column i + cell.length
  empty : row = [] → text = []

def padded (rows : List Row) (column : Nat) (cell : String) : List Char :=
  cell.toList ++ List.replicate (width rows column - cell.length + 1) ' '

theorem length_padded (fits : cell.length ≤ width rows column) :
    (padded rows column cell).length = width rows column + 1 := by
  rw [padded, List.length_append, List.length_replicate, String.length_toList]
  omega

theorem drop_padded (fits : cell.length ≤ width rows column) (later : List Char) (n : Nat) :
    (padded rows column cell ++ later).drop (width rows column + 1 + n) = later.drop n := by
  rw [← List.drop_drop, List.drop_left' (length_padded fits)]

theorem toList_lineFrom_cons (rows : List Row) (column : Nat) (cell next : String) (rest : Row) :
    (lineFrom rows column (cell :: next :: rest)).toList =
      padded rows column cell ++ (lineFrom rows (column + 1) (next :: rest)).toList := by
  simp [lineFrom, padded, spaces]

theorem aligned_singleton_iff {line : List Char} :
    Aligned rows column [cell] line ↔ line = cell.toList := by
  constructor
  · intro h
    have first : cell.toList <+: line := h.placed 0 cell rfl
    have length : line.length = distance rows column 0 + cell.length := h.ended 0 cell rfl rfl
    rw [distance_zero, Nat.zero_add, ← String.length_toList] at length
    exact (first.eq_of_length length.symm).symm
  · rintro rfl
    have only : ∀ i other, [cell][i]? = some other → i = 0 ∧ cell = other := by
      simp [List.getElem?_singleton]
    constructor
    · intro i other there
      obtain ⟨rfl, rfl⟩ := only i other there
      exact List.prefix_refl _
    · intro i other there more
      exact absurd more (by simp)
    · intro i other there last
      obtain ⟨rfl, rfl⟩ := only i other there
      rw [distance_zero, Nat.zero_add, String.length_toList]
    · nofun

theorem Aligned.cons {later : List Char} (fits : cell.length ≤ width rows column)
    (h : Aligned rows (column + 1) (next :: rest) later) :
    Aligned rows column (cell :: next :: rest) (padded rows column cell ++ later) where
  placed i other there := by
    cases i with
    | zero =>
      obtain rfl := Option.some.inj there
      rw [padded, List.append_assoc]
      exact List.prefix_append _ _
    | succ i =>
      rw [distance_succ, drop_padded fits]
      exact h.placed i other there
  spaced i other there more p low high := by
    cases i with
    | zero =>
      obtain rfl := Option.some.inj there
      rw [distance_zero, Nat.zero_add] at low
      rw [distance_succ, distance_zero, Nat.add_zero] at high
      rw [List.getElem?_append_left (length_padded fits ▸ high), padded,
        List.getElem?_append_right (String.length_toList ▸ low), List.getElem?_replicate,
        String.length_toList, if_pos (by omega)]
    | succ i =>
      rw [distance_succ] at low high
      obtain ⟨q, rfl⟩ : ∃ q, p = width rows column + 1 + q := Nat.exists_eq_add_of_le (by omega)
      rw [← List.head?_drop, drop_padded fits, List.head?_drop]
      exact h.spaced i other there (Nat.lt_of_succ_lt_succ more) q (by omega) (by omega)
  ended i other there last := by
    cases i with
    | zero => exact absurd last (by simp)
    | succ i =>
      have length := h.ended i other there (Nat.succ.inj last)
      rw [List.length_append, length_padded fits, length, distance_succ]
      omega
  empty := nofun

/-- An aligned line is known up to the next column: the cell has its place, and the spaces have
theirs. -/
theorem Aligned.padded_prefix {line : List Char} (fits : cell.length ≤ width rows column)
    (h : Aligned rows column (cell :: next :: rest) line) : padded rows column cell <+: line := by
  obtain ⟨behind, rfl⟩ : cell.toList <+: line := h.placed 0 cell rfl
  apply (List.prefix_append_right_inj _).mpr
  apply List.prefix_iff_getElem?.mpr
  intro p inside
  rw [List.getElem_replicate]
  rw [List.length_replicate] at inside
  have space := h.spaced 0 cell rfl (by simp) (cell.length + p)
    (by rw [distance_zero]; omega) (by rw [distance_succ, distance_zero]; omega)
  rwa [← String.length_toList, List.getElem?_append_right (Nat.le_add_right _ _),
    Nat.add_sub_cancel_left] at space

theorem Aligned.exists_of_cons {line : List Char} (fits : cell.length ≤ width rows column)
    (h : Aligned rows column (cell :: next :: rest) line) :
    ∃ later, line = padded rows column cell ++ later ∧
      Aligned rows (column + 1) (next :: rest) later := by
  obtain ⟨later, rfl⟩ := h.padded_prefix fits
  refine ⟨later, rfl, ⟨?_, ?_, ?_, nofun⟩⟩
  · intro i other there
    have place := h.placed (i + 1) other there
    rwa [distance_succ, drop_padded fits] at place
  · intro i other there more p low high
    have space := h.spaced (i + 1) other there (Nat.succ_lt_succ more)
      (width rows column + 1 + p) (by rw [distance_succ]; omega) (by rw [distance_succ]; omega)
    rwa [← List.head?_drop, drop_padded fits, List.head?_drop] at space
  · intro i other there last
    have length := h.ended (i + 1) other there (congrArg (· + 1) last)
    rw [List.length_append, length_padded fits, distance_succ] at length
    omega

theorem aligned_iff (fits : Fits rows column row) (line : List Char) :
    Aligned rows column row line ↔ line = (lineFrom rows column row).toList := by
  fun_induction lineFrom rows column row generalizing line with
  | case1 column =>
    constructor
    · exact fun h => h.empty rfl
    · rintro rfl
      exact ⟨nofun, nofun, nofun, fun _ => rfl⟩
  | case2 column cell => exact aligned_singleton_iff
  | case3 column cell next rest ih =>
    -- A cell that others follow takes one column, so what it leaves is aligned from the next on.
    have le := fits.head.2
    have whole := toList_lineFrom_cons rows column cell next rest
    rw [lineFrom] at whole
    rw [whole]
    constructor
    · intro h
      obtain ⟨later, rfl, aligned⟩ := h.exists_of_cons le
      rw [(ih fits.tail later).mp aligned]
    · rintro rfl
      exact .cons le ((ih fits.tail _).mpr rfl)

theorem forall₂_iff_eq_map {α β : Type} {r : α → β → Prop} {f : α → β} {items : List α}
    (each : ∀ item ∈ items, ∀ b, r item b ↔ b = f item) (bs : List β) :
    List.Forall₂ r items bs ↔ bs = items.map f := by
  induction items generalizing bs with
  | nil => exact List.forall₂_nil_left_iff
  | cons item items ih =>
    have first := each item List.mem_cons_self
    have later := ih fun other mem => each other (List.mem_cons_of_mem _ mem)
    rw [List.forall₂_cons_left_iff, List.map_cons]
    constructor
    · rintro ⟨b, bs, here, rest, rfl⟩
      rw [(first b).mp here, (later bs).mp rest]
    · rintro rfl
      exact ⟨_, _, (first _).mpr rfl, (later _).mpr rfl, rfl⟩

theorem forall₂_aligned_iff (rows : List Row) (texts : List String) :
    List.Forall₂ (fun row text => Aligned rows 0 row text.toList) rows texts ↔
      texts = lines rows := by
  refine forall₂_iff_eq_map (fun row mem text => ?_) texts
  rw [aligned_iff (fits_of_mem mem), String.toList_inj]

/-! ## Print -/

theorem toList_render (indent : Nat) (texts : List String) :
    (render indent texts).toList =
      ['\n'].intercalate (texts.map (List.replicate indent ' ' ++ ·.toList)) := by
  have line : String.toList ∘ (spaces indent ++ ·) = (List.replicate indent ' ' ++ ·.toList) := by
    funext text
    simp [spaces]
  rw [render, String.toList_intercalate, List.map_map, line]
  rfl

theorem splitOn_render {texts : List String} (ne : texts ≠ [])
    (unbroken : ∀ text ∈ texts, '\n' ∉ text.toList) (indent : Nat) :
    (render indent texts).toList.splitOn '\n' =
      texts.map (List.replicate indent ' ' ++ ·.toList) := by
  rw [toList_render]
  refine List.splitOn_intercalate '\n' ?_ (by simpa using ne)
  intro line mem
  obtain ⟨text, there, rfl⟩ := List.mem_map.mp mem
  rw [List.mem_append, List.mem_replicate, not_or]
  exact ⟨fun space => absurd space.2 (by decide), unbroken text there⟩

theorem mem_lineFrom {c : Char} (h : c ∈ (lineFrom rows column row).toList) :
    c = ' ' ∨ ∃ cell ∈ row, c ∈ cell.toList := by
  induction row generalizing column with
  | nil => simp [lineFrom] at h
  | cons cell row ih =>
    cases row with
    | nil => exact .inr ⟨cell, List.mem_cons_self, h⟩
    | cons next rest =>
      rw [toList_lineFrom_cons, padded, List.mem_append, List.mem_append, List.mem_replicate] at h
      obtain (here | ⟨-, space⟩) | later := h
      · exact .inr ⟨cell, List.mem_cons_self, here⟩
      · exact .inl space
      · obtain space | ⟨other, mem, there⟩ := ih later
        · exact .inl space
        · exact .inr ⟨other, List.mem_cons_of_mem _ mem, there⟩

/-- A table can be laid out with its widths, each of which is that of the column's widest cell. Its
lines are those that show the rows aligned, and no others. They are printed below each other, each
behind the spaces asked for; where no cell has a line break in it, no other lines are printed. -/
theorem lines_aligned (rows : List Row) :
    lines? rows = some (lines rows) ∧
      (∀ row ∈ rows, ∀ column < row.length, IsGreatest
        {n | ∃ other ∈ rows, ∃ cell, other[column]? = some cell ∧ cell.length = n}
        (width rows column)) ∧
      (∀ texts, List.Forall₂ (fun row text => Aligned rows 0 row text.toList) rows texts ↔
        texts = lines rows) ∧
      (∀ indent texts, (render indent texts).toList =
        ['\n'].intercalate (texts.map (List.replicate indent ' ' ++ ·.toList))) ∧
      (rows ≠ [] → (∀ row ∈ rows, ∀ cell ∈ row, '\n' ∉ cell.toList) → ∀ indent,
        (render indent (lines rows)).toList.splitOn '\n' =
          (lines rows).map (List.replicate indent ' ' ++ ·.toList)) := by
  refine ⟨lines?_eq rows, fun row mem column h => isGreatest_width mem h,
    forall₂_aligned_iff rows, toList_render, fun ne unbroken => splitOn_render ?_ ?_⟩
  · exact mt List.map_eq_nil_iff.mp ne
  · intro text mem broken
    obtain ⟨row, there, rfl⟩ := List.mem_map.mp mem
    obtain space | ⟨cell, mem, within⟩ := mem_lineFrom broken
    · exact absurd space (by decide)
    · exact unbroken row there cell mem within

/-- Rows of different lengths, one without cells, and a widest cell that is the last of its row. -/
theorem lines_aligned_ragged :
    let rows : List Row := [["é", "b"], [], ["äöü"], ["x", "", "z"]]
    let row : Row := ["x", "", "z"]
    row ∈ rows ∧ 0 < row.length ∧ rows ≠ [] ∧
      (∀ row ∈ rows, ∀ cell ∈ row, '\n' ∉ cell.toList) ∧
      lines? rows = some ["é   b", "", "äöü", "x     z"] ∧
      width rows 0 = 3 ∧ IsGreatest
        {n | ∃ other ∈ rows, ∃ cell, other[0]? = some cell ∧ cell.length = n} (width rows 0) ∧
      distance rows 0 2 = 6 ∧
      List.Forall₂ (fun row text => Aligned rows 0 row text.toList) rows
        ["é   b", "", "äöü", "x     z"] ∧
      (render 1 (lines rows)).toList.splitOn '\n' =
        [" é   b".toList, " ".toList, " äöü".toList, " x     z".toList] := by
  intro rows row
  have mem : row ∈ rows := by decide
  have unbroken : ∀ row ∈ rows, ∀ cell ∈ row, '\n' ∉ cell.toList := by decide
  obtain ⟨fit, widest, aligned, -, printed⟩ := lines_aligned rows
  refine ⟨mem, by decide, by decide, unbroken, fit.trans (by decide), by decide,
    widest row mem 0 (by decide), by decide, (aligned _).mpr (by decide), ?_⟩
  exact (printed (by decide) unbroken 1).trans (by decide)

end

end FormatService.Table
