import Jackin.Layout.PaneTree

/-!
# The visible part of a selection

A selection is stored in rows of the content, which begins with the
scrollback.  The viewport shows the content from some row on: it is scrolled
back by an offset, but not past the first row.  What is visible of a selection
is cut off at both ends of the viewport.
-/

namespace Jackin.Layout

/-- A selection between two cells of the scrollback. -/
structure SelectionState where
  inner : Rect
  anchorRow : Nat
  anchorCol : UInt16
  endRow : Nat
  endCol : UInt16

/-- The part of a selection on the screen. -/
structure VisibleSelection where
  inner : Rect
  startRow : UInt16
  startCol : UInt16
  endRow : UInt16
  endCol : UInt16
  deriving DecidableEq

def usizeMax : Nat := 2 ^ 64 - 1

def saturatingAdd (first second : Nat) : Nat := min (first + second) usizeMax

def tryU16 (number : Nat) : Option UInt16 :=
  if number < UInt16.size then some (UInt16.ofNat number) else none

def canonicalSelection (sel : SelectionState) : Nat × UInt16 × Nat × UInt16 :=
  if sel.anchorRow < sel.endRow ∨ sel.anchorRow = sel.endRow ∧ sel.anchorCol ≤ sel.endCol then
    (sel.anchorRow, sel.anchorCol, sel.endRow, sel.endCol)
  else (sel.endRow, sel.endCol, sel.anchorRow, sel.anchorCol)

section

variable (filled offset : Nat)

def viewportStartContentRow : Nat := filled - min offset filled

variable (rows : UInt16)

def viewportPrefixRows : Nat :=
  if offset = 0 ∨ filled = 0 then 0 else min (min offset filled) rows.toNat

def visibleRowToContentRow (visibleRow : UInt16) : Nat :=
  let prefixRows := viewportPrefixRows filled offset rows
  if visibleRow.toNat < prefixRows then
    saturatingAdd (viewportStartContentRow filled offset) visibleRow.toNat
  else saturatingAdd filled (visibleRow.toNat - prefixRows)

def contentRowToVisibleRow (contentRow : Nat) : Option UInt16 :=
  let prefixRows := viewportPrefixRows filled offset rows
  if contentRow < filled then
    let start := viewportStartContentRow filled offset
    let stop := min (saturatingAdd start prefixRows) filled
    if start ≤ contentRow ∧ contentRow < stop then tryU16 (contentRow - start) else none
  else
    let visibleRow := saturatingAdd prefixRows (contentRow - filled)
    if visibleRow < rows.toNat then tryU16 visibleRow else none

end

def visibleSelection (sel : SelectionState)
    (filled offset : Nat) : Option VisibleSelection :=
  let (startRow, startCol, endRow, endCol) := canonicalSelection sel
  let inner := sel.inner
  let visible := contentRowToVisibleRow filled offset inner.rows
  let lastRow := saturatingSub inner.rows 1
  let lastCol := saturatingSub inner.cols 1
  match visible startRow, visible endRow with
  | some first, some last => some ⟨inner, first, startCol, last, endCol⟩
  | some first, none =>
    if startRow ≤ endRow then some ⟨inner, first, startCol, lastRow, lastCol⟩ else none
  | none, some last => if startRow ≤ endRow then some ⟨inner, 0, 0, last, endCol⟩ else none
  | none, none =>
    let viewportStart := viewportStartContentRow filled offset
    if startRow < saturatingAdd viewportStart inner.rows.toNat ∧ viewportStart ≤ endRow then
      some ⟨inner, 0, 0, lastRow, lastCol⟩
    else none

/-! ## Cells in reading order -/

theorem toNat_saturatingSub :
    (saturatingSub first second).toNat = first.toNat - second.toNat := by
  unfold saturatingSub
  split
  · exact UInt16.toNat_sub_of_le _ _ ‹_›
  · rename_i less
    rw [UInt16.le_iff_toNat_le] at less
    exact (Nat.sub_eq_zero_of_le (Nat.le_of_not_le less)).symm

/-- The place of a cell in reading order. -/
def cell (row : Nat) (col : UInt16) : Nat ×ₗ Nat := toLex (row, col.toNat)

/-- The cells between the ends, in whichever order these are. -/
def SelectionState.Selects (sel : SelectionState) (place : Nat ×ₗ Nat) : Prop :=
  let anchor := cell sel.anchorRow sel.anchorCol
  let stop := cell sel.endRow sel.endCol
  anchor ≤ place ∧ place ≤ stop ∨ stop ≤ place ∧ place ≤ anchor

def VisibleSelection.Selects (visible : VisibleSelection)
    (place : Nat ×ₗ Nat) : Prop :=
  cell visible.startRow.toNat visible.startCol ≤ place ∧
    place ≤ cell visible.endRow.toNat visible.endCol

theorem cell_le_cell :
    cell row col ≤ cell other next ↔
      row < other ∨ row = other ∧ col.toNat ≤ next.toNat :=
  Prod.Lex.toLex_le_toLex

/-- The ends in order. -/
theorem canonicalSelection_spec {sel : SelectionState}
    (ordered : canonicalSelection sel = (startRow, startCol, endRow, endCol)) :
    cell startRow startCol ≤ cell endRow endCol ∧
      ∀ place, sel.Selects place ↔ cell startRow startCol ≤ place ∧ place ≤ cell endRow endCol := by
  unfold canonicalSelection at ordered
  split at ordered
  · rename_i forward
    cases ordered
    have forward := cell_le_cell.mpr forward
    refine ⟨forward, fun place => or_iff_left_of_imp fun between => ?_⟩
    exact ⟨forward.trans between.1, between.2.trans forward⟩
  · rename_i backward
    cases ordered
    have backward := lt_of_not_ge (mt cell_le_cell.mp backward)
    refine ⟨backward.le, fun place => or_iff_right_of_imp fun between => ?_⟩
    exact absurd (between.1.trans between.2) backward.not_ge

section

variable {filled offset : Nat} {rows : UInt16}
    (roomy : filled + rows.toNat ≤ usizeMax)
include roomy

/-- The viewport begins with the row it starts at and shows consecutive rows. -/
theorem visibleRowToContentRow_eq {visibleRow : UInt16}
    (shown : visibleRow < rows) :
    visibleRowToContentRow filled offset rows visibleRow =
      viewportStartContentRow filled offset + visibleRow.toNat := by
  rw [UInt16.lt_iff_toNat_lt] at shown
  grind [visibleRowToContentRow, viewportPrefixRows, viewportStartContentRow, saturatingAdd]

theorem contentRowToVisibleRow_eq_some :
    contentRowToVisibleRow filled offset rows contentRow = some visibleRow ↔
      visibleRow < rows ∧
        contentRow = viewportStartContentRow filled offset + visibleRow.toNat := by
  have bound := rows.toNat_lt
  rw [contentRowToVisibleRow, UInt16.lt_iff_toNat_lt]
  grind [tryU16, UInt16.toNat_ofNat_of_lt', UInt16.ofNat_toNat, viewportPrefixRows,
    viewportStartContentRow, saturatingAdd]

/-- The rows above and below the viewport are not visible. -/
theorem contentRowToVisibleRow_eq_none :
    contentRowToVisibleRow filled offset rows contentRow = none ↔
      contentRow < viewportStartContentRow filled offset ∨
        viewportStartContentRow filled offset + rows.toNat ≤ contentRow := by
  have bound := rows.toNat_lt
  unfold contentRowToVisibleRow
  grind [tryU16, viewportPrefixRows, viewportStartContentRow, saturatingAdd]

end

/--
A visible selection begins with a cell of the viewport and selects the cells
of it that the stored one does; of a hidden one no cell is in the viewport.
-/
def SelectionState.ShownAs (sel : SelectionState)
    (top : Nat) : Option VisibleSelection → Prop
  | some visible => visible.startRow < sel.inner.rows ∧ visible.startCol < sel.inner.cols ∧
      visible.Selects (cell visible.startRow.toNat visible.startCol) ∧
      ∀ row < sel.inner.rows, ∀ col < sel.inner.cols,
        visible.Selects (cell row.toNat col) ↔ sel.Selects (cell (top + row.toNat) col)
  | none => ∀ row < sel.inner.rows, ∀ col < sel.inner.cols,
      ¬sel.Selects (cell (top + row.toNat) col)

section

variable (sel : SelectionState) (filled offset : Nat)
  (roomy : filled + sel.inner.rows.toNat ≤ usizeMax)
  (rows : 1 ≤ sel.inner.rows) (cols : 1 ≤ sel.inner.cols)
  (anchor : sel.anchorCol < sel.inner.cols) (stop : sel.endCol < sel.inner.cols)
include roomy rows cols anchor stop

theorem visibleSelection_spec :
    sel.ShownAs (viewportStartContentRow filled offset) (visibleSelection sel filled offset) := by
  obtain ⟨startRow, startCol, endRow, endCol, ordered⟩ :
      ∃ startRow startCol endRow endCol,
        canonicalSelection sel = (startRow, startCol, endRow, endCol) := ⟨_, _, _, _, rfl⟩
  have ends : startCol < sel.inner.cols ∧ endCol < sel.inner.cols := by
    unfold canonicalSelection at ordered
    split at ordered <;> cases ordered <;> exact ⟨‹_›, ‹_›⟩
  obtain ⟨sorted, selects⟩ := canonicalSelection_spec ordered
  have shown := @contentRowToVisibleRow_eq_some _ offset _ roomy
  have hidden := @contentRowToVisibleRow_eq_none _ offset _ roomy
  have start : viewportStartContentRow filled offset ≤ filled := Nat.sub_le ..
  rw [cell_le_cell] at sorted
  simp only [UInt16.le_iff_toNat_le, UInt16.lt_iff_toNat_lt, UInt16.toNat_one]
    at rows cols ends shown
  simp only [visibleSelection, ordered]
  -- Either end is above the viewport, in it or below it.
  split <;> rename_i first last <;> simp only [shown, hidden] at first last
  all_goals try split_ifs
  all_goals
    simp only [SelectionState.ShownAs, VisibleSelection.Selects, selects, cell_le_cell,
      toNat_saturatingSub, UInt16.toNat_zero, UInt16.toNat_one, UInt16.lt_iff_toNat_lt]
    grind [saturatingAdd]

/--
Rows of the viewport are consecutive rows of the content, and what of a
selection is visible is what of it lies in the viewport.
-/
theorem visibleSelection_exact :
    (∀ row < sel.inner.rows, visibleRowToContentRow filled offset sel.inner.rows row =
        filled - min offset filled + row.toNat ∧
      ∀ content, contentRowToVisibleRow filled offset sel.inner.rows content = some row ↔
        visibleRowToContentRow filled offset sel.inner.rows row = content) ∧
    sel.ShownAs (filled - min offset filled) (visibleSelection sel filled offset) := by
  refine ⟨fun row within => ?_, visibleSelection_spec sel _ _ roomy rows cols anchor stop⟩
  have content := @visibleRowToContentRow_eq _ offset _ roomy _ within
  refine ⟨content, fun other => ?_⟩
  rw [content, eq_comm (b := other)]
  exact (contentRowToVisibleRow_eq_some roomy).trans (and_iff_right within)

end

/-- Scrolled back by two rows; the selection ends below the viewport. -/
theorem scrolled_selection_exact :
    let sel : SelectionState := ⟨⟨0, 0, 3, 80⟩, 9, 4, 7, 2⟩
    visibleSelection sel 8 2 = some ⟨sel.inner, 1, 2, 2, 79⟩ ∧
      sel.ShownAs 6 (visibleSelection sel 8 2) :=
  ⟨by decide, (visibleSelection_exact _ 8 2 (by decide) (by decide) (by decide) (by decide)
    (by decide)).2⟩

end Jackin.Layout
