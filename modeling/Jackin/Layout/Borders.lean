import Jackin.Layout.PaneTree

/-!
# Borders of panes

A split has a border between its two parts, and the pointer is on it in the
two cells beside it.  The search for the border at a cell is safe in exactly
the layouts in which the splits at the left and the upper edge of the screen
have two cells to divide.  There it finds a split exactly if the cell is
beside one, and the path it returns moves the border of that split.
-/

namespace Jackin.Layout

open UInt16 Option List

inductive SplitOrient where
  | horizontal
  | vertical
  deriving DecidableEq

/-- A border between panes, with the path to its split. -/
structure Border where
  path : List UInt8
  orient : SplitOrient
  rect : Rect
  deriving DecidableEq

def Border.below (step : UInt8) (border : Border) : Border :=
  { border with path := step :: border.path }

/-- Whether a cell is on a side; the end is computed only if needed. -/
def spans (start size cell : UInt16) : Option Bool :=
  if start ≤ cell then (checkedAdd start size).map (cell < ·) else some false

/-- The border found in the first part, or else in the second. -/
def eitherBelow (inFirst inSecond : Option (Option Border)) : Option (Option Border) := do
  match ← inFirst with
  | some border => return some (border.below 0)
  | none => return (← inSecond).map (Border.below 1)

/-- The border of a split, if the cell is beside it, or one in its parts. -/
def borderOf (border : Border) (start size along across boundaryB : UInt16)
    (inFirst inSecond : Option (Option Border)) : Option (Option Border) := do
  let boundaryA ← checkedSub boundaryB 1
  if (← spans start size along) && (across == boundaryA || across == boundaryB) then
    return some border
  eitherBelow inFirst inSecond

/-- The cell is in one of the two lines beside a border, between its ends. -/
def OnLine (start size along across boundary : UInt16) : Prop :=
  start ≤ along ∧ along.toNat < start.toNat + size.toNat ∧
    (across.toNat + 1 = boundary.toNat ∨ across = boundary)

namespace PaneTree

variable (ratioToCells : UInt16 → Float32 → UInt16)

/-- The border at a cell, or nothing where the arithmetic overflows. -/
def borderAt (row col : UInt16) : PaneTree → Rect → Option (Option Border)
  | .leaf _, _ => some none
  | .hSplit left right ratio, rect => do
    let leftCols := splitCells (ratioToCells rect.cols ratio) rect.cols
    let rightCols ← checkedSub rect.cols leftCols
    let rightCol ← checkedAdd rect.col leftCols
    borderOf ⟨[], .horizontal, rect⟩ rect.row rect.rows row col rightCol
      (left.borderAt row col ⟨rect.row, rect.col, rect.rows, leftCols⟩)
      (right.borderAt row col ⟨rect.row, rightCol, rect.rows, rightCols⟩)
  | .vSplit top bottom ratio, rect => do
    let topRows := splitCells (ratioToCells rect.rows ratio) rect.rows
    let bottomRows ← checkedSub rect.rows topRows
    let bottomRow ← checkedAdd rect.row topRows
    borderOf ⟨[], .vertical, rect⟩ rect.col rect.cols col row bottomRow
      (top.borderAt row col ⟨rect.row, rect.col, topRows, rect.cols⟩)
      (bottom.borderAt row col ⟨bottomRow, rect.col, bottomRows, rect.cols⟩)

/-- The splits at the left and the upper edge of the screen have two cells. -/
def Roomy : PaneTree → Rect → Prop
  | .leaf _, _ => True
  | .hSplit left right ratio, rect =>
    let leftCols := splitCells (ratioToCells rect.cols ratio) rect.cols
    (rect.col = 0 → 2 ≤ rect.cols) ∧ left.Roomy ⟨rect.row, rect.col, rect.rows, leftCols⟩ ∧
      right.Roomy ⟨rect.row, rect.col + leftCols, rect.rows, rect.cols - leftCols⟩
  | .vSplit top bottom ratio, rect =>
    let topRows := splitCells (ratioToCells rect.rows ratio) rect.rows
    (rect.row = 0 → 2 ≤ rect.rows) ∧ top.Roomy ⟨rect.row, rect.col, topRows, rect.cols⟩ ∧
      bottom.Roomy ⟨rect.row + topRows, rect.col, rect.rows - topRows, rect.cols⟩

end PaneTree

section

variable {start size boundary : UInt16}

theorem checkedSub_one :
    checkedSub boundary 1 = some before ↔ before.toNat + 1 = boundary.toNat := by
  unfold checkedSub
  split
  · rename_i positive
    rw [some.injEq, ← UInt16.toNat_inj, UInt16.toNat_sub_of_le _ _ positive]
    rw [le_iff_toNat_le, toNat_one] at positive
    simp only [toNat_one]
    omega
  · rename_i zero
    rw [le_iff_toNat_le, toNat_one] at zero
    simp only [reduceCtorEq, false_iff]
    omega

theorem spans_iff (said : spans start size along = some answer) :
    answer ↔ start ≤ along ∧ along.toNat < start.toNat + size.toNat := by
  unfold spans checkedAdd at said
  split at said
  · rename_i after
    split at said
    · rename_i sum
      obtain rfl := some.inj said
      simp [after, lt_iff_toNat_lt, Nat.mod_eq_of_lt sum]
    · cases said
  · rename_i before
    obtain rfl := some.inj said
    simp [before]

theorem spans_isSome (fits : start.toNat + size.toNat < UInt16.size) :
    ∃ answer, spans start size along = some answer := by
  unfold spans checkedAdd
  split <;> exact ⟨_, rfl⟩

theorem borderOf_eq_some
    (safe : borderOf border start size along across
      boundary inFirst inSecond = some found) :
    boundary ≠ 0 ∧ (OnLine start size along across boundary ∧ found = some border ∨
        ¬OnLine start size along across boundary ∧ eitherBelow inFirst inSecond = some found) := by
  obtain ⟨before, next, safe⟩ := bind_eq_some_iff.mp safe
  obtain ⟨answer, said, safe⟩ := bind_eq_some_iff.mp safe
  rw [checkedSub_one] at next
  have near : (across = before ∨ across = boundary) ↔
      (across.toNat + 1 = boundary.toNat ∨ across = boundary) := by
    simp only [← UInt16.toNat_inj]
    omega
  have hit : (answer && (across == before || across == boundary)) ↔
      OnLine start size along across boundary := by
    simp [spans_iff said, near, OnLine, and_assoc]
  refine ⟨fun zero => by simp [zero] at next, ?_⟩
  rw [← hit]
  split at safe
  · rename_i on
    exact .inl ⟨on, (some.inj safe).symm⟩
  · rename_i off
    exact .inr ⟨off, safe⟩

theorem borderOf_isSome (fits : start.toNat + size.toNat < UInt16.size)
    (nonzero : boundary ≠ 0) (below : (eitherBelow inFirst inSecond).isSome) :
    (borderOf border start size along across boundary inFirst inSecond).isSome := by
  obtain ⟨answer, said⟩ := @spans_isSome _ _ along fits
  have positive : (1 : UInt16) ≤ boundary := by
    exact Nat.pos_of_ne_zero fun zero => nonzero (UInt16.toNat_inj.mp zero)
  rw [borderOf, checkedSub, if_pos positive]
  simp only [said, bind_eq_bind, bind_some]
  split
  · rfl
  · exact below

theorem eitherBelow_eq_some (safe : eitherBelow inFirst inSecond = some found) :
    (∃ border, inFirst = some (some border) ∧ found = some (border.below 0)) ∨
    inFirst = some none ∧ ∃ inner, inSecond = some inner ∧ found = inner.map (Border.below 1) := by
  rcases inFirst with _ | _ | border
  · cases safe
  · obtain ⟨inner, below, safe⟩ := bind_eq_some_iff.mp safe
    exact .inr ⟨rfl, inner, below, (some.inj safe).symm⟩
  · exact .inl ⟨border, rfl, (some.inj safe).symm⟩

theorem eitherBelow_isSome (first : inFirst.isSome) (second : inSecond.isSome) :
    (eitherBelow inFirst inSecond).isSome := by
  obtain ⟨_ | border, rfl⟩ := isSome_iff_exists.mp first
  · obtain ⟨inner, rfl⟩ := isSome_iff_exists.mp second
    rfl
  · rfl

theorem eq_of_checkedSub (sub : checkedSub size part = some rest) :
    rest = size - part := by
  unfold checkedSub at sub
  split at sub
  · exact (some.inj sub).symm
  · cases sub

theorem eq_of_checkedAdd {start part next}
    (add : checkedAdd start part = some next) :
    next = start + part := by
  unfold checkedAdd at add
  split at add
  · exact (some.inj add).symm
  · cases add

theorem one_le_splitCells {cells size} :
    1 ≤ splitCells cells size ↔ 2 ≤ size := by
  have positive : 1 ≤ max cells 1 := by
    change 1 ≤ if cells ≤ 1 then 1 else cells
    split
    · exact le_refl 1
    · rename_i more
      exact UInt16.le_of_lt (UInt16.not_le.mp more)
  rw [splitCells, Std.le_min_iff, and_iff_right positive, saturatingSub]
  split
  · rename_i nonempty
    rw [le_iff_toNat_le, UInt16.toNat_sub_of_le _ _ nonempty, le_iff_toNat_le]
    simp only [toNat_ofNat]
    omega
  · rename_i empty
    simp only [le_iff_toNat_le, toNat_ofNat] at empty ⊢
    omega

theorem boundary_ne_zero (sum : boundary.toNat = start.toNat + (splitCells cells size).toNat) :
    boundary ≠ 0 ↔ (start = 0 → 2 ≤ size) := by
  rw [← @one_le_splitCells cells, le_iff_toNat_le, ne_eq, ← UInt16.toNat_inj, ← UInt16.toNat_inj]
  simp only [toNat_ofNat]
  omega

/-- At the last cell of all the search sees every split and finds none. -/
theorem borderOf_corner {first second : Prop}
    (fits : start.toNat + size.toNat < UInt16.size)
    (inside : ∀ {found}, inFirst = some found → found = none ∧ first)
    (beside : ∀ {found}, inSecond = some found → found = none ∧ second)
    (safe : borderOf border start size 65535 across boundary inFirst inSecond = some found) :
    found = none ∧ boundary ≠ 0 ∧ first ∧ second := by
  obtain ⟨nonzero, ⟨⟨_, below, _⟩, _⟩ | ⟨_, below⟩⟩ := borderOf_eq_some safe
  · simp only [toNat_ofNat, UInt16.size] at below fits
    omega
  · obtain ⟨_, found, _⟩ | ⟨found, _, also, rfl⟩ := eitherBelow_eq_some below
    · cases (inside found).1
    · obtain ⟨rfl, holds⟩ := beside also
      exact ⟨rfl, nonzero, (inside found).2, holds⟩

end

namespace PaneTree

variable {ratioToCells : UInt16 → Float32 → UInt16} {tree : PaneTree}
    {rect : Rect}

/-- What the search says of the layout at the last cell, and where it is safe. -/
theorem roomy_spec (fits : rect.Fits) :
    (∀ {found}, tree.borderAt ratioToCells 65535 65535 rect = some found →
      found = none ∧ tree.Roomy ratioToCells rect) ∧
    (tree.Roomy ratioToCells rect →
      ∀ row col, (tree.borderAt ratioToCells row col rect).isSome) := by
  induction tree generalizing rect with
  | leaf => exact ⟨fun safe => ⟨(some.inj safe).symm, trivial⟩, fun _ _ _ => rfl⟩
  | hSplit left right ratio inLeft inRight =>
    obtain ⟨_, _, rest, next, start, whole⟩ :=
      splitCells_parts (ratioToCells rect.cols ratio) fits.right
    obtain rfl := eq_of_checkedSub rest
    obtain rfl := eq_of_checkedAdd next
    have halves := (Rect.tiles_cols start whole).inside
    rw [forall_mem_cons, forall_mem_singleton] at halves
    have left := inLeft (halves.1.fits fits)
    have right := inRight (halves.2.fits fits)
    simp only [borderAt, rest, next, Roomy, ← boundary_ne_zero start]
    refine ⟨borderOf_corner fits.bottom left.1 right.1, ?_⟩
    rintro ⟨nonzero, roomyLeft, roomyRight⟩ row col
    exact borderOf_isSome fits.bottom nonzero
      (eitherBelow_isSome (left.2 roomyLeft row col) (right.2 roomyRight row col))
  | vSplit top bottom ratio inTop inBottom =>
    obtain ⟨_, _, rest, next, start, whole⟩ :=
      splitCells_parts (ratioToCells rect.rows ratio) fits.bottom
    obtain rfl := eq_of_checkedSub rest
    obtain rfl := eq_of_checkedAdd next
    have halves := (Rect.tiles_rows start whole).inside
    rw [forall_mem_cons, forall_mem_singleton] at halves
    have top := inTop (halves.1.fits fits)
    have bottom := inBottom (halves.2.fits fits)
    simp only [borderAt, rest, next, Roomy, ← boundary_ne_zero start]
    refine ⟨borderOf_corner fits.right top.1 bottom.1, ?_⟩
    rintro ⟨nonzero, roomyTop, roomyBottom⟩ row col
    exact borderOf_isSome fits.right nonzero
      (eitherBelow_isSome (top.2 roomyTop row col) (bottom.2 roomyBottom row col))

/--
The search for a border is safe in exactly the layouts in which the splits
at the left and the upper edge of the screen have room for two parts.
-/
theorem borderAt_safe_iff (ratioToCells : UInt16 → Float32 → UInt16)
    (tree : PaneTree) (rect : Rect) (fits : rect.Fits) :
    (∀ row col, (tree.borderAt ratioToCells row col rect).isSome) ↔
      tree.Roomy ratioToCells rect := by
  refine ⟨fun safe => ?_, (roomy_spec fits).2⟩
  obtain ⟨_, answer⟩ := isSome_iff_exists.mp (safe 65535 65535)
  exact ((roomy_spec fits).1 answer).2

theorem two_columns_safe :
    (Rect.mk 0 0 10 2).Fits ∧
      ∀ row col, (borderAt (fun size _ => size / 2) row col
        (.hSplit (.leaf 1) (.leaf 2) 0.5) ⟨0, 0, 10, 2⟩).isSome :=
  ⟨⟨by decide, by decide⟩, (borderAt_safe_iff _ _ _ ⟨by decide, by decide⟩).mpr
    ⟨fun _ => by decide, trivial, trivial⟩⟩

/-- In a single column at the edge of the screen the search fails. -/
theorem single_column_underflows :
    (Rect.mk 0 0 10 1).Fits ∧
      borderAt (fun size _ => size / 2) 3 3
        (.hSplit (.leaf 1) (.leaf 2) 0.5) ⟨0, 0, 10, 1⟩ = none :=
  ⟨⟨by decide, by decide⟩, by decide⟩

/-! ## Moving a border -/

def splitRatioMin : Float32 := 0.05

def splitRatioMax : Float32 := 0.95

def clampSplitRatio (ratio : Float32) : Float32 :=
  if ratio < splitRatioMin then splitRatioMin
  else if splitRatioMax < ratio then splitRatioMax else ratio

/-- A change of the part that a step leads to, in the tree above it. -/
def inPart (step : UInt8)
    (change : PaneTree → Bool × PaneTree) : PaneTree → Bool × PaneTree
  | .leaf id => (false, .leaf id)
  | .hSplit left right ratio =>
    if step = 0 then (change left).map id (.hSplit · right ratio)
    else (change right).map id (.hSplit left · ratio)
  | .vSplit top bottom ratio =>
    if step = 0 then (change top).map id (.vSplit · bottom ratio)
    else (change bottom).map id (.vSplit top · ratio)

def withRatio (newRatio : Float32) : PaneTree → Bool × PaneTree
  | .leaf id => (false, .leaf id)
  | .hSplit left right _ => (true, .hSplit left right newRatio)
  | .vSplit top bottom _ => (true, .vSplit top bottom newRatio)

/-- The ratio is checked and clamped again at each step of the path. -/
def setRatioAt (isFinite : Float32 → Bool) : List UInt8 → Float32 → PaneTree → Bool × PaneTree
  | [], newRatio, tree =>
    if isFinite newRatio then tree.withRatio (clampSplitRatio newRatio) else (false, tree)
  | step :: rest, newRatio, tree =>
    if isFinite newRatio then
      tree.inPart step (setRatioAt isFinite rest (clampSplitRatio newRatio))
    else (false, tree)

/-- A tree with the ratio of one split exchanged. -/
def withRatioAt (newRatio : Float32) : List UInt8 → PaneTree → Bool × PaneTree
  | [] => withRatio newRatio
  | step :: rest => inPart step (withRatioAt newRatio rest)

/-- The two parts of a split with their areas in the layout. -/
structure Halves where
  orient : SplitOrient
  first : PaneTree × Rect
  second : PaneTree × Rect

/-- The cell is beside the border of a split of this area. -/
def Halves.Beside (halves : Halves) (rect : Rect) (row col : UInt16) : Prop :=
  match halves.orient with
  | .horizontal => OnLine rect.row rect.rows row col halves.second.2.col
  | .vertical => OnLine rect.col rect.cols col row halves.second.2.row

section

variable (ratioToCells : UInt16 → Float32 → UInt16)

def halves : PaneTree × Rect → Option Halves
  | (.leaf _, _) => none
  | (.hSplit left right ratio, rect) =>
    let leftCols := splitCells (ratioToCells rect.cols ratio) rect.cols
    some ⟨.horizontal, (left, ⟨rect.row, rect.col, rect.rows, leftCols⟩),
      (right, ⟨rect.row, rect.col + leftCols, rect.rows, rect.cols - leftCols⟩)⟩
  | (.vSplit top bottom ratio, rect) =>
    let topRows := splitCells (ratioToCells rect.rows ratio) rect.rows
    some ⟨.vertical, (top, ⟨rect.row, rect.col, topRows, rect.cols⟩),
      (bottom, ⟨rect.row + topRows, rect.col, rect.rows - topRows, rect.cols⟩)⟩

def follow : List UInt8 → PaneTree × Rect → Option (PaneTree × Rect)
  | [], part => some part
  | step :: rest, part => do
    let halves ← halves ratioToCells part
    follow rest (if step = 0 then halves.first else halves.second)

end

/-- What the layout keeps from a split to its parts holds wherever a path leads. -/
theorem follow_keeps (holds : PaneTree × Rect → Prop)
    (keeps : ∀ {part parts}, halves ratioToCells part = some parts → holds part →
      holds parts.first ∧ holds parts.second)
    (reached : follow ratioToCells path whole = some part)
    (top : holds whole) : holds part := by
  induction path generalizing whole with
  | nil =>
    cases reached
    exact top
  | cons step rest ih =>
    obtain ⟨parts, split, reached⟩ := bind_eq_some_iff.mp reached
    refine ih reached ?_
    split
    · exact (keeps split top).1
    · exact (keeps split top).2

theorem borderAt_cases (safe : tree.borderAt ratioToCells row col rect = some found) :
    halves ratioToCells (tree, rect) = none ∧ found = none ∨
    ∃ parts, halves ratioToCells (tree, rect) = some parts ∧
      (parts.Beside rect row col ∧ found = some ⟨[], parts.orient, rect⟩ ∨
        ¬parts.Beside rect row col ∧
          eitherBelow (parts.first.1.borderAt ratioToCells row col parts.first.2)
            (parts.second.1.borderAt ratioToCells row col parts.second.2) = some found) := by
  cases tree with
  | leaf => exact .inl ⟨rfl, (some.inj safe).symm⟩
  | hSplit | vSplit =>
    obtain ⟨_, rest, safe⟩ := bind_eq_some_iff.mp safe
    obtain ⟨_, next, safe⟩ := bind_eq_some_iff.mp safe
    obtain rfl := eq_of_checkedSub rest
    obtain rfl := eq_of_checkedAdd next
    exact .inr ⟨_, rfl, (borderOf_eq_some safe).2⟩

/-- A border that is found belongs to a split beside the cell. -/
theorem borderAt_sound (safe : tree.borderAt ratioToCells row col rect = some (some border)) :
    (∃ part parts, follow ratioToCells border.path (tree, rect) = some (part, border.rect) ∧
      halves ratioToCells (part, border.rect) = some parts ∧
      parts.orient = border.orient ∧ parts.Beside border.rect row col) ∧
    ∀ newRatio, (tree.withRatioAt newRatio border.path).1 := by
  induction tree generalizing rect border with
  | leaf => cases safe
  | hSplit _ _ _ inFirst inSecond | vSplit _ _ _ inFirst inSecond =>
    obtain ⟨none, _⟩ | ⟨_, split, ⟨beside, found⟩ | ⟨_, below⟩⟩ := borderAt_cases safe
    · cases none
    · cases found
      exact ⟨⟨_, _, rfl, split, rfl, beside⟩, fun _ => rfl⟩
    · cases split
      obtain ⟨_, inner, found⟩ | ⟨_, _, inner, found⟩ := eitherBelow_eq_some below
      · cases found
        exact inFirst inner
      · obtain ⟨_, rfl, rfl⟩ := map_eq_some_iff.mp found.symm
        exact inSecond inner

theorem borderAt_none (split : halves ratioToCells part = some parts)
    (safe : part.1.borderAt ratioToCells row col part.2 = some none) :
    ¬parts.Beside part.2 row col ∧
      parts.first.1.borderAt ratioToCells row col parts.first.2 = some none ∧
      parts.second.1.borderAt ratioToCells row col parts.second.2 = some none := by
  obtain ⟨none, _⟩ | ⟨_, same, ⟨_, found⟩ | ⟨away, below⟩⟩ := borderAt_cases safe
  · cases none.symm.trans split
  · cases found
  · cases same.symm.trans split
    obtain ⟨_, _, found⟩ | ⟨inFirst, inner, inSecond, found⟩ := eitherBelow_eq_some below
    · cases found
    · obtain rfl := map_eq_none_iff.mp found.symm
      exact ⟨away, inFirst, inSecond⟩

theorem leaves_of_halves (split : halves ratioToCells part = some parts)
    (shown : part.1.leaves ratioToCells part.2 = some panes) :
    ∃ firsts seconds, parts.first.1.leaves ratioToCells parts.first.2 = some firsts ∧
      parts.second.1.leaves ratioToCells parts.second.2 = some seconds ∧
      firsts ++ seconds = panes := by
  obtain ⟨_ | _ | _, rect⟩ := part
  · cases split
  all_goals
    cases split
    obtain ⟨_, rest, shown⟩ := bind_eq_some_iff.mp shown
    obtain ⟨_, next, shown⟩ := bind_eq_some_iff.mp shown
    obtain rfl := eq_of_checkedSub rest
    obtain rfl := eq_of_checkedAdd next
    obtain ⟨firsts, inFirst, shown⟩ := bind_eq_some_iff.mp shown
    obtain ⟨seconds, inSecond, shown⟩ := bind_eq_some_iff.mp shown
    exact ⟨firsts, seconds, inFirst, inSecond, some.inj shown⟩

/-- The panes of a part stand together in the layout of the whole. -/
theorem leaves_infix (reached : follow ratioToCells path whole = some part)
    (shown : whole.1.leaves ratioToCells whole.2 = some panes) :
    ∃ inner, part.1.leaves ratioToCells part.2 = some inner ∧ inner <:+: panes := by
  apply follow_keeps (fun part => ∃ inner,
    part.1.leaves ratioToCells part.2 = some inner ∧ inner <:+: panes) ?_ reached
  · exact ⟨panes, shown, infix_rfl⟩
  rintro part parts split ⟨_, shown, within⟩
  obtain ⟨firsts, seconds, inFirst, inSecond, rfl⟩ := leaves_of_halves split shown
  exact ⟨⟨firsts, inFirst, (prefix_append _ _).isInfix.trans within⟩,
    seconds, inSecond, (suffix_append _ _).isInfix.trans within⟩

theorem setRatioAt_eq (least : isFinite splitRatioMin)
    (greatest : isFinite splitRatioMax) (path : List UInt8)
    (finite : isFinite ratio) :
    setRatioAt isFinite path ratio =
      withRatioAt (clampSplitRatio^[path.length + 1] ratio) path := by
  induction path generalizing ratio with
  | nil => exact funext fun _ => if_pos finite
  | cons step rest ih =>
    have clamped : isFinite (clampSplitRatio ratio) := by
      unfold clampSplitRatio
      split
      · exact least
      · split
        · exact greatest
        · exact finite
    funext tree
    rw [setRatioAt, if_pos finite, ih clamped]
    rfl

/--
A border that is found is the one its path leads to, and can be moved to any
finite ratio, which is clamped once at every step of the path and once at its
end; no border is found only where no split has one.
-/
theorem borderAt_exact (ratioToCells : UInt16 → Float32 → UInt16)
    (isFinite : Float32 → Bool)
    (least : isFinite splitRatioMin) (greatest : isFinite splitRatioMax)
    (tree : PaneTree) (rect : Rect) (row col : UInt16) (found : Option Border)
    (safe : tree.borderAt ratioToCells row col rect = some found) :
    match found with
    | some border =>
      (∃ part parts, follow ratioToCells border.path (tree, rect) = some (part, border.rect) ∧
        (∀ panes, tree.leaves ratioToCells rect = some panes →
          ∃ inner, part.leaves ratioToCells border.rect = some inner ∧ inner <:+: panes) ∧
        halves ratioToCells (part, border.rect) = some parts ∧
        parts.orient = border.orient ∧ parts.Beside border.rect row col) ∧
      ∀ ratio, isFinite ratio →
        let newRatio := clampSplitRatio^[border.path.length + 1] ratio
        tree.setRatioAt isFinite border.path ratio = tree.withRatioAt newRatio border.path ∧
          (tree.withRatioAt newRatio border.path).1
    | none => ∀ path part parts, follow ratioToCells path (tree, rect) = some part →
      halves ratioToCells part = some parts → ¬parts.Beside part.2 row col := by
  cases found with
  | some border =>
    obtain ⟨⟨part, parts, reached, beside⟩, moves⟩ := borderAt_sound safe
    refine ⟨⟨part, parts, reached, fun _ => leaves_infix reached, beside⟩, ?_⟩
    intro ratio finite
    exact ⟨congrFun (setRatioAt_eq least greatest border.path finite) tree, moves _⟩
  | none =>
    intro path part parts reached split
    refine (borderAt_none split ?_).1
    exact follow_keeps (fun part => part.1.borderAt ratioToCells row col part.2 = some none)
      (fun split safe => (borderAt_none split safe).2) reached safe

theorem lower_border_moves :
    let tree : PaneTree := .hSplit (.leaf 1) (.vSplit (.leaf 2) (.leaf 3) 0.5) 0.5
    tree.borderAt (fun size _ => size / 2) 6 5 ⟨2, 0, 10, 7⟩ =
      some (some ⟨[1], .vertical, 2, 3, 10, 4⟩) ∧
    ∀ ratio, tree.setRatioAt (fun _ => true) [1] ratio =
      (true, .hSplit (.leaf 1) (.vSplit (.leaf 2) (.leaf 3)
        (clampSplitRatio (clampSplitRatio ratio))) 0.5) := by
  refine ⟨by decide, fun ratio => ?_⟩
  have moves := (borderAt_exact (fun size _ => size / 2) (fun _ => true) rfl rfl
    (.hSplit (.leaf 1) (.vSplit (.leaf 2) (.leaf 3) 0.5) 0.5) ⟨2, 0, 10, 7⟩ 6 5
    (some ⟨[1], .vertical, 2, 3, 10, 4⟩) (by decide)).2
  exact (moves ratio rfl).1

end PaneTree

end Jackin.Layout
