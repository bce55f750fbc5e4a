import Jackin.Layout.PaneTree

/-!
# Neighbours of panes

The neighbour of a pane in a direction is looked for from the centre of the
pane.  What is found lies on that side of the centre, but can be above or
below the pane instead of beside it; a pane that touches the edge is found
unless the pane itself is a single cell wide or high.
-/

namespace Jackin.Layout

open List Rect

inductive Direction where
  | left
  | right
  | up
  | down
  deriving DecidableEq

namespace Rect

section

variable (start rect : Rect)

def centreRow : Nat := rect.row.toNat + rect.rows.toNat / 2

def centreCol : Nat := rect.col.toNat + rect.cols.toNat / 2

/-- The edges are numbers here; in a layout that fits they are cells. -/
def pastCentre : Direction → Rect → Bool
  | .left, rect => rect.col.toNat + rect.cols.toNat < start.centreCol
  | .right, rect => start.centreCol < rect.col.toNat
  | .up, rect => rect.row.toNat + rect.rows.toNat < start.centreRow
  | .down, rect => start.centreRow < rect.row.toNat

def distance : Nat :=
  ((rect.centreRow : Int) - start.centreRow).natAbs +
    ((rect.centreCol : Int) - start.centreCol).natAbs

/-- The rectangle lies entirely beyond an edge of the first. -/
def Beyond : Direction → Rect → Prop
  | .left, rect => rect.col.toNat + rect.cols.toNat ≤ start.col.toNat
  | .right, rect => start.col.toNat + start.cols.toNat ≤ rect.col.toNat
  | .up, rect => rect.row.toNat + rect.rows.toNat ≤ start.row.toNat
  | .down, rect => start.row.toNat + start.rows.toNat ≤ rect.row.toNat

/-- The rectangle has cells next to cells at an edge of the first. -/
def Touches (direction : Direction) (rect : Rect) : Prop :=
  let sameRows := rect.row.toNat < start.row.toNat + start.rows.toNat ∧
    start.row.toNat < rect.row.toNat + rect.rows.toNat
  let sameCols := rect.col.toNat < start.col.toNat + start.cols.toNat ∧
    start.col.toNat < rect.col.toNat + rect.cols.toNat
  match direction with
  | .left => rect.col.toNat + rect.cols.toNat = start.col.toNat ∧ sameRows
  | .right => start.col.toNat + start.cols.toNat = rect.col.toNat ∧ sameRows
  | .up => rect.row.toNat + rect.rows.toNat = start.row.toNat ∧ sameCols
  | .down => start.row.toNat + start.rows.toNat = rect.row.toNat ∧ sameCols

end

end Rect

def Direction.isHorizontal (direction : Direction) : Bool :=
  direction = .left ∨ direction = .right

/-- The pane has a cell between its centre and this edge. -/
def Rect.Wide (rect : Rect) : Direction → Prop
  | .left => 2 ≤ rect.cols.toNat
  | .up => 2 ≤ rect.rows.toNat
  | .right | .down => True

namespace PaneTree

variable (ratioToCells : UInt16 → Float32 → UInt16)

def adjacent (rect : Rect) (fromId : UInt64) (dir : Direction)
    (tree : PaneTree) : Option (Option UInt64) := do
  let leaves ← tree.leaves ratioToCells rect
  return do
    let (_, fromRect) ← leaves.find? fun (id, _) => id = fromId
    let candidates := leaves.filter fun (id, rect) => id ≠ fromId ∧ fromRect.pastCentre dir rect
    (candidates.argmin fun (_, rect) => fromRect.distance rect).map Prod.fst

end PaneTree

variable {start : Rect}

/-- Rectangles without a common cell are on different sides of a line. -/
theorem Rect.exists_beyond (rows : 1 ≤ start.rows.toNat)
    (cols : 1 ≤ start.cols.toNat)
    (otherRows : 1 ≤ rect.rows.toNat) (otherCols : 1 ≤ rect.cols.toNat)
    (disjoint : ∀ row col, ¬(start.Covers row col ∧ rect.Covers row col)) :
    ∃ side, start.Beyond side rect := by
  have corner := disjoint (max start.row.toNat rect.row.toNat) (max start.col.toNat rect.col.toNat)
  simp only [Covers] at corner
  by_contra none
  push Not at none
  have left := none .left
  have right := none .right
  have up := none .up
  have down := none .down
  simp only [Beyond] at left right up down
  omega

/-- What is past the centre is not on the other side. -/
theorem Rect.beyond_of_pastCentre (past : start.pastCentre direction rect)
    (cols : 1 ≤ rect.cols.toNat) (rows : 1 ≤ rect.rows.toNat)
    (beyond : start.Beyond side rect) :
    side = direction ∨ side.isHorizontal ≠ direction.isHorizontal := by
  cases direction <;> rw [pastCentre, decide_eq_true_eq] at past <;>
    simp only [centreRow, centreCol] at past <;>
    cases side <;> simp only [Beyond] at beyond <;> first | decide | omega

theorem Rect.Touches.pastCentre (touches : start.Touches direction rect)
    (wide : start.Wide direction) (cols : 1 ≤ start.cols.toNat)
    (rows : 1 ≤ start.rows.toNat) :
    start.pastCentre direction rect := by
  cases direction <;> rw [Rect.pastCentre, decide_eq_true_eq] <;>
    simp only [Touches, Wide, centreRow, centreCol] at touches wide ⊢ <;> omega

/--
The neighbour that is found is past the centre of the pane: beyond the edge,
or above or below where a horizontal one was looked for.  Some pane is found
if one touches the edge and the pane reaches past its centre.
-/
theorem adjacent_spec (ratioToCells : UInt16 → Float32 → UInt16)
    (tree : PaneTree) (rect : Rect) (fits : rect.Fits)
    (distinct : tree.allIds.Nodup) (panes : List (UInt64 × Rect))
    (shown : tree.leaves ratioToCells rect = some panes)
    (nonempty : ∀ pane ∈ panes, 1 ≤ pane.2.rows.toNat ∧ 1 ≤ pane.2.cols.toNat)
    (fromId : UInt64) (direction : Direction) :
    ∃ answer, tree.adjacent ratioToCells rect fromId direction = some answer ∧
      (∀ id, answer = some id → id ≠ fromId ∧ ∃ fromRect area,
        (fromId, fromRect) ∈ panes ∧ (id, area) ∈ panes ∧
        fromRect.pastCentre direction area ∧
        ∃ side, fromRect.Beyond side area ∧
          (side = direction ∨ side.isHorizontal ≠ direction.isHorizontal)) ∧
      ∀ fromRect id area, (fromId, fromRect) ∈ panes → (id, area) ∈ panes →
        fromRect.Touches direction area → fromRect.Wide direction →
          answer.isSome := by
  obtain ⟨_, same, ids, tiles⟩ := tree.laid fits
  cases shown.symm.trans same
  have keys : (panes.map Prod.fst).Nodup := ids ▸ distinct
  have symmetric : Std.Symm fun first second : UInt64 × Rect =>
      ∀ row col, ¬(first.2.Covers row col ∧ second.2.Covers row col) :=
    ⟨fun _ _ apart row col both => apart row col both.symm⟩
  have disjoint := (pairwise_map.mp tiles.disjoint).forall
  refine ⟨_, by rw [PaneTree.adjacent, shown]; rfl, ?_, ?_⟩
  · intro id found
    obtain ⟨⟨_, fromRect⟩, start, found⟩ := Option.bind_eq_some_iff.mp found
    obtain ⟨⟨_, area⟩, nearest, rfl⟩ := Option.map_eq_some_iff.mp found
    have candidate := argmin_mem nearest
    simp only [mem_filter, decide_eq_true_eq] at candidate
    obtain ⟨member, different, past⟩ := candidate
    have origin := mem_of_find?_eq_some start
    obtain rfl : _ = fromId := by simpa using find?_some start
    obtain ⟨rows, cols⟩ := nonempty _ origin
    obtain ⟨otherRows, otherCols⟩ := nonempty _ member
    obtain ⟨side, beyond⟩ := exists_beyond rows cols otherRows otherCols
      (disjoint origin member fun same => different (congrArg Prod.fst same).symm)
    exact ⟨different, fromRect, area, origin, member, past, side, beyond,
      beyond_of_pastCentre past otherCols otherRows beyond⟩
  · intro fromRect id area origin member touches wide
    obtain ⟨rows, cols⟩ : 1 ≤ fromRect.rows.toNat ∧ 1 ≤ fromRect.cols.toNat := nonempty _ origin
    have past := touches.pastCentre wide cols rows
    have different : id ≠ fromId := by
      rintro rfl
      cases inj_on_of_nodup_map keys origin member rfl
      cases direction <;> simp only [Touches] at touches <;> omega
    obtain ⟨pane, start⟩ : ∃ pane, panes.find? (fun (id, _) => id = fromId) = some pane :=
      Option.isSome_iff_exists.mp (find?_isSome.mpr ⟨_, origin, by simp⟩)
    cases inj_on_of_nodup_map keys (mem_of_find?_eq_some start) origin
      (by simpa using find?_some start)
    have candidate : (id, area) ∈ panes.filter fun (id, rect) =>
        id ≠ fromId ∧ fromRect.pastCentre direction rect := by
      simp [member, different, past]
    rw [start, Option.isSome_iff_ne_none]
    intro none
    rw [argmin_eq_none.mp (Option.map_eq_none_iff.mp none)] at candidate
    cases candidate

/-- To the left of the lower pane the search finds a pane above it. -/
theorem upper_pane_found_on_the_left :
    let tree : PaneTree := .vSplit (.hSplit (.leaf 1) (.leaf 2) 0.4) (.leaf 3) 0.4
    tree.leaves (fun size _ => size * 2 / 5) ⟨0, 0, 10, 10⟩ =
      some [(1, ⟨0, 0, 4, 4⟩), (2, ⟨0, 4, 4, 6⟩), (3, ⟨4, 0, 6, 10⟩)] ∧
    tree.adjacent (fun size _ => size * 2 / 5) ⟨0, 0, 10, 10⟩ 3 .left = some (some 1) ∧
    ¬(mk 4 0 6 10).Beyond .left ⟨0, 0, 4, 4⟩ := by
  refine ⟨by decide, by decide, ?_⟩
  simp [Beyond]

theorem right_pane_found :
    ∃ answer, PaneTree.adjacent (fun size _ => size / 2) ⟨0, 0, 10, 10⟩ 1 .right
      (.hSplit (.leaf 1) (.leaf 2) 0.5) = some answer ∧ answer.isSome := by
  obtain ⟨answer, found, _, some⟩ := adjacent_spec (fun size _ => size / 2)
    (.hSplit (.leaf 1) (.leaf 2) 0.5) ⟨0, 0, 10, 10⟩ ⟨by decide, by decide⟩
    (by decide) [(1, ⟨0, 0, 10, 5⟩), (2, ⟨0, 5, 10, 5⟩)] (by decide) (by decide)
    1 .right
  refine ⟨answer, found, some ⟨0, 0, 10, 5⟩ 2 ⟨0, 5, 10, 5⟩ ?_ ?_ ?_ trivial⟩
  · decide
  · decide
  · exact ⟨rfl, by decide, by decide⟩

end Jackin.Layout
