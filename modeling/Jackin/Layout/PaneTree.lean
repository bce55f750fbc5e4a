import Mathlib

/-!
# Pane trees

The panes of a tab are the leaves of a tree of splits.  Laid out in a
rectangle they tile it exactly, and splitting or removing a pane changes the
list of panes at that pane only.
-/

namespace Jackin.Layout

open List

/-- A rectangle of cells. -/
structure Rect where
  row : UInt16
  col : UInt16
  rows : UInt16
  cols : UInt16
  deriving DecidableEq

/-- Trees of panes; a ratio is the share of the left or the top part. -/
inductive PaneTree where
  | leaf (id : UInt64)
  | hSplit (left right : PaneTree) (ratio : Float32)
  | vSplit (top bottom : PaneTree) (ratio : Float32)

inductive SplitPosition where
  | before
  | after
  deriving DecidableEq

def checkedAdd (first second : UInt16) : Option UInt16 :=
  if first.toNat + second.toNat < UInt16.size then some (first + second)
  else none

def checkedSub (first second : UInt16) : Option UInt16 :=
  if second ≤ first then some (first - second) else none

def saturatingSub (first second : UInt16) : UInt16 :=
  if second ≤ first then first - second else 0

/-- The cells given to the first part of a split side. -/
def splitCells (cells size : UInt16) : UInt16 :=
  min (max cells 1) (saturatingSub size 1)

namespace PaneTree

/--
The panes with their rectangles, or nothing where the arithmetic of the
cells overflows.
-/
def leaves (ratioToCells : UInt16 → Float32 → UInt16) :
    PaneTree → Rect → Option (List (UInt64 × Rect))
  | .leaf id, rect => some [(id, rect)]
  | .hSplit left right ratio, rect => do
    let leftCols := splitCells (ratioToCells rect.cols ratio) rect.cols
    let rightCols ← checkedSub rect.cols leftCols
    let leftRect := ⟨rect.row, rect.col, rect.rows, leftCols⟩
    let rightCol ← checkedAdd rect.col leftCols
    let rightRect := ⟨rect.row, rightCol, rect.rows, rightCols⟩
    let panes ← left.leaves ratioToCells leftRect
    return panes ++ (← right.leaves ratioToCells rightRect)
  | .vSplit top bottom ratio, rect => do
    let topRows := splitCells (ratioToCells rect.rows ratio) rect.rows
    let bottomRows ← checkedSub rect.rows topRows
    let topRect := ⟨rect.row, rect.col, topRows, rect.cols⟩
    let bottomRow ← checkedAdd rect.row topRows
    let bottomRect := ⟨bottomRow, rect.col, bottomRows, rect.cols⟩
    let panes ← top.leaves ratioToCells topRect
    return panes ++ (← bottom.leaves ratioToCells bottomRect)

def allIds : PaneTree → List UInt64
  | .leaf id => [id]
  | .hSplit left right _ => left.allIds ++ right.allIds
  | .vSplit top bottom _ => top.allIds ++ bottom.allIds

def leafCount : PaneTree → Nat
  | .leaf _ => 1
  | .hSplit left right _ => left.leafCount + right.leafCount
  | .vSplit top bottom _ => top.leafCount + bottom.leafCount

/-- The split below a split, from the splits below its parts. -/
def splitChildren (outer : PaneTree → PaneTree → PaneTree)
    (second : PaneTree)
    (inFirst inSecond : Bool × PaneTree) : Bool × PaneTree :=
  if inFirst.1 then (true, outer inFirst.2 second)
  else (inSecond.1, outer inFirst.2 inSecond.2)

/--
Both splits replace the first leaf of the old pane by the join of the two
panes.
-/
def split (join : PaneTree → PaneTree → Float32 → PaneTree)
    (oldId newId : UInt64)
    (position : SplitPosition) : PaneTree → Bool × PaneTree
  | .leaf id =>
    if id = oldId then
      let (first, second) := match position with
        | .before => (newId, oldId)
        | .after => (oldId, newId)
      (true, join (.leaf first) (.leaf second) 0.5)
    else (false, .leaf id)
  | .hSplit left right ratio =>
    splitChildren (.hSplit · · ratio) right (left.split join oldId newId position)
      (right.split join oldId newId position)
  | .vSplit top bottom ratio =>
    splitChildren (.vSplit · · ratio) bottom (top.split join oldId newId position)
      (bottom.split join oldId newId position)

def splitH := split .hSplit

def splitV := split .vSplit

/--
What a removal leaves behind: whether the pane was found, the tree that
takes the place of this one, and this one.
-/
structure Removal where
  found : Bool
  replacement : Option PaneTree
  tree : PaneTree

def Removal.result (removal : Removal) : PaneTree :=
  removal.replacement.getD removal.tree

def isLeaf (id : UInt64) : PaneTree → Bool
  | .leaf leafId => leafId == id
  | _ => false

/--
The removal below a split, from the removals below its parts.  The
sibling of a removed leaf moves out and a placeholder stays behind.
-/
def removeChildren (outer : PaneTree → PaneTree → PaneTree) (id : UInt64)
    (first second : PaneTree) (inFirst inSecond : Removal) : Removal :=
  if first.isLeaf id then ⟨true, some second, outer first (.leaf 0)⟩
  else if second.isLeaf id then ⟨true, some first, outer (.leaf 0) second⟩
  else if inFirst.found then ⟨true, none, outer inFirst.result second⟩
  else if inSecond.found then ⟨true, none, outer inFirst.tree inSecond.result⟩
  else ⟨false, none, outer inFirst.tree inSecond.tree⟩

def removeInner (id : UInt64) : PaneTree → Removal
  | .leaf leafId => ⟨leafId == id, none, .leaf leafId⟩
  | .hSplit left right ratio =>
    removeChildren (.hSplit · · ratio) id left right (left.removeInner id) (right.removeInner id)
  | .vSplit top bottom ratio =>
    removeChildren (.vSplit · · ratio) id top bottom (top.removeInner id) (bottom.removeInner id)

def remove (id : UInt64) (tree : PaneTree) : Bool × PaneTree :=
  ((tree.removeInner id).found, (tree.removeInner id).result)

end PaneTree

/-! ## Tilings -/

/-- The cell belongs to the rectangle. -/
def Rect.Covers (rect : Rect) (row col : Nat) : Prop :=
  rect.row.toNat ≤ row ∧ row < rect.row.toNat + rect.rows.toNat ∧
    rect.col.toNat ≤ col ∧ col < rect.col.toNat + rect.cols.toNat

structure Rect.Inside (inner outer : Rect) : Prop where
  top : outer.row.toNat ≤ inner.row.toNat
  bottom : inner.row.toNat + inner.rows.toNat ≤ outer.row.toNat + outer.rows.toNat
  left : outer.col.toNat ≤ inner.col.toNat
  right : inner.col.toNat + inner.cols.toNat ≤ outer.col.toNat + outer.cols.toNat

/-- The bottom and right edges are cell numbers. -/
structure Rect.Fits (rect : Rect) : Prop where
  bottom : rect.row.toNat + rect.rows.toNat < UInt16.size
  right : rect.col.toNat + rect.cols.toNat < UInt16.size

/-- The parts cover the rectangle, each cell once. -/
structure Rect.Tiles (rect : Rect) (parts : List Rect) : Prop where
  inside : ∀ part ∈ parts, part.Inside rect
  disjoint : parts.Pairwise fun first second =>
    ∀ row col, ¬(first.Covers row col ∧ second.Covers row col)
  covered : ∀ row col, rect.Covers row col → ∃ part ∈ parts, part.Covers row col

variable {rect first second : Rect}

theorem Rect.Inside.covers (inside : first.Inside rect) {row col}
    (covers : first.Covers row col) : rect.Covers row col := by
  obtain ⟨_, _, _, _⟩ := inside
  unfold Rect.Covers at covers ⊢
  omega

theorem Rect.Inside.trans (inner : second.Inside first)
    (outer : first.Inside rect) : second.Inside rect :=
  ⟨outer.top.trans inner.top, inner.bottom.trans outer.bottom,
    outer.left.trans inner.left, inner.right.trans outer.right⟩

theorem Rect.Inside.fits (inside : first.Inside rect)
    (fits : rect.Fits) : first.Fits :=
  ⟨inside.bottom.trans_lt fits.bottom, inside.right.trans_lt fits.right⟩

/-- Tilings of the two parts of a rectangle are one of the whole. -/
theorem Rect.Tiles.append (halves : rect.Tiles [first, second])
    (upper : first.Tiles firsts)
    (lower : second.Tiles seconds) : rect.Tiles (firsts ++ seconds) where
  inside part member := by
    rcases mem_append.mp member with member | member
    · exact (upper.inside part member).trans (halves.inside _ (by simp))
    · exact (lower.inside part member).trans (halves.inside _ (by simp))
  disjoint := by
    refine pairwise_append.mpr ⟨upper.disjoint, lower.disjoint, ?_⟩
    rintro one oneMember other otherMember row col ⟨ofOne, ofOther⟩
    have apart := (pairwise_cons.mp halves.disjoint).1 second (by simp)
    exact apart row col ⟨(upper.inside one oneMember).covers ofOne,
      (lower.inside other otherMember).covers ofOther⟩
  covered row col covers := by
    obtain ⟨_, member, covers⟩ := halves.covered row col covers
    simp only [mem_cons, not_mem_nil, or_false] at member
    rcases member with rfl | rfl
    · obtain ⟨part, member, covers⟩ := upper.covered row col covers
      exact ⟨part, mem_append_left _ member, covers⟩
    · obtain ⟨part, member, covers⟩ := lower.covered row col covers
      exact ⟨part, mem_append_right _ member, covers⟩

/-- The arithmetic of a split side does not overflow. -/
theorem splitCells_parts (cells : UInt16)
    (fits : start.toNat + size.toNat < UInt16.size) :
    ∃ rest next, checkedSub size (splitCells cells size) = some rest ∧
      checkedAdd start (splitCells cells size) = some next ∧
      next.toNat = start.toNat + (splitCells cells size).toNat ∧
      (splitCells cells size).toNat + rest.toNat = size.toNat := by
  have within : splitCells cells size ≤ size := by
    refine UInt16.le_trans Std.min_le_right ?_
    unfold saturatingSub
    split
    · rename_i positive
      rw [UInt16.le_iff_toNat_le, UInt16.toNat_sub_of_le _ _ positive]
      exact Nat.sub_le _ _
    · exact UInt16.zero_le
  have small := UInt16.le_iff_toNat_le.mp within
  have sum : start.toNat + (splitCells cells size).toNat < UInt16.size := by omega
  refine ⟨_, _, if_pos within, if_pos sum, ?_, ?_⟩
  · rw [UInt16.toNat_add, Nat.mod_eq_of_lt sum]
  · rw [UInt16.toNat_sub_of_le _ _ within]
    omega

section

variable {next : UInt16}

theorem Rect.tiles_cols (start : next.toNat = rect.col.toNat + part.toNat)
    (whole : part.toNat + rest.toNat = rect.cols.toNat) :
    rect.Tiles [⟨rect.row, rect.col, rect.rows, part⟩, ⟨rect.row, next, rect.rows, rest⟩] where
  inside := by
    rw [forall_mem_cons, forall_mem_singleton]
    exact ⟨⟨le_rfl, le_rfl, le_rfl, by simp only; omega⟩,
      ⟨le_rfl, le_rfl, by simp only; omega, by simp only; omega⟩⟩
  disjoint := by
    simp only [pairwise_pair, Rect.Covers]
    omega
  covered row col := by
    simp only [Rect.Covers, exists_mem_cons_iff]
    omega

theorem Rect.tiles_rows (start : next.toNat = rect.row.toNat + part.toNat)
    (whole : part.toNat + rest.toNat = rect.rows.toNat) :
    rect.Tiles [⟨rect.row, rect.col, part, rect.cols⟩, ⟨next, rect.col, rest, rect.cols⟩] where
  inside := by
    rw [forall_mem_cons, forall_mem_singleton]
    exact ⟨⟨le_rfl, by simp only; omega, le_rfl, le_rfl⟩,
      ⟨by simp only; omega, by simp only; omega, le_rfl, le_rfl⟩⟩
  disjoint := by
    simp only [pairwise_pair, Rect.Covers]
    omega
  covered row col := by
    simp only [Rect.Covers, exists_mem_cons_iff]
    omega

end

theorem Rect.tiles_self : rect.Tiles [rect] where
  inside := by
    rw [forall_mem_singleton]
    exact ⟨le_rfl, le_rfl, le_rfl, le_rfl⟩
  disjoint := pairwise_singleton _ _
  covered _ _ covers := ⟨rect, mem_singleton_self rect, covers⟩

/-- A layout that shows the panes in this order and tiles the rectangle. -/
def Rect.Laid (rect : Rect) (layout : Option (List (UInt64 × Rect)))
    (ids : List UInt64) : Prop :=
  ∃ panes, layout = some panes ∧ panes.map Prod.fst = ids ∧ rect.Tiles (panes.map Prod.snd)

theorem Rect.Tiles.laid {layouts others : Rect → Option (List (UInt64 × Rect))}
    (halves : rect.Tiles [first, second]) (fits : rect.Fits)
    (upper : ∀ rect : Rect, rect.Fits → rect.Laid (layouts rect) ids)
    (lower : ∀ rect : Rect, rect.Fits → rect.Laid (others rect) otherIds) :
    rect.Laid (do
      let panes ← layouts first
      return panes ++ (← others second)) (ids ++ otherIds) := by
  have inside := halves.inside
  rw [forall_mem_cons, forall_mem_singleton] at inside
  obtain ⟨firsts, laid, firstIds, firstTiles⟩ := upper first (inside.1.fits fits)
  obtain ⟨seconds, otherLaid, secondIds, secondTiles⟩ := lower second (inside.2.fits fits)
  refine ⟨firsts ++ seconds, by simp [laid, otherLaid], ?_, ?_⟩
  · rw [map_append, firstIds, secondIds]
  · rw [map_append]
    exact halves.append firstTiles secondTiles

theorem PaneTree.laid (tree : PaneTree) {rect : Rect} (fits : rect.Fits) :
    rect.Laid (tree.leaves ratioToCells rect) tree.allIds := by
  induction tree generalizing rect with
  | leaf id => exact ⟨_, rfl, rfl, Rect.tiles_self⟩
  | hSplit left right ratio inLeft inRight =>
    obtain ⟨_, _, remaining, added, start, whole⟩ :=
      splitCells_parts (ratioToCells rect.cols ratio) fits.right
    rw [PaneTree.leaves, remaining, added]
    exact (Rect.tiles_cols start whole).laid fits (fun _ => inLeft) fun _ => inRight
  | vSplit top bottom ratio inTop inBottom =>
    obtain ⟨_, _, remaining, added, start, whole⟩ :=
      splitCells_parts (ratioToCells rect.rows ratio) fits.bottom
    rw [PaneTree.leaves, remaining, added]
    exact (Rect.tiles_rows start whole).laid fits (fun _ => inTop) fun _ => inBottom

/-- The leaves of a tree tile every rectangle it is laid out in. -/
theorem leaves_tile_rect (ratioToCells : UInt16 → Float32 → UInt16)
    (tree : PaneTree) (rect : Rect) (fits : rect.Fits) :
    rect.Laid (tree.leaves ratioToCells rect) tree.allIds :=
  tree.laid fits

theorem half_layout_tiles :
    (Rect.mk 2 0 10 7).Fits ∧
      (Rect.mk 2 0 10 7).Laid (PaneTree.leaves (fun size _ => size / 2)
        (.hSplit (.leaf 1) (.vSplit (.leaf 2) (.leaf 3) 0.5) 0.5) ⟨2, 0, 10, 7⟩) [1, 2, 3] :=
  ⟨⟨by decide, by decide⟩, leaves_tile_rect _
    (.hSplit (.leaf 1) (.vSplit (.leaf 2) (.leaf 3) 0.5) 0.5) _
    ⟨by decide, by decide⟩⟩

/-! ## Splits and removals -/

namespace PaneTree

variable (outer : PaneTree → PaneTree → PaneTree)
  {oldId newId id : UInt64} {position : SplitPosition}

/-- What a split of a pane does to the list of panes. -/
structure Inserts (tree : PaneTree) (oldId newId : UInt64)
    (position : SplitPosition) (outcome : Bool × PaneTree) : Prop where
  found : outcome.1 ↔ oldId ∈ tree.allIds
  inserted : oldId ∈ tree.allIds → ∃ before after, tree.allIds = before ++ oldId :: after ∧
    outcome.2.allIds = before ++
      (if position = .before then [newId, oldId] else [oldId, newId]) ++ after
  unchanged : oldId ∉ tree.allIds → outcome.2 = tree

theorem splitChildren_inserts {first second}
    (ids : ∀ {one other}, (outer one other).allIds = one.allIds ++ other.allIds)
    (upper : first.Inserts oldId newId position inFirst)
    (lower : second.Inserts oldId newId position inSecond) :
    (outer first second).Inserts oldId newId position
      (splitChildren outer second inFirst inSecond) := by
  by_cases member : oldId ∈ first.allIds
  · obtain ⟨before, after, former, now⟩ := upper.inserted member
    rw [splitChildren, if_pos (upper.found.mpr member)]
    refine ⟨by simp [ids, member], fun _ => ?_, by simp [ids, member]⟩
    exact ⟨before, after ++ second.allIds, by simp [ids, former], by simp [ids, now]⟩
  · rw [splitChildren, if_neg (member ∘ upper.found.mp), upper.unchanged member]
    refine ⟨by simp [ids, member, lower.found], fun found => ?_, fun missing => ?_⟩
    · have inSecond : oldId ∈ second.allIds := by simpa [ids, member] using found
      obtain ⟨before, after, former, now⟩ := lower.inserted inSecond
      exact ⟨first.allIds ++ before, after, by simp [ids, former], by simp [ids, now]⟩
    · rw [lower.unchanged fun found => missing (by simp [ids, found])]

theorem split_inserts
    (ids : ∀ {one other ratio}, (join one other ratio).allIds = one.allIds ++ other.allIds)
    {tree : PaneTree} :
    tree.Inserts oldId newId position (tree.split join oldId newId position) := by
  induction tree with
  | leaf id =>
    by_cases same : id = oldId
    · subst same
      simp only [split]
      refine ⟨by simp [allIds], fun _ => ⟨[], [], rfl, ?_⟩, by simp [allIds]⟩
      cases position <;> simp [ids, allIds]
    · simp only [split, same]
      exact ⟨by simp [allIds, Ne.symm same], by simp [allIds, Ne.symm same], fun _ => rfl⟩
  | hSplit left right ratio inLeft inRight =>
    exact splitChildren_inserts (.hSplit · · ratio) rfl inLeft inRight
  | vSplit top bottom ratio inTop inBottom =>
    exact splitChildren_inserts (.vSplit · · ratio) rfl inTop inBottom

/-- What the removal of a pane does to the list of panes. -/
structure Removes (tree : PaneTree) (id : UInt64)
    (removal : Removal) : Prop where
  found : id ∈ tree.allIds → removal.found
  erased : id ∈ tree.allIds → tree.isLeaf id = false → removal.result.allIds = tree.allIds.erase id
  unchanged : id ∉ tree.allIds → removal = ⟨false, none, tree⟩

theorem eq_leaf_of_isLeaf {tree : PaneTree}
    (leaf : tree.isLeaf id) : tree = .leaf id := by
  cases tree with
  | leaf leafId => rw [eq_of_beq leaf]
  | hSplit | vSplit => cases leaf

theorem removeChildren_removes {first second}
    (ids : ∀ {one other}, (outer one other).allIds = one.allIds ++ other.allIds)
    (distinct : (first.allIds ++ second.allIds).Nodup)
    (upper : first.Removes id inFirst) (lower : second.Removes id inSecond) :
    (outer first second).Removes id (removeChildren outer id first second inFirst inSecond) := by
  have apart := disjoint_of_nodup_append distinct
  unfold removeChildren
  split
  · rename_i leaf
    obtain rfl := eq_leaf_of_isLeaf leaf
    have member : id ∈ (outer (.leaf id) second).allIds := by simp [ids, allIds]
    exact ⟨fun _ => rfl, fun _ _ => by simp [ids, allIds, Removal.result], absurd member⟩
  split
  · rename_i leaf
    obtain rfl := eq_leaf_of_isLeaf leaf
    have other : id ∉ first.allIds := fun found => apart found (by simp [allIds])
    have member : id ∈ (outer first (.leaf id)).allIds := by simp [ids, allIds]
    refine ⟨fun _ => rfl, fun _ _ => ?_, absurd member⟩
    rw [ids, erase_append_right _ other]
    simp [allIds, Removal.result]
  rename_i notFirst notSecond
  simp only [Bool.not_eq_true] at notFirst notSecond
  by_cases member : id ∈ first.allIds
  · rw [if_pos (upper.found member)]
    refine ⟨fun _ => rfl, fun _ _ => ?_, by simp [ids, member]⟩
    rw [ids, erase_append_left _ member, ← upper.erased member notFirst]
    exact ids
  · rw [upper.unchanged member]
    by_cases other : id ∈ second.allIds
    · rw [if_pos (lower.found other)]
      refine ⟨fun _ => rfl, fun _ _ => ?_, by simp [ids, other]⟩
      rw [ids, erase_append_right _ member, ← lower.erased other notSecond]
      exact ids
    · rw [lower.unchanged other]
      exact ⟨by simp [ids, member, other], by simp [ids, member, other], fun _ => rfl⟩

theorem removeInner_removes {tree : PaneTree} (distinct : tree.allIds.Nodup) :
    tree.Removes id (tree.removeInner id) := by
  induction tree with
  | leaf leafId =>
    by_cases same : leafId = id
    · subst same
      exact ⟨fun _ => beq_self_eq_true _, by simp [isLeaf], by simp [allIds]⟩
    · have missing : id ∉ (leaf leafId).allIds := by simp [allIds, Ne.symm same]
      exact ⟨fun member => absurd member missing,
        fun member => absurd member missing, by simp [removeInner, same]⟩
  | hSplit left right ratio inLeft inRight =>
    exact removeChildren_removes (.hSplit · · ratio) rfl distinct
      (inLeft distinct.of_append_left) (inRight distinct.of_append_right)
  | vSplit top bottom ratio inTop inBottom =>
    exact removeChildren_removes (.vSplit · · ratio) rfl distinct
      (inTop distinct.of_append_left) (inBottom distinct.of_append_right)

theorem isLeaf_eq_false {tree : PaneTree}
    (fresh : id ∉ tree.allIds) : tree.isLeaf id = false := by
  by_contra leaf
  rw [eq_leaf_of_isLeaf (Bool.of_not_eq_false leaf)] at fresh
  exact fresh mem_cons_self

/-- Closing a new pane gives back the tree in which it was opened. -/
theorem split_undone {tree : PaneTree} {join}
    (joins : join = .hSplit ∨ join = .vSplit)
    (distinct : tree.allIds.Nodup) (member : oldId ∈ tree.allIds)
    (fresh : newId ∉ tree.allIds) :
    (tree.split join oldId newId position).2.isLeaf newId = false ∧
      (tree.split join oldId newId position).2.remove newId = (true, tree) := by
  have ids : ∀ {one other ratio}, (join one other ratio).allIds = one.allIds ++ other.allIds := by
    rcases joins with rfl | rfl <;> exact rfl
  rw [remove, Prod.mk.injEq]
  induction tree with
  | leaf =>
    obtain rfl := mem_singleton.mp member
    have other : oldId ≠ newId := fun same => fresh (same ▸ mem_cons_self)
    rcases joins with rfl | rfl <;> cases position <;>
      simp [split, isLeaf, removeInner, removeChildren, Removal.result, other]
  | hSplit first second ratio upper lower | vSplit first second ratio upper lower =>
    obtain ⟨one, other⟩ := not_or.mp (mem_append.not.mp fresh)
    have inserts : first.Inserts oldId newId position (first.split join oldId newId position) :=
      split_inserts ids
    by_cases inside : oldId ∈ first.allIds
    · obtain ⟨leaf, found, undone⟩ := upper distinct.of_append_left inside one
      simp only [split, splitChildren, inserts.found.mpr inside, if_true, removeInner,
        removeChildren, leaf, isLeaf_eq_false other, found, undone]
      exact ⟨rfl, rfl, rfl⟩
    · have absent := (removeInner_removes distinct.of_append_left).unchanged one
      obtain ⟨leaf, found, undone⟩ := lower distinct.of_append_right
        ((mem_append.mp member).resolve_left inside) other
      simp only [split, splitChildren, inside, inserts.found, inserts.unchanged inside, if_false,
        removeInner, removeChildren, leaf, isLeaf_eq_false one, absent, found, undone]
      exact ⟨rfl, rfl, rfl⟩

/-- A pane beside two others, one above the other. -/
def nested : PaneTree := .hSplit (.leaf 1) (.vSplit (.leaf 2) (.leaf 3) 0.25) 0.5

theorem nested_split_undone :
    (nested.split .vSplit 2 4 .before).2.remove 4 = (true, nested) :=
  (split_undone (.inr rfl) (by decide) (by decide) (by decide)).2

theorem leafCount_pos {tree : PaneTree} : 0 < tree.leafCount := by
  cases tree with
  | leaf => exact Nat.one_pos
  | hSplit | vSplit => exact Nat.add_pos_left leafCount_pos _

theorem leaf_or_several :
    ∀ tree : PaneTree, (∃ id, tree = .leaf id) ∨ 2 ≤ tree.leafCount
  | .leaf id => .inl ⟨id, rfl⟩
  | .hSplit _ _ _ => .inr (Nat.add_le_add leafCount_pos leafCount_pos)
  | .vSplit _ _ _ => .inr (Nat.add_le_add leafCount_pos leafCount_pos)

end PaneTree

/--
Splits insert the new pane beside the old one; removals drop the pane
alone, except the last one of a tree, which stays.
-/
theorem pane_edits (tree : PaneTree) (distinct : tree.allIds.Nodup)
    (oldId newId id : UInt64) (position : SplitPosition) :
    tree.Inserts oldId newId position (tree.splitH oldId newId position) ∧
    tree.Inserts oldId newId position (tree.splitV oldId newId position) ∧ (2 ≤ tree.leafCount →
      ((tree.remove id).1 ↔ id ∈ tree.allIds) ∧
      (id ∈ tree.allIds → (tree.remove id).2.allIds = tree.allIds.filter (· != id)) ∧
      (id ∉ tree.allIds → (tree.remove id).2 = tree)) ∧
    (tree.leafCount = 1 → (tree.remove id).2 = tree) := by
  have removes : tree.Removes id _ := PaneTree.removeInner_removes distinct
  refine ⟨PaneTree.split_inserts rfl, PaneTree.split_inserts rfl,
    fun several => ⟨⟨fun found => ?_, removes.found⟩, fun member => ?_, fun missing => ?_⟩, ?_⟩
  · by_contra missing
    rw [PaneTree.remove, removes.unchanged missing] at found
    cases found
  · rw [← distinct.erase_eq_filter]
    refine removes.erased member ?_
    cases tree with
    | leaf => exact absurd several (by simp [PaneTree.leafCount])
    | hSplit | vSplit => rfl
  · rw [PaneTree.remove, removes.unchanged missing]
    rfl
  · intro single
    rcases tree.leaf_or_several with ⟨_, rfl⟩ | several
    · rfl
    · omega

theorem nested_pane_removed : (PaneTree.nested.remove 2).2.allIds = [1, 3] :=
  ((pane_edits .nested (by decide) 3 4 2 .after).2.2.1 (by decide)).2.1 (by decide)

end Jackin.Layout
