import Jackin.Foundation.Text
import Jackin.Layout.PaneTree

/-!
# The path under the cursor

Rows of a pane are cut into words: a web address, a quoted path or a token
around a column.  The content of a pane is its scrollback followed by its
screen, and the cursor is counted from the top of the screen; the export takes
its row from the content.
-/

namespace Jackin.Layout

open Foundation.Text

structure CellSnapshot where
  contents : List Char
  width : UInt16

/-- The columns of a character. -/
structure DisplayCell where
  startCol : UInt16
  endCol : UInt16
  contents : List Char

abbrev RowSnapshot : Type := List CellSnapshot

/-- `u16::saturating_add` -/
def addCols (first second : UInt16) : UInt16 :=
  .ofNat (min (first.toNat + second.toNat) 65535)

namespace RowSnapshot

def displayCells (col : UInt16) : RowSnapshot → List DisplayCell
  | [] => []
  | cell :: rest =>
    let next := addCols col cell.width
    let others := displayCells next rest
    if 0 < cell.width then ⟨col, saturatingSub next 1, cell.contents⟩ :: others else others

variable (fromCol toCol : UInt16)

/-- A cell that is cut at an end of the range shows blanks. -/
def rangeCells (col : UInt16) : RowSnapshot → List Char
  | [] => []
  | cell :: rest =>
    let next := addCols col cell.width
    let last := saturatingSub next 1
    if last < fromCol then rangeCells next rest
    else if toCol < col then []
    else if fromCol ≤ col ∧ last ≤ toCol then cell.contents ++ rangeCells next rest
    else
      let width := addCols (saturatingSub (min last toCol) (max col fromCol)) 1
      .replicate width.toNat ' ' ++ rangeCells next rest

def textRange (row : RowSnapshot) : List Char :=
  if toCol < fromCol then [] else rangeCells fromCol toCol 0 row

end RowSnapshot

section

variable (chars : List (Option Char)) (clicked : Nat)

def isTokenSeparator : Option Char → Bool
  | none => true
  | some ch =>
    isWhitespace ch || ch ∈ ['|', '(', ')', '[', ']', '\x7b', '\x7d', '<', '>', ',', ';', '!']

def isLeadingWrapper (ch : Char) : Bool := ch ∈ ['\x22', '\x27', '\x60']

def isTrailingWrapper (ch : Char) : Bool :=
  ch ∈ ['\x22', '\x27', '\x60', '.', ':', '!', '?']

def tokenWordBounds : Option (Nat × Nat) :=
  let inWord := fun ch => !isTokenSeparator ch
  if !inWord (chars[clicked]?.join) then none
  else
    let start := clicked - ((chars.take clicked).rtakeWhile inWord).length
    let stop := clicked + ((chars.drop (clicked + 1)).takeWhile inWord).length
    let word := (chars.take (stop + 1)).drop start
    let start := start + (word.takeWhile (·.any isLeadingWrapper)).length
    let word := word.dropWhile (·.any isLeadingWrapper)
    let trailing := (word.rtakeWhile (·.any isTrailingWrapper)).length
    if trailing < word.length ∧ start ≤ clicked ∧ clicked ≤ stop - trailing then
      some (start, stop - trailing)
    else none

def quoteIsEscaped (idx : Nat) : Bool :=
  ((chars.take idx).rtakeWhile (· = some '\\')).length % 2 = 1

/-- The span between two quotes that contains the clicked cell and a slash. -/
def quotedSpan (quote : Char) : Option Nat → List Nat → Option (Nat × Nat)
  | _, [] => none
  | start, idx :: rest =>
    if chars[idx]?.join ≠ some quote ∨ quoteIsEscaped chars idx then quotedSpan quote start rest
    else match start with
    | none => quotedSpan quote (some idx) rest
    | some start =>
      if start < clicked ∧ clicked < idx ∧ some '/' ∈ (chars.take idx).drop (start + 1) then
        some (start + 1, idx - 1)
      else quotedSpan quote none rest

def quotedPathBounds : Option (Nat × Nat) :=
  match chars[clicked]?.join with
  | none => none
  | some ch =>
    if ch ∈ ['\x22', '\x27', '\x60'] then none
    else ['\x22', '\x27', '\x60'].findSome? fun quote =>
      quotedSpan chars clicked quote none (.range chars.length)

def closerIsBalanced (span : List (Option Char))
    (opener closer : Char) : Bool :=
  span.count (some closer) ≤ span.count (some opener)

def trimsUrl (idx stop : Nat) (ch : Char) : Bool :=
  let span := (chars.take (stop + 1)).drop idx
  ch ∈ ['\x22', '\x27', '\x60', '.', ',', ';', ':', '!', '?'] ||
    ch = ')' && !closerIsBalanced span '(' ')' || ch = ']' && !closerIsBalanced span '[' ']' ||
    ch = '\x7d' && !closerIsBalanced span '\x7b' '\x7d'

def trimUrl (idx : Nat) : Nat → Nat
  | 0 => 0
  | stop + 1 =>
    let trims := (chars[stop + 1]?.join).any (trimsUrl chars idx (stop + 1))
    if idx ≤ stop ∧ trims then trimUrl idx stop else stop + 1

def cellsStartWith (text : String) : Bool := (text.toList.map some).isPrefixOf chars

/-- The scan goes on behind an address that does not contain the clicked cell. -/
def urlWordBounds (idx : Nat) : Nat → Option (Nat × Nat)
  | 0 => none
  | fuel + 1 =>
    let rest := chars.drop idx
    if !cellsStartWith rest "http://" && !cellsStartWith rest "https://" then
      urlWordBounds (idx + 1) fuel
    else
      let stop := idx + ((rest.drop 1).takeWhile (·.any (!isWhitespace ·))).length
      if ¬(idx ≤ clicked ∧ clicked ≤ stop) then urlWordBounds (stop + 1) fuel
      else
        let stop := trimUrl chars idx stop
        if clicked ≤ stop then some (idx, stop) else none

end

def wordBoundsInRow (row : RowSnapshot)
    (col : UInt16) : Option (UInt16 × UInt16) := do
  let cells := row.displayCells 0
  let clicked ← cells.findIdx? fun cell => cell.startCol ≤ col && col ≤ cell.endCol
  let chars := cells.map (·.contents.head?)
  let (start, stop) ← urlWordBounds chars clicked 0 chars.length <|>
    quotedPathBounds chars clicked <|> tokenWordBounds chars clicked
  return ((← cells[start]?).startCol, (← cells[stop]?).endCol)

def wordToken (row : RowSnapshot) (col : UInt16) : Option (List Char) := do
  let (startCol, endCol) ← wordBoundsInRow row col
  let token := ((row.textRange startCol endCol).dropWhile isWhitespace).rdropWhile isWhitespace
  if token ≠ [] then some token else none

/-- The rows of a session as they are rendered for the columns of its pane. -/
structure SessionView where
  scrollback : List RowSnapshot
  screen : List RowSnapshot
  scrollbackOffset : Nat
  cursorRow : UInt16
  cursorCol : UInt16

namespace SessionView

variable (view : SessionView)

def renderContentSnapshotRange (start stop : Nat) : List RowSnapshot :=
  ((view.scrollback ++ view.screen).take stop).drop start

def renderContentSnapshot : List RowSnapshot :=
  view.renderContentSnapshotRange 0 (view.scrollback.length + view.screen.length)

def exportPathUnderCursor : Option (List Char) := do
  guard (view.scrollbackOffset = 0)
  let row ← view.renderContentSnapshot[view.cursorRow.toNat]?
  wordToken row view.cursorCol

/-- The row in which `open_visible_url_under_cursor` looks for an address. -/
def visibleUrlRow : Option RowSnapshot := do
  guard (view.scrollbackOffset = 0)
  let contentRow := view.scrollback.length + view.cursorRow.toNat
  (view.renderContentSnapshotRange contentRow (contentRow + 1))[0]?

/-- A row of one blank cell. -/
def blankRow : RowSnapshot := [⟨[' '], 1⟩]

theorem visibleUrlRow_eq (bottom : view.scrollbackOffset = 0) :
    view.visibleUrlRow = view.screen[view.cursorRow.toNat]? := by
  simp [visibleUrlRow, bottom, renderContentSnapshotRange, List.getElem?_append_right, guard]

/--
At the live bottom the address is looked for in the row of the cursor.  The
path is taken from that row in all sessions with some amount of scrollback
only if there is none.
-/
theorem export_under_cursor_iff (filled : Nat) :
    (∀ view : SessionView, view.scrollback.length = filled → view.scrollbackOffset = 0 →
      ∀ row, view.screen[view.cursorRow.toNat]? = some row →
        view.visibleUrlRow = some row ∧
          view.exportPathUnderCursor = wordToken row view.cursorCol) ↔ filled = 0 := by
  constructor
  · intro holds
    by_contra scrolled
    obtain ⟨rest, rfl⟩ := Nat.exists_eq_succ_of_ne_zero scrolled
    let view : SessionView := ⟨.replicate (rest + 1) blankRow, [[⟨['a'], 1⟩]], 0, 0, 0⟩
    have blank : wordToken blankRow 0 = none := by decide
    have missed : view.exportPathUnderCursor = none := blank
    have path : none = wordToken [⟨['a'], 1⟩] 0 :=
      missed.symm.trans (holds view List.length_replicate rfl _ rfl).2
    exact absurd path (by decide)
  · rintro rfl view empty bottom row shown
    refine ⟨(view.visibleUrlRow_eq bottom).trans shown, ?_⟩
    have content : view.renderContentSnapshot = view.screen := by
      simp [renderContentSnapshot, renderContentSnapshotRange, List.eq_nil_of_length_eq_zero empty]
    simp [exportPathUnderCursor, bottom, content, shown, guard]

/-- The path is in the row of the cursor, and the first row of the content is blank. -/
theorem path_below_scrollback_missed :
    let view : SessionView := ⟨[blankRow], [[⟨['a'], 1⟩]], 0, 0, 0⟩
    view.visibleUrlRow = some [⟨['a'], 1⟩] ∧ wordToken [⟨['a'], 1⟩] view.cursorCol = some ['a'] ∧
      view.exportPathUnderCursor = none :=
  ⟨rfl, by decide, by decide⟩

end SessionView

end Jackin.Layout
