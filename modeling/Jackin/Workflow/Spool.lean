import Mathlib
import Jackin.Foundation.Text

/-!
# The output of a worker session

What a worker writes to its terminal is sanitized chunk by chunk.  The code
skips an escape sequence in the chunk it finds it in; as a scanner it has
five modes, and starts every chunk in the first.  So a chunk can be
sanitized by itself exactly if it does not end inside an escape sequence.
-/

namespace Jackin.Workflow.Spool

open List Foundation

def printable (character : Char) : Bool :=
  !Text.isControl character || character == '\n' || character == '\t'

def escape : Char := '\x1b'

def skipCsi : List Char → List Char
  | [] => []
  | next :: rest => if '@' ≤ next ∧ next ≤ '~' then rest else skipCsi rest

def skipOsc : List Char → List Char
  | [] => []
  | next :: rest =>
    if next = '\x07' then rest
    else if next = escape then
      match rest with
      | '\\' :: later => later
      | _ => rest
    else skipOsc rest

def skipEscape : List Char → List Char
  | '[' :: rest => skipCsi rest
  | ']' :: rest => skipOsc rest
  | _ :: rest => rest
  | [] => []

variable {text : List Char}

theorem length_skipCsi : (skipCsi text).length ≤ text.length := by
  fun_induction skipCsi text <;> grind

theorem length_skipOsc : (skipOsc text).length ≤ text.length := by
  fun_induction skipOsc text <;> grind

theorem length_skipEscape : (skipEscape text).length ≤ text.length := by
  unfold skipEscape
  split
  · exact Nat.le_succ_of_le length_skipCsi
  · exact Nat.le_succ_of_le length_skipOsc
  · exact Nat.le_succ _
  · exact Nat.le_refl _

def sanitizeTerminalText : List Char → List Char
  | [] => []
  | character :: rest =>
    if character = escape then sanitizeTerminalText (skipEscape rest)
    else if printable character then character :: sanitizeTerminalText rest
    else sanitizeTerminalText rest
termination_by text => text.length
decreasing_by
  · exact Nat.lt_succ_of_le length_skipEscape
  · exact Nat.lt_succ_self _
  · exact Nat.lt_succ_self _

/-! ## The scanner -/

/-- Where a text ends: outside of escape sequences, or how far inside. -/
inductive Mode where
  | text
  | escape
  | csi
  | osc
  /-- After an escape character that ends a sequence, maybe with more. -/
  | closing
  deriving DecidableEq

def Mode.read : Mode → Char → Mode
  | .text, next => if next = Spool.escape then .escape else .text
  | .escape, next => if next = '[' then .csi else if next = ']' then .osc else .text
  | .csi, next => if '@' ≤ next ∧ next ≤ '~' then .text else .csi
  | .osc, next =>
    if next = '\x07' then .text
    else if next = Spool.escape then .closing
    else .osc
  | .closing, next => if next = Spool.escape then .escape else .text

def Mode.shows : Mode → Char → Bool
  | .text, next => printable next
  | .closing, next => next != '\\' && printable next
  | _, _ => false

def scan : Mode → List Char → List Char
  | _, [] => []
  | mode, next :: rest =>
    if mode.shows next then next :: scan (mode.read next) rest
    else scan (mode.read next) rest

/-- The mode at the end of a text. -/
def Mode.after (mode : Mode)
    (text : List Char) : Mode := text.foldl Mode.read mode

section

variable {mode : Mode}

theorem after_append :
    mode.after (text ++ later) = (mode.after text).after later :=
  foldl_append

theorem scan_append :
    scan mode (text ++ later) = scan mode text ++ scan (mode.after text) later := by
  induction text generalizing mode with
  | nil => rfl
  | cons next rest ih =>
    rw [cons_append, scan, scan, ih]
    split <;> rfl

theorem scan_csi : scan .csi text = scan .text (skipCsi text) := by
  fun_induction skipCsi text with
  | case1 => rfl
  | case2 next rest final => simp [scan, Mode.shows, Mode.read, final]
  | case3 next rest more ih => simp [scan, Mode.shows, Mode.read, more, ih]

theorem scan_closing (other : ∀ rest, text ≠ '\\' :: rest) :
    scan .closing text = scan .text text := by
  cases text with
  | nil => rfl
  | cons next rest =>
    have differs : next ≠ '\\' := fun same => other rest (same ▸ rfl)
    have shows : Mode.closing.shows next = Mode.text.shows next := by simp [Mode.shows, differs]
    rw [scan, shows]
    rfl

theorem scan_osc : scan .osc text = scan .text (skipOsc text) := by
  fun_induction skipOsc text with
  | case1 => rfl
  | case2 rest => simp [scan, Mode.shows, Mode.read]
  | case3 later _ => rfl
  | case4 rest other bell =>
    rw [← scan_closing other]
    rfl
  | case5 next rest bell escape ih => simp [scan, Mode.shows, Mode.read, bell, escape, ih]

theorem scan_escape : scan .escape text = scan .text (skipEscape text) := by
  unfold skipEscape
  split
  · exact scan_csi
  · exact scan_osc
  · rename_i next rest csi osc
    have noCsi : next ≠ '[' := csi
    have noOsc : next ≠ ']' := osc
    simp [scan, Mode.shows, Mode.read, noCsi, noOsc]
  · rfl

/-- The code is the scanner. -/
theorem sanitizeTerminalText_eq_scan :
    sanitizeTerminalText text = scan .text text := by
  fun_induction sanitizeTerminalText text with
  | case1 => rfl
  | case2 rest ih =>
    rw [ih, ← scan_escape]
    rfl
  | case3 next rest other shown ih => simp [scan, Mode.shows, Mode.read, other, shown, ih]
  | case4 next rest other hidden ih => simp [scan, Mode.shows, Mode.read, other, hidden, ih]

theorem printable_of_mem_scan
    (member : character ∈ scan mode text) : printable character := by
  induction text generalizing mode with
  | nil => cases member
  | cons next rest ih =>
    unfold scan at member
    split at member
    · rcases mem_cons.mp member with rfl | later
      · cases mode <;> simp_all [Mode.shows]
      · exact ih later
    · exact ih member

end

/-- The chunks give what the whole text gives, without control characters. -/
def Uncut (chunks : List (List Char)) : Prop :=
  chunks.flatMap sanitizeTerminalText = sanitizeTerminalText chunks.flatten ∧
    ∀ character ∈ chunks.flatMap sanitizeTerminalText,
      Text.isControl character → character = '\n' ∨ character = '\t'

section

variable {chunks : List (List Char)}

theorem uncut_iff :
    Uncut chunks ↔ chunks.flatMap (scan .text) = scan .text chunks.flatten := by
  have code : sanitizeTerminalText = scan .text :=
    funext fun _ => sanitizeTerminalText_eq_scan
  rw [Uncut, code]
  refine and_iff_left fun character member control => ?_
  obtain ⟨_, _, shown⟩ := mem_flatMap.mp member
  simpa [printable, control] using printable_of_mem_scan shown

theorem settled_flatten (settled : ∀ chunk ∈ chunks, Mode.text.after chunk = .text) :
    Mode.text.after chunks.flatten = .text ∧
      chunks.flatMap (scan .text) = scan .text chunks.flatten := by
  induction chunks with
  | nil => exact ⟨rfl, rfl⟩
  | cons chunk rest ih =>
    obtain ⟨first, others⟩ := forall_mem_cons.mp settled
    obtain ⟨ended, same⟩ := ih others
    rw [flatten_cons, flatMap_cons, scan_append, after_append, first, same]
    exact ⟨ended, rfl⟩

/--
Every beginning of a list of chunks can be continued in every way with the
same output as from the whole text, exactly if no chunk ends inside an
escape sequence.
-/
theorem sanitize_chunks_iff (chunks : List (List Char)) :
    (∀ done later, done <+: chunks → Uncut (done ++ [later])) ↔
      ∀ chunk ∈ chunks, Mode.text.after chunk = .text := by
  simp only [uncut_iff, flatMap_append, flatten_append,
    flatMap_singleton, flatten_singleton, scan_append]
  constructor
  · intro uncut
    induction chunks using reverseRecOn with
    | nil => exact forall_mem_nil _
    | append_singleton before chunk ih =>
      have settled := ih fun done later begins =>
        uncut done later (begins.trans (prefix_append _ _))
      obtain ⟨ended, same⟩ := settled_flatten settled
      have last := uncut (before ++ [chunk]) ['\\'] prefix_rfl
      rw [flatMap_append, flatten_append, same, scan_append, after_append, ended,
        flatMap_singleton, flatten_singleton, append_cancel_left_eq] at last
      refine forall_mem_append.mpr ⟨settled, forall_mem_singleton.mpr ?_⟩
      -- A backslash tells whether the text ended inside an escape sequence.
      revert last
      cases Mode.after .text chunk <;> decide
  · intro settled done later begins
    obtain ⟨ended, same⟩ := settled_flatten fun chunk member => settled chunk (begins.subset member)
    rw [ended, same]

/-- A color sequence after an escape character in a chunk of its own. -/
theorem split_escape_shows : ¬ Uncut [['\x1b'], ['[', '0', 'm']] := by
  rw [uncut_iff]
  decide

end

end Jackin.Workflow.Spool
