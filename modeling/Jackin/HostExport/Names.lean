import Mathlib
import Jackin.Foundation.Directory
import Jackin.Foundation.Text

/-!
# Names of exported files

A transfer names its file; the host cleans that name, appends a number until
the name is free in the export directory, and writes to a temporary name next
to it until the transfer is complete.

The stem and the extension of a name are those of `std::path::Path`.
-/

namespace Jackin.HostExport

open List Foundation

/-- A file name, as its characters. -/
abbrev FileName := List Char

/-! ## Stem and extension -/

/-- The parts of a name before and after its last dot. -/
def splitLastDot : FileName → Option (FileName × FileName)
  | [] => none
  | character :: rest =>
    match splitLastDot rest with
    | some (before, after) => some (character :: before, after)
    | none => if character = '.' then some ([], rest) else none

/-- `.` and `..` are not the name of a file. -/
def isFileName (name : FileName) : Bool :=
  name ≠ [] && name ≠ ['.'] && name ≠ ['.', '.']

/-- `Path::file_stem` of a single component. -/
def fileStem (name : FileName) : Option FileName :=
  if isFileName name then
    match splitLastDot name with
    | none => some name
    | some ([], _) => some name
    | some (before, _) => some before
  else none

/-- `Path::extension` of a single component. -/
def extension (name : FileName) : Option FileName :=
  if isFileName name then
    match splitLastDot name with
    | none => none
    | some ([], _) => none
    | some (_, after) => some after
  else none

/-- `Path::with_extension` for an extension that is not empty. -/
def withExtension (name ext : FileName) : FileName :=
  match fileStem name with
  | some stem => stem ++ '.' :: ext
  | none => name

/-- The name a transfer writes to before it is complete. -/
def temporaryName (final : FileName) : FileName :=
  withExtension final ((match extension final with
      | some ext => ext ++ ['.']
      | none => []) ++ "part".toList)

theorem splitLastDot_eq_some {name before after}
    (split : splitLastDot name = some (before, after)) :
    name = before ++ '.' :: after := by
  induction name generalizing before after with
  | nil => cases split
  | cons character rest ih =>
    rw [splitLastDot] at split
    cases later : splitLastDot rest with
    | some parts =>
      rw [later] at split
      obtain ⟨rfl, rfl⟩ := Prod.mk.inj (Option.some.inj split)
      rw [ih later, cons_append]
    | none =>
      rw [later] at split
      simp only [Option.ite_none_right_eq_some] at split
      obtain ⟨rfl, rfl, rfl⟩ := split
      rfl

/-- The temporary name is the final name with `.part` appended. -/
theorem temporaryName_eq (named : isFileName final) :
    temporaryName final = final ++ ".part".toList := by
  rw [temporaryName, withExtension, fileStem, extension, if_pos named, if_pos named]
  cases split : splitLastDot final with
  | none => rfl
  | some parts =>
    obtain ⟨before, _⟩ := parts
    cases before with
    | nil => rfl
    | cons character rest =>
      rw [splitLastDot_eq_some split]
      simp

theorem temporaryName_injective (firstNamed : isFileName first)
    (secondNamed : isFileName second)
    (same : temporaryName first = temporaryName second) :
    first = second := by
  rw [temporaryName_eq firstNamed, temporaryName_eq secondNamed] at same
  exact append_cancel_right same

theorem temporaryName_ne (named : isFileName final) :
    temporaryName final ≠ final := by
  rw [temporaryName_eq named]
  intro same
  have lengths := congrArg length same
  rw [length_append] at lengths
  have longer : ".part".toList.length = 5 := rfl
  omega

theorem isFileName_of_length (long : 2 < name.length) : isFileName name := by
  rw [isFileName]
  have notEmpty : name ≠ [] := by
    rintro rfl
    simp at long
  have notCurrent : name ≠ ['.'] := by
    rintro rfl
    simp at long
  have notParent : name ≠ ['.', '.'] := by
    rintro rfl
    simp at long
  simp [notEmpty, notCurrent, notParent]

theorem isFileName_temporaryName (named : isFileName final) :
    isFileName (temporaryName final) := by
  apply isFileName_of_length
  rw [temporaryName_eq named, length_append]
  have longer : ".part".toList.length = 5 := rfl
  omega

/-- Drop matching characters at both ends. -/
def trimMatches (matching : Char → Bool) (name : FileName) : FileName :=
  (name.dropWhile matching).rdropWhile matching

def sanitizeExportPathComponent (name fallback : FileName) : FileName :=
  let sanitized := name.map fun character =>
    if Text.isControl character || character == '/' || character == '\\' ||
        character == ':' || character == Char.ofNat 0 then
      '_'
    else character
  let trimmed :=
    trimMatches Text.isWhitespace (trimMatches (fun character =>
          character == '.' || character == ' ' || character == '\t')
        sanitized)
  if trimmed.isEmpty then fallback else trimmed.take 255

def sanitizeExportFileName (name : FileName) : FileName :=
  sanitizeExportPathComponent name "jackin-export.bin".toList

/-! ## Free names -/

/-- What a directory entry stands for. -/
inductive Node where
  | file (inode : Nat)
  | directory
  deriving DecidableEq

/--
`Path::exists` of a component below the directory.  The directory itself and
its parent exist.
-/
def pathExists (root : Directory FileName Node) (name : FileName) : Bool :=
  !isFileName name || (root.find? name).isSome

/-- The numbered variant of a name that is taken. -/
def numberedName (fileName : FileName) (index : Nat) : FileName :=
  let stem :=
    match fileStem fileName with
    | some stem => if stem.isEmpty then "jackin-export".toList else stem
    | none => "jackin-export".toList
  let numbered := stem ++ '-' :: Nat.toDigits 10 index
  match extension fileName with
  | some ext => if ext.isEmpty then numbered else numbered ++ '.' :: ext
  | none => numbered

/-- The first numbered name that is free, counting up for so many tries. -/
def firstFree (root : Directory FileName Node)
    (fileName : FileName) : Nat → Nat → FileName
  | 0, index => numberedName fileName index
  | tries + 1, index =>
    if pathExists root (numberedName fileName index) then firstFree root fileName tries (index + 1)
    else numberedName fileName index

/--
The source counts up without a bound; one try more than there are entries
always suffices (`firstFree_free`).
-/
def uniqueExportName (root : Directory FileName Node)
    (fileName : FileName) : FileName :=
  if pathExists root fileName then firstFree root fileName root.rows.length 1
  else fileName

/-- Numbered names differ only in their numeral, which follows a dash. -/
theorem numberedName_eq :
    ∃ stem ending : FileName, ∀ index,
      numberedName fileName index =
        stem ++ '-' :: (Nat.toDigits 10 index ++ ending) := by
  let stem :=
    match fileStem fileName with
    | some stem => if stem.isEmpty then "jackin-export".toList else stem
    | none => "jackin-export".toList
  have plain : ∀ index, stem ++ '-' :: Nat.toDigits 10 index =
      stem ++ '-' :: (Nat.toDigits 10 index ++ []) := by
    intro index
    rw [append_nil]
  cases found : extension fileName with
  | none =>
    refine ⟨stem, [], fun index => ?_⟩
    rw [numberedName, found]
    exact plain index
  | some ext =>
    cases ext with
    | nil =>
      refine ⟨stem, [], fun index => ?_⟩
      rw [numberedName, found]
      exact plain index
    | cons character rest =>
      refine ⟨stem, '.' :: character :: rest, fun index => ?_⟩
      rw [numberedName, found]
      exact append_assoc stem _ _

theorem numberedName_injective :
    Function.Injective (numberedName fileName) := by
  intro first second same
  obtain ⟨_, _, shape⟩ := numberedName_eq
  rw [shape first, shape second] at same
  have numerals := (cons.inj (append_cancel_left same)).2
  have digits := append_cancel_right numerals
  have parsed := congrArg (fun digits => Nat.ofDigitChars 10 digits 0) digits
  simpa using parsed

theorem isFileName_numberedName : isFileName (numberedName fileName index) := by
  obtain ⟨_, _, shape⟩ := numberedName_eq
  have dash : '-' ∈ numberedName fileName index := by
    rw [shape index]
    exact mem_append_right _ mem_cons_self
  generalize numberedName fileName index = name at dash
  rw [isFileName]
  have notEmpty : name ≠ [] := ne_nil_of_mem dash
  have notCurrent : name ≠ ['.'] := by
    rintro rfl
    simp at dash
  have notParent : name ≠ ['.', '.'] := by
    rintro rfl
    simp at dash
  simp [notEmpty, notCurrent, notParent]

/-- As many numbered names as there are tries are taken, or one is free. -/
theorem firstFree_taken (taken : pathExists root (firstFree root fileName tries index)) :
    ∀ offset ≤ tries, pathExists root (numberedName fileName (index + offset)) := by
  induction tries generalizing index with
  | zero =>
    intro offset within
    rwa [Nat.le_zero.mp within]
  | succ tries ih =>
    rw [firstFree] at taken
    split at taken
    · rename_i firstTaken
      intro offset within
      cases offset with
      | zero => exact firstTaken
      | succ offset =>
        have later := ih taken offset (Nat.le_of_succ_le_succ within)
        rwa [Nat.add_right_comm] at later
    · rename_i free
      exact absurd taken free

/-- The search ends at a free name. -/
theorem firstFree_free :
    pathExists root (firstFree root fileName root.rows.length index) = false := by
  rw [Bool.eq_false_iff]
  intro taken
  have allTaken := firstFree_taken taken
  let tried : List FileName :=
    (range (root.rows.length + 1)).map (fun offset => numberedName fileName (index + offset))
  have distinct : tried.Nodup := by
    apply Nodup.map _ nodup_range
    intro first second same
    exact Nat.add_left_cancel (numberedName_injective same)
  have listed : tried ⊆ root.names := by
    intro name member
    obtain ⟨offset, bound, rfl⟩ := mem_map.mp member
    have taken := allTaken offset (Nat.le_of_lt_succ (mem_range.mp bound))
    rw [pathExists, isFileName_numberedName, Bool.not_true] at taken
    obtain ⟨_, found⟩ := Option.isSome_iff_exists.mp taken
    rw [← Table.key_of_find? found]
    exact mem_map_of_mem (Table.mem_of_find? found)
  have fewer := (subperm_of_subset distinct listed).length_le
  rw [Directory.names, length_map, length_map, length_range] at fewer
  omega

/-- The chosen name is a file name without an entry. -/
theorem uniqueExportName_free :
    isFileName (uniqueExportName root fileName) ∧
      root.find? (uniqueExportName root fileName) = none := by
  have free : pathExists root (uniqueExportName root fileName) = false := by
    unfold uniqueExportName
    split
    · exact firstFree_free
    · rename_i absent
      exact Bool.eq_false_iff.mpr absent
  simpa [pathExists] using free

end Jackin.HostExport
