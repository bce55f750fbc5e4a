import Jackin.Foundation.Path
import Jackin.HostExport.Transfers

/-!
# Exported files stay below the export directory

The name of an exported file comes from the container.  Cleaning replaces the
separators, but trimming white space last can leave `.` or `..`; such a name
is never used, because the directory and its parent exist and the search for a
free name goes on to a numbered one.

The chosen paths are texts, and the results are about their components.  A
dangling link counts as free.
-/

namespace Jackin.HostExport

open List Foundation FileExportStart

variable {name : FileName}

/-- The separator and the dot of a Unix path. -/
def unix : Alphabet Char where
  separator := '/'
  dot := '.'
  distinct := by decide

theorem subset_of_fileStem (found : fileStem name = some stem) :
    stem ⊆ name := by
  rw [fileStem] at found
  split at found
  · split at found
    · cases found
      exact Subset.refl _
    · cases found
      exact Subset.refl _
    · rename_i before after _ divided
      cases found
      rw [splitLastDot_eq_some divided]
      exact subset_append_left _ _
  · cases found

theorem subset_of_extension (found : extension name = some ext) :
    ext ⊆ name := by
  rw [extension] at found
  split at found
  · split at found
    · cases found
    · cases found
    · rename_i before after _ divided
      cases found
      rw [splitLastDot_eq_some divided]
      exact subset_append_of_subset_right _ (subset_cons_self _ _)
  · cases found

theorem trimMatches_subset : trimMatches matching name ⊆ name := by
  intro character member
  have front := rdropWhile_prefix matching (name.dropWhile matching)
  exact (dropWhile_suffix matching).subset (front.subset member)

theorem separator_notMem_sanitized (name : FileName) :
    '/' ∉ sanitizeExportFileName name := by
  have cleaned : ∀ names : FileName, '/' ∉ names.map fun character =>
        if Text.isControl character || character == '/' || character == '\\' ||
            character == ':' || character == Char.ofNat 0 then
          '_'
        else character := by
    intro names member
    obtain ⟨_, _, same⟩ := mem_map.mp member
    split at same
    · cases same
    · rename_i kept
      subst same
      simp at kept
  rw [sanitizeExportFileName, sanitizeExportPathComponent]
  split
  · decide
  · intro member
    exact cleaned name (trimMatches_subset (trimMatches_subset (mem_of_mem_take member)))

theorem separator_notMem_numberedName (undivided : '/' ∉ name) (index : Nat) :
    '/' ∉ numberedName name index := by
  have digits : '/' ∉ Nat.toDigits 10 index := by
    intro member
    have digit := Nat.isDigit_of_mem_toDigits (by decide) (by decide) member
    cases digit
  unfold numberedName
  extract_lets stem numbered
  have stemmed : '/' ∉ stem := by
    unfold stem
    split
    · rename_i own found
      split
      · decide
      · exact fun member => undivided (subset_of_fileStem found member)
    · decide
  have free : '/' ∉ numbered := by
    rw [mem_append, mem_cons]
    rintro (member | same | member)
    · exact stemmed member
    · cases same
    · exact digits member
  split
  · rename_i ext found
    split
    · exact free
    · rw [mem_append, mem_cons]
      rintro (member | same | member)
      · exact free member
      · cases same
      · exact undivided (subset_of_extension found member)
  · exact free

theorem separator_notMem_firstFree (undivided : '/' ∉ name)
    (tries index : Nat) :
    '/' ∉ firstFree root name tries index := by
  induction tries generalizing index with
  | zero => exact separator_notMem_numberedName undivided index
  | succ tries ih =>
    rw [firstFree]
    split
    · exact ih (index + 1)
    · exact separator_notMem_numberedName undivided index

theorem ordinary_of_isFileName (named : isFileName name)
    (undivided : '/' ∉ name) :
    Path.Ordinary unix name := by
  simp only [isFileName, Bool.and_eq_true, decide_eq_true_eq] at named
  exact ⟨named.1.1, named.1.2, named.2, undivided⟩

/-- The name a transfer will publish under is one normal component. -/
theorem ordinary_finalName (start : FileExportStart) (exports : Exports) :
    Path.Ordinary unix (start.finalName exports) := by
  have cleaned := separator_notMem_sanitized start.fileName
  apply ordinary_of_isFileName
  · exact uniqueExportName_free.1
  · rw [finalName, uniqueExportName]
    split
    · exact separator_notMem_firstFree cleaned _ _
    · exact cleaned

theorem ordinary_temporaryName (ordinary : Path.Ordinary unix final) :
    Path.Ordinary unix (temporaryName final) := by
  have named : isFileName final := by
    simp only [isFileName, Bool.and_eq_true, decide_eq_true_eq]
    exact ⟨⟨ordinary.notEmpty, ordinary.notCurrent⟩, ordinary.notParent⟩
  apply ordinary_of_isFileName (isFileName_temporaryName named)
  rw [temporaryName_eq named, mem_append]
  rintro (member | member)
  · exact ordinary.undivided member
  · exact absurd member (by decide)

/-- `unique_export_path`. -/
def uniqueExportPath (rootPath : List Char) (root : Directory FileName Node)
    (fileName : FileName) : List Char :=
  Path.join unix rootPath (uniqueExportName root fileName)

/-- `Path::extension`. -/
def pathExtension (path : List Char) : Option FileName :=
  (Path.fileName unix path).bind extension

/-- `Path::with_extension` for an extension that is not empty. -/
def pathWithExtension (path ext : List Char) : List Char :=
  match Path.fileName unix path with
  | none => path
  | some name => (Path.splitLast unix path).1 ++ withExtension name ext

/-- The path a transfer writes to before it is complete. -/
def temporaryPath (finalPath : List Char) : List Char :=
  pathWithExtension finalPath ((match pathExtension finalPath with
      | some ext => ext ++ ['.']
      | none => []) ++ "part".toList)

/-- A path with exactly one component more, which is an ordinary name. -/
def IsChild (rootPath path : List Char) : Prop :=
  ∃ name, Path.Ordinary unix name ∧
    Path.components unix path = Path.components unix rootPath ++ [.normal name]

theorem isChild_join (ordinary : Path.Ordinary unix name) :
    IsChild rootPath (Path.join unix rootPath name) :=
  ⟨name, ordinary, Path.components_join ordinary⟩

/-- Changing the extension of a path changes the name of the child. -/
theorem temporaryPath_join (rootPath : List Char)
    (ordinary : Path.Ordinary unix final) :
    temporaryPath (Path.join unix rootPath final) =
      Path.join unix rootPath (temporaryName final) := by
  have changed := ordinary_temporaryName ordinary
  rw [temporaryPath, pathWithExtension, pathExtension, Path.fileName_join ordinary,
    Path.join_of_ordinary changed, Path.join_of_ordinary ordinary, Path.splitLast_child ordinary]
  rfl

/-- What a start adds to the transfers under way, if it adds anything. -/
theorem startInRoot_adds (start : FileExportStart) (now : Nat)
    (exports : Exports) :
    Script.Outcomes (fun _ => True) (startInRoot start now) exports
      (fun _ reached => ∀ active ∈ reached.active.rows, active ∈ exports.active.rows ∨
          (active.finalName = start.finalName exports ∧
            active.temporary = temporaryName (start.finalName exports)))
      (fun _ reached => reached.active = exports.active)
      (·.active = exports.active) := by
  apply Script.Outcomes.glance
  apply Script.Outcomes.ensure
  case refused => exact fun _ => rfl
  intro fresh
  apply Script.Outcomes.bind
  apply Script.Steady.whole (fun _ => rfl)
  · rfl
  · rfl
  rintro _ _ ⟨⟩
  apply Script.Outcomes.glance
  apply Script.Outcomes.bind
  apply Script.Steady.perform
  case parts => exact fun _ => rfl
  case refuses =>
    intro failure reached completes
    rw [createNew_error completes]
  case works =>
    intro file reached completes
    obtain ⟨_, rfl, rfl⟩ := createNew_ok completes
    refine ⟨rfl, fun fates _ active member => ?_⟩
    rw [Table.mem_rows_iff] at member
    have found := Exports.find?_keep.symm.trans member
    split at found
    · cases found
      exact .inr ⟨rfl, rfl⟩
    · exact .inl (Table.mem_rows_iff.mpr found)

/--
Whatever name a container sends and whatever the export directory holds, the
final path and the temporary path are children of the export directory, and
they are the paths of every transfer that the call adds.
-/
theorem export_paths_are_children (rootPath : List Char) (exports : Exports)
    (start : FileExportStart) (now : Nat) (fates : List Fate) :
    let final := uniqueExportPath rootPath exports.root (sanitizeExportFileName start.fileName)
    IsChild rootPath final ∧ IsChild rootPath (temporaryPath final) ∧
      ∀ active ∈ (startInRoot start now exports fates).world.active.rows,
        active ∈ exports.active.rows ∨ (Path.join unix rootPath active.finalName = final ∧
            Path.join unix rootPath active.temporary = temporaryPath final) := by
  have ordinary := ordinary_finalName start exports
  have temporary := temporaryPath_join rootPath ordinary
  refine ⟨isChild_join ordinary, ?_, ?_⟩
  · rw [uniqueExportPath, ← finalName, temporary]
    exact isChild_join (ordinary_temporaryName ordinary)
  · intro active member
    have ends := startInRoot_adds start now exports fates (fun _ _ => trivial)
    unfold Script.Meets at ends
    split at ends
    · rcases ends active member with old | ⟨final, named⟩
      · exact .inl old
      · refine .inr ⟨?_, ?_⟩
        · rw [final]
          rfl
        · rw [named, uniqueExportPath, ← finalName, temporary]
    · exact .inl (ends ▸ member)
    · exact .inl (ends ▸ member)

/-- A name that is cleaned to `..` is not used. -/
example :
    sanitizeExportFileName [Char.ofNat 0xA0, '.', '.', Char.ofNat 0xA0] = "..".toList ∧
      uniqueExportName Table.empty "..".toList = "jackin-export-1".toList := by
  decide

end Jackin.HostExport
