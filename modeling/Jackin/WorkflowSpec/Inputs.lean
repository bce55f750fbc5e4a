import Jackin.Foundation.Lexical
import Jackin.WorkflowSpec.Plan

/-!
# The input files of a workflow

Resolution reads the task and the references of a definition, as they are
written, relative to the directory of the workflow file, and the plan mounts
each of them under its written path.  So the mounts are inside their two
directories, and the files inside the workflow directory, as long as no
symbolic link is on the way, exactly when every written path is relative and
never leads above its start.
-/

namespace Jackin.WorkflowSpec

open List Foundation Result

/-! ## Resolution -/

theorem slash_ne_dot : '/' ≠ '.' := by decide

/-- The paths of the host are texts. -/
def unixPath : Alphabet Char where
  separator := '/'
  dot := '.'
  distinct := slash_ne_dot

abbrev HostPath := List Char

/-- What the resolution finds on the disk, and how it digests it. -/
structure Disk where
  /-- The text of the symbolic link at a place. -/
  link : Path.Place Char → Option HostPath
  maxLinks : Nat
  content : Path.Place Char → Option (List UInt8)
  /-- The files of the bundle directory in order, if it can be read. -/
  bundle : Option (List (String × Option (List UInt8)))
  sha256Hex : List UInt8 → String
  bundleManifestDigest : List (String × String) → String

/-- The place that a path leads to through the links. -/
def Disk.locate (disk : Disk) (path : HostPath) : Option (Path.Place Char) :=
  Path.resolve unixPath disk.link (disk.maxLinks + 1) [] (Path.steps unixPath path)

/-- `fs::read` -/
def Disk.read (disk : Disk) (path : HostPath) : Option (List UInt8) :=
  (disk.locate path).bind disk.content

structure FileResolution where
  /-- The directory of the workflow file. -/
  dir : HostPath
  fileLabel : String
  checkBundleDir : String
  checkImageDigest : String
  moduleDigests : List (String × String)
  repository : RepositoryInput
  selections : Selections

/-- `MAX_BUNDLE_BYTES` -/
def maxBundleBytes : Nat := 16 * 1024 * 1024

section

variable (disk : Disk) (resolution : FileResolution)

/-- The file that is read for a written path. -/
def inputPath (logical : String) : HostPath :=
  Path.join unixPath resolution.dir logical.toList

def freezeFile (logical : String) : WorkflowResult FrozenInput := do
  let path := inputPath resolution logical
  let bytes ← present (disk.read path) (single resolution.fileLabel logical .missingInput
      s!"cannot read input file `{logical}`"
      ("create " ++ String.ofList path ++ " relative to the workflow file"))
  return ⟨logical, bytes, disk.sha256Hex bytes⟩

/-- The loop over the bundle, with the number of bytes so far. -/
def freezeBundle (total : Nat) :
    List (String × Option (List UInt8)) → WorkflowResult (List FrozenInput)
  | [] => return []
  | (name, content) :: rest => do
    let bytes ← present content (single resolution.fileLabel "checks.bundle" .missingInput
        s!"cannot read test bundle file `{name}`"
        "repair the bundle directory permissions and retry")
    require (total + bytes.length ≤ maxBundleBytes) (invalid resolution.fileLabel "checks.bundle"
        "test bundle exceeds 16MiB" "shrink the frozen test bundle")
    return ⟨name, bytes, disk.sha256Hex bytes⟩ :: (← freezeBundle (total + bytes.length) rest)

def resolveWorkflowFiles (checked : CheckedDefinition) : WorkflowResult ResolvedInputs := do
  let task ← freezeFile disk resolution checked.head.task
  let references ← checked.head.references.mapM (freezeFile disk resolution)
  let bundle := checked.checks.bundle
  let directory := resolution.checkBundleDir
  let entries ← present disk.bundle (single resolution.fileLabel "checks.bundle" .missingInput
      s!"cannot read test bundle `{bundle}`"
      s!"provide the frozen bundle directory at {directory}")
  let files ← freezeBundle disk resolution 0 entries
  require (files ≠ []) (single resolution.fileLabel "checks.bundle" .missingInput
      s!"test bundle `{bundle}` is empty"
      s!"place the frozen test files in {directory}")
  return {
    task
    references
    testBundleName := bundle
    testBundle := files
    testBundleDigest := disk.bundleManifestDigest
      (files.map fun frozen => (frozen.logicalPath, frozen.digest))
    checkImageDigest := resolution.checkImageDigest
    repository := resolution.repository
    moduleDigests := resolution.moduleDigests
    selections := resolution.selections }

end

/-! ## Containment -/

/-- A mount path is inside a directory of the sandbox. -/
def MountedIn (directory : String) (input : InputFile) : Prop :=
  Path.Inside unixPath directory.toList input.mountPath.toList

/-- The paths that a definition writes. -/
def writtenPaths (checked : CheckedDefinition) : List String :=
  checked.head.task :: checked.head.references

/-- No component of the path is a symbolic link, from this directory on. -/
def Disk.Unlinked (disk : Disk) (directory : Path.Place Char)
    (written : String) : Prop :=
  (Path.advance unixPath disk.link directory (Path.steps unixPath written.toList)).2 = none

/--
Whatever the directory and the disk are, the files that are read as inputs
are inside the directory, if no link leads elsewhere, and every plan mounts
them inside its directories.
-/
def Contained (checked : CheckedDefinition) : Prop :=
  ∀ (disk : Disk) (resolution : FileResolution) (inputs : ResolvedInputs),
    resolveWorkflowFiles disk resolution checked = .ok inputs →
      (∀ directory, disk.locate resolution.dir = some directory →
        (∀ written ∈ writtenPaths checked, disk.Unlinked directory written) →
        ∀ input ∈ inputs.task :: inputs.references,
          ∃ place ∈ disk.locate (inputPath resolution input.logicalPath),
            Path.Below directory place) ∧
      ∀ (file : String) (grant : HostGrant) (planHash : ExecutionPlan → WorkflowResult String)
        (plan : ExecutionPlan),
        compilePlan file checked grant planHash inputs = .ok plan →
          MountedIn "/work/task" plan.task ∧
            ∀ reference ∈ plan.references, MountedIn "/work/references" reference

theorem freezeFile_logicalPath (freezes : freezeFile disk resolution logical = .ok frozen) :
    frozen.logicalPath = logical := by
  simp only [freezeFile, bind_eq_ok, pure_eq_ok] at freezes
  obtain ⟨_, _, rfl⟩ := freezes
  rfl

theorem freezeFiles_logicalPath {logicals : List String}
    (freezes : logicals.mapM (freezeFile disk resolution) = .ok frozen) :
    frozen.map FrozenInput.logicalPath = logicals := by
  induction logicals generalizing frozen with
  | nil =>
    rw [mapM_nil, pure_eq_ok] at freezes
    rw [← freezes]
    rfl
  | cons logical rest ih =>
    rw [mapM_cons] at freezes
    simp only [bind_eq_ok, pure_eq_ok] at freezes
    obtain ⟨_, one, _, all, rfl⟩ := freezes
    rw [map_cons, freezeFile_logicalPath one, ih all]

/-- The inputs stand under the paths that the definition writes. -/
theorem resolved_logicalPaths
    (resolves : resolveWorkflowFiles disk resolution checked = .ok inputs) :
    (inputs.task :: inputs.references).map FrozenInput.logicalPath =
      writtenPaths checked := by
  simp only [resolveWorkflowFiles, bind_eq_ok, pure_eq_ok] at resolves
  obtain ⟨_, task, _, references, _, _, _, _, _, _, rfl⟩ := resolves
  rw [map_cons, freezeFile_logicalPath task, freezeFiles_logicalPath references]
  rfl

/-- A disk without links on which every path leads to a file. -/
def fullDisk : Disk where
  link := fun _ => none
  maxLinks := 40
  content := fun _ => some []
  bundle := some [("test", some [])]
  sha256Hex := fun _ => ""
  bundleManifestDigest := fun _ => ""

def sampleResolution : FileResolution where
  dir := "/home/flow".toList
  fileLabel := "repair.pkl"
  checkBundleDir := "/bundles/unit"
  checkImageDigest := ""
  moduleDigests := []
  repository := sampleInputs.repository
  selections := sampleInputs.selections

theorem fullDisk_locate (path : HostPath) :
    fullDisk.locate path = some (Path.lexical unixPath path) :=
  Path.resolve_linkless

theorem fullDisk_resolves (resolution : FileResolution)
    (checked : CheckedDefinition) :
    ∃ inputs, resolveWorkflowFiles fullDisk resolution checked = .ok inputs := by
  have one : freezeFile fullDisk resolution = fun logical => .ok ⟨logical, [], ""⟩ := by
    funext logical
    rw [freezeFile, Disk.read, fullDisk_locate]
    rfl
  have frozen (logicals : List String) :
      logicals.mapM (fun logical => (.ok ⟨logical, [], ""⟩ : WorkflowResult FrozenInput)) =
        .ok (logicals.map fun logical => ⟨logical, [], ""⟩) := mapM_pure
  rw [resolveWorkflowFiles, one, frozen]
  exact ⟨_, rfl⟩

/-- A path that descends without links is below its directory. -/
theorem located_below {disk : Disk} {resolution : FileResolution}
    {written : String}
    (located : disk.locate resolution.dir = some directory)
    (unlinked : disk.Unlinked directory written)
    (descends : Path.Descends unixPath written.toList) :
    ∃ place ∈ disk.locate (inputPath resolution written), Path.Below directory place := by
  obtain ⟨final, walked⟩ : ∃ final, Path.advance unixPath disk.link directory
      (Path.steps unixPath written.toList) = (final, none) := ⟨_, Prod.ext rfl unlinked⟩
  obtain ⟨names, leads⟩ := Path.foldl_follow_of_staysBelow [] directory descends
  refine ⟨final, ?_, names, (Path.foldl_of_advance walked).symm.trans leads⟩
  rw [Disk.locate, inputPath, Path.steps_join (Path.relative_of_descends descends)]
  exact Path.resolve_append located walked

theorem mountedIn_of_descends (below : mount.toList = Path.below unixPath directory.toList)
    (descends : Path.Descends unixPath input.logicalPath.toList) :
    MountedIn directory (inputFile mount input) := by
  have joined : (inputFile mount input).mountPath.toList =
      Path.join unixPath directory.toList input.logicalPath.toList := by
    rw [Path.join, if_neg (Path.relative_of_descends descends), ← below]
    exact String.toList_append
  rw [MountedIn, joined]
  exact Path.inside_join descends

/--
The input files and the mounts of a checked definition are contained, in
every directory it is resolved in and on every disk without links on the
way, if and only if the task and all references are relative paths that never
lead above their start.
-/
theorem inputs_contained_iff (checked : CheckedDefinition) :
    Contained checked ↔
      ∀ written ∈ writtenPaths checked, Path.Descends unixPath written.toList := by
  constructor
  · intro contained written member
    by_contra climbs
    obtain ⟨directory, outside⟩ :=
      Path.not_inside_of_not_descends 'x' (by decide) (by decide) climbs
    let resolution : FileResolution := { sampleResolution with dir := directory }
    obtain ⟨inputs, resolves⟩ := fullDisk_resolves resolution checked
    rw [← resolved_logicalPaths resolves] at member
    obtain ⟨input, listed, rfl⟩ := mem_map.mp member
    have unlinked : ∀ written ∈ writtenPaths checked,
        fullDisk.Unlinked (Path.lexical unixPath directory) written :=
      fun _ _ => congrArg Prod.snd Path.advance_linkless
    obtain ⟨place, located, below⟩ := (contained _ _ _ resolves).1 _
      (fullDisk_locate directory) unlinked input listed
    cases Option.mem_unique (fullDisk_locate _) located
    exact outside below
  · intro descends disk resolution inputs resolves
    have paths := resolved_logicalPaths resolves
    have each : ∀ input ∈ inputs.task :: inputs.references,
        Path.Descends unixPath input.logicalPath.toList := by
      intro input member
      apply descends
      rw [← paths]
      exact mem_map_of_mem member
    constructor
    · intro directory located unlinked input member
      refine located_below located (unlinked _ ?_) (each input member)
      rw [← paths]
      exact mem_map_of_mem member
    intro file grant planHash plan compiled
    simp only [compilePlan, bind_eq_ok, pure_eq_ok] at compiled
    obtain ⟨_, _, _, _, _, _, _, _, _, _, _, _, _, _, _, _, _, _, rfl⟩ := compiled
    constructor
    · exact mountedIn_of_descends rfl (each _ mem_cons_self)
    · intro reference member
      obtain ⟨_, listed, rfl⟩ := mem_map.mp member
      exact mountedIn_of_descends rfl (each _ (mem_cons_of_mem _ listed))

/-- A task in the sample's directory that is a link to a file elsewhere. -/
def linkedDisk : Disk where
  link := fun place =>
    if place = Path.lexical unixPath "/home/flow/key".toList then some "/etc/passwd".toList
    else none
  maxLinks := 40
  content := fun _ => some []
  bundle := some [("test", some [])]
  sha256Hex := fun _ => ""
  bundleManifestDigest := fun _ => ""

/-- The definition is valid, and its task is read outside its directory. -/
def Escapes (disk : Disk) (definition : Json) : Prop :=
  ∃ checked inputs directory place,
    validateDefinition "repair.pkl" definition = .ok checked ∧
    resolveWorkflowFiles disk sampleResolution checked = .ok inputs ∧
    disk.locate sampleResolution.dir = some directory ∧
    disk.locate (inputPath sampleResolution inputs.task.logicalPath) = some place ∧
    ¬Path.Below directory place

theorem not_below_of_not_suffix {directory place : Path.Place Char}
    (other : ¬directory <:+ place) : ¬Path.Below directory place := by
  rintro ⟨names, rfl⟩
  exact other (suffix_append _ _)

/--
Valid definitions that read a file of the host outside their directory, by
the text of the task or by a link, and one whose task is mounted outside its
directory of the sandbox.
-/
theorem sample_task_escapes :
    Escapes fullDisk (sampleDefinition "/etc/passwd") ∧
    Escapes linkedDisk (sampleDefinition "key") ∧
    ∃ checked inputs plan,
      validateDefinition "repair.pkl" (sampleDefinition "../key") = .ok checked ∧
      resolveWorkflowFiles fullDisk sampleResolution checked = .ok inputs ∧
      compilePlan "repair.pkl" checked sampleGrant (fun _ => .ok "hash") inputs = .ok plan ∧
      ¬MountedIn "/work/task" plan.task := by
  refine ⟨⟨_, _, _, _, rfl, rfl, rfl, rfl, ?_⟩, ⟨_, _, _, _, rfl, rfl, rfl, rfl, ?_⟩,
    ⟨_, _, _, rfl, rfl, rfl, ?_⟩⟩
  all_goals
    apply not_below_of_not_suffix
    decide +kernel

end Jackin.WorkflowSpec
