import Jackin.Foundation.Directory
import Jackin.Foundation.Script

/-!
# Publishing configuration files

The configuration is one global file and one file for each workspace.  Every
new content is staged in a temporary file next to its target, a journal lists
the renames and deletions that publish them, and only then are these carried
out.  When one of them fails, the contents already published are staged back,
and a journal that undoes them replaces the first one.  Whatever journal a
later process finds, it carries out.

Contents are abstract.  A temporary file that is not written completely holds
an arbitrary part of its content.
-/

namespace Jackin.Config

open Foundation Script

/-! ## Files -/

/-- `config.toml`, or `NAME.toml` below `workspaces`. -/
inductive ConfigName where
  | global
  | workspace (name : String)
  deriving DecidableEq

/-- The files that are put in place by a rename. -/
inductive Published where
  | config (name : ConfigName)
  | journal
  deriving DecidableEq

/--
Every file of the configuration: a published one, or a temporary one with the
name of a published one followed by `.tmp.PID.COUNTER`.
-/
inductive FileName where
  | published (file : Published)
  | staged (file : Published) (pid counter : Nat)
  deriving DecidableEq

/-- The directories of the configuration. -/
inductive Folder where
  | config
  | workspaces
  deriving DecidableEq

def Published.parent : Published → Folder
  | .config .global => .config
  | .config (.workspace _) => .workspaces
  | .journal => .config

/-- The published file a name belongs to. -/
def FileName.about : FileName → Published
  | .published file => file
  | .staged file _ _ => file

def FileName.parent (name : FileName) : Folder := name.about.parent

inductive Node (Content : Type) where
  | file (content : Content)
  | directory

/-- The configuration directories, and the process that works on them. -/
structure Disk (Content : Type) where
  directory : Directory FileName (Node Content)
  pid : Nat
  /-- `TMP_COUNTER`. -/
  counter : Nat

/-- One step of a publication. -/
inductive PublicationOp (Digest : Type) where
  | write (target tmp : FileName) (expectedSha256 : Digest)
  | delete (target : FileName)

/-- The steps that a recovery repeats. -/
structure PublicationJournal (Digest : Type) where
  version : Nat
  ops : List (PublicationOp Digest)

def publicationJournalVersion : Nat := 2

/-- How contents are digested and journals are written. -/
structure Coding (Content Digest : Type) where
  digest : Content → Digest
  encode : PublicationJournal Digest → Content
  decode : Content → Option (PublicationJournal Digest)
  decode_encode : ∀ journal, decode (encode journal) = some journal
  /-- The content of a new file. -/
  empty : Content
  /-- What is in a file when the write of a content stops early. -/
  part : Nat → Content → Content

inductive Failure where
  | io
  | notFound
  | notRegularFile (target : FileName)
  | corruptJournal
  | unsupportedVersion (version : Nat)
  | notSibling (tmp target : FileName)
  | stagedFileGone (target tmp : FileName)
  | generationMismatch (path : FileName)
  | cannotRestore (target : FileName)
  | journalNotRemoved
  | rollbackFailed (cause : Failure) (failures : List Failure)

/-- What the program does on the disk. -/
abbrev Action (Content : Type) := Script (Disk Content) Failure

section

variable {Content Digest : Type} [DecidableEq Digest]

namespace Disk

def node? (disk : Disk Content) (name : FileName) : Option (Node Content) :=
  disk.directory.node? name

def store (disk : Disk Content) (name : FileName)
    (node : Node Content) : Disk Content :=
  { disk with directory := disk.directory.store name node }

def drop (disk : Disk Content) (name : FileName) : Disk Content :=
  { disk with directory := disk.directory.drop name }

def move (disk : Disk Content) (source target : FileName)
    (node : Node Content) : Disk Content :=
  { disk with directory := disk.directory.move source target node }

def count (disk : Disk Content) : Disk Content := { disk with counter := disk.counter + 1 }

end Disk

/-- A call without an effect on what is modelled. -/
def settle : Operation (Disk Content) Failure Unit where
  complete := fun disk => (.ok (), disk)
  failure := .io

def metadata (name : FileName) : Operation (Disk Content) Failure (Option (Node Content)) where
  complete := fun disk => (.ok (disk.node? name), disk)
  failure := .io

def readFile (name : FileName) : Operation (Disk Content) Failure Content where
  complete := fun disk =>
    match disk.node? name with
    | some (.file content) => (.ok content, disk)
    | some .directory => (.error .io, disk)
    | none => (.error .notFound, disk)
  failure := .io

/-- `read_dir`, as the names it lists. -/
def readFolder (folder : Folder) : Operation (Disk Content) Failure (List FileName) where
  complete := fun disk => (.ok (disk.directory.names.filter (·.parent = folder)), disk)
  failure := .io

/-- Create a file that does not exist. -/
def createNew (name : FileName)
    (empty : Content) : Operation (Disk Content) Failure Unit where
  complete := fun disk =>
    match disk.node? name with
    | some _ => (.error .io, disk)
    | none => (.ok (), disk.store name (.file empty))
  failure := .io

/-- Write a whole content to an open file. -/
def writeAll (part : Nat → Content → Content) (name : FileName)
    (content : Content) : Operation (Disk Content) Failure Unit where
  complete := fun disk => (.ok (), disk.store name (.file content))
  partly := fun extent disk => disk.store name (.file (part extent content))
  failure := .io

def removeFile (name : FileName) : Operation (Disk Content) Failure Unit where
  complete := fun disk =>
    match disk.node? name with
    | some (.file _) => (.ok (), disk.drop name)
    | some .directory => (.error .io, disk)
    | none => (.error .notFound, disk)
  failure := .io

def Node.isDirectory : Node Content → Bool
  | .file _ => false
  | .directory => true

def rename : FileName → FileName → Operation (Disk Content) Failure Unit :=
  Directory.renameNode Disk.directory
    (fun disk directory => { disk with directory }) Node.isDirectory .notFound .io

def syncParent : Action Content Unit := do
  perform settle
  perform settle

/-! ## Staging -/

/-- What stood at the target before. -/
inductive TargetState (Content : Type) where
  | missing
  | file (content : Content)
  | other

/-- A write whose content is staged beside its target. -/
structure StagedWrite (Content Digest : Type) where
  target : Published
  tmp : FileName
  original : TargetState Content
  expectedSha256 : Digest
  recoveryOwned : Bool
  committed : Bool

/-- A deletion that can be undone. -/
structure StagedDelete (Content : Type) where
  target : Published
  original : Content
  committed : Bool

/-- Errors are taken for something that is not a regular file. -/
def targetState (path : Published) : Action Content (TargetState Content) := do
  match ← attempt (perform (metadata (.published path))) with
  | .ok none => pure .missing
  | .ok (some .directory) => pure .other
  | .ok (some (.file _)) => do
    match ← attempt (perform (readFile (.published path))) with
    | .ok content => pure (.file content)
    | .error _ => pure .other
  | .error _ => pure .other

variable (coding : Coding Content Digest)

def stageWrite (tmp : FileName) (contents : Content) : Action Content Unit := do
  perform (createNew tmp coding.empty)
  match ← attempt (do
      perform (writeAll coding.part tmp contents)
      perform settle) with
  | .ok _ => pure ()
  | .error failure => do
    let _ ← attempt (perform (removeFile tmp))
    fail failure

def stageAtomicWriteBytes (path : Published) (contents : Content) :
    Action Content (StagedWrite Content Digest) := do
  perform settle
  let original ← targetState path
  let tmp ← glance fun disk => .staged path disk.pid disk.counter
  adjust Disk.count
  stageWrite coding tmp contents
  pure {
    target := path
    tmp
    original
    expectedSha256 := coding.digest contents
    recoveryOwned := false
    committed := false }

variable (writes : List (StagedWrite Content Digest))
    (deletes : List (StagedDelete Content))
    (write : StagedWrite Content Digest)

/-- What becomes of a staged file that goes out of scope. -/
def StagedWrite.release : Action Content Unit := do
  if write.recoveryOwned = false ∧ write.committed = false then
    let _ ← attempt (perform (removeFile write.tmp))
    pure ()
  else pure ()

def releaseAll : List (StagedWrite Content Digest) → Action Content Unit
  | [] => pure ()
  | write :: rest => do
    write.release
    releaseAll rest

/-- The staged file as the commit leaves it, and how the commit ended. -/
def StagedWrite.commit :
    Action Content (StagedWrite Content Digest × Except Failure Unit) := do
  match ← attempt (perform (rename write.tmp (.published write.target))) with
  | .error failure => pure (write, .error failure)
  | .ok _ => do
    let result ← attempt syncParent
    pure ({ write with committed := true }, result)

def StagedDelete.commit (delete : StagedDelete Content) :
    Action Content (StagedDelete Content × Except Failure Unit) := do
  match ← attempt (perform (removeFile (.published delete.target))) with
  | .error failure => pure (delete, .error failure)
  | .ok _ => do
    let result ← attempt syncParent
    pure ({ delete with committed := true }, result)

def atomicWrite (path : Published)
    (contents : Content) : Action Content Unit := do
  let staged ← stageAtomicWriteBytes coding path contents
  let (staged, result) ← staged.commit
  staged.release
  lift result

/-! ## The journal -/

def StagedWrite.op : PublicationOp Digest :=
  .write (.published write.target) write.tmp write.expectedSha256

def StagedDelete.op (delete : StagedDelete Content) : PublicationOp Digest :=
  .delete (.published delete.target)

def publicationOps : List (PublicationOp Digest) :=
  writes.map StagedWrite.op ++ deletes.map StagedDelete.op

def writePublicationOps (ops : List (PublicationOp Digest)) : Action Content Unit :=
  atomicWrite coding .journal (coding.encode ⟨publicationJournalVersion, ops⟩)

def removePublicationJournal : Action Content Unit := do
  match ← attempt (perform (removeFile (.published .journal))) with
  | .ok _ => syncParent
  | .error .notFound => syncParent
  | .error _ => fail .journalNotRemoved

def ensureReplaceableTarget (path : FileName) : Action Content Unit := do
  match ← perform (metadata path) with
  | some .directory => fail (.notRegularFile path)
  | _ => pure ()

def verifyPublicationBytes (path : FileName) (expected : Digest) :
    Action Content Unit := do
  let content ← perform (readFile path)
  ensure (coding.digest content = expected) (.generationMismatch path)

def isFile (disk : Disk Content) (path : FileName) : Bool :=
  match disk.node? path with
  | some (.file _) => true
  | _ => false

/-- Write what is staged, or check that it was written before. -/
def applyWrite (target tmp : FileName)
    (expected : Digest) : Action Content Unit := do
  ensure (tmp.parent = target.parent) (.notSibling tmp target)
  if ← glance fun disk => (disk.node? tmp).isSome then
    verifyPublicationBytes coding tmp expected
    ensureReplaceableTarget target
    perform (rename tmp target)
    syncParent
  else if ← glance fun disk => isFile disk target then
    verifyPublicationBytes coding target expected
    syncParent
  else fail (.stagedFileGone target tmp)

def applyDelete (target : FileName) : Action Content Unit := do
  match ← attempt (perform (removeFile target)) with
  | .ok _ => syncParent
  | .error .notFound => syncParent
  | .error failure => fail failure

def applyPublicationOp : PublicationOp Digest → Action Content Unit
  | .write target tmp expected => applyWrite coding target tmp expected
  | .delete target => applyDelete target

def isStagedGarbage : FileName → Bool
  | .published _ => false
  | .staged _ _ _ => true

def collectListed (listed : List FileName) : List FileName → Action Content Unit
  | [] => pure ()
  | name :: rest => do
    if isStagedGarbage name ∧ name ∉ listed then
      let _ ← attempt (perform (removeFile name))
      collectListed listed rest
    else collectListed listed rest

def collectFolder (listed : List FileName) (folder : Folder) :
    Action Content Unit := do
  match ← attempt (perform (readFolder folder)) with
  | .ok names => collectListed listed names
  | .error _ => pure ()

def collectStagedGarbage (listed : List FileName) : Action Content Unit := do
  collectFolder listed .config
  collectFolder listed .workspaces

def applyAll (coding : Coding Content Digest) : List (PublicationOp Digest) → Action Content Unit
  | [] => pure ()
  | op :: rest => do
    applyPublicationOp coding op
    applyAll coding rest

def PublicationOp.tmp? : PublicationOp Digest → Option FileName
  | .write _ tmp _ => some tmp
  | .delete _ => none

def recoverJournal (journal : PublicationJournal Digest) : Action Content Unit := do
  ensure (journal.version = publicationJournalVersion) (.unsupportedVersion journal.version)
  applyAll coding journal.ops
  collectStagedGarbage (journal.ops.filterMap PublicationOp.tmp?)
  removePublicationJournal

def recoverPendingPublication : Action Content Unit := do
  match ← attempt (perform (readFile (.published .journal))) with
  | .error .notFound => collectStagedGarbage []
  | .error failure => fail failure
  | .ok raw =>
    match coding.decode raw with
    | none => fail .corruptJournal
    | some journal => recoverJournal coding journal

/-! ## Commit -/

/-- Synchronise each directory with a staged file once. -/
def syncStagedParents (synced : List Folder) :
    List (StagedWrite Content Digest) → Action Content Unit
  | [] => pure ()
  | write :: rest => do
    if write.tmp.parent ∈ synced then syncStagedParents synced rest
    else
      syncParent
      syncStagedParents (write.tmp.parent :: synced) rest

/-- Commit one item after the other, up to the first that fails. -/
def commitEach {Item : Type}
    (commit : Item → Action Content (Item × Except Failure Unit)) :
    List Item → Action Content (List Item × Except Failure Unit)
  | [] => pure ([], .ok ())
  | item :: rest => do
    match ← commit item with
    | (item, .error failure) => pure (item :: rest, .error failure)
    | (item, .ok _) => do
      let (rest, result) ← commitEach commit rest
      pure (item :: rest, result)

/-- What an aborted commit does to get back. -/
structure Restores (Content Digest : Type) where
  ops : List (PublicationOp Digest)
  staged : List (StagedWrite Content Digest)
  errors : List Failure

def Restores.join (first second : Restores Content Digest) : Restores Content Digest :=
  ⟨first.ops ++ second.ops, first.staged ++ second.staged, first.errors ++ second.errors⟩

/-- Stage the way back of one published target. -/
def restoreTarget (target : Published) :
    TargetState Content → Action Content (Restores Content Digest)
  | .missing => pure ⟨[.delete (.published target)], [], []⟩
  | .file contents => do
    match ← attempt (stageAtomicWriteBytes coding target contents) with
    | .ok staged => pure ⟨[staged.op], [staged], []⟩
    | .error failure => pure ⟨[], [], [failure]⟩
  | .other => pure ⟨[], [], [.cannotRestore (.published target)]⟩

def restoreTargets (coding : Coding Content Digest) :
    List (Published × TargetState Content) → Action Content (Restores Content Digest)
  | [] => pure ⟨[], [], []⟩
  | (target, original) :: rest => do
    let first ← restoreTarget coding target original
    let others ← restoreTargets coding rest
    pure (first.join others)

/-- The targets already published, the last one first, deletions before. -/
def publishedTargets : List (Published × TargetState Content) :=
  ((deletes.reverse.filter (·.committed)).map fun delete => (delete.target, .file delete.original))
      ++ (writes.reverse.filter (·.committed)).map fun write => (write.target, write.original)

/-- Carry out everything that can be carried out. -/
def applyEach (coding : Coding Content Digest) :
    List (PublicationOp Digest) → Action Content (List Failure)
  | [] => pure []
  | op :: rest => do
    match ← attempt (applyPublicationOp coding op) with
    | .ok _ => applyEach coding rest
    | .error failure => do
      let others ← applyEach coding rest
      pure (failure :: others)

/-- The staged files after the commit, and how it ended. -/
structure Commit (Content Digest : Type) where
  writes : List (StagedWrite Content Digest)
  result : Except Failure Unit

def StagedWrite.owned (owner : Bool) (write : StagedWrite Content Digest) :
    StagedWrite Content Digest :=
  { write with recoveryOwned := owner }

/-- Undo what is published by the journal that is in place now. -/
def rollBack (ops : List (PublicationOp Digest)) (cause : Failure) :
    Action Content (Commit Content Digest) := do
  let failures ← applyEach coding ops
  if failures.isEmpty then
    match ← attempt removePublicationJournal with
    | .ok _ => pure ⟨writes, .error cause⟩
    | .error failure => pure ⟨writes, .error (.rollbackFailed cause [failure])⟩
  else pure ⟨writes, .error (.rollbackFailed cause failures)⟩

/-- Replace the journal by one that undoes what is published. -/
def publishRestores (restores : Restores Content Digest) (cause : Failure) :
    Action Content (Commit Content Digest) := do
  match ← attempt (syncStagedParents [] restores.staged) with
  | .error failure => do
    releaseAll restores.staged
    pure ⟨writes, .error (.rollbackFailed cause [failure])⟩
  | .ok _ =>
    match ← attempt (writePublicationOps coding restores.ops) with
    | .error failure => pure ⟨writes, .error (.rollbackFailed cause [failure])⟩
    | .ok _ => rollBack coding (writes.map (StagedWrite.owned false)) restores.ops cause

def abortStagedConfig (cause : Failure) : Action Content (Commit Content Digest) := do
  let restores ← restoreTargets coding (publishedTargets writes deletes)
  if restores.errors.isEmpty then publishRestores coding writes restores cause
  else
    releaseAll restores.staged
    pure ⟨writes, .error (.rollbackFailed cause restores.errors)⟩

/-- Carry out the journal that was just written. -/
def commitJournaled : Action Content (Commit Content Digest) := do
  match ← commitEach StagedWrite.commit writes with
  | (writes, .error failure) => abortStagedConfig coding writes deletes failure
  | (writes, .ok _) =>
    match ← commitEach StagedDelete.commit deletes with
    | (deletes, .error failure) => abortStagedConfig coding writes deletes failure
    | (_, .ok _) => do
      let result ← attempt removePublicationJournal
      pure ⟨writes, result⟩

def commitStagedConfig : Action Content (Commit Content Digest) := do
  if writes.isEmpty && deletes.isEmpty then pure ⟨writes, .ok ()⟩
  else
    match ← attempt (syncStagedParents [] writes) with
    | .error failure => pure ⟨writes, .error failure⟩
    | .ok _ =>
      let writes := writes.map (StagedWrite.owned true)
      match ← attempt (writePublicationOps coding (publicationOps writes deletes)) with
      | .error failure => pure ⟨writes, .error failure⟩
      | .ok _ => commitJournaled coding writes deletes

/-- The commit, and the end of the staged files after it. -/
def publishStaged : Action Content Unit := do
  let commit ← commitStagedConfig coding writes deletes
  releaseAll commit.writes
  lift commit.result

end

end Jackin.Config
