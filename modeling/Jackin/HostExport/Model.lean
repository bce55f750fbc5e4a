import Jackin.Foundation.Machine
import Jackin.HostExport.Names

/-!
# File exports to the host

A container sends a file in chunks and the attached host client writes it
below one export directory.  `start_in_root` opens a new temporary file,
`chunk` appends to it, `end` checks the size and the digest and renames the
file to the final name chosen at the start, and the two aborts remove it.

A file entry leads to an inode, and an open transfer holds the inode and not
the name.  Every operation can fail; a write that fails may have written a
part of the chunk.  The SHA-256 state of a transfer is the bytes it was fed.
-/

namespace Jackin.HostExport

open Foundation Script

/-- A file that is being received. -/
structure ActiveHostFileExport where
  transferId : Nat
  finalName : FileName
  temporary : FileName
  /-- The inode behind the open handle. -/
  file : Nat
  expectedSize : Nat
  written : Nat
  hasher : List UInt8
  revealAfterExport : Bool
  openAfterExport : Bool
  lastActivity : Nat

/-- The export directory, the files below it and the transfers under way. -/
structure Exports where
  root : Directory FileName Node
  contents : Nat → List UInt8
  nextInode : Nat
  active : Table ActiveHostFileExport.transferId

structure FileExportStart where
  transferId : Nat
  fileName : FileName
  size : Nat
  revealAfterExport : Bool
  openAfterExport : Bool

structure FileExportChunk where
  transferId : Nat
  offset : Nat
  bytes : List UInt8

structure FileExportEnd (Digest : Type) where
  transferId : Nat
  sha256 : Digest

/-- A file that was received. -/
structure CompletedHostFileExport where
  finalName : FileName
  bytes : Nat
  revealAfterExport : Bool
  openAfterExport : Bool
  deriving DecidableEq

/-- The errors of the export calls, with what their messages name. -/
inductive Failure where
  | alreadyActive (transferId : Nat)
  | creatingDirectory
  | creatingTemporary
  | noActiveStart (transferId : Nat)
  | offsetMismatch (transferId offset expected : Nat)
  | chunkLengthOverflow
  | writtenCountOverflow
  | tooManyBytes (transferId written expected : Nat)
  | seeking
  | writing
  | endedEarly (transferId written expected : Nat)
  | flushing
  | syncing
  | digestMismatch (transferId : Nat)
  | moving
  | removing
  deriving DecidableEq

/-! ## Operations on the directory -/

/-- Bytes written at an offset; a gap before the offset reads as zeros. -/
def overwrite (content : List UInt8) (offset : Nat)
    (bytes : List UInt8) : List UInt8 :=
  content.take offset ++ List.replicate (offset - content.length) 0 ++
    bytes ++ content.drop (offset + bytes.length)

namespace Exports

variable (exports : Exports)

def write (inode offset : Nat) (bytes : List UInt8) : Exports :=
  { exports with
    contents := fun other =>
      if other = inode then overwrite (exports.contents inode) offset bytes
      else exports.contents other }

/-- A new empty file under a free name. -/
def create (name : FileName) : Exports :=
  { exports with
    root := exports.root.store name (.file exports.nextInode)
    contents := fun other => if other = exports.nextInode then [] else exports.contents other
    nextInode := exports.nextInode + 1 }

def remove (name : FileName) : Exports :=
  { exports with root := exports.root.drop name }

/-- The node of one name under another, which it replaces. -/
def move (node : Node) (source target : FileName) : Exports :=
  { exports with root := exports.root.move source target node }

/-- The node a name leads to. -/
def node? (name : FileName) : Option Node := exports.root.node? name

/-- Keep the state of a transfer. -/
def keep (active : ActiveHostFileExport) : Exports :=
  { exports with active := exports.active.upsert active }

/-- Forget a transfer. -/
def retire (transferId : Nat) : Exports :=
  { exports with active := exports.active.delete (·.transferId = transferId) }

end Exports

/-- An operation without an effect on what is modelled. -/
def settle (failure : Failure) : Operation Exports Failure Unit where
  complete := fun exports => (.ok (), exports)
  failure := failure

/-- `OpenOptions::create_new`; the handle is the inode. -/
def createNew (name : FileName) : Operation Exports Failure Nat where
  complete := fun exports =>
    if (exports.node? name).isSome then (.error .creatingTemporary, exports)
    else (.ok exports.nextInode, exports.create name)
  failure := .creatingTemporary

/-- `write_all` at an offset; a part may be written when it fails. -/
def writeAll (inode offset : Nat)
    (bytes : List UInt8) : Operation Exports Failure Unit where
  complete := fun exports => (.ok (), exports.write inode offset bytes)
  partly := fun extent exports => exports.write inode offset (bytes.take extent)
  failure := .writing

def rename : FileName → FileName → Operation Exports Failure Unit :=
  Directory.renameNode Exports.root (fun exports root => { exports with root })
    (· = .directory) .moving .moving

def removeFile (name : FileName) : Operation Exports Failure Unit where
  complete := fun exports =>
    match exports.node? name with
    | some (.file _) => (.ok (), exports.remove name)
    | _ => (.error .removing, exports)
  failure := .removing

/-! ## The calls -/

/-- Remove a file; an error is counted and otherwise ignored. -/
def removeExportFile (name : FileName) : Script Exports Failure Unit := do
  let _ ← attempt (perform (removeFile name))
  pure ()

def startInRoot (start : FileExportStart)
    (now : Nat) : Script Exports Failure Unit := do
  let active ← glance Exports.active
  ensure ((active.find? start.transferId).isNone) (.alreadyActive start.transferId)
  perform (settle .creatingDirectory)
  let fileName := sanitizeExportFileName start.fileName
  let root ← glance Exports.root
  let finalName := uniqueExportName root fileName
  let temporary := temporaryName finalName
  let file ← perform (createNew temporary)
  adjust fun exports => exports.keep
    { transferId := start.transferId, finalName, temporary, file
      expectedSize := start.size, written := 0, hasher := []
      revealAfterExport := start.revealAfterExport
      openAfterExport := start.openAfterExport, lastActivity := now }

def chunk (chunk : FileExportChunk)
    (now : Nat) : Script Exports Failure Unit := do
  let active ← glance Exports.active
  match active.find? chunk.transferId with
  | none => fail (.noActiveStart chunk.transferId)
  | some active => do
    ensure (chunk.offset = active.written)
      (.offsetMismatch chunk.transferId chunk.offset active.written)
    ensure (chunk.bytes.length ≤ Machine.u64Max) .chunkLengthOverflow
    let newWritten := active.written + chunk.bytes.length
    ensure (newWritten ≤ Machine.u64Max) .writtenCountOverflow
    ensure (newWritten ≤ active.expectedSize)
      (.tooManyBytes chunk.transferId newWritten active.expectedSize)
    perform (settle .seeking)
    perform (writeAll active.file active.written chunk.bytes)
    adjust fun exports => exports.keep
      { active with
        hasher := active.hasher ++ chunk.bytes, written := newWritten
        lastActivity := now }

section

variable {Digest : Type} [DecidableEq Digest] (sha256 : List UInt8 → Digest)

/-- `HostFileExports::end`. -/
def endTransfer (ending : FileExportEnd Digest) :
    Script Exports Failure CompletedHostFileExport := do
  let active ← glance Exports.active
  match active.find? ending.transferId with
  | none => fail (.noActiveStart ending.transferId)
  | some active => do
    adjust (Exports.retire · ending.transferId)
    if active.written ≠ active.expectedSize then do
      removeExportFile active.temporary
      fail (.endedEarly ending.transferId active.written active.expectedSize)
    else do
      perform (settle .flushing)
      perform (settle .syncing)
      if sha256 active.hasher ≠ ending.sha256 then do
        removeExportFile active.temporary
        fail (.digestMismatch ending.transferId)
      else do
        perform (rename active.temporary active.finalName)
        pure
          { finalName := active.finalName, bytes := active.written
            revealAfterExport := active.revealAfterExport
            openAfterExport := active.openAfterExport }

def abort (transferId : Nat) : Script Exports Failure Unit := do
  let active ← glance Exports.active
  match active.find? transferId with
  | none => pure ()
  | some active => do
    adjust (Exports.retire · transferId)
    removeExportFile active.temporary

/-- Abort the listed transfers one after the other. -/
def abortAll : List Nat → Script Exports Failure Unit
  | [] => pure ()
  | transferId :: rest => do
    abort transferId
    abortAll rest

def abortIdleBefore (cutoff : Nat) : Script Exports Failure Nat := do
  let active ← glance Exports.active
  let stale := active.rows.filterMap fun row =>
    if row.lastActivity ≤ cutoff then some row.transferId else none
  abortAll stale
  pure stale.length

def abortIdleOlderThan (maxIdle now : Nat) : Script Exports Failure Nat :=
  abortIdleBefore (if maxIdle ≤ now then now - maxIdle else now)

/-- One call of `HostFileExports`, at the time of its clock reading. -/
inductive Call (Digest : Type) where
  | start (request : FileExportStart) (now : Nat)
  | chunk (piece : FileExportChunk) (now : Nat)
  | ending (request : FileExportEnd Digest)
  | abort (transferId : Nat)
  | abortIdle (maxIdle now : Nat)

inductive Answer where
  | started
  | accepted
  | completed (exported : CompletedHostFileExport)
  | aborted
  | abortedIdle (count : Nat)
  deriving DecidableEq

def Call.script : Call Digest → Script Exports Failure Answer
  | .start request now => do
    startInRoot request now
    pure .started
  | .chunk piece now => do
    HostExport.chunk piece now
    pure .accepted
  | .ending request => do
    let completed ← endTransfer sha256 request
    pure (.completed completed)
  | .abort transferId => do
    HostExport.abort transferId
    pure .aborted
  | .abortIdle maxIdle now => do
    let count ← abortIdleOlderThan maxIdle now
    pure (.abortedIdle count)

/-- A call together with the fates of its operations. -/
structure Event (Digest : Type) where
  call : Call Digest
  fates : List Fate

/-- What a call answers. -/
def Event.answer (event : Event Digest)
    (exports : Exports) : Except (Stop Failure) Answer :=
  (event.call.script sha256 exports event.fates).result

/-- The state a call leaves. -/
def Event.after (event : Event Digest) (exports : Exports) : Exports :=
  (event.call.script sha256 exports event.fates).world

end

end Jackin.HostExport
