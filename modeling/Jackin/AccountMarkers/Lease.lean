import Jackin.Foundation.Script
import Jackin.Foundation.Volume

/-!
# The marker root and a lease on it

The marker root is the directory with the two account markers and the files of
a transaction that changes both.  All work on it goes through a lease, which
checks before and after each call that the root is still the directory it was
taken for.

Open files are inode numbers: what is written to a file is seen under the
name that leads to it by then.  The log of a disk records what was carried
out, and nothing of the program reads it.
-/

namespace Jackin.AccountMarkers

open Foundation Script

/-! ## Entries of the root -/

abbrev Bytes := List UInt8

/-- The two markers, which are also the roles of their stages. -/
inductive Role where
  | selected
  | admission
  deriving DecidableEq

/-- The names of the root, the reserved ones by what they are for. -/
inductive EntryName where
  /-- `account-config.sha256` or `account-admission.sha256`. -/
  | marker (role : Role)
  /-- `.account-markers-transaction`. -/
  | transaction
  /-- `.account-markers-transaction.next`. -/
  | next
  /-- `.account-markers-TXID-ROLE`. -/
  | stage (transactionId : String) (role : Role)
  | other (name : String)
  deriving DecidableEq

def Role.text : Role → String
  | .selected => "selected"
  | .admission => "admission"

def EntryName.text : EntryName → String
  | .marker .selected => "account-config.sha256"
  | .marker .admission => "account-admission.sha256"
  | .transaction => ".account-markers-transaction"
  | .next => ".account-markers-transaction.next"
  | .stage transactionId role => ".account-markers-" ++ transactionId ++ "-" ++ role.text
  | .other name => name

inductive EntryKind where
  | regular
  | directory
  | symbolicLink
  | special
  deriving DecidableEq

/-- A file with its metadata. -/
structure Inode where
  kind : EntryKind
  permissions : Nat
  owner : Nat
  links : Nat
  bytes : Bytes

/-- What was carried out on the root. -/
inductive Event where
  | renamed (source target : EntryName)
  /-- All bytes were written to the file opened under the name. -/
  | written (name : EntryName)
  deriving DecidableEq

/-- The volume of the root, and a log of the calls. -/
structure Disk where
  volume : Volume EntryName Inode
  log : List Event

abbrev Disk.leads (disk : Disk)
    (name : EntryName) : Option (Nat × Inode) := disk.volume.leads name

/-- An open file is the inode it was opened at. -/
abbrev File := Nat

/-! ## The system -/

structure RootIdentity where
  device : Nat
  inode : Nat
  deriving DecidableEq

/-- What is seen of the root itself. -/
structure RootMetadata where
  identity : RootIdentity
  /-- A directory, and not a symbolic link to one. -/
  directory : Bool
  owner : Nat
  mode : Nat

inductive Access where
  | readOnly
  | readWrite

/-- `STAGE_MODE`. -/
def stageMode : Nat := 0o600

/-- The process and the file system, as far as the program depends on them. -/
structure System where
  euid : Nat
  /-- What the file mode creation mask leaves of a mode. -/
  masked : Nat → Nat
  /-- Whether an entry with the given owner and permissions can be opened. -/
  permits : EntryKind → (owner permissions : Nat) → Access → Bool
  permits_read : ∀ permissions, permissions &&& 0o400 ≠ 0 →
    permits .regular euid permissions .readOnly
  permits_write : ∀ permissions, permissions &&& 0o400 ≠ 0 → permissions &&& 0o200 ≠ 0 →
      permits .regular euid permissions .readWrite
  /-- The inode number of a new file. -/
  allocate : List Nat → Nat
  allocate_fresh : ∀ used, allocate used ∉ used

/-- A held lease: the root by its descriptor, by its path, and as acquired. -/
structure MarkerPairLease extends System where
  root : String
  descriptor : RootMetadata
  named : RootMetadata
  identity : RootIdentity

/-- What is seen of an entry or an open file. -/
structure EntryStat where
  device : Nat
  inode : Nat
  kind : EntryKind
  permissions : Nat
  owner : Nat
  links : Nat
  size : Nat
  deriving DecidableEq

def EntryStat.isRegular (stat : EntryStat) : Bool := stat.kind = .regular

/-- Why an operation failed. -/
inductive Failure where
  /-- The system refused a call. -/
  | system (call : String)
  | refused (message : String)
  | context (message : String) (cause : Failure)
  | preCommitFailure (cause : Failure)
  | preparedRollbackPending (publication rollback : Failure)
  | commitUncertain (cause : Failure)
  | committedCleanupPending (cause : Failure)

/-- The error with all its causes, on one line. -/
def Failure.text : Failure → String
  | .system call => call
  | .refused message => message
  | .context message cause => message ++ ": " ++ cause.text
  | .preCommitFailure cause => "marker publication failed before commit: " ++ cause.text
  | .preparedRollbackPending publication rollback =>
    "marker publication failed (" ++ publication.text ++
      "); Prepared rollback remains pending (" ++ rollback.text ++ ")"
  | .commitUncertain cause => "marker commit outcome is uncertain: " ++ cause.text
  | .committedCleanupPending cause => "marker pair is committed; cleanup is pending: " ++ cause.text

/-- What the program does on the root. -/
abbrev Action (Value : Type) := Script Disk Failure Value

def withContext {Value : Type} (message : String)
    (action : Action Value) : Action Value := do
  match ← attempt action with
  | .ok value => pure value
  | .error failure => fail (.context message failure)

namespace Disk

def change (disk : Disk) (file : File) (update : Inode → Inode) : Disk :=
  { disk with volume := disk.volume.change file update }

def record (disk : Disk)
    (event : Event) : Disk := { disk with log := disk.log ++ [event] }

def enter (disk : Disk) (name : EntryName) (file : File)
    (inode : Inode) : Disk :=
  { disk with volume := disk.volume.enter name file inode }

/-- Take a name away from an inode. -/
def unlink (disk : Disk) (name : EntryName) (file : File) : Disk :=
  { disk with
    volume := (disk.volume.remove name).change file fun inode =>
      { inode with links := inode.links - 1 } }

/-- Move a name, and take the target away from the inode it led to. -/
def rename (disk : Disk) (source target : EntryName) (file : File) : Disk :=
  let replaced := match disk.leads target with
    | some (lost, _) => disk.unlink target lost
    | none => disk
  { replaced with volume := replaced.volume.rename source target file }

end Disk

/-! ## System calls -/

/-- A call without an effect on what is modelled. -/
def settle (call : String) : Operation Disk Failure Unit where
  complete := fun disk => (.ok (), disk)
  failure := .system call

namespace MarkerPairLease

variable (lease : MarkerPairLease)

/-- Every entry of the root is on the device of the root. -/
def stat (file : File) (inode : Inode) : EntryStat where
  device := lease.descriptor.identity.device
  inode := file
  kind := inode.kind
  permissions := inode.permissions
  owner := inode.owner
  links := inode.links
  size := inode.bytes.length

def statat (name : EntryName) : Operation Disk Failure (Option EntryStat) where
  complete := fun disk =>
    (.ok ((disk.leads name).map fun entry => lease.stat entry.1 entry.2), disk)
  failure := .system "statat"

def fstat (file : File) : Operation Disk Failure EntryStat where
  complete := fun disk => (.ok (lease.stat file (disk.volume.node file)), disk)
  failure := .system "fstat"

def openat (name : EntryName)
    (access : Access) : Operation Disk Failure File where
  complete := fun disk =>
    match disk.leads name with
    | none => (.error (.system "openat"), disk)
    | some (file, inode) =>
      if lease.permits inode.kind inode.owner inode.permissions access then (.ok file, disk)
      else (.error (.system "openat"), disk)
  failure := .system "openat"

/-- Open with `CREATE` and `EXCL`. -/
def createat (name : EntryName) (mode : Nat) : Operation Disk Failure File where
  complete := fun disk =>
    match disk.leads name with
    | some _ => (.error (.system "openat"), disk)
    | none =>
      let file := lease.allocate disk.volume.used
      (.ok file, disk.enter name file ⟨.regular, lease.masked mode, lease.euid, 1, []⟩)
  failure := .system "openat"

end MarkerPairLease

/-- The first bytes of an open file, at most the given number of them. -/
def readToEnd (file : File) (limit : Nat) : Operation Disk Failure Bytes where
  complete := fun disk => (.ok ((disk.volume.node file).bytes.take limit), disk)
  failure := .system "read"

/-- Bytes written at the start of a file. -/
def overwrite (bytes : Bytes) (inode : Inode) : Inode :=
  { inode with bytes := bytes ++ inode.bytes.drop bytes.length }

/-- Write at the start of a file, opened under the given name. -/
def writeAll (name : EntryName) (file : File)
    (bytes : Bytes) : Operation Disk Failure Unit where
  complete := fun disk => (.ok (), (disk.change file (overwrite bytes)).record (.written name))
  partly := fun extent disk => disk.change file (overwrite (bytes.take extent))
  failure := .system "write"

def ftruncate (file : File) : Operation Disk Failure Unit where
  complete := fun disk => (.ok (), disk.change file fun inode => { inode with bytes := [] })
  failure := .system "ftruncate"

def fchmod (file : File) (mode : Nat) : Operation Disk Failure Unit where
  complete := fun disk => (.ok (), disk.change file fun inode => { inode with permissions := mode })
  failure := .system "fchmod"

def renameat (source target : EntryName) : Operation Disk Failure Unit where
  complete := fun disk =>
    match disk.leads source, disk.leads target with
    | none, _ => (.error (.system "renameat"), disk)
    | some (file, inode), some (lost, replaced) =>
      if file = lost then (.ok (), disk)
      else if replaced.kind = .directory ∧ inode.kind ≠ .directory then
        (.error (.system "renameat"), disk)
      else (.ok (), (disk.rename source target file).record (.renamed source target))
    | some (file, _), none =>
      (.ok (), (disk.rename source target file).record (.renamed source target))
  failure := .system "renameat"

def unlinkat (name : EntryName) : Operation Disk Failure Unit where
  complete := fun disk =>
    match disk.leads name with
    | none => (.error (.system "unlinkat"), disk)
    | some (file, inode) =>
      if inode.kind = .directory then (.error (.system "unlinkat"), disk)
      else (.ok (), disk.unlink name file)
  failure := .system "unlinkat"

/-! ## Methods of a lease -/

namespace MarkerPairLease

variable (lease : MarkerPairLease)

def validateRootMetadata (metadata : RootMetadata) : Action Unit := do
  ensure (metadata.directory)
    (.refused ("marker root must be an existing non-symlink directory: " ++ lease.root))
  ensure (metadata.owner = lease.euid)
    (.refused ("marker root must be owned by the effective user: " ++ lease.root))
  ensure (metadata.mode &&& 0o022 = 0)
    (.refused ("marker root must not be group- or other-writable: " ++ lease.root))

/-- Nobody else changes the root, so what is looked at are constants. -/
def ensureRootIdentity : Action Unit := do
  lease.validateRootMetadata lease.descriptor
  lease.validateRootMetadata lease.named
  ensure (lease.descriptor.identity = lease.identity ∧ lease.named.identity = lease.identity ∧
      lease.descriptor.identity = lease.named.identity)
    (.refused ("marker root identity changed while its lease was held: " ++ lease.root))

variable (name : EntryName)

def entryStat : Action (Option EntryStat) := do
  lease.ensureRootIdentity
  match ← withContext ("cannot inspect marker root entry " ++ name.text)
      (perform (lease.statat name)) with
  | none => pure none
  | some stat => do
    lease.ensureRootIdentity
    pure (some stat)

variable (file : File) (mode : Nat)

def ensureFileNameMatches : Action Unit := do
  lease.ensureRootIdentity
  let descriptor ← perform (lease.fstat file)
  match ← lease.entryStat name with
  | none => fail (.refused ("marker root entry disappeared: " ++ name.text))
  | some named => do
    ensure (descriptor = named)
      (.refused ("marker root entry identity changed while open: " ++ name.text))
    lease.ensureRootIdentity

def openEntry (access : Access) : Action File := do
  lease.ensureRootIdentity
  let file ← withContext ("cannot open marker root entry " ++ name.text ++
      " without following links") (perform (lease.openat name access))
  lease.ensureRootIdentity
  pure file

def permissionMode : Action Unit :=
  ensure (mode ≤ 0o777)
    (.refused ("invalid marker entry permission mode: " ++ String.ofList (Nat.toDigits 8 mode)))

def createEntry : Action File := do
  lease.ensureRootIdentity
  permissionMode mode
  let file ← withContext ("cannot create marker root entry " ++ name.text ++
      " exclusively") (perform (lease.createat name mode))
  let stat ← perform (lease.fstat file)
  if stat.permissions ≠ mode then
    withContext ("cannot set newly created marker entry mode: " ++ name.text)
      (perform (fchmod file mode))
  lease.ensureFileNameMatches name file
  pure file

/-- A system call between two looks at the root. -/
def guarded (message : String)
    (operation : Operation Disk Failure Unit) : Action Unit := do
  lease.ensureRootIdentity
  withContext message (perform operation)
  lease.ensureRootIdentity

def syncFile (_file : File) : Action Unit :=
  lease.guarded "cannot sync marker transaction file" (settle "fsync")

def syncRoot : Action Unit := lease.guarded "cannot sync marker root directory" (settle "fsync")

def truncateFile : Action Unit :=
  lease.guarded "cannot truncate transaction-owned marker file" (ftruncate file)

def setFileMode : Action Unit := do
  lease.ensureRootIdentity
  permissionMode mode
  withContext "cannot set transaction-owned marker mode" (perform (fchmod file mode))
  lease.ensureRootIdentity

def renameEntry (source target : EntryName) : Action Unit :=
  lease.guarded ("cannot rename marker transaction entry " ++ source.text ++
    " to " ++ target.text) (renameat source target)

def unlinkEntry : Action Unit :=
  lease.guarded ("cannot unlink marker transaction entry " ++ name.text) (unlinkat name)

def ensureNoReservedJournal : Action Unit := do
  lease.ensureRootIdentity
  match ← withContext ("cannot inspect reserved marker transaction entry " ++ name.text)
      (perform (lease.statat name)) with
  | some _ =>
    fail (.refused
      ("marker recovery is required; reserved transaction entry is present: " ++ name.text))
  | none => lease.ensureRootIdentity

end MarkerPairLease

end Jackin.AccountMarkers
