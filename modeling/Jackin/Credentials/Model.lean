import Jackin.Foundation.Directory

/-!
# Publishing the credentials of an instance

`write_account_credentials` stages a complete new directory next to the
present one, moves the present one aside, moves the staged one into place and
removes the old one.  A transaction record says how far it got; after an error
it is rolled back at once, and after a crash by the next
`recover_credential_swap`.

The record is written to a temporary file and renamed, so it is always
complete.  Every system call can fail and the process can die in every one of
them.  A recursive removal that stops early has removed any subset of the
files.
-/

namespace Jackin.Credentials

open Foundation Script

/-! ## The instance root -/

/-- What a directory entry below a credentials directory is. -/
inductive Item where
  | file (bytes : List UInt8)
  | other
  deriving DecidableEq

structure StoredFile where
  name : String
  item : Item
  deriving DecidableEq

/-- The content of one directory. -/
abbrev Files := List StoredFile

/-- The private directories a swap uses next to the live one. -/
inductive Sibling where
  | previous
  | cleanup
  | rollback
  deriving DecidableEq

/--
The names of directories below the instance root: `credentials`,
`.credentials-stage-SUFFIX` and `.credentials-ROLE-PID-SEQUENCE`.
-/
inductive EntryName where
  | credentials
  | stage (suffix : String)
  | sibling (role : Sibling) (pid sequence : Nat)
  deriving DecidableEq

inductive CredentialSwapPhase where
  | prepared
  | previousMoved
  | installed
  | cleanupPending
  | rollbackTargetQuarantined
  | restored
  | committed
  deriving DecidableEq

/-- How far a swap has come, and its entries. -/
structure CredentialSwapTransaction where
  schemaVersion : Nat
  phase : CredentialSwapPhase
  staged : Option EntryName
  previous : Option EntryName
  cleanup : Option EntryName
  rollback : Option EntryName

def credentialTransactionVersion : Nat := 1

/-- The instance root, and the process that works on it. -/
structure Instance where
  entries : Directory EntryName Files
  transaction : Option CredentialSwapTransaction
  pid : Nat
  /-- `CREDENTIAL_SWAP_COUNTER`. -/
  sequence : Nat

inductive Failure where
  | io
  | notFound
  | invalidEntry (name : EntryName)
  | unsupportedVersion (version : Nat)
  | unexpectedEntry (name : String)
  | noUniquePath
  | twoRollbackSources
  | ambiguousRollback
  | liveAndPrevious
  | lostLive
  | ambiguousPrepared
  | notFinalized (cause : Failure)
  | rollbackFailed (cause rollback : Failure)
  deriving DecidableEq

/-- What the program does on the files of an instance. -/
abbrev Action := Script Instance Failure

namespace Instance

section

variable (root : Instance)

/-- The files below a name. -/
def files? (name : EntryName) : Option Files := root.entries.node? name

/-- The root with the given files below a name. -/
def store (name : EntryName) (files : Files) : Instance :=
  { root with entries := root.entries.store name files }

/-- The root without a directory. -/
def drop (name : EntryName) : Instance := { root with entries := root.entries.drop name }

/-- The root after a directory was renamed. -/
def move (source target : EntryName) (files : Files) : Instance :=
  { root with entries := root.entries.move source target files }

def record (transaction : CredentialSwapTransaction) : Instance :=
  { root with transaction := some transaction }

end

end Instance

/-! ## System calls -/

/-- A call without an effect on what is modelled. -/
def settle : Operation Instance Failure Unit where
  complete := fun root => (.ok (), root)
  failure := .io

section

variable (transaction : CredentialSwapTransaction) (name : EntryName)

/-- `symlink_metadata`, as the presence of an entry. -/
def exists? : Operation Instance Failure Bool where
  complete := fun root => (.ok (root.files? name).isSome, root)
  failure := .io

def readDirectory : Operation Instance Failure Files where
  complete := fun root =>
    match root.files? name with
    | some files => (.ok files, root)
    | none => (.error .notFound, root)
  failure := .io

/-- `read_dir` of the root. -/
def readRoot : Operation Instance Failure (List EntryName) where
  complete := fun root => (.ok root.entries.names, root)
  failure := .io

def createDirectory : Operation Instance Failure Unit where
  complete := fun root =>
    match root.files? name with
    | some _ => (.error .io, root)
    | none => (.ok (), root.store name [])
  failure := .io

/-- Add a file to a directory, in place of one with the same name. -/
def addFile (files : Files) (file : StoredFile) : Files :=
  files.filter (·.name ≠ file.name) ++ [file]

/-- Rename a complete temporary file into a directory. -/
def storeFile (directory : EntryName)
    (file : StoredFile) : Operation Instance Failure Unit where
  complete := fun root =>
    match root.files? directory with
    | none => (.error .notFound, root)
    | some files => (.ok (), root.store directory (addFile files file))
  failure := .io

/-- `rename` of a directory, which may replace an empty one. -/
def rename : EntryName → EntryName → Operation Instance Failure Unit :=
  Directory.renameNode Instance.entries (fun root entries => { root with entries })
    (fun files => !files.isEmpty) .notFound .io

/-- The files an interrupted removal has left. -/
def remaining (extent : Nat) (files : Files) : Files :=
  files.zipIdx.filterMap fun (file, index) => if extent.testBit index then some file else none

def removeDirAll : Operation Instance Failure Unit where
  complete := fun root =>
    match root.files? name with
    | none => (.error .notFound, root)
    | some _ => (.ok (), root.drop name)
  partly := fun extent root =>
    match root.files? name with
    | none => root
    | some files => root.store name (remaining extent files)
  failure := .io

/-- Rename the complete record into place. -/
def writeTransaction : Operation Instance Failure Unit where
  complete := fun root => (.ok (), root.record transaction)
  failure := .io

def readTransaction : Operation Instance Failure (Option CredentialSwapTransaction) where
  complete := fun root => (.ok root.transaction, root)
  failure := .io

def removeTransaction : Operation Instance Failure Unit where
  complete := fun root =>
    match root.transaction with
    | none => (.error .notFound, root)
    | some _ => (.ok (), { root with transaction := none })
  failure := .io

/-- The names a transaction may list start with `.credentials-`. -/
def EntryName.isPrivate : EntryName → Bool
  | .credentials => false
  | .stage _ => true
  | .sibling _ _ _ => true

def validateEntry : Action Unit :=
  ensure (name.isPrivate) (.invalidEntry name)

def validateEntries : List EntryName → Action Unit
  | [] => pure ()
  | name :: rest => do
    validateEntry name
    validateEntries rest

/-- The names a transaction lists. -/
def CredentialSwapTransaction.names : List EntryName :=
  [transaction.staged, transaction.previous, transaction.cleanup, transaction.rollback].filterMap id

def validateCredentialTransaction : Action Unit := do
  ensure (transaction.schemaVersion = credentialTransactionVersion)
    (.unsupportedVersion transaction.schemaVersion)
  validateEntries transaction.names

/--
Write, synchronise and rename a temporary file, then synchronise the root.
-/
def persistCredentialTransaction : Action Unit := do
  validateCredentialTransaction transaction
  perform settle
  perform settle
  perform settle
  perform settle
  perform (writeTransaction transaction)
  perform settle

end

def loadCredentialTransaction : Action (Option CredentialSwapTransaction) := do
  match ← perform readTransaction with
  | none => pure none
  | some transaction =>
    validateCredentialTransaction transaction
    pure (some transaction)

/-- Remove something, and go on if it was there. -/
def unlessMissing (removal : Operation Instance Failure Unit)
    (next : Action Unit) :
    Action Unit := do
  match ← attempt (perform removal) with
  | .ok _ => next
  | .error .notFound => pure ()
  | .error failure => fail failure

def clearCredentialTransaction : Action Unit :=
  unlessMissing removeTransaction (perform settle)

def credentialEntryExists (name : Option EntryName) : Action Bool := do
  match name with
  | none => pure false
  | some name =>
    validateEntry name
    perform (exists? name)

def removeCredentialEntry (name : Option EntryName) : Action Unit := do
  match name with
  | none => pure ()
  | some name =>
    validateEntry name
    unlessMissing (removeDirAll name) (pure ())

/-- Try sequence numbers until the name is free. -/
def uniqueSiblingFrom (role : Sibling) : Nat → Action EntryName
  | 0 => fail .noUniquePath
  | tries + 1 => do
    let (pid, sequence) ← glance fun root => (root.pid, root.sequence)
    adjust fun root => { root with sequence := root.sequence + 1 }
    if ← perform (exists? (.sibling role pid sequence)) then uniqueSiblingFrom role tries
    else pure (.sibling role pid sequence)

def uniqueCredentialSibling (role : Sibling) : Action EntryName :=
  uniqueSiblingFrom role 128

def isValidCredentialStageName : EntryName → Bool
  | .stage suffix => suffix ≠ "" && suffix.all Char.isAlphanum
  | _ => false

/-- Remove the listed staging directories except the active one. -/
def sweepEntries (active : Option EntryName) : List EntryName → Action Bool
  | [] => pure false
  | name :: rest => do
    if active = some name ∨ isValidCredentialStageName name = false then sweepEntries active rest
    else
      perform settle
      perform (removeDirAll name)
      let _ ← sweepEntries active rest
      pure true

def sweepOrphanCredentialStaging (active : Option EntryName) : Action Unit := do
  let names ← perform readRoot
  if ← sweepEntries active names then perform settle

/-! ## Rolling back -/

variable (transaction : CredentialSwapTransaction)

def rollbackName : Action EntryName :=
  match transaction.rollback with
  | some name => pure name
  | none => uniqueCredentialSibling .rollback

/-- Move the installed directory to a recorded name. -/
def quarantineLive : Action CredentialSwapTransaction := do
  let name ← rollbackName transaction
  validateEntry name
  let quarantined :=
    { transaction with rollback := some name, phase := .rollbackTargetQuarantined }
  persistCredentialTransaction quarantined
  perform (rename .credentials name)
  perform settle
  persistCredentialTransaction quarantined
  pure quarantined

def quarantineIf (needed : Bool) (transaction : CredentialSwapTransaction) :
    Action CredentialSwapTransaction :=
  if needed then quarantineLive transaction else pure transaction

/-- The directory that holds the previous credentials. -/
def rollbackSource : Action (Option EntryName) := do
  let previous ← credentialEntryExists transaction.previous
  let cleanup ← credentialEntryExists transaction.cleanup
  ensure (¬(previous ∧ cleanup)) .ambiguousRollback
  pure (if previous then transaction.previous else if cleanup then transaction.cleanup else none)

def discardQuarantined : Action Unit :=
  match transaction.rollback with
  | none => pure ()
  | some name => do
    removeCredentialEntry (some name)
    persistCredentialTransaction { transaction with rollback := none }

/-- The end of a rollback, once the live directory is right. -/
def concludeRollback : Action Unit := do
  persistCredentialTransaction { transaction with phase := .restored }
  discardQuarantined { transaction with phase := .restored }
  clearCredentialTransaction

def CredentialSwapTransaction.without (source : EntryName) : CredentialSwapTransaction :=
  { transaction with
    previous := if transaction.previous = some source then none else transaction.previous
    cleanup := if transaction.cleanup = some source then none else transaction.cleanup }

/-- Put the previous directory back unless a live one is in place. -/
def restoreSource (installed : Bool) (source : Option EntryName) :
    Action Unit := do
  if ← perform (exists? .credentials) then
    ensure (source = none) .liveAndPrevious
    concludeRollback transaction
  else
    match source with
    | none =>
      ensure (installed = false ∨ transaction.rollback.isSome) .lostLive
      concludeRollback transaction
    | some source =>
      validateEntry source
      perform (rename source .credentials)
      perform settle
      concludeRollback (transaction.without source)

def finishCredentialRollback (installed : Bool) : Action Unit := do
  validateCredentialTransaction transaction
  let previousExists ← credentialEntryExists transaction.previous
  let cleanupExists ← credentialEntryExists transaction.cleanup
  ensure (¬(previousExists ∧ cleanupExists)) .twoRollbackSources
  let liveExists ← perform (exists? .credentials)
  let rollbackExists ← credentialEntryExists transaction.rollback
  let transaction ← quarantineIf (installed && liveExists && !rollbackExists) transaction
  removeCredentialEntry transaction.staged
  let transaction := { transaction with staged := none }
  let source ← rollbackSource transaction
  restoreSource transaction installed source

/-- Roll back and report the cause in any case. -/
def rollbackCredentialSwap {Value : Type}
    (transaction : CredentialSwapTransaction)
    (installed : Bool) (cause : Failure) : Action Value := do
  match ← attempt (finishCredentialRollback transaction installed) with
  | .ok _ => fail cause
  | .error failure => fail (.rollbackFailed cause failure)

/-- What recovery does by the recorded phase. -/
def recoverPhase : Action Unit :=
  match transaction.phase with
  | .prepared => do
    let previousExists ← credentialEntryExists transaction.previous
    let liveExists ← perform (exists? .credentials)
    ensure (¬(previousExists ∧ liveExists)) .ambiguousPrepared
    finishCredentialRollback transaction false
  | .previousMoved => do
    let installed ← perform (exists? .credentials)
    finishCredentialRollback transaction installed
  | .installed => finishCredentialRollback transaction true
  | .cleanupPending => finishCredentialRollback transaction true
  | .rollbackTargetQuarantined => finishCredentialRollback transaction true
  | .restored => finishCredentialRollback transaction false
  | .committed => do
    removeCredentialEntry transaction.staged
    removeCredentialEntry transaction.previous
    removeCredentialEntry transaction.cleanup
    removeCredentialEntry transaction.rollback
    clearCredentialTransaction

/-- The phases in which a lone live directory is the new one. -/
def CredentialSwapPhase.isPublished : CredentialSwapPhase → Bool
  | .installed => true
  | .cleanupPending => true
  | _ => false

def recoverTransaction : Action Unit := do
  let liveExists ← perform (exists? .credentials)
  let previousExists ← credentialEntryExists transaction.previous
  let cleanupExists ← credentialEntryExists transaction.cleanup
  if liveExists && !previousExists && !cleanupExists &&
      transaction.rollback.isNone && transaction.phase.isPublished then
    persistCredentialTransaction { transaction with phase := .committed }
    clearCredentialTransaction
  else recoverPhase transaction

def recoverCredentialSwap : Action Unit := do
  let recorded ← loadCredentialTransaction
  sweepOrphanCredentialStaging (recorded.bind (·.staged))
  match recorded with
  | none => pure ()
  | some transaction => recoverTransaction transaction

/-! ## Publication -/

def ensureFiles : Files → Action Unit
  | [] => pure ()
  | file :: rest => do
    perform settle
    ensure (file.item ≠ .other) (.unexpectedEntry file.name)
    ensureFiles rest

def validateExistingCredentialsDirectory : Action Bool := do
  if ← perform (exists? .credentials) then
    let files ← perform (readDirectory .credentials)
    ensureFiles files
    pure true
  else pure false

/-- A file name and its serialised credential. -/
structure Payload where
  name : String
  bytes : List UInt8

def Payload.file (payload : Payload) : StoredFile :=
  ⟨payload.name, .file payload.bytes⟩

def stagePayloads (stage : EntryName) : List Payload → Action Unit
  | [] => perform settle
  | payload :: rest => do
    perform settle
    perform settle
    perform settle
    perform settle
    perform (storeFile stage payload.file)
    stagePayloads stage rest

def previousName (hadPrevious : Bool) : Action (Option EntryName) := do
  if hadPrevious then
    let name ← uniqueCredentialSibling .previous
    pure (some name)
  else pure none

/-- Undo what was published when a step of the publication fails. -/
def orRollBack {Value : Type} (transaction : CredentialSwapTransaction)
    (installed : Bool) (script : Action Value) :
    Action Value := do
  match ← attempt script with
  | .ok value => pure value
  | .error cause => rollbackCredentialSwap transaction installed cause

variable (transaction : CredentialSwapTransaction) (stage : EntryName)

/-- Move the present directory aside, under the recorded name. -/
def moveAside (previous : EntryName) :
    Action CredentialSwapTransaction := do
  validateEntry previous
  perform (rename .credentials previous)
  let moved := { transaction with phase := .previousMoved }
  orRollBack moved false (persistCredentialTransaction moved)
  pure moved

def movePrevious : Action CredentialSwapTransaction :=
  match transaction.previous with
  | none => pure transaction
  | some previous => moveAside transaction previous

def installStaged (transaction : CredentialSwapTransaction) :
    Action CredentialSwapTransaction := do
  orRollBack transaction false (perform (rename stage .credentials))
  let installed := { transaction with staged := none, phase := .installed }
  orRollBack installed true (persistCredentialTransaction installed)
  orRollBack installed true (perform settle)
  pure installed

/-- Remove the previous directory under a name of its own. -/
def discardMoved (previous : EntryName) :
    Action CredentialSwapTransaction := do
  let cleanup ← orRollBack transaction true (uniqueCredentialSibling .cleanup)
  let pending := { transaction with cleanup := some cleanup, phase := .cleanupPending }
  orRollBack pending true (persistCredentialTransaction pending)
  orRollBack pending true (validateEntry previous)
  orRollBack pending true (validateEntry cleanup)
  orRollBack pending true (perform (rename previous cleanup))
  let moved := { pending with previous := none }
  orRollBack moved true (persistCredentialTransaction moved)
  orRollBack moved true (removeCredentialEntry (some cleanup))
  pure { moved with cleanup := none }

def discardPrevious : Action CredentialSwapTransaction :=
  match transaction.previous with
  | none => pure transaction
  | some previous => discardMoved transaction previous

/-- Report that the publication stands although its record remains. -/
def persistCommitted : Action Unit := do
  match ← attempt (persistCredentialTransaction transaction) with
  | .ok _ => pure ()
  | .error cause => fail (.notFinalized cause)

def preparedTransaction (previous : Option EntryName) : CredentialSwapTransaction where
  schemaVersion := credentialTransactionVersion
  phase := .prepared
  staged := some stage
  previous := previous
  cleanup := none
  rollback := none

/-- The swap itself, from the complete staged directory on. -/
def swapStaged (previous : Option EntryName) :
    Action Unit := do
  let prepared := preparedTransaction stage previous
  persistCredentialTransaction prepared
  let moved ← movePrevious prepared
  let installed ← installStaged stage moved
  let discarded ← discardPrevious installed
  persistCommitted { discarded with phase := .committed }
  clearCredentialTransaction

/-- Fill the staging directory and swap it in. -/
def publishStaged (hadPrevious : Bool)
    (payloads : List Payload) : Action Unit := do
  perform settle
  stagePayloads stage payloads
  let previous ← previousName hadPrevious
  swapStaged stage previous

/--
Run a script with a temporary directory, which is removed afterwards as far
as possible unless the process is dead.
-/
def withTemporaryDirectory (script : Action Unit) :
    Action Unit := do
  let ended ← attempt script
  let _ ← attempt (perform (removeDirAll stage))
  lift ended

/-- The random suffix of the staging directory is an input. -/
def writeAccountCredentials (suffix : String) (payloads : List Payload) :
    Action Unit := do
  perform settle
  recoverCredentialSwap
  let hadPrevious ← validateExistingCredentialsDirectory
  perform (createDirectory (.stage suffix))
  withTemporaryDirectory (.stage suffix) (publishStaged (.stage suffix) hadPrevious payloads)

end Jackin.Credentials
