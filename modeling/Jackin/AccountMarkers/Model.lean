import Jackin.AccountMarkers.Record

/-!
# Publishing a pair of account markers

The two markers change together.  Their new contents are staged next to them,
a committed record is written beside its final name, and a prepared record
under it.  Then both stages are renamed over the markers, and the rename of
the committed record over the prepared one decides the transaction.

Recovery rolls a prepared record back: the inode of an installed stage is
filled with the old bytes and given the old mode, a marker that did not exist
before is removed, and then what is left of the transaction goes.  A committed
record is only checked and removed.

No call reports an error that the root gives no reason for, but the process
may die in every one of them.
-/

namespace Jackin.AccountMarkers

open Foundation Script

/-- Where a marker stands between its old and its new value. -/
inductive MarkerState where
  | originalOld
  | restoredOld
  | restoredBytes
  | installedNew
  | restoringOld
  | oldAbsent
  | installedNewForAbsent
  deriving DecidableEq

/-- An open record file. -/
structure OpenedRecord where
  file : File
  record : TransactionRecord

structure ObservedFile where
  stat : EntryStat
  bytes : Bytes

/-- Both stages, with their open files. -/
structure PreparedStages where
  selected : PreparedMarker
  selectedFile : File
  admission : PreparedMarker
  admissionFile : File

/-- A prepared transaction, with its open files. -/
structure PreparedPublication where
  record : PreparedRecord
  nextFile : File
  primaryFile : File
  selectedFile : File
  admissionFile : File

def isCompleteOldState : MarkerState → Bool
  | .originalOld | .restoredOld | .oldAbsent => true
  | _ => false

section

variable (coding : Coding) (lease : MarkerPairLease)

variable (name : EntryName) (marker : PreparedMarker) (expected : RecordedFile)
    (publication : PreparedPublication)

def observeOptional (limit : Nat) : Action (Option ObservedFile) := do
  match ← lease.entryStat name with
  | none => pure none
  | some before => do
    ensure (before.isRegular)
      (.refused ("marker transaction entry is not a regular file: " ++ name.text))
    ensure (before.owner = lease.euid)
      (.refused ("marker transaction entry owner is invalid: " ++ name.text))
    ensure (before.links = 1)
      (.refused ("marker transaction entry has an unexpected link count: " ++ name.text))
    ensure (before.size ≤ limit)
      (.refused ("marker transaction entry exceeds its size limit: " ++ name.text))
    let file ← lease.openEntry name .readOnly
    let opened ← perform (lease.fstat file)
    ensure (opened = before) (.refused ("marker entry changed while it was opened: " ++ name.text))
    let bytes ← withContext ("cannot read marker transaction entry " ++ name.text)
      (perform (readToEnd file (limit + 1)))
    ensure (bytes.length ≤ limit)
      (.refused ("marker transaction entry exceeds its size limit: " ++ name.text))
    let after ← perform (lease.fstat file)
    ensure (after = opened) (.refused ("marker entry changed while it was read: " ++ name.text))
    lease.ensureFileNameMatches name file
    pure (some ⟨after, bytes⟩)

def observeRequired (limit : Nat) : Action ObservedFile := do
  match ← observeOptional lease name limit with
  | some observed => pure observed
  | none => fail (.refused ("required marker entry is absent: " ++ name.text))

def validateUserFile (stat : EntryStat)
    (exactMode : Option Nat) : Action Unit := do
  ensure (stat.isRegular) (.refused "marker entry is not a regular file")
  ensure (stat.owner = lease.euid) (.refused "marker entry has a foreign owner")
  ensure (stat.links = 1) (.refused "marker entry must have one link")
  ensure (stat.permissions ≤ 0o777) (.refused "marker entry has unsupported permission bits")
  match exactMode with
  | some mode => ensure (stat.permissions = mode) (.refused "marker entry mode changed")
  | none => pure ()

def inspectOldValue : Action OldValue := do
  match ← observeOptional lease name maxOldValue with
  | none => pure .absent
  | some observed => do
    validateUserFile lease observed.stat none
    pure (.present observed.bytes (.fromStat observed.stat))

def readRecord : Action (Option OpenedRecord) := do
  match ← observeOptional lease name maxRecordBytes with
  | none => pure none
  | some observed => do
    ensure (observed.stat.permissions = stageMode)
      (.refused "marker transaction record mode is invalid")
    let file ← lease.openEntry name .readOnly
    let descriptorStat ← perform (lease.fstat file)
    ensure (descriptorStat = observed.stat) (.refused "marker journal changed before parse")
    lease.ensureFileNameMatches name file
    let record ← parseRecord coding observed.bytes
    pure (some ⟨file, record⟩)

def recordedOpenFile (file : File) : Action RecordedFile := do
  lease.ensureFileNameMatches name file
  let stat ← perform (lease.fstat file)
  validateUserFile lease stat (some stageMode)
  pure (.fromStat stat)

def expectedCommitted (transactionId : String) (root : RootIdentity)
    (selected admission : PreparedMarker) : CommittedRecord where
  schemaVersion := transactionSchema
  transactionId := transactionId
  root := root
  selected := ⟨selected.name, selected.newBytes, selected.stage⟩
  admission := ⟨admission.name, admission.newBytes, admission.stage⟩

/-! ## Open files -/

def verifyOpenIdentity (file : File)
    (expected : RecordedFile) : Action Unit := do
  let stat ← perform (lease.fstat file)
  ensure (expected.matches stat)
    (.refused ("transaction-owned marker identity changed: " ++ name.text))
  lease.ensureFileNameMatches name file

def openVerified (access : Access) : Action File := do
  let file ← lease.openEntry name access
  verifyOpenIdentity lease name file expected
  pure file

/-- The inode that was recorded, whatever its mode and size. -/
def RecordedFile.sameInode (stat : EntryStat) : Bool :=
  stat.isRegular && stat.device = expected.device && stat.inode = expected.inode
    && stat.owner = expected.owner && stat.links = expected.links

def verifyTransactionFileState (file : File)
    (expected : RecordedFile) (mode size : Nat) : Action Unit := do
  let stat ← perform (lease.fstat file)
  ensure ((expected.sameInode stat && stat.permissions = mode && stat.size = size))
    (.refused ("transaction-owned restored marker metadata changed: " ++ name.text))
  lease.ensureFileNameMatches name file

def openStageState (mode size : Nat) (access : Access) : Action File := do
  let file ← lease.openEntry name access
  verifyTransactionFileState lease name file expected mode size
  pure file

def openRestoringPrefix (oldBytes : Bytes) : Action File := do
  let file ← lease.openEntry name .readWrite
  let before ← perform (lease.fstat file)
  ensure ((expected.sameInode before && before.permissions = stageMode &&
      before.size < oldBytes.length))
    (.refused ("partial rollback marker is not the recorded writable stage inode: " ++ name.text))
  let read ← withContext ("cannot revalidate partial rollback marker " ++ name.text)
    (perform (readToEnd file (maxOldValue + 1)))
  ensure (read.length = before.size ∧ read.length < oldBytes.length ∧
      read.isPrefixOf oldBytes)
    (.refused ("partial rollback marker is not an exact old-value prefix: " ++ name.text))
  let after ← perform (lease.fstat file)
  ensure (after = before) (.refused ("partial rollback marker changed while opened: " ++ name.text))
  lease.ensureFileNameMatches name file
  pure file

def verifyRestoredValue (bytes : Bytes) (mode : Nat) : Action Unit := do
  let observed ← observeRequired lease name maxOldValue
  ensure (expected.sameInode observed.stat)
    (.refused ("restored marker inode changed: " ++ name.text))
  ensure (observed.stat.size = bytes.length)
    (.refused ("restored marker size changed: " ++ name.text))
  ensure (observed.stat.permissions = mode ∧ observed.bytes = bytes)
    (.refused ("restored marker value changed: " ++ name.text))

def writeEntry (file : File) (bytes : Bytes) : Action Unit := do
  lease.ensureFileNameMatches name file
  withContext ("cannot write marker transaction entry " ++ name.text)
    (perform (writeAll name file bytes))
  let stat ← perform (lease.fstat file)
  ensure (stat.isRegular ∧ stat.owner = lease.euid ∧ stat.links = 1)
    (.refused ("marker transaction entry changed during write: " ++ name.text))
  ensure (stat.permissions = stageMode ∧ stat.size = bytes.length)
    (.refused ("marker transaction entry metadata changed during write: " ++ name.text))
  lease.ensureFileNameMatches name file

def writeNewStage (file : File) (bytes : Bytes) : Action Unit := do
  validateNewValue bytes
  writeEntry lease name file bytes
  lease.syncFile file
  let observed ← observeRequired lease name maxOldValue
  ensure (observed.bytes = bytes ∧ observed.stat.permissions = stageMode)
    (.refused "new marker stage did not retain exact bytes and mode")

def unlinkExpected : Action Unit := do
  let file ← openVerified lease name expected .readOnly
  lease.ensureFileNameMatches name file
  lease.unlinkEntry name

def unlinkVerifiedPrimary (primary : File) : Action Unit := do
  lease.ensureFileNameMatches .transaction primary
  let stat ← perform (lease.fstat primary)
  ensure (stat.isRegular ∧ stat.owner = lease.euid) (.refused "Condition failed")
  ensure (stat.links = 1 ∧ stat.permissions = stageMode) (.refused "Condition failed")
  lease.unlinkEntry .transaction

/-! ## Rolling a prepared transaction back -/

def classifyPresent (old : Bytes) (original : RecordedFile)
    (observed : ObservedFile) :
    Action MarkerState := do
  if original.matches observed.stat ∧ observed.bytes = old then pure .originalOld
  else
    ensure (marker.stage.sameInode observed.stat)
      (.refused ("marker value is on a foreign inode: " ++ marker.name.text))
    let mode := observed.stat.permissions
    if observed.bytes = old then
      if mode = original.mode then pure .restoredOld
      else if mode = stageMode then pure .restoredBytes
      else fail (.refused ("restored marker has an unrecognized mode: " ++ marker.name.text))
    else if observed.bytes = marker.newBytes ∧ mode = stageMode then pure .installedNew
    else if observed.bytes.length < old.length ∧
        observed.bytes.isPrefixOf old ∧ mode = stageMode then
      pure .restoringOld
    else fail (.refused ("marker has a third value or unsupported mode: " ++ marker.name.text))

def classifyPreparedMarker : Action MarkerState := do
  let canonical ← observeOptional lease marker.name maxOldValue
  match marker.old, canonical with
  | .absent, none => pure .oldAbsent
  | .absent, some observed =>
    if marker.stage.matches observed.stat ∧ observed.bytes = marker.newBytes ∧
        observed.stat.permissions = stageMode then
      pure .installedNewForAbsent
    else fail (.refused "old-absent marker has a foreign or invalid value")
  | .present _ original, none =>
    fail (.refused ("old-present marker disappeared before recovery: " ++
      marker.name.text ++ " (" ++ toString original.inode ++ ")"))
  | .present bytes original, some observed => classifyPresent marker bytes original observed

/-- Make a restored value durable, and look at it once more. -/
def settleRestored (file : File) (bytes : Bytes)
    (mode : Nat) : Action Unit := do
  lease.syncFile file
  lease.syncRoot
  verifyRestoredValue lease marker.name marker.stage bytes mode

def restoreOldBytes (file : File) (bytes : Bytes)
    (originalMode : Nat) : Action Unit := do
  lease.ensureFileNameMatches marker.name file
  lease.truncateFile file
  withContext "cannot restore old marker bytes" (perform (writeAll marker.name file bytes))
  verifyTransactionFileState lease marker.name file marker.stage stageMode bytes.length
  if originalMode ≠ stageMode then lease.setFileMode file originalMode
  settleRestored lease marker file bytes originalMode

def restorePreparedMarker (state : MarkerState) : Action Unit :=
  match marker.old, state with
  | .absent, .oldAbsent => pure ()
  | .absent, .installedNewForAbsent => do
    let file ← openVerified lease marker.name marker.stage .readOnly
    lease.ensureFileNameMatches marker.name file
    lease.unlinkEntry marker.name
    lease.syncRoot
  | .present _ original, .originalOld => do
    let file ← openVerified lease marker.name original .readOnly
    lease.syncFile file
    lease.syncRoot
  | .present bytes original, .restoredOld => do
    let file ← openStageState lease marker.name marker.stage original.mode bytes.length .readOnly
    settleRestored lease marker file bytes original.mode
  | .present bytes original, .restoredBytes => do
    let file ← openStageState lease marker.name marker.stage stageMode bytes.length .readWrite
    lease.ensureFileNameMatches marker.name file
    lease.setFileMode file original.mode
    settleRestored lease marker file bytes original.mode
  | .present bytes original, .installedNew => do
    let file ← openVerified lease marker.name marker.stage .readWrite
    restoreOldBytes lease marker file bytes original.mode
  | .present bytes original, .restoringOld => do
    let file ← openRestoringPrefix lease marker.name marker.stage bytes
    restoreOldBytes lease marker file bytes original.mode
  | _, _ => fail (.refused ("marker recovery state is not restorable: " ++ marker.name.text))

/-- A state of the canonical leaf that goes with a stage that is gone. -/
def withoutStage : MarkerState → Bool
  | .originalOld => false
  | _ => true

def validateStageResidue (state : MarkerState)
    (bothOldComplete : Bool) : Action Unit := do
  match ← observeOptional lease marker.stageName maxOldValue with
  | some stage => do
    ensure (marker.stage.matches stage.stat)
      (.refused ("foreign marker stage residue: " ++ marker.stageName.text))
    ensure (stage.bytes = marker.newBytes)
      (.refused ("marker stage residue bytes changed: " ++ marker.stageName.text))
    ensure (state = .originalOld ∨ state = .oldAbsent)
      (.refused "marker stage name and canonical leaf both reference the installed stage inode")
  | none =>
    ensure (bothOldComplete ∨ withoutStage state)
      (.refused "marker stage residue is missing before rollback is complete")

def validatePreparedStageResidues (selected admission : PreparedMarker)
    (selectedState admissionState : MarkerState) : Action Unit := do
  let bothOldComplete := isCompleteOldState selectedState && isCompleteOldState admissionState
  validateStageResidue lease selected selectedState bothOldComplete
  validateStageResidue lease admission admissionState bothOldComplete

def cleanupStage : Action Unit := do
  match ← observeOptional lease marker.stageName maxOldValue with
  | none => pure ()
  | some observed => do
    ensure (marker.stage.matches observed.stat)
      (.refused ("foreign marker stage residue: " ++ marker.stageName.text))
    ensure (observed.bytes = marker.newBytes) (.refused "marker stage residue bytes changed")
    unlinkExpected lease marker.stageName marker.stage

def cleanupCandidate (candidate : CandidateRecord) : Action Unit := do
  match ← observeOptional lease .next maxRecordBytes with
  | none => pure ()
  | some observed => do
    ensure (candidate.file.matches observed.stat)
      (.refused "foreign marker candidate residue")
    ensure (candidate.sha256 = digestHex coding observed.bytes)
      (.refused "marker candidate residue digest changed")
    unlinkExpected lease .next candidate.file

def cleanupPreparedResidues (selected admission : PreparedMarker)
    (candidate : CandidateRecord) (primary : File) : Action Unit := do
  cleanupStage lease selected
  cleanupStage lease admission
  cleanupCandidate coding lease candidate
  lease.syncRoot
  unlinkVerifiedPrimary lease primary
  withContext "Prepared old state is restored; final journal unlink sync is pending" lease.syncRoot

/-- The candidate of a prepared record, if it is still there. -/
def validateCandidate (record : PreparedRecord) : Option ObservedFile → Action Unit
  | none => pure ()
  | some next => do
    ensure (record.candidate.file.matches next.stat)
      (.refused "marker candidate identity or metadata changed")
    ensure (record.candidate.sha256 = digestHex coding next.bytes)
      (.refused "marker candidate digest changed")
    ensure (next.bytes.length = record.candidate.file.size)
      (.refused "marker candidate size changed")
    let parsed ← parseRecord coding next.bytes
    ensure (parsed = .committed (expectedCommitted record.transactionId
        lease.identity record.selected record.admission))
      (.refused "Committed candidate does not match Prepared transaction")

def recoverPrepared (primary : File)
    (record : PreparedRecord) : Action Unit := do
  validatePrepared lease record
  let next ← observeOptional lease .next maxRecordBytes
  validateCandidate coding lease record next
  let selectedState ← classifyPreparedMarker lease record.selected
  let admissionState ← classifyPreparedMarker lease record.admission
  ensure (¬(next = none ∧ (isCompleteOldState selectedState = false ∨
      isCompleteOldState admissionState = false)))
    (.refused "Prepared recovery candidate is missing while a marker needs restoration")
  validatePreparedStageResidues lease record.selected record.admission selectedState admissionState
  lease.ensureFileNameMatches .transaction primary
  restorePreparedMarker lease record.selected selectedState
  restorePreparedMarker lease record.admission admissionState
  let selectedState ← classifyPreparedMarker lease record.selected
  let admissionState ← classifyPreparedMarker lease record.admission
  ensure (isCompleteOldState selectedState ∧ isCompleteOldState admissionState)
    (.refused "Prepared rollback did not restore both old marker states")
  cleanupPreparedResidues coding lease record.selected record.admission record.candidate primary

def checkCommittedMarker (transactionId : String)
    (marker : CommittedMarker) : Action Unit := do
  let observed ← observeRequired lease marker.name maxOldValue
  ensure (marker.installed.matches observed.stat ∧ marker.newBytes = observed.bytes)
    (.refused "committed marker no longer matches its installed inode")
  let stage ← committedStageName transactionId marker.name
  let residue ← lease.entryStat stage
  ensure (residue = none)
    (.refused ("unexpected committed marker stage residue is present: " ++ stage.text))

def recoverCommitted (primary : File)
    (record : CommittedRecord) : Action Unit := do
  validateCommitted lease record
  checkCommittedMarker lease record.transactionId record.selected
  checkCommittedMarker lease record.transactionId record.admission
  let residue ← lease.entryStat .next
  ensure (residue = none) (.refused "unexpected committed marker candidate residue is present")
  unlinkVerifiedPrimary lease primary
  withContext
    "Committed marker pair remains authoritative; journal unlink directory sync is pending"
    lease.syncRoot

def recoverLocked : Action Unit := do
  lease.ensureRootIdentity
  match ← readRecord coding lease .transaction with
  | none => do
    let orphan ← lease.entryStat .next
    ensure (orphan = none)
      (.refused "orphan marker transaction candidate is present without Prepared")
  | some ⟨file, .prepared record⟩ => recoverPrepared coding lease file record
  | some ⟨file, .committed record⟩ => recoverCommitted lease file record

/--
Create, write and record one stage: the file as soon as there is one, and how
its setup ended.
-/
def setupStage (bytes : Bytes) :
    Action (List (EntryName × File) × Except Failure (File × RecordedFile)) := do
  match ← attempt (lease.createEntry name stageMode) with
  | .error failure => pure ([], .error failure)
  | .ok file => do
    let setup ← attempt (do
      perform (settle "dup")
      writeNewStage lease name file bytes
      let record ← recordedOpenFile lease name file
      pure (file, record))
    pure ([(name, file)], setup)

def removeOwnedSetupStages : List (EntryName × File) → Action Bool
  | [] => pure false
  | (name, file) :: rest => do
    let opened ← perform (lease.fstat file)
    match ← lease.entryStat name with
    | none => removeOwnedSetupStages rest
    | some named => do
      ensure (named = opened ∧ named.isRegular)
        (.refused ("pre-Prepared stage changed before cleanup: " ++ name.text))
      lease.ensureFileNameMatches name file
      lease.unlinkEntry name
      let _ ← removeOwnedSetupStages rest
      pure true

/-- Remove the stages of a setup that failed, and fail. -/
def abandonSetup {Value : Type} (created : List (EntryName × File))
    (failure : Failure) : Action Value := do
  let cause := Failure.context "marker stage setup failed before candidate creation" failure
  let cleanup ← attempt (do
    let removed ← removeOwnedSetupStages lease created
    if removed then lease.syncRoot)
  match cleanup with
  | .ok _ => fail cause
  | .error pending =>
    fail (.context ("pre-Prepared stage cleanup is pending: " ++ pending.text) cause)

def prepareMarkerStages (transactionId : String)
    (selectedNew admissionNew : Bytes) : Action PreparedStages := do
  let selectedOld ← inspectOldValue lease (.marker .selected)
  let admissionOld ← inspectOldValue lease (.marker .admission)
  let selectedStage := EntryName.stage transactionId .selected
  let admissionStage := EntryName.stage transactionId .admission
  match ← setupStage lease selectedStage selectedNew with
  | (created, .error failure) => abandonSetup lease created failure
  | (created, .ok (selectedFile, selectedRecord)) => do
    match ← setupStage lease admissionStage admissionNew with
    | (more, .error failure) => abandonSetup lease (created ++ more) failure
    | (more, .ok (admissionFile, admissionRecord)) => do
      match ← attempt lease.syncRoot with
      | .error failure => abandonSetup lease (created ++ more) failure
      | .ok _ =>
        pure {
          selected := ⟨.marker .selected, selectedOld, selectedNew, selectedStage, selectedRecord⟩
          selectedFile
          admission := ⟨.marker .admission, admissionOld, admissionNew,
            admissionStage, admissionRecord⟩
          admissionFile }

/-- The contexts of the steps that put a record into the root. -/
structure RecordContexts where
  create : String
  write : String
  syncFile : String
  syncRoot : String

/-- Create an entry, write a record to it and make both durable. -/
def putRecord (contexts : RecordContexts) (name : EntryName)
    (bytes : Bytes) : Action File := do
  let file ← withContext contexts.create (lease.createEntry name stageMode)
  withContext contexts.write (writeEntry lease name file bytes)
  withContext contexts.syncFile (lease.syncFile file)
  withContext contexts.syncRoot lease.syncRoot
  pure file

def candidateContexts : RecordContexts where
  create := "cannot create Committed candidate; preserving marker stages"
  write := "Committed candidate is incomplete; preserving evidence"
  syncFile := "Committed candidate file sync failed; preserving evidence"
  syncRoot := "candidate directory sync failed; preserving evidence"

def journalContexts : RecordContexts where
  create := "cannot create Prepared journal; preserving candidate evidence"
  write := "Prepared journal is incomplete; preserving transaction evidence"
  syncFile := "Prepared journal file sync failed; preserving transaction evidence"
  syncRoot := "Prepared journal directory sync failed; preserving transaction evidence"

def prepareTransactionRecords (transactionId : String)
    (stages : PreparedStages) : Action PreparedPublication := do
  let committed := expectedCommitted transactionId lease.identity stages.selected stages.admission
  let candidateBytes ← serializeRecord coding (.committed committed)
  let nextFile ← putRecord lease candidateContexts .next candidateBytes
  let candidateFile ← recordedOpenFile lease .next nextFile
  let prepared : PreparedRecord := {
    schemaVersion := transactionSchema
    transactionId
    root := lease.identity
    selected := stages.selected
    admission := stages.admission
    candidate := ⟨.next, candidateFile, digestHex coding candidateBytes⟩ }
  let preparedBytes ← serializeRecord coding (.prepared prepared)
  let primaryFile ← putRecord lease journalContexts .transaction preparedBytes
  pure {
    record := prepared
    nextFile
    primaryFile
    selectedFile := stages.selectedFile
    admissionFile := stages.admissionFile }

/-! ## Installing and committing -/

def verifyOldValue : Action Unit := do
  match marker.old with
  | .absent => do
    let appeared ← lease.entryStat marker.name
    ensure (appeared = none)
      (.refused ("previously absent marker appeared before publication: " ++ marker.name.text))
  | .present bytes original => do
    let observed ← observeRequired lease marker.name maxOldValue
    ensure (original.matches observed.stat ∧ observed.bytes = bytes)
      (.refused ("previous marker changed before publication: " ++ marker.name.text))

/-- The stage of a marker with its new value, under the given name. -/
def verifyNewValue (name : EntryName) (message : String) : Action Unit := do
  let observed ← observeRequired lease name maxOldValue
  ensure (marker.stage.matches observed.stat ∧ observed.bytes = marker.newBytes)
    (.refused (message ++ name.text))

def verifyStageValue : Action Unit :=
  verifyNewValue lease marker marker.stageName "transaction stage changed before marker install: "

def verifyInstalledValue : Action Unit :=
  verifyNewValue lease marker marker.name "installed marker changed before commit decision: "

def preflightPreparedPublication : Action Unit := do
  let record := publication.record
  lease.ensureRootIdentity
  match ← readRecord coding lease .transaction with
  | none => fail (.refused "Prepared marker record disappeared before installation")
  | some primary => do
    let expectedPrimary ← perform (lease.fstat publication.primaryFile)
    let observedPrimary ← perform (lease.fstat primary.file)
    ensure (expectedPrimary = observedPrimary)
      (.refused "Prepared marker record changed before installation")
    ensure (primary.record = .prepared record)
      (.refused "Prepared marker record differs from the in-memory publication")
    validatePrepared lease record
    lease.ensureFileNameMatches .next publication.nextFile
    let next ← observeRequired lease .next maxRecordBytes
    let expectedNext ← perform (lease.fstat publication.nextFile)
    ensure (record.candidate.file.matches next.stat ∧ expectedNext = next.stat)
      (.refused "Committed marker candidate identity changed before installation")
    ensure (record.candidate.file.size = next.bytes.length ∧
        record.candidate.sha256 = digestHex coding next.bytes)
      (.refused "Committed marker candidate content changed before installation")
    let parsed ← parseRecord coding next.bytes
    ensure (parsed = .committed (expectedCommitted record.transactionId
        lease.identity record.selected record.admission))
      (.refused "Committed marker candidate differs from Prepared marker inputs")
    verifyOldValue lease record.selected
    verifyStageValue lease record.selected
    verifyOldValue lease record.admission
    verifyStageValue lease record.admission
    lease.ensureRootIdentity

def installMarker (stage : File) (marker : PreparedMarker) : Action Unit := do
  verifyOldValue lease marker
  verifyStageValue lease marker
  lease.ensureFileNameMatches marker.stageName stage
  lease.renameEntry marker.stageName marker.name
  lease.syncRoot
  lease.ensureRootIdentity
  lease.ensureFileNameMatches marker.name stage

/-- The answer of the caller's `final_generation_fence`. -/
def finalGenerationFence (answer : Except Failure Unit) : Operation Disk Failure Unit where
  complete := fun disk => (answer, disk)
  failure := .system "final generation fence"

def publishPreparedMarkers (fence : Except Failure Unit) : Action Unit := do
  preflightPreparedPublication coding lease publication
  installMarker lease publication.selectedFile publication.record.selected
  installMarker lease publication.admissionFile publication.record.admission
  withContext "configuration generation changed before marker commit"
    (perform (finalGenerationFence fence))
  lease.ensureRootIdentity
  verifyInstalledValue lease publication.record.selected
  verifyInstalledValue lease publication.record.admission

def rollbackPreparedFailure (publication : Failure)
    (message : String) : Action Unit := do
  let publication := Failure.context message publication
  match ← attempt (recoverLocked coding lease) with
  | .ok _ => fail (.preCommitFailure publication)
  | .error rollback => fail (.preparedRollbackPending publication rollback)

/-- Errors from the commit rename on no longer roll back. -/
def commitDecided : Action Unit := do
  match ← attempt (do
      lease.renameEntry .next .transaction
      lease.ensureFileNameMatches .transaction publication.nextFile
      lease.syncRoot) with
  | .error failure => fail (.commitUncertain failure)
  | .ok _ => do
    match ← attempt (recoverLocked coding lease) with
    | .ok _ => pure ()
    | .error failure => fail (.committedCleanupPending failure)

def commitPreparedPublication : Action Unit := do
  match ← attempt (lease.ensureFileNameMatches .next publication.nextFile) with
  | .error cause =>
    rollbackPreparedFailure coding lease cause
      "marker commit candidate changed before the commit decision"
  | .ok _ => do
    match ← attempt (lease.ensureFileNameMatches .transaction publication.primaryFile) with
    | .error cause =>
      rollbackPreparedFailure coding lease cause
        "Prepared journal changed before the commit decision"
    | .ok _ => commitDecided coding lease publication

/-- An error before the commit decision, as the publisher reports it. -/
def precommit {Value : Type} (message : String)
    (action : Action Value) : Action Value := do
  match ← attempt action with
  | .ok value => pure value
  | .error failure => fail (.preCommitFailure (.context message failure))

def publishLocked (selectedNew admissionNew : Bytes) (moment : Moment)
    (fence : Except Failure Unit) : Action Unit := do
  validateNewValue selectedNew
  validateNewValue admissionNew
  lease.ensureRootIdentity
  lease.ensureNoReservedJournal .transaction
  lease.ensureNoReservedJournal .next
  let transactionId ← newTransactionId moment
  let stages ← precommit "cannot prepare marker content stages"
    (prepareMarkerStages lease transactionId selectedNew admissionNew)
  let publication ← precommit "cannot prepare marker transaction records"
    (prepareTransactionRecords coding lease transactionId stages)
  match ← attempt (publishPreparedMarkers coding lease publication fence) with
  | .error cause =>
    rollbackPreparedFailure coding lease cause
      "marker publication failed before the commit decision"
  | .ok _ => commitPreparedPublication coding lease publication

end

end Jackin.AccountMarkers
