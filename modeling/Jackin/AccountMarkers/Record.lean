import Jackin.AccountMarkers.Lease

/-!
# Records of a marker transaction

A transaction that changes both markers is described by a record in the root.
A prepared record has what is needed to put the old values back, a committed
one what the new values are.

How a record is written as bytes is left to a coding.  Of it only this is
assumed: a written record is read back, and what is left when its last bytes
are missing is not a record.
-/

namespace Jackin.AccountMarkers

open Foundation Script

/-- `TRANSACTION_SCHEMA`. -/
def transactionSchema : Nat := 2

/-- `MAX_OLD_VALUE`. -/
def maxOldValue : Nat := 4096

/-- `MAX_RECORD_BYTES`. -/
def maxRecordBytes : Nat := 65536

/-- `TXID_HEX_LEN`. -/
def transactionIdLength : Nat := 48

/-- The identity of a file, as recorded. -/
structure RecordedFile where
  device : Nat
  inode : Nat
  owner : Nat
  links : Nat
  mode : Nat
  size : Nat
  deriving DecidableEq

def RecordedFile.fromStat (stat : EntryStat) : RecordedFile where
  device := stat.device
  inode := stat.inode
  owner := stat.owner
  links := stat.links
  mode := stat.permissions
  size := stat.size

def RecordedFile.matches (file : RecordedFile) (stat : EntryStat) : Bool :=
  stat.isRegular && file.device = stat.device && file.inode = stat.inode && file.owner = stat.owner
    && file.links = stat.links && file.mode = stat.permissions && file.size = stat.size

/-- A marker before its transaction. -/
inductive OldValue where
  | absent
  | present (bytes : Bytes) (original : RecordedFile)
  deriving DecidableEq

/-- A marker that its stage is to replace. -/
structure PreparedMarker where
  name : EntryName
  old : OldValue
  newBytes : Bytes
  stageName : EntryName
  stage : RecordedFile
  deriving DecidableEq

/-- A marker that was replaced. -/
structure CommittedMarker where
  name : EntryName
  newBytes : Bytes
  installed : RecordedFile
  deriving DecidableEq

structure CandidateRecord where
  name : EntryName
  file : RecordedFile
  sha256 : String
  deriving DecidableEq

/-- A transaction that can be rolled back. -/
structure PreparedRecord where
  schemaVersion : Nat
  transactionId : String
  root : RootIdentity
  selected : PreparedMarker
  admission : PreparedMarker
  candidate : CandidateRecord
  deriving DecidableEq

/-- A transaction that stands. -/
structure CommittedRecord where
  schemaVersion : Nat
  transactionId : String
  root : RootIdentity
  selected : CommittedMarker
  admission : CommittedMarker
  deriving DecidableEq

inductive TransactionRecord where
  | prepared (record : PreparedRecord)
  | committed (record : CommittedRecord)
  deriving DecidableEq

/-- How records are written, and what contents are digested to. -/
structure Coding where
  encode : TransactionRecord → Bytes
  decode : Bytes → Option TransactionRecord
  decode_encode : ∀ record, decode (encode record) = some record
  decode_cut : ∀ record extent, extent < (encode record).length →
    decode ((encode record).take extent) = none
  sha256 : Bytes → Vector UInt8 32

/-- A hexadecimal digit that is not an uppercase letter. -/
def lowerHexDigit (code : Nat) : Bool :=
  (48 ≤ code && code ≤ 57) || (97 ≤ code && code ≤ 102)

/-- `LOWER_HEX`. -/
def lowerHex (digit : Nat) : Char :=
  Char.ofNat (if digit < 10 then 48 + digit else 87 + digit)

def lowerHexText (text : String) (length : Nat) : Bool :=
  text.toList.length = length && text.toList.all fun character => lowerHexDigit character.toNat

def digestHex (coding : Coding) (bytes : Bytes) : String :=
  String.ofList ((coding.sha256 bytes).toList.flatMap fun byte =>
    [lowerHex (byte.toNat / 16), lowerHex (byte.toNat % 16)])

/-- The format `016x`. -/
def hex16 (value : UInt64) : List Char :=
  (List.range 16).map fun place => lowerHex (value.toNat / 16 ^ (15 - place) % 16)

/-- The process, the time and the counter that make a transaction id. -/
structure Moment where
  processId : UInt32
  /-- The nanoseconds since the epoch, unless the clock predates it. -/
  nanos : Option UInt64
  counter : UInt64

def newTransactionId (moment : Moment) : Action String :=
  match moment.nanos with
  | none => fail (.refused "system clock predates transaction epoch")
  | some nanos =>
    pure (String.ofList (hex16 moment.processId.toUInt64 ++ hex16 nanos ++ hex16 moment.counter))

/-! ## Checks of records -/

def roleForMarker : EntryName → Action Role
  | .marker role => pure role
  | name => fail (.refused ("unknown marker role name: " ++ name.text))

def validateTransactionId (transactionId : String) : Action Unit := do
  ensure (transactionId.toList.length = transactionIdLength)
    (.refused "invalid marker transaction id length")
  ensure (transactionId.toList.all (fun character =>
      lowerHexDigit character.toNat))
    (.refused "invalid marker transaction id encoding")

def committedStageName (transactionId : String)
    (canonicalName : EntryName) : Action EntryName := do
  let role ← roleForMarker canonicalName
  validateTransactionId transactionId
  pure (.stage transactionId role)

def validateNewValue (bytes : Bytes) : Action Unit := do
  ensure (bytes.length = 64) (.refused "new marker value must contain exactly 64 hex bytes")
  ensure (bytes.all (fun byte => lowerHexDigit byte.toNat))
    (.refused "new marker value must be lowercase hex")

def validateHexDigest (digest : String) : Action Unit :=
  ensure (lowerHexText digest 64) (.refused "invalid marker transaction digest")

variable (lease : MarkerPairLease)

def validateRecordedFile (file : RecordedFile)
    (expectedMode : Nat) : Action Unit := do
  ensure (file.mode = expectedMode) (.refused "marker transaction file mode is invalid")
  ensure (file.owner = lease.euid) (.refused "marker transaction file owner is invalid")
  ensure (file.links = 1) (.refused "marker transaction file link count is invalid")
  ensure (file.mode ≤ 0o777) (.refused "marker transaction file has unsupported permission bits")

def validateOldValue : OldValue → Action Unit
  | .absent => pure ()
  | .present bytes original => do
    ensure (bytes.length ≤ maxOldValue) (.refused "old marker value exceeds size limit")
    ensure (original.size = bytes.length)
      (.refused "old marker recorded size does not match its bytes")
    validateRecordedFile lease original original.mode
    ensure (original.owner = lease.euid) (.refused "old marker owner changed")
    ensure (original.links = 1) (.refused "old marker must have exactly one link")
    ensure (original.device = lease.identity.device) (.refused "old marker is on another device")

def validatePreparedMarker (marker : PreparedMarker) (fixedName : EntryName)
    (transactionId : String) : Action Unit := do
  ensure (marker.name = fixedName) (.refused "Prepared marker name is not canonical")
  validateNewValue marker.newBytes
  let role ← roleForMarker fixedName
  ensure (marker.stageName = .stage transactionId role)
    (.refused "Prepared marker stage name is not derived from its transaction id")
  validateRecordedFile lease marker.stage stageMode
  ensure (marker.stage.size = marker.newBytes.length)
    (.refused "marker stage recorded size does not match new bytes")
  validateOldValue lease marker.old
  ensure (marker.stage.owner = lease.euid) (.refused "marker stage owner changed")
  ensure (marker.stage.links = 1) (.refused "marker stage must have exactly one link")
  ensure (marker.stage.device = lease.identity.device)
    (.refused "marker stage is on another device")

def validatePrepared (record : PreparedRecord) : Action Unit := do
  ensure (record.schemaVersion = transactionSchema) (.refused "unsupported marker schema version")
  validateTransactionId record.transactionId
  ensure (record.root = lease.identity) (.refused "Prepared marker root identity changed")
  validatePreparedMarker lease record.selected (.marker .selected) record.transactionId
  validatePreparedMarker lease record.admission (.marker .admission) record.transactionId
  ensure (record.selected.stageName ≠ record.admission.stageName)
    (.refused "Prepared marker stages are not distinct")
  ensure (record.candidate.name = .next) (.refused "invalid Prepared candidate name")
  validateRecordedFile lease record.candidate.file stageMode
  ensure (record.candidate.file.device = lease.identity.device)
    (.refused "Prepared candidate is on another device")
  ensure (record.candidate.file.size ≤ maxRecordBytes)
    (.refused "Prepared candidate exceeds record size limit")
  validateHexDigest record.candidate.sha256

def validateCommittedMarker (marker : CommittedMarker)
    (fixedName : EntryName) : Action Unit := do
  ensure (marker.name = fixedName) (.refused "Committed marker name is not canonical")
  validateNewValue marker.newBytes
  validateRecordedFile lease marker.installed stageMode
  ensure (marker.installed.device = lease.identity.device)
    (.refused "Committed marker is on another device")
  ensure (marker.installed.size = marker.newBytes.length)
    (.refused "Committed marker recorded size does not match its bytes")

def validateCommitted (record : CommittedRecord) : Action Unit := do
  ensure (record.schemaVersion = transactionSchema) (.refused "unsupported marker schema version")
  validateTransactionId record.transactionId
  ensure (record.root = lease.identity) (.refused "Committed marker root identity changed")
  validateCommittedMarker lease record.selected (.marker .selected)
  validateCommittedMarker lease record.admission (.marker .admission)
  ensure (record.selected.name ≠ record.admission.name)
    (.refused "Committed marker names are not distinct")

def parseRecord (coding : Coding)
    (bytes : Bytes) : Action TransactionRecord := do
  ensure (bytes.length ≤ maxRecordBytes) (.refused "marker transaction record is oversized")
  match coding.decode bytes with
  | some record => pure record
  | none => fail (.refused "marker transaction record is malformed or unsupported")

def serializeRecord (coding : Coding)
    (record : TransactionRecord) : Action Bytes := do
  ensure ((coding.encode record).length ≤ maxRecordBytes)
    (.refused "marker transaction record exceeds size limit")
  pure (coding.encode record)

end Jackin.AccountMarkers
