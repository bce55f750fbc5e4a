import Jackin.AccountMarkers.Record
import Jackin.Foundation.Codec
import Jackin.Foundation.Json

/-!
# A coding of transaction records

What is assumed about the coding of records can be had.  Here is a coding
that writes given records as `serde_json` writes them, if none of these texts
begins with another one, and any other record as a number.
-/

namespace Jackin.AccountMarkers

open Foundation

deriving instance Encodable for Role, EntryName, RootIdentity, RecordedFile, OldValue,
  PreparedMarker, CommittedMarker, CandidateRecord, PreparedRecord, CommittedRecord,
  TransactionRecord

def RootIdentity.json (root : RootIdentity) : Json :=
  .object [("device", .number root.device), ("inode", .number root.inode)]

def RecordedFile.json (file : RecordedFile) : Json :=
  .object [("device", .number file.device), ("inode", .number file.inode),
    ("owner", .number file.owner), ("links", .number file.links),
    ("mode", .number file.mode), ("size", .number file.size)]

/-- A byte string is an array of numbers. -/
def bytesJson (bytes : Bytes) : Json :=
  .array (bytes.map fun byte => .number byte.toNat)

def OldValue.json : OldValue → Json
  | .absent => .object [("state", .string "absent")]
  | .present bytes original =>
    .object [("state", .string "present"), ("bytes", bytesJson bytes), ("original", original.json)]

def PreparedMarker.json (marker : PreparedMarker) : Json :=
  .object [("name", .string marker.name.text), ("old", marker.old.json),
    ("new_bytes", bytesJson marker.newBytes), ("stage_name", .string marker.stageName.text),
    ("stage", marker.stage.json)]

def CommittedMarker.json (marker : CommittedMarker) : Json :=
  .object [("name", .string marker.name.text), ("new_bytes", bytesJson marker.newBytes),
    ("installed", marker.installed.json)]

def CandidateRecord.json (candidate : CandidateRecord) : Json :=
  .object [("name", .string candidate.name.text), ("file", candidate.file.json),
    ("sha256", .string candidate.sha256)]

def TransactionRecord.json : TransactionRecord → Json
  | .prepared record =>
    .object [("phase", .string "prepared"), ("schema_version", .number record.schemaVersion),
      ("transaction_id", .string record.transactionId), ("root", record.root.json),
      ("selected", record.selected.json), ("admission", record.admission.json),
      ("candidate", record.candidate.json)]
  | .committed record =>
    .object [("phase", .string "committed"), ("schema_version", .number record.schemaVersion),
      ("transaction_id", .string record.transactionId), ("root", record.root.json),
      ("selected", record.selected.json), ("admission", record.admission.json)]

/-- Records with the texts the code writes for them. -/
def written (records : List TransactionRecord) : List (TransactionRecord × Bytes) :=
  records.map fun record => (record, record.json.render)

/-- The coding of a few records, for any digest. -/
def codingOf (texts : Texts TransactionRecord)
    (sha256 : Bytes → Vector UInt8 32) : Coding where
  encode := texts.write
  decode := texts.read
  decode_encode := texts.read_write
  decode_cut := fun _ _ => texts.read_take
  sha256 := sha256

end Jackin.AccountMarkers
