import Jackin.Attach.Frames

/-!
# Frames from the capsule to the attach client

`encode_server` writes fourteen kinds of frames and asserts what it needs of
the exported names and chunks; `decode_server` checks again what it reads.
Whatever list of frames the capsule writes, the client reads the same list and
then the end of the stream.

An assertion that fails ends the encoder, which is `none` here.
-/

namespace Jackin.Attach

open Option Foundation Wire
open Reader (decode_of_run run_bind run_ensure run_last)
open PayloadCursor

variable {encoding : List UInt8}

/-- A file that the client is to store. -/
structure FileExportStart where
  transferId : UInt64
  sourcePath : String
  fileName : String
  size : UInt64
  revealAfterExport : Bool
  openAfterExport : Bool

structure FileExportChunk where
  transferId : UInt64
  offset : UInt64
  bytes : List UInt8

structure FileExportEnd where
  transferId : UInt64
  sha256 : Digest

inductive AttachControlResult where
  | success
  | invalidCorrelation
  | rejected

/-- The answer to the request of that number. -/
structure AttachControlResponse where
  requestId : UInt64
  result : AttachControlResult

/-- What the server sends. -/
inductive ServerFrame where
  | welcome (sessionCount : UInt32)
  | output (bytes : List UInt8)
  | sessionList (json : List UInt8)
  | shutdown (reason : Option String)
  | bell
  | hostOpenUrl (url : String)
  | fileExportStart (start : FileExportStart)
  | fileExportChunk (chunk : FileExportChunk)
  | fileExportEnd (ending : FileExportEnd)
  | hostRevealPath (path : String)
  | hostStageImageFromClipboardPath
  | hostPasteImageFromClipboard
  | hostStageImageFromClipboard
  | attachControlResponse (response : AttachControlResponse)

/-- `u8::from` of a flag. -/
def flag (value : Bool) : UInt8 := if value then 1 else 0

def encodeFileExportStart (start : FileExportStart) : Option (List UInt8) :=
  let source := utf8 start.sourcePath
  let name := utf8 start.fileName
  -- The four assertions.
  if source ≠ [] ∧ source.length ≤ maxFileExportPathBytes ∧
      name ≠ [] ∧ name.length ≤ maxFileExportNameBytes then
    some <| encode tagFileExportStart <| u64 start.transferId ++ (u64 start.size ++
        (u16 (UInt16.ofNat source.length) ++ (u16 (UInt16.ofNat name.length) ++
            flag start.revealAfterExport :: flag start.openAfterExport :: (source ++ name))))
  else none

def encodeFileExportChunk (chunk : FileExportChunk) : Option (List UInt8) :=
  if chunk.bytes ≠ [] ∧ chunk.bytes.length ≤ maxFileExportChunkBytes then
    some <| encode tagFileExportChunk <| u64 chunk.transferId ++ (u64 chunk.offset ++ chunk.bytes)
  else none

def encodeFileExportEnd (ending : FileExportEnd) : List UInt8 :=
  encode tagFileExportEnd (u64 ending.transferId ++ ending.sha256.toList)

def AttachControlResult.code : AttachControlResult → UInt8
  | .success => 0
  | .invalidCorrelation => 1
  | .rejected => 2

def encodeResponse (response : AttachControlResponse) : List UInt8 :=
  encode tagAttachControlResponse (u64 response.requestId ++ [response.result.code])

def encodeServer : ServerFrame → Option (List UInt8)
  | .welcome sessionCount => some (encode tagWelcome (u32 sessionCount))
  | .output bytes => some (encode tagOutput bytes)
  | .sessionList json => some (encode tagSessionList json)
  | .shutdown reason => some (encode tagShutdown (utf8 (reason.getD "")))
  | .bell => some (encode tagBell [])
  | .hostOpenUrl url => some (encode tagHostOpenUrl (utf8 url))
  | .fileExportStart start => encodeFileExportStart start
  | .fileExportChunk chunk => encodeFileExportChunk chunk
  | .fileExportEnd ending => some (encodeFileExportEnd ending)
  | .hostRevealPath path => some (encode tagHostRevealPath (utf8 path))
  | .hostStageImageFromClipboardPath => some (encode tagHostStageImageFromClipboardPath [])
  | .hostPasteImageFromClipboard => some (encode tagHostPasteImageFromClipboard [])
  | .hostStageImageFromClipboard => some (encode tagHostStageImageFromClipboard [])
  | .attachControlResponse response => some (encodeResponse response)

/-! ## Decoding -/

def isHostOpenUrlScheme (url : String) : Bool :=
  let lower := url.toList.map Char.toLower
  "http://".toList.isPrefixOf lower || "https://".toList.isPrefixOf lower ||
    "mailto:".toList.isPrefixOf lower

/-- A flag byte. -/
def readFlag (field : String) : Reader Bool := do
  let value ← readU8 field
  match value with
  | 0 => pure false
  | 1 => pure true
  | other => Reader.refuse s!"{field} must be 0 or 1, got {other}"

def readFileExportStart : Reader FileExportStart := do
  let transferId ← readU64 "file export transfer id"
  let size ← readU64 "file export size"
  let sourceLength ← readU16 "file export source path length"
  let nameLength ← readU16 "file export file name length"
  let revealAfterExport ← readFlag "file export reveal flag"
  let openAfterExport ← readFlag "file export open flag"
  Reader.ensure (¬(sourceLength.toNat = 0 ∨ maxFileExportPathBytes < sourceLength.toNat))
    s!"file export source path length {sourceLength} exceeds cap {maxFileExportPathBytes}"
  Reader.ensure (¬(nameLength.toNat = 0 ∨ maxFileExportNameBytes < nameLength.toNat))
    s!"file export file name length {nameLength} exceeds cap {maxFileExportNameBytes}"
  let sourcePath ← readString sourceLength.toNat "file export source path"
  let fileName ← readString nameLength.toNat "file export file name"
  let finished ← Reader.finished
  Reader.ensure finished "file export start payload has trailing bytes"
  pure { transferId, sourcePath, fileName, size, revealAfterExport, openAfterExport }

def readFileExportChunk : Reader FileExportChunk := do
  let transferId ← readU64 "file export transfer id"
  let offset ← readU64 "file export offset"
  let bytes ← readRemaining
  let length := bytes.length
  Reader.ensure (bytes ≠ []) "file export chunk is empty"
  Reader.ensure (length ≤ maxFileExportChunkBytes)
    s!"file export chunk length {length} exceeds cap {maxFileExportChunkBytes}"
  pure { transferId, offset, bytes }

def readFileExportEnd : Reader FileExportEnd := do
  let transferId ← readU64 "file export transfer id"
  let sha256 ← readDigest "file export sha256" "file export sha256 slice length mismatch"
  let finished ← Reader.finished
  Reader.ensure finished "file export end payload has trailing bytes"
  pure { transferId, sha256 }

def readResponse : Reader AttachControlResponse := do
  let requestId ← readU64 "attach control response request id"
  let code ← readU8 "attach control response result"
  let result ← match code with
    | 0 => pure .success
    | 1 => pure .invalidCorrelation
    | 2 => pure .rejected
    | other => Reader.refuse s!"unknown attach control response result {other}"
  let finished ← Reader.finished
  Reader.ensure finished "attach control response has trailing bytes"
  pure { requestId, result }

/-- A request without data. -/
def decodeEmpty (frame : ServerFrame) (payload : List UInt8)
    (complaint : String) : Except String ServerFrame :=
  if payload = [] then .ok frame else .error complaint

section

variable (payload : List UInt8)

def decodeWelcome : Except String ServerFrame :=
  if 4 ≤ payload.length then .ok (.welcome (UInt32.ofNat (fromBigEndian (payload.take 4))))
  else .error "welcome payload too short"

def decodeShutdown : Except String ServerFrame :=
  if payload = [] then .ok (.shutdown none)
  else
    match fromUtf8 payload with
    | some reason => .ok (.shutdown (some reason))
    | none => .error "shutdown reason payload is not valid UTF-8"

def decodeHostOpenUrl : Except String ServerFrame :=
  match fromUtf8 payload with
  | none => .error "host-open-url payload is not valid UTF-8"
  | some url =>
    if isHostOpenUrlScheme url then .ok (.hostOpenUrl url)
    else .error "host-open-url payload must use an allowlisted scheme"

def decodeHostRevealPath : Except String ServerFrame :=
  let length := payload.length
  if payload = [] then .error "host reveal path payload is empty"
  else if maxHostRevealPathBytes < length then
    .error s!"host reveal path length {length} exceeds cap {maxHostRevealPathBytes}"
  else
    match fromUtf8 payload with
    | some path => .ok (.hostRevealPath path)
    | none => .error "host reveal path payload is not valid UTF-8"

end

def decodeServer (tag : UInt8)
    (payload : List UInt8) : Except String ServerFrame :=
  match tag with
  | tagWelcome => decodeWelcome payload
  | tagOutput => .ok (.output payload)
  | tagSessionList => .ok (.sessionList payload)
  | tagShutdown => decodeShutdown payload
  | tagBell => .ok .bell
  | tagHostOpenUrl => decodeHostOpenUrl payload
  | tagFileExportStart => (readFileExportStart.decode payload).map .fileExportStart
  | tagFileExportChunk => (readFileExportChunk.decode payload).map .fileExportChunk
  | tagFileExportEnd => (readFileExportEnd.decode payload).map .fileExportEnd
  | tagHostRevealPath => decodeHostRevealPath payload
  | tagHostStageImageFromClipboardPath =>
    decodeEmpty .hostStageImageFromClipboardPath payload
      "host stage image path request payload must be empty"
  | tagHostPasteImageFromClipboard =>
    decodeEmpty .hostPasteImageFromClipboard payload
      "host paste image request payload must be empty"
  | tagHostStageImageFromClipboard =>
    decodeEmpty .hostStageImageFromClipboard payload
      "host stage image request payload must be empty"
  | tagAttachControlResponse => (readResponse.decode payload).map .attachControlResponse
  | other => .error ("unknown server attach tag " ++ hexadecimal other)

def readServerFrame : FrameReader ServerFrame := readFrame decodeServer

/-! ## Round trip -/

@[simp]
theorem run_readFlag :
    (readFlag field).run (flag value :: rest) = .ok (value, rest) := by
  cases value <;> rfl

/-- A length that fits is read back as it is. -/
theorem toNat_length {bytes : List UInt8}
    (within : bytes.length ≤ cap) (small : cap < UInt16.size) :
    (UInt16.ofNat bytes.length).toNat = bytes.length :=
  UInt16.toNat_ofNat_of_lt (Nat.lt_of_le_of_lt within small)

theorem decode_fileExportStart (accepted : encodeFileExportStart start = some encoding) :
    ∃ payload, encoding = encode tagFileExportStart payload ∧
      decodeServer tagFileExportStart payload = .ok (.fileExportStart start) := by
  obtain ⟨⟨sourced, sourceWithin, named, nameWithin⟩, ⟨⟩⟩ :=
    ite_none_right_eq_some.mp accepted
  have sourceLength := toNat_length sourceWithin (by decide)
  have nameLength := toNat_length nameWithin (by decide)
  have sourceCap : ¬((UInt16.ofNat (utf8 start.sourcePath).length).toNat = 0 ∨
      maxFileExportPathBytes < (UInt16.ofNat (utf8 start.sourcePath).length).toNat) := by
    have positive := List.length_pos_iff.mpr sourced
    omega
  have nameCap : ¬((UInt16.ofNat (utf8 start.fileName).length).toNat = 0 ∨
      maxFileExportNameBytes < (UInt16.ofNat (utf8 start.fileName).length).toNat) := by
    have positive := List.length_pos_iff.mpr named
    omega
  refine ⟨_, rfl, congrArg (Except.map _) (decode_of_run ?_)⟩
  rw [readFileExportStart, run_bind run_readU64, run_bind run_readU64, run_bind run_readU16,
    run_bind run_readU16, run_bind run_readFlag, run_bind run_readFlag,
    run_bind (run_ensure sourceCap _ _), run_bind (run_ensure nameCap _ _),
    run_bind (run_readString sourceLength.symm),
    run_bind (run_last fun _ => run_readString nameLength.symm)]
  rfl

theorem decode_fileExportChunk (accepted : encodeFileExportChunk chunk = some encoding) :
    ∃ payload, encoding = encode tagFileExportChunk payload ∧
      decodeServer tagFileExportChunk payload = .ok (.fileExportChunk chunk) := by
  obtain ⟨⟨nonempty, within⟩, ⟨⟩⟩ := ite_none_right_eq_some.mp accepted
  refine ⟨_, rfl, congrArg (Except.map _) (decode_of_run ?_)⟩
  rw [readFileExportChunk, run_bind run_readU64, run_bind run_readU64, run_bind run_readRemaining,
    run_bind (run_ensure nonempty _ _), run_bind (run_ensure within _ _)]
  rfl

theorem decode_fileExportEnd :
    decodeServer tagFileExportEnd (u64 ending.transferId ++ ending.sha256.toList) =
      .ok (.fileExportEnd ending) := by
  refine congrArg (Except.map _) (decode_of_run ?_)
  rw [readFileExportEnd, run_bind run_readU64, run_bind (run_last fun _ => run_readDigest)]
  rfl

theorem decode_response :
    decodeServer tagAttachControlResponse (u64 response.requestId ++ [response.result.code]) =
      .ok (.attachControlResponse response) := by
  obtain ⟨_, result⟩ := response
  refine congrArg (Except.map _) (decode_of_run ?_)
  rw [readResponse, run_bind run_readU64]
  cases result <;> rfl

theorem decode_welcome :
    decodeWelcome (u32 sessionCount) = .ok (.welcome sessionCount) := by
  have bounded : sessionCount.toNat < 256 ^ 4 := sessionCount.toNat_lt
  have whole : (u32 sessionCount).take 4 = u32 sessionCount :=
    List.take_of_length_le (Nat.le_of_eq length_bigEndian)
  have enough : 4 ≤ (u32 sessionCount).length := Nat.le_of_eq length_bigEndian.symm
  rw [decodeWelcome, if_pos enough, whole, u32, fromBigEndian_bigEndian,
    Nat.mod_eq_of_lt bounded, UInt32.ofNat_toNat]

theorem decode_shutdown (given : reason ≠ some "") :
    decodeShutdown (utf8 (reason.getD "")) = .ok (.shutdown reason) := by
  cases reason with
  | none => rfl
  | some text =>
    have nonempty : utf8 text ≠ [] := by
      intro empty
      exact given (congrArg some (utf8_eq_nil.mp empty))
    rw [getD_some, decodeShutdown, if_neg nonempty, fromUtf8_utf8]

theorem decode_hostOpenUrl (allowed : isHostOpenUrlScheme url) :
    decodeHostOpenUrl (utf8 url) = .ok (.hostOpenUrl url) := by
  rw [decodeHostOpenUrl, fromUtf8_utf8]
  exact if_pos allowed

theorem decode_hostRevealPath (nonempty : 1 ≤ (utf8 path).length)
    (within : (utf8 path).length ≤ maxHostRevealPathBytes) :
    decodeHostRevealPath (utf8 path) = .ok (.hostRevealPath path) := by
  rw [decodeHostRevealPath, if_neg (List.length_pos_iff.mp nonempty),
    if_neg (Nat.not_lt.mpr within), fromUtf8_utf8]

/-- What the reader requires of a frame that the writer does not. -/
def ServerFrame.Normal : ServerFrame → Prop
  | .shutdown reason => reason ≠ some ""
  | .hostOpenUrl url => isHostOpenUrlScheme url
  | .hostRevealPath path => 1 ≤ (utf8 path).length ∧ (utf8 path).length ≤ maxHostRevealPathBytes
  | _ => True

/-- The payload of an encoded frame decodes to the frame. -/
theorem decodeServer_encodeServer
    (accepted : encodeServer frame = some encoding) (normal : frame.Normal) :
    ∃ tag payload, encoding = encode tag payload ∧ decodeServer tag payload = .ok frame := by
  cases frame with
  | fileExportStart start => exact ⟨_, decode_fileExportStart accepted⟩
  | fileExportChunk chunk => exact ⟨_, decode_fileExportChunk accepted⟩
  | welcome sessionCount => exact ⟨_, _, (some.inj accepted).symm, decode_welcome⟩
  | shutdown reason => exact ⟨_, _, (some.inj accepted).symm, decode_shutdown normal⟩
  | hostOpenUrl url => exact ⟨_, _, (some.inj accepted).symm, decode_hostOpenUrl normal⟩
  | fileExportEnd ending => exact ⟨_, _, (some.inj accepted).symm, decode_fileExportEnd⟩
  | hostRevealPath path =>
    exact ⟨_, _, (some.inj accepted).symm, decode_hostRevealPath normal.1 normal.2⟩
  | attachControlResponse response => exact ⟨_, _, (some.inj accepted).symm, decode_response⟩
  | output _ | sessionList _ | bell | hostStageImageFromClipboardPath
  | hostPasteImageFromClipboard | hostStageImageFromClipboard =>
    exact ⟨_, _, (some.inj accepted).symm, rfl⟩

/--
Whatever frames the capsule writes, within the limits and in normal form, the
client reads the same frames in order and then the end of the stream.
-/
theorem server_frames_round_trip {frames : List ServerFrame}
    {encodings : List (List UInt8)}
    (accepted : List.Forall₂
      (fun encoding frame => encodeServer frame = some encoding)
      encodings frames)
    (normal : ∀ frame ∈ frames, frame.Normal)
    (within : ∀ encoding ∈ encodings, withinLimit encoding) :
    readAll readServerFrame encodings.flatten = (frames, .endOfStream) :=
  readAll_of_decodes (fun _ _ => decodeServer_encodeServer) accepted normal within

/-- A session with an export and a reason to end. -/
def sampleServerFrames : List ServerFrame :=
  [.welcome 2, .fileExportStart
      { transferId := 7, sourcePath := "/workspace/a.txt", fileName := "a.txt"
        size := 3, revealAfterExport := true, openAfterExport := false },
    .fileExportChunk { transferId := 7, offset := 0, bytes := [1, 2, 3] },
    .hostOpenUrl "https://example.test/",
    .shutdown (some "done")]

def sampleServerEncodings : List (List UInt8) :=
  sampleServerFrames.filterMap encodeServer

theorem sample_server_frames_read :
    readAll readServerFrame sampleServerEncodings.flatten =
      (sampleServerFrames, .endOfStream) := by
  apply server_frames_round_trip
  · exact .cons rfl (.cons rfl (.cons rfl (.cons rfl (.cons rfl .nil))))
  · intro frame member
    simp only [sampleServerFrames, List.mem_cons, List.not_mem_nil, or_false] at member
    rcases member with rfl | rfl | rfl | rfl | rfl
    · trivial
    · trivial
    · trivial
    · exact (by decide : isHostOpenUrlScheme "https://example.test/")
    · exact (by decide : some "done" ≠ some "")
  · decide +kernel

end Jackin.Attach
