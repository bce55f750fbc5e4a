import Jackin.Attach.ClientRoundTrip

/-!
# Control requests and plain frames

A clipboard transfer can be sent in frames of its own or as operations of
control requests.  The decoder of the plain frames checks sizes that the
decoder of the operations does not check.  So the two agree on a payload, and
a request can be encoded again, exactly when the sizes are in range.
-/

namespace Jackin.Attach

open Foundation.Result Foundation.Wire
open Reader (decode_of_run run_bind run_bind_ok run_ensure run_ensure_bind)
open PayloadCursor

/-- The clipboard operations that are also sent as plain frames. -/
inductive Transfer where
  | start
  | chunk
  | ending
  | error

def Transfer.kind : Transfer → UInt8
  | .start => 5
  | .chunk => 6
  | .ending => 7
  | .error => 8

def Transfer.tag : Transfer → UInt8
  | .start => tagClipboardImageStart
  | .chunk => tagClipboardImageChunk
  | .ending => tagClipboardImageEnd
  | .error => tagClipboardImageError

/-- The plain frame with the contents of an operation. -/
def AttachControlOperation.frame : AttachControlOperation → ClientFrame
  | .detach => .detach
  | .focusIn => .focusIn
  | .focusOut => .focusOut
  | .clipboardImage image => .clipboardImage image
  | .clipboardImageStart start => .clipboardImageStart start
  | .clipboardImageChunk chunk => .clipboardImageChunk chunk
  | .clipboardImageEnd ending => .clipboardImageEnd ending
  | .clipboardImageError error => .clipboardImageError error

/-- What `decode_request` does with the bytes after the context. -/
def decodeOperation (kind : UInt8)
    (payload : List UInt8) : Except String AttachControlOperation :=
  Reader.decode (do
    let operation ← readOperation kind
    let finished ← Reader.finished
    Reader.ensure finished "attach control payload has trailing bytes"
    pure operation) payload

theorem readBytes_inverts (reads : (readBytes length field).run bytes = .ok (front, rest)) :
    bytes = front ++ rest ∧ front.length = length := by
  simp only [readBytes, StateT.run] at reads
  split at reads
  · rename_i enough
    cases reads
    exact ⟨(List.take_append_drop length bytes).symm, List.length_take_of_le enough⟩
  · cases reads

theorem readU64_inverts (reads : (readU64 field).run bytes = .ok (value, rest)) :
    bytes = u64 value ++ rest := by
  obtain ⟨_, _, taken, answered⟩ := run_bind_ok reads
  cases answered
  obtain ⟨rfl, length⟩ := readBytes_inverts taken
  obtain ⟨number, bounded, digits⟩ := exists_bigEndian
  rw [length] at bounded digits
  have small : (UInt64.ofNat number).toNat = number :=
    UInt64.toNat_ofNat_of_lt' bounded
  rw [← digits, fromBigEndian_bigEndian, Nat.mod_eq_of_lt bounded, u64, small]

theorem readDigest_inverts (reads : (readDigest field mismatch).run bytes = .ok (digest, rest)) :
    bytes = digest.toList ++ rest := by
  obtain ⟨front, _, taken, answered⟩ := run_bind_ok reads
  obtain ⟨rfl, length⟩ := readBytes_inverts taken
  have whole : front.length = 32 := length
  rw [dif_pos whole] at answered
  cases answered
  rfl

theorem fromTag_inverts
    (reads : (checked (ClipboardImageFormat.fromTag tag)).run left = .ok (format, rest)) :
    tag = format.tag ∧ left = rest := by
  cases found : ClipboardImageFormat.fromTag tag with
  | error message =>
    rw [found] at reads
    cases reads
  | ok known =>
    rw [found] at reads
    cases reads
    refine ⟨?_, rfl⟩
    unfold ClipboardImageFormat.fromTag at found
    split at found <;> cases found <;> rfl

theorem readClipboardImageStart_inverts
    (reads : readClipboardImageStart.run bytes = .ok (start, rest)) :
    bytes = u64 start.transferId ++ start.format.tag :: (u64 start.size ++ rest) := by
  obtain ⟨_, afterId, readsId, reads⟩ := run_bind_ok reads
  obtain ⟨_, _, readsTag, reads⟩ := run_bind_ok reads
  obtain ⟨_, _, readsFormat, reads⟩ := run_bind_ok reads
  obtain ⟨_, _, readsSize, answered⟩ := run_bind_ok reads
  cases answered
  obtain ⟨rfl, rfl⟩ := fromTag_inverts readsFormat
  rw [readU64_inverts readsId]
  cases afterId with
  | nil => cases readsTag
  | cons byte others =>
    cases readsTag
    rw [readU64_inverts readsSize]

theorem readClipboardImageChunk_inverts
    (reads : readClipboardImageChunk.run bytes = .ok (chunk, rest)) :
    bytes = u64 chunk.transferId ++ (u64 chunk.offset ++ chunk.bytes) ∧
      rest = [] := by
  obtain ⟨_, _, readsId, reads⟩ := run_bind_ok reads
  obtain ⟨_, _, readsOffset, reads⟩ := run_bind_ok reads
  cases reads
  rw [readU64_inverts readsId, readU64_inverts readsOffset]
  exact ⟨rfl, rfl⟩

theorem readClipboardImageEnd_inverts
    (reads : (readClipboardImageEnd mismatch).run bytes = .ok (ending, rest)) :
    bytes = u64 ending.transferId ++ (ending.sha256.toList ++ rest) := by
  obtain ⟨_, _, readsId, reads⟩ := run_bind_ok reads
  obtain ⟨_, _, readsDigest, answered⟩ := run_bind_ok reads
  cases answered
  rw [readU64_inverts readsId, readDigest_inverts readsDigest]

/-! ## What the two decoders accept -/

section

variable {plain : Except String ClientFrame}

/-- A whole payload that is read to its end. -/
theorem decodeOperation_ok_iff :
    decodeOperation kind payload = .ok operation ↔
      (readOperation kind).run payload = .ok (operation, []) := by
  constructor
  · intro accepted
    obtain ⟨⟨_, _⟩, reads, same⟩ := map_eq_ok.mp accepted
    cases same
    obtain ⟨_, between, readsOperation, reads⟩ := run_bind_ok reads
    rw [readsOperation]
    cases between with
    | nil =>
      cases reads
      rfl
    | cons byte others => cases reads
  · intro reads
    apply decode_of_run
    rw [run_bind reads]
    rfl

/--
Two decoders that read the same values agree when no value that is read is
out of the range that only the second one checks.
-/
theorem agree_iff {Value : Type}
    {contextual : Except String AttachControlOperation}
    (operation : Value → AttachControlOperation) (reads within : Value → Prop)
    (contextual_iff : ∀ accepted, contextual = .ok accepted ↔
      ∃ value, reads value ∧ accepted = operation value)
    (plain_iff : ∀ accepted, plain = .ok accepted ↔
      ∃ value, reads value ∧ within value ∧ accepted = (operation value).frame)
    (unique : ∀ first second, reads first → reads second → first = second) :
    contextual.toOption.map AttachControlOperation.frame = plain.toOption ↔
      ∀ value, reads value → within value := by
  constructor
  · intro same value read
    have accepted := (contextual_iff _).mpr ⟨value, read, rfl⟩
    rw [accepted] at same
    cases plain with
    | error message => cases same
    | ok frame =>
      obtain ⟨other, readOther, inRange, _⟩ := (plain_iff frame).mp rfl
      rwa [unique value other read readOther]
  · intro inRange
    cases contextual with
    | error message =>
      cases plain with
      | error other => rfl
      | ok frame =>
        obtain ⟨value, read, _⟩ := (plain_iff frame).mp rfl
        cases (contextual_iff _).mpr ⟨value, read, rfl⟩
    | ok accepted =>
      obtain ⟨value, read, rfl⟩ := (contextual_iff accepted).mp rfl
      rw [(plain_iff _).mpr ⟨value, read, inRange value read, rfl⟩]
      rfl

/-- The same for an operation that a reader takes from its bytes. -/
theorem agree_of_reader_iff {Value : Type} {reader}
    {operation : Value → AttachControlOperation}
    {bytes : Value → List UInt8} {within : Value → Prop}
    (shape : readOperation kind = reader >>= fun value => pure (operation value))
    (reads_iff : ∀ value, reader.run payload = .ok (value, []) ↔
      payload = bytes value) (plain_iff : ∀ accepted, plain = .ok accepted ↔
      ∃ value, payload = bytes value ∧ within value ∧ accepted = (operation value).frame) :
    (decodeOperation kind payload).toOption.map AttachControlOperation.frame =
      plain.toOption ↔
      ∀ value, payload = bytes value → within value := by
  apply agree_iff operation (payload = bytes ·) within _ plain_iff
  · intro first second readFirst readSecond
    have same := ((reads_iff first).mpr readFirst).symm.trans ((reads_iff second).mpr readSecond)
    cases same
    rfl
  · intro accepted
    rw [decodeOperation_ok_iff, shape]
    constructor
    · intro reads
      obtain ⟨value, _, readsValue, same⟩ := run_bind_ok reads
      cases same
      exact ⟨value, (reads_iff value).mp readsValue, rfl⟩
    · rintro ⟨value, written, rfl⟩
      exact run_bind ((reads_iff value).mpr written)

/-- The payload of a start, whatever its size. -/
def startBytes (start : ClipboardImageStart) : List UInt8 :=
  u64 start.transferId ++ start.format.tag :: u64 start.size

def chunkBytes (chunk : ClipboardImageChunk) : List UInt8 :=
  u64 chunk.transferId ++ (u64 chunk.offset ++ chunk.bytes)

def endBytes (ending : ClipboardImageEnd) : List UInt8 :=
  u64 ending.transferId ++ ending.sha256.toList

def ClipboardImageStart.InRange (start : ClipboardImageStart) : Prop :=
  0 < start.size.toNat ∧ start.size.toNat ≤ maxClipboardImageTransferBytes

def ClipboardImageChunk.InRange (chunk : ClipboardImageChunk) : Prop :=
  chunk.bytes ≠ [] ∧ chunk.bytes.length ≤ maxClipboardImageChunkBytes

/-- An error text of a length that is sent. -/
def InRangeText (text : List UInt8) : Prop :=
  text ≠ [] ∧ text.length ≤ maxClipboardImageErrorBytes

theorem run_startBytes :
    readClipboardImageStart.run payload = .ok (start, []) ↔
      payload = startBytes start := by
  constructor
  · intro reads
    rw [readClipboardImageStart_inverts reads]
    rfl
  · rintro rfl
    have reads : readClipboardImageStart.run
        (u64 start.transferId ++ start.format.tag :: (u64 start.size ++ [])) =
          .ok (start, []) := run_readClipboardImageStart
    rwa [List.append_nil] at reads

theorem start_agrees_iff :
    (decodeOperation 5 payload).toOption.map AttachControlOperation.frame =
        (decodeClient greetingJson requestJson tagClipboardImageStart payload).toOption ↔
      ∀ start, payload = startBytes start → start.InRange := by
  apply agree_of_reader_iff rfl (fun _ => run_startBytes)
  intro accepted
  constructor
  · intro decoded
    obtain ⟨⟨_, _⟩, reads, rfl⟩ := map_eq_ok.mp decoded
    obtain ⟨start, _, readsStart, checks⟩ := run_bind_ok reads
    obtain ⟨positive, checks⟩ := run_ensure_bind checks
    obtain ⟨within, checks⟩ := run_ensure_bind checks
    obtain ⟨_, _, looked, checks⟩ := run_bind_ok checks
    cases looked
    obtain ⟨ended, answered⟩ := run_ensure_bind checks
    cases answered
    rw [List.isEmpty_iff.mp ended] at readsStart
    exact ⟨start, run_startBytes.mp readsStart, ⟨Nat.pos_of_ne_zero positive, within⟩, rfl⟩
  · rintro ⟨start, written, ⟨positive, within⟩, rfl⟩
    apply decode_of_run
    rw [run_bind (run_startBytes.mpr written), run_bind (run_ensure (Nat.ne_of_gt positive) _ _),
      run_bind (run_ensure within _ _)]
    rfl

theorem run_chunkBytes :
    readClipboardImageChunk.run payload = .ok (chunk, []) ↔
      payload = chunkBytes chunk := by
  refine ⟨fun reads => (readClipboardImageChunk_inverts reads).1, ?_⟩
  rintro rfl
  exact run_readClipboardImageChunk chunk

theorem chunk_agrees_iff :
    (decodeOperation 6 payload).toOption.map AttachControlOperation.frame =
        (decodeClient greetingJson requestJson tagClipboardImageChunk payload).toOption ↔
      ∀ chunk, payload = chunkBytes chunk → chunk.InRange := by
  apply agree_of_reader_iff rfl (fun _ => run_chunkBytes)
  intro accepted
  constructor
  · intro decoded
    obtain ⟨⟨_, _⟩, reads, rfl⟩ := map_eq_ok.mp decoded
    obtain ⟨chunk, _, readsChunk, checks⟩ := run_bind_ok reads
    obtain ⟨nonempty, checks⟩ := run_ensure_bind checks
    obtain ⟨within, answered⟩ := run_ensure_bind checks
    cases answered
    exact ⟨chunk, (readClipboardImageChunk_inverts readsChunk).1, ⟨nonempty, within⟩, rfl⟩
  · rintro ⟨chunk, written, ⟨nonempty, within⟩, rfl⟩
    apply decode_of_run
    rw [run_bind (run_chunkBytes.mpr written),
      run_bind (run_ensure nonempty _ _), run_bind (run_ensure within _ _)]
    rfl

theorem run_endBytes :
    (readClipboardImageEnd mismatch).run payload = .ok (ending, []) ↔
      payload = endBytes ending := by
  constructor
  · intro reads
    rw [readClipboardImageEnd_inverts reads, List.append_nil]
    rfl
  · rintro rfl
    exact run_readClipboardImageEnd

/-- The end of a transfer has no size to check. -/
theorem end_agrees :
    (decodeOperation 7 payload).toOption.map AttachControlOperation.frame =
      (decodeClient greetingJson requestJson tagClipboardImageEnd payload).toOption := by
  apply (agree_of_reader_iff rfl (fun _ => run_endBytes) _).mpr (fun _ _ => trivial)
  intro accepted
  constructor
  · intro decoded
    obtain ⟨⟨_, _⟩, reads, rfl⟩ := map_eq_ok.mp decoded
    obtain ⟨ending, _, readsEnd, checks⟩ := run_bind_ok reads
    obtain ⟨_, _, looked, checks⟩ := run_bind_ok checks
    cases looked
    obtain ⟨ended, answered⟩ := run_ensure_bind checks
    cases answered
    rw [List.isEmpty_iff.mp ended] at readsEnd
    exact ⟨ending, run_endBytes.mp readsEnd, trivial, rfl⟩
  · rintro ⟨ending, rfl, _, rfl⟩
    exact decode_clipboardImageEnd

theorem error_agrees_iff :
    (decodeOperation 8 payload).toOption.map AttachControlOperation.frame =
        (decodeClient greetingJson requestJson tagClipboardImageError payload).toOption ↔
      ∀ message, payload = utf8 message → InRangeText payload := by
  apply agree_iff (fun message => .clipboardImageError (ClipboardImageError.fromMessage message))
  · intro accepted
    rw [decodeOperation_ok_iff, readOperation, run_bind run_readRemaining]
    cases found : fromUtf8 payload with
    | none =>
      refine ⟨fun reads => (by cases reads), ?_⟩
      rintro ⟨message, rfl, _⟩
      rw [fromUtf8_utf8] at found
      cases found
    | some message =>
      have written := (utf8_of_fromUtf8 found).symm
      constructor
      · rintro ⟨⟩
        exact ⟨message, written, rfl⟩
      · rintro ⟨other, same, rfl⟩
        rw [utf8_injective (written.symm.trans same)]
        rfl
  · intro accepted
    constructor
    · intro decoded
      have read : decodeClipboardImageError payload = .ok accepted := decoded
      simp only [decodeClipboardImageError] at read
      by_cases nonempty : payload = []
      · rw [if_pos nonempty] at read
        cases read
      by_cases within : maxClipboardImageErrorBytes < payload.length
      · rw [if_neg nonempty, if_pos within] at read
        cases read
      rw [if_neg nonempty, if_neg within] at read
      cases found : fromUtf8 payload with
      | none =>
        rw [found] at read
        cases read
      | some message =>
        rw [found] at read
        cases read
        exact ⟨message, (utf8_of_fromUtf8 found).symm, ⟨nonempty, Nat.le_of_not_lt within⟩, rfl⟩
    · rintro ⟨message, rfl, ⟨nonempty, within⟩, rfl⟩
      show decodeClipboardImageError (utf8 message) = _
      rw [decodeClipboardImageError, if_neg nonempty, if_neg (Nat.not_lt.mpr within), fromUtf8_utf8]
      rfl
  · intro first second readFirst readSecond
    exact utf8_injective (readFirst.symm.trans readSecond)

end

/-! ## Agreement and encoding -/

/-- The sizes in the payload of a transfer operation are in range. -/
def Transfer.Bounded : Transfer → List UInt8 → Prop
  | .start, payload => ∀ start, payload = startBytes start → start.InRange
  | .chunk, payload => ∀ chunk, payload = chunkBytes chunk → chunk.InRange
  | .ending, _ => True
  | .error, payload => ∀ message, payload = utf8 message → InRangeText payload

/-- The sizes in an operation that its encoding asserts or checks. -/
def AttachControlOperation.Sized : AttachControlOperation → Prop
  | .clipboardImage image => ¬(image.bytes = [] ∨ maxClipboardImageBytes < image.bytes.length)
  | .clipboardImageStart start => start.InRange
  | .clipboardImageChunk chunk => chunk.InRange
  | .clipboardImageError error => InRangeText (utf8 error.message)
  | _ => True

/-- The payload of an operation, whatever its sizes. -/
def AttachControlOperation.payload : AttachControlOperation → List UInt8
  | .detach | .focusIn | .focusOut => []
  | .clipboardImage image => image.format.tag :: image.bytes
  | .clipboardImageStart start => startBytes start
  | .clipboardImageChunk chunk => chunkBytes chunk
  | .clipboardImageEnd ending => endBytes ending
  | .clipboardImageError error => utf8 error.message

/-- The serialised context and the operation fit into a frame. -/
def AttachControlRequest.Fits (json : Serde TelemetryContext)
    (request : AttachControlRequest) : Prop :=
  ∃ context, json.toVec request.context = .ok context ∧ context.length < UInt16.size ∧
    11 + context.length + request.operation.payload.length ≤ maxClipboardImageFramePayload

theorem encodeOperation_ok_iff :
    encodeOperation operation = .ok bytes ↔
      operation.Sized ∧ operation.payload = bytes := by
  unfold encodeOperation AttachControlOperation.Sized AttachControlOperation.payload
  cases operation with
  | detach | focusIn | focusOut | clipboardImageEnd =>
    simp [encodeClipboardImageEnd, drop_encode, endBytes]
  | clipboardImage image => simp
  | clipboardImageStart start =>
    simp [encodeClipboardImageStart, drop_encode, ClipboardImageStart.InRange, startBytes]
  | clipboardImageChunk chunk =>
    simp [encodeClipboardImageChunk, drop_encode, ClipboardImageChunk.InRange, chunkBytes]
  | clipboardImageError error => simp [InRangeText]

theorem encodeRequest_ok_iff :
    (∃ encoding, encodeRequest json request = .ok encoding) ↔
      request.operation.Sized ∧ request.Fits json := by
  simp only [encodeRequest, encodeContext, bind_eq_ok, encodeOperation_ok_iff]
  cases written : json.toVec request.context with
  | error message => simp [AttachControlRequest.Fits, written]
  | ok context =>
    by_cases small : context.length < UInt16.size
    · simp [AttachControlRequest.Fits, written, lengthU16, small, u64, u16]
      intro _
      omega
    · simp [AttachControlRequest.Fits, written, lengthU16, small]

/--
The two decoders agree on a payload exactly when the sizes in it are in
range, and a request can be encoded exactly when the sizes in it are and it
fits into a frame.
-/
theorem contextual_decoder_agrees_iff (greetingJson : Serde (Option TelemetryContext))
    (requestJson : Serde TelemetryContext) :
    (∀ (transfer : Transfer) (payload : List UInt8),
      (decodeOperation transfer.kind payload).toOption.map AttachControlOperation.frame =
        (decodeClient greetingJson requestJson transfer.tag
          payload).toOption ↔ transfer.Bounded payload) ∧
    ∀ request : AttachControlRequest, (∃ encoding, encodeClient greetingJson requestJson
          (.attachControl request) = .ok encoding) ↔
        request.operation.Sized ∧ request.Fits requestJson := by
  refine ⟨?_, fun _ => encodeRequest_ok_iff⟩
  intro transfer payload
  cases transfer with
  | start => exact start_agrees_iff
  | chunk => exact chunk_agrees_iff
  | ending => exact iff_of_true end_agrees trivial
  | error => exact error_agrees_iff

/-- A start of size zero. -/
def emptyStart : ClipboardImageStart := ⟨7, .png, 0⟩

/-- A control request with a start of size zero. -/
def emptyStartRequest : AttachControlRequest :=
  ⟨1, sampleContext, .clipboardImageStart emptyStart⟩

theorem contextual_accepts_empty_start :
    decodeOperation 5 (startBytes emptyStart) =
      .ok (.clipboardImageStart emptyStart) ∧
      decodeClient nullJson sampleJson tagClipboardImageStart (startBytes emptyStart) =
        .error "clipboard image transfer size is empty" ∧
      (readRequest sampleJson).decode
          (5 :: (u64 1 ++ (u16 7 ++ utf8 "\x7b\"v\":1\x7d") ++ startBytes emptyStart)) =
        .ok emptyStartRequest ∧
      encodeClient nullJson sampleJson (.attachControl emptyStartRequest) =
        .error .assertion := by
  refine ⟨?_, ?_, ?_, ?_⟩ <;> decide +kernel

end Jackin.Attach
