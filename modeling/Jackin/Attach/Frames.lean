import Jackin.Foundation.Machine
import Jackin.Foundation.Wire

/-!
# Frames of the attach protocol

An attach client and the capsule exchange frames over one byte stream: a tag,
the length of the payload in four bytes, and the payload.  This module has
what the two directions share.

Reading from a stream that ends within a frame answers nothing; the time
limits on reading are left out.
-/

namespace Jackin.Attach

open Foundation Wire

variable {tag : UInt8} {payload : List UInt8}

/-! ## Tags and limits -/

@[match_pattern] abbrev tagHello : UInt8 := 0x01
@[match_pattern] abbrev tagResize : UInt8 := 0x02
@[match_pattern] abbrev tagInput : UInt8 := 0x03
@[match_pattern] abbrev tagCommand : UInt8 := 0x04
@[match_pattern] abbrev tagDetach : UInt8 := 0x05
@[match_pattern] abbrev tagFocusIn : UInt8 := 0x06
@[match_pattern] abbrev tagFocusOut : UInt8 := 0x07
@[match_pattern] abbrev tagClipboardImage : UInt8 := 0x08
@[match_pattern] abbrev tagClipboardImageStart : UInt8 := 0x09
@[match_pattern] abbrev tagClipboardImageChunk : UInt8 := 0x0a
@[match_pattern] abbrev tagClipboardImageEnd : UInt8 := 0x0b
@[match_pattern] abbrev tagClipboardImageError : UInt8 := 0x0c
@[match_pattern] abbrev tagHostNotice : UInt8 := 0x0d
@[match_pattern] abbrev tagAttachControl : UInt8 := 0x0e

@[match_pattern] abbrev tagWelcome : UInt8 := 0x81
@[match_pattern] abbrev tagOutput : UInt8 := 0x82
@[match_pattern] abbrev tagSessionList : UInt8 := 0x83
@[match_pattern] abbrev tagShutdown : UInt8 := 0x84
@[match_pattern] abbrev tagBell : UInt8 := 0x85
@[match_pattern] abbrev tagHostOpenUrl : UInt8 := 0x86
@[match_pattern] abbrev tagFileExportStart : UInt8 := 0x87
@[match_pattern] abbrev tagFileExportChunk : UInt8 := 0x88
@[match_pattern] abbrev tagFileExportEnd : UInt8 := 0x89
@[match_pattern] abbrev tagHostStageImageFromClipboardPath : UInt8 := 0x8a
@[match_pattern] abbrev tagHostPasteImageFromClipboard : UInt8 := 0x8b
@[match_pattern] abbrev tagHostStageImageFromClipboard : UInt8 := 0x8c
@[match_pattern] abbrev tagHostRevealPath : UInt8 := 0x8d
@[match_pattern] abbrev tagAttachControlResponse : UInt8 := 0x8e

def maxFramePayload : Nat := 4 * 1024 * 1024
def maxClipboardImageFramePayload : Nat := 16 * 1024 * 1024
def maxFileExportPathBytes : Nat := 4096
def maxFileExportNameBytes : Nat := 255
def maxFileExportChunkBytes : Nat := 1024 * 1024
def fileExportDigestBytes : Nat := 32
def maxClipboardImageErrorBytes : Nat := 1024
def maxHostNoticeBytes : Nat := 2048
def maxHostRevealPathBytes : Nat := 4096
def maxClipboardImageChunkBytes : Nat := 1024 * 1024
def maxClipboardImageTransferBytes : Nat := 64 * 1024 * 1024
def maxClipboardImageBytes : Nat := maxClipboardImageFramePayload - 1
def maxHelloEnv : Nat := 64
def maxHelloEnvValue : Nat := 8 * 1024
def maxHelloEnvKey : Nat := 1024
def maxClientTerminalField : Nat := 1024

def maxFramePayloadForTag (tag : UInt8) : Nat :=
  match tag with
  | tagClipboardImage | tagAttachControl => maxClipboardImageFramePayload
  | tagClipboardImageChunk => 16 + maxClipboardImageChunkBytes
  | tagFileExportChunk => 16 + maxFileExportChunkBytes
  | _ => maxFramePayload

theorem maxFramePayloadForTag_lt : maxFramePayloadForTag tag < 256 ^ 4 := by
  unfold maxFramePayloadForTag
  split <;> decide

/-- A tag as messages show it. -/
def hexadecimal (tag : UInt8) : String :=
  String.ofList ['0', 'x', Nat.digitChar (tag.toNat / 16), Nat.digitChar (tag.toNat % 16)]

/-- A SHA-256 digest. -/
abbrev Digest := Vector UInt8 32

/-- The trace that a frame belongs to. -/
structure TelemetryContext where
  v : UInt16
  traceparent : Option String
  tracestate : Option String
  invocationId : Option String
  sessionId : Option String
  jobId : Option String
  deriving DecidableEq

/-- How `serde_json` writes and reads values of one type. -/
structure Serde (Value : Type) where
  toVec : Value → Except String (List UInt8)
  fromSlice : List UInt8 → Except String Value
  fromSlice_toVec : ∀ value bytes, toVec value = .ok bytes → fromSlice bytes = .ok value

/-! ## Payload cursor -/

/-! The cursor is what is left of the payload. -/

namespace PayloadCursor

section

variable (field : String)

def readU8 : Reader UInt8 :=
  fun cursor =>
    match cursor with
    | [] => .error s!"hello payload ended before {field}"
    | value :: rest => .ok (value, rest)

def readBytes (length : Nat) (field : String) : Reader (List UInt8) :=
  fun cursor =>
    let remaining := cursor.length
    if length ≤ remaining then .ok (cursor.take length, cursor.drop length)
    else .error s!"hello {field} length {length} exceeds remaining payload {remaining}"

def readU16 : Reader UInt16 := do
  let bytes ← readBytes 2 field
  pure (UInt16.ofNat (fromBigEndian bytes))

def readU32 : Reader UInt32 := do
  let bytes ← readBytes 4 field
  pure (UInt32.ofNat (fromBigEndian bytes))

def readU64 : Reader UInt64 := do
  let bytes ← readBytes 8 field
  pure (UInt64.ofNat (fromBigEndian bytes))

def readString (length : Nat) (field : String) : Reader String := do
  let bytes ← readBytes length field
  match fromUtf8 bytes with
  | some text => pure text
  | none => Reader.refuse s!"hello {field} is not valid UTF-8"

/-- The cursor never passes the end of the payload, so this cannot fail. -/
def readRemaining : Reader (List UInt8) := fun cursor => .ok (cursor, [])

/-- Read a digest of the right length. -/
def readDigest (mismatch : String) : Reader Digest := do
  let bytes ← readBytes fileExportDigestBytes field
  if length : bytes.length = 32 then pure ⟨bytes.toArray, length⟩
  else Reader.refuse mismatch

end

end PayloadCursor

def u16 (value : UInt16) : List UInt8 := bigEndian 2 value.toNat

def u32 (value : UInt32) : List UInt8 := bigEndian 4 value.toNat

def u64 (value : UInt64) : List UInt8 := bigEndian 8 value.toNat

namespace PayloadCursor

@[simp]
theorem run_readU8 :
    (readU8 field).run (value :: rest) = .ok (value, rest) := rfl

theorem run_readBytes (same : bytes.length = length) :
    (readBytes length field).run (bytes ++ rest) = .ok (bytes, rest) := by
  subst same
  simp [readBytes, StateT.run]

@[simp]
theorem run_readU16 :
    (readU16 field).run (u16 value ++ rest) = .ok (value, rest) := by
  have bounded : value.toNat < 256 ^ 2 := value.toNat_lt
  rw [readU16, u16, Reader.run_bind (run_readBytes length_bigEndian),
    fromBigEndian_bigEndian, Nat.mod_eq_of_lt bounded, UInt16.ofNat_toNat]
  rfl

@[simp]
theorem run_readU32 :
    (readU32 field).run (u32 value ++ rest) = .ok (value, rest) := by
  have bounded : value.toNat < 256 ^ 4 := value.toNat_lt
  rw [readU32, u32, Reader.run_bind (run_readBytes length_bigEndian),
    fromBigEndian_bigEndian, Nat.mod_eq_of_lt bounded, UInt32.ofNat_toNat]
  rfl

@[simp]
theorem run_readU64 :
    (readU64 field).run (u64 value ++ rest) = .ok (value, rest) := by
  have bounded : value.toNat < 256 ^ 8 := value.toNat_lt
  rw [readU64, u64, Reader.run_bind (run_readBytes length_bigEndian),
    fromBigEndian_bigEndian, Nat.mod_eq_of_lt bounded, UInt64.ofNat_toNat]
  rfl

theorem run_readString (same : (utf8 text).length = length) :
    (readString length field).run (utf8 text ++ rest) = .ok (text, rest) := by
  rw [readString, Reader.run_bind (run_readBytes same), fromUtf8_utf8]
  rfl

@[simp]
theorem run_readRemaining : readRemaining.run rest = .ok (rest, []) := rfl

@[simp]
theorem run_readDigest :
    (readDigest field mismatch).run (digest.toList ++ rest) =
      .ok (digest, rest) := by
  have length : digest.toList.length = 32 := digest.size_toArray
  have reads : (readBytes fileExportDigestBytes field).run
      (digest.toList ++ rest) = .ok (digest.toList, rest) :=
    run_readBytes length
  rw [readDigest, Reader.run_bind reads, dif_pos length]
  rfl

end PayloadCursor

/-! ## Framing -/

/-- A tag, the length of the payload and the payload. -/
def encode (tag : UInt8) (payload : List UInt8) : List UInt8 :=
  tag :: (bigEndian 4 payload.length ++ payload)

/-- The loop over chunks; the stream may end within one. -/
def readChunks (remaining : Nat)
    (payload stream : List UInt8) : Option (List UInt8 × List UInt8) :=
  if done : remaining = 0 then some (payload, stream)
  else
    let length := min (16 * 1024) remaining
    if length ≤ stream.length then
      readChunks (remaining - length) (payload ++ stream.take length) (stream.drop length)
    else none
termination_by remaining

/-- The payload of one frame, or nothing if the stream ends within it. -/
def readFramedPayload (tag : UInt8) (stream : List UInt8) :
    Except String (Option (List UInt8) × List UInt8) :=
  if 4 ≤ stream.length then
    let length := fromBigEndian (stream.take 4)
    let limit := maxFramePayloadForTag tag
    if length ≤ limit then
      match readChunks length [] (stream.drop 4) with
      | some (payload, rest) => .ok (some payload, rest)
      | none => .ok (none, [])
    else .error s!"attach frame payload {length} exceeds limit {limit}"
  else .ok (none, [])

/-- A framed reader: the payload, then what the decoder makes of it. -/
def readFrame {Frame : Type}
    (decode : UInt8 → List UInt8 → Except String Frame) :
    FrameReader Frame := fun tag stream => do
  let (payload, rest) ← readFramedPayload tag stream
  match payload with
  | none => pure (none, rest)
  | some payload => do
    let frame ← decode tag payload
    pure (some frame, rest)

open List

theorem readChunks_append :
    readChunks payload.length collected (payload ++ rest) =
      some (collected ++ payload, rest) := by
  generalize size : payload.length = remaining
  induction remaining using Nat.strong_induction_on generalizing payload collected with
  | _ remaining ih =>
    rw [readChunks]
    split
    · rename_i done
      have empty : payload = [] := eq_nil_of_length_eq_zero (size.trans done)
      simp [empty]
    · have within : min (16 * 1024) remaining ≤ payload.length := by omega
      have whole : min (16 * 1024) remaining ≤ (payload ++ rest).length := by
        rw [length_append]
        omega
      rw [if_pos whole, take_append_of_le_length within, drop_append_of_le_length within, ih]
      · rw [append_assoc, take_append_drop]
      · omega
      · rw [length_drop, size]

/-- A payload within the limit of its tag is taken off the stream. -/
theorem readFramedPayload_encode (within : payload.length ≤ maxFramePayloadForTag tag) :
    readFramedPayload tag (bigEndian 4 payload.length ++ payload ++ rest) =
      .ok (some payload, rest) := by
  have bounded := Nat.lt_of_le_of_lt within maxFramePayloadForTag_lt
  have front : (bigEndian 4 payload.length ++ (payload ++ rest)).take 4 =
      bigEndian 4 payload.length :=
    take_left' length_bigEndian
  have back : (bigEndian 4 payload.length ++ (payload ++ rest)).drop 4 =
      payload ++ rest :=
    drop_left' length_bigEndian
  rw [append_assoc, readFramedPayload, front, back,
    fromBigEndian_bigEndian, Nat.mod_eq_of_lt bounded]
  rw [if_pos within, readChunks_append]
  rfl

/-- The payload of an encoded frame is within the limit of its tag. -/
def withinLimit : List UInt8 → Bool
  | [] => false
  | tag :: rest => (rest.drop 4).length ≤ maxFramePayloadForTag tag

theorem length_le_of_withinLimit (within : withinLimit (encode tag payload)) :
    payload.length ≤ maxFramePayloadForTag tag := by
  exact of_decide_eq_true within

/-- What is decoded from the payload is what is read from the frame. -/
theorem transmits_of_decode {Frame : Type} {decode} {frame : Frame}
    (decoded : decode tag payload = .ok frame)
    (within : withinLimit (encode tag payload)) :
    Transmits (readFrame decode) (encode tag payload) frame := by
  refine ⟨tag, _, rfl, fun rest => ?_⟩
  rw [readFrame, readFramedPayload_encode (length_le_of_withinLimit within)]
  simp [bind, Except.bind, decoded, pure, Except.pure]

/--
If the payload of every accepted normal frame decodes to the frame, then a
stream of such frames is read back and nothing else.
-/
theorem readAll_of_decodes {Frame : Type} {decode} {Accepts}
    {Normal : Frame → Prop} {frames}
    (decodes : ∀ encoding frame, Accepts encoding frame → Normal frame →
      ∃ tag payload, encoding = encode tag payload ∧ decode tag payload = .ok frame)
    (accepted : Forall₂ Accepts encodings frames)
    (normal : ∀ frame ∈ frames, Normal frame)
    (within : ∀ encoding ∈ encodings, withinLimit encoding) :
    readAll (readFrame decode) encodings.flatten = (frames, .endOfStream) := by
  apply readAll_of_transmits
  induction accepted with
  | nil => exact .nil
  | cons first rest ih =>
    rw [forall_mem_cons] at normal within
    obtain ⟨_, _, rfl, decoded⟩ := decodes _ _ first normal.1
    exact .cons (transmits_of_decode decoded within.1) (ih normal.2 within.2)

end Jackin.Attach
