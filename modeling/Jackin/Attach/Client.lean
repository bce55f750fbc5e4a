import Jackin.Attach.Frames
import Jackin.Foundation.Result

/-!
# Frames from the attach client to the capsule

`encode_client` writes the frames of the client and refuses what would not fit
the wire; `decode_client` reads them in the capsule.  The greeting carries
environment entries, the terminal and an optional telemetry context; a control
request carries a context and one of eight operations.
-/

namespace Jackin.Attach

open Foundation Wire Result PayloadCursor

/-! ## Frames -/

/-- What the client asks to have started. -/
inductive SpawnRequest where
  | shell
  | instance (target : String)
  deriving DecidableEq

inductive ImageProtocolCapability where
  | unsupported
  | kitty
  deriving DecidableEq

/-- What the user says the terminal can do. -/
structure AttachCapabilityOverrides where
  pointerShapes : Option Bool
  truecolor : Option Bool
  synchronizedOutput : Option Bool
  osc8Hyperlinks : Option Bool
  underlineStyle : Option Bool
  imageProtocol : Option ImageProtocolCapability
  deriving DecidableEq

structure Color where
  red : UInt8
  green : UInt8
  blue : UInt8
  deriving DecidableEq

/-- What the client knows about its terminal. -/
structure ClientTerminal where
  term : Option String
  termProgram : Option String
  colorterm : Option String
  defaultFg : Option Color
  defaultBg : Option Color
  capabilityOverrides : AttachCapabilityOverrides
  deriving DecidableEq

inductive ClipboardImageFormat where
  | png
  | jpeg
  | gif
  | webp
  | tiff
  deriving DecidableEq

/-- An image sent in one frame. -/
structure ClipboardImage where
  format : ClipboardImageFormat
  bytes : List UInt8
  deriving DecidableEq

structure ClipboardImageStart where
  transferId : UInt64
  format : ClipboardImageFormat
  size : UInt64
  deriving DecidableEq

structure ClipboardImageChunk where
  transferId : UInt64
  offset : UInt64
  bytes : List UInt8
  deriving DecidableEq

structure ClipboardImageEnd where
  transferId : UInt64
  sha256 : Digest
  deriving DecidableEq

/-- Why an image was not taken. -/
inductive ClipboardImageError where
  | empty
  | tooLarge
  | unsupportedFormat
  | digestMismatch
  | chunkSequence
  | missingTransfer
  | duplicateTransfer
  | backendUnavailable
  | io
  | other (message : String)
  deriving DecidableEq

inductive AttachControlOperation where
  | detach
  | focusIn
  | focusOut
  | clipboardImage (image : ClipboardImage)
  | clipboardImageStart (start : ClipboardImageStart)
  | clipboardImageChunk (chunk : ClipboardImageChunk)
  | clipboardImageEnd (ending : ClipboardImageEnd)
  | clipboardImageError (error : ClipboardImageError)
  deriving DecidableEq

/-- An operation whose answer names `requestId`. -/
structure AttachControlRequest where
  requestId : UInt64
  context : TelemetryContext
  operation : AttachControlOperation
  deriving DecidableEq

/-- The first frame of a client. -/
structure Hello where
  rows : UInt16
  cols : UInt16
  spawn : Option SpawnRequest
  env : List (String × String)
  focusSession : Option UInt64
  terminal : ClientTerminal
  context : Option TelemetryContext
  deriving DecidableEq

/-- What a client sends. -/
inductive ClientFrame where
  | hello (greeting : Hello)
  | resize (rows cols : UInt16)
  | input (bytes : List UInt8)
  | command (json : List UInt8)
  | detach
  | focusIn
  | focusOut
  | clipboardImage (image : ClipboardImage)
  | clipboardImageStart (start : ClipboardImageStart)
  | clipboardImageChunk (chunk : ClipboardImageChunk)
  | clipboardImageEnd (ending : ClipboardImageEnd)
  | clipboardImageError (error : ClipboardImageError)
  | hostNotice (message : String)
  | attachControl (request : AttachControlRequest)
  deriving DecidableEq

def ClipboardImageFormat.tag : ClipboardImageFormat → UInt8
  | .png => 1
  | .jpeg => 2
  | .gif => 3
  | .webp => 4
  | .tiff => 5

def ClipboardImageFormat.fromTag (tag : UInt8) : Except String ClipboardImageFormat :=
  match tag with
  | 1 => .ok .png
  | 2 => .ok .jpeg
  | 3 => .ok .gif
  | 4 => .ok .webp
  | 5 => .ok .tiff
  | other => .error s!"unknown clipboard image format tag {other}"

def ClipboardImageError.message : ClipboardImageError → String
  | .empty => "clipboard image transfer is empty"
  | .tooLarge => "clipboard image transfer exceeds cap"
  | .unsupportedFormat => "clipboard image magic bytes do not match a supported format"
  | .digestMismatch => "clipboard image transfer SHA-256 mismatch"
  | .chunkSequence => "clipboard image transfer chunk offset did not match expected"
  | .missingTransfer => "clipboard image transfer has no active start"
  | .duplicateTransfer => "clipboard image transfer already active"
  | .backendUnavailable => "host clipboard backend unavailable (xclip/wl-paste)"
  | .io => "clipboard image host I/O failed while reading/writing"
  | .other message => message

/-- `str::contains` after `to_ascii_lowercase`, for one of the patterns. -/
def mentions (message : String) (patterns : List String) : Bool :=
  let lower := message.toList.map Char.toLower
  patterns.any fun pattern => lower.tails.any fun tail => pattern.toList.isPrefixOf tail

def ClipboardImageError.fromMessage (message : String) : ClipboardImageError :=
  if mentions message ["empty"] then .empty
  else if mentions message ["exceeds cap", "too large", "over cap"] then .tooLarge
  else if mentions message ["magic", "signature", "not an image", "unsupported image"] then
    .unsupportedFormat
  else if mentions message ["sha-256", "digest"] then .digestMismatch
  else if mentions message ["offset", "did not match expected"] then .chunkSequence
  else if mentions message ["no active start"] then .missingTransfer
  else if mentions message ["already active"] then .duplicateTransfer
  else if mentions message ["display", "wayland", "xclip", "wl-paste", "wl-copy"] then
    .backendUnavailable
  else if mentions message ["create", "creating", "open", "opening", "write", "writing", "flush",
        "flushing", "permission", "metadata", "read", "reading"] then
    .io
  else .other message

/-! ## Encoding -/

/-- Why a frame is not encoded, with what the message names. -/
inductive Refusal where
  | envCount (count : Nat)
  | envCountOnWire
  | agentSlug
  | envKey (key : String) (length : Nat)
  | envValue (key : String) (length : Nat)
  | envKeyOnWire (key : String)
  | envValueOnWire (key : String)
  | terminalField (label : String) (length : Nat)
  | terminalFieldOnWire (label : String)
  | helloContext
  | helloContextLength
  | errorMessageEmpty
  | errorMessageLength (length : Nat)
  | noticeEmpty
  | noticeLength (length : Nat)
  | imageEmpty
  | imageLength (length : Nat)
  | controlContext
  | controlContextLength
  | controlImageSize
  | controlErrorMessage
  | controlPayload
  /-- An assertion does not hold. -/
  | assertion
  deriving DecidableEq

/-- `u16::try_from` of a length. -/
def lengthU16 (bytes : List UInt8)
    (refusal : Refusal) : Except Refusal UInt16 :=
  if bytes.length < UInt16.size then .ok (UInt16.ofNat bytes.length)
  else .error refusal

/-- `u32::try_from` of a length. -/
def lengthU32 (bytes : List UInt8)
    (refusal : Refusal) : Except Refusal UInt32 :=
  if bytes.length < UInt32.size then .ok (UInt32.ofNat bytes.length)
  else .error refusal

/-- The spawn kind and the bytes of the instance target. -/
def spawnParts : Option SpawnRequest → UInt8 × List UInt8
  | none => (0, [])
  | some .shell => (1, [])
  | some (.instance target) => (2, utf8 target)

def encodeEnvEntry (entry : String × String) : Except Refusal (List UInt8) := do
  let (key, value) := entry
  let keyBytes := utf8 key
  let valueBytes := utf8 value
  require (keyBytes.length ≤ maxHelloEnvKey) (.envKey key keyBytes.length)
  require (valueBytes.length ≤ maxHelloEnvValue) (.envValue key valueBytes.length)
  let keyLength ← lengthU16 keyBytes (.envKeyOnWire key)
  let valueLength ← lengthU32 valueBytes (.envValueOnWire key)
  pure (u16 keyLength ++ (u32 valueLength ++ (keyBytes ++ valueBytes)))

def encodeEnv : List (String × String) → Except Refusal (List UInt8)
  | [] => .ok []
  | entry :: rest => do
    let first ← encodeEnvEntry entry
    let others ← encodeEnv rest
    pure (first ++ others)

def encodeFocus : Option UInt64 → List UInt8
  | none => [0]
  | some id => 1 :: u64 id

def writeTerminalField (value : Option String)
    (label : String) : Except Refusal (List UInt8) := do
  let bytes := utf8 (value.getD "")
  require (bytes.length ≤ maxClientTerminalField) (.terminalField label bytes.length)
  let length ← lengthU16 bytes (.terminalFieldOnWire label)
  pure (u16 length ++ bytes)

def writeColorField : Option Color → List UInt8
  | none => [0]
  | some color => [1, color.red, color.green, color.blue]

def overrideByte : Option Bool → UInt8
  | none => 0
  | some false => 1
  | some true => 2

def imageProtocolByte : Option ImageProtocolCapability → UInt8
  | none => 0
  | some .unsupported => 1
  | some .kitty => 2

def writeCapabilityOverrides (overrides : AttachCapabilityOverrides) : List UInt8 :=
  [overrideByte overrides.pointerShapes, overrideByte overrides.truecolor,
    overrideByte overrides.synchronizedOutput, overrideByte overrides.osc8Hyperlinks,
    overrideByte overrides.underlineStyle, imageProtocolByte overrides.imageProtocol]

/-- `serde_json::to_vec` and the length of what it writes. -/
def encodeContext {Value : Type} (json : Serde Value) (value : Value)
    (serializing length : Refusal) : Except Refusal (List UInt8) :=
  match json.toVec value with
  | .error _ => .error serializing
  | .ok bytes => do
    let size ← lengthU16 bytes length
    pure (u16 size ++ bytes)

def encodeHello (json : Serde (Option TelemetryContext)) (greeting : Hello) :
    Except Refusal (List UInt8) := do
  let (spawnKind, agentBytes) := spawnParts greeting.spawn
  require (greeting.env.length ≤ maxHelloEnv) (.envCount greeting.env.length)
  let agentLength ← lengthU16 agentBytes .agentSlug
  require (greeting.env.length < UInt16.size) .envCountOnWire
  let entries ← encodeEnv greeting.env
  let term ← writeTerminalField greeting.terminal.term "TERM"
  let termProgram ← writeTerminalField greeting.terminal.termProgram "TERM_PROGRAM"
  let colorterm ← writeTerminalField greeting.terminal.colorterm "COLORTERM"
  let context ← encodeContext json greeting.context .helloContext .helloContextLength
  pure <| encode tagHello <| u16 greeting.rows ++ (u16 greeting.cols ++ spawnKind ::
      (u16 agentLength ++ (agentBytes ++ (u16 (UInt16.ofNat greeting.env.length) ++ (entries ++
          (encodeFocus greeting.focusSession ++ (term ++ (termProgram ++
            (colorterm ++ (writeColorField greeting.terminal.defaultFg ++
              (writeColorField greeting.terminal.defaultBg ++ (writeCapabilityOverrides
                    greeting.terminal.capabilityOverrides ++
                  context))))))))))))

def encodeClipboardImageStart (start : ClipboardImageStart) : Except Refusal (List UInt8) := do
  require (0 < start.size.toNat) .assertion
  require (start.size.toNat ≤ maxClipboardImageTransferBytes) .assertion
  pure <| encode tagClipboardImageStart <|
    u64 start.transferId ++ start.format.tag :: u64 start.size

def encodeClipboardImageChunk (chunk : ClipboardImageChunk) : Except Refusal (List UInt8) := do
  require (chunk.bytes ≠ []) .assertion
  require (chunk.bytes.length ≤ maxClipboardImageChunkBytes) .assertion
  pure <| encode tagClipboardImageChunk <| u64 chunk.transferId ++ (u64 chunk.offset ++ chunk.bytes)

def encodeClipboardImageEnd (ending : ClipboardImageEnd) : List UInt8 :=
  encode tagClipboardImageEnd (u64 ending.transferId ++ ending.sha256.toList)

def AttachControlOperation.kind : AttachControlOperation → UInt8
  | .detach => 1
  | .focusIn => 2
  | .focusOut => 3
  | .clipboardImage _ => 4
  | .clipboardImageStart _ => 5
  | .clipboardImageChunk _ => 6
  | .clipboardImageEnd _ => 7
  | .clipboardImageError _ => 8

def encodeOperation : AttachControlOperation → Except Refusal (List UInt8)
  | .detach | .focusIn | .focusOut => .ok []
  | .clipboardImage image => do
    require (¬(image.bytes = [] ∨ maxClipboardImageBytes < image.bytes.length)) .controlImageSize
    pure (image.format.tag :: image.bytes)
  | .clipboardImageStart start => (encodeClipboardImageStart start).map (·.drop 5)
  | .clipboardImageChunk chunk => (encodeClipboardImageChunk chunk).map (·.drop 5)
  | .clipboardImageEnd ending => .ok ((encodeClipboardImageEnd ending).drop 5)
  | .clipboardImageError error => do
    let message := utf8 error.message
    require (¬(message = [] ∨ maxClipboardImageErrorBytes < message.length)) .controlErrorMessage
    pure message

def encodeRequest (json : Serde TelemetryContext)
    (request : AttachControlRequest) : Except Refusal (List UInt8) := do
  let context ← encodeContext json request.context .controlContext .controlContextLength
  let operation ← encodeOperation request.operation
  let payload := request.operation.kind :: (u64 request.requestId ++ (context ++ operation))
  require (payload.length ≤ maxClipboardImageFramePayload) .controlPayload
  pure (encode tagAttachControl payload)

def encodeClipboardImageError (error : ClipboardImageError) : Except Refusal (List UInt8) := do
  let message := utf8 error.message
  require (message ≠ []) .errorMessageEmpty
  require (message.length ≤ maxClipboardImageErrorBytes) (.errorMessageLength message.length)
  pure (encode tagClipboardImageError message)

def encodeHostNotice (text : String) : Except Refusal (List UInt8) := do
  let message := utf8 text
  require (message ≠ []) .noticeEmpty
  require (message.length ≤ maxHostNoticeBytes) (.noticeLength message.length)
  pure (encode tagHostNotice message)

def encodeClipboardImage (image : ClipboardImage) : Except Refusal (List UInt8) := do
  require (image.bytes ≠ []) .imageEmpty
  require (image.bytes.length ≤ maxClipboardImageBytes) (.imageLength image.bytes.length)
  pure (encode tagClipboardImage (image.format.tag :: image.bytes))

section

variable (greetingJson : Serde (Option TelemetryContext))
    (requestJson : Serde TelemetryContext)

def encodeClient : ClientFrame → Except Refusal (List UInt8)
  | .hello greeting => encodeHello greetingJson greeting
  | .resize rows cols => .ok (encode tagResize (u16 rows ++ u16 cols))
  | .input bytes => .ok (encode tagInput bytes)
  | .command json => .ok (encode tagCommand json)
  | .detach => .ok (encode tagDetach [])
  | .focusIn => .ok (encode tagFocusIn [])
  | .focusOut => .ok (encode tagFocusOut [])
  | .clipboardImageStart start => encodeClipboardImageStart start
  | .clipboardImageChunk chunk => encodeClipboardImageChunk chunk
  | .clipboardImageEnd ending => .ok (encodeClipboardImageEnd ending)
  | .clipboardImageError error => encodeClipboardImageError error
  | .hostNotice message => encodeHostNotice message
  | .clipboardImage image => encodeClipboardImage image
  | .attachControl request => encodeRequest requestJson request

end

/-! ## Decoding -/

/-- Lift a check of a value that was read. -/
def checked {Value : Type} : Except String Value → Reader Value
  | .ok value => pure value
  | .error message => Reader.refuse message

def readSpawn (spawnKind : UInt8)
    (agent : String) : Except String (Option SpawnRequest) :=
  match spawnKind with
  | 0 => .ok none
  | 1 =>
    if agent ≠ "" then .error "hello shell spawn must not carry an instance target"
    else .ok (some .shell)
  | 2 =>
    if agent = "" then .error "hello instance spawn missing target"
    else .ok (some (.instance agent))
  | other => .error s!"unknown hello spawn kind {other}"

def readEnvEntry : Reader (String × String) := do
  let keyLength ← readU16 "env key length"
  let valueLength ← readU32 "env value length"
  Reader.ensure (keyLength.toNat ≤ maxHelloEnvKey)
    s!"hello env key length {keyLength} exceeds cap {maxHelloEnvKey}"
  Reader.ensure (valueLength.toNat ≤ maxHelloEnvValue)
    s!"hello env value length {valueLength} exceeds cap {maxHelloEnvValue}"
  let key ← readString keyLength.toNat "env key"
  let value ← readString valueLength.toNat "env value"
  pure (key, value)

def readEnv : Nat → Reader (List (String × String))
  | 0 => pure []
  | count + 1 => do
    let entry ← readEnvEntry
    let rest ← readEnv count
    pure (entry :: rest)

def readFocus : Reader (Option UInt64) := do
  let focusKind ← readU8 "focus kind"
  match focusKind with
  | 0 => pure none
  | 1 => do
    let id ← readU64 "focus session id"
    pure (some id)
  | other => Reader.refuse s!"unknown hello focus kind {other}"

def readTerminalField (label : String) : Reader (Option String) := do
  let length ← readU16 s!"terminal {label} length"
  Reader.ensure (length.toNat ≤ maxClientTerminalField)
    s!"hello terminal {label} length {length} exceeds cap {maxClientTerminalField}"
  let value ← readString length.toNat s!"terminal {label}"
  pure (if value = "" then none else some value)

def readColorField (label : String) : Reader (Option Color) := do
  let presence ← readU8 s!"{label} presence"
  match presence with
  | 0 => pure none
  | 1 => do
    let red ← readU8 s!"{label} r"
    let green ← readU8 s!"{label} g"
    let blue ← readU8 s!"{label} b"
    pure (some { red, green, blue })
  | other => Reader.refuse s!"unknown hello {label} presence byte {other}"

def readOverrideBool (label : String) : Reader (Option Bool) := do
  let value ← readU8 label
  match value with
  | 0 => pure none
  | 1 => pure (some false)
  | 2 => pure (some true)
  | other => Reader.refuse s!"unknown {label} byte {other}"

def readImageProtocol : Reader (Option ImageProtocolCapability) := do
  let value ← readU8 "image protocol override"
  match value with
  | 0 => pure none
  | 1 => pure (some .unsupported)
  | 2 => pure (some .kitty)
  | other => Reader.refuse s!"unknown image protocol override byte {other}"

def noOverrides : AttachCapabilityOverrides where
  pointerShapes := none
  truecolor := none
  synchronizedOutput := none
  osc8Hyperlinks := none
  underlineStyle := none
  imageProtocol := none

def readCapabilityOverrides : Reader AttachCapabilityOverrides := do
  let finished ← Reader.finished
  if finished then pure noOverrides
  else do
    let pointerShapes ← readOverrideBool "pointer shapes override"
    let truecolor ← readOverrideBool "truecolor override"
    let synchronizedOutput ← readOverrideBool "sync override"
    let osc8Hyperlinks ← readOverrideBool "osc8 override"
    let underlineStyle ← readOverrideBool "underline style override"
    let imageProtocol ← readImageProtocol
    pure
      { pointerShapes, truecolor, synchronizedOutput
        osc8Hyperlinks, underlineStyle, imageProtocol }

/-- A length and that many bytes of JSON. -/
def readContext {Value : Type} (json : Serde Value)
    (lengthField field failure : String) : Reader Value := do
  let length ← readU16 lengthField
  let bytes ← readBytes length.toNat field
  match json.fromSlice bytes with
  | .ok value => pure value
  | .error _ => Reader.refuse failure

def readTerminal : Reader ClientTerminal := do
  let term ← readTerminalField "TERM"
  let termProgram ← readTerminalField "TERM_PROGRAM"
  let colorterm ← readTerminalField "COLORTERM"
  let defaultFg ← readColorField "default fg"
  let defaultBg ← readColorField "default bg"
  let capabilityOverrides ← readCapabilityOverrides
  pure { term, termProgram, colorterm, defaultFg, defaultBg, capabilityOverrides }

def readHello (json : Serde (Option TelemetryContext)) : Reader Hello := do
  let rows ← readU16 "rows"
  let cols ← readU16 "cols"
  let spawnKind ← readU8 "spawn kind"
  let agentLength ← readU16 "agent length"
  let agent ← readString agentLength.toNat "agent slug"
  let spawn ← checked (readSpawn spawnKind agent)
  let envCount ← readU16 "env count"
  Reader.ensure (envCount.toNat ≤ maxHelloEnv)
    s!"hello env_count {envCount} exceeds limit {maxHelloEnv}"
  let env ← readEnv envCount.toNat
  let focusSession ← readFocus
  let terminal ← readTerminal
  let context ← readContext json "telemetry context length"
    "telemetry context" "decoding Hello telemetry context"
  let finished ← Reader.finished
  Reader.ensure finished "hello payload has trailing bytes"
  pure { rows, cols, spawn, env, focusSession, terminal, context }

def decodeHello (json : Serde (Option TelemetryContext))
    (payload : List UInt8) : Except String ClientFrame :=
  if payload.length < 4 then .error "hello payload too short"
  else ((readHello json).decode payload).map .hello

section

variable (payload : List UInt8)

def decodeResize : Except String ClientFrame :=
  if 4 ≤ payload.length then
    .ok (.resize (UInt16.ofNat (fromBigEndian (payload.take 2)))
      (UInt16.ofNat (fromBigEndian ((payload.drop 2).take 2))))
  else .error "resize payload too short"

def decodeClipboardImage : Except String ClientFrame :=
  match payload with
  | [] => .error "clipboard image payload too short"
  | formatTag :: bytes => do
    let format ← ClipboardImageFormat.fromTag formatTag
    let length := bytes.length
    if bytes = [] then .error "clipboard image payload is empty"
    else if maxClipboardImageBytes < length then
      .error s!"clipboard image payload {length} exceeds cap {maxClipboardImageBytes}"
    else .ok (.clipboardImage { format, bytes })

def readClipboardImageStart : Reader ClipboardImageStart := do
  let transferId ← readU64 "clipboard image transfer id"
  let formatTag ← readU8 "clipboard image format"
  let format ← checked (ClipboardImageFormat.fromTag formatTag)
  let size ← readU64 "clipboard image size"
  pure { transferId, format, size }

def decodeClipboardImageStart : Except String ClientFrame :=
  Reader.decode (do
    let start ← readClipboardImageStart
    let size := start.size
    Reader.ensure (size.toNat ≠ 0) "clipboard image transfer size is empty"
    Reader.ensure (size.toNat ≤ maxClipboardImageTransferBytes)
      s!"clipboard image transfer size {size} exceeds cap {maxClipboardImageTransferBytes}"
    let finished ← Reader.finished
    Reader.ensure finished "clipboard image start payload has trailing bytes"
    pure (.clipboardImageStart start)) payload

def readClipboardImageChunk : Reader ClipboardImageChunk := do
  let transferId ← readU64 "clipboard image transfer id"
  let offset ← readU64 "clipboard image offset"
  let bytes ← readRemaining
  pure { transferId, offset, bytes }

def decodeClipboardImageChunk : Except String ClientFrame :=
  Reader.decode (do
    let chunk ← readClipboardImageChunk
    let length := chunk.bytes.length
    Reader.ensure (chunk.bytes ≠ []) "clipboard image chunk is empty"
    Reader.ensure (length ≤ maxClipboardImageChunkBytes)
      s!"clipboard image chunk length {length} exceeds cap {maxClipboardImageChunkBytes}"
    pure (.clipboardImageChunk chunk)) payload

def readClipboardImageEnd (mismatch : String) : Reader ClipboardImageEnd := do
  let transferId ← readU64 "clipboard image transfer id"
  let sha256 ← readDigest "clipboard image sha256" mismatch
  pure { transferId, sha256 }

def decodeClipboardImageEnd : Except String ClientFrame :=
  Reader.decode (do
    let ending ← readClipboardImageEnd "clipboard image sha256 slice length mismatch"
    let finished ← Reader.finished
    Reader.ensure finished "clipboard image end payload has trailing bytes"
    pure (.clipboardImageEnd ending)) payload

def decodeClipboardImageError : Except String ClientFrame :=
  let length := payload.length
  if payload = [] then .error "clipboard image error message is empty"
  else if maxClipboardImageErrorBytes < length then
    .error (s!"clipboard image error message length {length} exceeds cap " ++
      toString maxClipboardImageErrorBytes)
  else
    match fromUtf8 payload with
    | none => .error "clipboard image error message is not valid UTF-8"
    | some message => .ok (.clipboardImageError (ClipboardImageError.fromMessage message))

def decodeHostNotice : Except String ClientFrame :=
  let length := payload.length
  if payload = [] then .error "host notice message is empty"
  else if maxHostNoticeBytes < length then
    .error s!"host notice message length {length} exceeds cap {maxHostNoticeBytes}"
  else
    match fromUtf8 payload with
    | none => .error "host notice message is not valid UTF-8"
    | some message => .ok (.hostNotice message)

end

/-- The operation of a control request, by its kind. -/
def readOperation (kind : UInt8) : Reader AttachControlOperation :=
  match kind with
  | 1 => pure .detach
  | 2 => pure .focusIn
  | 3 => pure .focusOut
  | 4 => do
    let formatTag ← readU8 "clipboard image format"
    let format ← checked (ClipboardImageFormat.fromTag formatTag)
    let bytes ← readRemaining
    Reader.ensure (¬(bytes = [] ∨ maxClipboardImageBytes < bytes.length))
      "clipboard image payload size is outside the bounded range"
    pure (.clipboardImage { format, bytes })
  | 5 => do
    let start ← readClipboardImageStart
    pure (.clipboardImageStart start)
  | 6 => do
    let chunk ← readClipboardImageChunk
    pure (.clipboardImageChunk chunk)
  | 7 => do
    let ending ← readClipboardImageEnd "clipboard image digest length mismatch"
    pure (.clipboardImageEnd ending)
  | 8 => do
    let bytes ← readRemaining
    match fromUtf8 bytes with
    | none => Reader.refuse "clipboard image error message is not valid UTF-8"
    | some message => pure (.clipboardImageError (ClipboardImageError.fromMessage message))
  | other => Reader.refuse s!"unknown attach control kind {other}"

def readRequest (json : Serde TelemetryContext) : Reader AttachControlRequest := do
  let kind ← readU8 "attach control kind"
  let requestId ← readU64 "attach control request id"
  let context ← readContext json "attach control context length"
    "attach control context" "decoding attach control telemetry context"
  let operation ← readOperation kind
  let finished ← Reader.finished
  Reader.ensure finished "attach control payload has trailing bytes"
  pure { requestId, context, operation }

section

variable (greetingJson : Serde (Option TelemetryContext))
    (requestJson : Serde TelemetryContext)

def decodeClientLegacy (tag : UInt8)
    (payload : List UInt8) : Except String ClientFrame :=
  match tag with
  | tagHello => decodeHello greetingJson payload
  | tagResize => decodeResize payload
  | tagInput => .ok (.input payload)
  | tagCommand => .ok (.command payload)
  | tagDetach => .ok .detach
  | tagFocusIn => .ok .focusIn
  | tagFocusOut => .ok .focusOut
  | tagClipboardImage => decodeClipboardImage payload
  | tagClipboardImageStart => decodeClipboardImageStart payload
  | tagClipboardImageChunk => decodeClipboardImageChunk payload
  | tagClipboardImageEnd => decodeClipboardImageEnd payload
  | tagClipboardImageError => decodeClipboardImageError payload
  | tagHostNotice => decodeHostNotice payload
  | other => .error ("unknown client attach tag " ++ hexadecimal other)

def decodeClient (tag : UInt8)
    (payload : List UInt8) : Except String ClientFrame :=
  if tag = tagAttachControl then ((readRequest requestJson).decode payload).map .attachControl
  else decodeClientLegacy greetingJson tag payload

def readClientFrame : FrameReader ClientFrame :=
  readFrame (decodeClient greetingJson requestJson)

end

end Jackin.Attach
