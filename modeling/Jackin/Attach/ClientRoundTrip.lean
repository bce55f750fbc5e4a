import Jackin.Attach.Client

/-!
# What the client writes is what the capsule reads

Every field of a client frame is read back from the bytes it was written to,
with whatever follows left alone.

The encoder accepts more than the reader can tell apart: a spawn without a
target, a terminal field that is present but empty, and a clipboard error in
free words that is read as one of the named errors.  Frames without these are
in normal form.
-/

namespace Jackin.Attach

open UInt16 List Foundation Wire Result
open Reader (decode_of_run run_bind run_ensure run_last)
open PayloadCursor

variable {bytes encoding : List UInt8}

theorem lengthU16_eq_ok {length}
    (accepted : lengthU16 bytes refusal = .ok length) :
    bytes.length = length.toNat := by
  rw [lengthU16] at accepted
  split at accepted
  · rename_i small
    cases accepted
    exact (toNat_ofNat_of_lt small).symm
  · cases accepted

theorem lengthU32_eq_ok {length}
    (accepted : lengthU32 bytes refusal = .ok length) :
    bytes.length = length.toNat := by
  rw [lengthU32] at accepted
  split at accepted
  · rename_i small
    cases accepted
    exact (UInt32.toNat_ofNat_of_lt small).symm
  · cases accepted

/-! ## Fields of the greeting -/

theorem run_checked {Value : Type} {result}
    {value : Value} (works : result = .ok value) :
    (checked result).run rest = .ok (value, rest) := by
  subst works
  rfl

/-- Both halves of an environment entry, with their lengths before them. -/
theorem run_readEnvEntry (accepted : encodeEnvEntry entry = .ok bytes) :
    readEnvEntry.run (bytes ++ rest) = .ok (entry, rest) := by
  simp only [encodeEnvEntry, bind_eq_ok, require_eq_ok, pure_eq_ok] at accepted
  obtain ⟨_, keyWithin, _, valueWithin, _, keySized, _, valueSized, rfl⟩ := accepted
  have keySame := lengthU16_eq_ok keySized
  have valueSame := lengthU32_eq_ok valueSized
  rw [keySame] at keyWithin
  rw [valueSame] at valueWithin
  simp only [append_assoc]
  rw [readEnvEntry, run_bind run_readU16, run_bind run_readU32,
    run_bind (run_ensure keyWithin _ _), run_bind (run_ensure valueWithin _ _),
    run_bind (run_readString keySame), run_bind (run_readString valueSame)]
  rfl

/-- The environment, by induction on its entries. -/
theorem run_readEnv (accepted : encodeEnv entries = .ok bytes) :
    (readEnv entries.length).run (bytes ++ rest) = .ok (entries, rest) := by
  induction entries generalizing bytes with
  | nil =>
    cases accepted
    rfl
  | cons entry others ih =>
    simp only [encodeEnv, bind_eq_ok, pure_eq_ok] at accepted
    obtain ⟨_, firstAccepted, _, laterAccepted, rfl⟩ := accepted
    rw [append_assoc, length_cons, readEnv,
      run_bind (run_readEnvEntry firstAccepted), run_bind (ih laterAccepted)]
    rfl

theorem run_readFocus :
    readFocus.run (encodeFocus focus ++ rest) = .ok (focus, rest) := by
  cases focus with
  | none => rfl
  | some id =>
    rw [readFocus, encodeFocus, cons_append, run_bind run_readU8]
    exact run_bind run_readU64

/-- A terminal field that is not the empty text. -/
theorem run_readTerminalField (given : value ≠ some "")
    (accepted : writeTerminalField value label = .ok bytes) :
    (readTerminalField label).run (bytes ++ rest) = .ok (value, rest) := by
  simp only [writeTerminalField, bind_eq_ok, require_eq_ok, pure_eq_ok] at accepted
  obtain ⟨_, within, _, sized, rfl⟩ := accepted
  have same := lengthU16_eq_ok sized
  rw [same] at within
  have restored : (if value.getD "" = "" then none
      else some (value.getD "")) = value := by
    cases value with
    | none => rfl
    | some text =>
      have nonempty : text ≠ "" := fun empty => given (congrArg some empty)
      exact if_neg nonempty
  rw [append_assoc, readTerminalField, run_bind run_readU16, run_bind (run_ensure within _ _),
    run_bind (run_readString same), Reader.run_pure, restored]

theorem run_readColorField :
    (readColorField label).run (writeColorField color ++ rest) =
      .ok (color, rest) := by
  cases color <;> rfl

theorem run_readOverrideBool :
    (readOverrideBool label).run (overrideByte value :: rest) =
      .ok (value, rest) := by
  cases value with
  | none => rfl
  | some value => cases value <;> rfl

theorem run_readImageProtocol :
    readImageProtocol.run (imageProtocolByte value :: rest) =
      .ok (value, rest) := by
  cases value with
  | none => rfl
  | some value => cases value <;> rfl

theorem run_readCapabilityOverrides :
    readCapabilityOverrides.run (writeCapabilityOverrides overrides ++ rest) =
      .ok (overrides, rest) := by
  rw [readCapabilityOverrides, run_bind Reader.run_finished]
  simp only [writeCapabilityOverrides, cons_append, isEmpty_cons, Bool.false_eq_true, if_false]
  rw [run_bind run_readOverrideBool, run_bind run_readOverrideBool, run_bind run_readOverrideBool,
    run_bind run_readOverrideBool, run_bind run_readOverrideBool, run_bind run_readImageProtocol]
  rfl

theorem run_readContext {Value : Type} {json} {value : Value}
    {serializing length} {lengthField field failure}
    (accepted : encodeContext json value serializing length = .ok bytes) :
    (readContext json lengthField field failure).run (bytes ++ rest) =
      .ok (value, rest) := by
  rw [encodeContext] at accepted
  cases written : json.toVec value with
  | error message =>
    rw [written] at accepted
    cases accepted
  | ok text =>
    rw [written] at accepted
    simp only [bind_eq_ok, pure_eq_ok] at accepted
    obtain ⟨_, sized, rfl⟩ := accepted
    rw [append_assoc, readContext, run_bind run_readU16,
      run_bind (run_readBytes (lengthU16_eq_ok sized)), json.fromSlice_toVec value text written]
    rfl

/-- The instance target that a spawn carries. -/
def spawnTarget : Option SpawnRequest → String
  | some (.instance target) => target
  | _ => ""

/-- No optional text is present and empty. -/
structure Hello.Normal (greeting : Hello) : Prop where
  spawn : greeting.spawn ≠ some (.instance "")
  term : greeting.terminal.term ≠ some ""
  termProgram : greeting.terminal.termProgram ≠ some ""
  colorterm : greeting.terminal.colorterm ≠ some ""

theorem spawnParts_target (spawn : Option SpawnRequest) :
    (spawnParts spawn).2 = utf8 (spawnTarget spawn) := by
  cases spawn with
  | none => rfl
  | some spawn => cases spawn <;> rfl

theorem readSpawn_spawnParts (given : spawn ≠ some (.instance "")) :
    readSpawn (spawnParts spawn).1 (spawnTarget spawn) = .ok spawn := by
  cases spawn with
  | none => rfl
  | some spawn =>
    cases spawn with
    | shell => rfl
    | «instance» target =>
      have nonempty : target ≠ "" := by
        rintro rfl
        exact given rfl
      exact if_neg nonempty

theorem run_readTerminal (termGiven : terminal.term ≠ some "")
    (programGiven : terminal.termProgram ≠ some "")
    (colorGiven : terminal.colorterm ≠ some "")
    (termAccepted : writeTerminalField terminal.term "TERM" = .ok term)
    (programAccepted :
      writeTerminalField terminal.termProgram "TERM_PROGRAM" = .ok termProgram)
    (colorAccepted :
      writeTerminalField terminal.colorterm "COLORTERM" = .ok colorterm) :
    readTerminal.run (term ++ (termProgram ++ (colorterm ++ (writeColorField terminal.defaultFg ++
            (writeColorField terminal.defaultBg ++
              (writeCapabilityOverrides terminal.capabilityOverrides ++ rest)))))) =
      .ok (terminal, rest) := by
  rw [readTerminal, run_bind (run_readTerminalField termGiven termAccepted),
    run_bind (run_readTerminalField programGiven programAccepted),
    run_bind (run_readTerminalField colorGiven colorAccepted), run_bind run_readColorField,
    run_bind run_readColorField, run_bind run_readCapabilityOverrides]
  rfl

theorem decode_hello (normal : greeting.Normal)
    (accepted : encodeHello json greeting = .ok encoding) :
    ∃ payload, encoding = encode tagHello payload ∧
      decodeHello json payload = .ok (.hello greeting) := by
  have target := spawnParts_target greeting.spawn
  have spawned := readSpawn_spawnParts normal.spawn
  simp only [encodeHello, bind_eq_ok, require_eq_ok, pure_eq_ok] at accepted
  obtain ⟨_, counted, _, agentSized, _, countOnWire, _,
    entriesAccepted, term, termAccepted, termProgram, programAccepted,
    colorterm, colorAccepted, _, contextAccepted, rfl⟩ := accepted
  have agentSame := lengthU16_eq_ok agentSized
  rw [target] at agentSame
  have count : (ofNat greeting.env.length).toNat =
      greeting.env.length := toNat_ofNat_of_lt countOnWire
  have counts : (ofNat greeting.env.length).toNat ≤ maxHelloEnv :=
    count.trans_le counted
  refine ⟨_, rfl, ?_⟩
  refine congrArg (Except.map _) (decode_of_run ?_)
  rw [target, readHello, run_bind run_readU16, run_bind run_readU16, run_bind run_readU8,
    run_bind run_readU16,
    run_bind (run_readString agentSame),
    run_bind (run_checked spawned), run_bind run_readU16,
    run_bind (run_ensure counts _ _), count,
    run_bind (run_readEnv entriesAccepted),
    run_bind run_readFocus,
    run_bind (run_readTerminal normal.term normal.termProgram
      normal.colorterm termAccepted programAccepted colorAccepted),
    run_bind (run_last fun _ => run_readContext contextAccepted)]
  rfl

/-! ## Clipboard frames -/

theorem fromTag_tag {format} :
    ClipboardImageFormat.fromTag format.tag = .ok format := by
  cases format <;> rfl

/-- A clipboard error that is read back as it is. -/
def ClipboardImageError.Normal (error : ClipboardImageError) : Prop :=
  ∀ message, error = .other message → ClipboardImageError.fromMessage message = .other message

theorem fromMessage_message (normal : error.Normal) :
    ClipboardImageError.fromMessage error.message = error := by
  cases error with
  | other message => exact normal message rfl
  | _ => decide +kernel

theorem run_readClipboardImageStart :
    readClipboardImageStart.run
        (u64 start.transferId ++ start.format.tag :: (u64 start.size ++ rest)) =
      .ok (start, rest) := by
  rw [readClipboardImageStart, run_bind run_readU64, run_bind run_readU8,
    run_bind (run_checked fromTag_tag), run_bind run_readU64]
  rfl

theorem run_readClipboardImageChunk (chunk : ClipboardImageChunk) :
    readClipboardImageChunk.run (u64 chunk.transferId ++ (u64 chunk.offset ++ chunk.bytes)) =
      .ok (chunk, []) := by
  rw [readClipboardImageChunk, run_bind run_readU64, run_bind run_readU64]
  rfl

theorem run_readClipboardImageEnd :
    (readClipboardImageEnd mismatch).run (u64 ending.transferId ++ ending.sha256.toList) =
      .ok (ending, []) := by
  rw [readClipboardImageEnd, run_bind run_readU64, run_bind (run_last fun _ => run_readDigest)]
  rfl

theorem decode_clipboardImageStart (accepted : encodeClipboardImageStart start = .ok encoding) :
    ∃ payload, encoding = encode tagClipboardImageStart payload ∧
      readClipboardImageStart.run payload = .ok (start, []) ∧
      decodeClipboardImageStart payload = .ok (.clipboardImageStart start) := by
  simp only [encodeClipboardImageStart, bind_eq_ok, require_eq_ok, pure_eq_ok] at accepted
  obtain ⟨_, positive, _, within, rfl⟩ := accepted
  have reads : readClipboardImageStart.run
      (u64 start.transferId ++ start.format.tag :: u64 start.size) = .ok (start, []) := by
    have atEnd : readClipboardImageStart.run
        (u64 start.transferId ++ start.format.tag :: (u64 start.size ++ [])) =
          .ok (start, []) := run_readClipboardImageStart
    rwa [append_nil] at atEnd
  refine ⟨_, rfl, reads, decode_of_run ?_⟩
  rw [run_bind reads, run_bind (run_ensure (Nat.ne_of_gt positive) _ _),
    run_bind (run_ensure within _ _)]
  rfl

theorem decode_clipboardImageChunk (accepted : encodeClipboardImageChunk chunk = .ok encoding) :
    ∃ payload, encoding = encode tagClipboardImageChunk payload ∧
      readClipboardImageChunk.run payload = .ok (chunk, []) ∧
      decodeClipboardImageChunk payload = .ok (.clipboardImageChunk chunk) := by
  simp only [encodeClipboardImageChunk, bind_eq_ok, require_eq_ok, pure_eq_ok] at accepted
  obtain ⟨_, nonempty, _, within, rfl⟩ := accepted
  have reads := run_readClipboardImageChunk chunk
  refine ⟨_, rfl, reads, decode_of_run ?_⟩
  rw [run_bind reads, run_bind (run_ensure nonempty _ _), run_bind (run_ensure within _ _)]
  rfl

theorem decode_clipboardImageEnd :
    decodeClipboardImageEnd (u64 ending.transferId ++ ending.sha256.toList) =
      .ok (.clipboardImageEnd ending) := by
  refine decode_of_run ?_
  rw [run_bind run_readClipboardImageEnd]
  rfl

theorem decode_clipboardImageError (normal : error.Normal)
    (accepted : encodeClipboardImageError error = .ok encoding) :
    ∃ payload, encoding = encode tagClipboardImageError payload ∧
      decodeClipboardImageError payload = .ok (.clipboardImageError error) := by
  simp only [encodeClipboardImageError, bind_eq_ok, require_eq_ok, pure_eq_ok] at accepted
  obtain ⟨_, nonempty, _, within, rfl⟩ := accepted
  refine ⟨_, rfl, ?_⟩
  rw [decodeClipboardImageError, if_neg nonempty, if_neg (Nat.not_lt.mpr within), fromUtf8_utf8]
  dsimp only
  rw [fromMessage_message normal]

theorem decode_hostNotice (accepted : encodeHostNotice message = .ok encoding) :
    ∃ payload, encoding = encode tagHostNotice payload ∧
      decodeHostNotice payload = .ok (.hostNotice message) := by
  simp only [encodeHostNotice, bind_eq_ok, require_eq_ok, pure_eq_ok] at accepted
  obtain ⟨_, nonempty, _, within, rfl⟩ := accepted
  refine ⟨_, rfl, ?_⟩
  rw [decodeHostNotice, if_neg nonempty, if_neg (Nat.not_lt.mpr within), fromUtf8_utf8]

theorem decode_clipboardImage (accepted : encodeClipboardImage image = .ok encoding) :
    ∃ payload, encoding = encode tagClipboardImage payload ∧
      decodeClipboardImage payload = .ok (.clipboardImage image) := by
  simp only [encodeClipboardImage, bind_eq_ok, require_eq_ok, pure_eq_ok] at accepted
  obtain ⟨_, nonempty, _, within, rfl⟩ := accepted
  refine ⟨_, rfl, ?_⟩
  simp only [decodeClipboardImage, bind_eq_ok]
  refine ⟨_, fromTag_tag, ?_⟩
  rw [if_neg nonempty, if_neg (Nat.not_lt.mpr within)]

theorem decode_resize :
    decodeResize (u16 rows ++ u16 cols) = .ok (.resize rows cols) := by
  have rowsBounded : rows.toNat < 256 ^ 2 := rows.toNat_lt
  have colsBounded : cols.toNat < 256 ^ 2 := cols.toNat_lt
  have front : (u16 rows ++ u16 cols).take 2 = u16 rows :=
    take_left' length_bigEndian
  have back : (u16 rows ++ u16 cols).drop 2 = u16 cols :=
    drop_left' length_bigEndian
  have whole : (u16 cols).take 2 = u16 cols :=
    take_of_length_le (Nat.le_of_eq length_bigEndian)
  have enough : 4 ≤ (u16 rows ++ u16 cols).length := by simp [u16]
  rw [decodeResize, if_pos enough, front, back, whole, u16, u16, fromBigEndian_bigEndian,
    fromBigEndian_bigEndian, Nat.mod_eq_of_lt rowsBounded, Nat.mod_eq_of_lt colsBounded,
    UInt16.ofNat_toNat, UInt16.ofNat_toNat]

theorem drop_encode : (encode tag payload).drop 5 = payload :=
  drop_left' length_bigEndian

def AttachControlOperation.Normal : AttachControlOperation → Prop
  | .clipboardImageError error => error.Normal
  | _ => True

/-- The operation takes the rest of the payload. -/
theorem run_readOperation (normal : operation.Normal)
    (accepted : encodeOperation operation = .ok bytes) :
    (readOperation operation.kind).run bytes = .ok (operation, []) := by
  cases operation with
  | detach | focusIn | focusOut =>
    cases accepted
    rfl
  | clipboardImage image =>
    simp only [encodeOperation, bind_eq_ok, require_eq_ok, pure_eq_ok] at accepted
    obtain ⟨_, within, rfl⟩ := accepted
    rw [AttachControlOperation.kind, readOperation, run_bind run_readU8,
      run_bind (run_checked fromTag_tag), run_bind run_readRemaining,
      run_bind (run_ensure within _ _)]
    rfl
  | clipboardImageStart start =>
    simp only [encodeOperation, map_eq_ok] at accepted
    obtain ⟨_, startAccepted, rfl⟩ := accepted
    obtain ⟨_, rfl, reads, _⟩ := decode_clipboardImageStart startAccepted
    exact run_bind reads
  | clipboardImageChunk chunk =>
    simp only [encodeOperation, map_eq_ok] at accepted
    obtain ⟨_, chunkAccepted, rfl⟩ := accepted
    obtain ⟨_, rfl, reads, _⟩ := decode_clipboardImageChunk chunkAccepted
    exact run_bind reads
  | clipboardImageEnd ending =>
    cases accepted
    exact run_bind run_readClipboardImageEnd
  | clipboardImageError error =>
    simp only [encodeOperation, bind_eq_ok, pure_eq_ok] at accepted
    obtain ⟨_, _, rfl⟩ := accepted
    rw [AttachControlOperation.kind, readOperation, run_bind run_readRemaining, fromUtf8_utf8]
    dsimp only
    rw [fromMessage_message normal]
    rfl

theorem decode_request (normal : request.operation.Normal)
    (accepted : encodeRequest json request = .ok encoding) :
    ∃ payload, encoding = encode tagAttachControl payload ∧
      (readRequest json).decode payload = .ok request := by
  simp only [encodeRequest, bind_eq_ok, pure_eq_ok] at accepted
  obtain ⟨_, contextAccepted, _, operationAccepted, _, _, rfl⟩ := accepted
  refine ⟨_, rfl, decode_of_run ?_⟩
  rw [readRequest, run_bind run_readU8, run_bind run_readU64,
    run_bind (run_readContext contextAccepted),
    run_bind (run_readOperation normal operationAccepted)]
  rfl

/-! ## Streams -/

/-- What the reader tells apart. -/
def ClientFrame.Normal : ClientFrame → Prop
  | .hello greeting => greeting.Normal
  | .clipboardImageError error => error.Normal
  | .attachControl request => request.operation.Normal
  | _ => True

section

variable {greetingJson : Serde (Option TelemetryContext)}
    {requestJson : Serde TelemetryContext}

/-- The payload of an encoded frame decodes to the frame. -/
theorem decodeClient_encodeClient
    (accepted : encodeClient greetingJson requestJson frame = .ok encoding)
    (normal : frame.Normal) :
    ∃ tag payload, encoding = encode tag payload ∧
      decodeClient greetingJson requestJson tag payload = .ok frame := by
  cases frame with
  | hello greeting => exact ⟨_, decode_hello normal accepted⟩
  | clipboardImage image => exact ⟨_, decode_clipboardImage accepted⟩
  | hostNotice message => exact ⟨_, decode_hostNotice accepted⟩
  | clipboardImageError error => exact ⟨_, decode_clipboardImageError normal accepted⟩
  | clipboardImageStart start =>
    obtain ⟨payload, same, _, decoded⟩ := decode_clipboardImageStart accepted
    exact ⟨_, payload, same, decoded⟩
  | clipboardImageChunk chunk =>
    obtain ⟨payload, same, _, decoded⟩ := decode_clipboardImageChunk accepted
    exact ⟨_, payload, same, decoded⟩
  | attachControl request =>
    obtain ⟨payload, same, decoded⟩ := decode_request normal accepted
    exact ⟨_, payload, same, congrArg (Except.map _) decoded⟩
  | clipboardImageEnd ending =>
    exact ⟨_, _, (Except.ok.inj accepted).symm, decode_clipboardImageEnd⟩
  | resize rows cols => exact ⟨_, _, (Except.ok.inj accepted).symm, decode_resize⟩
  | input _ | command _ | detach | focusIn | focusOut =>
    exact ⟨_, _, (Except.ok.inj accepted).symm, rfl⟩

/--
Whatever frames the client writes, within the limits and in normal form, the
capsule reads the same frames in order and then the end of the stream.
-/
theorem client_frames_round_trip {frames : List ClientFrame}
    {encodings : List (List UInt8)}
    (accepted : List.Forall₂
      (fun encoding frame => encodeClient greetingJson requestJson frame = .ok encoding)
      encodings frames)
    (normal : ∀ frame ∈ frames, frame.Normal)
    (within : ∀ encoding ∈ encodings, withinLimit encoding) :
    readAll (readClientFrame greetingJson requestJson) encodings.flatten =
      (frames, .endOfStream) :=
  readAll_of_decodes (fun _ _ => decodeClient_encodeClient) accepted normal within

end

/-- JSON of a single value. -/
def singleJson {Value : Type} [DecidableEq Value] (only : Value)
    (text : String) : Serde Value where
  toVec := fun value => if value = only then .ok (utf8 text) else .error "unexpected value"
  fromSlice := fun bytes => if bytes = utf8 text then .ok only else .error "unexpected bytes"
  fromSlice_toVec := by
    intro value bytes written
    split at written
    · rename_i same
      cases written
      rw [if_pos rfl, same]
    · cases written

def sampleContext : TelemetryContext where
  v := 1
  traceparent := none
  tracestate := none
  invocationId := none
  sessionId := none
  jobId := none

def nullJson : Serde (Option TelemetryContext) := singleJson none "null"

def sampleJson : Serde TelemetryContext := singleJson sampleContext "\x7b\"v\":1\x7d"

/-- A greeting with an environment, some input and a control request. -/
def sampleClientFrames : List ClientFrame :=
  [.hello
      { rows := 24
        cols := 80
        spawn := some (.instance "main")
        env := [("LANG", "C"), ("EMPTY", "")]
        focusSession := some 3
        terminal :=
          { term := some "xterm"
            termProgram := none
            colorterm := none
            defaultFg := some { red := 1, green := 2, blue := 3 }
            defaultBg := none
            capabilityOverrides := noOverrides }
        context := none },
    .input [104, 105],
    .clipboardImageError (.other "no luck"),
    .attachControl
      { requestId := 9, context := sampleContext
        operation := .clipboardImageError .io },
    .detach]

def sampleClientEncodings : List (List UInt8) :=
  sampleClientFrames.filterMap fun frame => (encodeClient nullJson sampleJson frame).toOption

theorem sample_client_frames_read :
    readAll (readClientFrame nullJson sampleJson) sampleClientEncodings.flatten =
      (sampleClientFrames, .endOfStream) := by
  apply client_frames_round_trip
  · exact .cons rfl (.cons rfl (.cons rfl (.cons rfl (.cons rfl .nil))))
  · intro frame member
    simp only [sampleClientFrames, mem_cons, not_mem_nil, or_false] at member
    rcases member with rfl | rfl | rfl | rfl | rfl
    · exact ⟨by decide, by decide, by decide, by decide⟩
    · trivial
    · rintro _ ⟨⟩
      decide +kernel
    · rintro _ ⟨⟩
    · trivial
  · decide +kernel

end Jackin.Attach
