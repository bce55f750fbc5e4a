import Jackin.Attach.Client
import Jackin.Foundation.Table

/-!
# Clipboard image transfers

The capsule takes large clipboard images in chunks.  A transfer is started
with the format and the size of its image and collects the chunks that fit.
Its end, a refused chunk and a long silence remove it.

What a transfer has buffered is compared with the journal of the calls that
were accepted, which the program does not keep.
-/

namespace Jackin.Attach

open Foundation Result

/-- A transfer between its start and its end; the hasher is what it was fed. -/
structure ActiveClipboardImageTransfer where
  format : ClipboardImageFormat
  expectedSize : UInt64
  bytes : List UInt8
  hasher : List UInt8
  lastActivity : Nat

abbrev ClipboardImageTransfers :=
  Table (Prod.fst : UInt64 × ActiveClipboardImageTransfer → UInt64)

def ClipboardImageFormat.debug : ClipboardImageFormat → String
  | .png => "Png"
  | .jpeg => "Jpeg"
  | .gif => "Gif"
  | .webp => "Webp"
  | .tiff => "Tiff"

def hasMagic (bytes : List UInt8) : ClipboardImageFormat → Bool
  | .png => [0x89, 0x50, 0x4e, 0x47, 0x0d, 0x0a, 0x1a, 0x0a].isPrefixOf bytes
  | .jpeg => [0xff, 0xd8, 0xff].isPrefixOf bytes
  | .gif => [0x47, 0x49, 0x46, 0x38, 0x37, 0x61].isPrefixOf bytes ||
      [0x47, 0x49, 0x46, 0x38, 0x39, 0x61].isPrefixOf bytes
  | .webp => decide (12 ≤ bytes.length) && [0x52, 0x49, 0x46, 0x46].isPrefixOf bytes &&
      (bytes.drop 8).take 4 == [0x57, 0x45, 0x42, 0x50]
  | .tiff => [0x4d, 0x4d, 0, 0x2a].isPrefixOf bytes || [0x49, 0x49, 0x2a, 0].isPrefixOf bytes

def validateImageMagic (image : ClipboardImage) : Except String Unit := do
  require (image.bytes ≠ []) "clipboard image payload is empty"
  require (hasMagic image.bytes image.format)
    ("clipboard image magic bytes do not match " ++ image.format.debug)

variable (sha256 : List UInt8 → Digest) (now : Nat)

namespace ClipboardImageTransfers

variable (active : ClipboardImageTransfers)

def remove (transferId : UInt64) : ClipboardImageTransfers :=
  active.delete fun row => decide (row.1 = transferId)

def start (start : ClipboardImageStart) : Except String ClipboardImageTransfers := do
  require (active.find? start.transferId = none)
    s!"clipboard image transfer {start.transferId} already active"
  require (start.size ≠ 0) "clipboard image transfer is empty"
  require (start.size.toNat ≤ maxClipboardImageTransferBytes)
    s!"clipboard image transfer {start.size} bytes exceeds cap {maxClipboardImageTransferBytes}"
  pure (active.upsert (start.transferId, ⟨start.format, start.size, [], [], now⟩))

def chunkInner (chunk : ClipboardImageChunk) : Except String ClipboardImageTransfers := do
  let (_, transfer) ← present (active.find? chunk.transferId)
    s!"clipboard image transfer {chunk.transferId} has no active start"
  let written := transfer.bytes.length
  require (written < 2 ^ 64) "clipboard image byte count overflow"
  require (chunk.offset.toNat = written) (s!"clipboard image transfer {chunk.transferId} " ++
    s!"offset {chunk.offset} did not match expected {written}")
  require (chunk.bytes.length < 2 ^ 64) "clipboard image chunk length overflow"
  let newWritten := written + chunk.bytes.length
  require (newWritten < 2 ^ 64) "clipboard image byte count overflow"
  require (newWritten ≤ transfer.expectedSize.toNat)
    (s!"clipboard image transfer {chunk.transferId} wrote {newWritten} bytes, " ++
      s!"expected {transfer.expectedSize}")
  pure (active.upsert (chunk.transferId,
    { transfer with
      bytes := transfer.bytes ++ chunk.bytes, hasher := transfer.hasher ++ chunk.bytes
      lastActivity := now }))

/-- A refused chunk ends its transfer. -/
def chunk (chunk : ClipboardImageChunk) : Except String Unit × ClipboardImageTransfers :=
  match active.chunkInner now chunk with
  | .ok grown => (.ok (), grown)
  | .error failure => (.error failure, active.remove chunk.transferId)

/-- The end of a transfer, which removes it in any case. -/
def ending (ending : ClipboardImageEnd) : Except String ClipboardImage × ClipboardImageTransfers :=
  (do
    let (_, transfer) ← present (active.find? ending.transferId)
      s!"clipboard image transfer {ending.transferId} has no active start"
    let written := transfer.bytes.length
    require (written < 2 ^ 64) "clipboard image byte count overflow"
    require (written = transfer.expectedSize.toNat)
      (s!"clipboard image transfer {ending.transferId} ended after {written} bytes, " ++
        s!"expected {transfer.expectedSize}")
    require (sha256 transfer.hasher = ending.sha256)
      s!"clipboard image transfer {ending.transferId} SHA-256 mismatch"
    let image := ⟨transfer.format, transfer.bytes⟩
    validateImageMagic image
    pure image, active.remove ending.transferId)

def abortIdleIdsBefore (cutoff : Nat) : List UInt64 × ClipboardImageTransfers :=
  let staleIds := (active.rows.filter fun row => row.2.lastActivity ≤ cutoff).map Prod.fst
  (staleIds, staleIds.foldl remove active)

def abortIdleIdsOlderThan (maxIdle : Nat) : List UInt64 × ClipboardImageTransfers :=
  active.abortIdleIdsBefore (if maxIdle ≤ now then now - maxIdle else now)

end ClipboardImageTransfers

/-! ## Calls in any order -/

/-- A call on the transfers. -/
inductive TransferCall where
  | start (start : ClipboardImageStart)
  | chunk (chunk : ClipboardImageChunk)
  | ending (ending : ClipboardImageEnd)
  | abortIdle (maxIdle : Nat)

/-- The transfer a call is about; an abort is about none in particular. -/
def TransferCall.transferId : TransferCall → Option UInt64
  | .start opening => some opening.transferId
  | .chunk part => some part.transferId
  | .ending close => some close.transferId
  | .abortIdle _ => none

/--
The active transfers, and for every id its last start that succeeded with the
chunks that were accepted since.
-/
structure TransferWorld where
  active : ClipboardImageTransfers
  journal : UInt64 → Option (ClipboardImageStart × List ClipboardImageChunk)

namespace TransferWorld

/-- One call at a time of the clock. -/
def step (world : TransferWorld) : TransferCall → TransferWorld
  | .start start =>
    match world.active.start now start with
    | .ok active => ⟨active, Function.update world.journal start.transferId (some (start, []))⟩
    | .error _ => world
  | .chunk chunk =>
    match world.active.chunk now chunk with
    | (.ok (), active) =>
      ⟨active, Function.update world.journal chunk.transferId
        ((world.journal chunk.transferId).map fun (start, chunks) => (start, chunks ++ [chunk]))⟩
    | (.error _, active) => ⟨active, world.journal⟩
  | .ending ending => ⟨(world.active.ending sha256 ending).2, world.journal⟩
  | .abortIdle maxIdle => ⟨(world.active.abortIdleIdsOlderThan now maxIdle).2, world.journal⟩

def play (calls : List (Nat × TransferCall)) : TransferWorld :=
  calls.foldl (fun world (now, call) => world.step sha256 now call) ⟨.empty, fun _ => none⟩

/-- A transfer holds what was accepted for it, within the declared size. -/
structure Holds (start : ClipboardImageStart)
    (chunks : List ClipboardImageChunk)
    (transfer : ActiveClipboardImageTransfer) : Prop where
  format : transfer.format = start.format
  size : transfer.expectedSize = start.size
  capped : start.size.toNat ≤ maxClipboardImageTransferBytes
  bytes : transfer.bytes = chunks.flatMap (·.bytes)
  fits : transfer.bytes.length ≤ start.size.toNat

def Faithful (world : TransferWorld) : Prop :=
  ∀ id row, world.active.find? id = some row →
    ∃ start chunks, world.journal id = some (start, chunks) ∧ Holds start chunks row.2

variable {sha256 now} {world : TransferWorld} {active : ClipboardImageTransfers}
    {id : UInt64}

theorem find?_remove :
    (active.remove gone).find? id = if id = gone then none else active.find? id :=
  Table.find?_delete_key

theorem find?_removeAll {ids : List UInt64} :
    (ids.foldl ClipboardImageTransfers.remove active).find? id =
      if id ∈ ids then none else active.find? id := by
  induction ids generalizing active with
  | nil => rfl
  | cons gone ids ih =>
    rw [List.foldl_cons, ih, find?_remove]
    grind

/--
A call writes its transfer and the journal for it, or it only removes: its
transfer, or any if it is an abort.
-/
theorem Faithful.step_cases (faithful : world.Faithful) (call : TransferCall) :
    (∃ id transfer start chunks, call.transferId = some id ∧ Holds start chunks transfer ∧
      world.step sha256 now call = ⟨world.active.upsert (id, transfer),
        Function.update world.journal id (some (start, chunks))⟩) ∨
    ∃ active, world.step sha256 now call = ⟨active, world.journal⟩ ∧
      ∀ id, active.find? id = world.active.find? id ∨
        active.find? id = none ∧
          (call.transferId = some id ∨ call.transferId = none) := by
  cases call with
  | start start =>
    cases started : world.active.start now start with
    | ok active =>
      simp only [step, started]
      simp only [ClipboardImageTransfers.start, bind_eq_ok, require_eq_ok, pure_eq_ok] at started
      obtain ⟨_, _, _, _, _, capped, rfl⟩ := started
      exact .inl ⟨_, _, start, [], rfl, ⟨rfl, rfl, capped, rfl, Nat.zero_le _⟩, rfl⟩
    | error failure => exact .inr ⟨world.active, by rw [step, started], fun _ => .inl rfl⟩
  | chunk chunk =>
    cases accepted : world.active.chunkInner now chunk with
    | ok grown =>
      simp only [step, ClipboardImageTransfers.chunk, accepted]
      simp only [ClipboardImageTransfers.chunkInner, bind_eq_ok, require_eq_ok, pure_eq_ok,
        present_eq_ok] at accepted
      obtain ⟨⟨_, transfer⟩, found, _, _, _, _, _, _, _, _, _, fits, rfl⟩ := accepted
      obtain ⟨start, chunks, known, holds⟩ := faithful _ _ found
      refine .inl ⟨_, _, start, chunks ++ [chunk], rfl, ?_, by rw [known]; rfl⟩
      refine ⟨holds.format, holds.size, holds.capped, ?_, ?_⟩
      · simpa using holds.bytes
      · rwa [List.length_append, ← holds.size]
    | error failure =>
      refine .inr ⟨world.active.remove chunk.transferId, ?_, ?_⟩
      · simp only [step, ClipboardImageTransfers.chunk, accepted]
      · intro id
        rw [find?_remove]
        grind [TransferCall.transferId]
  | ending ending =>
    refine .inr ⟨_, rfl, fun id => ?_⟩
    rw [ClipboardImageTransfers.ending, find?_remove]
    grind [TransferCall.transferId]
  | abortIdle maxIdle =>
    refine .inr ⟨_, rfl, fun id => ?_⟩
    rw [ClipboardImageTransfers.abortIdleIdsOlderThan, ClipboardImageTransfers.abortIdleIdsBefore,
      find?_removeAll]
    grind [TransferCall.transferId]

theorem Faithful.step (faithful : world.Faithful) (call : TransferCall) :
    (world.step sha256 now call).Faithful := by
  intro other row found
  rcases faithful.step_cases call with ⟨id, transfer, start, chunks, _, holds, stepped⟩ |
    ⟨active, stepped, removes⟩
  · rw [stepped] at found ⊢
    rw [Table.find?_upsert] at found
    split at found
    · next same =>
      cases found
      subst same
      exact ⟨start, chunks, Function.update_self .., holds⟩
    · next differs =>
      obtain ⟨start, chunks, known, holds⟩ := faithful other row found
      exact ⟨start, chunks, (Function.update_of_ne (Ne.symm differs) ..).trans known, holds⟩
  · rw [stepped] at found ⊢
    refine faithful other row ?_
    grind

theorem play_faithful (calls : List (Nat × TransferCall)) :
    (play sha256 calls).Faithful := by
  apply List.foldlRecOn calls
  · exact fun _ _ => nofun
  · exact fun _ faithful call _ => faithful.step call.2

end TransferWorld

open TransferWorld

/--
Whatever calls were made, in whatever order: an image is returned only whole,
no call changes the transfers of other ids except that an abort removes them,
and nothing is buffered beyond the declared size.
-/
theorem transfers_complete (sha256 : List UInt8 → Digest)
    (calls : List (Nat × TransferCall)) :
    (∀ ending image, ((play sha256 calls).active.ending sha256 ending).1 = .ok image →
      ∃ start chunks, (play sha256 calls).journal ending.transferId = some (start, chunks) ∧
        image.bytes = chunks.flatMap (·.bytes) ∧ image.bytes.length = start.size.toNat ∧
        start.size.toNat ≤ maxClipboardImageTransferBytes ∧ image.format = start.format) ∧
    (∀ now call id, call.transferId ≠ some id →
      ((play sha256 calls).step sha256 now call).active.find? id =
          (play sha256 calls).active.find? id ∨
        call.transferId = none ∧
          ((play sha256 calls).step sha256 now call).active.find? id = none) ∧
    ∀ id row, (play sha256 calls).active.find? id = some row →
      row.2.bytes.length ≤ row.2.expectedSize.toNat := by
  have faithful : (play sha256 calls).Faithful := play_faithful calls
  refine ⟨?_, ?_, ?_⟩
  · intro ending image ended
    simp only [ClipboardImageTransfers.ending, bind_eq_ok, require_eq_ok, pure_eq_ok,
      present_eq_ok] at ended
    obtain ⟨⟨_, transfer⟩, found, _, _, _, whole, _, _, _, _, rfl⟩ := ended
    obtain ⟨start, chunks, known, holds⟩ := faithful _ _ found
    exact ⟨start, chunks, known, holds.bytes, holds.size ▸ whole, holds.capped, holds.format⟩
  · intro now call id other
    rcases faithful.step_cases call with ⟨named, _, _, _, names, _, stepped⟩ | ⟨_, stepped, removes⟩
    · rw [stepped, Table.find?_upsert]
      grind
    · rw [stepped]
      grind
  · intro id row found
    obtain ⟨_, _, _, holds⟩ := faithful id row found
    exact holds.size ▸ holds.fits

/-- One of two interleaved transfers ends with its image. -/
example :
    let sha256 : List UInt8 → Digest := fun bytes => .ofFn fun place => bytes.getD place 0
    let calls : List (Nat × TransferCall) :=
      [(0, .start ⟨1, .jpeg, 3⟩), (1, .start ⟨2, .png, 8⟩), (2, .chunk ⟨1, 0, [255, 216]⟩),
        (3, .chunk ⟨2, 0, [137]⟩), (4, .chunk ⟨1, 2, [255]⟩)]
    ((play sha256 calls).active.ending sha256 ⟨1, sha256 [255, 216, 255]⟩).1.toOption =
      some ⟨.jpeg, [255, 216, 255]⟩ := by
  decide +kernel

end Jackin.Attach
