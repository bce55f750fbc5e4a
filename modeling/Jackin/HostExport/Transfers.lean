import Mathlib
import Jackin.HostExport.Model

/-!
# Transfers that do not disturb each other

The final and the temporary name of a transfer are chosen when it starts and
used when it ends, while other transfers come and go.  The invariant ties
every transfer under way to the directory: its temporary name leads to its
own inode and to nothing else, its final name is free, and the file holds what
was accepted so far, which a ledger reads off the answers of the calls.

It survives a start unless the temporary name of the new transfer is the final
name another transfer has chosen before: that name is still free, so the new
transfer creates its file there, and the older one renames its own file over
it when it ends.
-/

namespace Jackin.HostExport

open List Foundation Script Exports Table

variable {exports : Exports} {name : FileName} {bytes : List UInt8}
    {active : ActiveHostFileExport}
    {failure : Failure} {other : FileName} {transferId : Nat}

/-! ## Looking up names -/

namespace Exports

theorem node?_eq_none :
    exports.node? name = none ↔ exports.root.find? name = none :=
  Option.map_eq_none_iff

@[simp]
theorem node?_create :
    (exports.create name).node? other =
      if other = name then some (.file exports.nextInode)
      else exports.node? other :=
  Directory.node?_store

@[simp]
theorem node?_remove :
    (exports.remove name).node? other = if other = name then none else exports.node? other :=
  Directory.node?_drop

@[simp]
theorem node?_move :
    (exports.move node source target).node? other =
      if other = target then some node
      else if other = source then none else exports.node? other :=
  Directory.node?_move

theorem find?_keep :
    (exports.keep active).active.find? wanted =
      if active.transferId = wanted then some active
      else exports.active.find? wanted :=
  find?_upsert

theorem find?_retire :
    (exports.retire gone).active.find? wanted =
      if wanted = gone then none else exports.active.find? wanted :=
  find?_delete_key

end Exports

section

variable {content : List UInt8}

variable (within : offset ≤ content.length)
include within

theorem overwrite_eq :
    overwrite content offset bytes =
      content.take offset ++ (bytes ++ content.drop (offset + bytes.length)) := by
  rw [overwrite, Nat.sub_eq_zero_of_le within, replicate_zero, append_nil, append_assoc]

theorem take_overwrite :
    (overwrite content offset bytes).take offset = content.take offset := by
  rw [overwrite_eq within, take_append_of_le_length]
  · rw [take_take, Nat.min_self]
  · rw [length_take, Nat.min_eq_left within]

theorem take_overwrite_add :
    (overwrite content offset bytes).take (offset + bytes.length) =
      content.take offset ++ bytes := by
  rw [overwrite_eq within, ← append_assoc, take_append_of_le_length]
  · rw [take_of_length_le]
    rw [length_append, length_take, Nat.min_eq_left within]
  · rw [length_append, length_take, Nat.min_eq_left within]

theorem length_overwrite_le (short : content.length ≤ bound)
    (fits : offset + bytes.length ≤ bound) :
    (overwrite content offset bytes).length ≤ bound := by
  rw [overwrite_eq within, length_append, length_append, length_take, length_drop]
  omega

end

/-- The declared size of a transfer and the bytes accepted for it. -/
structure Transfer where
  size : Nat
  bytes : List UInt8
  deriving DecidableEq

/-- The transfers started so far, by their identifiers. -/
abbrev Ledger := Nat → Option Transfer

def Transfer.accept (bytes : List UInt8) (transfer : Transfer) : Transfer :=
  { transfer with bytes := transfer.bytes ++ bytes }

variable {ledger : Ledger}

section

variable {Digest : Type}

/-- Keep the books by the calls and their answers. -/
def Ledger.record (ledger : Ledger) : Call Digest → Except (Stop Failure) Answer → Ledger
  | .start request _, .ok _ => Function.update ledger request.transferId (some ⟨request.size, []⟩)
  | .chunk piece _, .ok _ =>
    Function.update ledger piece.transferId
      ((ledger piece.transferId).map (Transfer.accept piece.bytes))
  | _, _ => ledger

end

/-! ## The invariant -/

/-- A transfer under way owns its temporary file and a free final name. -/
structure Tracked (ledger : Ledger) (exports : Exports)
    (active : ActiveHostFileExport) : Prop where
  named : isFileName active.finalName
  temporary : active.temporary = temporaryName active.finalName
  opened : exports.node? active.temporary = some (.file active.file)
  free : exports.node? active.finalName = none
  sole : ∀ name, exports.node? name = some (.file active.file) → name = active.temporary
  counted : ledger active.transferId = some ⟨active.expectedSize, active.hasher⟩
  length : active.written = active.hasher.length
  begun : (exports.contents active.file).take active.written = active.hasher
  within : (exports.contents active.file).length ≤ active.expectedSize

/-- Every active transfer is tracked, and no two share a name. -/
structure Sound (ledger : Ledger) (exports : Exports) : Prop where
  bounded : ∀ name inode, exports.node? name = some (.file inode) → inode < exports.nextInode
  tracked : ∀ transferId active,
    exports.active.find? transferId = some active → Tracked ledger exports active
  apart : ∀ firstId secondId first second, exports.active.find? firstId = some first →
      exports.active.find? secondId = some second →
        firstId ≠ secondId → first.finalName ≠ second.finalName

/-- Nothing that concerns a transfer has changed. -/
theorem Tracked.transport {before after}
    (tracked : Tracked ledger before active)
    (opened : after.node? active.temporary = before.node? active.temporary)
    (free : after.node? active.finalName = none)
    (sole : ∀ name, after.node? name = some (.file active.file) →
      before.node? name = some (.file active.file))
    (content : after.contents active.file = before.contents active.file)
    (counted : later active.transferId = ledger active.transferId) :
    Tracked later after active where
  named := tracked.named
  temporary := tracked.temporary
  opened := opened.trans tracked.opened
  free := free
  sole := fun name leads => tracked.sole name (sole name leads)
  counted := counted.trans tracked.counted
  length := tracked.length
  begun := by
    rw [content]
    exact tracked.begun
  within := by
    rw [content]
    exact tracked.within

/-- What a transfer has written so far is in its file. -/
theorem Tracked.reached (tracked : Tracked ledger exports active) :
    active.written ≤ (exports.contents active.file).length := by
  have taken := congrArg List.length tracked.begun
  rw [length_take, ← tracked.length] at taken
  omega

theorem Exports.contents_write :
    (exports.write inode offset bytes).contents inode =
      overwrite (exports.contents inode) offset bytes :=
  if_pos rfl

/-- A chunk that is written is accepted. -/
theorem Tracked.accept (now : Nat) (tracked : Tracked ledger exports active)
    (fits : active.written + bytes.length ≤ active.expectedSize) :
    Tracked (Function.update ledger active.transferId
        ((ledger active.transferId).map (Transfer.accept bytes)))
      (exports.write active.file active.written bytes)
      { active with
        hasher := active.hasher ++ bytes, written := active.written + bytes.length
        lastActivity := now } where
  named := tracked.named
  temporary := tracked.temporary
  opened := tracked.opened
  free := tracked.free
  sole := tracked.sole
  counted := by
    rw [Function.update_self, tracked.counted]
    rfl
  length := by rw [length_append, tracked.length]
  begun := by rw [contents_write, take_overwrite_add tracked.reached, tracked.begun]
  within := by
    rw [contents_write]
    exact length_overwrite_le tracked.reached tracked.within fits

namespace Sound

variable (sound : Sound ledger exports)
include sound

/-- Two transfers have different temporary files. -/
theorem temporary_ne (firstFound : exports.active.find? firstId = some first)
    (secondFound : exports.active.find? secondId = some second)
    (different : firstId ≠ secondId) :
    first.temporary ≠ second.temporary := by
  have firstTracked := sound.tracked _ _ firstFound
  have secondTracked := sound.tracked _ _ secondFound
  rw [firstTracked.temporary, secondTracked.temporary]
  intro same
  exact sound.apart _ _ _ _ firstFound secondFound different
    (temporaryName_injective firstTracked.named secondTracked.named same)

theorem file_ne (firstFound : exports.active.find? firstId = some first)
    (secondFound : exports.active.find? secondId = some second)
    (different : firstId ≠ secondId) :
    first.file ≠ second.file := by
  intro same
  have leads := (sound.tracked _ _ firstFound).opened
  rw [same] at leads
  exact sound.temporary_ne firstFound secondFound different
    ((sound.tracked _ _ secondFound).sole _ leads)

/-- A file is created under a free name that no transfer waits for. -/
theorem create (absent : exports.node? name = none)
    (clear : ∀ transferId other,
      exports.active.find? transferId = some other → other.finalName ≠ name) :
    Sound ledger (exports.create name) where
  bounded := by
    intro other inode leads
    rw [node?_create] at leads
    split at leads
    · cases leads
      exact Nat.lt_succ_self _
    · exact Nat.lt_succ_of_lt (sound.bounded _ _ leads)
  tracked := by
    intro transferId active found
    have tracked := sound.tracked transferId active found
    have below := sound.bounded _ _ tracked.opened
    have older : active.file ≠ exports.nextInode := by omega
    have elsewhere : active.temporary ≠ name := by
      intro same
      have opened := tracked.opened
      rw [same, absent] at opened
      cases opened
    apply tracked.transport
    · rw [node?_create, if_neg elsewhere]
    · rw [node?_create, if_neg (clear _ _ found)]
      exact tracked.free
    · intro other leads
      rw [node?_create] at leads
      split at leads
      · have same : exports.nextInode = active.file := by simpa using leads
        exact absurd same.symm older
      · exact leads
    · exact if_neg older
    · rfl
  apart := sound.apart

/-- The state of one transfer is replaced. -/
theorem keep (tracked : Tracked later exports active)
    (apart : ∀ transferId other, active.transferId ≠ transferId →
      exports.active.find? transferId = some other → other.finalName ≠ active.finalName)
    (counted : ∀ transferId, active.transferId ≠ transferId →
      later transferId = ledger transferId) : Sound later (exports.keep active) where
  bounded := sound.bounded
  tracked := by
    intro transferId other found
    rw [find?_keep] at found
    split at found
    · cases found
      exact tracked.transport rfl tracked.free (fun _ => id) rfl rfl
    · rename_i different
      have others := sound.tracked _ _ found
      refine others.transport rfl others.free (fun _ => id) rfl ?_
      rw [key_of_find? found]
      exact counted transferId different
  apart := by
    intro firstId secondId first second firstFound secondFound different
    rw [find?_keep] at firstFound secondFound
    split at firstFound <;> split at secondFound
    · omega
    · cases firstFound
      exact (apart _ _ ‹_› secondFound).symm
    · cases secondFound
      exact apart _ _ ‹_› firstFound
    · exact sound.apart _ _ _ _ firstFound secondFound different

/-- A write at the end of a transfer's file keeps what was accepted. -/
theorem write (found : exports.active.find? transferId = some active)
    (fits : active.written + bytes.length ≤ active.expectedSize) :
    Sound ledger (exports.write active.file active.written bytes) where
  bounded := sound.bounded
  tracked := by
    intro otherId other otherFound
    change exports.active.find? otherId = some other at otherFound
    have tracked := sound.tracked _ _ otherFound
    by_cases same : other.file = active.file
    · have sameTransfer : otherId = transferId := by
        by_contra different
        exact sound.file_ne otherFound found different same
      rw [sameTransfer, found] at otherFound
      cases otherFound
      refine { tracked with begun := ?_, within := ?_ }
      · rw [contents_write, take_overwrite tracked.reached]
        exact tracked.begun
      · rw [contents_write]
        exact length_overwrite_le tracked.reached tracked.within fits
    · exact tracked.transport rfl tracked.free (fun _ => id) (if_neg same) rfl
  apart := sound.apart

theorem retire (transferId : Nat) :
    Sound ledger (exports.retire transferId) where
  bounded := sound.bounded
  tracked := by
    intro otherId other found
    rw [find?_retire] at found
    split at found
    · cases found
    · have tracked := sound.tracked _ _ found
      exact tracked.transport rfl tracked.free (fun _ => id) rfl rfl
  apart := by
    intro firstId secondId first second firstFound secondFound different
    rw [find?_retire] at firstFound secondFound
    split at firstFound <;> split at secondFound
    · cases firstFound
    · cases firstFound
    · cases secondFound
    · exact sound.apart _ _ _ _ firstFound secondFound different

/-- The names and the file of a retired transfer are used by no other. -/
theorem retired (found : exports.active.find? transferId = some active) :
    ∀ otherId other, (exports.retire transferId).active.find? otherId = some other →
        other.temporary ≠ active.temporary ∧ other.temporary ≠ active.finalName ∧
            other.finalName ≠ active.finalName ∧ other.file ≠ active.file := by
  intro otherId other otherFound
  rw [find?_retire] at otherFound
  split at otherFound
  · cases otherFound
  · rename_i different
    refine ⟨sound.temporary_ne otherFound found different, ?_,
      sound.apart _ _ _ _ otherFound found different, sound.file_ne otherFound found different⟩
    intro same
    have opened := (sound.tracked _ _ otherFound).opened
    rw [same, (sound.tracked _ _ found).free] at opened
    cases opened

/-- A name that no transfer writes to can be removed. -/
theorem remove
    (unused : ∀ transferId other,
      exports.active.find? transferId = some other → other.temporary ≠ name) :
    Sound ledger (exports.remove name) where
  bounded := by
    intro other inode leads
    rw [node?_remove] at leads
    split at leads
    · cases leads
    · exact sound.bounded _ _ leads
  tracked := by
    intro transferId other found
    have tracked := sound.tracked _ _ found
    apply tracked.transport
    · rw [node?_remove, if_neg (unused _ _ found)]
    · rw [node?_remove]
      split
      · rfl
      · exact tracked.free
    · intro otherName leads
      rw [node?_remove] at leads
      split at leads
      · cases leads
      · exact leads
    · rfl
    · rfl
  apart := sound.apart

/-- A file no transfer writes to gets a name no transfer uses. -/
theorem move (leads : exports.node? source = some (.file inode))
    (unused : ∀ transferId other, exports.active.find? transferId = some other →
        other.temporary ≠ source ∧ other.temporary ≠ target ∧
          other.finalName ≠ target ∧ other.file ≠ inode) :
    Sound ledger (exports.move (.file inode) source target) where
  bounded := by
    intro name other found
    rw [node?_move] at found
    split at found
    · cases found
      exact sound.bounded _ _ leads
    · split at found
      · cases found
      · exact sound.bounded _ _ found
  tracked := by
    intro transferId other found
    have tracked := sound.tracked _ _ found
    obtain ⟨offSource, offTarget, finalOff, otherFile⟩ := unused _ _ found
    apply tracked.transport
    · rw [node?_move, if_neg offTarget, if_neg offSource]
    · rw [node?_move, if_neg finalOff]
      split
      · rfl
      · exact tracked.free
    · intro name leads
      rw [node?_move] at leads
      split at leads
      · cases leads
        exact absurd rfl otherFile
      · split at leads
        · cases leads
        · exact leads
    · rfl
    · rfl
  apart := sound.apart

end Sound

theorem createNew_ok (completes : (createNew name).complete exports = (.ok file, reached)) :
    exports.node? name = none ∧ file = exports.nextInode ∧
      reached = exports.create name := by
  simp only [createNew] at completes
  split at completes
  · cases completes
  · rename_i absent
    cases completes
    exact ⟨by simpa using absent, rfl, rfl⟩

theorem createNew_error
    (completes : (createNew name).complete exports = (.error failure, reached)) :
    reached = exports := by
  simp only [createNew] at completes
  split at completes
  · cases completes
    rfl
  · cases completes

theorem rename_ok
    (completes : (rename source target).complete exports = (.ok value, reached)) :
    ∃ node, exports.node? source = some node ∧ reached = exports.move node source target := by
  simp only [rename, Directory.renameNode] at completes
  split at completes
  · cases completes
  · split at completes <;> cases completes
    exact ⟨_, ‹_›, rfl⟩

theorem rename_error
    (completes : (rename source target).complete exports = (.error failure, reached)) :
    reached = exports := by
  simp only [rename, Directory.renameNode] at completes
  split at completes
  · cases completes
    rfl
  · split at completes <;> cases completes
    rfl

theorem removeFile_ok
    (completes : (removeFile name).complete exports = (.ok value, reached)) :
    reached = exports.remove name := by
  simp only [removeFile] at completes
  split at completes <;> cases completes
  rfl

theorem removeFile_error
    (completes : (removeFile name).complete exports = (.error failure, reached)) :
    reached = exports := by
  simp only [removeFile] at completes
  split at completes <;> cases completes
  rfl

/-! ## What the calls do -/

section

/--
However the script ends, the invariant holds; a success meets a condition of
its own.
-/
abbrev Keeps {Value : Type} (ledger : Ledger)
    (script : Script Exports Failure Value)
    (exports : Exports) (done : Value → Exports → Prop) : Prop :=
  Outcomes (fun _ => True) script exports done
    (fun _ reached => Sound ledger reached) (Sound ledger)

/-- A call answers with what its script returns. -/
theorem Keeps.answering {Value : Type} {script} {middle}
    (keeps : Keeps ledger script exports middle) {answer : Value → Answer}
    (implies : ∀ value reached, middle value reached →
      done (answer value) reached) :
    Keeps ledger (script >>= fun value => pure (answer value)) exports done :=
  Steady.bind keeps (fun _ => id) fun value reached holds => .pure (implies value reached holds)

variable (sound : Sound ledger exports)
include sound

variable {done : Unit → Exports → Prop}

/-- Whether or not the removal works, the script goes on. -/
theorem removeExportFile_keeps
    (unused : ∀ transferId other,
      exports.active.find? transferId = some other →
        other.temporary ≠ name)
    (kept : done () exports)
    (removed : done () (exports.remove name)) :
    Keeps ledger (removeExportFile name) exports done := by
  refine .bind (Outcomes.attempt ?_)
  apply Outcomes.perform
  case works =>
    intro value reached completes
    rw [removeFile_ok completes]
    exact .pure removed
  case refuses =>
    intro failure reached completes
    rw [removeFile_error completes]
    exact .pure kept
  case fails => exact fun _ _ => .pure kept
  case dies =>
    intro extent _
    cases extent with
    | zero =>
      rcases completes : (removeFile name).complete exports with ⟨_ | _, reached⟩
      · rwa [deathIn, completes, removeFile_error completes]
      · rw [deathIn, completes, removeFile_ok completes]
        exact sound.remove unused
    | succ extent => exact sound

theorem settle_keeps (works : done () exports) :
    Keeps ledger (perform (settle failure)) exports done := by
  apply Steady.whole (fun _ => rfl) sound sound
  rintro _ _ ⟨⟩
  exact works

/-- The name a started transfer will publish its file under. -/
def FileExportStart.finalName (request : FileExportStart)
    (exports : Exports) : FileName :=
  uniqueExportName exports.root (sanitizeExportFileName request.fileName)

/--
The temporary name of the new transfer is not the final name a transfer under
way has chosen.
-/
def FileExportStart.Clear (request : FileExportStart)
    (exports : Exports) : Prop :=
  ∀ active ∈ exports.active.rows, active.finalName ≠ temporaryName (request.finalName exports)

instance (request : FileExportStart)
    (exports : Exports) : Decidable (request.Clear exports) :=
  inferInstanceAs (Decidable (∀ active ∈ exports.active.rows,
    active.finalName ≠ temporaryName (request.finalName exports)))

theorem startInRoot_keeps (clear : request.Clear exports) :
    Keeps ledger (startInRoot request now) exports fun _ reached =>
      Sound (Function.update ledger request.transferId (some ⟨request.size, []⟩)) reached := by
  obtain ⟨named, free⟩ := uniqueExportName_free
  have unclaimed : ∀ transferId other, exports.active.find? transferId = some other →
        other.finalName ≠ temporaryName (request.finalName exports) :=
    fun transferId other found => clear other (mem_of_find? found)
  apply Outcomes.glance
  refine .ensure (fun fresh => ?_) fun _ => sound
  refine .bind (settle_keeps sound ?_)
  apply Outcomes.glance
  apply Outcomes.bind
  apply Steady.perform
  case parts => exact fun _ => sound
  case refuses =>
    intro failure reached completes
    rwa [createNew_error completes]
  case works =>
    intro file reached completes
    obtain ⟨absent, rfl, rfl⟩ := createNew_ok completes
    have created := sound.create absent unclaimed
    refine ⟨created, fun fates _ => ?_⟩
    refine created.keep ?_ ?_ ?_
    · constructor
      · exact named
      · rfl
      · exact node?_create.trans (if_pos rfl)
      · rw [node?_create, if_neg (temporaryName_ne named).symm]
        exact node?_eq_none.mpr free
      · intro name leads
        rw [node?_create] at leads
        split at leads
        · assumption
        · exact absurd (sound.bounded _ _ leads) (Nat.lt_irrefl _)
      · exact Function.update_self _ _ _
      · rfl
      · rfl
      · exact (congrArg length (if_pos rfl)).trans_le (Nat.zero_le _)
    · intro transferId other _ found same
      have tracked := sound.tracked _ _ found
      have opened := tracked.opened
      rw [tracked.temporary, same, absent] at opened
      cases opened
    · intro transferId different
      exact Function.update_of_ne (Ne.symm different) _ _

theorem chunk_keeps :
    Keeps ledger (chunk piece now) exports fun _ reached =>
      Sound (Function.update ledger piece.transferId
          ((ledger piece.transferId).map (Transfer.accept piece.bytes))) reached := by
  apply Outcomes.glance
  cases found : exports.active.find? piece.transferId with
  | none => exact .fail sound
  | some active =>
    have tracked := sound.tracked _ _ found
    have identified : active.transferId = piece.transferId := key_of_find? found
    refine .ensure (fun sequential => ?_) fun _ => sound
    refine .ensure (fun _ => ?_) fun _ => sound
    refine .ensure (fun _ => ?_) fun _ => sound
    refine .ensure (fun fits => ?_) fun _ => sound
    refine .bind (settle_keeps sound ?_)
    have partWritten : ∀ extent,
        Sound ledger (exports.write active.file active.written (piece.bytes.take extent)) := by
      intro extent
      apply sound.write found
      rw [length_take]
      omega
    apply Outcomes.bind
    apply Steady.perform
    -- A part of the chunk may be in the file, beyond what is accepted.
    case parts => exact partWritten
    case refuses => rintro _ _ ⟨⟩
    case works =>
      rintro _ _ ⟨⟩
      have accepted := tracked.accept now fits
      have apart : ∀ transferId other, active.transferId ≠ transferId →
          exports.active.find? transferId = some other → other.finalName ≠ active.finalName := by
        intro transferId other different otherFound
        rw [identified] at different
        exact sound.apart _ _ _ _ otherFound found different.symm
      refine ⟨sound.write found fits, ?_⟩
      rw [← identified]
      intro fates _
      refine (sound.write found fits).keep accepted apart ?_
      intro transferId different
      exact Function.update_of_ne (Ne.symm different) _ _

theorem abort_keeps :
    Keeps ledger (abort transferId) exports fun _ reached => Sound ledger reached := by
  apply Outcomes.glance
  cases found : exports.active.find? transferId with
  | none => exact .pure sound
  | some active =>
    apply Outcomes.adjust
    have retired := sound.retire transferId
    have unused : ∀ otherId other, (exports.retire transferId).active.find? otherId = some other →
          other.temporary ≠ active.temporary :=
      fun otherId other otherFound => (sound.retired found otherId other otherFound).1
    exact removeExportFile_keeps retired unused retired (retired.remove unused)

theorem abortAll_keeps :
    Keeps ledger (abortAll transferIds) exports fun _ reached => Sound ledger reached := by
  induction transferIds generalizing exports with
  | nil => exact .pure sound
  | cons transferId rest ih =>
    exact Steady.bind (abort_keeps sound) (fun _ => id) fun _ _ => ih

theorem abortIdleOlderThan_keeps :
    Keeps ledger (abortIdleOlderThan maxIdle now) exports fun _ reached =>
      Sound ledger reached := by
  apply Outcomes.glance
  exact Steady.bind (abortAll_keeps sound) (fun _ => id) fun _ _ still => .pure still

variable {Digest : Type} [DecidableEq Digest] (sha256 : List UInt8 → Digest)
    {request : FileExportEnd Digest}

/--
What a transfer that ended without an error leaves: the file under the final
name it chose holds the accepted bytes, of the declared size and digest, and
apart from the temporary name of the transfer itself every name that was there
leads to the same content as before, as do the temporary files of the other
transfers.
-/
structure Publishes (ledger : Ledger) (before after : Exports)
    (request : FileExportEnd Digest)
    (completed : CompletedHostFileExport) : Prop where
  published : ∃ active transfer inode, before.active.find? request.transferId = some active ∧
      completed.finalName = active.finalName ∧ ledger request.transferId = some transfer ∧
      after.node? active.finalName = some (.file inode) ∧ after.contents inode = transfer.bytes ∧
      transfer.bytes.length = transfer.size ∧ sha256 transfer.bytes = request.sha256
  unchanged : ∀ name node, before.node? name = some node →
    (∀ active, before.active.find? request.transferId = some active → name ≠ active.temporary) →
      after.node? name = some node ∧
        ∀ inode, node = .file inode → after.contents inode = before.contents inode
  undisturbed : ∀ transferId other, transferId ≠ request.transferId →
    before.active.find? transferId = some other →
      after.node? other.temporary = some (.file other.file) ∧
        before.node? other.temporary = some (.file other.file) ∧
          after.contents other.file = before.contents other.file

omit [DecidableEq Digest] in
/-- Renaming the complete file publishes it. -/
theorem Sound.publishes (found : exports.active.find? request.transferId = some active)
    (complete : active.written = active.expectedSize)
    (agrees : sha256 active.hasher = request.sha256) :
    Publishes sha256 ledger exports ((exports.retire request.transferId).move (.file active.file)
        active.temporary active.finalName)
      request
      { finalName := active.finalName, bytes := active.written
        revealAfterExport := active.revealAfterExport
        openAfterExport := active.openAfterExport } := by
  have tracked := sound.tracked _ _ found
  have content : exports.contents active.file = active.hasher := by
    rw [← tracked.begun, take_of_length_le]
    rw [complete]
    exact tracked.within
  have counted : ledger request.transferId =
      some ⟨active.expectedSize, active.hasher⟩ := by
    rw [← key_of_find? found]
    exact tracked.counted
  constructor
  · refine ⟨active, _, active.file, found, rfl, counted, ?_, content, ?_, agrees⟩
    · rw [node?_move, if_pos rfl]
    · rwa [← tracked.length]
  · intro name node leads elsewhere
    have offFinal : name ≠ active.finalName := by
      rintro rfl
      rw [tracked.free] at leads
      cases leads
    rw [node?_move, if_neg offFinal, if_neg (elsewhere _ found)]
    exact ⟨leads, fun _ _ => rfl⟩
  · intro transferId other different otherFound
    have opened := (sound.tracked _ _ otherFound).opened
    have stays :
        (exports.retire request.transferId).active.find? transferId = some other := by
      rwa [find?_retire, if_neg different]
    obtain ⟨offTemporary, offFinal, -, -⟩ := sound.retired found transferId other stays
    rw [node?_move, if_neg offFinal, if_neg offTemporary]
    exact ⟨opened, opened, rfl⟩

theorem endTransfer_keeps :
    Keeps ledger (endTransfer sha256 request) exports
      fun completed reached => Sound ledger reached ∧
        Publishes sha256 ledger exports reached request completed := by
  apply Outcomes.glance
  cases found : exports.active.find? request.transferId with
  | none => exact .fail sound
  | some active =>
    have tracked := sound.tracked _ _ found
    have retired := sound.retire request.transferId
    have unused := sound.retired found
    have unwritten : ∀ otherId other, (exports.retire request.transferId).active.find? otherId =
          some other → other.temporary ≠ active.temporary :=
      fun otherId other otherFound => (unused otherId other otherFound).1
    have removed := retired.remove unwritten
    apply Outcomes.adjust
    split
    · apply Outcomes.bind
      exact removeExportFile_keeps retired unwritten (.fail retired) (.fail removed)
    · rename_i complete
      refine .bind (settle_keeps retired ?_)
      refine .bind (settle_keeps retired ?_)
      split
      · apply Outcomes.bind
        exact removeExportFile_keeps retired unwritten (.fail retired) (.fail removed)
      · rename_i agrees
        apply Outcomes.bind
        apply Steady.perform
        case parts => exact fun _ => retired
        case refuses =>
          intro failure reached completes
          rwa [rename_error completes]
        case works =>
          intro value reached completes
          obtain ⟨node, leads, rfl⟩ := rename_ok completes
          cases tracked.opened.symm.trans leads
          have moved := retired.move tracked.opened unused
          exact ⟨moved, .pure ⟨moved, sound.publishes sha256 found
            (not_not.mp complete) (not_not.mp agrees)⟩⟩

end

/-! ## Runs -/

section

variable {Digest : Type} [DecidableEq Digest] (sha256 : List UInt8 → Digest)

/-- The state and the books after a run of calls. -/
def after (exports : Exports) : List (Event Digest) → Exports
  | [] => exports
  | event :: rest => after (event.after sha256 exports) rest

def booked (exports : Exports) (ledger : Ledger) : List (Event Digest) → Ledger
  | [] => ledger
  | event :: rest =>
    booked (event.after sha256 exports)
      (ledger.record event.call (event.answer sha256 exports)) rest

/-- A call starts no transfer whose temporary name another waits for. -/
def Event.Clear (event : Event Digest) (exports : Exports) : Prop :=
  match event.call with
  | .start request _ => request.Clear exports
  | _ => True

instance (event : Event Digest)
    (exports : Exports) : Decidable (event.Clear exports) :=
  match event with
  | ⟨.start request _, _⟩ => inferInstanceAs (Decidable (request.Clear exports))
  | ⟨.chunk _ _, _⟩ => isTrue trivial
  | ⟨.ending _, _⟩ => isTrue trivial
  | ⟨.abort _, _⟩ => isTrue trivial
  | ⟨.abortIdle _ _, _⟩ => isTrue trivial

def ClearRun (exports : Exports) : List (Event Digest) → Prop
  | [] => True
  | event :: rest => event.Clear exports ∧ ClearRun (event.after sha256 exports) rest

instance decidableClearRun (exports : Exports) :
    ∀ events : List (Event Digest), Decidable (ClearRun sha256 exports events)
  | [] => isTrue trivial
  | event :: rest =>
    have := decidableClearRun (event.after sha256 exports) rest
    inferInstanceAs (Decidable (event.Clear exports ∧
      ClearRun sha256 (event.after sha256 exports) rest))

/-- No transfer is under way, and new files get new inodes. -/
structure Exports.Opening (exports : Exports) : Prop where
  idle : exports.active.rows = []
  bounded : ∀ entry ∈ exports.root.rows, ∀ inode,
    entry.node = .file inode → inode < exports.nextInode

theorem Exports.Opening.sound (opening : exports.Opening) (ledger : Ledger) :
    Sound ledger exports := by
  have idle : ∀ transferId, exports.active.find? transferId = none := by
    intro transferId
    rw [find?_eq_none_iff, opening.idle]
    nofun
  constructor
  · intro name inode leads
    exact opening.bounded _ (mem_of_find? (Directory.find?_of_node? leads)) _ rfl
  · intro transferId active found
    rw [idle] at found
    cases found
  · intro firstId _ _ _ found
    rw [idle] at found
    cases found

/-- One call keeps the invariant and the books. -/
theorem Event.sound (sound : Sound ledger exports) (event : Event Digest)
    (clear : event.Clear exports) :
    Sound (ledger.record event.call (event.answer sha256 exports))
      (event.after sha256 exports) := by
  obtain ⟨call, fates⟩ := event
  have ends : Keeps ledger (call.script sha256) exports fun answer reached =>
      Sound (ledger.record call (.ok answer)) reached := by
    cases call with
    | start request now => exact (startInRoot_keeps sound clear).answering fun _ _ => id
    | chunk piece now => exact (chunk_keeps sound).answering fun _ _ => id
    | ending request => exact (endTransfer_keeps sound sha256).answering fun _ _ still => still.1
    | abort transferId => exact (abort_keeps sound).answering fun _ _ => id
    | abortIdle maxIdle now => exact (abortIdleOlderThan_keeps sound).answering fun _ _ => id
  have ended := ends fates fun _ _ => trivial
  unfold Event.answer Event.after
  unfold Meets at ended
  split at ended
  · rename_i answer answered
    rwa [answered]
  · rename_i failure answered
    rw [answered]
    cases call <;> exact ended
  · rename_i answered
    rw [answered]
    cases call <;> exact ended

/-- A run without a collision keeps the invariant and the books. -/
theorem after_sound (sound : Sound ledger exports)
    (clear : ClearRun sha256 exports events) :
    Sound (booked sha256 exports ledger events) (after sha256 exports events) := by
  induction events generalizing ledger exports with
  | nil => exact sound
  | cons event rest ih => exact ih (event.sound sha256 sound clear.1) clear.2

/--
In a run in which no transfer starts under the temporary name that a transfer
under way has chosen as its final name, every transfer that ends without an
error publishes exactly what was accepted for it and disturbs nothing else.
-/
theorem completed_transfers_publish {initial : Exports}
    (opening : initial.Opening) (events : List (Event Digest))
    (clear : ClearRun sha256 initial events) (request : FileExportEnd Digest)
    (fates : List Fate)
    (completed : CompletedHostFileExport)
    (ended : Event.answer sha256 ⟨.ending request, fates⟩
      (after sha256 initial events) = .ok (.completed completed)) :
    Publishes sha256 (booked sha256 initial (fun _ => none) events) (after sha256 initial events)
      (Event.after sha256 ⟨.ending request, fates⟩ (after sha256 initial events))
      request completed := by
  have sound := after_sound sha256 (opening.sound fun _ => none) clear
  generalize after sha256 initial events = exports at ended sound ⊢
  generalize booked sha256 initial (fun _ => none) events = ledger at sound ⊢
  have ends : Keeps ledger ((Call.ending request : Call Digest).script sha256) exports
      fun answer reached => ∀ completed, answer = .completed completed →
        Publishes sha256 ledger exports reached request completed := by
    apply (endTransfer_keeps sound sha256).answering
    rintro value reached holds _ ⟨⟩
    exact holds.2
  have answered := ends fates fun _ _ => trivial
  unfold Event.answer at ended
  rw [Meets, ended] at answered
  exact answered completed rfl

end

/-- A call all of whose operations work. -/
def calm {Digest : Type} (call : Call Digest) : Event Digest where
  call := call
  fates := []

def emptyExports : Exports where
  root := Table.empty
  contents := fun _ => []
  nextInode := 0
  active := Table.empty

/-- Two transfers with unrelated names, complete up to the ends. -/
def unrelatedRun : List (Event (List UInt8)) :=
  [calm (.start ⟨1, "notes.txt".toList, 2, false, false⟩ 0),
    calm (.start ⟨2, "x".toList, 1, false, false⟩ 0),
    calm (.chunk ⟨1, 0, [1]⟩ 0),
    calm (.chunk ⟨2, 0, [7]⟩ 0),
    calm (.chunk ⟨1, 1, [2]⟩ 0)]

/-- The bytes themselves serve as a digest without collisions. -/
theorem unrelatedRun_publishes :
    Publishes id (booked id emptyExports (fun _ => none) unrelatedRun)
      (after id emptyExports unrelatedRun)
      (Event.after id (calm (.ending ⟨1, [1, 2]⟩)) (after id emptyExports unrelatedRun))
      ⟨1, [1, 2]⟩ ⟨"notes.txt".toList, 2, false, false⟩ := by
  refine completed_transfers_publish id ?_ unrelatedRun ?_ ⟨1, [1, 2]⟩ []
    ⟨"notes.txt".toList, 2, false, false⟩ ?_
  · exact ⟨rfl, nofun⟩
  · decide +kernel
  · decide +kernel

/-- The second transfer writes where the first will publish. -/
def collidingRun : List (Event (List UInt8)) :=
  [calm (.start ⟨1, "x.part".toList, 1, false, false⟩ 0),
    calm (.start ⟨2, "x".toList, 1, false, false⟩ 0),
    calm (.chunk ⟨1, 0, [11]⟩ 0),
    calm (.chunk ⟨2, 0, [22]⟩ 0),
    calm (.ending ⟨1, [11]⟩)]

theorem collidingRun_publishes_foreign_bytes :
    Event.answer id (calm (.ending ⟨2, [22]⟩)) (after id emptyExports collidingRun) =
      .ok (.completed ⟨"x".toList, 1, false, false⟩) ∧
    ¬ Publishes id (booked id emptyExports (fun _ => none) collidingRun)
        (after id emptyExports collidingRun)
        (Event.after id (calm (.ending ⟨2, [22]⟩)) (after id emptyExports collidingRun))
        ⟨2, [22]⟩ ⟨"x".toList, 1, false, false⟩ := by
  constructor
  · decide +kernel
  · intro publishes
    obtain ⟨_, _, _, -, named, counted, leads, content, -⟩ := publishes.published
    rw [← named] at leads
    cases leads
    cases counted
    cases content

end Jackin.HostExport
