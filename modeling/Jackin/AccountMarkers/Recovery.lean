import Jackin.AccountMarkers.Rollback

/-!
# Recovering a transaction

A prepared transaction is pending as long as its record is in the root, both
markers are in known phases, and the committed record is beside it unless
both old values are complete.  Recovery keeps it pending until it removes the
prepared record, and then both old values are back.  A committed transaction
is decided, and recovery only removes its record.
-/

namespace Jackin.AccountMarkers

open Foundation Script Function

variable {role : Role} {name : EntryName}

section

variable (coding : Coding) (lease : MarkerPairLease) (record : PreparedRecord)

def PreparedRecord.marker : Role → PreparedMarker
  | .selected => record.selected
  | .admission => record.admission

/-- The bytes of the committed record that goes with a prepared one. -/
def PreparedRecord.candidateBytes : Bytes :=
  coding.encode (.committed (expectedCommitted record.transactionId
    lease.identity record.selected record.admission))

/-- What a prepared record says about its transaction is right. -/
structure Transaction : Prop where
  rooted : lease.Rooted
  schema : record.schemaVersion = transactionSchema
  idLength : record.transactionId.toList.length = transactionIdLength
  idDigits : record.transactionId.toList.all (fun character => lowerHexDigit character.toNat)
  root : record.root = lease.identity
  markers : ∀ role, (record.marker role).Valid lease record.transactionId role
  candidateName : record.candidate.name = .next
  candidate : lease.Records record.candidate.file (record.candidateBytes coding lease) stageMode
  digest : record.candidate.sha256 = digestHex coding (record.candidateBytes coding lease)
  candidateFits : (record.candidateBytes coding lease).length ≤ maxRecordBytes
  recordFits : (coding.encode (.prepared record)).length ≤ maxRecordBytes

/-- The entries of a prepared transaction. -/
structure Stands (primary : File) (next : Bool) (phases : Role → Phase)
    (disk : Disk) : Prop where
  linked : disk.Linked
  journal : disk.leads .transaction =
    some (primary, lease.own (coding.encode (.prepared record)) stageMode)
  candidate : disk.leads .next =
    if next then
      some (record.candidate.file.inode, lease.own (record.candidateBytes coding lease) stageMode)
    else none
  markers : ∀ role, Holds lease (record.marker role) disk (phases role)
  uncommitted : .renamed .next .transaction ∉ disk.log

/-- Either everything for a rollback is there, or it is complete. -/
def Unfinished (next : Bool) (phases : Role → Phase) : Prop :=
  (next ∧ ∀ role, Rolling (record.marker role) (phases role)) ∨
    ∀ role, Complete (record.marker role) (phases role)

def Pending (primary : File) (disk : Disk) : Prop :=
  ∃ next phases, Stands coding lease record primary next phases disk ∧ Unfinished record next phases

/-- Nothing of the transaction is left, and the markers are the old ones. -/
structure RolledBack (disk : Disk) : Prop where
  journal : disk.leads .transaction = none
  candidate : disk.leads .next = none
  markers : ∀ role, ∃ phase, Complete (record.marker role) phase ∧
    Holds lease (record.marker role) disk phase
  uncommitted : .renamed .next .transaction ∉ disk.log

end

section

variable {coding : Coding} {lease : MarkerPairLease} {record : PreparedRecord}
    {next : Bool}
    {disk : Disk} {died : Disk → Prop}

/-! ## Checks of the record -/

theorem recorded_device (rooted : lease.Rooted)
    (records : lease.Records recorded bytes mode) :
    recorded.device = lease.identity.device := by
  rw [records, ← rooted.same.1]
  rfl

theorem validateRecordedFile_yields
    (records : lease.Records recorded bytes mode) (bits : mode ≤ 0o777) :
    Yields died (validateRecordedFile lease recorded mode) disk () disk := by
  rw [records]
  apply Mortal.passed rfl
  apply Mortal.passed rfl
  exact Mortal.passed rfl (Yields.ensure bits)

theorem validateNewValue_yields (length : bytes.length = 64)
    (digits : bytes.all (fun byte => lowerHexDigit byte.toNat)) :
    Yields died (validateNewValue bytes) disk () disk :=
  (Yields.ensure length).then (Yields.ensure digits)

theorem validateOldValue_yields (rooted : lease.Rooted)
    (right : ∀ bytes original, old = .present bytes original →
      lease.Records original bytes original.mode ∧
      bytes.length ≤ maxOldValue ∧ original.mode ≤ 0o777) :
    Yields died (validateOldValue lease old) disk () disk := by
  cases old with
  | absent => exact .pure
  | present bytes original =>
    obtain ⟨records, short, bits⟩ := right bytes original rfl
    apply Mortal.passed short
    apply Mortal.passed (by rw [records]; rfl)
    apply (validateRecordedFile_yields records bits).then
    apply Mortal.passed (by rw [records]; rfl)
    apply Mortal.passed (by rw [records]; rfl)
    exact Yields.ensure (recorded_device rooted records)

theorem validatePreparedMarker_yields (rooted : lease.Rooted)
    (valid : marker.Valid lease transactionId role) :
    Yields died (validatePreparedMarker lease marker (.marker role)
      transactionId) disk () disk := by
  have old : Yields died (validateOldValue lease marker.old) disk () disk :=
    validateOldValue_yields rooted fun bytes original present =>
      have right := valid.old bytes original present
      ⟨right.1, right.2.1, right.2.2.1⟩
  apply Mortal.passed valid.name
  apply (validateNewValue_yields valid.length valid.digits).then
  apply Mortal.passed valid.stageName
  apply (validateRecordedFile_yields valid.stage (by decide)).then
  apply Mortal.passed (by rw [valid.stage]; rfl)
  apply old.then
  apply Mortal.passed (by rw [valid.stage]; rfl)
  apply Mortal.passed (by rw [valid.stage]; rfl)
  exact Yields.ensure (recorded_device rooted valid.stage)

/-- A digest is written in lowercase hexadecimal digits. -/
theorem lowerHex_digit (small : digit < 16) :
    lowerHexDigit (lowerHex digit).toNat := by
  have every : ∀ digit : Fin 16, lowerHexDigit (lowerHex digit.val).toNat := by decide
  exact every ⟨digit, small⟩

theorem digestHex_lowerHexText : lowerHexText (digestHex coding bytes) 64 := by
  have digits : ∀ byte : UInt8, byte.toNat / 16 < 16 ∧ byte.toNat % 16 < 16 :=
    fun byte => by
      have bounded := UInt8.toNat_lt byte
      omega
  simp only [lowerHexText, digestHex, String.toList_ofList, Bool.and_eq_true, List.all_flatMap]
  constructor
  · simp [List.length_flatMap]
  · simp only [List.all_eq_true]
    intro byte _
    simp [lowerHex_digit (digits byte).1, lowerHex_digit (digits byte).2]

theorem parseRecord_yields (fits : (coding.encode transactionRecord).length ≤ maxRecordBytes) :
    Yields died (parseRecord coding (coding.encode transactionRecord)) disk
      transactionRecord disk := by
  apply Mortal.passed fits
  rw [coding.decode_encode]
  exact Yields.pure

section

variable (rooted : lease.Rooted)
include rooted

/-- An entry as recorded is removed. -/
theorem unlinkExpected_yields (records : lease.Records recorded bytes stageMode)
    (present : disk.leads name =
      some (recorded.inode, lease.own bytes stageMode)) (here : died disk)
    (after : died (disk.unlink name recorded.inode)) :
    Yields died (unlinkExpected lease name recorded) disk () (disk.unlink name recorded.inode) := by
  apply (openVerified_yields rooted records present (permits_stage _) here).then
  apply (ensureFileNameMatches_yields rooted here present).then
  exact unlinkEntry_yields rooted here present (by exact EntryKind.noConfusion) after

/-- The journal is removed as the file it was opened as. -/
theorem unlinkVerifiedPrimary_yields
    (present : disk.leads .transaction = some (primary, lease.own bytes stageMode))
    (here : died disk)
    (after : died (disk.unlink .transaction primary)) :
    Yields died (unlinkVerifiedPrimary lease primary) disk ()
      (disk.unlink .transaction primary) := by
  apply (ensureFileNameMatches_yields rooted here present).then
  apply (fstat_yields present here).then
  apply Mortal.passed ⟨rfl, rfl⟩
  apply Mortal.passed ⟨rfl, rfl⟩
  exact unlinkEntry_yields rooted here present (by exact EntryKind.noConfusion) after

theorem readRecord_yields
    (present : disk.leads name =
      some (file, lease.own (coding.encode transactionRecord) stageMode))
    (fits : (coding.encode transactionRecord).length ≤ maxRecordBytes)
    (here : died disk) :
    Yields died (readRecord coding lease name) disk (some ⟨file, transactionRecord⟩) disk := by
  apply (observeOptional_present rooted here present fits (permits_stage _)).then
  apply Mortal.passed rfl
  apply (openEntry_yields rooted here present (permits_stage _)).then
  apply (fstat_yields present here).then
  apply Mortal.passed rfl
  apply (ensureFileNameMatches_yields rooted here present).then
  exact (parseRecord_yields fits).then Yields.pure

/-- Without a transaction there is nothing to recover. -/
theorem recoverLocked_idle (journal : disk.leads .transaction = none)
    (candidate : disk.leads .next = none) (here : died disk) :
    Yields died (recoverLocked coding lease) disk () disk := by
  simp only [recoverLocked, rooted.ensures]
  have reads : Yields died (readRecord coding lease .transaction) disk none
      disk :=
    (observeOptional_absent rooted here journal).then Yields.pure
  apply reads.then
  apply (entryStat_yields rooted here).then
  rw [candidate]
  exact Yields.ensure rfl

end

/-- A property of all phases, after a step of one role. -/
theorem update_phases {property : Role → Phase → Prop}
    (all : ∀ role, property role (phases role)) (new : property role phase) :
    ∀ other, property other (update phases role phase other) :=
  (forall_update_iff phases property).2 ⟨new, fun other _ => all other⟩

theorem Unfinished.known (unfinished : Unfinished record next phases)
    (role : Role) : Rolling (record.marker role) (phases role) ∨
      Complete (record.marker role) (phases role) := by
  rcases unfinished with ⟨_, rolling⟩ | complete
  · exact .inl (rolling role)
  · exact .inr (complete role)

variable (transaction : Transaction coding lease record)
include transaction

theorem validateTransactionId_yields :
    Yields died (validateTransactionId record.transactionId) disk () disk :=
  (Yields.ensure transaction.idLength).then (Yields.ensure transaction.idDigits)

theorem validatePrepared_yields :
    Yields died (validatePrepared lease record) disk () disk := by
  have rooted := transaction.rooted
  have selected := transaction.markers .selected
  have admission := transaction.markers .admission
  apply Mortal.passed transaction.schema
  apply (validateTransactionId_yields transaction).then
  apply Mortal.passed transaction.root
  apply (validatePreparedMarker_yields rooted selected).then
  apply (validatePreparedMarker_yields rooted admission).then
  have distinct : record.selected.stageName ≠ record.admission.stageName := by
    intro same
    rw [show record.selected.stageName = _ from selected.stageName,
      show record.admission.stageName = _ from admission.stageName] at same
    cases same
  apply Mortal.passed distinct
  apply Mortal.passed transaction.candidateName
  apply (validateRecordedFile_yields transaction.candidate (by decide)).then
  apply Mortal.passed (recorded_device rooted transaction.candidate)
  apply Mortal.passed (by rw [transaction.candidate]; exact transaction.candidateFits)
  apply Yields.ensure
  rw [transaction.digest]
  exact digestHex_lowerHexText

/-- The names of one role are not those of anything else. -/
theorem marker_names (reserved : name = .transaction ∨ name = .next) :
    name ∉ [(record.marker role).name, (record.marker role).stageName] := by
  rw [(transaction.markers role).name, (transaction.markers role).stageName]
  rcases reserved with rfl | rfl <;> simp

theorem other_names (differs : other ≠ role)
    (reserved : name = (record.marker other).name ∨ name = (record.marker other).stageName) :
    name ∉ [(record.marker role).name, (record.marker role).stageName] := by
  rw [(transaction.markers role).name, (transaction.markers role).stageName]
  rcases reserved with rfl | rfl
  · rw [(transaction.markers other).name]
    simp [differs]
  · rw [(transaction.markers other).stageName]
    simp [differs]

/-- A step that only concerns the names of one role. -/
theorem Stands.step (stands : Stands coding lease record primary next phases disk)
    (keeps : Disk.Keeps [(record.marker role).name, (record.marker role).stageName] disk
      reached) (holds : Holds lease (record.marker role) reached phase) :
    Stands coding lease record primary next (update phases role phase) reached where
  linked := keeps.linked
  journal := by rw [keeps.entries _ (marker_names transaction (.inl rfl)), stands.journal]
  candidate := by rw [keeps.entries _ (marker_names transaction (.inr rfl)), stands.candidate]
  markers := by
    intro other
    by_cases same : other = role
    · subst same
      rwa [update_self]
    · rw [update_of_ne same]
      exact (stands.markers other).congr (keeps.entries _ (other_names transaction same (.inl rfl)))
        (keeps.entries _ (other_names transaction same (.inr rfl)))
  uncommitted := fun committed => stands.uncommitted (keeps.uncommitted committed)

/-- Removing a record leaves the markers as they are. -/
theorem Holds.kept (holds : Holds lease (record.marker role) disk phase)
    (reserved : name = .transaction ∨ name = .next)
    (keeps : Disk.Keeps [name] disk reached) :
    Holds lease (record.marker role) reached phase := by
  have names := @marker_names role _ _ _ _ transaction reserved
  rw [List.mem_cons, List.mem_singleton, not_or] at names
  exact holds.congr (keeps.entries _ (by simpa using Ne.symm names.1))
    (keeps.entries _ (by simpa using Ne.symm names.2))

/-- The candidate as it is observed. -/
def candidateSeen (coding : Coding) (lease : MarkerPairLease)
    (record : PreparedRecord) : ObservedFile :=
  ⟨lease.stat record.candidate.file.inode
    (lease.own (record.candidateBytes coding lease) stageMode),
    record.candidateBytes coding lease⟩

theorem validateCandidate_yields :
    Yields died (validateCandidate coding lease record
        (if next then some (candidateSeen coding lease record) else none)) disk () disk := by
  cases next
  · exact .pure
  apply Mortal.passed ((matches_own transaction.candidate).2 ⟨rfl, rfl, rfl⟩)
  apply Mortal.passed transaction.digest
  apply Mortal.passed (by rw [transaction.candidate]; rfl)
  exact (parseRecord_yields transaction.candidateFits).then (Yields.ensure rfl)

section

variable (stands : Stands coding lease record primary next phases disk)
include stands

/-- What is left of a stage agrees with the phase of its marker. -/
theorem validateStageResidue_yields (role : Role)
    (unfinished : Unfinished record next phases)
    (both : (∀ role, Complete (record.marker role) (phases role)) →
      bothOldComplete = true) (here : died disk) :
    Yields died (validateStageResidue lease (record.marker role)
        ((phases role).state (record.marker role)) bothOldComplete) disk () disk := by
  have valid := transaction.markers role
  have rooted := transaction.rooted
  have holds := stands.markers role
  cases phase : phases role with
  | staged =>
    rw [phase] at holds
    apply (observeOptional_present rooted here holds.2 (short_new valid) (permits_stage _)).then
    apply Mortal.passed ((matches_own valid.stage).2 ⟨rfl, rfl, rfl⟩)
    apply Mortal.passed rfl
    apply Yields.ensure
    cases old : (record.marker role).old <;> simp [Phase.state, old]
  | cleared =>
    rw [phase] at holds
    apply (observeOptional_absent rooted here holds.2).then
    apply Yields.ensure
    rcases unfinished with ⟨_, rolling⟩ | complete
    · have rolls := rolling role
      rw [phase] at rolls
      right
      simp only [Phase.state, show (record.marker role).old = _ from rolls]
      rfl
    · exact .inl (both complete)
  | installed bytes mode =>
    rw [phase] at holds
    apply (observeOptional_absent rooted here holds.2).then
    apply Yields.ensure
    right
    cases old : (record.marker role).old with
    | absent => simp [Phase.state, old, withoutStage]
    | present before original =>
      simp only [Phase.state, old]
      split <;> split <;> rfl

theorem observeCandidate_yields (here : died disk) :
    Yields died (observeOptional lease .next maxRecordBytes) disk
      (if next then some (candidateSeen coding lease record) else none) disk := by
  have candidate := stands.candidate
  cases next with
  | false => exact observeOptional_absent transaction.rooted here candidate
  | true =>
    exact observeOptional_present transaction.rooted here
      candidate transaction.candidateFits (permits_stage _)

variable (dies : ∀ left, Pending coding lease record primary left → died left)
include dies

/-- Restoring one marker, while the transaction stays pending. -/
theorem restore_role (role : Role)
    (unfinished : Unfinished record next phases) :
    ∃ reached later, Yields died (restorePreparedMarker lease (record.marker role)
          ((phases role).state (record.marker role))) disk () reached ∧
      Stands coding lease record primary next later reached ∧
      Unfinished record next later ∧
      Complete (record.marker role) (later role) ∧
      ∀ other, other ≠ role → later other = phases other := by
  have valid := transaction.markers role
  have here : died disk := dies disk ⟨next, phases, stands, unfinished⟩
  rcases unfinished with ⟨present, rolling⟩ | complete
  · obtain ⟨reached, restores, keeps, phase, rolls, finished, holds⟩ :=
      restore_rolling transaction.rooted valid here stands.linked (by
        rintro left ⟨keeps, phase, rolls, holds⟩
        exact dies left ⟨next, _, stands.step transaction (keeps.mono (by simp)) holds,
          .inl ⟨present, update_phases rolling rolls⟩⟩) (stands.markers role) (rolling role)
    refine ⟨reached, _, restores, stands.step transaction (keeps.mono (by simp)) holds,
      .inl ⟨present, update_phases rolling rolls⟩, ?_, ?_⟩
    · rwa [update_self]
    · exact fun other differs => update_of_ne differs _ _
  · exact ⟨disk, phases, restore_complete transaction.rooted valid here (stands.markers role)
      (complete role), stands, .inr complete, complete role, fun _ _ => rfl⟩

theorem cleanupStage_role (role : Role)
    (complete : ∀ role, Complete (record.marker role) (phases role)) :
    ∃ reached later, Yields died (cleanupStage lease (record.marker role)) disk () reached ∧
      Stands coding lease record primary next later reached ∧
      ∀ role, Complete (record.marker role) (later role) := by
  have valid := transaction.markers role
  have rooted := transaction.rooted
  have holds := stands.markers role
  have here : died disk := dies disk ⟨next, phases, stands, .inr complete⟩
  have gone (absent : disk.leads (record.marker role).stageName = none) :
      Yields died (cleanupStage lease (record.marker role)) disk () disk :=
    (observeOptional_absent rooted here absent).then Yields.pure
  cases phase : phases role with
  | staged =>
    rw [phase] at holds
    let removed := disk.unlink (record.marker role).stageName (record.marker role).stage.inode
    have entries := Disk.leads_unlink stands.linked holds.2 rfl
    have keeps := Disk.Keeps.unlink stands.linked holds.2 rfl
    have cleared : Holds lease (record.marker role) removed .cleared := by
      constructor
      · rw [entries, if_neg (names_differ valid).symm, holds.1]
      · rw [entries, if_pos rfl]
    have after : Stands coding lease record primary next
        (update phases role .cleared) removed :=
      stands.step transaction (keeps.mono (by simp)) cleared
    have completes : ∀ other, Complete (record.marker other)
        (update phases role .cleared other) :=
      update_phases complete trivial
    refine ⟨removed, _, ?_, after, completes⟩
    apply (observeOptional_present rooted here holds.2 (short_new valid) (permits_stage _)).then
    apply Mortal.passed ((matches_own valid.stage).2 ⟨rfl, rfl, rfl⟩)
    apply Mortal.passed rfl
    exact unlinkExpected_yields rooted valid.stage holds.2 here
      (dies _ ⟨next, _, after, .inr completes⟩)
  | cleared | installed =>
    rw [phase] at holds
    exact ⟨disk, phases, gone holds.2, stands, complete⟩

theorem cleanupCandidate_yields (complete : ∀ role, Complete (record.marker role) (phases role)) :
    ∃ reached, Yields died (cleanupCandidate coding lease record.candidate) disk () reached ∧
      Stands coding lease record primary false phases reached := by
  have rooted := transaction.rooted
  have here : died disk := dies disk ⟨next, phases, stands, .inr complete⟩
  have observes := observeCandidate_yields transaction stands here
  cases next with
  | false => exact ⟨disk, observes.then Yields.pure, stands⟩
  | true =>
    have present : disk.leads .next = some (record.candidate.file.inode,
        lease.own (record.candidateBytes coding lease) stageMode) :=
      stands.candidate
    have entries := Disk.leads_unlink stands.linked present rfl
    have keeps := Disk.Keeps.unlink stands.linked present rfl
    have after : Stands coding lease record primary false phases
        (disk.unlink .next record.candidate.file.inode) := {
      linked := keeps.linked
      journal := by rw [keeps.entries _ (by simp), stands.journal]
      candidate := by
        rw [entries]
        rfl
      markers := fun role => (stands.markers role).kept transaction (.inr rfl) keeps
      uncommitted := fun committed => stands.uncommitted (keeps.uncommitted committed) }
    refine ⟨_, ?_, after⟩
    apply observes.then
    apply Mortal.passed ((matches_own transaction.candidate).2 ⟨rfl, rfl, rfl⟩)
    apply Mortal.passed transaction.digest
    exact unlinkExpected_yields rooted transaction.candidate present here
      (dies _ ⟨false, phases, after, .inr complete⟩)

variable (ends : ∀ left, RolledBack lease record left → died left)
include ends

theorem cleanup_yields (complete : ∀ role, Complete (record.marker role) (phases role)) :
    ∃ reached, Yields died (cleanupPreparedResidues coding lease record.selected
          record.admission record.candidate primary) disk () reached ∧
      RolledBack lease record reached := by
  have rooted := transaction.rooted
  obtain ⟨_, phases, selected, stands, complete⟩ :=
    cleanupStage_role transaction stands dies .selected complete
  obtain ⟨_, phases, admission, stands, complete⟩ :=
    cleanupStage_role transaction stands dies .admission complete
  obtain ⟨third, candidate, stands⟩ := cleanupCandidate_yields transaction stands dies complete
  have here : died third := dies _ ⟨false, phases, stands, .inr complete⟩
  have entries := Disk.leads_unlink stands.linked stands.journal rfl
  have keeps := Disk.Keeps.unlink stands.linked stands.journal rfl
  have rolledBack : RolledBack lease record (third.unlink .transaction primary) := {
    journal := by rw [entries, if_pos rfl]
    candidate := by
      rw [keeps.entries _ (by simp), stands.candidate]
      rfl
    markers := fun role =>
      ⟨phases role, complete role, (stands.markers role).kept transaction (.inl rfl) keeps⟩
    uncommitted := fun committed => stands.uncommitted (keeps.uncommitted committed) }
  refine ⟨_, ?_, rolledBack⟩
  apply selected.then
  apply admission.then
  apply candidate.then
  apply (syncRoot_yields rooted here).then
  apply (unlinkVerifiedPrimary_yields rooted stands.journal here (ends _ rolledBack)).then
  exact withContext_yields (syncRoot_yields rooted (ends _ rolledBack))

/-- A pending transaction is rolled back, and never refused. -/
theorem recoverPrepared_yields (unfinished : Unfinished record next phases) :
    ∃ reached, Yields died (recoverPrepared coding lease primary record) disk () reached ∧
      RolledBack lease record reached := by
  have rooted := transaction.rooted
  have here : died disk := dies disk ⟨next, phases, stands, unfinished⟩
  have classifies (role : Role) :=
    classify_yields rooted (transaction.markers role) here
    (stands.markers role) (unfinished.known role)
  have states (role : Role) := complete_iff_state (unfinished.known role)
  obtain ⟨_, _, selected, stands', unfinished', done, same⟩ :=
    restore_role transaction stands dies .selected unfinished
  obtain ⟨second, later, admission, stands'', unfinished'', done', same'⟩ :=
    restore_role transaction stands' dies .admission unfinished'
  rw [same .admission (by simp)] at admission
  have complete : ∀ role, Complete (record.marker role) (later role) := by
    rintro (_ | _)
    · rwa [same' .selected (by simp)]
    · exact done'
  have here' : died second := dies _ ⟨next, later, stands'', unfinished''⟩
  have classifies' (role : Role) :=
    classify_yields rooted (transaction.markers role) here'
    (stands''.markers role) (unfinished''.known role)
  have states' (role : Role) :=
    (complete_iff_state (unfinished''.known role)).2 (complete role)
  obtain ⟨reached, cleans, rolledBack⟩ := cleanup_yields transaction stands'' dies ends complete
  refine ⟨reached, ?_, rolledBack⟩
  apply (validatePrepared_yields transaction).then
  apply (observeCandidate_yields transaction stands here).then
  apply (validateCandidate_yields transaction).then
  apply (classifies .selected).then
  apply (classifies .admission).then
  have present : ¬((if next then some (candidateSeen coding lease record)
      else none) = none ∧
      (isCompleteOldState ((phases .selected).state record.selected) = false ∨
        isCompleteOldState ((phases .admission).state record.admission) = false)) := by
    rintro ⟨absent, incomplete⟩
    rcases unfinished with ⟨rfl, _⟩ | completes
    · cases absent
    · have selected := (states .selected).2 (completes .selected)
      have admission := (states .admission).2 (completes .admission)
      simp_all [PreparedRecord.marker]
  apply Mortal.passed present
  have residues : Yields died (validatePreparedStageResidues lease record.selected record.admission
      ((phases .selected).state record.selected)
      ((phases .admission).state record.admission)) disk () disk := by
    have both (completes : ∀ role, Complete (record.marker role) (phases role)) :
        (isCompleteOldState ((phases .selected).state record.selected) &&
          isCompleteOldState ((phases .admission).state record.admission)) := by
      rw [Bool.and_eq_true]
      exact ⟨(states .selected).2 (completes .selected),
        (states .admission).2 (completes .admission)⟩
    exact (validateStageResidue_yields transaction stands .selected unfinished both here).then
      (validateStageResidue_yields transaction stands .admission unfinished both here)
  apply residues.then
  apply (ensureFileNameMatches_yields rooted here stands.journal).then
  apply selected.then
  apply admission.then
  apply (classifies' .selected).then
  apply (classifies' .admission).then
  exact Mortal.passed ⟨states' .selected, states' .admission⟩ cleans

end

/-- The commit rename has happened, and the record is still there. -/
structure Decided (coding : Coding) (lease : MarkerPairLease)
    (record : PreparedRecord) (disk : Disk) : Prop where
  linked : disk.Linked
  journal : disk.leads .transaction = some (record.candidate.file.inode,
    lease.own (record.candidateBytes coding lease) stageMode)
  candidate : disk.leads .next = none
  markers : ∀ role, Holds lease (record.marker role) disk
    (.installed (record.marker role).newBytes stageMode)
  committed : .renamed .next .transaction ∈ disk.log

/-- Nothing of the transaction is left but the new markers. -/
structure Published (lease : MarkerPairLease) (record : PreparedRecord)
    (disk : Disk) : Prop where
  journal : disk.leads .transaction = none
  candidate : disk.leads .next = none
  markers : ∀ role, Holds lease (record.marker role) disk
    (.installed (record.marker role).newBytes stageMode)
  committed : .renamed .next .transaction ∈ disk.log

theorem validateCommitted_yields :
    Yields died (validateCommitted lease (expectedCommitted
      record.transactionId lease.identity record.selected record.admission)) disk () disk := by
  have marker (role : Role) : Yields died (validateCommittedMarker lease
      ⟨(record.marker role).name, (record.marker role).newBytes,
        (record.marker role).stage⟩ (.marker role)) disk () disk := by
    have valid := transaction.markers role
    apply Mortal.passed valid.name
    apply (validateNewValue_yields valid.length valid.digits).then
    apply (validateRecordedFile_yields valid.stage (by decide)).then
    apply Mortal.passed (recorded_device transaction.rooted valid.stage)
    exact Yields.ensure (by rw [valid.stage]; rfl)
  have distinct : record.selected.name ≠ record.admission.name := by
    intro same
    rw [show record.selected.name = _ from (transaction.markers .selected).name,
      show record.admission.name = _ from (transaction.markers .admission).name] at same
    cases same
  apply Mortal.passed rfl
  apply (validateTransactionId_yields transaction).then
  apply Mortal.passed rfl
  apply (marker .selected).then
  exact (marker .admission).then (Yields.ensure distinct)

theorem checkCommittedMarker_yields (role : Role)
    (decided : Decided coding lease record disk) (here : died disk) :
    Yields died (checkCommittedMarker lease record.transactionId
      ⟨(record.marker role).name, (record.marker role).newBytes,
        (record.marker role).stage⟩) disk () disk := by
  have valid := transaction.markers role
  have rooted := transaction.rooted
  have holds := decided.markers role
  apply (observeRequired_present rooted here holds.1 (short_new valid) (permits_stage _)).then
  apply Mortal.passed ⟨(matches_own valid.stage).2 ⟨rfl, rfl, rfl⟩, rfl⟩
  have stage : Yields died (committedStageName record.transactionId (record.marker role).name)
      disk (record.marker role).stageName disk := by
    rw [valid.name, valid.stageName]
    exact (validateTransactionId_yields transaction).then Yields.pure
  apply stage.then
  apply (entryStat_yields rooted here).then
  rw [holds.2]
  exact Yields.ensure rfl

/-- A committed transaction is completed, and never refused. -/
theorem recoverCommitted_yields (decided : Decided coding lease record disk)
    (here : died disk)
    (ends : ∀ left, Published lease record left → died left) :
    ∃ reached, Yields died (recoverCommitted lease record.candidate.file.inode
        (expectedCommitted record.transactionId lease.identity
          record.selected record.admission)) disk () reached ∧
      Published lease record reached := by
  have rooted := transaction.rooted
  have entries := Disk.leads_unlink decided.linked decided.journal rfl
  have keeps := Disk.Keeps.unlink decided.linked decided.journal rfl
  have published : Published lease record
      (disk.unlink .transaction record.candidate.file.inode) := {
    journal := by rw [entries, if_pos rfl]
    candidate := by rw [keeps.entries _ (by simp), decided.candidate]
    markers := fun role => (decided.markers role).kept transaction (.inl rfl) keeps
    committed := keeps.log _ decided.committed }
  refine ⟨_, ?_, published⟩
  apply (validateCommitted_yields transaction).then
  apply (checkCommittedMarker_yields transaction .selected decided here).then
  apply (checkCommittedMarker_yields transaction .admission decided here).then
  apply (entryStat_yields rooted here).then
  rw [decided.candidate]
  apply Mortal.passed rfl
  apply (unlinkVerifiedPrimary_yields rooted decided.journal here (ends _ published)).then
  exact withContext_yields (syncRoot_yields rooted (ends _ published))

/-- Recovery rolls a pending transaction back. -/
theorem recoverLocked_pending (pending : Pending coding lease record primary disk)
    (dies : ∀ left, Pending coding lease record primary left → died left)
    (ends : ∀ left, RolledBack lease record left → died left) :
    ∃ reached, Yields died (recoverLocked coding lease) disk () reached ∧
      RolledBack lease record reached := by
  have here := dies disk pending
  obtain ⟨_, _, stands, unfinished⟩ := pending
  obtain ⟨reached, recovers, rolledBack⟩ :=
    recoverPrepared_yields transaction stands dies ends unfinished
  refine ⟨reached, ?_, rolledBack⟩
  simp only [recoverLocked, transaction.rooted.ensures]
  exact (readRecord_yields transaction.rooted stands.journal
    transaction.recordFits here).then recovers

/-- Recovery completes a committed transaction. -/
theorem recoverLocked_decided (decided : Decided coding lease record disk)
    (here : died disk)
    (ends : ∀ left, Published lease record left → died left) :
    ∃ reached, Yields died (recoverLocked coding lease) disk () reached ∧
      Published lease record reached := by
  obtain ⟨reached, recovers, published⟩ := recoverCommitted_yields transaction decided here ends
  refine ⟨reached, ?_, published⟩
  simp only [recoverLocked, transaction.rooted.ensures]
  exact (readRecord_yields transaction.rooted decided.journal
    transaction.candidateFits here).then recovers

end

end Jackin.AccountMarkers
