import Jackin.AccountMarkers.Coding
import Jackin.AccountMarkers.Preparation

/-!
# Publishing and recovering a pair of markers

The rename of the committed record over the prepared one decides a
transaction.  So wherever a publication or a recovery is cut off, the root is
unprepared, pending, decided or clean again.  A recovery that ends leaves both
old markers or both new ones, according to whether that rename has happened,
and once the prepared record was written an undisturbed recovery ends.
-/

namespace Jackin.AccountMarkers

open List Foundation Script

section

variable {coding : Coding} {lease : MarkerPairLease} {record : PreparedRecord}
    {primary : File}
    {died : Disk → Prop}

variable (transaction : Transaction coding lease record)
include transaction

/-- The old marker is what was recorded. -/
theorem verifyOldValue_yields (role : Role)
    (holds : Holds lease (record.marker role) disk .staged) (here : died disk) :
    Yields died (verifyOldValue lease (record.marker role)) disk () disk := by
  have valid := transaction.markers role
  have rooted := transaction.rooted
  cases old : (record.marker role).old with
  | absent =>
    have absent : disk.leads (record.marker role).name = none := by
      rw [holds.1, old]
      rfl
    simp only [verifyOldValue, old]
    apply (entryStat_yields rooted here).then
    rw [absent]
    exact Yields.ensure rfl
  | present bytes original =>
    obtain ⟨records, short, _, readable, _⟩ := valid.old bytes original old
    have present : disk.leads (record.marker role).name =
        some (original.inode, lease.own bytes original.mode) := by
      rw [holds.1, old]
      rfl
    simp only [verifyOldValue, old]
    apply (observeRequired_present rooted here present short readable).then
    exact Yields.ensure ⟨(matches_own records).2 ⟨rfl, rfl, rfl⟩, rfl⟩

theorem verifyNewValue_yields (role : Role)
    (present : disk.leads name = some ((record.marker role).stage.inode,
      lease.own (record.marker role).newBytes stageMode)) (here : died disk) :
    Yields died (verifyNewValue lease (record.marker role) name message) disk () disk := by
  have valid := transaction.markers role
  apply (observeRequired_present transaction.rooted here
    present (short_new valid) (permits_stage _)).then
  exact Yields.ensure ⟨(matches_own valid.stage).2 ⟨rfl, rfl, rfl⟩, rfl⟩

/-- The phase of an installed stage. -/
def PreparedMarker.installed (marker : PreparedMarker) : Phase :=
  .installed marker.newBytes stageMode

omit transaction in
theorem rolling_installed (marker : PreparedMarker) :
    Rolling marker marker.installed := by
  cases old : marker.old <;> simp [Rolling, PreparedMarker.installed, old]

theorem installMarker_yields (role : Role)
    (stands : Stands coding lease record primary true phases disk)
    (rolling : ∀ role, Rolling (record.marker role) (phases role))
    (staged : phases role = .staged)
    (dies : ∀ left, Pending coding lease record primary left → died left) :
    ∃ reached, Yields died (installMarker lease (record.marker role).stage.inode
        (record.marker role)) disk () reached ∧
      Stands coding lease record primary true
        (Function.update phases role (record.marker role).installed) reached := by
  have valid := transaction.markers role
  have rooted := transaction.rooted
  have here : died disk := dies disk ⟨true, phases, stands, .inl ⟨rfl, rolling⟩⟩
  have holds := stands.markers role
  rw [staged] at holds
  have differ := names_differ valid
  have replaceable : disk.Replaceable (record.marker role).name := by
    intro lost replaced found
    rw [holds.1] at found
    cases old : (record.marker role).old with
    | absent =>
      rw [old] at found
      cases found
    | present bytes original =>
      rw [old] at found
      cases found
      exact ⟨rfl, by exact EntryKind.noConfusion⟩
  have keeps := Disk.Keeps.rename stands.linked holds.2 rfl replaceable
    differ (by rw [valid.name]; simp)
  have entries := Disk.leads_rename stands.linked holds.2 replaceable differ
  have installed : Holds lease (record.marker role)
      ((disk.rename (record.marker role).stageName (record.marker role).name
        (record.marker role).stage.inode).record
          (.renamed (record.marker role).stageName (record.marker role).name))
      (record.marker role).installed := by
    constructor
    · rw [Disk.leads_record, entries, if_pos rfl]
    · rw [Disk.leads_record, entries, if_neg differ, if_pos rfl]
  have after := stands.step transaction keeps installed
  have after_dies := dies _ ⟨true, _, after, .inl ⟨rfl,
    update_phases rolling (rolling_installed (record.marker role))⟩⟩
  refine ⟨_, ?_, after⟩
  apply (verifyOldValue_yields transaction role holds here).then
  apply (verifyNewValue_yields transaction role holds.2 here).then
  apply (ensureFileNameMatches_yields rooted here holds.2).then
  apply (renameEntry_yields rooted here stands.linked holds.2 rfl
    replaceable differ after_dies).then
  apply (syncRoot_yields rooted after_dies).then
  rw [rooted.ensures]
  exact ensureFileNameMatches_yields rooted after_dies installed.1

omit transaction

section

variable (prepared : Prepared coding lease start new publication disk)
include prepared

theorem preflight_yields (here : died disk) :
    Yields died (preflightPreparedPublication coding lease publication) disk () disk := by
  have transaction := prepared.transaction
  have rooted := transaction.rooted
  have stands := prepared.stands
  have candidate : disk.leads .next = some (publication.nextFile,
      lease.own (publication.record.candidateBytes coding lease) stageMode) := by
    rw [prepared.next]
    exact stands.candidate
  simp only [preflightPreparedPublication, rooted.ensures]
  apply (readRecord_yields rooted stands.journal transaction.recordFits here).then
  apply (fstat_yields stands.journal here).then
  apply (fstat_yields stands.journal here).then
  apply Mortal.passed rfl
  apply Mortal.passed rfl
  apply (validatePrepared_yields transaction).then
  apply (ensureFileNameMatches_yields rooted here candidate).then
  apply (observeRequired_present rooted here candidate
    transaction.candidateFits (permits_stage _)).then
  apply (fstat_yields candidate here).then
  apply (Yields.ensure ⟨(matches_own transaction.candidate).2
    ⟨prepared.next.symm, rfl, rfl⟩, rfl⟩).then
  apply Mortal.passed ⟨by rw [transaction.candidate]; rfl, transaction.digest⟩
  apply (parseRecord_yields transaction.candidateFits).then
  apply Mortal.passed rfl
  apply (verifyOldValue_yields transaction .selected (stands.markers _) here).then
  apply (verifyNewValue_yields transaction .selected (stands.markers .selected).2 here).then
  apply (verifyOldValue_yields transaction .admission (stands.markers _) here).then
  apply (verifyNewValue_yields transaction .admission (stands.markers .admission).2 here).then
  exact Yields.pure

/-- Both stages are installed, unless the caller's fence objects. -/
theorem publishPreparedMarkers_tells
    (dies : ∀ left,
      Pending coding lease publication.record publication.primaryFile left → died left) :
    Mortal (publishPreparedMarkers coding lease publication fence) disk
      (fun _ reached => Stands coding lease publication.record publication.primaryFile true
        (fun role => (publication.record.marker role).installed) reached)
      (fun _ => Pending coding lease publication.record publication.primaryFile) died := by
  have transaction := prepared.transaction
  have rooted := transaction.rooted
  have here : died disk := dies disk ⟨true, _, prepared.stands, .inl ⟨rfl, fun _ => trivial⟩⟩
  obtain ⟨_, selected, stands⟩ := installMarker_yields transaction
    .selected prepared.stands (fun _ => trivial) rfl dies
  obtain ⟨second, admission, stands⟩ := installMarker_yields transaction .admission stands
    (update_phases (fun _ => trivial) (rolling_installed _)) rfl dies
  have both : Function.update (Function.update (fun _ => Phase.staged)
      .selected (publication.record.marker .selected).installed)
      .admission (publication.record.marker .admission).installed =
      fun role => (publication.record.marker role).installed := by
    funext role
    cases role <;> rfl
  rw [both] at stands
  have pending : Pending coding lease publication.record publication.primaryFile second :=
    ⟨true, _, stands, .inl ⟨rfl, fun _ => rolling_installed _⟩⟩
  have there := dies second pending
  apply (preflight_yields prepared here).then
  rw [show publication.selectedFile = _ from prepared.files .selected,
    show publication.admissionFile = _ from prepared.files .admission]
  apply selected.then
  apply admission.then
  refine .bind (withContext_mortal ?_)
  apply Mortal.perform
  · rintro value reached ⟨⟩
    rw [rooted.ensures]
    apply (verifyNewValue_yields transaction .selected (stands.markers .selected).1 there).then
    exact (verifyNewValue_yields transaction .admission
      (stands.markers .admission).1 there).ends stands
  · rintro failure reached ⟨⟩
    exact pending
  · exact fun _ => there
  · exact there

end

/-- The disk after the commit rename. -/
def Disk.commit (disk : Disk) (candidate : File) : Disk :=
  (disk.rename .next .transaction candidate).record (.renamed .next .transaction)

section

variable (transaction : Transaction coding lease record)
    (stands : Stands coding lease record primary true
      (fun role => (record.marker role).installed) disk)
include transaction stands

omit transaction in
theorem journal_replaceable : disk.Replaceable .transaction := by
  intro lost replaced found
  rw [stands.journal] at found
  cases found
  exact ⟨rfl, by exact EntryKind.noConfusion⟩

/-- The rename that decides the transaction. -/
theorem decided_commit :
    Decided coding lease record (disk.commit record.candidate.file.inode) := by
  have candidate : disk.leads .next = some (record.candidate.file.inode,
      lease.own (record.candidateBytes coding lease) stageMode) :=
    stands.candidate
  have replaceable := journal_replaceable stands
  have entries (name : EntryName) :
      (disk.commit record.candidate.file.inode).leads name = _ :=
    Disk.leads_rename stands.linked candidate replaceable (by simp) name
  refine ⟨?_, ?_, ?_, ?_, ?_⟩
  · exact stands.linked.rename candidate rfl replaceable (by simp)
  · rw [entries, if_pos rfl]
  · rw [entries, if_neg (by simp), if_pos rfl]
  · intro role
    have valid := transaction.markers role
    apply (stands.markers role).congr
    · rw [entries, if_neg (by rw [valid.name]; simp), if_neg (by rw [valid.name]; simp)]
    · rw [entries, if_neg (by rw [valid.stageName]; simp), if_neg (by rw [valid.stageName]; simp)]
  · simp [Disk.commit, Disk.record]

theorem commit_yields (next : publication.nextFile = record.candidate.file.inode)
    (journal : publication.primaryFile = primary) (here : died disk)
    (decides : ∀ left, Decided coding lease record left → died left)
    (ends : ∀ left, Published lease record left → died left) :
    ∃ reached, Yields died (commitPreparedPublication coding lease publication) disk () reached ∧
      Published lease record reached := by
  have rooted := transaction.rooted
  have candidate : disk.leads .next = some (record.candidate.file.inode,
      lease.own (record.candidateBytes coding lease) stageMode) :=
    stands.candidate
  have replaceable := journal_replaceable stands
  have decided := decided_commit transaction stands
  have there := decides _ decided
  obtain ⟨reached, recovers, published⟩ := recoverLocked_decided transaction decided there ends
  refine ⟨reached, ?_, published⟩
  simp only [commitPreparedPublication, next, journal]
  apply (ensureFileNameMatches_yields rooted here candidate).attempt.then
  apply (ensureFileNameMatches_yields rooted here stands.journal).attempt.then
  have renames : Yields died (do
      lease.renameEntry .next .transaction
      lease.ensureFileNameMatches .transaction publication.nextFile
      lease.syncRoot) disk () (disk.commit record.candidate.file.inode) := by
    rw [next]
    apply (renameEntry_yields rooted here stands.linked candidate rfl
      replaceable (by simp) there).then
    apply (ensureFileNameMatches_yields rooted there decided.journal).then
    exact syncRoot_yields rooted there
  exact renames.attempt.then (recovers.attempt.then Yields.pure)

end

end

/-- Every disk that a publication or a recovery of it can leave. -/
inductive Recoverable (coding : Coding) (lease : MarkerPairLease)
    (start : Disk) (new : Role → Bytes) (disk : Disk) : Prop where
  | unprepared (unprepared : Unprepared coding start disk)
  | pending (record : PreparedRecord) (primary : File)
      (transaction : Transaction coding lease record) (concerns : Concerns lease start new record)
      (pending : Pending coding lease record primary disk)
  | rolledBack (record : PreparedRecord) (transaction : Transaction coding lease record)
      (concerns : Concerns lease start new record) (rolledBack : RolledBack lease record disk)
  | decided (record : PreparedRecord) (transaction : Transaction coding lease record)
      (concerns : Concerns lease start new record) (decided : Decided coding lease record disk)
  | published (record : PreparedRecord) (transaction : Transaction coding lease record)
      (concerns : Concerns lease start new record) (published : Published lease record disk)

section

variable {lease : MarkerPairLease} {disk : Disk} {died stop : Disk → Prop}

theorem validateNewValue_tells (stays : stop disk) :
    Mortal (validateNewValue bytes) disk (fun _ reached => reached = disk ∧ bytes.length = 64 ∧
        bytes.all (fun byte => lowerHexDigit byte.toNat)) (fun _ => stop) died := by
  apply Mortal.ensure _ (fun _ => stays)
  intro length
  exact .check (fun digits => ⟨rfl, length, digits⟩) (fun _ => stays)

theorem ensureNoReservedJournal_tells
    (rooted : lease.Rooted) (here : died disk) (stays : stop disk) :
    Mortal (lease.ensureNoReservedJournal name) disk
      (fun _ reached => reached = disk) (fun _ => stop) died := by
  simp only [MarkerPairLease.ensureNoReservedJournal, rooted.ensures]
  apply (withContext_yields (look_yields rfl rfl here)).then
  cases disk.leads name with
  | none => exact .pure rfl
  | some entry =>
    exact Mortal.fail stays

theorem hex16_length : (hex16 value).length = 16 := by simp [hex16]

theorem hex16_digits :
    (hex16 value).all (fun character => lowerHexDigit character.toNat) := by
  simp only [hex16, all_map, all_eq_true]
  exact fun place _ => lowerHex_digit (Nat.mod_lt _ (by decide))

theorem newTransactionId_tells (stays : stop disk) :
    Mortal (newTransactionId moment) disk
      (fun transactionId reached =>
        reached = disk ∧ transactionId.toList.length = transactionIdLength ∧
          transactionId.toList.all (fun character => lowerHexDigit character.toNat))
      (fun _ => stop) died := by
  simp only [newTransactionId]
  cases moment.nanos with
  | none =>
    exact Mortal.fail stays
  | some nanos =>
    refine .pure ⟨rfl, ?_, ?_⟩
    · simp [hex16_length, transactionIdLength]
    · simp [hex16_digits]

/-- A failed preparation is reported where it stopped. -/
theorem precommit_mortal {Value : Type} {action : Action Value} {done}
    (ends : Mortal action disk done (fun _ => stop) died) :
    Mortal (precommit message action) disk done (fun _ => stop) died := by
  refine .bind (Mortal.attempt ?_)
  apply ends.imply
  · exact fun _ _ => .pure
  · intro failure reached stops
    exact Mortal.fail stops
  · exact fun _ => id

variable (transaction : Transaction coding lease record)
    (concerns : Concerns lease start new record)

include transaction concerns in
/-- A failed publication is rolled back. -/
theorem rollbackPreparedFailure_tells {failure}
    (pending : Pending coding lease record primary disk) :
    Mortal (rollbackPreparedFailure coding lease failure message) disk done
      (fun _ => Recoverable coding lease start new) (Recoverable coding lease start new) := by
  obtain ⟨_, recovers, rolledBack⟩ :=
    recoverLocked_pending transaction pending
      (fun left => Recoverable.pending record primary transaction concerns)
      (fun left => Recoverable.rolledBack record transaction concerns)
  apply recovers.attempt.then
  exact Mortal.fail (.rolledBack record transaction concerns rolledBack)

/-- A publication leaves a disk that can be recovered, however it ends. -/
theorem publishLocked_recoverable (unprepared : Unprepared coding start start) :
    Mortal (publishLocked coding lease selectedNew admissionNew moment fence) start
      (fun _ => Recoverable coding lease start (newValue selectedNew admissionNew))
      (fun _ => Recoverable coding lease start (newValue selectedNew admissionNew))
      (Recoverable coding lease start (newValue selectedNew admissionNew)) := by
  have here : Recoverable coding lease start
      (newValue selectedNew admissionNew) start := .unprepared unprepared
  apply (validateNewValue_tells here).seq
  rintro _ _ ⟨rfl, selectedLength, selectedDigits⟩
  apply (validateNewValue_tells here).seq
  rintro _ _ ⟨rfl, admissionLength, admissionDigits⟩
  apply (ensureRootIdentity_tells here).seq
  rintro _ _ ⟨rfl, rooted⟩
  apply (ensureNoReservedJournal_tells rooted here here).seq
  rintro _ _ rfl
  apply (ensureNoReservedJournal_tells rooted here here).seq
  rintro _ _ rfl
  apply (newTransactionId_tells here).seq
  rintro transactionId start ⟨rfl, idLength, idDigits⟩
  refine .bind (precommit_mortal ?_)
  apply (prepareMarkerStages_tells rooted unprepared (Role.rec selectedLength admissionLength)
    (Role.rec selectedDigits admissionDigits) (fun left => Recoverable.unprepared)).imply _ (fun _
    left => Recoverable.unprepared) (fun _ => id)
  intro stages staging staged
  refine .bind (precommit_mortal ?_)
  apply (prepareTransactionRecords_tells staged rooted idLength idDigits
    (fun left => Recoverable.unprepared)
    (fun record primary left => Recoverable.pending record primary)).imply _
    (fun _ left => Recoverable.unprepared) (fun _ => id)
  intro publication journaled prepared
  have transaction := prepared.transaction
  have concerns := prepared.concerns
  refine .bind (Mortal.attempt ?_)
  apply (publishPreparedMarkers_tells prepared
    (fun left => Recoverable.pending _ _ transaction concerns)).imply _ _ (fun _ => id)
  · intro _ installing stands
    obtain ⟨_, commits, published⟩ := commit_yields transaction stands prepared.next rfl
      (Recoverable.pending _ _ transaction concerns
        ⟨true, _, stands, .inl ⟨rfl, fun _ => rolling_installed _⟩⟩)
      (fun left => Recoverable.decided _ transaction concerns)
      (fun left => Recoverable.published _ transaction concerns)
    exact commits.ends (.published _ transaction concerns published)
  · intro failure left pending
    exact rollbackPreparedFailure_tells transaction concerns pending

/-! ## Recoveries -/

/-- The rename that commits the journal has happened. -/
def Disk.Committed (disk : Disk) : Prop := .renamed .next .transaction ∈ disk.log

instance
    (disk : Disk) : Decidable disk.Committed :=
  inferInstanceAs (Decidable (_ ∈ disk.log))

/-- The bytes and the mode under a name. -/
def Disk.value? (disk : Disk) (name : EntryName) : Option (Bytes × Nat) :=
  (disk.leads name).map fun entry => (entry.2.bytes, entry.2.permissions)

/--
Both markers have their old bytes and mode, or are absent as before, unless
the transaction was committed; then both have the new bytes.
-/
def Settled (start : Disk) (new : Role → Bytes) (disk : Disk) : Prop :=
  if disk.Committed then ∀ role, (disk.value? (.marker role)).map Prod.fst = some (new role)
  else ∀ role, disk.value? (.marker role) = start.value? (.marker role)

include transaction concerns in
theorem RolledBack.settled (rolledBack : RolledBack lease record disk) :
    Settled start new disk := by
  rw [Settled, if_neg (show ¬disk.Committed from rolledBack.uncommitted)]
  intro role
  obtain ⟨phase, complete, holds⟩ := rolledBack.markers role
  have old := (concerns role).1
  simp only [Disk.value?, ← old]
  rw [← (transaction.markers role).name]
  cases phase with
  | staged | cleared => rw [holds.1]
  | installed bytes mode =>
    obtain ⟨_, before, rfl⟩ := complete
    rw [holds.1, before]
    rfl

include transaction concerns in
theorem Published.settled (published : Published lease record disk) :
    Settled start new disk := by
  rw [Settled, if_pos (show disk.Committed from published.committed)]
  intro role
  rw [← (concerns role).2, ← (transaction.markers role).name]
  simp only [Disk.value?, (published.markers role).1]
  rfl

/-- What cannot be read as a record is refused. -/
theorem readRecord_unprepared (rooted : lease.Rooted)
    (unprepared : Unprepared coding start disk) (here : died disk)
    (stays : stop disk) :
    Mortal (readRecord coding lease .transaction) disk
      (fun found reached => found = none ∧ reached = disk) (fun _ => stop) died := by
  apply (observeOptional_tells rooted here stays).seq
  rintro (_ | observed) disk ⟨rfl, tells⟩
  · exact .pure ⟨rfl, rfl⟩
  · obtain ⟨file, bytes, _, present, fits, readable, rfl⟩ := tells
    have unread : coding.decode bytes = none := unprepared.journal file _ present
    apply Mortal.ensure _ (fun _ => stays)
    intro _
    apply (openEntry_yields rooted here present readable).then
    apply (fstat_yields present here).then
    apply Mortal.passed rfl
    apply (ensureFileNameMatches_yields rooted here present).then
    refine .bind (Mortal.passed fits ?_)
    rw [unread]
    exact Mortal.fail stays

/-- Nothing is recovered before the journal is complete. -/
theorem recoverLocked_unprepared (unprepared : Unprepared coding start disk)
    (here : died disk) (stays : stop disk) :
    Mortal (recoverLocked coding lease) disk
      (fun _ reached => reached = disk) (fun _ => stop) died := by
  apply (ensureRootIdentity_tells stays).seq
  rintro _ disk ⟨rfl, rooted⟩
  apply (readRecord_unprepared rooted unprepared here stays).seq
  rintro _ _ ⟨rfl, rfl⟩
  exact (entryStat_yields rooted here).then (.check (fun _ => rfl) (fun _ => stays))

theorem Unprepared.settled (unprepared : Unprepared coding start disk) :
    Settled start new disk := by
  rw [Settled, if_neg (show ¬disk.Committed from unprepared.uncommitted)]
  intro role
  simp only [Disk.value?, unprepared.markers role]

/-- Once there was a journal, a recovery is never refused. -/
theorem recoverLocked_prepared (recoverable : Recoverable coding lease start new disk)
    (prepared : ¬Unprepared coding start disk) :
    Mortal (recoverLocked coding lease) disk
      (fun _ reached => Recoverable coding lease start new reached ∧ Settled start new reached)
      (fun _ _ => False) (Recoverable coding lease start new) := by
  have here := recoverable
  cases recoverable with
  | unprepared unprepared => exact absurd unprepared prepared
  | pending record primary transaction concerns pending =>
    obtain ⟨_, recovers, rolledBack⟩ :=
      recoverLocked_pending transaction pending
        (fun left => Recoverable.pending record primary transaction concerns)
        (fun left => Recoverable.rolledBack record transaction concerns)
    exact recovers.ends ⟨.rolledBack record transaction concerns rolledBack,
      rolledBack.settled transaction concerns⟩
  | rolledBack record transaction concerns rolledBack =>
    exact (recoverLocked_idle transaction.rooted rolledBack.journal
      rolledBack.candidate here).ends ⟨here, rolledBack.settled transaction concerns⟩
  | decided record transaction concerns decided =>
    obtain ⟨_, recovers, published⟩ :=
      recoverLocked_decided transaction decided here
        (fun left => Recoverable.published record transaction concerns)
    exact recovers.ends ⟨.published record transaction concerns published,
      published.settled transaction concerns⟩
  | published record transaction concerns published =>
    exact (recoverLocked_idle transaction.rooted published.journal
      published.candidate here).ends ⟨here, published.settled transaction concerns⟩

/-- A recovery leaves a disk that can be recovered, however it ends. -/
theorem recoverLocked_recoverable (recoverable : Recoverable coding lease start new disk) :
    Mortal (recoverLocked coding lease) disk
      (fun _ reached => Recoverable coding lease start new reached ∧ Settled start new reached)
      (fun _ => Recoverable coding lease start new) (Recoverable coding lease start new) := by
  by_cases unprepared : Unprepared coding start disk
  · apply (recoverLocked_unprepared unprepared recoverable recoverable).imply
    · rintro _ _ rfl
      exact ⟨recoverable, unprepared.settled⟩
    · exact fun _ _ => id
    · exact fun _ => id
  · apply (recoverLocked_prepared recoverable unprepared).imply
    · exact fun _ _ => id
    · exact fun _ _ => False.elim
    · exact fun _ => id

/-- What is left after recoveries with the given fates, one after another. -/
def recoveries (coding : Coding)
    (lease : MarkerPairLease) : Disk → List (List Fate) → Disk :=
  List.foldl fun disk fates => (recoverLocked coding lease disk fates).world

theorem recoveries_recoverable (errorless : ∀ fates ∈ histories, Errorless fates)
    (recoverable : Recoverable coding lease start new disk) :
    Recoverable coding lease start new (recoveries coding lease disk histories) := by
  induction histories generalizing disk with
  | nil => exact recoverable
  | cons fates later ih =>
    apply ih (fun fates member => errorless fates (mem_cons_of_mem _ member))
    have ends := (recoverLocked_recoverable recoverable).imply
      (fun _ _ => And.left) (fun _ _ => id) fun _ => id
    exact ends.leaves (errorless fates mem_cons_self)

end

/--
A publication is cut off anywhere, and so is any number of recoveries after
it.  Then a recovery that returns leaves both markers as before, or both new
ones if the rename that commits the journal has happened.  And if the
prepared journal was written completely, an undisturbed recovery returns.
-/
theorem recovered_markers_whole (coding : Coding) (lease : MarkerPairLease)
    (start : Disk)
    (linked : start.Linked) (idle : start.leads .transaction = none)
    (unlogged : start.log = [])
    (selectedNew admissionNew : Bytes) (moment : Moment)
    (fence : Except Failure Unit)
    (fates : List Fate) (errorless : Errorless fates)
    (histories : List (List Fate))
    (errorlessAfter : ∀ fates ∈ histories, Errorless fates) :
    let disk := recoveries coding lease
      (publishLocked coding lease selectedNew admissionNew moment fence start fates).world histories
    (∀ last, Errorless last → (recoverLocked coding lease disk last).result = .ok () →
        Settled start (newValue selectedNew admissionNew)
          (recoverLocked coding lease disk last).world) ∧
    (.written .transaction ∈ disk.log → (recoverLocked coding lease disk []).result = .ok ()) := by
  intro disk
  have unprepared : Unprepared coding start start := {
    linked
    markers := fun _ => rfl
    journal := by
      intro file inode found
      rw [idle] at found
      cases found
    uncommitted := by simp [unlogged]
    unwritten := by simp [unlogged] }
  have recoverable : Recoverable coding lease start (newValue selectedNew admissionNew) disk :=
    recoveries_recoverable errorlessAfter
      ((publishLocked_recoverable unprepared).leaves errorless)
  constructor
  · intro last errorlessLast returns
    have meets := (recoverLocked_recoverable recoverable last errorlessLast).2
    simp only [Meets, returns] at meets
    exact meets.2
  · intro written
    have prepared : ¬Unprepared coding start disk := fun unprepared => unprepared.unwritten written
    obtain ⟨_, returns, _⟩ := (recoverLocked_prepared recoverable prepared).undisturbed
    exact returns

/-! ## A publication that dies before its commit -/

theorem le_largest (numbers : List Nat) :
    ∀ number ∈ numbers, number ≤ numbers.foldr max 0 := by
  induction numbers with
  | nil => exact nofun
  | cons first rest ih => grind

def sampleLease : MarkerPairLease where
  euid := 1000
  masked := fun mode => mode
  permits := fun _ _ _ _ => true
  permits_read := fun _ _ => rfl
  permits_write := fun _ _ _ => rfl
  allocate := fun used => used.foldr max 0 + 1
  allocate_fresh := fun used member => Nat.not_succ_le_self _ (le_largest used _ member)
  root := "/state/markers"
  descriptor := ⟨⟨1, 2⟩, true, 1000, 0o700⟩
  named := ⟨⟨1, 2⟩, true, 1000, 0o700⟩
  identity := ⟨1, 2⟩

def sampleTransaction : String := "000000000000000300000000000000050000000000000000"

def sampleStage (inode : Nat) : RecordedFile := ⟨1, inode, 1000, 1, stageMode, 64⟩

def sampleCommitted : TransactionRecord := .committed {
  schemaVersion := transactionSchema
  transactionId := sampleTransaction
  root := ⟨1, 2⟩
  selected := ⟨.marker .selected, List.replicate 64 97, sampleStage 8⟩
  admission := ⟨.marker .admission, List.replicate 64 98, sampleStage 9⟩ }

/-- The first record of the sample publication, with the digest of the second one. -/
def samplePrepared : TransactionRecord := .prepared {
  schemaVersion := transactionSchema
  transactionId := sampleTransaction
  root := ⟨1, 2⟩
  selected := ⟨.marker .selected, .present [49, 50, 51] ⟨1, 7, 1000, 1, 0o640, 3⟩,
    List.replicate 64 97, .stage sampleTransaction .selected, sampleStage 8⟩
  admission := ⟨.marker .admission, .absent, List.replicate 64 98,
    .stage sampleTransaction .admission, sampleStage 9⟩
  candidate := ⟨.next, ⟨1, 10, 1000, 1, stageMode, 800⟩,
    "89fd534b1fccdb247799ef6192c38b3ee4bb55e300837f8799d9b9d4079b764b"⟩ }

theorem sampleTexts_foreign :
    ∀ entry ∈ written [samplePrepared, sampleCommitted], 1 < entry.2.headI := by
  decide +kernel

theorem sampleTexts_apart : ∀ entry ∈ written [samplePrepared, sampleCommitted],
    ∀ other ∈ written [samplePrepared, sampleCommitted], entry.2 <+: other.2 → entry = other := by
  decide +kernel

/-- Both records as they are written, and the digest of the second one. -/
def sampleCoding : Coding :=
  codingOf ⟨_, sampleTexts_foreign, sampleTexts_apart⟩ fun bytes =>
    if bytes = sampleCommitted.json.render then
      #v[137, 253, 83, 75, 31, 204, 219, 36, 119, 153, 239, 97, 146, 195, 139, 62, 228, 187, 85,
        227, 0, 131, 127, 135, 153, 217, 185, 212, 7, 155, 118, 75]
    else Vector.replicate 32 0

def emptyDisk : Disk :=
  ⟨⟨⟨[], List.nodup_nil⟩, fun _ => ⟨.regular, 0, 0, 0, []⟩⟩, []⟩

/-- One marker with three bytes, and none of the other. -/
def sampleStart : Disk :=
  emptyDisk.enter (.marker .selected) 7 (sampleLease.own [49, 50, 51] 0o640)

theorem sampleStart_linked : sampleStart.Linked := by
  have empty : emptyDisk.Linked := by nofun
  apply (Disk.Keeps.enter empty _).linked
  simp [emptyDisk, Volume.used]

/-- Both stages are installed when the process dies. -/
def sampleDisk : Disk :=
  (publishLocked sampleCoding sampleLease (List.replicate 64 97) (List.replicate 64 98)
    ⟨3, some 5, 0⟩ (.ok ()) sampleStart (List.replicate 170 .works ++ [.dies 0])).world

/-- A recovery that dies when two old bytes are restored. -/
def sampleRecovery : List Fate := List.replicate 43 .works ++ [.dies 3]

/-- The next recovery returns, and both old markers are back. -/
theorem interrupted_publication_recovered :
    (recoverLocked sampleCoding sampleLease
      (recoveries sampleCoding sampleLease sampleDisk [sampleRecovery]) []).result = .ok () ∧
    Settled sampleStart (newValue (List.replicate 64 97) (List.replicate 64 98))
      (recoverLocked sampleCoding sampleLease
        (recoveries sampleCoding sampleLease sampleDisk [sampleRecovery]) []).world := by
  have errorless (count extent : Nat) :
      Errorless (replicate count .works ++ [.dies extent]) := by
    intro fate member
    simp only [mem_append, mem_replicate, mem_singleton] at member
    rcases member with ⟨_, rfl⟩ | rfl <;> simp
  have written : .written .transaction ∈ (recoveries sampleCoding
      sampleLease sampleDisk [sampleRecovery]).log := by
    decide +kernel
  have whole := recovered_markers_whole sampleCoding sampleLease sampleStart
    sampleStart_linked (by decide) rfl (replicate 64 97)
    (replicate 64 98) ⟨3, some 5, 0⟩ (.ok ()) _ (errorless 170 0)
    [sampleRecovery] (by
      intro fates member
      obtain rfl := mem_singleton.1 member
      exact errorless 43 3)
  rw [show (publishLocked sampleCoding sampleLease (replicate 64 97) (replicate 64 98)
    ⟨3, some 5, 0⟩ (.ok ()) sampleStart
    (replicate 170 .works ++ [.dies 0])).world = sampleDisk from rfl] at whole
  generalize recoveries sampleCoding sampleLease sampleDisk
    [sampleRecovery] = disk at whole written ⊢
  have returned := whole.2 written
  exact ⟨returned, whole.1 [] nofun returned⟩

end Jackin.AccountMarkers
