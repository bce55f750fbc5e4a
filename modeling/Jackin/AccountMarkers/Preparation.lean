import Jackin.AccountMarkers.Recovery

/-!
# Preparing a transaction

Until the prepared record is written completely, a publication only adds
files under names of its own.  The markers stay what they were, and whatever
is under the name of the journal cannot be read as a record, so recovery
either finds nothing to do or refuses.  The last byte of the prepared record
makes the transaction pending.
-/

namespace Jackin.AccountMarkers

open Foundation Script

variable {reached : Disk}

section

variable {lease : MarkerPairLease} {disk : Disk} {file : File}
    {died stop : Disk → Prop}

/-- Nothing happened but that an empty file may be under the name. -/
def Blank (name : EntryName) (disk left : Disk) : Prop :=
  Disk.Keeps [name] disk left ∧ ∀ file inode, left.leads name = some (file, inode) →
      disk.leads name = some (file, inode) ∨ inode.bytes = []

variable (rooted : lease.Rooted) (linked : disk.Linked)
include rooted linked

/-- A file is created and given its mode. -/
theorem createEntry_yields (absent : disk.leads name = none)
    (blank : ∀ left, Blank name disk left → died left) :
    ∃ file reached, Yields died (lease.createEntry name stageMode) disk file reached ∧
      reached.leads name = some (file, lease.own [] stageMode) ∧
      Disk.Keeps [name] disk reached := by
  let fresh := lease.allocate disk.volume.used
  have unused : fresh ∉ disk.volume.used := lease.allocate_fresh disk.volume.used
  let entered := disk.enter name fresh (lease.own [] (lease.masked stageMode))
  have present : entered.leads name =
      some (fresh, lease.own [] (lease.masked stageMode)) := by
    rw [Disk.leads_enter unused, if_pos rfl]
  have entering : Disk.Keeps [name] disk entered := .enter linked unused
  have here : died disk := blank disk ⟨.refl linked, fun _ _ => .inl⟩
  have entered_dies : died entered := by
    refine blank entered ⟨entering, fun other inode found => .inr ?_⟩
    rw [present] at found
    cases found
    rfl
  have creates : (lease.createat name stageMode).complete disk =
      (.ok fresh, entered) := by
    simp only [MarkerPairLease.createat, absent]
    rfl
  have begins {reached : Disk} (rest : Yields died (do
        if lease.masked stageMode ≠ stageMode then
          withContext ("cannot set newly created marker entry mode: " ++
            name.text) (perform (fchmod fresh stageMode))
        lease.ensureFileNameMatches name fresh
        pure fresh) entered fresh reached) :
      Yields died (lease.createEntry name stageMode) disk fresh reached := by
    simp only [MarkerPairLease.createEntry, rooted.ensures, pure_bind]
    apply Mortal.passed (show stageMode ≤ 0o777 by decide)
    apply (withContext_yields (.perform creates (fun _ => here) entered_dies)).then
    exact (fstat_yields present entered_dies).then rest
  by_cases same : lease.masked stageMode = stageMode
  · rw [same] at present
    refine ⟨fresh, entered, begins ?_, present, entering⟩
    simp only [same]
    exact (ensureFileNameMatches_yields rooted entered_dies present).then Yields.pure
  · -- the mask took bits away, and they are set again
    let turned := entered.change fresh fun inode => { inode with permissions := stageMode }
    have changed := Disk.leads_change entering.linked present rfl
      fun inode => { inode with permissions := stageMode }
    have set : turned.leads name = some (fresh, lease.own [] stageMode) := by
      rw [changed, if_pos rfl]
      rfl
    have turning : Disk.Keeps [name] disk turned :=
      entering.trans (.change entering.linked present rfl _)
    have turned_dies : died turned := by
      refine blank turned ⟨turning, fun other inode found => .inr ?_⟩
      rw [set] at found
      cases found
      rfl
    refine ⟨fresh, turned, begins ?_, set, turning⟩
    simp only [ne_eq, same]
    apply (withContext_yields (.perform rfl (fun _ => entered_dies) turned_dies)).then
    exact (ensureFileNameMatches_yields rooted turned_dies set).then Yields.pure

omit linked in
/-- A name that is taken is refused. -/
theorem createEntry_refused (present : disk.leads name = some (file, inode))
    (here : died disk)
    (stays : stop disk) :
    Mortal (lease.createEntry name stageMode) disk done (fun _ => stop) died := by
  have refuses : (lease.createat name stageMode).complete disk =
      (.error (.system "openat"), disk) := by
    simp [MarkerPairLease.createat, present]
  simp only [MarkerPairLease.createEntry, rooted.ensures, pure_bind]
  apply Mortal.passed (show stageMode ≤ 0o777 by decide)
  refine .bind (withContext_mortal ?_)
  exact .refused refuses (fun _ => here) here stays

/-- All bytes are written to an empty file. -/
def filled (disk : Disk) (name : EntryName) (file : File)
    (bytes : Bytes) : Disk :=
  (disk.change file (overwrite bytes)).record (.written name)

omit rooted in
theorem leads_filled (present : disk.leads name = some (file, lease.own [] stageMode)) :
    (filled disk name file bytes).leads name =
      some (file, lease.own bytes stageMode) := by
  rw [filled, Disk.leads_record, Disk.leads_change linked present rfl]
  simp [overwrite, MarkerPairLease.own]

theorem writeEntry_yields
    (present : disk.leads name = some (file, lease.own [] stageMode))
    (here : died disk)
    (parts : ∀ extent, died (disk.change file (overwrite (bytes.take extent))))
    (after : died (filled disk name file bytes)) :
    Yields died (writeEntry lease name file bytes) disk () (filled disk name file bytes) := by
  have written : (filled disk name file bytes).leads name =
      some (file, lease.own bytes stageMode) := leads_filled linked present
  apply (ensureFileNameMatches_yields rooted here present).then
  apply (withContext_yields (.perform rfl parts after)).then
  apply (fstat_yields written after).then
  apply Mortal.passed ⟨rfl, rfl, rfl⟩
  exact Mortal.passed ⟨rfl, rfl⟩ (ensureFileNameMatches_yields rooted after written)

/-- A record is put into the root, or its name was taken. -/
theorem putRecord_tells (blank : ∀ left, Blank name disk left → died left)
    (parts : ∀ left file extent, Disk.Keeps [name] disk left →
      left.leads name = some (file, lease.own (bytes.take extent) stageMode) → died left)
    (whole : ∀ left file, Disk.Keeps [name] disk left →
      left.leads name = some (file, lease.own bytes stageMode) →
        died (left.record (.written name))) :
    Mortal (putRecord lease contexts name bytes) disk
      (fun file reached => ∃ left, reached = left.record (.written name) ∧ Disk.Keeps [name] disk
        left ∧ left.leads name = some (file, lease.own bytes stageMode))
      (fun _ left => left = disk) died := by
  have here : died disk := blank disk ⟨.refl linked, fun _ _ => .inl⟩
  cases found : disk.leads name with
  | some entry =>
    refine .bind (withContext_mortal ?_)
    exact createEntry_refused rooted found here rfl
  | none =>
    obtain ⟨file, created, creates, present, keeps⟩ := createEntry_yields rooted linked found blank
    have changing (written : Bytes) : Disk.Keeps [name] disk
        (created.change file (overwrite written)) :=
      keeps.trans (.change keeps.linked present rfl _)
    have entry (written : Bytes) :
        (created.change file (overwrite written)).leads name =
          some (file, lease.own written stageMode) :=
      leads_filled keeps.linked present
    have after : died (filled created name file bytes) :=
      whole _ file (changing bytes) (entry bytes)
    have writes : Yields died (writeEntry lease name file bytes) created
        () (filled created name file bytes) :=
      writeEntry_yields rooted keeps.linked present
        (parts created file 0 keeps (by rw [present, List.take_zero]))
        (fun extent => parts _ file extent (changing _) (entry _)) after
    apply (withContext_yields creates).then
    apply (withContext_yields writes).then
    apply (withContext_yields (syncFile_yields rooted after)).then
    apply (withContext_yields (syncRoot_yields rooted after)).then
    exact .pure ⟨_, rfl, changing bytes, entry bytes⟩

omit linked in
theorem recordedOpenFile_yields
    (present : disk.leads name = some (file, lease.own bytes stageMode))
    (here : died disk) :
    Yields died (recordedOpenFile lease name file) disk
      (.fromStat (lease.stat file (lease.own bytes stageMode))) disk := by
  have checks : Yields died (validateUserFile lease
      (lease.stat file (lease.own bytes stageMode)) (some stageMode)) disk ()
      disk := by
    apply Mortal.passed rfl
    apply Mortal.passed rfl
    apply Mortal.passed rfl
    exact Mortal.passed (show stageMode ≤ 0o777 by decide) (Yields.ensure rfl)
  apply (ensureFileNameMatches_yields rooted here present).then
  exact (fstat_yields present here).then (checks.then Yields.pure)

theorem stage_yields (length : bytes.length = 64)
    (digits : bytes.all (fun byte => lowerHexDigit byte.toNat))
    (other : name ≠ .transaction)
    (present : disk.leads name = some (file, lease.own [] stageMode))
    (dies : ∀ left, Disk.Keeps [name] disk left → died left) :
    Yields died (do
        perform (settle "dup")
        writeNewStage lease name file bytes
        let record ← recordedOpenFile lease name file
        pure (file, record)) disk
      (file, .fromStat (lease.stat file (lease.own bytes stageMode)))
      (filled disk name file bytes) := by
  have here : died disk := dies disk (.refl linked)
  have after : died (filled disk name file bytes) :=
    dies _ ((Disk.Keeps.change linked present rfl _).record other)
  have written : (filled disk name file bytes).leads name =
      some (file, lease.own bytes stageMode) := leads_filled linked present
  have fits : bytes.length ≤ maxOldValue := by
    rw [length]
    decide
  have writes : Yields died (writeNewStage lease name file bytes) disk ()
      (filled disk name file bytes) := by
    apply (validateNewValue_yields length digits).then
    apply (writeEntry_yields rooted linked present here
      (fun _ => dies _ (.change linked present rfl _)) after).then
    apply (syncFile_yields rooted after).then
    apply (observeRequired_present rooted after written fits (permits_stage _)).then
    exact Yields.ensure ⟨rfl, rfl⟩
  apply (look_yields rfl rfl here).then
  exact writes.then ((recordedOpenFile_yields rooted written after).then Yields.pure)

/-- A stage is set up, or its name was taken and nothing happened. -/
theorem setupStage_tells (length : bytes.length = 64)
    (digits : bytes.all (fun byte => lowerHexDigit byte.toNat))
    (other : name ≠ .transaction)
    (dies : ∀ left, Disk.Keeps [name] disk left → died left) :
    Mortal (setupStage lease name bytes) disk (fun setup reached =>
        (∃ failure, setup = ([], .error failure) ∧ reached = disk) ∨
        ∃ file, setup = ([(name, file)], .ok (file,
            .fromStat (lease.stat file (lease.own bytes stageMode)))) ∧
          reached.leads name = some (file, lease.own bytes stageMode) ∧
          Disk.Keeps [name] disk reached) (fun _ _ => False) died := by
  have here : died disk := dies disk (.refl linked)
  cases found : disk.leads name with
  | some entry =>
    have refused : Mortal (lease.createEntry name stageMode) disk
        (fun _ _ => False) (fun _ left => left = disk) died :=
      createEntry_refused rooted found here rfl
    refine .bind (Mortal.attempt ?_)
    apply refused.imply
    · exact fun _ _ => False.elim
    · rintro failure _ rfl
      exact .pure (.inl ⟨failure, rfl, rfl⟩)
    · exact fun _ => id
  | none =>
    obtain ⟨file, _, creates, present, keeps⟩ :=
      createEntry_yields rooted linked found (fun left blank => dies left blank.1)
    apply creates.attempt.then
    apply (stage_yields rooted keeps.linked length digits other present
      (fun left more => dies left (keeps.trans more))).attempt.then
    refine .pure (.inr ⟨file, rfl, ?_, ?_⟩)
    · exact leads_filled keeps.linked present
    · exact keeps.trans ((Disk.Keeps.change keeps.linked present rfl _).record other)

omit rooted linked in
/-- A setup that made nothing is abandoned at once. -/
theorem abandonSetup_nothing {Value : Type} {failure}
    {done} (stays : stop disk) :
    Mortal (abandonSetup lease [] failure : Action Value) disk done (fun _ => stop) died := by
  have cleans : Yields died (do
      let removed ← removeOwnedSetupStages lease []
      if removed then lease.syncRoot) disk () disk :=
    Yields.pure.then Yields.pure
  apply cleans.attempt.then
  exact Mortal.fail stays

omit linked in
/-- A stage that was made is removed before the setup is abandoned. -/
theorem abandonSetup_stage {Value : Type} {failure} {done}
    (present : disk.leads name = some (file, lease.own bytes stageMode))
    (here : died disk)
    (after : died (disk.unlink name file))
    (stays : stop (disk.unlink name file)) :
    Mortal (abandonSetup lease [(name, file)] failure : Action Value) disk
      done (fun _ => stop) died := by
  have removes : Yields died (removeOwnedSetupStages lease [(name, file)])
      disk true (disk.unlink name file) := by
    apply (fstat_yields present here).then
    apply (entryStat_yields rooted here).then
    rw [present]
    apply Mortal.passed ⟨rfl, rfl⟩
    apply (ensureFileNameMatches_yields rooted here present).then
    apply (unlinkEntry_yields rooted here present (by exact EntryKind.noConfusion) after).then
    exact Yields.pure.then Yields.pure
  have cleans : Yields died (do
      let removed ← removeOwnedSetupStages lease [(name, file)]
      if removed then lease.syncRoot) disk () (disk.unlink name file) :=
    removes.then (syncRoot_yields rooted after)
  apply cleans.attempt.then
  exact Mortal.fail stays

end

/-! ## Before the journal is written -/

/-- The markers are untouched, and there is no record to be read. -/
structure Unprepared (coding : Coding) (start disk : Disk) : Prop where
  linked : disk.Linked
  markers : ∀ role, disk.leads (.marker role) = start.leads (.marker role)
  journal : ∀ file inode, disk.leads .transaction = some (file, inode) →
    coding.decode inode.bytes = none
  uncommitted : .renamed .next .transaction ∉ disk.log
  unwritten : .written .transaction ∉ disk.log

section

variable {coding : Coding} {lease : MarkerPairLease} {start disk : Disk}
    {died stop : Disk → Prop}

section

variable (unprepared : Unprepared coding start disk)
    (work : Disk.Keeps [name] disk reached)
    (marker : ∀ role, name ≠ .marker role)
include unprepared work marker

/-- Work beside the markers leaves the transaction unprepared while the journal cannot be read. -/
theorem Unprepared.unread
    (unread : ∀ file inode,
      reached.leads .transaction = some (file, inode) → coding.decode inode.bytes = none) :
    Unprepared coding start reached where
  linked := work.linked
  markers := by
    intro role
    rw [work.entries _ (by simpa using (marker role).symm)]
    exact unprepared.markers role
  journal := unread
  uncommitted := fun committed => unprepared.uncommitted (work.uncommitted committed)
  unwritten := fun written => unprepared.unwritten (work.unwritten written)

theorem Unprepared.keeps (other : name ≠ .transaction) :
    Unprepared coding start reached := by
  apply unprepared.unread work marker
  rw [work.entries _ (by simpa using other.symm)]
  exact unprepared.journal

end

/-- What is recorded of an old marker describes its entry. -/
def Inspected (lease : MarkerPairLease) (disk : Disk) (name : EntryName)
    (old : OldValue) : Prop :=
  old.leads lease = disk.leads name ∧
    ∀ bytes original, old = .present bytes original →
      lease.Records original bytes original.mode ∧
      bytes.length ≤ maxOldValue ∧ original.mode ≤ 0o777 ∧
      lease.permits .regular lease.euid original.mode .readOnly

theorem validateUserFile_tells (stays : stop disk) :
    Mortal (validateUserFile lease (lease.stat file (lease.own bytes mode))
      none) disk (fun _ reached => reached = disk ∧ mode ≤ 0o777) (fun _ => stop) died := by
  apply Mortal.passed rfl
  apply Mortal.passed rfl
  apply Mortal.passed rfl
  apply Mortal.ensure _ (fun _ => stays)
  exact fun bits => .pure ⟨rfl, bits⟩

theorem inspectOldValue_tells (rooted : lease.Rooted)
    (here : died disk) (stays : stop disk) :
    Mortal (inspectOldValue lease name) disk
      (fun old reached => reached = disk ∧ Inspected lease disk name old) (fun _ => stop) died := by
  apply (observeOptional_tells rooted here stays).seq
  rintro (_ | observed) _ ⟨rfl, tells⟩
  · refine .pure ⟨rfl, Eq.symm tells, ?_⟩
    rintro bytes original ⟨⟩
  · obtain ⟨_, _, _, present, fits, readable, rfl⟩ := tells
    apply (validateUserFile_tells stays).seq
    rintro _ _ ⟨rfl, bits⟩
    refine .pure ⟨rfl, Eq.symm present, ?_⟩
    rintro _ _ ⟨⟩
    exact ⟨rfl, fits, bits, readable⟩

def PreparedStages.marker (stages : PreparedStages) : Role → PreparedMarker
  | .selected => stages.selected
  | .admission => stages.admission

def PreparedStages.file (stages : PreparedStages) : Role → File
  | .selected => stages.selectedFile
  | .admission => stages.admissionFile

/-- The new bytes of both markers. -/
def newValue (selectedNew admissionNew : Bytes) : Role → Bytes
  | .selected => selectedNew
  | .admission => admissionNew

/-- Both stages are there, beside the old markers. -/
structure Staged (coding : Coding) (lease : MarkerPairLease) (start : Disk)
    (transactionId : String) (new : Role → Bytes) (stages : PreparedStages)
    (disk : Disk) : Prop where
  unprepared : Unprepared coding start disk
  valid : ∀ role, (stages.marker role).Valid lease transactionId role
  holds : ∀ role, Holds lease (stages.marker role) disk .staged
  new : ∀ role, (stages.marker role).newBytes = new role
  files : ∀ role, stages.file role = (stages.marker role).stage.inode

theorem staged_valid (linked : disk.Linked) (length : bytes.length = 64)
    (digits : bytes.all (fun byte => lowerHexDigit byte.toNat))
    (inspected : Inspected lease disk (.marker role) old)
    (stage : disk.leads (.stage transactionId role) = some (file, lease.own bytes stageMode)) :
    PreparedMarker.Valid lease transactionId role
      ⟨.marker role, old, bytes, .stage transactionId role,
        .fromStat (lease.stat file (lease.own bytes stageMode))⟩ where
  name := rfl
  stageName := rfl
  length := length
  digits := digits
  stage := rfl
  old := by
    rintro before original rfl
    obtain ⟨records, short, bits, readable⟩ := inspected.2 before original rfl
    refine ⟨records, short, bits, readable, fun same => ?_⟩
    -- the stage and the old marker are different names of the root
    have marker : disk.leads (.marker role) = some (original.inode,
        lease.own before original.mode) := inspected.1.symm
    rw [same] at marker
    cases linked.single stage rfl marker

theorem prepareMarkerStages_tells (rooted : lease.Rooted)
    (unprepared : Unprepared coding start disk)
    (length : ∀ role, (newValue selectedNew admissionNew role).length = 64)
    (digits : ∀ role, (newValue selectedNew admissionNew role).all
      (fun byte => lowerHexDigit byte.toNat))
    (dies : ∀ left, Unprepared coding start left → died left) :
    Mortal (prepareMarkerStages lease transactionId selectedNew admissionNew) disk
      (Staged coding lease start transactionId (newValue selectedNew admissionNew))
      (fun _ => Unprepared coding start) died := by
  have here := dies disk unprepared
  apply (inspectOldValue_tells rooted here unprepared).seq
  rintro selectedOld disk ⟨rfl, selected⟩
  apply (inspectOldValue_tells rooted here unprepared).seq
  rintro admissionOld disk ⟨rfl, admission⟩
  apply Mortal.bind
  apply (setupStage_tells rooted unprepared.linked (length .selected) (digits .selected) (by simp)
    (fun left keeps => dies left (unprepared.keeps keeps (by simp) (by simp)))).imply _ (fun _ _ =>
    False.elim) (fun _ => id)
  rintro _ first (⟨failure, rfl, rfl⟩ | ⟨selectedFile, rfl, selectedStage, keeps⟩)
  · exact abandonSetup_nothing unprepared
  have once : Unprepared coding start first :=
    unprepared.keeps keeps (by simp) (by simp)
  apply Mortal.bind
  apply (setupStage_tells rooted once.linked (length .admission) (digits .admission) (by simp)
    (fun left keeps => dies left (once.keeps keeps (by simp) (by simp)))).imply _ (fun _ _ =>
    False.elim) (fun _ => id)
  rintro _ second (⟨failure, rfl, rfl⟩ | ⟨admissionFile, rfl, admissionStage, more⟩)
  · have gone : Unprepared coding start
        (second.unlink (.stage transactionId .selected) selectedFile) :=
      once.keeps (.unlink once.linked selectedStage rfl) (by simp) (by simp)
    exact abandonSetup_stage rooted selectedStage (dies _ once) (dies _ gone) gone
  have twice : Unprepared coding start second := once.keeps more (by simp) (by simp)
  apply (syncRoot_yields rooted (dies _ twice)).attempt.then
  have same (role : Role) : second.leads (.marker role) = disk.leads (.marker role) := by
    rw [more.entries _ (by simp), keeps.entries _ (by simp)]
  have selectedKept : second.leads (.stage transactionId .selected) =
      some (selectedFile, lease.own selectedNew stageMode) := by
    rwa [more.entries _ (by simp)]
  have selected' : Inspected lease second (.marker .selected) selectedOld :=
    ⟨(same .selected).symm ▸ selected.1, selected.2⟩
  have admission' :
      Inspected lease second (.marker .admission) admissionOld :=
    ⟨(same .admission).symm ▸ admission.1, admission.2⟩
  refine .pure ⟨twice, ?_, ?_, ?_, ?_⟩
  · rintro (_ | _)
    · exact staged_valid twice.linked (length .selected) (digits .selected) selected' selectedKept
    · exact staged_valid twice.linked (length .admission)
        (digits .admission) admission' admissionStage
  · rintro (_ | _)
    · exact ⟨selected'.1.symm, selectedKept⟩
    · exact ⟨admission'.1.symm, admissionStage⟩
  · rintro (_ | _) <;> rfl
  · rintro (_ | _) <;> rfl

/-! ## Records -/

/-- The transaction is about the markers of the start and the new bytes. -/
def Concerns (lease : MarkerPairLease) (start : Disk) (new : Role → Bytes)
    (record : PreparedRecord) : Prop :=
  ∀ role, (record.marker role).old.leads lease = start.leads (.marker role) ∧
    (record.marker role).newBytes = new role

def PreparedPublication.file (publication : PreparedPublication) : Role → File
  | .selected => publication.selectedFile
  | .admission => publication.admissionFile

/-- The journal is complete, and nothing is installed yet. -/
structure Prepared (coding : Coding) (lease : MarkerPairLease)
    (start : Disk) (new : Role → Bytes) (publication : PreparedPublication)
    (disk : Disk) : Prop where
  transaction : Transaction coding lease publication.record
  concerns : Concerns lease start new publication.record
  stands : Stands coding lease publication.record publication.primaryFile
    true (fun _ => .staged) disk
  next : publication.nextFile = publication.record.candidate.file.inode
  files : ∀ role, publication.file role = (publication.record.marker role).stage.inode

/-- An empty file is not a record. -/
theorem decode_nil : coding.decode [] = none := by
  -- at most one record could be written as nothing
  have short (record : TransactionRecord)
      (written : coding.encode record ≠ []) : coding.decode [] = none := by
    have cut := coding.decode_cut record 0 (List.length_pos_of_ne_nil written)
    rwa [List.take_zero] at cut
  have decodes := coding.decode_encode
  let marker : CommittedMarker := ⟨.next, [], ⟨0, 0, 0, 0, 0, 0⟩⟩
  let one : TransactionRecord := .committed ⟨0, "", ⟨0, 0⟩, marker, marker⟩
  let two : TransactionRecord := .committed ⟨1, "", ⟨0, 0⟩, marker, marker⟩
  by_cases first : coding.encode one = []
  · by_cases second : coding.encode two = []
    · have same : some one = some two := by rw [← decodes one, ← decodes two, first, second]
      simp [one, two] at same
    · exact short two second
  · exact short one first

/-- The prepared record of two stages and a candidate. -/
def preparedRecord (coding : Coding) (lease : MarkerPairLease)
    (transactionId : String) (stages : PreparedStages)
    (next : File) : PreparedRecord :=
  let bytes := coding.encode (.committed (expectedCommitted transactionId
    lease.identity stages.selected stages.admission))
  { schemaVersion := transactionSchema
    transactionId
    root := lease.identity
    selected := stages.selected
    admission := stages.admission
    candidate := ⟨.next, .fromStat (lease.stat next (lease.own bytes stageMode)),
      digestHex coding bytes⟩ }

section

variable (staged : Staged coding lease start transactionId new stages disk)

include staged

theorem preparedRecord_transaction (rooted : lease.Rooted)
    (idLength : transactionId.toList.length = transactionIdLength)
    (idDigits : transactionId.toList.all (fun character => lowerHexDigit character.toNat))
    (candidateFits : (coding.encode (.committed (expectedCommitted transactionId lease.identity
      stages.selected stages.admission))).length ≤ maxRecordBytes)
    (recordFits : (coding.encode (.prepared (preparedRecord coding lease
      transactionId stages next))).length ≤ maxRecordBytes) :
    Transaction coding lease (preparedRecord coding lease transactionId stages next) where
  rooted := rooted
  schema := rfl
  idLength := idLength
  idDigits := idDigits
  root := rfl
  markers := by
    intro role
    exact staged.valid role
  candidateName := rfl
  candidate := rfl
  digest := rfl
  candidateFits := candidateFits
  recordFits := recordFits

theorem preparedRecord_concerns :
    Concerns lease start new (preparedRecord coding lease transactionId stages next) := by
  intro role
  refine ⟨?_, staged.new role⟩
  change OldValue.leads lease (stages.marker role).old = _
  rw [← (staged.holds role).1, (staged.valid role).name]
  exact staged.unprepared.markers role

/-- The entries once the candidate and the journal are there. -/
theorem preparedRecord_stands (linked : reached.Linked)
    (kept : ∀ name, name ≠ .next → name ≠ .transaction → reached.leads name = disk.leads name)
    (candidate : reached.leads .next = some (next, lease.own
      (coding.encode (.committed (expectedCommitted transactionId
        lease.identity stages.selected stages.admission))) stageMode))
    (journal : reached.leads .transaction = some (primary, lease.own
      (coding.encode (.prepared (preparedRecord coding lease transactionId
        stages next))) stageMode))
    (uncommitted : .renamed .next .transaction ∉ reached.log) :
    Stands coding lease (preparedRecord coding lease transactionId stages next)
      primary true (fun _ => .staged) reached where
  linked := linked
  journal := journal
  candidate := candidate
  markers := by
    intro role
    have valid := staged.valid role
    exact (staged.holds role).congr (kept _ (by rw [valid.name]; simp) (by rw [valid.name]; simp))
      (kept _ (by rw [valid.stageName]; simp) (by rw [valid.stageName]; simp))
  uncommitted := uncommitted

omit staged in
/-- That the journal was written is no change of the entries. -/
theorem Stands.record {record}
    (stands : Stands coding lease record primary present phases disk) :
    Stands coding lease record primary present phases (disk.record (.written name)) where
  linked := stands.linked
  journal := stands.journal
  candidate := stands.candidate
  markers := fun role => (stands.markers role).congr rfl rfl
  uncommitted := by
    simp only [Disk.record, List.mem_append, List.mem_singleton, reduceCtorEq, or_false]
    exact stands.uncommitted

omit staged in
theorem serializeRecord_tells (stays : stop disk) :
    Mortal (serializeRecord coding record) disk
      (fun bytes reached => reached = disk ∧ bytes = coding.encode record ∧
        (coding.encode record).length ≤ maxRecordBytes) (fun _ => stop) died :=
  Mortal.ensure (fun fits => .pure ⟨rfl, rfl, fits⟩) (fun _ => stays)

theorem prepareTransactionRecords_tells (rooted : lease.Rooted)
    (idLength : transactionId.toList.length = transactionIdLength)
    (idDigits : transactionId.toList.all (fun character => lowerHexDigit character.toNat))
    (dies : ∀ left, Unprepared coding start left → died left)
    (pends : ∀ record primary left,
      Transaction coding lease record → Concerns lease start new record →
      Pending coding lease record primary left → died left) :
    Mortal (prepareTransactionRecords coding lease transactionId stages)
      disk (Prepared coding lease start new) (fun _ => Unprepared coding start) died := by
  have unprepared := staged.unprepared
  apply (serializeRecord_tells unprepared).seq
  rintro _ disk ⟨rfl, rfl, candidateFits⟩
  -- the candidate
  have beside (left : Disk) (keeps : Disk.Keeps [.next] disk left) :
      Unprepared coding start left :=
    unprepared.keeps keeps (by simp) (by simp)
  have recorded (left : Disk) (keeps : Disk.Keeps [.next] disk left) :
      Unprepared coding start (left.record (.written .next)) :=
    beside _ (keeps.record (by simp))
  apply Mortal.bind
  apply (putRecord_tells rooted unprepared.linked
    (fun left blank => dies left (beside left blank.1))
    (fun left _ _ keeps _ => dies left (beside left keeps))
    (fun left _ keeps _ => dies _ (recorded left keeps))).imply _
    (by rintro _ _ rfl; exact unprepared) (fun _ => id)
  rintro next _ ⟨first, rfl, keeps, candidate⟩
  have once := recorded first keeps
  have present : (first.record (.written .next)).leads .next = _ := candidate
  apply (recordedOpenFile_yields rooted present (dies _ once)).then
  apply (serializeRecord_tells once).seq
  rintro _ second ⟨rfl, rfl, recordFits⟩
  -- the journal
  let record := preparedRecord coding lease transactionId stages next
  let bytes := coding.encode (.prepared record)
  have transaction := preparedRecord_transaction staged rooted idLength
    idDigits candidateFits recordFits
  have concerns : Concerns lease start new record := preparedRecord_concerns staged
  have stands (left : Disk) (primary : File)
      (more : Disk.Keeps [.transaction] (first.record (.written .next)) left)
      (journal : left.leads .transaction = some (primary, lease.own bytes stageMode)) :
      Stands coding lease record primary true (fun _ => .staged) left := by
    apply preparedRecord_stands staged more.linked _ _ journal
    · exact fun committed => once.uncommitted (more.uncommitted committed)
    · intro name other journal
      rw [more.entries _ (by simpa using journal), Disk.leads_record,
        keeps.entries _ (by simpa using other)]
    · rwa [more.entries _ (by simp)]
  have pending (left : Disk) (primary : File)
      (stands : Stands coding lease record primary true (fun _ => .staged) left) :
      died left :=
    pends _ primary left transaction concerns ⟨true, _, stands, .inl ⟨rfl, fun _ => trivial⟩⟩
  have blanks (left : Disk) (blank : Blank .transaction (first.record (.written .next)) left) :
      died left := by
    refine dies left (once.unread blank.1 (by simp) fun file inode found => ?_)
    rcases blank.2 file inode found with before | empty
    · exact once.journal file inode before
    · rw [empty]
      exact decode_nil
  have parts (left : Disk) (primary : File) (extent : Nat)
      (more : Disk.Keeps [.transaction] (first.record (.written .next)) left)
      (part : left.leads .transaction = some (primary, lease.own (bytes.take extent) stageMode)) :
      died left := by
    by_cases cut : extent < bytes.length
    · refine dies left (once.unread more (by simp) fun file inode found => ?_)
      rw [part] at found
      cases found
      exact coding.decode_cut _ extent cut
    · rw [List.take_of_length_le (Nat.le_of_not_lt cut)] at part
      exact pending left primary (stands left primary more part)
  apply Mortal.bind
  apply (putRecord_tells rooted once.linked blanks parts
    (fun left primary more journal => pending _ primary
      (stands left primary more journal).record)).imply _
    (by rintro _ _ rfl; exact once) (fun _ => id)
  rintro primary _ ⟨left, rfl, more, journal⟩
  refine .pure ⟨transaction, concerns, (stands left primary more journal).record, rfl, ?_⟩
  rintro (_ | _)
  · exact staged.files .selected
  · exact staged.files .admission

end

end

end Jackin.AccountMarkers
