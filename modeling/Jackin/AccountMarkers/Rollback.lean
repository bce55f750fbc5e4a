import Jackin.AccountMarkers.Steps

/-!
# Rolling a marker back

While a prepared transaction is under way, a marker and its stage are in one
of few phases: the stage is beside the old marker, or gone, or its inode is
the marker and has the new bytes, a beginning of the old ones, or all of them
and the old mode.  Restoring a marker leads through them to a complete old
value and changes nothing under other names.
-/

namespace Jackin.AccountMarkers

open List Foundation Script

variable {bytes old : Bytes} {mode : Nat} {original : RecordedFile}

/-- A record of a file of the user with the given bytes and mode. -/
def MarkerPairLease.Records (lease : MarkerPairLease)
    (recorded : RecordedFile) (bytes : Bytes) (mode : Nat) : Prop :=
  recorded = .fromStat (lease.stat recorded.inode (lease.own bytes mode))

section

variable {lease : MarkerPairLease}

theorem matches_own (records : lease.Records recorded bytes mode) :
    recorded.matches (lease.stat file (lease.own found bits)) ↔
      recorded.inode = file ∧ mode = bits ∧ bytes.length = found.length := by
  rw [records]
  simp only [RecordedFile.matches, EntryStat.isRegular, Bool.and_eq_true, decide_eq_true_eq]
  simp [RecordedFile.fromStat, MarkerPairLease.stat, MarkerPairLease.own, and_assoc]

theorem sameInode_own (records : lease.Records recorded bytes mode)
    (file : File) (found : Bytes) (bits : Nat) :
    recorded.sameInode (lease.stat file (lease.own found bits)) ↔
      file = recorded.inode := by
  rw [records]
  simp only [RecordedFile.sameInode, EntryStat.isRegular, Bool.and_eq_true, decide_eq_true_eq]
  simp [RecordedFile.fromStat, MarkerPairLease.stat, MarkerPairLease.own]

end

/-! ## Phases -/

section

variable (lease : MarkerPairLease)

def OldValue.leads : OldValue → Option (File × Inode)
  | .absent => none
  | .present bytes original => some (original.inode, lease.own bytes original.mode)

/-- What a prepared record says about a marker is right. -/
structure PreparedMarker.Valid (transactionId : String) (role : Role)
    (marker : PreparedMarker) : Prop where
  name : marker.name = .marker role
  stageName : marker.stageName = .stage transactionId role
  length : marker.newBytes.length = 64
  digits : marker.newBytes.all (fun byte => lowerHexDigit byte.toNat)
  stage : lease.Records marker.stage marker.newBytes stageMode
  old : ∀ bytes original, marker.old = .present bytes original →
    lease.Records original bytes original.mode ∧
    bytes.length ≤ maxOldValue ∧ original.mode ≤ 0o777 ∧
    lease.permits .regular lease.euid original.mode .readOnly ∧
    original.inode ≠ marker.stage.inode

/-- How far the replacement of a marker has come. -/
inductive Phase where
  /-- The old marker is in place, and the stage beside it. -/
  | staged
  /-- The old marker is in place, and the stage gone. -/
  | cleared
  /-- The inode of the stage is the marker. -/
  | installed (bytes : Bytes) (mode : Nat)

/-- The entries of a marker and its stage in a phase. -/
def Holds (marker : PreparedMarker) (disk : Disk) : Phase → Prop
  | .staged =>
    disk.leads marker.name = marker.old.leads lease ∧
    disk.leads marker.stageName = some (marker.stage.inode, lease.own marker.newBytes stageMode)
  | .cleared =>
    disk.leads marker.name = marker.old.leads lease ∧
    disk.leads marker.stageName = none
  | .installed bytes mode =>
    disk.leads marker.name = some (marker.stage.inode, lease.own bytes mode) ∧
    disk.leads marker.stageName = none

end

theorem Holds.congr (holds : Holds lease marker disk phase)
    (entry : reached.leads marker.name = disk.leads marker.name)
    (stage : reached.leads marker.stageName =
      disk.leads marker.stageName) : Holds lease marker reached phase := by
  cases phase <;> simpa only [Holds, entry, stage] using holds

section

variable (marker : PreparedMarker)

/-- The phases on the way from the installed stage back to the old value. -/
def Rolling : Phase → Prop
  | .staged => True
  | .cleared => marker.old = .absent
  | .installed bytes mode =>
    match marker.old with
    | .absent => bytes = marker.newBytes ∧ mode = stageMode
    | .present old original =>
      (mode = stageMode ∧ (bytes = marker.newBytes ∨ bytes <+: old)) ∨
        (mode = original.mode ∧ bytes = old)

/-- The phases with the complete old value. -/
def Complete : Phase → Prop
  | .staged | .cleared => True
  | .installed bytes mode => ∃ original, marker.old = .present bytes original ∧ mode = original.mode

/-- How a phase is classified. -/
def Phase.state : Phase → MarkerState
  | .staged | .cleared =>
    match marker.old with
    | .absent => .oldAbsent
    | .present _ _ => .originalOld
  | .installed bytes mode =>
    match marker.old with
    | .absent => .installedNewForAbsent
    | .present old original =>
      if bytes = old then if mode = original.mode then .restoredOld else .restoredBytes
      else if bytes = marker.newBytes then .installedNew
      else .restoringOld

end

section

variable {marker : PreparedMarker} {phase : Phase} {died : Disk → Prop}

theorem complete_iff_state (known : Rolling marker phase ∨ Complete marker phase) :
    isCompleteOldState (phase.state marker) ↔ Complete marker phase := by
  cases old : marker.old with
  | absent => cases phase <;> simp [Phase.state, Complete, isCompleteOldState, old]
  | present bytes original =>
    cases phase with
    | staged | cleared => simp [Phase.state, Complete, isCompleteOldState, old]
    | installed found mode =>
      simp only [Phase.state, Complete, old, OldValue.present.injEq]
      constructor
      · intro complete
        split at complete
        · split at complete
          · exact ⟨original, ⟨by simp_all, rfl⟩, by assumption⟩
          · cases complete
        · split at complete <;> cases complete
      · rintro ⟨_, ⟨rfl, rfl⟩, rfl⟩
        simp [isCompleteOldState]

/-- A beginning of the old bytes in the inode of the stage. -/
theorem rolling_part (before : marker.old = .present old original)
    (begins : part <+: old) :
    Rolling marker (.installed part stageMode) := by
  simp only [Rolling, before]
  exact .inl ⟨trivial, .inr begins⟩

theorem rolling_old (before : marker.old = .present old original) :
    Rolling marker (.installed old original.mode) := by
  simp only [Rolling, before]
  exact .inr ⟨trivial, trivial⟩

/-- A recorded file is opened under its name. -/
theorem openVerified_yields (rooted : lease.Rooted)
    (records : lease.Records recorded bytes mode)
    (present : disk.leads name = some (recorded.inode, lease.own bytes mode))
    (permitted : lease.permits .regular lease.euid mode access)
    (here : died disk) :
    Yields died (openVerified lease name recorded access) disk recorded.inode disk := by
  apply (openEntry_yields rooted here present permitted).then
  have verified : Yields died (verifyOpenIdentity lease name recorded.inode
      recorded) disk () disk := by
    apply (fstat_yields present here).then
    apply Mortal.passed ((matches_own records).2 ⟨rfl, rfl, rfl⟩)
    exact ensureFileNameMatches_yields rooted here present
  exact verified.then Yields.pure

variable (rooted : lease.Rooted) (valid : marker.Valid lease transactionId role)
    (here : died disk)
include valid

theorem short_new : marker.newBytes.length ≤ maxOldValue := by
  rw [valid.length]
  decide

/-- An installed marker fits and can be read. -/
theorem Rolling.legible
    (known : Rolling marker (.installed bytes mode) ∨
      Complete marker (.installed bytes mode)) :
    bytes.length ≤ maxOldValue ∧
      lease.permits .regular lease.euid mode .readOnly := by
  have new := short_new valid
  have staged : lease.permits .regular lease.euid stageMode .readOnly :=
    permits_stage .readOnly
  cases old : marker.old with
  | absent =>
    simp only [Rolling, Complete, old] at known
    rcases known with ⟨rfl, rfl⟩ | ⟨_, impossible, _⟩
    · exact ⟨new, staged⟩
    · cases impossible
  | present before original =>
    obtain ⟨_, short, _, readable, _⟩ := valid.old before original old
    simp only [Rolling, Complete, old] at known
    rcases known with (⟨rfl, rfl | part⟩ | ⟨rfl, rfl⟩) | ⟨_, ⟨rfl, rfl⟩, rfl⟩
    · exact ⟨new, staged⟩
    · exact ⟨Nat.le_trans part.length_le short, staged⟩
    · exact ⟨short, readable⟩
    · exact ⟨short, readable⟩

theorem classifyPresent_installed (before : marker.old = .present old original)
    (known : Rolling marker (.installed bytes mode) ∨ Complete marker (.installed bytes mode)) :
    Yields died (classifyPresent marker old original
        ⟨lease.stat marker.stage.inode (lease.own bytes mode), bytes⟩)
      disk ((Phase.installed bytes mode).state marker) disk := by
  obtain ⟨records, _, _, _, apart⟩ := valid.old old original before
  have foreign : ¬(original.matches
      (lease.stat marker.stage.inode (lease.own bytes mode)) ∧ bytes = old) := by
    rw [matches_own records]
    exact fun same => apart same.1.1
  have inode : marker.stage.sameInode
      (lease.stat marker.stage.inode (lease.own bytes mode)) :=
    (sameInode_own valid.stage _ _ _).2 rfl
  simp only [classifyPresent, foreign]
  apply Mortal.passed inode
  simp only [Rolling, Complete] at known
  simp only [Phase.state, before]
  change Mortal (if bytes = old then
      if mode = original.mode then _ else if mode = stageMode then _ else _
    else if bytes = marker.newBytes ∧ mode = stageMode then _
    else if bytes.length < old.length ∧ bytes.isPrefixOf old ∧
      mode = stageMode then _ else _) _ _ _ _
  by_cases restored : bytes = old
  · rw [if_pos restored, if_pos restored]
    by_cases turned : mode = original.mode
    · rw [if_pos turned, if_pos turned]
      exact Yields.pure
    · have staged : mode = stageMode := by grind
      rw [if_neg turned, if_neg turned, if_pos staged]
      exact Yields.pure
  · rw [if_neg restored, if_neg restored]
    have staged : mode = stageMode := by grind
    by_cases new : bytes = marker.newBytes
    · rw [if_pos ⟨new, staged⟩, if_pos new]
      exact Yields.pure
    · have part : bytes <+: old := by grind
      have shorter : bytes.length < old.length :=
        Nat.lt_of_le_of_ne part.length_le fun equal => restored (part.eq_of_length equal)
      rw [if_neg (fun both => new both.1), if_neg new,
        if_pos ⟨shorter, isPrefixOf_iff_prefix.2 part, staged⟩]
      exact Yields.pure

theorem names_differ : marker.stageName ≠ marker.name := by
  rw [valid.name, valid.stageName]
  exact EntryName.noConfusion

/-- A change of the installed inode. -/
theorem Holds.change (holds : Holds lease marker disk (.installed bytes mode))
    (linked : disk.Linked)
    (changes : update (lease.own bytes mode) = lease.own found bits) :
    Holds lease marker (disk.change marker.stage.inode update) (.installed found bits) := by
  have entries := Disk.leads_change linked holds.1 rfl update
  constructor
  · rw [entries, if_pos rfl, changes]
  · rw [entries, if_neg (names_differ valid), holds.2]

include rooted here

theorem classify_yields (holds : Holds lease marker disk phase)
    (known : Rolling marker phase ∨ Complete marker phase) :
    Yields died (classifyPreparedMarker lease marker) disk (phase.state marker) disk := by
  cases before : marker.old with
  | absent =>
    cases phase with
    | staged | cleared =>
      simp only [Holds, before] at holds
      apply (observeOptional_absent rooted here holds.1).then
      simp only [before, Phase.state]
      exact Yields.pure
    | installed bytes mode =>
      obtain ⟨fits, readable⟩ := Rolling.legible valid known
      apply (observeOptional_present rooted here holds.1 fits readable).then
      simp only [Rolling, Complete, before] at known
      rcases known with ⟨rfl, rfl⟩ | ⟨_, impossible, _⟩
      · simp only [before, Phase.state]
        rw [if_pos ⟨(matches_own valid.stage).2 ⟨rfl, rfl, rfl⟩, trivial, rfl⟩]
        exact Yields.pure
      · cases impossible
  | present bytes original =>
    obtain ⟨records, short, _, readable, _⟩ := valid.old bytes original before
    cases phase with
    | staged | cleared =>
      simp only [Holds, before] at holds
      apply (observeOptional_present rooted here holds.1 short readable).then
      simp only [before, Phase.state, classifyPresent]
      rw [if_pos ⟨(matches_own records).2 ⟨rfl, rfl, rfl⟩, trivial⟩]
      exact Yields.pure
    | installed found mode =>
      obtain ⟨fits, readable⟩ := Rolling.legible valid known
      apply (observeOptional_present rooted here holds.1 fits readable).then
      simp only [before]
      exact classifyPresent_installed valid before known

/-! ## Restoring a marker -/

section

variable (holds : Holds lease marker disk (.installed bytes mode))
include holds

theorem verifyTransactionFileState_yields :
    Yields died (verifyTransactionFileState lease marker.name marker.stage.inode
        marker.stage mode bytes.length) disk () disk := by
  apply (fstat_yields holds.1 here).then
  have same := (sameInode_own valid.stage marker.stage.inode bytes mode).2 rfl
  apply Mortal.passed (by rw [same]; simp [MarkerPairLease.stat, MarkerPairLease.own])
  exact ensureFileNameMatches_yields rooted here holds.1

theorem verifyRestoredValue_yields (fits : bytes.length ≤ maxOldValue)
    (readable : lease.permits .regular lease.euid mode .readOnly) :
    Yields died (verifyRestoredValue lease marker.name marker.stage bytes mode) disk () disk := by
  apply (observeRequired_present rooted here holds.1 fits readable).then
  apply Mortal.passed ((sameInode_own valid.stage _ _ _).2 rfl)
  exact Mortal.passed rfl (Yields.ensure ⟨rfl, rfl⟩)

end

theorem settleRestored_yields (before : marker.old = .present old original)
    (holds : Holds lease marker disk (.installed old original.mode)) :
    Yields died (settleRestored lease marker marker.stage.inode old original.mode)
      disk () disk := by
  obtain ⟨_, short, _, readable, _⟩ := valid.old old original before
  apply (syncFile_yields rooted here).then
  apply (syncRoot_yields rooted here).then
  exact verifyRestoredValue_yields rooted valid here holds short readable

theorem openStageState_yields (holds : Holds lease marker disk (.installed bytes mode))
    (permitted : lease.permits .regular lease.euid mode access) :
    Yields died (openStageState lease marker.name marker.stage mode
      bytes.length access) disk marker.stage.inode disk := by
  apply (openEntry_yields rooted here holds.1 permitted).then
  exact (verifyTransactionFileState_yields rooted valid here holds).then Yields.pure

/-- A complete old value is left as it is. -/
theorem restore_complete (holds : Holds lease marker disk phase)
    (complete : Complete marker phase) :
    Yields died (restorePreparedMarker lease marker (phase.state marker)) disk () disk := by
  cases phase with
  | staged | cleared =>
    cases before : marker.old with
    | absent =>
      simp only [restorePreparedMarker, Phase.state, before]
      exact .pure
    | present bytes original =>
      obtain ⟨records, _, _, readable, _⟩ := valid.old bytes original before
      simp only [Holds, before] at holds
      simp only [restorePreparedMarker, Phase.state, before]
      apply (openVerified_yields rooted records holds.1 readable here).then
      exact (syncFile_yields rooted here).then (syncRoot_yields rooted here)
  | installed bytes mode =>
    obtain ⟨original, before, rfl⟩ := complete
    obtain ⟨_, _, _, readable, _⟩ := valid.old bytes original before
    simp only [restorePreparedMarker, Phase.state, before]
    apply (openStageState_yields rooted valid here holds readable).then
    exact settleRestored_yields rooted valid here before holds

theorem openRestoringPrefix_yields
    (holds : Holds lease marker disk (.installed part stageMode))
    (short : old.length ≤ maxOldValue)
    (begins : part <+: old) (shorter : part.length < old.length) :
    Yields died (openRestoringPrefix lease marker.name marker.stage old) disk
      marker.stage.inode disk := by
  have reads : (readToEnd marker.stage.inode (maxOldValue + 1)).complete disk =
      (.ok part, disk) := by
    simp only [readToEnd, Volume.node_of_entry holds.1, MarkerPairLease.own]
    rw [take_of_length_le (by omega)]
  have same := (sameInode_own valid.stage marker.stage.inode part stageMode).2 rfl
  apply (openEntry_yields rooted here holds.1 (permits_stage _)).then
  apply (fstat_yields holds.1 here).then
  apply (Yields.ensure (by
    rw [same]; simp [MarkerPairLease.stat, MarkerPairLease.own, shorter])).then
  apply (withContext_yields (look_yields rfl reads here)).then
  apply Mortal.passed ⟨rfl, shorter, isPrefixOf_iff_prefix.2 begins⟩
  apply (fstat_yields holds.1 here).then
  apply Mortal.passed rfl
  exact (ensureFileNameMatches_yields rooted here holds.1).then Yields.pure

/-- A world that a restore may leave behind. -/
def Restoring (lease : MarkerPairLease) (marker : PreparedMarker)
    (disk left : Disk) : Prop :=
  Disk.Keeps [marker.name] disk left ∧ ∃ phase, Rolling marker phase ∧ Holds lease marker left phase

/-- The marker has its complete old value again. -/
def Restored (lease : MarkerPairLease) (marker : PreparedMarker)
    (disk reached : Disk) : Prop :=
  Disk.Keeps [marker.name] disk reached ∧
    ∃ phase, Rolling marker phase ∧ Complete marker phase ∧ Holds lease marker reached phase

variable (linked : disk.Linked)
    (dies : ∀ left, Restoring lease marker disk left → died left)
include linked dies

theorem setOldMode_yields (before : marker.old = .present old original)
    (holds : Holds lease marker disk (.installed old mode)) :
    ∃ reached, Yields died (lease.setFileMode marker.stage.inode original.mode) disk () reached ∧
      Holds lease marker reached (.installed old original.mode) ∧
      Disk.Keeps [marker.name] disk reached := by
  have bits := (valid.old old original before).2.2.1
  have turned : Holds lease marker
      (disk.change marker.stage.inode fun inode => { inode with permissions := original.mode })
      (.installed old original.mode) := holds.change valid linked rfl
  have keeps := Disk.Keeps.change linked holds.1 rfl fun inode =>
    { inode with permissions := original.mode }
  refine ⟨_, setFileMode_yields rooted here bits ?_, turned, keeps⟩
  exact dies _ ⟨keeps, _, rolling_old before, turned⟩

theorem restoreOldBytes_yields (before : marker.old = .present old original)
    (holds : Holds lease marker disk (.installed bytes stageMode)) :
    ∃ reached, Yields died (restoreOldBytes lease marker marker.stage.inode old
        original.mode) disk () reached ∧
      Holds lease marker reached (.installed old original.mode) ∧
      Disk.Keeps [marker.name] disk reached := by
  -- first the inode is emptied
  let emptied := disk.change marker.stage.inode fun inode => { inode with bytes := [] }
  have empty : Holds lease marker emptied (.installed [] stageMode) :=
    holds.change valid linked rfl
  have emptying : Disk.Keeps [marker.name] disk emptied :=
    .change linked holds.1 rfl _
  -- then a beginning of the old bytes is written
  have part (extent : Nat) : Holds lease marker
      (emptied.change marker.stage.inode (overwrite (old.take extent)))
      (.installed (old.take extent) stageMode) := by
    apply empty.change valid emptying.linked
    simp [overwrite, MarkerPairLease.own]
  have writing (extent : Nat) : Disk.Keeps [marker.name] disk
      (emptied.change marker.stage.inode (overwrite (old.take extent))) :=
    emptying.trans (.change emptying.linked empty.1 rfl _)
  -- until all of them are there
  let filled := (emptied.change marker.stage.inode (overwrite old)).record (.written marker.name)
  have full : Holds lease marker filled (.installed old stageMode) := by
    have all := part old.length
    rwa [take_length] at all
  have filling : Disk.Keeps [marker.name] disk filled := by
    have all := (writing old.length).record
      (show marker.name ≠ .transaction by rw [valid.name]; simp)
    rwa [take_length] at all
  have filled_dies : died filled :=
    dies _ ⟨filling, _, rolling_part before (prefix_refl old), full⟩
  have beginning {reached : Disk} (rest : Yields died (do
        if original.mode ≠ stageMode then lease.setFileMode marker.stage.inode original.mode
        settleRestored lease marker marker.stage.inode old original.mode)
        filled () reached) :
      Yields died (restoreOldBytes lease marker marker.stage.inode old
        original.mode) disk () reached := by
    apply (ensureFileNameMatches_yields rooted here holds.1).then
    have emptied_dies : died emptied :=
      dies _ ⟨emptying, _, rolling_part before nil_prefix, empty⟩
    apply (guarded_yields rooted rfl (fun _ => here) emptied_dies).then
    apply (withContext_yields (.perform rfl _ filled_dies)).then
    · exact (verifyTransactionFileState_yields rooted valid filled_dies full).then rest
    · intro extent
      exact dies _ ⟨writing extent, _, rolling_part before ( take_prefix _ _), part extent⟩
  by_cases same : original.mode = stageMode
  · have turned : Holds lease marker filled (.installed old original.mode) := same ▸ full
    refine ⟨filled, beginning ?_, turned, filling⟩
    simp only [ne_eq, same]
    rw [← same]
    exact settleRestored_yields rooted valid filled_dies before turned
  · obtain ⟨reached, turns, turned, turning⟩ :=
      setOldMode_yields rooted valid filled_dies filling.linked
        (fun left kept => dies left ⟨filling.trans kept.1, kept.2⟩) before full
    refine ⟨reached, beginning ?_, turned, filling.trans turning⟩
    simp only [ne_eq, same]
    apply turns.then
    apply settleRestored_yields rooted valid _ before turned
    exact dies _ ⟨filling.trans turning, _, rolling_old before, turned⟩

/-- A new marker is taken away where there was none. -/
theorem restore_absent (before : marker.old = .absent)
    (holds : Holds lease marker disk (.installed marker.newBytes stageMode)) :
    ∃ reached, Yields died (restorePreparedMarker lease marker .installedNewForAbsent) disk ()
      reached ∧ Restored lease marker disk reached := by
  let removed := disk.unlink marker.name marker.stage.inode
  have entries := Disk.leads_unlink linked holds.1 rfl
  have keeps : Disk.Keeps [marker.name] disk removed := .unlink linked holds.1 rfl
  have cleared : Holds lease marker removed .cleared := by
    constructor
    · rw [entries, if_pos rfl, before]
      rfl
    · rw [entries, if_neg (names_differ valid), holds.2]
  have removed_dies : died removed := dies _ ⟨keeps, .cleared, before, cleared⟩
  refine ⟨removed, ?_, keeps, .cleared, before, trivial, cleared⟩
  simp only [restorePreparedMarker, before]
  apply (openVerified_yields rooted valid.stage holds.1 (permits_stage _) here).then
  apply (ensureFileNameMatches_yields rooted here holds.1).then
  apply (unlinkEntry_yields rooted here holds.1 (by exact EntryKind.noConfusion) removed_dies).then
  exact syncRoot_yields rooted removed_dies

/-- The old value is put into the inode of the stage. -/
theorem restore_present (before : marker.old = .present old original)
    (holds : Holds lease marker disk (.installed bytes mode))
    (rolling : Rolling marker (.installed bytes mode)) :
    ∃ reached, Yields died (restorePreparedMarker lease marker
        ((Phase.installed bytes mode).state marker)) disk () reached ∧
      Restored lease marker disk reached := by
  have complete : Complete marker (.installed old original.mode) :=
    ⟨original, before, rfl⟩
  by_cases finished : mode = original.mode ∧ bytes = old
  · obtain ⟨rfl, rfl⟩ := finished
    exact ⟨disk, restore_complete rooted valid here holds complete,
      Disk.Keeps.refl linked, _, rolling, complete, holds⟩
  · obtain ⟨rfl, part⟩ : mode = stageMode ∧ (bytes = marker.newBytes ∨ bytes <+: old) := by
      simp only [Rolling, before] at rolling
      exact rolling.resolve_right finished
    by_cases whole : bytes = old
    · subst whole
      have turned : stageMode ≠ original.mode := fun same => finished ⟨same, rfl⟩
      obtain ⟨reached, turns, restored, keeps⟩ :=
        setOldMode_yields rooted valid here linked dies before holds
      refine ⟨reached, ?_, keeps, _, rolling_old before, complete, restored⟩
      simp only [restorePreparedMarker, Phase.state, before, if_neg turned]
      apply (openStageState_yields rooted valid here holds (permits_stage _)).then
      apply (ensureFileNameMatches_yields rooted here holds.1).then
      apply turns.then
      apply settleRestored_yields rooted valid _ before restored
      exact dies _ ⟨keeps, _, rolling_old before, restored⟩
    · obtain ⟨reached, restores, restored, keeps⟩ :=
        restoreOldBytes_yields rooted valid here linked dies before holds
      refine ⟨reached, ?_, keeps, _, rolling_old before, complete, restored⟩
      by_cases new : bytes = marker.newBytes
      · subst new
        simp only [restorePreparedMarker, Phase.state, before, if_neg whole]
        exact (openVerified_yields rooted valid.stage holds.1 (permits_stage _) here).then restores
      · have begins := part.resolve_left new
        have shorter : bytes.length < old.length :=
          Nat.lt_of_le_of_ne begins.length_le fun equal => whole (begins.eq_of_length equal)
        simp only [restorePreparedMarker, Phase.state, before, if_neg new, if_neg whole]
        exact (openRestoringPrefix_yields rooted valid here holds
          (valid.old old original before).2.1 begins shorter).then restores

theorem restore_rolling (holds : Holds lease marker disk phase)
    (rolling : Rolling marker phase) :
    ∃ reached,
      Yields died (restorePreparedMarker lease marker (phase.state marker)) disk () reached ∧
      Restored lease marker disk reached := by
  cases phase with
  | staged | cleared =>
    exact ⟨disk, restore_complete rooted valid here holds trivial,
      Disk.Keeps.refl linked, _, rolling, trivial, holds⟩
  | installed bytes mode =>
    cases before : marker.old with
    | absent =>
      simp only [Rolling, before] at rolling
      obtain ⟨rfl, rfl⟩ := rolling
      simp only [Phase.state, before]
      exact restore_absent rooted valid here linked dies before holds
    | present old original =>
      exact restore_present rooted valid here linked dies before holds rolling

end

end Jackin.AccountMarkers
