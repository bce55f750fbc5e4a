import Jackin.Config.Staging

/-!
# Commits that succeed or fail as a whole

While a commit carries out its journal, every staged file and its target are
in one of two states: before the rename, or after it.  The journal leads to
the new state from all of them, and that of an abort back to the old state.
So at every moment some journal, or its absence, tells the next recovery
where to go.
-/

namespace Jackin.Config

open List Foundation Script

variable {Content Digest : Type} {write : StagedWrite Content Digest}
    {delete : StagedDelete Content}

/-- One element of a list is replaced, and it was the only one of its kind. -/
theorem forall_replaced {Element Key : Type} {key : Element → Key}
    {before rest} {element replacement} {property : Element → Prop}
    (unique : ((before ++ element :: rest).map key).Nodup)
    (here : property replacement)
    (others : ∀ other ∈ before ++ element :: rest, key other ≠ key element → property other) :
    ∀ other ∈ before ++ replacement :: rest, property other := by
  rw [map_append, map_cons, nodup_middle, nodup_cons, ← map_append] at unique
  have kept : ∀ other ∈ before ++ rest, property other := by
    intro other listed
    refine others other ?_ fun same => unique.1 (same ▸ mem_map_of_mem listed)
    exact (Sublist.append_left (sublist_cons_self _ _) _).mem listed
  rw [forall_mem_append] at kept
  rw [forall_mem_append, forall_mem_cons]
  exact ⟨kept.1, here, kept.2⟩

/-! ## Staged files -/

/-- The state that was noted is the state of the target. -/
def TargetState.Describes (node : Option (Node Content)) : TargetState Content → Prop
  | .missing => node = none
  | .file content => node = some (.file content)
  | .other => True

/-- A write as it was staged on a disk. -/
structure WriteStaged (coding : Coding Content Digest)
    (start : Disk Content) (write : StagedWrite Content Digest) : Prop where
  config : ∃ name, write.target = .config name
  tmp : ∃ counter, write.tmp = .staged write.target start.pid counter ∧ counter < start.counter
  content : ∃ content, start.node? write.tmp = some (.file content) ∧
    write.expectedSha256 = coding.digest content
  original : write.original.Describes (start.node? (.published write.target))

section

variable (start : Disk Content) (writes : List (StagedWrite Content Digest))
    (deletes : List (StagedDelete Content))

structure DeleteStaged (delete : StagedDelete Content) : Prop where
  config : ∃ name, delete.target = .config name
  original : start.node? (.published delete.target) = some (.file delete.original)

/-- The targets of a commit. -/
def targets : List Published :=
  writes.map StagedWrite.target ++ deletes.map StagedDelete.target

/-- Writes and deletions as they were staged, for different targets. -/
structure StagedOn (coding : Coding Content Digest) (start : Disk Content)
    (writes : List (StagedWrite Content Digest))
    (deletes : List (StagedDelete Content)) : Prop where
  written : ∀ write ∈ writes, WriteStaged coding start write
  deleted : ∀ delete ∈ deletes, DeleteStaged start delete
  apart : (targets writes deletes).Nodup

/-- What the targets should become. -/
structure Becomes (new : ConfigName → Option (Node Content)) : Prop where
  written : ∀ write ∈ writes, ∀ name, write.target = .config name → new name = start.node? write.tmp
  deleted : ∀ delete ∈ deletes, ∀ name, delete.target = .config name → new name = none
  others : ∀ name, .config name ∉ targets writes deletes → new name = start.config? name

/-- The configuration once everything is published. -/
def newState (name : ConfigName) : Option (Node Content) :=
  match writes.find? (fun write => write.target = .config name) with
  | some write => start.node? write.tmp
  | none =>
    if .config name ∈ deletes.map StagedDelete.target then none
    else start.config? name

end

section

variable {coding : Coding Content Digest} {start disk : Disk Content}
    {new : ConfigName → Option (Node Content)}
    {writes : List (StagedWrite Content Digest)}
    {deletes : List (StagedDelete Content)}

theorem find_target (unique : (writes.map StagedWrite.target).Nodup)
    (member : write ∈ writes) (target : write.target = .config name) :
    writes.find? (fun other => other.target = .config name) = some write := by
  cases found : writes.find? (fun other => decide (other.target = .config name)) with
  | none =>
    have differs := find?_eq_none.mp found write member
    simp [target] at differs
  | some other =>
    have same : other.target = .config name := by simpa using find?_some found
    rw [inj_on_of_nodup_map unique (mem_of_find?_eq_some found) member (same.trans target.symm)]

theorem find_target_eq_none (unlisted : Published.config name ∉ writes.map StagedWrite.target) :
    writes.find? (fun other => other.target = .config name) = none := by
  rw [find?_eq_none]
  intro write written same
  exact unlisted (mem_map.mpr ⟨write, written, of_decide_eq_true same⟩)

theorem StagedOn.becomes (staged : StagedOn coding start writes deletes) :
    Becomes start writes deletes (newState start writes deletes) where
  written := by
    intro write member name target
    have unique := (nodup_append.mp staged.apart).1
    simp only [newState, find_target unique member target]
  deleted := by
    intro delete member name target
    have listed : Published.config name ∈ deletes.map StagedDelete.target :=
      target ▸ mem_map_of_mem member
    have unwritten := find_target_eq_none fun written =>
      (nodup_append.mp staged.apart).2.2 _ written _ listed rfl
    simp only [newState, unwritten, if_pos listed]
  others := by
    intro name unlisted
    have unwritten := find_target_eq_none fun written => unlisted (mem_append_left _ written)
    have undeleted : Published.config name ∉ deletes.map StagedDelete.target := fun listed =>
      unlisted (mem_append_right _ listed)
    simp only [newState, unwritten, if_neg undeleted]

/-! ## The progress of a commit -/

/-- A staged write is before or after its rename. -/
def WriteAt (start disk : Disk Content)
    (write : StagedWrite Content Digest) : Prop :=
  if write.committed then
    disk.node? write.tmp = none ∧ disk.node? (.published write.target) = start.node? write.tmp
  else
    disk.node? write.tmp = start.node? write.tmp ∧
      disk.node? (.published write.target) = start.node? (.published write.target)

/-- A staged deletion is before or after its removal. -/
def DeleteAt (start disk : Disk Content)
    (delete : StagedDelete Content) : Prop :=
  disk.node? (.published delete.target) =
    if delete.committed then none
    else start.node? (.published delete.target)

/-- Every staged file is before or after its publication. -/
structure Progress (start : Disk Content)
    (writes : List (StagedWrite Content Digest))
    (deletes : List (StagedDelete Content)) (disk : Disk Content) : Prop where
  pid : disk.pid = start.pid
  counter : start.counter ≤ disk.counter
  written : ∀ write ∈ writes, WriteAt start disk write
  deleted : ∀ delete ∈ deletes, DeleteAt start disk delete
  others : ∀ name, .config name ∉ targets writes deletes → disk.config? name = start.config? name

theorem WriteAt.beside (staged : WriteStaged coding start write)
    (holds : WriteAt start disk write) (beside : Beside file disk reached)
    (elsewhere : write.target ≠ file) : WriteAt start reached write := by
  obtain ⟨_, tmp, _⟩ := staged.tmp
  have sameTmp : reached.node? write.tmp = disk.node? write.tmp := by
    rw [tmp]
    exact beside _ elsewhere
  have sameTarget := beside (.published write.target) elsewhere
  unfold WriteAt at holds ⊢
  rwa [sameTmp, sameTarget]

theorem DeleteAt.beside (holds : DeleteAt start disk delete)
    (beside : Beside file disk reached)
    (elsewhere : delete.target ≠ file) : DeleteAt start reached delete := by
  unfold DeleteAt at holds ⊢
  rwa [beside (.published delete.target) elsewhere]

/-- What is staged, where it should lead, and how far it got. -/
structure Journaled (coding : Coding Content Digest) (start : Disk Content)
    (new : ConfigName → Option (Node Content))
    (forward : List (PublicationOp Digest))
    (writes : List (StagedWrite Content Digest))
    (deletes : List (StagedDelete Content)) (disk : Disk Content) : Prop where
  staged : StagedOn coding start writes deletes
  owned : ∀ write ∈ writes, write.recoveryOwned
  becomes : Becomes start writes deletes new
  ops : publicationOps writes deletes = forward
  progress : Progress start writes deletes disk
  journal : disk.journal? = some (.file (coding.encode ⟨publicationJournalVersion, forward⟩))

theorem about_publicationOps :
    (publicationOps writes deletes).map PublicationOp.about =
      targets writes deletes := by
  simp only [publicationOps, map_append, map_map]
  rfl

/-- The journal in place leads to the new state. -/
theorem Journaled.underway (journaled : Journaled coding start new forward writes deletes disk) :
    Underway coding new forward disk where
  journal := journaled.journal
  toward := by
    obtain ⟨staged, _, becomes, rfl, progress, _⟩ := journaled
    refine ⟨?_, ?_, ?_⟩
    · intro op listed
      rcases mem_append.mp listed with written | deleted
      · obtain ⟨write, member, rfl⟩ := mem_map.mp written
        obtain ⟨⟨name, target⟩, ⟨counter, tmp, _⟩, ⟨content, found, digest⟩,
          _⟩ := staged.written write member
        have wanted := becomes.written write member name target
        have holds := progress.written write member
        rw [found] at wanted
        refine ⟨name, start.pid, counter, content, ?_, ?_, digest.symm, wanted, ?_⟩
        · rw [target]
        · rw [tmp, target]
        · rw [WriteAt, found, target] at holds
          split at holds
          · exact .inr holds
          · exact .inl holds.1
      · obtain ⟨delete, member, rfl⟩ := mem_map.mp deleted
        obtain ⟨name, target⟩ := (staged.deleted delete member).config
        refine ⟨name, ?_, becomes.deleted delete member name target⟩
        rw [target]
    · rw [about_publicationOps]
      exact staged.apart
    · intro name unlisted
      rw [about_publicationOps] at unlisted
      rw [progress.others name unlisted, becomes.others name unlisted]

/-- A change beside nothing but a target of the commit. -/
structure Marks (target : Published) (disk reached : Disk Content) : Prop where
  beside : Beside target disk reached
  pid : reached.pid = disk.pid
  counter : reached.counter = disk.counter

theorem Marks.others (marks : Marks target disk reached)
    (progress : Progress start writes deletes disk)
    (listed : target ∈ targets writes deletes)
    (name : ConfigName) (unlisted : .config name ∉ targets writes deletes) :
    reached.config? name = start.config? name := by
  rw [← progress.others name unlisted]
  apply marks.beside
  rintro ⟨⟩
  exact unlisted listed

theorem Marks.journal (marks : Marks target disk reached)
    (config : ∃ name, target = .config name) :
    reached.journal? = disk.journal? := by
  apply marks.beside
  obtain ⟨_, rfl⟩ := config
  exact nofun

/-- One write is committed. -/
theorem Journaled.markWrite
    (journaled : Journaled coding start new forward (before ++ write :: rest) deletes disk)
    (marks : Marks write.target disk reached)
    (holds : WriteAt start reached { write with committed := true }) :
    Journaled coding start new forward (before ++ { write with committed := true } :: rest) deletes
      reached := by
  obtain ⟨staged, owned, becomes, ops, progress, journal⟩ := journaled
  have sameTargets : targets (before ++ { write with committed := true } :: rest) deletes =
        targets (before ++ write :: rest) deletes := by
    simp [targets]
  obtain ⟨unique, _, separate⟩ := nodup_append.mp staged.apart
  have here : write ∈ before ++ write :: rest := by simp
  refine ⟨⟨?_, staged.deleted, sameTargets ▸ staged.apart⟩, ?_,
    ⟨?_, becomes.deleted, sameTargets ▸ becomes.others⟩, ?_,
    ⟨marks.pid.trans progress.pid, marks.counter ▸ progress.counter, ?_, ?_, ?_⟩,
    (marks.journal (staged.written write here).config).trans journal⟩
  · exact forall_replaced unique { staged.written write here with }
      fun other listed _ => staged.written other listed
  · exact forall_replaced unique (owned write here) fun other listed _ => owned other listed
  · exact forall_replaced unique (becomes.written write here)
      fun other listed _ => becomes.written other listed
  · rw [← ops]
    simp [publicationOps, StagedWrite.op]
  · exact forall_replaced unique holds fun other listed =>
      (progress.written other listed).beside (staged.written other listed) marks.beside
  · intro delete member
    apply (progress.deleted delete member).beside marks.beside
    exact fun same => separate _ (mem_map_of_mem here) _ (mem_map_of_mem member) same.symm
  · rw [sameTargets]
    exact marks.others progress (mem_append_left _ (mem_map_of_mem here))

/-- One deletion is committed. -/
theorem Journaled.markDelete {before rest}
    (journaled : Journaled coding start new forward writes (before ++ delete :: rest) disk)
    (marks : Marks delete.target disk reached)
    (holds : DeleteAt start reached { delete with committed := true }) :
    Journaled coding start new forward writes
      (before ++ { delete with committed := true } :: rest) reached := by
  obtain ⟨staged, owned, becomes, ops, progress, journal⟩ := journaled
  have sameTargets : targets writes (before ++ { delete with committed := true } :: rest) =
        targets writes (before ++ delete :: rest) := by
    simp [targets]
  obtain ⟨_, unique, separate⟩ := nodup_append.mp staged.apart
  have here : delete ∈ before ++ delete :: rest := by simp
  refine ⟨⟨staged.written, ?_, sameTargets ▸ staged.apart⟩, owned,
    ⟨becomes.written, ?_, sameTargets ▸ becomes.others⟩, ?_,
    ⟨marks.pid.trans progress.pid, marks.counter ▸ progress.counter, ?_, ?_, ?_⟩,
    (marks.journal (staged.deleted delete here).config).trans journal⟩
  · exact forall_replaced unique { staged.deleted delete here with }
      fun other listed _ => staged.deleted other listed
  · exact forall_replaced unique (becomes.deleted delete here)
      fun other listed _ => becomes.deleted other listed
  · rw [← ops]
    simp [publicationOps, StagedDelete.op]
  · intro write member
    apply (progress.written write member).beside (staged.written write member) marks.beside
    exact separate _ (mem_map_of_mem member) _ (mem_map_of_mem here)
  · exact forall_replaced unique holds fun other listed =>
      (progress.deleted other listed).beside marks.beside
  · rw [sameTargets]
    exact marks.others progress (mem_append_right _ (mem_map_of_mem here))

theorem Journaled.recoverable (journaled : Journaled coding start new forward writes deletes disk) :
    Recoverable coding start.config? new disk :=
  journaled.underway.recoverable (.inr rfl)

/-- The rename of a staged file, seen from its target. -/
theorem Journaled.moveWrite
    (journaled : Journaled coding start new forward (before ++ write :: rest)
      deletes disk) (found : start.node? write.tmp = some node) :
    Journaled coding start new forward (before ++ { write with committed := true } :: rest) deletes
      (disk.move write.tmp (.published write.target) node) := by
  have here : write ∈ before ++ write :: rest := by simp
  obtain ⟨_, tmp, _⟩ := (journaled.staged.written write here).tmp
  have beside : Beside write.target disk (disk.move write.tmp (.published write.target) node) :=
    Beside.move disk node write.tmp (.published write.target) (by rw [tmp]; rfl)
  apply journaled.markWrite ⟨beside, rfl, rfl⟩
  refine ⟨?_, ?_⟩
  · simp [tmp]
  · simp [found]

/-- What every commit of an item keeps holds after all of them. -/
theorem commitEach_keeps {Item : Type} {rest before}
    {commit : Item → Action Content (Item × Except Failure Unit)}
    (holds : List Item → Disk Content → Prop) (ready committed : Item → Prop)
    (step : ∀ before item rest disk, ready item → holds (before ++ item :: rest) disk →
      Always stop (commit item) disk fun ended reached =>
        holds (before ++ ended.1 :: rest) reached ∧ (ended.2 = .ok () → committed ended.1))
    (all : ∀ item ∈ rest, ready item) (start : holds (before ++ rest) disk) :
    Always stop (commitEach commit rest) disk fun ended reached =>
      holds (before ++ ended.1) reached ∧
        (ended.2 = .ok () → ∀ item ∈ ended.1, committed item) := by
  induction rest generalizing before disk with
  | nil => exact .pure ⟨start, nofun⟩
  | cons item rest ih =>
    apply Steady.bind (step before item rest disk (all item mem_cons_self) start) (fun _ => id)
    rintro ⟨item, _ | _⟩ reached ⟨held, done⟩
    · exact .pure ⟨held, nofun⟩
    rw [append_cons] at held
    apply Steady.bind (ih (fun _ later => all _ (mem_cons_of_mem _ later)) held) (fun _ => id)
    rintro ⟨ended, result⟩ reached ⟨held, committed⟩
    rw [append_assoc] at held
    apply Outcomes.pure
    refine ⟨held, fun succeeded other member => ?_⟩
    rcases mem_cons.mp member with rfl | later
    · exact done rfl
    · exact committed succeeded other later

theorem Journaled.commitWrites
    (journaled : Journaled coding start new forward (before ++ rest) deletes disk)
    (uncommitted : ∀ write ∈ rest, write.committed = false) :
    Always (Recoverable coding start.config? new) (commitEach StagedWrite.commit rest) disk
      fun ended reached => Journaled coding start new forward (before ++ ended.1) deletes reached ∧
        (ended.2 = .ok () → ∀ write ∈ ended.1, write.committed) := by
  apply commitEach_keeps (Journaled coding start new forward · deletes) _ (·.committed) ?_
    uncommitted journaled
  intro before write rest disk uncommitted journaled
  have here : write ∈ before ++ write :: rest := by simp
  obtain ⟨content, found, _⟩ := (journaled.staged.written write here).content
  have present : disk.node? write.tmp = some (.file content) := by
    have holds := journaled.progress.written write here
    rw [WriteAt, uncommitted] at holds
    exact holds.1.trans found
  have moved := journaled.moveWrite found
  apply commit_moves present journaled.recoverable moved.recoverable
  · exact fun _ => ⟨journaled, nofun⟩
  · exact fun _ => ⟨moved, fun _ => rfl⟩

theorem StagedDelete.commit_removes (good : stop disk)
    (after : stop (disk.drop (.published delete.target)))
    (kept : ∀ failure, done (delete, .error failure) disk)
    (removed : ∀ result, done ({ delete with committed := true }, result)
      (disk.drop (.published delete.target))) :
    Always stop delete.commit disk done := by
  apply Always.removeFile good after
  · exact attemptSync_ends after removed
  · exact fun _ => .pure (kept _)
  · exact .pure (kept _)

theorem Journaled.commitDeletes
    (journaled : Journaled coding start new forward writes deletes disk) :
    Always (Recoverable coding start.config? new) (commitEach StagedDelete.commit deletes) disk
      fun ended reached => Journaled coding start new forward writes ended.1 reached ∧
        (ended.2 = .ok () → ∀ delete ∈ ended.1, delete.committed) := by
  rw [← nil_append deletes] at journaled
  apply commitEach_keeps (Journaled coding start new forward writes) (fun _ => True) (·.committed)
    ?_ (fun _ _ => trivial) journaled
  intro before delete rest disk _ journaled
  have removed : Journaled coding start new forward writes
      (before ++ { delete with committed := true } :: rest)
      (disk.drop (.published delete.target)) := by
    apply journaled.markDelete ⟨Beside.drop disk (.published delete.target), rfl, rfl⟩
    simp [DeleteAt]
  apply StagedDelete.commit_removes journaled.recoverable removed.recoverable
  · exact fun _ => ⟨journaled, nofun⟩
  · exact fun _ => ⟨removed, fun _ => rfl⟩

end

end Jackin.Config
