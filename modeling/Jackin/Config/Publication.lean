import Jackin.Config.Abort

/-!
# All or nothing

A commit of staged configuration files may fail or be cut off anywhere, and
so may every recovery after it.  Whatever happens, a recovery that succeeds
leaves all targets as they were before the commit, or all of them as they
were staged.
-/

namespace Jackin.Config

open List Foundation Script

variable {Content Digest : Type} {coding : Coding Content Digest}
    {start disk : Disk Content}
    {old new : ConfigName → Option (Node Content)}
    {forward : List (PublicationOp Digest)}
    {writes : List (StagedWrite Content Digest)}
    {deletes : List (StagedDelete Content)}
    {stop : Disk Content → Prop}

/-! ## Letting go of staged files -/

/-- The temporary file goes when the staged write does. -/
def StagedWrite.Released (write : StagedWrite Content Digest) : Prop :=
  write.recoveryOwned = false ∧ write.committed = false

/-- Only files of staged writes that were let go may be missing. -/
def Spares (writes : List (StagedWrite Content Digest))
    (first second : Disk Content) : Prop :=
  ∀ name, (∀ write ∈ writes, write.Released → name ≠ write.tmp) →
    second.node? name = first.node? name

/-- The staged writes can be let go from here. -/
def Releasable (stop : Disk Content → Prop)
    (writes : List (StagedWrite Content Digest)) (disk : Disk Content) : Prop :=
  ∀ later, Spares writes disk later → stop later

theorem Spares.refl : Spares writes disk disk := fun _ _ => rfl

theorem Spares.drop
    (spares : Spares writes disk reached) (member : write ∈ writes)
    (released : write.Released) :
    Spares writes disk (reached.drop write.tmp) := by
  intro name kept
  rw [Disk.node?_drop, if_neg (kept write member released)]
  exact spares name kept

theorem releaseAll_spares
    (spares : Spares writes disk reached)
    (within : ∀ write ∈ left, write ∈ writes) :
    Always (Spares writes disk) (releaseAll left) reached (fun _ => Spares writes disk) := by
  induction left generalizing reached with
  | nil => exact .pure spares
  | cons write rest ih =>
    have within' : ∀ other ∈ rest, other ∈ writes :=
      fun other later => within other (mem_cons_of_mem _ later)
    apply Outcomes.bind
    unfold StagedWrite.release
    split
    · rename_i released
      have dropped := spares.drop (within write mem_cons_self) released
      exact Always.removeFile spares dropped (.pure (ih dropped within'))
        (fun _ => .pure (ih spares within')) (.pure (ih spares within'))
    · exact .pure (ih spares within')

theorem Releasable.here (releasable : Releasable stop writes disk) : stop disk :=
  releasable disk Spares.refl

/-- Published files are never let go. -/
theorem Spares.published (staged : StagedOn coding start writes deletes)
    (spares : Spares writes disk reached) (file : Published) :
    reached.node? (.published file) = disk.node? (.published file) := by
  apply spares
  intro write member _ named
  obtain ⟨_, tmp, _⟩ := (staged.written write member).tmp
  rw [tmp] at named
  cases named

theorem Ended.published (ended : Ended old new disk)
    (same : ∀ file, reached.node? (.published file) =
      disk.node? (.published file)) : Ended old new reached where
  journal := (same .journal).trans ended.journal
  has := by
    refine ended.has.imp ?_ ?_ <;> intro has name
    · exact (same _).trans (has name)
    · exact (same _).trans (has name)

theorem Recoverable.congr (recoverable : Recoverable coding old new disk)
    (same : ∀ name, reached.node? name = disk.node? name) :
    Recoverable coding old new reached := by
  rcases recoverable with ended | ⟨ops, underway⟩
  · exact .inl (ended.published fun _ => same _)
  · have alike : Alike ops disk reached := ⟨fun _ => same _, fun _ _ => same _⟩
    exact .inr ⟨ops, underway.imp (·.alike alike) (·.alike alike)⟩

/-- Nothing is let go that a recovery has to take over. -/
theorem Releasable.owned (owned : ∀ write ∈ writes, write.recoveryOwned)
    (recoverable : Recoverable coding old new disk) :
    Releasable (Recoverable coding old new) writes disk := by
  intro later spares
  apply recoverable.congr
  intro name
  apply spares
  intro write member released
  have unowned := released.1
  rw [owned write member] at unowned
  cases unowned

section

variable (staged : StagedOn coding start writes deletes)
include staged

/-- Without a journal no temporary file is needed. -/
theorem Releasable.ended (ended : Ended old new disk) :
    Releasable (Recoverable coding old new) writes disk :=
  fun _ spares => .inl (ended.published (spares.published staged))

/-- The way back has temporary files of its own. -/
theorem Releasable.back (underway : Underway coding old ops disk)
    (fresh : ∀ tmp ∈ ops.filterMap PublicationOp.tmp?, ∀ write ∈ writes, tmp ≠ write.tmp) :
    Releasable (Recoverable coding old new) writes disk := by
  intro later spares
  have alike : Alike ops disk later :=
    ⟨spares.published staged, fun tmp listed =>
      spares tmp fun write member _ => fresh tmp listed write member⟩
  exact (underway.alike alike).recoverable (.inl rfl)

theorem StagedOn.owned :
    StagedOn coding start (writes.map (StagedWrite.owned owner)) deletes where
  written := by
    intro write member
    obtain ⟨original, listed, rfl⟩ := mem_map.mp member
    exact { staged.written original listed with }
  deleted := staged.deleted
  apart := by
    have same : targets (writes.map (StagedWrite.owned owner)) deletes =
        targets writes deletes := by
      simp only [targets, map_map]
      rfl
    rw [same]
    exact staged.apart

end

theorem Underway.applyEach [DecidableEq Digest]
    (underway : Underway coding goal ops disk)
    (within : ∀ op ∈ left, op ∈ ops) :
    Always (Underway coding goal ops) (applyEach coding left) disk
      (fun failures reached => Underway coding goal ops reached ∧
        (failures = [] → DoneBut goal ops left disk → DoneBut goal ops [] reached)) := by
  induction left generalizing disk with
  | nil => exact .pure ⟨underway, fun _ => id⟩
  | cons op rest ih =>
    have member := within op mem_cons_self
    have within' : ∀ other ∈ rest, other ∈ ops :=
      fun other later => within other (mem_cons_of_mem _ later)
    apply Steady.attempt (underway.applyOp member) (fun _ => id)
    · intro _ applied effect
      apply (ih effect.underway within').imply
      · rintro failures reached ⟨underway, done⟩
        exact ⟨underway, fun clean doneBut => done clean (effect.doneBut member doneBut)⟩
      · exact fun _ _ => id
      · exact fun _ => id
    · intro failure reached underway
      apply Steady.bind (ih underway within') (fun _ => id)
      rintro failures later ⟨underway, _⟩
      exact Outcomes.pure ⟨underway, fun clean => absurd clean (cons_ne_nil _ _)⟩

/-- The journal that leads back is carried out as far as possible. -/
theorem Underway.rollBack [DecidableEq Digest]
    (staged : StagedOn coding start writes deletes)
    (underway : Underway coding old ops disk)
    (fresh : ∀ tmp ∈ ops.filterMap PublicationOp.tmp?, ∀ write ∈ writes, tmp ≠ write.tmp) :
    Always (Recoverable coding old new) (rollBack coding writes ops cause) disk (fun commit =>
        Releasable (Recoverable coding old new) commit.writes) := by
  apply Steady.bind (underway.applyEach (fun _ => id))
    (fun _ underway => underway.recoverable (.inl rfl))
  rintro failures reached ⟨underway, done⟩
  have back : Releasable (Recoverable coding old new) writes reached :=
    Releasable.back staged underway fresh
  split
  · rename_i clean
    have has := underway.toward.has (done (isEmpty_iff.mp clean) (fun _ => .inl))
    have ended : Ended old new (reached.drop (.published .journal)) :=
      ⟨by simp [Disk.journal?], .inl has.drop_journal⟩
    have removal : Always (Releasable (Recoverable coding old new) writes)
        removePublicationJournal reached
        (fun _ => Releasable (Recoverable coding old new) writes) := by
      apply Underway.removeJournal back (.ended staged ended)
      · rw [underway.journal]
        rintro ⟨⟩
      · exact .ended staged ended
    apply Steady.attempt removal (fun _ releasable => releasable.here)
    · exact fun _ _ releasable => .pure releasable
    · exact fun _ _ releasable => .pure releasable
  · exact .pure back

/-! ## The whole commit -/

theorem Always.syncStagedParents (good : stop disk) (holds : done () disk) :
    Always stop (syncStagedParents synced writes) disk done := by
  induction writes generalizing synced with
  | nil => exact .pure holds
  | cons write rest ih =>
    unfold Config.syncStagedParents
    split
    · exact ih
    · exact Outcomes.bind (Always.syncParent good ih)

/-- Staged files of an abort that are let go disturb nothing. -/
theorem releaseAll_grows {staged : List (StagedWrite Content Digest)}
    (reserved : ∀ write ∈ staged, start.Reserves write.tmp)
    (grown : Grown start disk) :
    Always (Grown start) (releaseAll staged) disk (fun _ => Grown start) := by
  induction staged generalizing disk with
  | nil => exact .pure grown
  | cons write rest ih =>
    apply Steady.bind (release_grows grown (reserved write mem_cons_self)) (fun _ => id)
    intro _ reached grown
    exact ih (fun other later => reserved other (mem_cons_of_mem _ later)) grown

section

variable (journaled : Journaled coding start new forward writes deletes disk)
include journaled

theorem Journaled.releasable :
    Releasable (Recoverable coding start.config? new) writes disk :=
  Releasable.owned journaled.owned journaled.recoverable

theorem Journaled.publishRestores [DecidableEq Digest]
    (restored : Restored coding start (publishedTargets writes deletes)
      restores disk reached) (clean : restores.errors = []) :
    Always (Recoverable coding start.config? new) (publishRestores coding writes restores cause)
      reached (fun commit => Releasable (Recoverable coding start.config? new) commit.writes) := by
  have back := restored.back clean
  have still := journaled.grown restored.grown
  have synced : Always (· = reached) (syncStagedParents [] restores.staged)
      reached (fun _ => (· = reached)) := .syncStagedParents rfl rfl
  have fresh : ∀ tmp ∈ restores.ops.filterMap PublicationOp.tmp?,
      ∀ write ∈ writes.map (StagedWrite.owned false), tmp ≠ write.tmp := by
    rintro tmp listed write member rfl
    obtain ⟨original, known, rfl⟩ := mem_map.mp member
    exact (journaled.staged.written original known).not_reserved
      journaled.progress.counter (back.fresh _ listed)
  apply Steady.attempt synced
  · rintro _ rfl
    exact still.recoverable
  · rintro _ reached rfl
    have turned : ∀ later, Grows reached later →
        later.journal? = some (.file (coding.encode ⟨publicationJournalVersion, restores.ops⟩)) →
        Underway coding start.config? restores.ops later :=
      fun _ grows => journaled.turned back restored.grown grows
    have stops : ∀ later, Rewrites (coding.encode
        ⟨publicationJournalVersion, restores.ops⟩) reached later →
        Releasable (Recoverable coding start.config? new) writes later := by
      rintro later ⟨grows, same | replaced⟩
      · exact (still.grown ⟨grows, same⟩).releasable
      · exact .owned journaled.owned ((turned later grows replaced).recoverable (.inl rfl))
    apply Steady.attempt (atomicWrite_journal coding reached)
      (fun later rewrites => (stops later rewrites).here)
    · rintro _ later ⟨grows, journal⟩
      exact (turned later grows journal).rollBack journaled.staged.owned fresh
    · exact fun failure later rewrites => .pure (stops later rewrites)
  · rintro failure _ rfl
    apply Steady.bind (releaseAll_grows restored.staged restored.grown)
      (fun later grown => (journaled.grown grown).recoverable)
    exact fun _ later grown => .pure (journaled.grown grown).releasable

/-- An abort leads back, or leaves the way forward. -/
theorem Journaled.abort [DecidableEq Digest] :
    Always (Recoverable coding start.config? new) (abortStagedConfig coding writes deletes cause)
      disk (fun commit => Releasable (Recoverable coding start.config? new) commit.writes) := by
  apply Steady.bind (restoreTargets_restored journaled.staged.restorable disk)
    (fun later grown => (journaled.grown grown).recoverable)
  intro restores reached restored
  split
  · rename_i clean
    exact journaled.publishRestores restored (isEmpty_iff.mp clean)
  · apply Steady.bind (releaseAll_grows restored.staged restored.grown)
      (fun later grown => (journaled.grown grown).recoverable)
    exact fun _ later grown => .pure (journaled.grown grown).releasable

/-- Everything is published. -/
theorem Journaled.complete (written : ∀ write ∈ writes, write.committed)
    (deleted : ∀ delete ∈ deletes, delete.committed) : disk.Has new := by
  intro name
  by_cases target : Published.config name ∈ targets writes deletes
  · rcases mem_append.mp target with listed | listed
    · obtain ⟨write, member, same⟩ := mem_map.mp listed
      have holds := journaled.progress.written write member
      rw [WriteAt, written write member, same] at holds
      rw [journaled.becomes.written write member name same]
      exact holds.2
    · obtain ⟨delete, member, same⟩ := mem_map.mp listed
      have holds := journaled.progress.deleted delete member
      rw [DeleteAt, deleted delete member, same] at holds
      rwa [journaled.becomes.deleted delete member name same]
  · rw [journaled.becomes.others name target]
    exact journaled.progress.others name target

theorem Journaled.commit [DecidableEq Digest]
    (uncommitted : ∀ write ∈ writes, write.committed = false) :
    Always (Recoverable coding start.config? new) (commitJournaled coding writes deletes) disk
      (fun commit => Releasable (Recoverable coding start.config? new) commit.writes) := by
  have begin : Journaled coding start new forward ([] ++ writes) deletes disk :=
    journaled
  apply Steady.bind (begin.commitWrites uncommitted) (fun _ => id)
  rintro ⟨written, result⟩ middle ⟨journaled, allWritten⟩
  cases result with
  | error failure => exact journaled.abort
  | ok _ =>
    have begin : Journaled coding start new forward ([] ++ written)
        ([] ++ deletes) middle := journaled
    apply Steady.bind begin.commitDeletes (fun _ => id)
    rintro ⟨deleted, result⟩ reached ⟨journaled, allDeleted⟩
    cases result with
    | error failure => exact journaled.abort
    | ok _ =>
      have has := journaled.complete (allWritten rfl) (allDeleted rfl)
      have ended : Ended start.config? new (reached.drop (.published .journal)) :=
        ⟨by simp [Disk.journal?], .inr has.drop_journal⟩
      have removal :
          Always (Releasable (Recoverable coding start.config? new)
            written) removePublicationJournal reached
            (fun _ => Releasable (Recoverable coding start.config? new) written) := by
        apply Underway.removeJournal journaled.releasable (.ended journaled.staged ended)
        · rw [journaled.journal]
          rintro ⟨⟩
        · exact .ended journaled.staged ended
      apply Steady.attempt removal (fun _ releasable => releasable.here)
      · exact fun _ _ releasable => .pure releasable
      · exact fun _ _ releasable => .pure releasable

end

theorem Progress.initial (uncommitted : ∀ write ∈ writes, write.committed = false)
    (undeleted : ∀ delete ∈ deletes, delete.committed = false) :
    Progress start writes deletes start where
  pid := rfl
  counter := Nat.le_refl _
  written := by
    intro write member
    rw [WriteAt, uncommitted write member]
    exact ⟨rfl, rfl⟩
  deleted := by
    intro delete member
    rw [DeleteAt, undeleted delete member]
    rfl
  others := fun _ _ => rfl

theorem Becomes.owned (becomes : Becomes start writes deletes new) :
    Becomes start (writes.map (StagedWrite.owned owner)) deletes new where
  written := by
    intro write member
    obtain ⟨original, listed, rfl⟩ := mem_map.mp member
    exact becomes.written original listed
  deleted := becomes.deleted
  others := by
    intro name unlisted
    apply becomes.others
    intro listed
    apply unlisted
    simp only [targets, map_map] at listed ⊢
    exact listed

section

variable (staged : StagedOn coding start writes deletes)
    (becomes : Becomes start writes deletes new)
    (uncommitted : ∀ write ∈ writes, write.committed = false)
    (undeleted : ∀ delete ∈ deletes, delete.committed = false)
include staged becomes uncommitted undeleted

/-- The journal that leads forward is in place. -/
theorem StagedOn.journaled (grows : Grows start disk)
    (journal : disk.journal? = some (.file (coding.encode
      ⟨publicationJournalVersion, publicationOps (writes.map (StagedWrite.owned true)) deletes⟩))) :
    Journaled coding start new (publicationOps (writes.map (StagedWrite.owned true)) deletes)
      (writes.map (StagedWrite.owned true)) deletes disk where
  staged := staged.owned
  owned := by
    intro write member
    obtain ⟨original, _, rfl⟩ := mem_map.mp member
    rfl
  becomes := becomes.owned
  ops := rfl
  progress := by
    have begun : Progress start (writes.map (StagedWrite.owned true)) deletes
        start := by
      apply Progress.initial _ undeleted
      intro write member
      obtain ⟨original, listed, rfl⟩ := mem_map.mp member
      exact uncommitted original listed
    exact begun.grows staged.owned grows
  journal := journal

theorem StagedOn.commit [DecidableEq Digest]
    (noJournal : start.journal? = none) :
    Always (Recoverable coding start.config? new) (commitStagedConfig coding writes deletes) start
      (fun commit => Releasable (Recoverable coding start.config? new) commit.writes) := by
  have ended : Ended start.config? new start := ⟨noJournal, .inl fun _ => rfl⟩
  have idle := Releasable.ended staged ended
  have synced : Always (· = start) (syncStagedParents [] writes) start
      (fun _ => (· = start)) := .syncStagedParents rfl rfl
  unfold commitStagedConfig
  split
  · exact .pure idle
  · apply Steady.attempt synced
    · rintro _ rfl
      exact .inl ended
    · rintro _ start rfl
      have owned : ∀ write ∈ writes.map (StagedWrite.owned true), write.recoveryOwned := by
        intro write member
        obtain ⟨original, _, rfl⟩ := mem_map.mp member
        rfl
      have unchanged : ∀ later, Grown start later →
          Ended start.config? new later := fun later grown =>
        ⟨grown.journal.trans noJournal, .inl grown.toGrows.config?⟩
      have stops : ∀ later, Rewrites (coding.encode ⟨publicationJournalVersion,
            publicationOps (writes.map (StagedWrite.owned true)) deletes⟩) start later →
          Recoverable coding start.config? new later := by
        rintro later ⟨grows, same | written⟩
        · exact .inl (unchanged later ⟨grows, same⟩)
        · exact (staged.journaled becomes uncommitted undeleted grows written).recoverable
      apply Steady.attempt (atomicWrite_journal coding start) stops
      · rintro _ later ⟨grows, journal⟩
        apply (staged.journaled becomes uncommitted undeleted grows journal).commit
        intro write member
        obtain ⟨original, listed, rfl⟩ := mem_map.mp member
        exact uncommitted original listed
      · exact fun failure later rewrites => .pure (.owned owned (stops later rewrites))
    · rintro failure _ rfl
      exact .pure idle

/-- Wherever a commit stops, everything can be recovered. -/
theorem StagedOn.publish [DecidableEq Digest]
    (noJournal : start.journal? = none) :
    Always (Recoverable coding start.config? new) (publishStaged coding writes deletes) start
      (fun _ => Recoverable coding start.config? new) := by
  apply Steady.bind (staged.commit becomes uncommitted undeleted noJournal) (fun _ => id)
  intro commit reached releasable
  apply Steady.bind (releaseAll_spares Spares.refl (fun _ => id)) releasable
  intro _ later spares
  cases commit.result with
  | ok _ => exact .pure (releasable later spares)
  | error failure => exact .fail (releasable later spares)

end

/-! ## Histories -/

/-- The disk as a new process finds it. -/
def Disk.enter (disk : Disk Content) (invocation : Invocation) : Disk Content :=
  { disk with pid := invocation.pid, counter := invocation.counter }

/-- The runs of recoveries one after another. -/
def recoveries [DecidableEq Digest] (coding : Coding Content Digest) :
    Disk Content → List Invocation → List (Run (Disk Content) Failure Unit) :=
  runs (recoverPendingPublication coding) Disk.enter

theorem recoveries_whole [DecidableEq Digest]
    (recoverable : Recoverable coding old new disk)
    (invocations : List Invocation) :
    ∀ run ∈ recoveries coding disk invocations, run.result = .ok () →
      run.world.Has old ∨ run.world.Has new := by
  have recovers (disk : Disk Content) (recoverable : Recoverable coding old new disk) :
      Always (Recoverable coding old new) (recoverPendingPublication coding) disk
        fun _ reached => Recoverable coding old new reached ∧
          (reached.Has old ∨ reached.Has new) :=
    recoverable.recover.imply
      (fun _ _ settled => ⟨.inl settled, settled.has⟩) (fun _ _ => id) fun _ => id
  intro run member
  exact runs_succeed (fun _ _ recoverable => recoverable.congr fun _ => rfl)
    recovers recoverable invocations (fun _ _ _ _ => trivial) run member ()

/--
Whatever fails in a commit, wherever it or a recovery after it is cut off: a
recovery that succeeds leaves all targets as they were, or all of them as
they were staged.
-/
theorem recovered_configuration_whole [DecidableEq Digest]
    (coding : Coding Content Digest)
    (start : Disk Content) (writes : List (StagedWrite Content Digest))
    (deletes : List (StagedDelete Content))
    (staged : StagedOn coding start writes deletes)
    (uncommitted : ∀ write ∈ writes, write.committed = false)
    (undeleted : ∀ delete ∈ deletes, delete.committed = false)
    (noJournal : start.journal? = none)
    (fates : List Fate) (invocations : List Invocation) :
    ∀ run ∈ recoveries coding (publishStaged coding writes deletes start fates).world invocations,
      run.result = .ok () →
        ((∀ write ∈ writes, run.world.node? (.published write.target) =
            start.node? (.published write.target)) ∧
          ∀ delete ∈ deletes, run.world.node? (.published delete.target) =
            start.node? (.published delete.target)) ∨
        ((∀ write ∈ writes, run.world.node? (.published write.target) = start.node? write.tmp) ∧
          ∀ delete ∈ deletes, run.world.node? (.published delete.target) = none) := by
  intro run member succeeded
  have becomes := staged.becomes
  have published := staged.publish becomes uncommitted undeleted noJournal
  rcases recoveries_whole (published.leaves fun _ _ => trivial) invocations run
    member succeeded with has | has
  · left
    refine ⟨fun write listed => ?_, fun delete listed => ?_⟩
    · obtain ⟨name, target⟩ := (staged.written write listed).config
      rw [target]
      exact has name
    · obtain ⟨name, target⟩ := (staged.deleted delete listed).config
      rw [target]
      exact has name
  · right
    refine ⟨fun write listed => ?_, fun delete listed => ?_⟩
    · obtain ⟨name, target⟩ := (staged.written write listed).config
      rw [← becomes.written write listed name target, target]
      exact has name
    · obtain ⟨name, target⟩ := (staged.deleted delete listed).config
      rw [← becomes.deleted delete listed name target, target]
      exact has name

/-- Contents for an example: texts, journals and torn texts. -/
inductive SampleContent where
  | text (text : String)
  | journal (journal : PublicationJournal String)
  | torn

/-- Texts are their own digests. -/
def sampleCoding : Coding SampleContent String where
  digest
    | .text text => text
    | _ => ""
  encode := .journal
  decode
    | .journal journal => some journal
    | _ => none
  decode_encode := fun _ => rfl
  empty := .torn
  part := fun _ _ => .torn

def sampleTmp (name : ConfigName)
    (counter : Nat) : FileName := .staged (.config name) 1 counter

/-- A changed global file, a new workspace and a workspace to delete. -/
def sampleStart : Disk SampleContent where
  directory :=
    [(.published (.config .global), .file (.text "old")),
      (.published (.config (.workspace "gone")), .file (.text "gone")),
      (sampleTmp .global 0, .file (.text "new")),
      (sampleTmp (.workspace "added") 1, .file (.text "added"))].foldl
        (fun directory (name, node) => Directory.store directory name node)
        Table.empty
  pid := 1
  counter := 2

def sampleWrites : List (StagedWrite SampleContent String) :=
  [⟨.config .global, sampleTmp .global 0, .file (.text "old"), "new", false, false⟩,
    ⟨.config (.workspace "added"), sampleTmp (.workspace "added") 1, .missing,
      "added", false, false⟩]

def sampleDeletes : List (StagedDelete SampleContent) :=
  [⟨.config (.workspace "gone"), .text "gone", false⟩]

theorem sample_staged :
    StagedOn sampleCoding sampleStart sampleWrites sampleDeletes where
  written := by
    intro write member
    simp only [sampleWrites, mem_cons, not_mem_nil, or_false] at member
    rcases member with rfl | rfl
    · exact ⟨⟨_, rfl⟩, ⟨0, rfl, by decide⟩, ⟨_, rfl, rfl⟩, rfl⟩
    · exact ⟨⟨_, rfl⟩, ⟨1, rfl, by decide⟩, ⟨_, rfl, rfl⟩, rfl⟩
  deleted := by
    intro delete member
    obtain rfl := mem_singleton.mp member
    exact ⟨⟨_, rfl⟩, rfl⟩
  apart := by decide

/-- The deletion fails, and the process dies while it rolls back. -/
def sampleFates : List Fate :=
  List.replicate 18 .works ++ .fails 0 :: List.replicate 21 .works ++ [.dies 0]

/-- A recovery that is cut off, and one that is not disturbed. -/
def sampleInvocations : List Invocation :=
  [⟨2, 0, List.replicate 3 .works ++ [.dies 0]⟩, ⟨3, 0, []⟩]

theorem failed_commit_recovered :
    (∃ run ∈ recoveries sampleCoding (publishStaged sampleCoding sampleWrites
        sampleDeletes sampleStart sampleFates).world sampleInvocations,
      run.result = .ok ()) ∧
    ∀ run ∈ recoveries sampleCoding (publishStaged sampleCoding sampleWrites
        sampleDeletes sampleStart sampleFates).world sampleInvocations,
      run.result = .ok () → ((∀ write ∈ sampleWrites, run.world.node? (.published write.target) =
              sampleStart.node? (.published write.target)) ∧
          ∀ delete ∈ sampleDeletes, run.world.node? (.published delete.target) =
              sampleStart.node? (.published delete.target)) ∨
        ((∀ write ∈ sampleWrites,
            run.world.node? (.published write.target) = sampleStart.node? write.tmp) ∧
          ∀ delete ∈ sampleDeletes, run.world.node? (.published delete.target) = none) :=
  ⟨⟨_, mem_cons_of_mem _ mem_cons_self, rfl⟩,
    recovered_configuration_whole sampleCoding sampleStart sampleWrites sampleDeletes sample_staged
      (by decide) (by decide) rfl sampleFates sampleInvocations⟩

end Jackin.Config
