import Jackin.Config.Recovery

/-!
# Staging next to other files

Every temporary file of a process gets a counter of its own.  So staging a
file, and whatever becomes of it before it is published, changes reserved
names only.  Writing a journal is staging and one rename: however it ends, the
journal is the old one or the new one.
-/

namespace Jackin.Config

open Foundation Script

variable {Content Digest : Type} {stop : Disk Content → Prop} {tmp : FileName}
    {done : Unit → Disk Content → Prop}

/-! ## Reserved names -/

/-- A name the process has not used yet. -/
def Disk.Reserves (disk : Disk Content) (name : FileName) : Prop :=
  ∃ file counter, name = .staged file disk.pid counter ∧ disk.counter ≤ counter

/-- Only reserved names, and perhaps the journal, have changed. -/
structure Grows (first second : Disk Content) : Prop where
  pid : second.pid = first.pid
  counter : first.counter ≤ second.counter
  nodes : ∀ name, ¬first.Reserves name → name ≠ .published .journal →
    second.node? name = first.node? name

/-- Only reserved names have changed. -/
structure Grown (first second : Disk Content) : Prop extends Grows first second where
  journal : second.journal? = first.journal?

section

variable {first second : Disk Content}

theorem Grows.refl : Grows disk disk := ⟨rfl, Nat.le_refl _, fun _ _ _ => rfl⟩

theorem Grown.refl (disk : Disk Content) : Grown disk disk := ⟨Grows.refl, rfl⟩

theorem Grows.reserves (grows : Grows first second)
    (reserves : second.Reserves name) : first.Reserves name := by
  obtain ⟨file, counter, named, later⟩ := reserves
  exact ⟨file, counter, grows.pid ▸ named, Nat.le_trans grows.counter later⟩

theorem Grows.trans (before : Grows first second)
    (after : Grows second third) : Grows first third where
  pid := after.pid.trans before.pid
  counter := Nat.le_trans before.counter after.counter
  nodes := by
    intro name free other
    rw [after.nodes name (fun later => free (before.reserves later)) other]
    exact before.nodes name free other

theorem Grown.trans (before : Grown first second)
    (after : Grown second third) : Grown first third :=
  ⟨before.toGrows.trans after.toGrows, after.journal.trans before.journal⟩

theorem Disk.not_reserves_published (disk : Disk Content) :
    ¬disk.Reserves (.published file) := by
  rintro ⟨_, _, same, _⟩
  cases same

theorem Grows.config? (grows : Grows first second) (name : ConfigName) :
    second.config? name = first.config? name :=
  grows.nodes _ first.not_reserves_published nofun

section

variable (grown : Grown first second)
include grown

section

variable (reserved : first.Reserves name)
include reserved

/-- A reserved file may be written. -/
theorem Grown.store (node : Node Content) :
    Grown first (second.store name node) where
  pid := grown.pid
  counter := grown.counter
  nodes := by
    intro other free elsewhere
    rw [Disk.node?_store, if_neg (by rintro rfl; exact free reserved)]
    exact grown.nodes other free elsewhere
  journal := by
    rw [← grown.journal]
    obtain ⟨_, _, rfl, _⟩ := reserved
    simp [Disk.journal?]

/-- A reserved file may be removed. -/
theorem Grown.drop : Grown first (second.drop name) where
  pid := grown.pid
  counter := grown.counter
  nodes := by
    intro other free elsewhere
    rw [Disk.node?_drop, if_neg (by rintro rfl; exact free reserved)]
    exact grown.nodes other free elsewhere
  journal := by
    rw [← grown.journal]
    obtain ⟨_, _, rfl, _⟩ := reserved
    simp [Disk.journal?]

/-- A reserved file may become the journal. -/
theorem Grown.publish (node : Node Content) :
    Grows first (second.move name (.published .journal) node) where
  pid := grown.pid
  counter := grown.counter
  nodes := by
    intro other free elsewhere
    rw [Disk.node?_move, if_neg elsewhere, if_neg (by rintro rfl; exact free reserved)]
    exact grown.nodes other free elsewhere

end

end

theorem Grown.count : Grown disk disk.count :=
  ⟨⟨rfl, Nat.le_succ _, fun _ _ _ => rfl⟩, rfl⟩

end

/-! ## Staging one file -/

section

variable {coding : Coding Content Digest} {disk start : Disk Content}
    {path : Published}
    {contents : Content} {staged : StagedWrite Content Digest}

/-- The state of a target is found out without a change. -/
theorem targetState_unchanged {done} (good : stop disk)
    (holds : ∀ original, done original disk) :
    Always stop (targetState path) disk done := by
  have completed : (metadata (.published path)).complete disk =
      (.ok (disk.node? (.published path)), disk) := rfl
  apply Steady.attemptWhole (fun _ => rfl) completed good good
  · split
    · exact .pure (holds _)
    · exact .pure (holds _)
    · have read : Always (· = disk)
          (perform (readFile (.published path))) disk (fun _ => (· = disk)) :=
        Always.readFile rfl fun _ _ => rfl
      apply Steady.attempt read
      · rintro _ rfl
        exact good
      · rintro _ _ rfl
        exact .pure (holds _)
      · rintro _ _ rfl
        exact .pure (holds _)
    · rename_i refused
      cases refused
  · exact .pure (holds _)

theorem Always.createNew (good : stop disk)
    (created : stop (disk.store tmp (.file empty)))
    (holds : done () (disk.store tmp (.file empty))) :
    Always stop (perform (createNew tmp empty)) disk done := by
  apply Steady.whole (fun _ => rfl) good
  · simp only [Config.createNew]
    split
    · exact good
    · exact created
  · intro _ reached completed
    simp only [Config.createNew] at completed
    split at completed <;> cases completed
    exact holds

theorem Always.writeAll (good : ∀ content, stop (disk.store tmp (.file content)))
    (holds : done () (disk.store tmp (.file contents))) :
    Always stop (perform (writeAll part tmp contents)) disk done := by
  apply Steady.perform
  case parts => exact fun _ => good _
  case works =>
    rintro _ _ ⟨⟩
    exact ⟨good _, holds⟩
  case refuses => rintro _ _ ⟨⟩

/-- The temporary file is complete, or it is of no further use. -/
theorem stageWrite_grows (grown : Grown start disk)
    (reserved : start.Reserves tmp)
    (holds : ∀ reached, Grown start reached →
      reached.counter = disk.counter →
        reached.node? tmp = some (.file contents) → done () reached) :
    Always (Grown start) (stageWrite coding tmp contents) disk done := by
  have created := grown.store reserved (.file coding.empty)
  apply Outcomes.bind
  apply Always.createNew grown created
  generalize newDisk : disk.store tmp (.file coding.empty) = opened
  rw [newDisk] at created
  have counter : opened.counter = disk.counter := by rw [← newDisk]; rfl
  have written : Always (Grown start) (do
        perform (writeAll coding.part tmp contents)
        perform settle) opened (fun _ reached => reached = opened.store tmp (.file contents)) := by
    apply Outcomes.bind
    apply Always.writeAll (fun content => created.store reserved _)
    exact Always.settle (created.store reserved _) rfl
  apply Steady.attempt written (fun _ => id)
  · rintro _ _ rfl
    exact Outcomes.pure (holds _ (created.store reserved _) counter (by simp))
  · intro failure reached grown
    apply Always.removeFile grown (grown.drop reserved)
    · exact .fail (grown.drop reserved)
    · exact fun _ => .fail grown
    · exact .fail grown

/-- A file that is staged for a path and nothing else. -/
structure Prepared (coding : Coding Content Digest) (path : Published)
    (contents : Content) (staged : StagedWrite Content Digest)
    (start disk : Disk Content) : Prop where
  target : staged.target = path
  tmp : staged.tmp = .staged path start.pid start.counter
  used : start.counter < disk.counter
  content : disk.node? staged.tmp = some (.file contents)
  digest : staged.expectedSha256 = coding.digest contents
  owner : staged.recoveryOwned = false
  uncommitted : staged.committed = false

theorem Prepared.reserved (prepared : Prepared coding path contents staged start disk) :
    start.Reserves staged.tmp :=
  ⟨path, start.counter, prepared.tmp, Nat.le_refl _⟩

theorem stage_grows (coding : Coding Content Digest) (path : Published)
    (contents : Content) (disk : Disk Content) :
    Always (Grown disk) (stageAtomicWriteBytes coding path contents) disk
      (fun staged reached => Grown disk reached ∧
        Prepared coding path contents staged disk reached) := by
  have reserved : disk.Reserves (.staged path disk.pid disk.counter) :=
    ⟨path, disk.counter, rfl, Nat.le_refl _⟩
  apply Outcomes.bind
  apply Always.settle (Grown.refl disk)
  refine .bind (targetState_unchanged (Grown.refl disk) ?_)
  intro original
  apply Outcomes.glance
  apply Outcomes.adjust
  refine .bind (stageWrite_grows Grown.count reserved ?_)
  intro reached grown counter present
  apply Outcomes.pure
  refine ⟨grown, rfl, rfl, ?_, present, rfl, rfl, rfl⟩
  rw [counter]
  exact Nat.lt_succ_self _

/-- A staged file that goes out of scope disturbs nothing. -/
theorem release_grows (grown : Grown start disk)
    (reserved : start.Reserves staged.tmp) :
    Always (Grown start) staged.release disk (fun _ => Grown start) := by
  unfold StagedWrite.release
  split
  · have dropped := grown.drop reserved
    exact .removeFile grown dropped (.pure dropped) (fun _ => .pure grown) (.pure grown)
  · exact .pure grown

/-- What was published is synced, and the commit tells how that ended. -/
theorem attemptSync_ends {Item : Type} {item : Item}
    {done} (good : stop disk)
    (ends : ∀ result, done (item, result) disk) :
    Always stop (attempt syncParent >>= fun result => pure (item, result)) disk done := by
  have synced : Always (· = disk) syncParent disk (fun _ => (· = disk)) :=
    .syncParent rfl rfl
  apply Steady.attempt synced
  · rintro _ rfl
    exact good
  · rintro _ _ rfl
    exact .pure (ends _)
  · rintro _ _ rfl
    exact .pure (ends _)

/-- A commit that fails before its rename has done nothing. -/
theorem commit_moves
    {done : StagedWrite Content Digest × Except Failure Unit → Disk Content → Prop}
    (found : disk.node? write.tmp = some node)
    (good : stop disk)
    (after : stop (disk.move write.tmp (.published write.target) node))
    (kept : ∀ failure, done (write, .error failure) disk)
    (moved : ∀ result, done ({ write with committed := true }, result)
      (disk.move write.tmp (.published write.target) node)) :
    Always stop write.commit disk done := by
  rcases Directory.renameNode_found found with completed | completed
  · exact .attemptWhole (fun _ => rfl) completed good good (.pure (kept _)) (.pure (kept _))
  · exact .attemptWhole (fun _ => rfl) completed good after (attemptSync_ends after moved)
      (.pure (kept _))

/-- The journal is still what it was, or it is the given one. -/
structure Rewrites (content : Content) (first second : Disk Content) :
    Prop extends Grows first second where
  journal : second.journal? = first.journal? ∨ second.journal? = some (.file content)

theorem Grown.rewrites (grown : Grown start disk) (content : Content) :
    Rewrites content start disk :=
  ⟨grown.toGrows, .inl grown.journal⟩

theorem atomicWrite_journal (coding : Coding Content Digest)
    (disk : Disk Content) :
    Always (Rewrites content disk) (atomicWrite coding .journal content)
      disk (fun _ reached => Grows disk reached ∧ reached.journal? = some (.file content)) := by
  apply Steady.bind (stage_grows coding .journal content disk)
    (fun _ grown => grown.rewrites content)
  rintro staged reached ⟨grown, prepared⟩
  generalize target : staged.target = published
  obtain rfl : published = .journal := target.symm.trans prepared.target
  have moved := grown.publish prepared.reserved (.file content)
  have journal : (reached.move staged.tmp (.published .journal)
      (.file content)).journal? = some (.file content) := by
    simp [Disk.journal?]
  apply Outcomes.bind
  apply commit_moves prepared.content (grown.rewrites content)
  · rw [target]
    exact ⟨moved, .inr journal⟩
  · intro failure
    apply Steady.bind (release_grows grown prepared.reserved)
      (fun _ grown => grown.rewrites content)
    exact fun _ _ grown => .fail (grown.rewrites content)
  · intro result
    rw [target]
    apply Outcomes.bind
    rw [StagedWrite.release, if_neg (fun unowned => by cases unowned.2)]
    apply Outcomes.pure
    cases result with
    | ok _ => exact .pure ⟨moved, journal⟩
    | error failure => exact .fail ⟨moved, .inr journal⟩

end

end Jackin.Config
