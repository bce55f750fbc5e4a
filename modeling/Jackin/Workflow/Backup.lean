import Jackin.Workflow.Acceptance

/-!
# Backups and the accepted candidate

A done backup effect belongs to a run, not to a candidate.  As long as the
run is not re-pointed, a known backup is one of the current candidate's
commit; an answered `record_backup` restores that link.  Acceptance only asks
for a done effect, so a run can be accepted on the backup of an earlier
candidate.
-/

namespace Jackin.Workflow

open List Foundation

variable {world before after : World} {permits : Permits}

/-- A known backup of the run is one of its current candidate's commit. -/
def BackupCurrent (runId : String) (world : World) : Prop :=
  BackupKnown world runId → BackupConfirmed world runId

/-- Writing a checkpoint with the stored commit, or of another run. -/
theorem BackupConfirmed.upsert
    (confirmed : BackupConfirmed world runId)
    (unchanged : checkpoint.runId = runId → ∃ previous,
        world.db.checkpoints.find? checkpoint.key = some previous ∧
          previous.commitHash = checkpoint.commitHash) :
    BackupConfirmed
      { world with db := { world.db with checkpoints := world.db.checkpoints.upsert checkpoint } }
      runId := by
  intro run candidate stored found current storedFound
  rw [Table.find?_upsert] at storedFound
  split at storedFound
  · rename_i key
    cases storedFound
    obtain ⟨previous, previousFound, commit⟩ := unchanged (congrArg Prod.fst key)
    rw [key] at previousFound
    rw [← commit]
    exact confirmed run candidate previous found current previousFound
  · exact confirmed run candidate stored found current storedFound

theorem BackupConfirmed.transitioned (confirmed : BackupConfirmed world runId)
    (kept : ∀ run, world.db.runs.find? transition.runId = some run →
      transition.runId = runId → transition.candidate = run.candidate) :
    BackupConfirmed (world.transitioned transition epoch events effects) runId := by
  intro run candidate stored found current storedFound
  rw [find?_transitioned] at found
  split at found
  · rename_i same
    obtain ⟨previous, previousFound, rfl⟩ := Option.map_eq_some_iff.mp found
    refine confirmed previous candidate stored previousFound ?_ storedFound
    rw [same] at previousFound
    rwa [← kept previous previousFound same.symm]
  · exact confirmed run candidate stored found current storedFound

/-- A run that is not re-pointed keeps its confirmation. -/
theorem BackupConfirmed.change (change : Change permits before after)
    (stays : ¬permits.repoints runId)
    (confirmed : BackupConfirmed before runId) :
    BackupConfirmed after runId := by
  cases change with
  | move move =>
    cases move with
    | noted =>
      intro run candidate checkpoint found current checkpointFound
      obtain ⟨remote, gitRef, noted⟩ :=
        confirmed run candidate checkpoint found current checkpointFound
      exact ⟨remote, gitRef, mem_append_left _ noted⟩
    | created _ empty inserted =>
      intro run candidate checkpoint found current checkpointFound
      rw [Table.find?_of_insert? inserted] at found
      split at found
      · cases found
        rw [empty] at current
        cases current
      · exact confirmed run candidate checkpoint found current checkpointFound
    | moved isOpen same _ candidate =>
      refine confirmed.transitioned ?_
      intro run found owned
      rw [same] at found owned
      obtain rfl := Option.mem_unique isOpen.1 found
      refine candidate.resolve_right ?_
      rwa [owned]
    | recaptured _ _ found commit => exact confirmed.upsert fun _ => ⟨_, found, commit⟩
    | captured _ same repointed =>
      refine confirmed.upsert fun owned => ?_
      rw [same.symm.trans owned] at repointed
      exact absurd repointed stays
    | _ => exact confirmed
  | accept accepts =>
    obtain ⟨acceptable, _, _, _, _, same, _, kept, _, rfl⟩ := accepts
    refine confirmed.transitioned ?_
    intro run found _
    rw [same] at found
    obtain rfl := Option.mem_unique acceptable.isOpen.1 found
    exact kept

/-- A backup that is known afterwards was known or is confirmed. -/
theorem BackupKnown.before_change (change : Change permits before after)
    (known : BackupKnown after runId) :
    BackupKnown before runId ∨ BackupConfirmed before runId := by
  obtain ⟨operationId, effect, found, rfl, backup, settled⟩ := known
  cases change with
  | move move =>
    cases move with
    | effects follows | moved _ _ _ _ follows =>
      exact follows.confirmed operationId effect found backup settled
    | _ => exact .inl ⟨operationId, effect, found, rfl, backup, settled⟩
  | accept accepts =>
    obtain ⟨_, _, _, _, _, _, _, _, follows, rfl⟩ := accepts
    exact follows.confirmed operationId effect found backup settled

/-- A run that is not re-pointed keeps its backup current. -/
theorem BackupCurrent.change (change : Change permits before after)
    (stays : ¬permits.repoints runId) (current : BackupCurrent runId before) :
    BackupCurrent runId after := by
  intro known
  refine BackupConfirmed.change change stays ?_
  rcases known.before_change change with knownBefore | confirmed
  · exact current knownBefore
  · exact confirmed

/-- An answered `record_backup` confirms the current candidate's commit. -/
theorem recordBackup_confirms {service : Service} :
    (service.recordBackup runId expectedVersion remote gitRef actor).Ends
      session (fun _ reached => BackupConfirmed reached.world runId) (fun _ => True) := by
  refine Reads.ensure.ends_bind (fun _ => trivial) fun _ _ _ => ?_
  refine requireOpenRun_reads.ends_bind (fun _ => trivial)
    fun stored _ ⟨found, _, nonterminal⟩ => ?_
  refine Reads.require.ends_bind (fun _ => trivial) fun candidate _ current => ?_
  refine findCheckpoint_reads.ends_bind (fun _ => trivial) fun checkpoint _ checkpointFound => ?_
  refine Reads.lift.ends_bind (fun _ => trivial) fun listing _ _ => ?_
  refine Reads.ensure.ends_bind (fun _ => trivial) fun _ _ matching => ?_
  obtain ⟨isOpen, key⟩ := OpenRun.of_find found nonterminal
  have confirmed : BackupConfirmed
      { session.world with
        journal := session.world.journal ++
          [.backupConfirmed runId (Text.firstToken listing) remote gitRef] } runId := by
    refine backupConfirmed_of_current found current checkpointFound remote gitRef ?_
    rw [matching]
    exact mem_append_right _ (mem_singleton.mpr rfl)
  refine .bind (fun _ reached => reached.world =
      { session.world with
        journal := session.world.journal ++
          [.backupConfirmed runId (Text.firstToken listing) remote gitRef] })
    rfl ?_
  intro _ noted notedWorld
  rw [← notedWorld] at confirmed
  -- Nothing that is stored afterwards re-points the run.
  have emitted : Obeys .none
      (service.storeBackup runId candidate checkpoint remote gitRef actor)
      noted :=
    storeBackup_emits (by rw [notedWorld]; exact isOpen) key
      (by rw [notedWorld]; exact checkpointFound) confirmed
  have final := emitted.invariant
    (fun _ _ step => BackupConfirmed.change (.move step.move) id) confirmed
  refine .of_exec ?_ trivial
  intro _ reached success
  rwa [success] at final

/-! ## Histories -/

/-- An event that is an answered backup of the run. -/
def Event.backsUp (world : World) (runId : String) : Event → Prop
  | .opened => False
  | .called call =>
    (∃ expectedVersion remote gitRef,
      call.operation = .recordBackup runId expectedVersion remote gitRef) ∧
    (call.exec world).1 = .ok ()

/--
Every event that may exchange the run's candidate or its source was followed
by an answered backup of the run.
-/
def BackedUpSince (runId : String) (history : List Event) : Prop :=
  ∀ earlier event later, history = earlier ++ event :: later → event.repoints runId →
      ∃ first backup last, later = first ++ backup :: last ∧
        backup.backsUp (World.fresh.play (earlier ++ event :: first)) runId

theorem backupCurrent_of_backsUp (backsUp : event.backsUp world runId) :
    BackupCurrent runId (world.after event) := by
  cases event with
  | opened => cases backsUp
  | called call =>
    obtain ⟨⟨_, _, _, operation⟩, answered⟩ := backsUp
    intro _
    rw [Call.exec, operation] at answered
    obtain ⟨_, confirmed⟩ := discard_answered recordBackup_confirms answered
    unfold World.after Call.exec
    dsimp only
    rwa [operation, Service.perform, discard_world]

theorem backupCurrent_play (since : BackedUpSince runId history) :
    BackupCurrent runId (World.fresh.play history) := by
  induction history using reverseRecOn with
  | nil =>
    rintro ⟨operationId, effect, found, _⟩
    cases found
  | append_singleton history event ih =>
    rw [World.play_append]
    by_cases backsUp : event.backsUp (World.fresh.play history) runId
    · exact backupCurrent_of_backsUp backsUp
    · have same : event.permits.repoints = event.repoints := by cases event <;> rfl
      have stays : ¬event.permits.repoints runId := by
        rw [same]
        intro repoints
        obtain ⟨first, backup, last, nothing, _⟩ := since history event [] rfl repoints
        cases first <;> cases nothing
      have sinceBefore : BackedUpSince runId history := by
        rintro earlier repointing later rfl repoints
        obtain ⟨first, backup, last, split, answered⟩ :=
          since earlier repointing (later ++ [event]) (by simp) repoints
        rcases eq_nil_or_concat last with rfl | ⟨rest, final, rfl⟩
        · obtain ⟨rfl, equal⟩ := append_inj' split rfl
          cases equal
          exact absurd answered backsUp
        · refine ⟨first, backup, rest, ?_, answered⟩
          rw [concat_eq_append, ← cons_append, ← append_assoc] at split
          exact (append_inj' split rfl).1
      exact invariant_of_path (BackupCurrent runId) after_changes
        (fun _ _ change current => current.change change stays) (ih sinceBefore)

/--
When every change of candidate or source was followed by an answered backup,
an acceptance was made with the commit of the accepted candidate's checkpoint
confirmed at a remote.
-/
theorem accepted_run_backed_up (history : List Event) (runId : String)
    (run : StoredRun)
    (since : ∀ before call after candidate hash,
      history = before ++ .called call :: after →
        AcceptedAt before call runId candidate hash → BackedUpSince runId before)
    (found : (World.fresh.play history).db.runs.find? runId = some run)
    (accepted : run.status = .accepted) :
    ∃ before call after candidate hash checkpoint remote gitRef,
      history = before ++ .called call :: after ∧
        AcceptedAt before call runId candidate hash ∧
        run.candidate = some candidate ∧
        (World.fresh.play history).db.checkpoints.find? (runId, candidate) =
          some checkpoint ∧
        .backupConfirmed runId checkpoint.commitHash remote gitRef ∈
          (World.fresh.play before).journal := by
  obtain ⟨before, call, after, candidate, hash, checkpoint, _, _,
    split, acceptedAt, current, first, latest⟩ :=
    accepted_at_some_call history found accepted
  have confirmed := backupCurrent_play (since before call after candidate hash split acceptedAt)
    acceptedAt.backedUp
  obtain ⟨openRun, openFound, _, openCurrent⟩ := acceptedAt.wasOpen
  obtain ⟨remote, gitRef, noted⟩ :=
    confirmed openRun candidate checkpoint openFound openCurrent first.checkpointFound
  exact ⟨before, call, after, candidate, hash, checkpoint, remote, gitRef,
    split, acceptedAt, current, latest.checkpointFound, noted⟩

/-- A history that ends with an answered backup is backed up. -/
theorem BackedUpSince.concat (backsUp : backup.backsUp (World.fresh.play history) runId) :
    BackedUpSince runId (history ++ [backup]) := by
  intro earlier event later split repoints
  rcases eq_nil_or_concat later with rfl | ⟨first, last, rfl⟩
  · obtain ⟨_, same⟩ := append_inj' split rfl
    cases same
    -- A backup does not re-point its run.
    cases backup with
    | opened => cases backsUp
    | called call =>
      obtain ⟨⟨_, _, _, operation⟩, _⟩ := backsUp
      rw [Event.repoints, operation] at repoints
      cases repoints
  · rw [concat_eq_append, ← cons_append, ← append_assoc] at split
    obtain ⟨rfl, same⟩ := append_inj' split rfl
    cases same
    exact ⟨first, backup, [], concat_eq_append, backsUp⟩

/-- All of the accepting history but its last two calls. -/
def verifiedHistory : List Event :=
  .opened :: calls firstEnvironment (implementation ++ capture "c1" "aaa1" 2 ++ verification 3)

def backupEvent : Event :=
  .called ⟨⟨1, firstEnvironment⟩, [], .recordBackup "run-1" 6 "origin" "refs/heads/c1"⟩

theorem backupEvent_answered :
    backupEvent.backsUp (World.fresh.play verifiedHistory) "run-1" :=
  ⟨⟨6, "origin", "refs/heads/c1", rfl⟩, by decide +kernel⟩

/-- Only the last call of the accepting history is an acceptance. -/
theorem acceptingHistory_accepts_last {before after} {hash}
    (split : acceptingHistory = before ++ .called call :: after)
    (named : call.operation = .acceptance "run-1" hash expectedVersion) :
    before = verifiedHistory ++ [backupEvent] := by
  have ordered : acceptingHistory =
      (verifiedHistory ++ [backupEvent]) ++ calls firstEnvironment
        [.acceptance "run-1" "cafe" 6] := rfl
  rw [ordered] at split
  rcases eq_nil_or_concat after with rfl | ⟨rest, last, rfl⟩
  · exact (append_inj' split rfl).1.symm
  · rw [concat_eq_append, ← cons_append, ← append_assoc] at split
    have member : Event.called call ∈ verifiedHistory ++ [backupEvent] := by
      rw [(append_inj' split rfl).1]
      simp
    simp only [verifiedHistory, backupEvent, calls, implementation, capture, verification, observe,
      map_cons, map_nil, cons_append, nil_append, mem_cons,
      not_mem_nil, or_false, reduceCtorEq, false_or, Event.called.injEq] at member
    rcases member with rfl | rfl | rfl | rfl | rfl | rfl | rfl | rfl |
      rfl | rfl | rfl <;> simp [Operation.acceptance] at named

theorem acceptingHistory_backed_up :
    ∃ before call after candidate hash checkpoint remote gitRef,
      acceptingHistory = before ++ .called call :: after ∧
        AcceptedAt before call "run-1" candidate hash ∧
        acceptedRun.candidate = some candidate ∧
        (World.fresh.play acceptingHistory).db.checkpoints.find?
            ("run-1", candidate) = some checkpoint ∧
        .backupConfirmed "run-1" checkpoint.commitHash remote gitRef ∈
          (World.fresh.play before).journal := by
  refine accepted_run_backed_up acceptingHistory "run-1" acceptedRun ?_ acceptedRun_found rfl
  intro before call after candidate hash split acceptedAt
  obtain ⟨_, _, named⟩ := acceptedAt.named
  rw [acceptingHistory_accepts_last split named]
  exact BackedUpSince.concat backupEvent_answered

def secondEnvironment : Environment := calmEnvironment "c2" "bbb1" "bbb2" (by decide)

/--
The first candidate is backed up; the second one, with another commit, is
verified and accepted without a backup.
-/
def unbackedHistory : List Event :=
  .opened :: calls firstEnvironment (implementation ++ capture "c1" "aaa1" 2 ++
        [.recordBackup "run-1" 3 "origin" "refs/heads/c1"]) ++
    calls secondEnvironment
      (capture "c2" "bbb1" 3 ++ verification 4 ++ [.acceptance "run-1" "cafe" 7])

theorem unbackedHistory_accepted :
    ((World.fresh.play unbackedHistory).db.runs.find? "run-1").map
        (fun run => (run.status, run.candidate)) =
      some (.accepted, some "c2") ∧
    ((World.fresh.play unbackedHistory).db.checkpoints.find?
        ("run-1", "c2")).map StoredCheckpoint.commitHash =
      some "bbb1" ∧
    ∀ remote gitRef, .backupConfirmed "run-1" "bbb1" remote gitRef ∉
        (World.fresh.play unbackedHistory).journal := by
  refine ⟨by decide +kernel, by decide +kernel, ?_⟩
  -- The only confirmed commit is that of the first candidate.
  have journal : (World.fresh.play unbackedHistory).journal =
      [.backupConfirmed "run-1" "aaa1" "origin" "refs/heads/c1",
        .testRun "run-1" "c2" "bbb1" "bbb2" "cafe" true,
        .reviewValidated "run-1" "c2" "bbb1" "bbb2" .pass] := by
    decide +kernel
  simp [journal]

end Jackin.Workflow
