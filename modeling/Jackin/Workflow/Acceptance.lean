import Mathlib
import Jackin.Workflow.Refinement

/-!
# What an accepted run stands on

A verdict is anchored when the candidate has a checkpoint and the journal
holds the action on exactly the commit and tree of that checkpoint.  A
cancellation that failed half way leaves a checkpoint whose commit is the word
`preserved`, which is never accepted.  Anchoring is preserved by every change,
and the record of an accepted run is frozen.  The main theorem reads an
accepted run back to the call that accepted it.
-/

namespace Jackin.Workflow

open Option Foundation Table

variable {world before after : World} {row : StoredEvidence}
    {checkpoint : StoredCheckpoint}
    {permits : Permits} {run : StoredRun} {candidate hash runId : String}

/-- The source of the verdict's candidate is what the verdict was made on. -/
def Anchored (world : World) (row : StoredEvidence) : Prop :=
  ∃ checkpoint, world.db.checkpoints.find? (row.runId, row.candidate) = some checkpoint ∧
      (checkpoint.commitHash = "preserved" ∨
        Witnessed world.journal row checkpoint.commitHash checkpoint.treeHash)

/-- Every stored verdict is anchored. -/
def AllAnchored (world : World) : Prop :=
  ∀ row ∈ world.db.evidence.rows, Anchored world row

theorem allAnchored_fresh : AllAnchored World.fresh := by nofun

/-- Writing a checkpoint keeps a verdict anchored. -/
theorem Anchored.upsert (anchored : Anchored world row)
    (replaced : checkpoint.key = (row.runId, row.candidate) →
      checkpoint.commitHash = "preserved" ∨
        ∃ previous, world.db.checkpoints.find? checkpoint.key = some previous ∧
          previous.commitHash = checkpoint.commitHash ∧ previous.treeHash = checkpoint.treeHash) :
    Anchored
      { world with db := { world.db with checkpoints := world.db.checkpoints.upsert checkpoint } }
      row := by
  by_cases same : checkpoint.key = (row.runId, row.candidate)
  · refine ⟨checkpoint, ?_, ?_⟩
    · rw [find?_upsert, if_pos same]
    · rcases replaced same with preserved | ⟨previous, found, commit, tree⟩
      · exact .inl preserved
      · obtain ⟨stored, storedFound, witnessed⟩ := anchored
        rw [same] at found
        obtain rfl : previous = stored := mem_unique found storedFound
        rwa [← commit, ← tree]
  · obtain ⟨stored, storedFound, witnessed⟩ := anchored
    refine ⟨stored, ?_, witnessed⟩
    rwa [find?_upsert, if_neg same]

theorem AllAnchored.move (move : Move permits before after)
    (anchored : AllAnchored before) :
    AllAnchored after := by
  cases move with
  | noted =>
    intro row member
    obtain ⟨checkpoint, found, witnessed⟩ := anchored row member
    exact ⟨checkpoint, found, witnessed.imp_right fun supported =>
      supported.mono (List.subset_append_left _ _)⟩
  | recaptured _ _ found commit tree =>
    intro row member
    exact (anchored row member).upsert fun _ => .inr ⟨_, found, commit, tree⟩
  | captured _ _ _ _ unverified =>
    intro row member
    refine (anchored row member).upsert fun key => .inl ?_
    rcases unverified with preserved | none
    · exact preserved
    · exact absurd ⟨row, member, congrArg Prod.fst key.symm, congrArg Prod.snd key.symm⟩ none
  | verdict _ _ found witnessed inserted =>
    intro stored member
    have lookup := mem_rows_iff.mp member
    rw [find?_of_insert? inserted] at lookup
    split at lookup
    · cases lookup
      exact ⟨_, found, .inr witnessed⟩
    · exact anchored stored (mem_rows_iff.mpr lookup)
  | discarded =>
    intro row member
    exact anchored row (mem_rows_delete.mp member).1
  | _ => exact anchored

theorem AllAnchored.change (change : Change permits before after)
    (anchored : AllAnchored before) :
    AllAnchored after := by
  cases change with
  | move move => exact anchored.move move
  | accept accepts =>
    obtain ⟨_, _, _, _, _, _, _, _, _, rfl⟩ := accepts
    exact anchored

/-- The verdicts and the checkpoint an acceptance was made on. -/
structure Verified (world : World) (runId candidate hash : String)
    (checkpoint : StoredCheckpoint) (test review : StoredEvidence) : Prop where
  checkpointFound : world.db.checkpoints.find? (runId, candidate) = some checkpoint
  oneTest : world.db.evidence.rows.filter (fun row =>
    row.runId == runId && row.candidate == candidate && row.kind == .test) = [test]
  oneReview : world.db.evidence.rows.filter (fun row =>
    row.runId == runId && row.candidate == candidate && row.kind == .review) = [review]
  testPassed : test.result = .pass
  reviewPassed : review.result = .pass
  testPolicy : test.policyHash = some hash
  reviewPolicy : review.policyHash = some hash
  testRun : .testRun runId candidate checkpoint.commitHash
    checkpoint.treeHash hash true ∈ world.journal
  reviewValidated : .reviewValidated runId candidate
    checkpoint.commitHash checkpoint.treeHash .pass ∈ world.journal

/-- The verdict rows of a kind are what its key finds. -/
theorem evidence_filter :
    world.db.evidence.rows.filter (fun row =>
        row.runId == runId && row.candidate == candidate && row.kind == kind) =
      (world.db.evidence.find? (runId, candidate, kind)).toList := by
  refine filter_rows_key ?_
  intro row
  simp only [Bool.and_eq_true, beq_iff_eq, StoredEvidence.key, Prod.mk.injEq, and_assoc]

/-- In an anchored world, what is acceptable was verified. -/
theorem Acceptable.verified (anchored : AllAnchored world)
    (acceptable : Acceptable world run candidate hash) :
    ∃ checkpoint test review, Verified world run.runId candidate hash checkpoint test review := by
  obtain ⟨checkpoint, test, review, checkpointFound, hexadecimal,
    testFound, reviewFound, testPassed, reviewPassed, testPolicy,
    reviewPolicy⟩ := acceptable.verdicts
  have witnessed : ∀ kind row, world.db.evidence.find? (run.runId, candidate, kind) = some row →
        Witnessed world.journal row checkpoint.commitHash checkpoint.treeHash ∧
        row.runId = run.runId ∧ row.candidate = candidate ∧
        row.kind = kind := by
    intro kind row found
    have key := key_of_find? found
    simp only [StoredEvidence.key, Prod.mk.injEq] at key
    obtain ⟨owner, ownCandidate, ownKind⟩ := key
    obtain ⟨stored, storedFound, support⟩ := anchored row (mem_of_find? found)
    rw [owner, ownCandidate] at storedFound
    obtain rfl : checkpoint = stored := mem_unique checkpointFound storedFound
    refine ⟨support.resolve_left ?_, owner, ownCandidate, ownKind⟩
    intro preserved
    rw [preserved] at hexadecimal
    cases hexadecimal
  obtain ⟨testWitness, testRun, testCandidate, testKind⟩ := witnessed .test test testFound
  obtain ⟨reviewWitness, reviewRun, reviewCandidate, reviewKind⟩ :=
    witnessed .review review reviewFound
  unfold Witnessed at testWitness reviewWitness
  rw [testKind, testRun, testCandidate] at testWitness
  rw [reviewKind, reviewRun, reviewCandidate, reviewPassed] at reviewWitness
  obtain ⟨noted, passed, executed, policy, result⟩ := testWitness
  obtain rfl : hash = noted := mem_unique testPolicy policy
  have passes : passed := by
    cases passed with
    | true => rfl
    | false =>
      rw [testPassed] at result
      cases result
  subst passes
  refine ⟨checkpoint, test, review, ?_⟩
  exact
    { checkpointFound
      oneTest := by rw [evidence_filter, testFound]; rfl
      oneReview := by rw [evidence_filter, reviewFound]; rfl
      testPassed
      reviewPassed
      testPolicy
      reviewPolicy
      testRun := executed
      reviewValidated := reviewWitness }

/-! ## Finished runs are frozen -/

/-- A finished run is not the open run of a guard. -/
theorem OpenRun.ne_finished (isOpen : OpenRun world run)
    (found : world.db.runs.find? runId = some finished)
    (terminal : finished.status.isTerminal) : run.runId ≠ runId := by
  intro same
  have lookup := isOpen.1
  rw [same, found, some.injEq] at lookup
  rw [lookup, isOpen.2] at terminal
  cases terminal

section

variable (change : Change permits before after)
include change

section

variable (found : before.db.runs.find? runId = some run)
    (terminal : run.status.isTerminal)
include found terminal

/-- The row of a finished run stays. -/
theorem finished_kept : after.db.runs.find? runId = some run := by
  cases change with
  | move move =>
    cases move with
    | created _ _ inserted => exact find?_insert?_of_found inserted found
    | moved isOpen same =>
      rw [find?_transitioned, if_neg]
      · exact found
      · rintro rfl
        exact isOpen.ne_finished found terminal same.symm
    | _ => exact found
  | accept accepts =>
    obtain ⟨acceptable, _, _, _, _, same, _, _, _, rfl⟩ := accepts
    rw [find?_transitioned, if_neg]
    · exact found
    · rintro rfl
      exact acceptable.isOpen.ne_finished found terminal same.symm

/-- The checkpoints of a finished run stay. -/
theorem finished_checkpoint_kept :
    after.db.checkpoints.find? (runId, candidate) =
      before.db.checkpoints.find? (runId, candidate) := by
  have other : ∀ (openRun : StoredRun) (checkpoint : StoredCheckpoint),
      OpenRun before openRun → checkpoint.runId = openRun.runId →
        (before.db.checkpoints.upsert checkpoint).find? (runId, candidate) =
          before.db.checkpoints.find? (runId, candidate) := by
    intro openRun checkpoint isOpen same
    rw [find?_upsert, if_neg]
    intro key
    exact isOpen.ne_finished found terminal (same.symm.trans (congrArg Prod.fst key))
  cases change with
  | move move =>
    cases move with
    | recaptured isOpen same | captured isOpen same => exact other _ _ isOpen same
    | _ => rfl
  | accept accepts =>
    obtain ⟨_, _, _, _, _, _, _, _, _, rfl⟩ := accepts
    rfl

/-- The finished verdicts of a finished run stay. -/
theorem finished_verdict_kept
    (rowFound : before.db.evidence.find? (runId, candidate, kind) = some row)
    (complete : row.result ≠ .incomplete) :
    after.db.evidence.find? (runId, candidate, kind) = some row := by
  cases change with
  | move move =>
    cases move with
    | verdict isOpen same _ _ insertion =>
      rw [find?_of_insert? insertion, if_neg]
      · exact rowFound
      · intro key
        exact isOpen.ne_finished found terminal (same.symm.trans (congrArg Prod.fst key))
    | discarded =>
      rw [find?_delete, rowFound, filter_some]
      simp [isPartial, complete]
    | _ => exact rowFound
  | accept accepts =>
    obtain ⟨_, _, _, _, _, _, _, _, _, rfl⟩ := accepts
    exact rowFound

end

/-- What is noted was noted before, or the change may note it. -/
theorem noted_before (noted : occurrence ∈ after.journal) :
    occurrence ∈ before.journal ∨ permits.notes occurrence := by
  cases change with
  | move move =>
    cases move with
    | noted allowed =>
      rcases List.mem_append.mp noted with earlier | new
      · exact .inl earlier
      · exact .inr (List.mem_singleton.mp new ▸ allowed)
    | _ => exact .inl noted
  | accept accepts =>
    obtain ⟨_, _, _, _, _, _, _, _, _, rfl⟩ := accepts
    exact .inl noted

/-- The journal only grows. -/
theorem journal_kept : before.journal ⊆ after.journal := by
  cases change with
  | move move =>
    cases move with
    | noted => exact List.subset_append_left _ _
    | _ => exact fun _ => id
  | accept accepts =>
    obtain ⟨_, _, _, _, _, _, _, _, _, rfl⟩ := accepts
    exact fun _ => id

end

/-- Every note was made by a call whose surroundings gave the answers for it. -/
theorem noted_by_call (history : List Event)
    (noted : occurrence ∈ (World.fresh.play history).journal) :
    ∃ call, .called call ∈ history ∧ call.service.Grounds call.operation occurrence := by
  induction history using List.reverseRecOn with
  | nil => cases noted
  | append_singleton history event ih =>
    rw [World.play_append] at noted
    have origin : occurrence ∈ (World.fresh.play history).journal ∨
        event.permits.notes occurrence := by
      refine invariant_of_path (fun reached : World => occurrence ∈ reached.journal →
        occurrence ∈ (World.fresh.play history).journal ∨ event.permits.notes occurrence)
        after_changes ?_ .inl noted
      exact fun _ _ change earlier later => (noted_before change later).elim earlier .inr
    rcases origin with before | allowed
    · obtain ⟨call, member, grounds⟩ := ih before
      exact ⟨call, List.mem_append_left _ member, grounds⟩
    · cases event with
      | opened => exact allowed.elim
      | called call => exact ⟨call, by simp, allowed⟩

theorem find?_of_filter_single
    (single : world.db.evidence.rows.filter (fun row =>
      row.runId == runId && row.candidate == candidate && row.kind == kind) = [row]) :
    world.db.evidence.find? (runId, candidate, kind) = some row := by
  rw [evidence_filter] at single
  cases found : world.db.evidence.find? (runId, candidate, kind) with
  | none =>
    rw [found] at single
    cases single
  | some stored =>
    rw [found] at single
    cases single
    rfl

/-- What a finished run was verified on stays as it is. -/
theorem Verified.kept
    (verified : Verified before runId candidate hash checkpoint test review)
    (change : Change permits before after)
    (found : before.db.runs.find? runId = some run)
    (terminal : run.status.isTerminal) :
    Verified after runId candidate hash checkpoint test review where
  checkpointFound := (finished_checkpoint_kept change found terminal).trans verified.checkpointFound
  oneTest := by
    rw [evidence_filter, finished_verdict_kept change found terminal
      (find?_of_filter_single verified.oneTest)
      (by rw [verified.testPassed]; simp)]
    rfl
  oneReview := by
    rw [evidence_filter, finished_verdict_kept change found terminal
      (find?_of_filter_single verified.oneReview)
      (by rw [verified.reviewPassed]; simp)]
    rfl
  testPassed := verified.testPassed
  reviewPassed := verified.reviewPassed
  testPolicy := verified.testPolicy
  reviewPolicy := verified.reviewPolicy
  testRun := journal_kept change verified.testRun
  reviewValidated := journal_kept change verified.reviewValidated

/-- What finished runs leave behind is still there: row, checkpoints and complete verdicts. -/
def FinishedKept (before after : World) : Prop :=
  ∀ runId run, before.db.runs.find? runId = some run → run.status.isTerminal →
    after.db.runs.find? runId = some run ∧
    (∀ candidate, after.db.checkpoints.find? (runId, candidate) =
      before.db.checkpoints.find? (runId, candidate)) ∧
    ∀ candidate kind row, before.db.evidence.find? (runId, candidate, kind) = some row →
      row.result ≠ .incomplete → after.db.evidence.find? (runId, candidate, kind) = some row

/-- No later operation, failing call or restart changes a finished run. -/
theorem finished_runs_kept (world : World) (history : List Event) :
    FinishedKept world (world.play history) := by
  refine World.play_invariant (FinishedKept world) ?_
    (fun _ _ found _ => ⟨found, fun _ => rfl, fun _ _ _ stored _ => stored⟩) history
  intro _ before after change kept runId run found terminal
  obtain ⟨here, checkpoints, verdicts⟩ := kept runId run found terminal
  refine ⟨finished_kept change here terminal, fun candidate => ?_, fun _ _ _ stored complete => ?_⟩
  · rw [finished_checkpoint_kept change here terminal, checkpoints]
  · exact finished_verdict_kept change here terminal (verdicts _ _ _ stored complete) complete

/-! ## The accepting call -/

/-- Moves accept no run. -/
theorem accepted_before_move (move : Move permits before after)
    (found : after.db.runs.find? runId = some run)
    (accepted : run.status = .accepted) :
    before.db.runs.find? runId = some run := by
  cases move with
  | created active _ inserted =>
    rw [find?_of_insert? inserted] at found
    split at found
    · cases found
      rw [active] at accepted
      cases accepted
    · exact found
  | moved _ _ unaccepted =>
    rw [find?_transitioned] at found
    split at found
    · obtain ⟨_, _, rfl⟩ := map_eq_some_iff.mp found
      exact absurd accepted unaccepted
    · exact found
  | _ => exact found

theorem accepted_before_moves (moves : Relation.ReflTransGen (Move permits) before after)
    (found : after.db.runs.find? runId = some run)
    (accepted : run.status = .accepted) :
    before.db.runs.find? runId = some run := by
  induction moves with
  | refl => exact found
  | tail _ move ih => exact ih (accepted_before_move move found accepted)

/-- An acceptance accepts its run, with its candidate, and no other. -/
theorem Accepts.result (accepts : Accepts run candidate hash before after)
    (found : after.db.runs.find? runId = some stored) :
    (run.runId = runId ∧ stored.status = .accepted ∧ stored.candidate = some candidate) ∨
      before.db.runs.find? runId = some stored := by
  obtain ⟨acceptable, _, _, _, _, same, status, kept, _, rfl⟩ := accepts
  rw [find?_transitioned] at found
  split at found
  · rename_i owned
    obtain ⟨_, _, rfl⟩ := map_eq_some_iff.mp found
    exact .inl ⟨(owned.trans same).symm, status, kept.trans acceptable.current⟩
  · exact .inr found

/--
The call accepted the run after the history before it: the run was open with
that candidate, some backup of it was known and none of its commands was
uncertain.
-/
structure AcceptedAt (before : List Event) (call : Call)
    (runId candidate hash : String) : Prop where
  named : hash ≠ "" ∧ ∃ expectedVersion, call.operation = .acceptance runId hash expectedVersion
  wasOpen : ∃ run, (World.fresh.play before).db.runs.find? runId = some run ∧
      run.status.isTerminal = false ∧ run.candidate = some candidate
  backedUp : BackupKnown (World.fresh.play before) runId
  certain : (World.fresh.play before).db.commandsIn runId .deliveryUnknown = []
  isAccepted : ∃ run, (World.fresh.play (before ++ [.called call])).db.runs.find? runId = some run ∧
      run.status = .accepted ∧ run.candidate = some candidate

theorem allAnchored_play (history : List Event) :
    AllAnchored (World.fresh.play history) :=
  World.play_invariant AllAnchored (fun _ _ _ change anchored => anchored.change change)
    allAnchored_fresh history

/-- The record of a finished run is the same after any further history. -/
theorem Verified.play
    (verified : Verified world runId candidate hash checkpoint test review)
    (found : world.db.runs.find? runId = some run)
    (terminal : run.status.isTerminal) (history : List Event) :
    Verified (world.play history) runId candidate hash checkpoint test review := by
  have both : (world.play history).db.runs.find? runId = some run ∧
      Verified (world.play history) runId candidate hash checkpoint test review := by
    refine World.play_invariant (fun reached => reached.db.runs.find? runId = some run ∧
        Verified reached runId candidate hash checkpoint test review)
      (fun _ earlier later change held => ?_) ⟨found, verified⟩ history
    exact ⟨finished_kept change held.1 terminal, held.2.kept change held.1 terminal⟩
  exact both.2

/-- One more event: an accepted run was accepted before, or just now. -/
theorem accepted_step (history : List Event) (event : Event)
    (found : (World.fresh.play (history ++ [event])).db.runs.find? runId =
      some run) (accepted : run.status = .accepted) :
    (World.fresh.play history).db.runs.find? runId = some run ∨
      ∃ call candidate hash checkpoint test review, event = .called call ∧
          AcceptedAt history call runId candidate hash ∧
          run.candidate = some candidate ∧
          Verified (World.fresh.play history) runId candidate hash checkpoint test review ∧
          Verified (World.fresh.play (history ++ [event])) runId candidate
            hash checkpoint test review := by
  have played : World.fresh.play (history ++ [event]) =
      (World.fresh.play history).after event := by
    rw [World.play_append]
    rfl
  rw [played] at found ⊢
  rcases after_follows (World.fresh.play history) event with
    moves | ⟨call, openRun, candidate, hash, version, rfl, named, accepts⟩
  · exact .inl (accepted_before_moves moves found accepted)
  rcases accepts.result found with ⟨rfl, status, current⟩ | before
  · have acceptable := accepts.1
    have anchored := allAnchored_play history
    obtain ⟨checkpoint, test, review, verified⟩ := acceptable.verified anchored
    refine .inr ⟨call, candidate, hash, checkpoint, test, review, rfl, ?_, current, verified, ?_⟩
    · exact
        { named := ⟨acceptable.named, version, named⟩
          wasOpen := ⟨openRun, acceptable.isOpen.1, acceptable.isOpen.2, acceptable.current⟩
          backedUp := acceptable.backedUp
          certain := acceptable.certain
          isAccepted := ⟨run, by rw [played]; exact found, status, current⟩ }
    · obtain ⟨_, _, _, _, _, _, _, _, _, final⟩ := accepts
      rw [final]
      exact ⟨verified.1, verified.2, verified.3, verified.4, verified.5,
        verified.6, verified.7, verified.8, verified.9⟩
  · exact .inl before

/-- An accepted run was accepted by some call of the history. -/
theorem accepted_at_some_call (history : List Event)
    (found : (World.fresh.play history).db.runs.find? runId = some run)
    (accepted : run.status = .accepted) :
    ∃ before call after candidate hash checkpoint test review,
      history = before ++ .called call :: after ∧
        AcceptedAt before call runId candidate hash ∧
        run.candidate = some candidate ∧
        Verified (World.fresh.play before) runId candidate hash checkpoint test review ∧
        Verified (World.fresh.play history) runId candidate hash checkpoint test review := by
  induction history using List.reverseRecOn with
  | nil => cases found
  | append_singleton history event ih =>
    rcases accepted_step history event found accepted with
      earlier | ⟨call, candidate, hash, checkpoint, test, review, rfl,
        acceptedAt, current, first, latest⟩
    · obtain ⟨before, call, after, candidate, hash, checkpoint, test,
        review, rfl, acceptedAt, current, first, latest⟩ :=
        ih earlier
      refine ⟨before, call, after ++ [event], candidate, hash, checkpoint, test,
        review, by simp, acceptedAt, current, first, ?_⟩
      rw [World.play_append]
      exact latest.play earlier (by rw [accepted]; rfl) [event]
    · exact ⟨history, call, [], candidate, hash, checkpoint, test,
        review, rfl, acceptedAt, current, first, latest⟩

/-- The call is in the history, and its surroundings gave the answers for the note. -/
def Event.Backs (history : List Event) (occurrence : Occurrence)
    (call : Call) : Prop :=
  .called call ∈ history ∧ call.service.Grounds call.operation occurrence

/--
Whenever a run is accepted after a history of the backend on a fresh store,
some call of the history accepted it with its candidate and named the policy
hash of its single passing test and review verdicts.  Earlier calls had run
the test, with exit code zero, in a checkout of which git had named the commit
and tree of the candidate's checkpoint, and had read a passing review of just
these.
-/
theorem accepted_run_verified (history : List Event) (runId : String)
    (run : StoredRun)
    (found : (World.fresh.play history).db.runs.find? runId = some run)
    (accepted : run.status = .accepted) :
    ∃ before call after candidate hash,
      history = before ++ .called call :: after ∧
      run.candidate = some candidate ∧
      AcceptedAt before call runId candidate hash ∧
      ∃ checkpoint test review,
        Verified (World.fresh.play history) runId candidate hash checkpoint test review ∧
        (∃ testing, Event.Backs before (.testRun runId candidate checkpoint.commitHash
          checkpoint.treeHash hash true) testing) ∧
        ∃ reviewing, Event.Backs before (.reviewValidated runId candidate
          checkpoint.commitHash checkpoint.treeHash .pass) reviewing := by
  obtain ⟨before, call, after, candidate, hash, checkpoint, test, review,
    split, acceptedAt, current, first, verified⟩ :=
    accepted_at_some_call history found accepted
  exact ⟨before, call, after, candidate, hash, split, current, acceptedAt,
    checkpoint, test, review, verified, noted_by_call before first.testRun,
    noted_by_call before first.reviewValidated⟩

/-! ## A history that accepts -/

/-- Surroundings in which every request succeeds, for one candidate. -/
def calmEnvironment (candidate commit tree : String)
    (objectName : Text.isHexadecimal commit) : Environment where
  git _ arguments :=
    match arguments with
    | ["rev-parse", "HEAD"] => .ok commit
    | ["rev-parse", _] => .ok tree
    | "ls-remote" :: _ => .ok commit
    | _ => .ok ""
  headIsObjectName := by
    rintro dir head ⟨⟩
    exact objectName
  readFile _ := .ok []
  fileLength _ := .ok 0
  isDirectory _ := true
  pathExists _ := false
  createDirectory _ := .ok ()
  runTestCommand _ _ _ := .ok ⟨0, false, [], []⟩
  writeArtifact _ _ := .ok ()
  verifyArtifact _ _ := .ok true
  sha256Hex _ := "cafe"
  parseReview _ := .ok ⟨1, candidate, commit, tree, .pass, []⟩
  freshId := "1"
  now := 0

/-- Operations of the first service, with no failing statement. -/
def calls (env : Environment) (operations : List Operation) : List Event :=
  operations.map fun operation => .called ⟨⟨1, env⟩, [], operation⟩

def observe (expectedVersion : Int) (observation : String) : Operation :=
  .advanceRun "run-1" expectedVersion "host" observation none

/-- Start a run and finish its first turn, up to version 2. -/
def implementation : List Operation :=
  [.startRun "plan" 3 "key", observe 0 "turn_started", observe 1 "turn_ended"]

/-- Record a candidate and its checkpoint, one version on. -/
def capture (candidate commit : String) (version : Int) : List Operation :=
  [.recordCandidate "run-1" candidate version,
    .recordCheckpoint ⟨"run-1", candidate, commit, "", "manifest", "/src",
      "pending", none⟩ (version + 1)]

/-- Test and review the current candidate, three versions on. -/
def verification (version : Int) : List Operation :=
  [observe version "test_started", .recordTest "run-1" (version + 1)
      ⟨"python", "check.py", "cafe", [⟨"check.py", "cafe"⟩], none, "/scratch", 60⟩,
    observe (version + 1) "test_passed",
    .recordReview "run-1" (version + 2) "review.json" "cafe",
    observe (version + 2) "review_passed"]

def firstEnvironment : Environment := calmEnvironment "c1" "aaa1" "aaa2" (by decide)

/-- One candidate is captured, verified, backed up and accepted. -/
def acceptingHistory : List Event :=
  .opened :: calls firstEnvironment (implementation ++ capture "c1" "aaa1" 2 ++ verification 3 ++
      [.recordBackup "run-1" 6 "origin" "refs/heads/c1", .acceptance "run-1" "cafe" 6])

/-- The accepted row that history leaves. -/
def acceptedRun : StoredRun where
  runId := "run-1"
  planHash := "plan"
  maxRepairTurns := 3
  idempotencyKey := "key"
  status := .accepted
  stage := .decide
  round := 0
  candidate := some "c1"
  candidateGeneration := 1
  version := 7
  ownerEpoch := 1
  pauseKind := none

theorem acceptedRun_found :
    (World.fresh.play acceptingHistory).db.runs.find? "run-1" = some acceptedRun := by
  decide +kernel

theorem acceptingHistory_verified :
    ∃ before call after candidate hash,
      acceptingHistory = before ++ .called call :: after ∧
      acceptedRun.candidate = some candidate ∧
      AcceptedAt before call "run-1" candidate hash ∧
      ∃ checkpoint test review,
        Verified (World.fresh.play acceptingHistory) "run-1" candidate hash
          checkpoint test review ∧
        (∃ testing, Event.Backs before (.testRun "run-1" candidate checkpoint.commitHash
          checkpoint.treeHash hash true) testing) ∧
        ∃ reviewing, Event.Backs before (.reviewValidated "run-1" candidate
          checkpoint.commitHash checkpoint.treeHash .pass) reviewing :=
  accepted_run_verified acceptingHistory "run-1" acceptedRun acceptedRun_found rfl

end Jackin.Workflow
