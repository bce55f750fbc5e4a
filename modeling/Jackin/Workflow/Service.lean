import Jackin.Workflow.RunStore
import Jackin.Workflow.Verify

/-!
# The workflow service

Each method is translated guard by guard and statement by statement.  A method
acts through an open store with an owner epoch, and in an environment that
answers for git, the file system, the sandbox and the generator of
identifiers.

Three notes record what the service did outside of the database: the
execution of a test in a pinned worker, the validation of a review, and the
confirmation of a remote ref.
-/

namespace Jackin.Workflow

open Foundation
open Foundation.Program (ensure require lift)

variable {runId : String} {session : Session} {run : StoredRun} {world : World}

/-- An open service: its owner epoch and what it sees during one call. -/
structure Service where
  epoch : Nat
  env : Environment

def Service.store (service : Service) : RunStore := ⟨service.epoch, service.env.now⟩

/-- Record an action outside of the database. -/
def note (occurrence : Occurrence) : Method Unit :=
  modify fun session =>
    { session with
      world := { session.world with journal := session.world.journal ++ [occurrence] } }

/-! ## Summaries -/

variable {service : Service}

structure RunSummary where
  runId : String
  planHash : String
  status : RunStatus
  stage : Stage
  round : Nat
  candidate : Option String
  candidateGeneration : Nat
  version : Int
  ownerEpoch : Nat
  pauseKind : Option String
  maxRepairTurns : Nat

def summarize (stored : StoredRun) : RunSummary where
  runId := stored.runId
  planHash := stored.planHash
  status := stored.status
  stage := stored.stage
  round := stored.round
  candidate := stored.candidate
  candidateGeneration := stored.candidateGeneration
  version := stored.version
  ownerEpoch := stored.ownerEpoch
  pauseKind := stored.pauseKind
  maxRepairTurns := stored.maxRepairTurns

/-- The run, or the failure that names it. -/
def requireRun (runId : String) : Method StoredRun := do
  let stored ← loadRun runId
  require stored (.notFound ("run " ++ runId ++ " not found"))

theorem requireRun_reads :
    Reads (requireRun runId) world (fun run => world.db.runs.find? runId = some run) := by
  refine Reads.query.bind ?_
  rintro stored rfl
  exact .require

theorem requireRun_ok_iff :
    (requireRun runId).exec session = (.ok run, reached) ↔
      session.faults.head?.join = none ∧
        session.world.db.runs.find? runId = some run ∧
        reached = session.afterStatement session.world.db := by
  rw [requireRun, Program.exec_bind_ok_iff]
  constructor
  · rintro ⟨loaded, read, reading, rest⟩
    obtain ⟨fate, rfl, rfl⟩ := query_ok_iff.mp reading
    obtain ⟨found, rfl⟩ := Program.require_ok rest
    exact ⟨fate, found, rfl⟩
  · rintro ⟨fate, found, rfl⟩
    refine ⟨_, _, query_ok_iff.mpr ⟨fate, rfl, rfl⟩, ?_⟩
    rw [found]
    rfl

def summaryOf (runId : String) : Method RunSummary := do
  let stored ← requireRun runId
  return summarize stored

theorem summaryOf_reads :
    Reads (summaryOf runId) world
      (fun summary => ∃ run, world.db.runs.find? runId = some run ∧ summary = summarize run) := by
  refine requireRun_reads.bind ?_
  intro run found
  exact .pure ⟨run, found, rfl⟩

theorem requireRun_answers (found : world.db.runs.find? runId = some run) :
    Answers (requireRun runId) world (fun loaded after => loaded = run ∧ after = world) :=
  ⟨run, world, requireRun_ok_iff.mpr ⟨rfl, found, rfl⟩, rfl, rfl⟩

theorem summaryOf_answers (stored : (world.db.runs.find? runId).isSome) :
    Answers (summaryOf runId) world (fun _ after => after = world) := by
  obtain ⟨_, found⟩ := Option.isSome_iff_exists.mp stored
  refine .bind (requireRun_answers found) ?_
  rintro loaded after ⟨_, same⟩
  exact .pure same

def runSummary (runId : Option String) : Method RunSummary := do
  match runId with
  | some runId => summaryOf runId
  | none =>
    let active ← activeRun
    let run ← require active (.notFound "no active run")
    return summarize run

theorem runSummary_reads {runId} :
    Reads (runSummary runId) world (fun _ => True) := by
  cases runId with
  | some runId => exact summaryOf_reads.weaken fun _ _ => trivial
  | none =>
    refine Reads.query.bind ?_
    intro active _
    refine Reads.require.bind ?_
    intro run _
    exact .pure trivial

def listRuns (limit : Nat) : Method (List RunSummary) := do
  let runs ← listStoredRuns limit
  return runs.map summarize

theorem listRuns_reads : Reads (listRuns limit) world (fun _ => True) := by
  refine Reads.query.bind ?_
  intro runs _
  exact .pure trivial

/-- A run with all that is stored about it. -/
structure RunDetail where
  summary : RunSummary
  sessions : List StoredSession
  effects : List StoredEffect
  events : List StoredEvent
  evidence : List StoredEvidence
  checkpoints : List StoredCheckpoint

def runDetail (runId : String) (afterSeq : Int)
    (eventLimit : Nat) : Method RunDetail := do
  let summary ← summaryOf runId
  let sessions ← loadSessions runId
  let effects ← loadEffects runId
  let events ← loadEvents runId afterSeq eventLimit
  let evidence ← loadEvidence runId
  let checkpoints ← loadCheckpoints runId
  return ⟨summary, sessions, effects, events, evidence, checkpoints⟩

theorem runDetail_reads :
    Reads (runDetail runId afterSeq eventLimit) world (fun _ => True) := by
  refine summaryOf_reads.bind ?_
  intro summary _
  refine Reads.query.bind ?_
  intro sessions _
  refine Reads.query.bind ?_
  intro effects _
  refine Reads.query.bind ?_
  intro events _
  refine Reads.query.bind ?_
  intro evidence _
  refine Reads.query.bind ?_
  intro checkpoints _
  exact .pure trivial

/-! ## Starting and moving a run -/

def Service.startRun (service : Service) (planHash : String)
    (maxRepairTurns : Nat) (idempotencyKey : String) :
    Method RunSummary := do
  ensure (¬(Text.isBlank idempotencyKey ∨ Text.isBlank planHash))
    (.invalid "plan hash and idempotency key are required")
  match ← loadRunByKey idempotencyKey with
  | some existing => return summarize existing
  | none =>
    match ← activeRun with
    | some active =>
      throw (.busy ("run " ++ active.runId ++ " is already active; no queue in the MVP"))
    | none =>
      let runId := "run-" ++ service.env.freshId
      service.store.createRun runId planHash maxRepairTurns idempotencyKey
      let _ ← ensureEffect runId .launch ("plan:" ++ planHash)
      summaryOf runId

/-- What a service method asks of a run it has loaded. -/
structure TransitionRequest where
  status : RunStatus
  stage : Stage
  round : Nat
  pauseKind : Option String
  actor : String
  eventKind : String
  effect : Option StoredEffect

/-- The transition that keeps the loaded version and candidate. -/
def TransitionRequest.toTransition (request : TransitionRequest)
    (stored : StoredRun) : RunTransition where
  runId := stored.runId
  expectedVersion := stored.version
  status := request.status
  stage := request.stage
  round := request.round
  candidate := stored.candidate
  candidateGeneration := stored.candidateGeneration
  pauseKind := request.pauseKind
  eventActor := request.actor
  eventKind := request.eventKind
  effect := request.effect

def Service.apply (service : Service) (stored : StoredRun)
    (request : TransitionRequest) : Method Unit :=
  service.store.applyTransition (request.toTransition stored)

/-- Without faults a request on the loaded row moves it. -/
theorem apply_answers (found : world.db.runs.find? runId = some run)
    (plain : request.effect = none) :
    Answers (service.apply run request) world (fun _ after => ∃ events, after =
        world.transitioned (request.toTransition run) service.epoch events world.db.effects) := by
  have key : run.runId = runId := Table.key_of_find? found
  subst key
  exact applyTransition_answers found rfl plain

section

variable (stored : StoredRun)

def viewOf : RunView where
  status := stored.status
  stage := stored.stage
  round := stored.round
  candidateGeneration := stored.candidateGeneration

/-- A finished turn plans the capture of its work. -/
def effectFor (next : NextState) (runId : String) : Option StoredEffect :=
  if next.eventKind = "turn_ended" ∧ (next.status = .active ∨ next.status = .paused) then
    some (.planned runId (runId ++ ":capture:" ++ toString (next.round + 1)) .capture
      (runId ++ ":capture"))
  else none

def actorLabel : Actor → String
  | .host => "host"
  | .worker => "worker"

/-- The transition of an observation on a loaded run. -/
def observedTransition (runId : String) (expectedVersion : Int) (actor : Actor)
    (next : NextState) :
    RunTransition where
  runId := runId
  expectedVersion := expectedVersion
  status := next.status
  stage := next.stage
  round := next.round
  candidate := stored.candidate
  candidateGeneration := stored.candidateGeneration
  pauseKind := stored.pauseKind
  eventActor := actorLabel actor
  eventKind := next.eventKind
  effect := effectFor next runId

def Service.submitObservation (service : Service) (runId : String)
    (expectedVersion : Int)
    (callerEpoch : Nat) (actor : Actor)
    (observation : Observation) : Method RunSummary := do
  ensure (callerEpoch = service.epoch) (.staleEpoch ("caller epoch " ++ toString callerEpoch ++
      " is older than owner epoch " ++ toString service.epoch))
  let stored ← requireRun runId
  let next ← lift ((advance (viewOf stored) stored.maxRepairTurns observation
      actor).mapError fun refusal => .blocked refusal.reason)
  service.store.applyTransition (observedTransition stored runId expectedVersion actor next)
  summaryOf runId

def checkExpectedVersion (runId : String)
    (expectedVersion : Int) : Method Unit :=
  ensure (stored.version = expectedVersion) (.staleVersion
    ("run " ++ runId ++ " moved: expected version " ++
      toString expectedVersion ++ ", found " ++ toString stored.version))

def checkCandidateId (candidate : String) : Method Unit :=
  ensure (Text.isPathSafe candidate)
    (.invalid "candidate must be a single non-empty path-safe token")

/-- Finished runs take no further records. -/
def checkOpen : Method Unit :=
  ensure (¬stored.status.isTerminal) (.invalid "run is terminal")

end

/-- The loaded run at the version the caller saw, not yet finished. -/
def requireOpenRun (runId : String)
    (expectedVersion : Int) : Method StoredRun := do
  let stored ← requireRun runId
  checkExpectedVersion stored runId expectedVersion
  checkOpen stored
  return stored

theorem requireOpenRun_reads :
    Reads (requireOpenRun runId expectedVersion) world
      (fun run => world.db.runs.find? runId = some run ∧ run.version = expectedVersion ∧
        run.status.isTerminal = false) := by
  refine requireRun_reads.bind ?_
  intro run found
  refine Reads.ensure.bind ?_
  intro _ current
  refine Reads.ensure.bind ?_
  intro _ isOpen
  exact .pure ⟨found, current, by simpa using isOpen⟩

/-- The checkpoint of a candidate among the loaded ones. -/
def findCheckpoint (runId candidate : String) (missing : WorkflowError) :
    Method StoredCheckpoint := do
  let checkpoints ← loadCheckpoints runId
  require (checkpoints.find? (·.candidate == candidate)) missing

theorem findCheckpoint_reads :
    Reads (findCheckpoint runId candidate missing) world (fun checkpoint =>
        world.db.checkpoints.find? (runId, candidate) = some checkpoint) := by
  refine Reads.query.bind ?_
  rintro checkpoints rfl
  refine Reads.require.weaken ?_
  intro checkpoint found
  rw [← found]
  refine (Table.find?_filter_rows ?_).symm
  intro row
  simp [StoredCheckpoint.key]

def captureFirst (candidate : String) : WorkflowError :=
  .blocked ("candidate `" ++ candidate ++ "` has no checkpoint; capture it first")

def noCandidate : WorkflowError := .blocked "no candidate is recorded for this run"

def Service.recordCandidate (service : Service) (runId candidateId : String)
    (expectedVersion : Int)
    (actor : String) : Method RunSummary := do
  checkCandidateId candidateId
  let stored ← requireOpenRun runId expectedVersion
  let evidence ← loadEvidence runId
  ensure (¬evidence.any (·.candidate == candidateId))
    (.invalid ("candidate `" ++ candidateId ++
      "` already carries verification evidence; record a new candidate"))
  service.store.applyTransition
    { runId, expectedVersion, status := stored.status, stage := stored.stage
      round := stored.round, candidate := some candidateId
      candidateGeneration := stored.candidateGeneration + 1
      pauseKind := stored.pauseKind, eventActor := actor
      eventKind := "candidate_recorded", effect := none }
  summaryOf runId

def Service.recordSession (service : Service) (session : SessionAttachment)
    (expectedVersion : Int) (actor : String) : Method RunSummary := do
  let _ ← requireOpenRun session.runId expectedVersion
  ensure (¬Text.isBlank session.workerId) (.invalid "worker id is required")
  recordSessionRow session
  service.store.appendEvent session.runId actor "worker_started" (some session.workerId)
  summaryOf session.runId

/-- A verified candidate may not change its source. -/
def checkUnchangedSource (checkpoint : StoredCheckpoint)
    (verifiedTree : String) : Method Unit := do
  let evidence ← loadEvidence checkpoint.runId
  if evidence.any (·.candidate == checkpoint.candidate) then
    let previous ← findCheckpoint checkpoint.runId checkpoint.candidate
      (.storage ("candidate `" ++ checkpoint.candidate ++ "` has evidence but no checkpoint"))
    ensure (previous.commitHash = checkpoint.commitHash ∧ previous.treeHash = verifiedTree)
      (.invalid ("candidate `" ++ checkpoint.candidate ++ "` already has verification evidence; " ++
        "changed source needs a new candidate"))
  else pure ()

/-- A candidate that carries a verdict. -/
def World.hasVerdict (world : World) (runId candidate : String) : Prop :=
  ∃ row ∈ world.db.evidence.rows, row.runId = runId ∧ row.candidate = candidate

theorem any_evidenceOf :
    (world.db.evidenceOf runId).any (·.candidate == candidate) ↔
      world.hasVerdict runId candidate := by
  simp only [Database.evidenceOf, List.any_filter, List.any_eq_true,
    Bool.and_eq_true, beq_iff_eq, World.hasVerdict]

theorem checkUnchangedSource_reads :
    Reads (checkUnchangedSource checkpoint verifiedTree) world (fun _ =>
        ¬world.hasVerdict checkpoint.runId checkpoint.candidate ∨ ∃ previous,
            world.db.checkpoints.find? checkpoint.key = some previous ∧
              previous.commitHash = checkpoint.commitHash ∧
              previous.treeHash = verifiedTree) := by
  refine Reads.query.bind ?_
  rintro evidence rfl
  split
  · refine findCheckpoint_reads.bind ?_
    intro previous found
    refine Reads.ensure.weaken ?_
    intro _ same
    exact .inr ⟨previous, found, same⟩
  · rename_i unverified
    exact .pure (.inl fun verified => unverified (any_evidenceOf.mpr verified))

def Service.recordCheckpoint (service : Service)
    (checkpoint : StoredCheckpoint) (expectedVersion : Int) :
    Method RunSummary := do
  let stored ← requireOpenRun checkpoint.runId expectedVersion
  ensure (stored.candidate = some checkpoint.candidate)
    (.invalid ("checkpoint candidate `" ++ checkpoint.candidate ++
      "` does not match the recorded run candidate `" ++
      stored.candidate.getD "none" ++ "`"))
  let verifiedTree ← lift (verifySource service.env checkpoint.localPath
    checkpoint.commitHash checkpoint.candidate)
  ensure (Text.isBlank checkpoint.treeHash ∨ checkpoint.treeHash = verifiedTree)
    (.invalid ("recorded tree " ++ checkpoint.treeHash ++
      " does not match the local source tree " ++ verifiedTree))
  checkUnchangedSource checkpoint verifiedTree
  recordCheckpointRow { checkpoint with treeHash := verifiedTree }
  service.store.appendEvent checkpoint.runId "host" "checkpoint_created" (some checkpoint.candidate)
  summaryOf checkpoint.runId

/-! ## Verdicts -/

def Service.writeArtifact (service : Service) (name : String)
    (bytes : List UInt8) : Method String := do
  lift (service.env.writeArtifact name bytes)
  return service.env.sha256Hex bytes

theorem writeArtifact_reads :
    Reads (service.writeArtifact name bytes) world
      (fun digest => digest = service.env.sha256Hex bytes) := by
  refine Reads.lift.bind ?_
  intro _ _
  exact .pure rfl

/-- What a test is run with. -/
structure RecordTestParams where
  checkProgram : String
  checkScript : String
  bundleDigest : String
  bundleFiles : List TestBundleFile
  repo : Option String
  scratch : String
  timeoutSecs : Nat

structure RecordedTest where
  passed : Bool
  policyHash : String
  artifactDigest : String
  workerId : String
  exitCode : Int

structure RecordedReview where
  acceptable : Bool
  artifactDigest : String

/-- The check script must be a member of the frozen bundle. -/
def Service.checkBundle (service : Service)
    (params : RecordTestParams) : Method Unit := do
  let script ← lift ((service.env.readFile params.checkScript).mapError fun reason =>
      .invalid ("cannot read check script " ++ params.checkScript ++ ": " ++ reason))
  let scriptDigest := service.env.sha256Hex script
  ensure (params.bundleFiles.any (·.digest == scriptDigest))
    (.invalid "check script is not a member of the frozen test bundle")
  ensure (bundleManifestDigest service.env params.bundleFiles = params.bundleDigest)
    (.invalid "test bundle manifest does not match the frozen bundle digest")

theorem checkBundle_reads :
    Reads (service.checkBundle params) world (fun _ => True) := by
  refine Reads.lift.bind ?_
  intro script _
  refine Reads.ensure.bind ?_
  intro _ _
  exact Reads.ensure.weaken fun _ _ => trivial

/-- Run the frozen policy in a worker pinned to the checkpoint. -/
def Service.runTest (service : Service) (stored : StoredRun)
    (checkpoint : StoredCheckpoint) (params : RecordTestParams) :
    Method (TestResult × TestExecution) := do
  let workerId := workerIdOf stored.runId stored.round checkpoint.candidate
  let workDir := joinPath params.scratch workerId
  let policy ← lift (TestPolicy.freeze service.env
    [params.checkProgram, params.checkScript, workDir] params.timeoutSecs)
  let spec ← lift (TestWorkerSpec.new stored.runId stored.round
    checkpoint.candidate checkpoint.commitHash checkpoint.treeHash policy)
  let worker ← lift (prepareTestWorker service.env
    (params.repo.getD checkpoint.localPath) spec params.scratch)
  let execution ← lift (service.env.runTestCommand policy worker params.bundleFiles)
  let result := TestResult.fromExecution spec policy execution
  note (.testRun stored.runId checkpoint.candidate worker.commit worker.tree
    result.policyHash result.passed)
  return (result, execution)

/--
A test that answers was executed on the commit and tree of the checkpoint;
one that fails left no note.
-/
theorem runTest_ends (service : Service) (stored : StoredRun)
    (checkpoint : StoredCheckpoint) (params : RecordTestParams) :
    (service.runTest stored checkpoint params).Ends ⟨world, faults⟩ (fun outcome reached =>
        outcome.1.candidateId = checkpoint.candidate ∧
        reached.world =
          { world with
            journal := world.journal ++
              [.testRun stored.runId checkpoint.candidate checkpoint.commitHash
                checkpoint.treeHash outcome.1.policyHash outcome.1.passed] })
      (·.world = world) := by
  refine Reads.lift.ends_bind (fun _ => rfl) fun policy _ _ => ?_
  refine Reads.lift.ends_bind (fun _ => rfl) fun spec _ made => ?_
  refine Reads.lift.ends_bind (fun _ => rfl) fun worker _ preparing => ?_
  refine Reads.lift.ends_bind (fun _ => rfl) fun execution _ _ => ?_
  obtain ⟨candidate, commit, tree⟩ := TestWorkerSpec.new_names made
  obtain ⟨workerCommit, workerTree, _⟩ := prepareTestWorker_pinned preparing
  rw [workerCommit, workerTree, commit, tree]
  exact ⟨candidate, rfl⟩

section

variable (service : Service) (runId : String) (expectedVersion : Int)

def Service.recordTest (params : RecordTestParams) :
    Method (RunSummary × RecordedTest) := do
  let stored ← requireOpenRun runId expectedVersion
  ensure (stored.stage = .test) (.invalid "recorded tests belong to the test stage")
  let candidate ← require stored.candidate noCandidate
  let checkpoint ← findCheckpoint runId candidate (captureFirst candidate)
  let evidence ← loadEvidence runId
  ensure (¬evidence.any (fun row =>
      row.candidate == candidate && row.kind == .test))
    (.invalid ("test evidence already recorded for `" ++ candidate ++
      "`; record a new candidate to re-verify"))
  service.checkBundle params
  let (result, execution) ← service.runTest stored checkpoint params
  let artifact ← service.writeArtifact ("test-output-" ++ candidate)
    (testOutputBytes candidate execution)
  recordEvidence (testEvidence runId result artifact)
  service.store.appendEvent runId "host" "test_completed" (some result.candidateId)
  let summary ← summaryOf runId
  return (summary, ⟨result.passed, result.policyHash, artifact, result.workerId, result.exitCode⟩)

def Service.recordReview (reviewFile policyHash : String) :
    Method (RunSummary × RecordedReview) := do
  let stored ← requireOpenRun runId expectedVersion
  ensure (stored.stage = .review) (.invalid "recorded reviews belong to the review stage")
  ensure (¬Text.isBlank policyHash) (.invalid "review evidence needs the recorded test policy hash")
  let candidate ← require stored.candidate noCandidate
  let checkpoint ← findCheckpoint runId candidate (captureFirst candidate)
  let evidence ← loadEvidence runId
  let recordedPolicy ← require ((evidence.find? (fun row =>
      row.candidate == candidate && row.kind == .test)).bind StoredEvidence.policyHash)
    (.blocked ("candidate `" ++ candidate ++
      "` has no recorded test verdict; record the test verdict first"))
  ensure (recordedPolicy = policyHash) (.invalid ("review policy `" ++ policyHash ++
      "` does not match the recorded test policy `" ++ recordedPolicy ++
      "` for `" ++ candidate ++ "`"))
  ensure (¬evidence.any (fun row =>
      row.candidate == candidate && row.kind == .review))
    (.invalid ("review evidence already recorded for `" ++ candidate ++
      "`; record a new candidate to re-verify"))
  let bytes ← lift (readReviewBytes service.env reviewFile)
  let result ← lift (validateReview service.env bytes
    ⟨candidate, checkpoint.commitHash, checkpoint.treeHash⟩)
  note (.reviewValidated runId candidate result.commit result.tree result.status.verdict)
  let artifact ← service.writeArtifact ("review-" ++ candidate) bytes
  recordEvidence (reviewEvidence runId candidate policyHash result artifact)
  service.store.appendEvent runId "host" "review_completed" (some candidate)
  let summary ← summaryOf runId
  return (summary, ⟨reviewAcceptable result, artifact⟩)

/-- Store a confirmed backup: its effect, its checkpoint and its event. -/
def Service.storeBackup (candidate : String)
    (checkpoint : StoredCheckpoint) (remote gitRef actor : String) :
    Method RunSummary := do
  let effect ← ensureEffect runId .backup (runId ++ ":backup")
  service.store.setEffect runId effect.operationId .done (some (remote ++ " " ++ gitRef)) none
  recordCheckpointRow
    { checkpoint with runId, candidate, backupState := "done:" ++ gitRef }
  service.store.appendEvent runId actor "checkpoint_backup_changed" (some effect.operationId)
  summaryOf runId

def Service.recordBackup (remote gitRef actor : String) :
    Method RunSummary := do
  ensure (¬(Text.isBlank remote ∨ Text.isBlank gitRef))
    (.invalid "backup remote and ref are required")
  let stored ← requireOpenRun runId expectedVersion
  let candidate ← require stored.candidate noCandidate
  let checkpoint ← findCheckpoint runId candidate (captureFirst candidate)
  let listing ← lift (service.env.git checkpoint.localPath ["ls-remote", remote, gitRef])
  let resolved := Text.firstToken listing
  ensure (resolved = checkpoint.commitHash)
    (.blocked ("backup ref `" ++ gitRef ++ "` resolves to `" ++ resolved ++
      "`, not the candidate commit " ++ checkpoint.commitHash ++
      "; push the candidate first"))
  note (.backupConfirmed runId resolved remote gitRef)
  service.storeBackup runId candidate checkpoint remote gitRef actor

/-- The single test and review verdicts of a candidate. -/
def singleVerdicts (evidence : List StoredEvidence) (candidate : String) :
    Except WorkflowError (StoredEvidence × StoredEvidence) :=
  let rows := evidence.filter (·.candidate == candidate)
  let tests := rows.filter (·.kind == .test)
  let reviews := rows.filter (·.kind == .review)
  match tests, reviews with
  | [], _ | _, [] =>
    .error (.blocked
      ("incomplete candidate evidence: recorded test and review " ++ "verdicts are required"))
  | [test], [review] => .ok (test, review)
  | _, _ =>
    .error (.blocked
      ("ambiguous candidate evidence: exactly one recorded verdict " ++ "per kind is required"))

/-- What the decision is made on. -/
def candidateEvidence (stored : StoredRun) (candidate : String)
    (checkpoint : StoredCheckpoint) (test review : StoredEvidence)
    (policy expectedPolicyHash : String)
    (sourceCurrent backupSatisfied uncertaintyPending : Bool) :
    CandidateEvidence where
  candidate := ⟨candidate, checkpoint.commitHash, checkpoint.treeHash, stored.candidateGeneration⟩
  current := ⟨candidate, checkpoint.commitHash, checkpoint.treeHash, stored.candidateGeneration⟩
  verification := ⟨test.result == .pass, review.result == .pass, policy, expectedPolicyHash⟩
  readiness := ⟨sourceCurrent, backupSatisfied⟩
  ownership := ⟨true, true, uncertaintyPending⟩
  round := stored.round
  maxRepairTurns := stored.maxRepairTurns

def Service.acceptRun (expectedPolicyHash : String) :
    Method RunSummary := do
  let stored ← requireOpenRun runId expectedVersion
  ensure (stored.stage = .decide) (.blocked "acceptance requires the decide stage")
  let candidate ← require stored.candidate (.blocked "incomplete candidate evidence")
  let checkpoint ← findCheckpoint runId candidate (.blocked "incomplete candidate evidence")
  let evidence ← loadEvidence runId
  let (test, review) ← lift (singleVerdicts evidence candidate)
  let policy := test.policyHash.getD ""
  ensure (¬policy.isEmpty ∧ review.policyHash = some policy)
    (.blocked "stale evidence: test and review verdicts disagree on the policy")
  let verified := verifySource service.env checkpoint.localPath checkpoint.commitHash candidate
  let effects ← loadEffects runId
  let backupSatisfied := effects.any (fun effect =>
    effect.kind == .backup && effect.status == .done)
  let uncertain ← commandsInState runId .deliveryUnknown
  match decideCandidate (candidateEvidence stored candidate checkpoint test
      review policy expectedPolicyHash verified.isOk backupSatisfied
      (!uncertain.isEmpty)) with
  | .accept => service.submitObservation runId expectedVersion service.epoch .host .verifiedCurrent
  | .repair =>
    throw (.blocked ("verification did not pass and the repair budget remains; " ++
        "repair the candidate instead of accepting"))
  | .fail reason | .needsOperator reason => throw (.blocked reason)

def parseActor : String → Option Actor
  | "host" => some .host
  | "worker" => some .worker
  | _ => none

def parseObservation : String → Option Observation
  | "turn_started" => some .turnStarted
  | "turn_ended" => some .turnEnded
  | "test_started" => some .testStarted
  | "test_passed" => some .testPassed
  | "test_failed" => some .testFailed
  | "review_passed" => some .reviewPassed
  | "review_failed" => some .reviewFailed
  | "verified_current" => some .verifiedCurrent
  | "infra_failed" => some .infraFailed
  | "session_lost" => some .sessionLost
  | "uncertain_delivery" => some .uncertainDelivery
  | "capture_stalled" => some .captureStalled
  | _ => none

def Service.advanceRun (actor observation : String)
    (expectedPolicyHash : Option String) : Method RunSummary := do
  let actor ← require (parseActor actor)
    (.invalid ("unknown advance actor `" ++ actor ++ "`; use host or worker"))
  let observation ← require (parseObservation observation)
    (.invalid ("unknown advance observation `" ++ observation ++ "`"))
  if observation = .verifiedCurrent then
    ensure (actor = .host) (.invalid "only the host can accept a run")
    let expected := expectedPolicyHash.getD ""
    ensure (¬Text.isBlank expected) (.invalid "acceptance needs the expected test policy hash")
    service.acceptRun runId expectedVersion expected
  else service.submitObservation runId expectedVersion service.epoch actor observation

/-! ## Operator control -/

def Service.pauseRun (actor reason : String)
    (checkpoint : Bool) : Method RunSummary := do
  let stored ← requireRun runId
  checkOpen stored
  ensure (stored.status ≠ .paused) (.invalid "run is already paused")
  ensure (stored.status ≠ .needsOperator) (.blocked "resolve the operator block before pausing")
  service.apply stored
    { status := .paused
      stage := stored.stage
      round := stored.round
      pauseKind := some (if checkpoint then "checkpoint" else "operator")
      actor
      eventKind := if checkpoint then "checkpoint_paused" else "run_paused"
      effect := none }
  service.store.appendEvent runId actor "pause_reason" (some reason)
  summaryOf runId

/-- The move back to work, at the stage and round the run stands. -/
def reactivation (stored : StoredRun)
    (actor eventKind : String) : TransitionRequest where
  status := .active
  stage := stored.stage
  round := stored.round
  pauseKind := none
  actor := actor
  eventKind := eventKind
  effect := none

def Service.resumeRun (actor : String) : Method RunSummary := do
  let stored ← requireRun runId
  ensure (stored.status = .paused ∨ stored.status = .needsOperator)
    (.invalid "only a paused or operator-blocked run can resume")
  let uncertain ← commandsInState runId .deliveryUnknown
  match uncertain with
  | command :: _ =>
    throw (.blocked ("command " ++ command.commandId ++
      " has uncertain delivery; resolve it before resume"))
  | [] =>
    service.apply stored (reactivation stored actor "run_resumed")
    summaryOf runId

/-- The checkpoint row that cancellation writes. -/
def preservedCheckpoint (candidate : String) : StoredCheckpoint where
  runId := runId
  candidate := candidate
  commitHash := "preserved"
  treeHash := "preserved"
  sourceManifest := "cancel-preserved-source"
  localPath := "preserved"
  backupState := "preserved"
  preservationHold := some "cancel-hold"

/-- Write the preserved checkpoint of the current candidate, if any. -/
def preserveCandidate : Option String → Method Unit
  | some candidate => recordCheckpointRow (preservedCheckpoint runId candidate)
  | none => pure ()

def Service.cancelRun (actor reason : String) : Method RunSummary := do
  let stored ← requireRun runId
  checkOpen stored
  preserveCandidate runId stored.candidate
  service.apply stored
    { status := .cancelled, stage := stored.stage, round := stored.round
      pauseKind := none, actor, eventKind := "run_cancelled", effect := none }
  service.store.appendEvent runId actor "cancel_reason" (some reason)
  summaryOf runId

inductive OperatorDecision where
  | continueFromCurrent
  | submitNew
  | cancel
  deriving DecidableEq

def Service.reactivate (actor eventKind : String) : Method Unit := do
  let stored ← requireRun runId
  if stored.status = .needsOperator then service.apply stored (reactivation stored actor eventKind)
  else pure ()

/-- The uncertain command of a run that a decision is about. -/
def requireUncertain (commandId : String) : Method StoredCommand := do
  let loaded ← loadCommand commandId
  let command ← require loaded (.notFound ("command " ++ commandId ++ " not found"))
  ensure (command.runId = runId) (.invalid "command does not belong to this run")
  ensure (command.state = .deliveryUnknown) (.invalid "only uncertain delivery can be resolved")
  return command

end

theorem requireUncertain_reads :
    Reads (requireUncertain runId commandId) world (fun command =>
        world.db.commands.find? commandId = some command ∧
          command.runId = runId ∧ command.state = .deliveryUnknown) := by
  refine Reads.query.bind ?_
  rintro loaded rfl
  refine Reads.require.bind ?_
  intro command found
  refine Reads.ensure.bind ?_
  intro _ owned
  refine Reads.ensure.bind ?_
  intro _ uncertain
  exact .pure ⟨found, owned, uncertain⟩

theorem requireUncertain_ok_iff :
    (requireUncertain runId commandId).exec session = (.ok command, reached) ↔
      session.faults.head?.join = none ∧
        session.world.db.commands.find? commandId = some command ∧
        command.runId = runId ∧ command.state = .deliveryUnknown ∧
        reached = session.afterStatement session.world.db := by
  rw [requireUncertain, Program.exec_bind_ok_iff]
  constructor
  · rintro ⟨loaded, read, reading, rest⟩
    obtain ⟨fate, rfl, rfl⟩ := query_ok_iff.mp reading
    obtain ⟨_, _, requiring, rest⟩ := Program.exec_bind_eq_ok rest
    obtain ⟨found, rfl⟩ := Program.require_ok requiring
    obtain ⟨_, _, owning, rest⟩ := Program.exec_bind_eq_ok rest
    obtain ⟨sameRun, rfl⟩ := Program.ensure_ok owning
    obtain ⟨_, _, checking, final⟩ := Program.exec_bind_eq_ok rest
    obtain ⟨uncertain, rfl⟩ := Program.ensure_ok checking
    cases final
    exact ⟨fate, found, sameRun, uncertain, rfl⟩
  · rintro ⟨fate, found, sameRun, uncertain, rfl⟩
    refine ⟨_, _, query_ok_iff.mpr ⟨fate, rfl, rfl⟩, ?_⟩
    rw [Program.exec_bind_ok (Program.require_ok_iff.mpr ⟨found, rfl⟩),
      Program.exec_bind_ok (Program.exec_ensure_of sameRun _),
      Program.exec_bind_ok (Program.exec_ensure_of uncertain _)]
    rfl

def Service.resolveInput (service : Service) (runId commandId : String)
    (decision : OperatorDecision) (actor observedSessionState : String) :
    Method RunSummary := do
  ensure (¬Text.isBlank observedSessionState) (.blocked
    "inspect the original session before resolving uncertain delivery")
  let command ← requireUncertain runId commandId
  match decision with
  | .continueFromCurrent =>
    service.store.setCommandState commandId .deliveryUnknown command.receipt
      (some ("continue_from_current by " ++ actor ++ ": " ++ observedSessionState))
    service.reactivate runId actor "input_resolved_continue"
    summaryOf runId
  | .submitNew =>
    let newId := "cmd-" ++ service.env.freshId
    service.store.insertQueuedCommand runId newId command.sessionRef
      command.promptDigest command.turn command.leaseGeneration
    service.store.setCommandState commandId .deliveryUnknown command.receipt
      (some ("superseded_by " ++ newId ++ " (" ++ actor ++ ")"))
    service.reactivate runId actor "input_resolved_new"
    summaryOf runId
  | .cancel =>
    service.store.setCommandState commandId .deliveryUnknown
      command.receipt (some ("run cancelled by " ++ actor))
    service.cancelRun runId actor "operator cancelled uncertain delivery"

structure RecordedDispatch where
  commandId : String
  promptDigest : String

def Service.recordDispatchIntent (service : Service)
    (runId sessionRef prompt : String) (turn leaseGeneration : Nat) :
    Method (RunSummary × RecordedDispatch) := do
  let _ ← requireRun runId
  ensure (¬Text.isBlank sessionRef) (.invalid "session ref is required")
  ensure (¬prompt.isEmpty) (.invalid "prompt is required")
  let commandId := "cmd-" ++ service.env.freshId
  let digest ← service.writeArtifact commandId (textBytes prompt)
  service.store.insertQueuedCommand runId commandId sessionRef digest turn leaseGeneration
  service.store.setCommandState commandId .dispatching none
    (some "dispatch intent recorded; no transport send")
  let summary ← summaryOf runId
  return (summary, ⟨commandId, digest⟩)

end Jackin.Workflow
