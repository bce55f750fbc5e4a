import Jackin.Foundation.Result
import Jackin.Workflow.Progress

/-!
# Backend calls follow the protocol

The methods are followed statement by statement, once.  Each write is matched
with a move of the protocol and with a change of the runs' progress under the
guards passed so far.  The result is that a backend call is a path of such
steps within what its operation permits, or the acceptance of the run it
names.
-/

namespace Jackin.Workflow

open List Foundation Table
open Program (Emits Ends exec_bind)

variable {world : World} {store : RunStore} {runId candidate hash : String}
    {run : StoredRun}
    {checkpoint : StoredCheckpoint} {effect : StoredEffect} {service : Service}
    {expectedVersion : Int} {kind : String} {Value : Type}
    {method : Method Value}
    {fact : Value → World → Prop}

/-- One step of a method: a move of the protocol that is also progress. -/
structure Step (permits : Permits) (before after : World) : Prop where
  move : Move permits before after
  progress : Progress permits.queues permits.starts before after

/-- However the method ends, it has taken a path of permitted steps. -/
abbrev Obeys (permits : Permits) {Value : Type} (method : Method Value)
    (session : Session) : Prop :=
  method.Emits Session.world (Step permits) session

theorem Obeys.unchanged
    (same : (method.exec session).2.world = session.world) :
    Obeys permits method session :=
  Emits.of_unchanged same

theorem Obeys.step (world : (method.exec session).2.world = final)
    (step : Step permits session.world final) :
    Obeys permits method session := by
  rw [Obeys, Emits, world]
  exact .single step

theorem Obeys.andThen {Result : Type}
    {next : Value → Method Result} (first : Obeys permits method session)
    (rest : ∀ {value reached}, Obeys permits (next value) reached) :
    Obeys permits (method >>= next) session :=
  Emits.bind first fun _ _ _ => rest

/-- Computing the answer from another one adds no step. -/
theorem Obeys.map {Result : Type}
    {answer : Value → Result} (obeys : Obeys permits method session) :
    Obeys permits (method >>= fun value => pure (answer value)) session :=
  obeys.andThen Emits.pure

/-- A collection over a list obeys when each item does. -/
theorem Obeys.forEach {Item Report : Type}
    {action : Item → Method (List Report)} {items}
    (each : ∀ item reached, Obeys permits (action item) reached) :
    Obeys permits (Program.forEach action items) session :=
  Emits.forEach (fun _ => True) (fun _ _ _ _ => trivial) trivial
    fun item _ reached _ => each item reached

theorem Reads.obeys {fact}
    (reads : Reads method session.world fact) : Obeys permits method session :=
  .unchanged reads.unchanged

theorem summaryOf_emits :
    Obeys permits (summaryOf runId) session := summaryOf_reads.obeys

theorem appendEvent_emits :
    Obeys permits (store.appendEvent runId actor kind evidenceRef) session := by
  obtain ⟨events, world⟩ := appendEvent_world
  exact .step world ⟨.logged, .unchanged rfl rfl rfl⟩

/-- Most methods end with an event and the summary of the run. -/
theorem finish_emits :
    Obeys permits (do
        store.appendEvent runId actor kind evidenceRef
        summaryOf summarized) session :=
  appendEvent_emits.andThen summaryOf_emits

theorem recordSessionRow_emits :
    Obeys permits (recordSessionRow row) session := by
  have changes : Changes (recordSessionRow row) fun before after =>
      ∃ sessions, after = { before with db := { before.db with sessions } } := by
    refine .statement fun outcome => ?_
    cases outcome
    exact ⟨_, rfl⟩
  refine changes.emits ?_
  rintro _ ⟨_, rfl⟩
  exact ⟨.logged, .unchanged rfl rfl rfl⟩

theorem note_emits (allowed : permits.notes occurrence) :
    Obeys permits (note occurrence) session :=
  .step rfl ⟨.noted allowed, .unchanged rfl rfl rfl⟩

theorem createRun_emits (allowed : permits.starts)
    (idle : session.world.db.activeRun = none)
    (unkeyed : session.world.db.runByKey idempotencyKey = none) :
    Obeys permits (store.createRun runId planHash maxRepairTurns idempotencyKey) session := by
  refine createRun_changes.emits ?_
  rintro _ ⟨runs, events, inserted, rfl⟩
  exact ⟨.created rfl rfl inserted, .created allowed rfl rfl rfl idle unkeyed inserted rfl rfl⟩

theorem ensureEffect_emits {kind}
    (owned : (session.world.db.runs.find? runId).isSome) :
    Obeys permits (ensureEffect runId kind ownershipLabel) session := by
  refine Reads.query.emits_bind fun pending _ _ => ?_
  cases pending with
  | some effect => exact .pure
  | none =>
    refine Reads.query.emits_bind fun count _ _ => ?_
    refine .bind ?_ ?_
    · refine insertEffect_changes.emits ?_
      rintro _ ⟨effects, inserted, rfl⟩
      exact ⟨.effects (.insert inserted), .settled rfl (fun _ => id) (.insert owned inserted)⟩
    · intro _ stored _
      refine Reads.query.emits_bind fun fresh _ _ => ?_
      exact Reads.require.obeys

theorem setEffect_emits
    (justified : ∀ effect,
      session.world.db.effects.find? operationId = some effect →
        (effect.settled status identity preservation).isKnown ∧ (effect.kind = .backup →
            BackupKnown session.world effect.runId ∨ BackupConfirmed session.world effect.runId)) :
    Obeys permits (store.setEffect runId operationId status identity preservation) session := by
  refine setEffect_changes.emits ?_
  rintro _ ⟨effect, events, found, rfl⟩
  obtain ⟨settles, backup⟩ := justified effect found
  exact ⟨.effects (.update found settles backup), .settled rfl (fun _ => id) .update⟩

/-- The effect of a transition belongs to the run it moves. -/
def PlansOwn (transition : RunTransition) : Prop :=
  ∀ effect, transition.effect = some effect → ∃ kind count label,
      effect = .planned transition.runId (plannedId transition.runId kind count) kind label

theorem effectsFollow_of_added
    (plans : PlansOwn transition)
    (added : EffectAdded world.db.effects effects transition.effect) :
    EffectsFollow world effects := by
  cases requested : transition.effect with
  | none =>
    rw [requested] at added
    obtain rfl : effects = world.db.effects := added
    exact .refl
  | some effect =>
    rw [requested] at added
    obtain ⟨_, _, _, rfl⟩ := plans effect requested
    exact .insert added

theorem effectsProgress_of_added {before after} (plans : PlansOwn transition)
    (owned : (runs.find? transition.runId).isSome)
    (added : EffectAdded before after transition.effect) :
    EffectsProgress runs before after := by
  cases requested : transition.effect with
  | none =>
    rw [requested] at added
    cases added
    exact .refl
  | some effect =>
    obtain ⟨_, _, _, rfl⟩ := plans effect requested
    rw [requested] at added
    exact .insert owned added

theorem applyTransition_emits (isOpen : OpenRun session.world run)
    (same : transition.runId = run.runId) (onward : Onward run transition)
    (unaccepted : transition.status ≠ .accepted)
    (candidate : transition.candidate = run.candidate ∨ permits.repoints run.runId)
    (plans : PlansOwn transition) :
    Obeys permits (store.applyTransition transition) session := by
  refine applyTransition_changes.emits ?_
  rintro _ ⟨_, events, effects, found, _, added, rfl⟩
  have owned :
      (session.world.db.runs.find? transition.runId).isSome := by
    rw [found]
    rfl
  refine ⟨.moved isOpen same unaccepted candidate (effectsFollow_of_added plans added),
    .moved store.epoch isOpen onward unaccepted ?_ rfl
      (effectsProgress_of_added plans owned added)⟩
  rw [World.transitioned, same]

/-- A request that keeps stage and round of the loaded run. -/
theorem apply_emits (isOpen : OpenRun session.world run)
    (round : request.round = run.round) (stage : request.stage = run.stage)
    (unaccepted : request.status ≠ .accepted) (plain : request.effect = none) :
    Obeys permits (service.apply run request) session := by
  refine applyTransition_emits isOpen rfl (.here round stage) unaccepted (.inl rfl) ?_
  intro effect requested
  rw [show (request.toTransition run).effect = none from plain] at requested
  cases requested

theorem insertCommand_emits (allowed : permits.queues) :
    Obeys permits (store.insertCommand command) session := by
  refine insertCommand_changes.emits ?_
  rintro _ ⟨commands, events, inserted, rfl⟩
  exact ⟨.commands (.insert inserted), .queued allowed rfl rfl⟩

theorem setCommandState_emits
    (harmless : state = .deliveryUnknown ∨
      ∀ command, session.world.db.commands.find? commandId =
        some command → command.state ≠ .deliveryUnknown) :
    Obeys permits (store.setCommandState commandId state receipt resolution) session := by
  refine setCommandState_changes.emits ?_
  rintro _ ⟨command, events, _, rfl⟩
  exact ⟨.commands (.update harmless), .settled rfl .update .refl⟩

theorem recordEvidence_emits (run : StoredRun) (checkpoint : StoredCheckpoint)
    (isOpen : OpenRun session.world run) (same : row.runId = run.runId)
    (found : session.world.db.checkpoints.find? (row.runId, row.candidate) = some checkpoint)
    (witnessed : Witnessed session.world.journal row checkpoint.commitHash checkpoint.treeHash) :
    Obeys permits (recordEvidence row) session := by
  refine recordEvidence_changes.emits ?_
  rintro _ ⟨rows, inserted, rfl⟩
  exact ⟨.verdict isOpen same found witnessed inserted, .unchanged rfl rfl rfl⟩

/-- Writing a checkpoint whose source is the stored one. -/
theorem recapture_emits (run : StoredRun) (previous : StoredCheckpoint)
    (isOpen : OpenRun session.world run) (same : checkpoint.runId = run.runId)
    (found : session.world.db.checkpoints.find? checkpoint.key = some previous)
    (commit : previous.commitHash = checkpoint.commitHash)
    (tree : previous.treeHash = checkpoint.treeHash)
    (place : previous.sourceManifest = checkpoint.sourceManifest ∧
      previous.localPath = checkpoint.localPath ∨ permits.captures checkpoint.key) :
    Obeys permits (recordCheckpointRow checkpoint) session := by
  refine recordCheckpointRow_changes.emits ?_
  rintro _ rfl
  exact ⟨.recaptured isOpen same found commit tree place, .unchanged rfl rfl rfl⟩

/-- Writing a checkpoint of a run that is being re-pointed. -/
theorem capture_emits (isOpen : OpenRun session.world run)
    (same : checkpoint.runId = run.runId)
    (repointed : permits.repoints run.runId)
    (captures : permits.captures checkpoint.key)
    (unverified : checkpoint.commitHash = "preserved" ∨
      ¬session.world.hasVerdict checkpoint.runId checkpoint.candidate) :
    Obeys permits (recordCheckpointRow checkpoint) session := by
  refine recordCheckpointRow_changes.emits ?_
  rintro _ rfl
  exact ⟨.captured isOpen same repointed captures unverified, .unchanged rfl rfl rfl⟩

theorem discardPartialEvidence_emits :
    Obeys permits (discardPartialEvidence runId candidate) session := by
  refine discardPartialEvidence_changes.emits ?_
  rintro _ rfl
  exact ⟨.discarded, .unchanged rfl rfl rfl⟩

/-! ## Runs -/

theorem startRun_emits (allowed : permits.starts) :
    Obeys permits (service.startRun planHash maxRepairTurns idempotencyKey) session := by
  refine .ensure fun _ => ?_
  refine Reads.query.emits_bind fun existing _ unkeyed => ?_
  split
  · exact .pure
  refine Reads.query.emits_bind fun active _ idle => ?_
  split
  · exact .throw
  refine .bind (createRun_emits allowed idle.symm unkeyed.symm) ?_
  intro _ created creating
  obtain ⟨_, _, inserted, createdWorld⟩ := createRun_changes.answered creating
  refine Obeys.andThen (ensureEffect_emits ?_) summaryOf_emits
  rw [createdWorld]
  exact Option.isSome_iff_exists.mpr ⟨_, find?_self_of_insert? inserted⟩

theorem effectFor_plansOwn {next}
    (planned : effectFor next runId = some effect) :
    ∃ kind count label, effect = .planned runId (plannedId runId kind count) kind label := by
  unfold effectFor at planned
  split at planned
  · cases planned
    refine ⟨.capture, next.round + 1, runId ++ ":capture", ?_⟩
    simp [plannedId, EffectKind.asStr, String.append_assoc]
  · cases planned

/-- An observation other than the host's acceptance moves the run. -/
theorem submitObservation_emits {actor}
    (ordinary : observation ≠ .verifiedCurrent) :
    Obeys permits (service.submitObservation runId expectedVersion
      callerEpoch actor observation) session := by
  refine .ensure fun _ => ?_
  refine requireRun_reads.emits_bind fun stored _ found => ?_
  refine .lift fun next advanced => ?_
  have outcome := Result.mapError_eq_ok.mp advanced
  obtain ⟨isOpen, key⟩ := OpenRun.of_find found (advance_decides outcome).1
  refine Obeys.andThen (applyTransition_emits isOpen key.symm (advance_onward outcome) ?_
      (.inl rfl) (fun _ => effectFor_plansOwn))
    summaryOf_emits
  intro accepted
  exact ordinary (advance_accepted outcome accepted).1

theorem pauseRun_emits {checkpoint} :
    Obeys permits (service.pauseRun runId actor reason checkpoint) session := by
  refine requireRun_reads.emits_bind fun stored _ found => ?_
  refine .ensure fun nonterminal => ?_
  refine .ensure fun _ => ?_
  refine .ensure fun _ => ?_
  have isOpen := (OpenRun.of_find found (by simpa using nonterminal)).1
  exact Obeys.andThen (apply_emits isOpen rfl rfl (by simp) rfl) finish_emits

theorem resumeRun_emits :
    Obeys permits (service.resumeRun runId actor) session := by
  refine requireRun_reads.emits_bind fun stored _ found => ?_
  refine .ensure fun resumable => ?_
  refine Reads.query.emits_bind fun uncertain _ _ => ?_
  split
  · exact .throw
  have nonterminal : stored.status.isTerminal = false := by
    rcases resumable with status | status <;> rw [status] <;> rfl
  have isOpen := (OpenRun.of_find found nonterminal).1
  exact Obeys.andThen (apply_emits isOpen rfl rfl (by simp [reactivation]) rfl) summaryOf_emits

theorem reactivate_emits :
    Obeys permits (service.reactivate runId actor eventKind) session := by
  refine requireRun_reads.emits_bind fun stored _ found => ?_
  split
  · rename_i blocked
    have isOpen := (OpenRun.of_find found (by rw [blocked]; rfl)).1
    exact apply_emits isOpen rfl rfl (by simp [reactivation]) rfl
  · exact .pure

theorem escalateToOperator_emits :
    Obeys permits (service.escalateToOperator runId eventKind) session := by
  refine requireRun_reads.emits_bind fun stored _ found => ?_
  split
  · rename_i active
    have isOpen := (OpenRun.of_find found (by rw [active]; rfl)).1
    exact apply_emits isOpen rfl rfl (by simp) rfl
  · exact appendEvent_emits

theorem recordCandidate_emits (repointed : permits.repoints runId) :
    Obeys permits (service.recordCandidate runId candidateId expectedVersion actor) session := by
  refine .ensure fun _ => ?_
  refine requireOpenRun_reads.emits_bind fun stored _ ⟨found, _, nonterminal⟩ => ?_
  refine Reads.query.emits_bind fun evidence _ _ => ?_
  refine .ensure fun _ => ?_
  obtain ⟨isOpen, key⟩ := OpenRun.of_find found nonterminal
  refine Obeys.andThen (applyTransition_emits isOpen key.symm
    (.here rfl rfl) ?_ (.inr ?_) ?_) summaryOf_emits
  · intro accepted
    dsimp only at accepted
    rw [accepted] at nonterminal
    cases nonterminal
  · rwa [key]
  · nofun

theorem recordSession_emits :
    Obeys permits (service.recordSession row expectedVersion actor) session := by
  refine requireOpenRun_reads.emits_bind fun stored _ _ => ?_
  refine .ensure fun _ => ?_
  exact recordSessionRow_emits.andThen finish_emits

theorem recordCheckpoint_emits (repointed : permits.repoints checkpoint.runId)
    (captures : permits.captures checkpoint.key) :
    Obeys permits (service.recordCheckpoint checkpoint expectedVersion) session := by
  refine requireOpenRun_reads.emits_bind fun stored _ ⟨found, _, nonterminal⟩ => ?_
  refine .ensure fun _ => ?_
  refine .lift fun verifiedTree _ => ?_
  refine .ensure fun _ => ?_
  refine checkUnchangedSource_reads.emits_bind fun _ _ unchanged => ?_
  obtain ⟨isOpen, key⟩ := OpenRun.of_find found nonterminal
  refine Obeys.andThen ?_ finish_emits
  rcases unchanged with unverified | ⟨previous, previousFound, commit, tree⟩
  · refine capture_emits isOpen key.symm ?_ captures (.inr unverified)
    rwa [key]
  · exact recapture_emits stored previous isOpen key.symm previousFound commit tree (.inr captures)

/-- The run whose candidate or checkpoint source an operation may exchange. -/
def Operation.repoints : Operation → String → Prop
  | .recordCandidate target _ _, runId => runId = target
  | .recordCheckpoint checkpoint _, runId => runId = checkpoint.runId
  | .cancelRun target _ _, runId => runId = target
  | .resolveInput target _ decision _ _, runId => decision = .cancel ∧ runId = target
  | _, _ => False

/-- The checkpoints that an operation may write over another source. -/
def Operation.captures : Operation → String × String → Prop
  | .recordCheckpoint checkpoint _, key => key = checkpoint.key
  | .cancelRun runId _ _, key => key.1 = runId
  | .resolveInput runId _ decision _ _, key => decision = .cancel ∧ key.1 = runId
  | _, _ => False

/--
The surroundings gave the answers a note stands for: git named the commit and
tree that the test command ran on, the review file said what was validated.
-/
def Service.Grounds (service : Service) : Operation → Occurrence → Prop
  | .recordTest runId _ params, .testRun target _ commit tree hash passed =>
    target = runId ∧ ∃ policy worker execution, worker.Pinned service.env ∧
      worker.commit = commit ∧ worker.tree = tree ∧ policy.policyHash = hash ∧
      service.env.runTestCommand policy worker params.bundleFiles = .ok execution ∧
      (execution.exitCode == 0 && !execution.timedOut) = passed
  | .recordReview runId _ reviewFile _, .reviewValidated target candidate commit tree verdict =>
    target = runId ∧ ∃ bytes review, service.env.readFile reviewFile = .ok bytes ∧
      service.env.parseReview bytes = .ok review ∧ review.candidateId = candidate ∧
      review.commit = commit ∧ review.tree = tree ∧ review.status.verdict = verdict
  | .recordBackup runId _ _ _, .backupConfirmed target _ _ _ => target = runId
  | _, _ => False

/-- What an operation of a service is there for. -/
def Service.permits (service : Service) (operation : Operation) : Permits where
  repoints := operation.repoints
  captures := operation.captures
  notes := service.Grounds operation
  queues := operation.queues
  starts := operation.starts

theorem runTest_emits (key : stored.runId = runId) :
    Obeys (service.permits (.recordTest runId expectedVersion params))
      (service.runTest stored checkpoint params) session := by
  refine .lift fun policy _ => ?_
  refine .lift fun spec _ => ?_
  refine .lift fun worker prepared => ?_
  refine .lift fun execution executed => ?_
  obtain ⟨_, _, pinned⟩ := prepareTestWorker_pinned prepared
  exact Obeys.map
    (note_emits ⟨key, policy, worker, execution, pinned, rfl, rfl, rfl, executed, rfl⟩)

/-- The verdict, its event and the summary that end a recording. -/
theorem recordVerdict_emits {Result : Type} (row : String → StoredEvidence)
    {result : String → RunSummary → Result}
    (recorded : ∀ artifact faults,
      Obeys permits (recordEvidence (row artifact)) ⟨session.world, faults⟩) :
    Obeys permits (do
        let artifact ← service.writeArtifact name bytes
        recordEvidence (row artifact)
        service.store.appendEvent runId "host" kind (some candidate)
        let summary ← summaryOf runId
        return result artifact summary) session := by
  refine writeArtifact_reads.emits_bind fun artifact _ _ => ?_
  exact (recorded artifact _).andThen (appendEvent_emits.andThen (.map summaryOf_emits))

theorem recordTest_emits :
    Obeys (service.permits (.recordTest runId expectedVersion params))
      (service.recordTest runId expectedVersion params) session := by
  refine requireOpenRun_reads.emits_bind fun stored _ ⟨found, _, nonterminal⟩ => ?_
  refine .ensure fun _ => ?_
  refine .require fun candidate _ => ?_
  refine findCheckpoint_reads.emits_bind fun checkpoint _ checkpointFound => ?_
  refine Reads.query.emits_bind fun evidence _ _ => ?_
  refine .ensure fun _ => ?_
  refine checkBundle_reads.emits_bind fun _ _ _ => ?_
  obtain ⟨isOpen, key⟩ := OpenRun.of_find found nonterminal
  refine .bind (runTest_emits key) ?_
  rintro ⟨result, execution⟩ ⟨_, _⟩ success
  obtain ⟨named, rfl⟩ := (runTest_ends service stored checkpoint params).answered success
  have checkpointKey : checkpoint.key = (runId, candidate) :=
    key_of_find? checkpointFound
  have sameCandidate : checkpoint.candidate = candidate :=
    congrArg Prod.snd checkpointKey
  refine recordVerdict_emits (testEvidence runId result) ?_
  intro artifact _
  refine recordEvidence_emits stored checkpoint isOpen key.symm ?_ ?_
  · dsimp only [testEvidence]
    rwa [named, sameCandidate]
  · refine ⟨result.policyHash, result.passed, ?_, rfl, rfl⟩
    dsimp only [testEvidence]
    rw [named, key]
    exact mem_append_right _ (mem_singleton.mpr rfl)

theorem recordReview_emits :
    Obeys (service.permits (.recordReview runId expectedVersion reviewFile policyHash))
      (service.recordReview runId expectedVersion reviewFile policyHash) session := by
  refine requireOpenRun_reads.emits_bind fun stored _ ⟨found, _, nonterminal⟩ => ?_
  refine .ensure fun _ => ?_
  refine .ensure fun _ => ?_
  refine .require fun candidate _ => ?_
  refine findCheckpoint_reads.emits_bind fun checkpoint _ checkpointFound => ?_
  refine Reads.query.emits_bind fun evidence _ _ => ?_
  refine .require fun recordedPolicy _ => ?_
  refine .ensure fun _ => ?_
  refine .ensure fun _ => ?_
  refine .lift fun bytes read => ?_
  refine .lift fun result valid => ?_
  obtain ⟨parsed, named, commit, tree⟩ := validateReview_names valid
  refine .bind (note_emits ⟨rfl, bytes, result, readReviewBytes_read read, parsed, named,
    rfl, rfl, rfl⟩) ?_
  rintro _ noted ⟨⟩
  obtain ⟨isOpen, key⟩ := OpenRun.of_find found nonterminal
  refine recordVerdict_emits (fun artifact =>
    reviewEvidence runId candidate policyHash result artifact) ?_
  intro artifact _
  refine recordEvidence_emits stored checkpoint isOpen key.symm checkpointFound ?_
  dsimp only at commit tree
  rw [← commit, ← tree]
  exact mem_append_right _ (mem_singleton.mpr rfl)

theorem ensureEffect_answered {kind}
    (success : (ensureEffect runId kind ownershipLabel).exec session = (.ok effect, reached)) :
    ∃ effects, reached.world = session.world.withEffects effects ∧
      effects.find? effect.operationId = some effect ∧
      effect.runId = runId := by
  obtain ⟨added, found, owned, _⟩ := ensureEffect_ends.answered success
  rcases added with same | ⟨_, effects, _, world⟩
  · rw [same] at found
    exact ⟨_, same, found, owned⟩
  · rw [world] at found
    exact ⟨effects, world, found, owned⟩

/-- Storing a confirmed backup does not re-point any run. -/
theorem storeBackup_emits (isOpen : OpenRun session.world stored)
    (key : stored.runId = runId)
    (found : session.world.db.checkpoints.find? (runId, candidate) =
      some checkpoint) (confirmed : BackupConfirmed session.world runId) :
    Obeys permits (service.storeBackup runId candidate checkpoint remote gitRef actor) session := by
  have stored' : (session.world.db.runs.find? runId).isSome := by
    rw [← key, isOpen.1]
    rfl
  refine .bind (ensureEffect_emits stored') ?_
  intro effect planned planning
  obtain ⟨_, plannedWorld, planFound, owned⟩ := ensureEffect_answered planning
  refine .bind (setEffect_emits ?_) ?_
  · intro settling settlingFound
    rw [plannedWorld] at settlingFound ⊢
    obtain rfl : effect = settling := Option.mem_unique planFound settlingFound
    refine ⟨rfl, fun _ => .inr ?_⟩
    rwa [owned]
  · intro _ settled settling
    obtain ⟨_, _, _, settledWorld⟩ := setEffect_changes.answered settling
    refine Obeys.andThen (recapture_emits stored checkpoint ?_ key.symm ?_ rfl rfl
      (.inl ⟨rfl, rfl⟩)) finish_emits
    · rwa [settledWorld, plannedWorld]
    · rwa [settledWorld, plannedWorld]

/-- The guards of `recordBackup` and the confirmation that follows. -/
theorem backupConfirmed_of_current (found : world.db.runs.find? runId = some run)
    (current : run.candidate = some candidate)
    (checkpointFound : world.db.checkpoints.find? (runId, candidate) =
      some checkpoint) (remote gitRef : String)
    (noted : .backupConfirmed runId checkpoint.commitHash remote gitRef ∈ world.journal) :
    BackupConfirmed world runId := by
  intro other otherCandidate otherCheckpoint otherFound otherCurrent otherCheckpointFound
  obtain rfl : run = other := Option.mem_unique found otherFound
  obtain rfl : candidate = otherCandidate := Option.mem_unique current otherCurrent
  obtain rfl : checkpoint = otherCheckpoint :=
    Option.mem_unique checkpointFound otherCheckpointFound
  exact ⟨remote, gitRef, noted⟩

theorem recordBackup_emits :
    Obeys (service.permits (.recordBackup runId expectedVersion remote gitRef))
      (service.recordBackup runId expectedVersion remote gitRef actor) session := by
  refine .ensure fun _ => ?_
  refine requireOpenRun_reads.emits_bind fun stored _ ⟨found, _, nonterminal⟩ => ?_
  refine .require fun candidate current => ?_
  refine findCheckpoint_reads.emits_bind fun checkpoint _ checkpointFound => ?_
  refine .lift fun listing _ => ?_
  refine .ensure fun resolved => ?_
  refine .bind (note_emits rfl) ?_
  rintro _ noted ⟨⟩
  obtain ⟨isOpen, key⟩ := OpenRun.of_find found nonterminal
  refine storeBackup_emits isOpen key checkpointFound
    (backupConfirmed_of_current found current checkpointFound remote gitRef ?_)
  rw [resolved]
  exact mem_append_right _ (mem_singleton.mpr rfl)

theorem OpenRun.of_runs {before after} (isOpen : OpenRun before run)
    (runs : after.db.runs = before.db.runs) : OpenRun after run := by
  rwa [OpenRun, runs]

theorem preserveCandidate_runs (runId : String) (candidate : Option String)
    (session : Session) :
    ((preserveCandidate runId candidate).exec session).2.world.db.runs =
      session.world.db.runs := by
  cases candidate with
  | none => rfl
  | some candidate =>
    refine recordCheckpointRow_changes.leaves (·.db.runs = session.world.db.runs) rfl ?_
    rintro _ rfl
    rfl

theorem cancelRun_emits (repointed : permits.repoints runId)
    (captures : ∀ candidate, permits.captures (runId, candidate)) :
    Obeys permits (service.cancelRun runId actor reason) session := by
  refine requireRun_reads.emits_bind fun stored faults found => ?_
  refine .ensure fun nonterminal => ?_
  obtain ⟨isOpen, key⟩ := OpenRun.of_find found (by simpa using nonterminal)
  refine .bind ?_ ?_
  · cases stored.candidate with
    | none => exact .pure
    | some candidate =>
      refine capture_emits isOpen key.symm ?_ (captures candidate) (.inl rfl)
      rwa [key]
  · intro _ preserved success
    have runs := preserveCandidate_runs runId stored.candidate ⟨session.world, faults⟩
    rw [success] at runs
    exact Obeys.andThen (apply_emits (isOpen.of_runs runs) rfl rfl (by simp) rfl) finish_emits

theorem resolveInput_emits (repointed : decision = .cancel → permits.repoints runId)
    (captures : decision = .cancel → ∀ candidate, permits.captures (runId, candidate))
    (allowed : decision = .submitNew → permits.queues) :
    Obeys permits (service.resolveInput runId commandId decision actor
      observedSessionState) session := by
  refine .ensure fun _ => ?_
  refine requireUncertain_reads.emits_bind fun command _ _ => ?_
  cases decision with
  | continueFromCurrent =>
    exact Obeys.andThen (setCommandState_emits (.inl rfl))
      (reactivate_emits.andThen summaryOf_emits)
  | submitNew =>
    exact (insertCommand_emits (allowed rfl)).andThen
      (.andThen (setCommandState_emits (.inl rfl)) (reactivate_emits.andThen summaryOf_emits))
  | cancel =>
    exact Obeys.andThen (setCommandState_emits (.inl rfl))
      (cancelRun_emits (repointed rfl) (captures rfl))

theorem recordDispatchIntent_emits (allowed : permits.queues) :
    Obeys permits (service.recordDispatchIntent runId sessionRef prompt turn
      leaseGeneration) session := by
  refine requireRun_reads.emits_bind fun stored _ _ => ?_
  refine .ensure fun _ => ?_
  refine .ensure fun _ => ?_
  refine writeArtifact_reads.emits_bind fun digest _ _ => ?_
  refine .bind (insertCommand_emits allowed) ?_
  intro _ inserted success
  obtain ⟨_, _, insertion, insertedWorld⟩ := insertCommand_changes.answered success
  refine Obeys.andThen (setCommandState_emits (.inr ?_)) (.map summaryOf_emits)
  intro command found uncertain
  rw [insertedWorld] at found
  cases Option.mem_unique (find?_self_of_insert? insertion) found
  cases uncertain

/-! ## Recovery -/

/-- The loaded effect is still stored, with its run, kind and knowledge. -/
def EffectKept (effect : StoredEffect) (world : World) : Prop :=
  ∃ later, world.db.effects.find? effect.operationId = some later ∧ later.runId = effect.runId ∧
    later.kind = effect.kind ∧ (effect.isKnown → later.isKnown)

theorem EffectKept.of_follows {after}
    (kept : EffectKept effect world) (follows : EffectsFollow world after) :
    ∃ later, after.find? effect.operationId = some later ∧
      later.runId = effect.runId ∧ later.kind = effect.kind ∧
      (effect.isKnown → later.isKnown) := by
  obtain ⟨middle, found, run, kind, known⟩ := kept
  obtain ⟨later, laterFound, laterRun, laterKind, laterKnown⟩ := follows.kept _ middle found
  exact ⟨later, laterFound, laterRun.trans run, laterKind.trans kind, laterKnown ∘ known⟩

theorem EffectKept.step {before after} (move : Move permits before after)
    (kept : EffectKept effect before) : EffectKept effect after := by
  cases move with
  | effects follows | moved _ _ _ _ follows => exact kept.of_follows follows
  | _ => exact kept

theorem recoverCommands_emits :
    Obeys permits (service.recoverCommands runId) session := by
  refine Reads.query.emits_bind fun dispatching _ _ => ?_
  refine Obeys.andThen (.forEach ?_) ?_
  · intro command reached
    exact .map (setCommandState_emits (.inl rfl))
  · intro actions recovered
    refine Reads.query.emits_bind fun uncertain _ _ => ?_
    split
    · exact .pure
    · exact Obeys.map escalateToOperator_emits

theorem recoverEffect_emits (kept : EffectKept effect session.world) :
    Obeys permits (service.recoverEffect runId inventory effect) session := by
  obtain ⟨later, laterFound, _, laterKind, laterKnown⟩ := kept
  unfold Service.recoverEffect
  split
  · rename_i launch
    split
    · unfold Service.recoverLaunch
      split
      · refine .map (setEffect_emits ?_)
        intro stored found
        obtain rfl : later = stored := Option.mem_unique laterFound found
        refine ⟨rfl, fun backup => ?_⟩
        rw [laterKind, launch] at backup
        cases backup
      · exact .pure
    · exact .pure
  · split
    · exact .map escalateToOperator_emits
    · exact .pure
  · rename_i backup
    split
    · unfold Service.recoverBackup
      split
      · rename_i listed
        -- Only an effect that already names its ref is looked up.
        have known : effect.isKnown := by
          unfold backupKnown at listed
          unfold StoredEffect.isKnown
          split at listed
          · rename_i identity named
            rw [named, Option.isSome_some, Bool.or_true]
          · cases listed
        refine .map (setEffect_emits ?_)
        intro stored found
        obtain rfl : later = stored := Option.mem_unique laterFound found
        exact ⟨rfl, fun _ => .inl
          ⟨_, later, laterFound, rfl, laterKind.trans backup, laterKnown known⟩⟩
      · exact .pure
    · exact .pure

theorem recoverEffects_emits :
    Obeys permits (service.recoverEffects runId inventory) session := by
  refine Reads.query.emits_bind ?_
  rintro effects _ rfl
  refine .forEach
    (fun world => ∀ effect ∈ session.world.db.effectsOf runId, EffectKept effect world)
    (fun _ _ step kept effect member => (kept effect member).step step.move) ?_ ?_
  · intro effect member
    have stored := mem_rows_iff.mp (mem_filter.mp member).1
    exact ⟨effect, stored, rfl, rfl, id⟩
  · intro effect member reached kept
    exact recoverEffect_emits (kept effect member)

theorem recoverSessions_emits :
    Obeys permits (service.recoverSessions runId inventory) session := by
  refine Reads.query.emits_bind fun sessions _ _ => ?_
  refine Obeys.forEach ?_
  intro row reached
  unfold Service.recoverSession
  split
  · exact appendEvent_emits.andThen (.map escalateToOperator_emits)
  · exact .pure

theorem recoverArtifacts_emits :
    Obeys permits (service.recoverArtifacts runId) session := by
  refine Reads.query.emits_bind fun written _ _ => ?_
  refine Reads.query.emits_bind fun ended _ _ => ?_
  refine Obeys.forEach ?_
  intro command reached
  refine .lift fun verifies _ => ?_
  split
  · exact .pure
  · exact Obeys.map appendEvent_emits

theorem discardUnfinished_emits {candidate} :
    Obeys permits (discardUnfinished runId candidate) session := by
  cases candidate with
  | none => exact .pure
  | some candidate =>
    refine .bind discardPartialEvidence_emits ?_
    intro discarded reached _
    split <;> exact .pure

/-- Recovery of a run after its commands. -/
theorem recoverFindings_emits :
    Obeys permits (do
        let effects ← service.recoverEffects run.runId inventory
        let discarded ← discardUnfinished run.runId run.candidate
        let sessions ← service.recoverSessions run.runId inventory
        let artifacts ← service.recoverArtifacts run.runId
        let actions := commands ++ effects ++ discarded ++ sessions ++ artifacts
        return (⟨some run.runId,
          if actions.isEmpty then ["recovered with no findings"]
          else actions⟩ : RecoveryReport)) session := by
  refine recoverEffects_emits.andThen ?_
  refine discardUnfinished_emits.andThen ?_
  refine recoverSessions_emits.andThen ?_
  exact .map recoverArtifacts_emits

theorem recover_emits : Obeys permits (service.recover inventory) session := by
  refine Reads.query.emits_bind fun active _ _ => ?_
  cases active with
  | none => exact .pure
  | some run => exact recoverCommands_emits.andThen recoverFindings_emits

/-- The world of a call that accepts or changes nothing. -/
def AcceptsOrNot (runId hash : String) (before after : World) : Prop :=
  after = before ∨ ∃ run candidate, run.runId = runId ∧
      Accepts run candidate hash before after ∧ Decided run before after

theorem submitVerified_ends (key : run.runId = runId)
    (acceptable : Acceptable world run candidate hash) :
    (service.submitObservation runId expectedVersion service.epoch .host
        .verifiedCurrent).Leaves ⟨world, faults⟩ fun reached =>
          AcceptsOrNot runId hash world reached.world := by
  refine Reads.ensure.ends_bind (fun _ => .inl rfl) fun _ _ _ => ?_
  refine requireRun_reads.ends_bind (fun _ => .inl rfl) fun stored _ found => ?_
  obtain rfl : run = stored := by
    have isOpen := acceptable.isOpen.1
    rw [key] at isOpen
    exact Option.mem_unique isOpen found
  refine Reads.lift.ends_bind (fun _ => .inl rfl) fun next faults advanced => ?_
  obtain ⟨stage, rfl⟩ := advance_verifiedCurrent (Result.mapError_eq_ok.mp advanced)
  refine .bind (fun _ reached => AcceptsOrNot runId hash world reached.world)
    (.of_final (applyTransition_changes.leaves (AcceptsOrNot runId hash world) (.inl rfl) ?_)) ?_
  · rintro _ ⟨_, events, effects, _, _, added, rfl⟩
    cases added
    exact .inr ⟨run, candidate, key, ⟨acceptable, _, _, events, _, key.symm, rfl, rfl, .refl, rfl⟩,
      ⟨acceptable.isOpen, stage, _, _, events, key.symm, rfl, stage.symm, rfl, rfl⟩⟩
  · intro _ reached final
    refine .of_final ?_
    rwa [summaryOf_reads.unchanged]

/-- The rows that single verdicts were read from. -/
theorem singleVerdicts_found
    (single : singleVerdicts (world.db.evidenceOf runId) candidate = .ok (test, review)) :
    world.db.evidence.find? (runId, candidate, .test) = some test ∧
      world.db.evidence.find? (runId, candidate, .review) = some review := by
  have selected : ∀ kind, ((world.db.evidenceOf runId).filter
          (·.candidate == candidate)).filter (·.kind == kind) =
        (world.db.evidence.find? (runId, candidate, kind)).toList := by
    intro kind
    rw [Database.evidenceOf, filter_filter, filter_filter]
    refine filter_rows_key ?_
    intro row
    simp only [Bool.and_eq_true, beq_iff_eq, StoredEvidence.key, Prod.mk.injEq]
    tauto
  unfold singleVerdicts at single
  dsimp only at single
  rw [selected .test, selected .review] at single
  cases tested : world.db.evidence.find? (runId, candidate, .test) with
  | none =>
    rw [tested] at single
    cases single
  | some storedTest =>
    cases reviewed : world.db.evidence.find? (runId, candidate, .review) with
    | none =>
      rw [tested, reviewed] at single
      cases single
    | some storedReview =>
      rw [tested, reviewed] at single
      cases single
      exact ⟨rfl, rfl⟩

/-- A done backup of the run is known. -/
theorem backupKnown_of_done
    (satisfied : (world.db.effectsOf runId).any (fun effect =>
      effect.kind == .backup && effect.status == .done)) :
    BackupKnown world runId := by
  obtain ⟨effect, member, done⟩ := any_eq_true.mp satisfied
  obtain ⟨stored, owned⟩ := mem_filter.mp member
  simp only [Bool.and_eq_true, beq_iff_eq] at done owned
  refine ⟨effect.operationId, effect, mem_rows_iff.mp stored, owned, done.1, ?_⟩
  rw [StoredEffect.isKnown, done.2]
  rfl

theorem policyHash_of_named (named : hash ≠ "")
    (policy : policyHash.getD "" = hash) : policyHash = some hash := by
  cases policyHash with
  | none => exact absurd policy.symm named
  | some stored => exact congrArg some policy

/-- A decision to accept has everything the protocol asks for. -/
theorem acceptable_of_decision
    (isOpen : OpenRun world run) (current : run.candidate = some candidate)
    (checkpointFound : world.db.checkpoints.find? (run.runId, candidate) = some checkpoint)
    (single : singleVerdicts (world.db.evidenceOf run.runId) candidate =
      .ok (test, review)) (named : hash ≠ "")
    (reviewPolicy : review.policyHash = some (test.policyHash.getD ""))
    (decided :
      decideCandidate (candidateEvidence run candidate checkpoint test
        review (test.policyHash.getD "") hash
        (verifySource service.env checkpoint.localPath checkpoint.commitHash candidate).isOk
        ((world.db.effectsOf run.runId).any (fun effect =>
          effect.kind == .backup && effect.status == .done))
        (!(world.db.commandsIn run.runId .deliveryUnknown).isEmpty)) = .accept) :
    Acceptable world run candidate hash := by
  obtain ⟨testPassed, reviewPassed, policy, source, backedUp, certain⟩ :=
    decideCandidate_accept decided
  obtain ⟨testFound, reviewFound⟩ := singleVerdicts_found single
  dsimp only [candidateEvidence] at source backedUp certain
  have hexadecimal : Text.isHexadecimal checkpoint.commitHash := by
    cases verified : verifySource service.env checkpoint.localPath
        checkpoint.commitHash candidate with
    | ok tree => exact verifySource_hexadecimal verified
    | error failure =>
      rw [verified] at source
      cases source
  exact
    { isOpen
      current
      named
      verdicts := ⟨checkpoint, test, review, checkpointFound, hexadecimal, testFound, reviewFound,
        beq_iff_eq.mp testPassed, beq_iff_eq.mp reviewPassed, policyHash_of_named named policy,
        reviewPolicy.trans (congrArg some policy)⟩
      backedUp := backupKnown_of_done backedUp
      certain := by simpa using certain }

theorem acceptRun_ends (named : hash ≠ "") :
    (service.acceptRun runId expectedVersion hash).Leaves session fun reached =>
      AcceptsOrNot runId hash session.world reached.world := by
  have unread : ∀ faults : List (Option Fault), AcceptsOrNot runId hash
      session.world (Session.mk session.world faults).world :=
    fun _ => .inl rfl
  refine requireOpenRun_reads.ends_bind unread fun stored _ ⟨found, _, nonterminal⟩ => ?_
  refine Reads.ensure.ends_bind unread fun _ _ _ => ?_
  refine Reads.require.ends_bind unread fun candidate _ current => ?_
  refine findCheckpoint_reads.ends_bind unread fun checkpoint _ checkpointFound => ?_
  refine Reads.query.ends_bind unread ?_
  rintro evidence _ rfl
  refine Reads.lift.ends_bind unread ?_
  rintro ⟨test, review⟩ _ single
  refine Reads.ensure.ends_bind unread fun _ _ ⟨_, reviewPolicy⟩ => ?_
  refine Reads.query.ends_bind unread ?_
  rintro effects _ rfl
  refine Reads.query.ends_bind unread ?_
  rintro uncertain _ rfl
  split
  · rename_i decided
    obtain ⟨isOpen, key⟩ := OpenRun.of_find found nonterminal
    rw [← key] at checkpointFound single decided
    exact submitVerified_ends key
      (acceptable_of_decision isOpen current checkpointFound single named reviewPolicy decided)
  · exact unread _
  · exact unread _
  · exact unread _

/-! ## Calls -/

/-- The operation that can accept a run under a policy hash. -/
def Operation.acceptance (runId hash : String)
    (expectedVersion : Int) : Operation :=
  .advanceRun runId expectedVersion "host" "verified_current" (some hash)

theorem discard_world :
    ((discard method).exec session).2.world = (method.exec session).2.world := by
  rw [discard, exec_bind]
  cases method.exec session with
  | mk result reached => cases result <;> rfl

/-- What an answered call's method has established. -/
theorem discard_answered (ends : method.Ends session success failed)
    (answered : ((discard method).exec session).1 = .ok ()) :
    ∃ value, success value (method.exec session).2 := by
  rw [discard, exec_bind] at answered
  unfold Ends at ends
  cases outcome : method.exec session with
  | mk result reached =>
    rw [outcome] at ends answered
    cases result with
    | ok value => exact ⟨value, ends⟩
    | error failure => cases answered

theorem discard_answers (answers : Answers method world fact) :
    ((discard method).exec ⟨world, []⟩).1 = .ok () := by
  obtain ⟨_, _, answered, _⟩ := answers
  rw [discard, Program.exec_bind_ok answered]
  rfl

/-- A call without faults leaves what its method answers. -/
theorem after_of_answers (service : Service) (operation : Operation)
    (performed : service.perform operation = discard method)
    (answers : Answers method world fact) :
    ∃ value, fact value (world.after (.called ⟨service, [], operation⟩)) := by
  obtain ⟨value, after, answered, holds⟩ := answers
  refine ⟨value, ?_⟩
  unfold World.after Call.exec
  dsimp only
  rwa [performed, discard_world, answered]

theorem discard_refuses (ends : method.Ends session (fun _ _ => False) failed) :
    ((discard method).exec session).1 ≠ .ok () := by
  intro answered
  obtain ⟨_, impossible⟩ := discard_answered ends answered
  exact impossible

theorem parseActor_host (parsed : parseActor actor = some .host) :
    actor = "host" := by
  unfold parseActor at parsed
  split at parsed
  · rfl
  · cases parsed
  · cases parsed

theorem parseObservation_verifiedCurrent
    (parsed : parseObservation observation = some .verifiedCurrent) :
    observation = "verified_current" := by
  unfold parseObservation at parsed
  split at parsed <;> first | rfl | cases parsed

/-- What a call of the backend does to the world. -/
def Follows (service : Service) (operation : Operation)
    (before after : World) : Prop :=
  Relation.ReflTransGen (Move (service.permits operation)) before after ∨
    ∃ run candidate hash expectedVersion, operation = .acceptance run.runId hash expectedVersion ∧
        Accepts run candidate hash before after

/-- What a call does: a path of permitted steps, or one acceptance. -/
def Performs (service : Service) (operation : Operation)
    (before after : World) : Prop :=
  Relation.ReflTransGen (Step (service.permits operation)) before after ∨
    ∃ run candidate hash expectedVersion, operation = .acceptance run.runId hash expectedVersion ∧
        Accepts run candidate hash before after ∧ Decided run before after

theorem advanceRun_performs :
    Performs service (.advanceRun runId expectedVersion actor observation expectedPolicyHash)
      session.world
      ((service.advanceRun runId expectedVersion actor observation
        expectedPolicyHash).exec session).2.world := by
  by_cases verified : parseObservation observation = some .verifiedCurrent
  · generalize called : Operation.advanceRun runId expectedVersion actor
      observation expectedPolicyHash = operation
    have unread : ∀ faults : List (Option Fault), Performs service operation
        session.world (Session.mk session.world faults).world :=
      fun _ => .inl .refl
    have ends :
        (service.advanceRun runId expectedVersion actor observation
          expectedPolicyHash).Leaves session fun reached =>
            Performs service operation session.world reached.world := by
      refine Reads.require.ends_bind unread fun observer _ parsedActor => ?_
      refine Reads.require.ends_bind unread fun observed _ parsedObservation => ?_
      obtain rfl : .verifiedCurrent = observed :=
        Option.mem_unique verified parsedObservation
      refine Reads.ensure.ends_bind unread ?_
      rintro _ _ rfl
      refine Reads.ensure.ends_bind unread fun _ _ nonblank => ?_
      refine .of_final ?_
      have hashNamed : expectedPolicyHash.getD "" ≠ "" := by
        intro empty
        rw [empty] at nonblank
        exact nonblank rfl
      rcases (acceptRun_ends hashNamed).final with same | ⟨run, candidate, key, accepts⟩
      · rw [same]
        exact .inl .refl
      · refine .inr ⟨run, candidate, _, expectedVersion, ?_, accepts⟩
        rw [← called, key, parseActor_host parsedActor,
          parseObservation_verifiedCurrent parsedObservation, policyHash_of_named hashNamed rfl]
        rfl
    exact ends.final
  · refine .inl ?_
    refine Emits.require fun observer _ => ?_
    refine .require fun observed parsed => ?_
    have ordinary : observed ≠ .verifiedCurrent := by
      rintro rfl
      exact verified parsed
    rw [if_neg ordinary]
    exact submitObservation_emits ordinary

/-- Every operation of the backend keeps within what it permits. -/
theorem perform_performs :
    Performs service operation session.world
      ((service.perform operation).exec session).2.world := by
  cases operation with
  | startRun => exact .inl (Obeys.map (startRun_emits trivial))
  | runStatus => exact .inl (Obeys.map runSummary_reads.obeys)
  | listRuns => exact .inl (Obeys.map listRuns_reads.obeys)
  | runDetail => exact .inl (Obeys.map runDetail_reads.obeys)
  | pauseRun => exact .inl (Obeys.map pauseRun_emits)
  | resumeRun => exact .inl (Obeys.map resumeRun_emits)
  | cancelRun => exact .inl (Obeys.map (cancelRun_emits rfl fun _ => rfl))
  | resolveInput =>
    exact .inl (Obeys.map (resolveInput_emits (fun cancel => ⟨cancel, rfl⟩)
      (fun cancel _ => ⟨cancel, rfl⟩) id))
  | recordSession => exact .inl (Obeys.map recordSession_emits)
  | recordCandidate => exact .inl (Obeys.map (recordCandidate_emits rfl))
  | recordCheckpoint => exact .inl (Obeys.map (recordCheckpoint_emits rfl rfl))
  | recordTest => exact .inl (Obeys.map recordTest_emits)
  | recordReview => exact .inl (Obeys.map recordReview_emits)
  | recordBackup => exact .inl (Obeys.map recordBackup_emits)
  | advanceRun =>
    rw [Service.perform, discard_world]
    exact advanceRun_performs
  | recordDispatchIntent => exact .inl (Obeys.map (recordDispatchIntent_emits trivial))
  | recover => exact .inl (Obeys.map recover_emits)

/-- Every operation of the backend follows the protocol. -/
theorem perform_follows (service : Service) (operation : Operation)
    (session : Session) :
    Follows service operation session.world ((service.perform operation).exec session).2.world := by
  rcases perform_performs with steps | ⟨run, candidate, hash, expectedVersion, named, accepts, _⟩
  · exact .inl (.mono (fun _ _ step => step.move) _ _ steps)
  · exact .inr ⟨run, candidate, hash, expectedVersion, named, accepts⟩

/-- Every operation of the backend makes progress or accepts a run. -/
theorem perform_advances (service : Service) (operation : Operation)
    (session : Session) :
    Advances operation session.world ((service.perform operation).exec session).2.world := by
  rcases perform_performs with steps | ⟨run, _, hash, expectedVersion, named, _, decided⟩
  · exact .inl (.mono (fun _ _ step => step.progress) _ _ steps)
  · exact .inr ⟨run, ⟨expectedVersion, some hash, named⟩, decided⟩

/-- The run whose candidate or checkpoint source an event may exchange. -/
def Event.repoints : Event → String → Prop
  | .opened, _ => False
  | .called call, runId => call.operation.repoints runId

/-- What an event is there for. -/
def Event.permits : Event → Permits
  | .opened => .none
  | .called call => call.service.permits call.operation

/-- An event is a path of moves or one acceptance. -/
theorem after_follows (world : World) (event : Event) :
    Relation.ReflTransGen (Move event.permits) world (world.after event) ∨
      ∃ call run candidate hash expectedVersion, event = .called call ∧
          call.operation = .acceptance run.runId hash expectedVersion ∧
          Accepts run candidate hash world (world.after event) := by
  cases event with
  | opened => exact .inl (.single .opened)
  | called call =>
    rcases perform_follows call.service call.operation ⟨world, call.faults⟩ with
      moves | ⟨run, candidate, hash, version, named, accepts⟩
    · exact .inl moves
    · exact .inr ⟨call, run, candidate, hash, version, rfl, named, accepts⟩

theorem after_changes :
    Relation.ReflTransGen (Change event.permits) world (world.after event) := by
  rcases after_follows world event with moves | ⟨_, _, _, _, _, _, _, accepts⟩
  · exact .mono (fun _ _ move => Change.move move) _ _ moves
  · exact .single (.accept accepts)

/-- What every change preserves, every history preserves. -/
theorem World.play_invariant (invariant : World → Prop)
    (preserved : ∀ permits before after, Change permits before after →
      invariant before → invariant after) (initial : invariant world)
    (history : List Event) : invariant (world.play history) := by
  induction history generalizing world with
  | nil => exact initial
  | cons event rest ih =>
    exact ih (invariant_of_path invariant after_changes (preserved event.permits) initial)

end Jackin.Workflow
