import Jackin.Workflow.Store

/-!
# The methods of the run store

Each method is the sequence of statements the store issues.  Reads never
change the world.  For every write there is one lemma that says what the world
can look like afterwards, whether the method answered or failed: unchanged, or
changed by exactly the rows the method writes.
-/

namespace Jackin.Workflow

open Foundation Table
open Program (Ends ensure_ok exec_bind_eq_ok exec_bind_ok)

/-- An open store: the owner epoch it was given and its clock. -/
structure RunStore where
  epoch : Nat
  now : Int

/-! ## Reads -/

variable {event : StoredEvent} {left : Session} {runId commandId : String}
    {run : StoredRun}
    {world : World} {store : RunStore} {changed : Nat} {command : StoredCommand}
    {state : CommandState} {receipt resolution : Option String}

namespace Database

/-- Runs that are not finished, in creation order. -/
def isOpen (run : StoredRun) : Bool :=
  run.status == .active || run.status == .paused || run.status == .needsOperator

variable (db : Database)

def activeRun : Option StoredRun := db.runs.rows.find? isOpen

def runByKey (idempotencyKey : String) : Option StoredRun :=
  db.runs.rows.find? (·.idempotencyKey == idempotencyKey)

section

variable (runId : String)

def evidenceOf : List StoredEvidence :=
  db.evidence.rows.filter (·.runId == runId)

def checkpointsOf : List StoredCheckpoint :=
  db.checkpoints.rows.filter (·.runId == runId)

def effectsOf : List StoredEffect :=
  db.effects.rows.filter (·.runId == runId)

def sessionsOf : List StoredSession :=
  db.sessions.filter (·.runId == runId)

def commandsIn (state : CommandState) : List StoredCommand :=
  db.commands.rows.filter (fun row => row.runId == runId && row.state == state)

def eventsAfter (afterSeq : Int) (limit : Nat) : List StoredEvent :=
  ((db.events.rows.filter (fun event =>
      event.runId == runId && decide (afterSeq < event.seq))).mergeSort
    (fun left right => decide (left.seq ≤ right.seq))).take (max limit 1)

/-- `COALESCE(MAX(seq), -1) + 1` over the events of a run. -/
def nextEventSeq : Int :=
  ((db.events.rows.filter (·.runId == runId)).foldl
    (fun highest event => max highest event.seq) (-1)) + 1

/-- The unfinished effect of a run with a kind and an ownership label. -/
def pendingEffect (kind : EffectKind)
    (ownershipLabel : String) : Option StoredEffect :=
  db.effects.rows.find? (fun effect =>
    effect.runId == runId && effect.kind == kind && effect.ownershipLabel == some ownershipLabel &&
      (effect.status == .intended || effect.status == .adopted || effect.status == .dispatched))

def effectCount (kind : EffectKind) : Nat :=
  db.effects.rows.countP (fun effect => effect.runId == runId && effect.kind == kind)

end

end Database

section

variable (runId : String)

def loadRun : Method (Option StoredRun) :=
  query "load workflow run failed" (fun db => db.runs.find? runId)

def loadRunByKey (idempotencyKey : String) : Method (Option StoredRun) :=
  query "load workflow run by key failed" (fun db => db.runByKey idempotencyKey)

def activeRun : Method (Option StoredRun) :=
  query "load active workflow run failed" Database.activeRun

def listStoredRuns (limit : Nat) : Method (List StoredRun) :=
  query "list workflow runs failed" (fun db => db.runs.rows.reverse.take (max limit 1))

def loadEvents (afterSeq : Int) (limit : Nat) : Method (List StoredEvent) :=
  query "load workflow events failed" (fun db => db.eventsAfter runId afterSeq limit)

def loadEvidence : Method (List StoredEvidence) :=
  query "load workflow evidence failed" (fun db => db.evidenceOf runId)

def loadCheckpoints : Method (List StoredCheckpoint) :=
  query "load workflow checkpoints failed" (fun db => db.checkpointsOf runId)

def loadSessions : Method (List StoredSession) :=
  query "list workflow sessions failed" (fun db => db.sessionsOf runId)

def loadCommand (commandId : String) : Method (Option StoredCommand) :=
  query "load workflow command failed" (fun db => db.commands.find? commandId)

def commandsInState (state : CommandState) : Method (List StoredCommand) :=
  query "list workflow commands failed" (fun db => db.commandsIn runId state)

def loadEffects : Method (List StoredEffect) :=
  query "list workflow effects failed" (fun db => db.effectsOf runId)

end

/-! ## Events -/

/-- Insert one event row; `run_id` and `seq` together are unique. -/
def insertEvent (event : StoredEvent) : Method Unit :=
  statement "insert workflow event failed" fun db =>
    match db.events.insert? event with
    | some events => .ok ((), { db with events })
    | none => .error "UNIQUE constraint failed: events.run_id, events.seq"

def nextEventSeq (runId : String) : Method Int :=
  query "compute workflow event seq failed" (fun db => db.nextEventSeq runId)

namespace RunStore

/-- Insert an event under the next sequence number of its run. -/
def appendEvent (store : RunStore) (runId actor kind : String)
    (evidenceRef : Option String) : Method Unit := do
  let seq ← nextEventSeq runId
  insertEvent ⟨runId, seq, store.now, actor, kind, evidenceRef⟩

end RunStore

namespace World

/-- Replace the event rows. -/
def withEvents (world : World) (events : Table StoredEvent.key) : World :=
  { world with db := { world.db with events } }

end World

/-- The event rows are all that may have changed. -/
def Logged (before after : World) : Prop :=
  ∃ events, after = before.withEvents events

theorem Logged.of_eq (same : after = before) : Logged before after :=
  ⟨before.db.events, same⟩

private theorem insertEvent_changes
    (event : StoredEvent) : Changes (insertEvent event) Logged := by
  refine .statement fun outcome => ?_
  split at outcome <;> cases outcome
  exact ⟨_, rfl⟩

private theorem le_foldl_seq {events : List StoredEvent}
    (member : event ∈ events)
    (start : Int) :
    event.seq ≤ events.foldl (fun highest other => max highest other.seq) start := by
  induction events generalizing start with
  | nil => cases member
  | cons head tail ih =>
    rcases List.mem_cons.mp member with rfl | inTail
    · exact List.foldlRecOn tail _ (motive := (event.seq ≤ ·)) (Int.le_max_right _ _)
        fun _ below _ _ => Int.le_trans below (Int.le_max_left _ _)
    · exact ih inTail _

/-- The next number of a run is not taken. -/
theorem nextEventSeq_fresh {db : Database} :
    db.events.find? (runId, db.nextEventSeq runId) = none := by
  rw [find?_eq_none_iff]
  intro event member key
  simp only [StoredEvent.key, Prod.mk.injEq] at key
  have counted : event ∈ db.events.rows.filter (·.runId == runId) :=
    List.mem_filter.mpr ⟨member, beq_iff_eq.mpr key.1⟩
  have below := le_foldl_seq counted (-1)
  unfold Database.nextEventSeq at key
  omega

/-- A numbered event is inserted exactly when no fault hits it. -/
theorem numberedEvent_ok_iff {event : Int → StoredEvent} :
    Program.exec (do
          let seq ← nextEventSeq runId
          insertEvent (event seq)) session = (.ok (), reached) ↔
      Unfaulted 2 session.faults ∧ ∃ events,
        session.world.db.events.insert? (event (session.world.db.nextEventSeq runId)) =
          some events ∧
        reached = ⟨session.world.withEvents events, remaining 2 session.faults⟩ := by
  rw [Program.exec_bind_ok_iff]
  constructor
  · rintro ⟨seq, counted, numbered, inserted⟩
    obtain ⟨first, rfl, rfl⟩ := query_ok_iff.mp numbered
    obtain ⟨second, _, outcome, rfl⟩ := statement_ok_iff.mp inserted
    refine ⟨⟨first, second, trivial⟩, ?_⟩
    split at outcome <;> cases outcome
    rename_i events insertion
    exact ⟨events, insertion, rfl⟩
  · rintro ⟨⟨first, second, _⟩, events, insertion, rfl⟩
    refine ⟨_, _, query_ok_iff.mpr ⟨first, rfl, rfl⟩, statement_ok_iff.mpr ⟨second, _, ?_, rfl⟩⟩
    dsimp only [Session.afterStatement]
    rw [insertion]

theorem numberedEvent_inserts (event : Int → StoredEvent)
    (keyed : ∀ seq, (event seq).key = (runId, seq)) (db : Database) :
    ∃ events, db.events.insert? (event (db.nextEventSeq runId)) = some events := by
  refine insert?_of_fresh ?_
  rw [keyed]
  exact nextEventSeq_fresh

private theorem numberedEvent_changes (event : Int → StoredEvent) :
    Changes (do
        let seq ← nextEventSeq runId
        insertEvent (event seq)) Logged :=
  .query fun seq => insertEvent_changes (event seq)

theorem appendEvent_world :
    Logged session.world
      ((store.appendEvent runId actor kind evidenceRef).exec session).2.world := by
  rcases (numberedEvent_changes fun seq => ⟨runId, seq, store.now, actor,
    kind, evidenceRef⟩).world with same | logged
  · exact .of_eq same
  · exact logged

/-- The next-number query and the insert of a transaction's event. -/
private theorem eventOf_ok {Value : Type} {event : Int → StoredEvent}
    {next} {value : Value}
    (success : Program.exec (do
          let seq ← nextEventSeq runId
          insertEvent (event seq)
          next) session = (.ok value, left)) :
    ∃ events reached,
      reached.world = session.world.withEvents events ∧
        next.exec reached = (.ok value, left) := by
  obtain ⟨_, _, numbered, rest⟩ := exec_bind_eq_ok success
  obtain ⟨_, reached, inserted, rest⟩ := exec_bind_eq_ok rest
  obtain ⟨events, world⟩ := (insertEvent_changes _).answered inserted
  rw [(query_ok numbered).2] at world
  exact ⟨events, reached, world, rest⟩

/-! ## Runs -/

section

variable (store : RunStore) (runId planHash : String) (maxRepairTurns : Nat)
    (idempotencyKey : String)

/-- The row `create_run` inserts. -/
def RunStore.newRun : StoredRun where
  runId := runId
  planHash := planHash
  maxRepairTurns := maxRepairTurns
  idempotencyKey := idempotencyKey
  status := .active
  stage := .prepare
  round := 0
  candidate := none
  candidateGeneration := 0
  version := 0
  ownerEpoch := store.epoch
  pauseKind := none

/-- Insert a run row; both its id and its idempotency key are unique. -/
def insertRun (run : StoredRun) : Method Unit :=
  statement "insert workflow run failed" fun db =>
    if (db.runByKey run.idempotencyKey).isSome then
      .error "UNIQUE constraint failed: runs.idempotency_key"
    else
      match db.runs.insert? run with
      | some runs => .ok ((), { db with runs })
      | none => .error "UNIQUE constraint failed: runs.run_id"

def RunStore.createRun : Method Unit :=
  transaction do
    insertRun (store.newRun runId planHash maxRepairTurns idempotencyKey)
    insertEvent ⟨runId, 0, store.now, "host", "run_started", none⟩

end

private theorem insertRun_ok
    (success : (insertRun run).exec session = (.ok (), reached)) :
    ∃ runs, session.world.db.runs.insert? run = some runs ∧
      reached.world = { session.world with db := { session.world.db with runs } } := by
  obtain ⟨_, outcome, world⟩ := statement_ok success
  split at outcome
  · cases outcome
  · split at outcome <;> cases outcome
    rename_i runs inserted
    exact ⟨runs, inserted, world⟩

/-- A run row was added, with the first event of the run. -/
def RunAdded (run : StoredRun) (before after : World) : Prop :=
  ∃ runs events, before.db.runs.insert? run = some runs ∧
    after = { before with db := { before.db with runs, events } }

theorem createRun_changes :
    Changes (store.createRun runId planHash maxRepairTurns idempotencyKey)
      (RunAdded (store.newRun runId planHash maxRepairTurns idempotencyKey)) := by
  refine .transaction fun ran => ?_
  obtain ⟨_, _, inserted, rest⟩ := exec_bind_eq_ok ran
  obtain ⟨runs, fresh, created⟩ := insertRun_ok inserted
  obtain ⟨events, logged⟩ := (insertEvent_changes _).answered rest
  refine ⟨runs, events, fresh, ?_⟩
  rw [logged, created]
  rfl

/-- A requested change of a run row. -/
structure RunTransition where
  runId : String
  expectedVersion : Int
  status : RunStatus
  stage : Stage
  round : Nat
  candidate : Option String
  candidateGeneration : Nat
  pauseKind : Option String
  eventActor : String
  eventKind : String
  effect : Option StoredEffect

/-- The row after a transition; its id, plan and keys stay. -/
def StoredRun.transitioned (run : StoredRun) (transition : RunTransition)
    (epoch : Nat) : StoredRun :=
  { run with
    status := transition.status, stage := transition.stage, round := transition.round
    candidate := transition.candidate
    candidateGeneration := transition.candidateGeneration, version := run.version + 1
    ownerEpoch := epoch, pauseKind := transition.pauseKind }

theorem StoredRun.transitioned_runId (transition : RunTransition) (epoch : Nat)
    (run : StoredRun) :
    (run.transitioned transition epoch).runId = run.runId :=
  rfl

/-- The run rows with one of them moved by a transition. -/
abbrev movedRuns (runs : Table StoredRun.runId) (runId : String)
    (transition : RunTransition) (epoch : Nat) : Table StoredRun.runId :=
  runs.update runId (fun stored => stored.transitioned transition epoch)
    (StoredRun.transitioned_runId transition epoch)

/-- `UPDATE runs … WHERE run_id = ? AND version = ?`, with its row count. -/
def RunStore.updateRun (store : RunStore)
    (transition : RunTransition) : Method Nat :=
  statement "update workflow run failed" fun db =>
    match db.runs.find? transition.runId with
    | some run =>
      if run.version = transition.expectedVersion then
        .ok (1, { db with runs := movedRuns db.runs transition.runId transition store.epoch })
      else .ok (0, db)
    | none => .ok (0, db)

/-- Insert an effect row under its operation id. -/
def insertEffect (effect : StoredEffect) : Method Unit :=
  statement "insert workflow effect failed" fun db =>
    match db.effects.insert? effect with
    | some effects => .ok ((), { db with effects })
    | none => .error "UNIQUE constraint failed: effects.operation_id"

/-- Why no row matched: another version, or no such run. -/
def versionConflict (runId : String) : Method WorkflowError := do
  let present ← query "check workflow run failed" (fun db => (db.runs.find? runId).isSome)
  return if present then .staleVersion "stale run version" else .notFound "workflow run not found"

def RunStore.applyTransition (store : RunStore)
    (transition : RunTransition) : Method Unit :=
  transaction do
    let changed ← store.updateRun transition
    if changed = 0 then
      let conflict ← versionConflict transition.runId
      throw conflict
    else
      let seq ← nextEventSeq transition.runId
      insertEvent ⟨transition.runId, seq, store.now,
        transition.eventActor, transition.eventKind, none⟩
      match transition.effect with
      | some effect => insertEffect effect
      | none => pure ()

/-- The world after a transition, its event and its effect. -/
def World.transitioned (world : World) (transition : RunTransition)
    (epoch : Nat)
    (events : Table StoredEvent.key)
    (effects : Table StoredEffect.operationId) : World :=
  { world with
    db :=
      { world.db with
        runs := movedRuns world.db.runs transition.runId transition epoch, events
        effects } }

theorem find?_transitioned (world : World) (transition : RunTransition)
    (epoch : Nat)
    (events : Table StoredEvent.key) (effects : Table StoredEffect.operationId)
    (runId : String) :
    (world.transitioned transition epoch events effects).db.runs.find? runId =
      if runId = transition.runId then
        (world.db.runs.find? runId).map (fun run => run.transitioned transition epoch)
      else world.db.runs.find? runId :=
  find?_update _ _ _ (StoredRun.transitioned_runId transition epoch) _

theorem find?_transitioned_self (found : world.db.runs.find? runId = some run)
    (own : transition.runId = runId) :
    (world.transitioned transition epoch events effects).db.runs.find? runId =
      some (run.transitioned transition epoch) := by
  rw [find?_transitioned, if_pos own.symm, found]
  rfl

private theorem updateRun_ok
    (success : (store.updateRun transition).exec session = (.ok changed, reached)) :
    (changed = 0 ∧ reached.world = session.world) ∨ (changed = 1 ∧
        ∃ run, session.world.db.runs.find? transition.runId = some run ∧
          run.version = transition.expectedVersion ∧
          reached.world = session.world.transitioned transition store.epoch
              session.world.db.events session.world.db.effects) := by
  obtain ⟨_, outcome, world⟩ := statement_ok success
  split at outcome
  · rename_i run found
    split at outcome
    · rename_i current
      cases outcome
      exact .inr ⟨rfl, run, found, current, world⟩
    · cases outcome
      exact .inl ⟨rfl, world⟩
  · cases outcome
    exact .inl ⟨rfl, world⟩

/-- The world with other effect rows. -/
def World.withEffects (world : World)
    (effects : Table StoredEffect.operationId) : World :=
  { world with db := { world.db with effects } }

/-- An effect row was added under a free operation id. -/
def EffectInserted (effect : StoredEffect) (before after : World) : Prop :=
  ∃ effects, before.db.effects.insert? effect = some effects ∧ after = before.withEffects effects

theorem insertEffect_changes :
    Changes (insertEffect effect) (EffectInserted effect) := by
  refine .statement fun outcome => ?_
  split at outcome <;> cases outcome
  exact ⟨_, ‹_›, rfl⟩

/-- The effect rows a transition can leave. -/
def EffectAdded (before after : Table StoredEffect.operationId) : Option StoredEffect → Prop
  | none => after = before
  | some effect => before.insert? effect = some after

/-- The row with the expected version moved, with its event and effect. -/
def RunMoved (transition : RunTransition) (epoch : Nat)
    (before after : World) : Prop :=
  ∃ run events effects,
    before.db.runs.find? transition.runId = some run ∧ run.version = transition.expectedVersion ∧
      EffectAdded before.db.effects effects transition.effect ∧
      after = before.transitioned transition epoch events effects

theorem applyTransition_changes :
    Changes (store.applyTransition transition) (RunMoved transition store.epoch) := by
  refine .transaction fun {entered left} ran => ?_
  obtain ⟨_, _, update, rest⟩ := exec_bind_eq_ok ran
  rcases updateRun_ok update with ⟨rfl, _⟩ | ⟨rfl, run, found, current, moved⟩
  · obtain ⟨_, _, _, thrown⟩ := exec_bind_eq_ok rest
    cases thrown
  · obtain ⟨events, _, logging, rest⟩ := eventOf_ok rest
    cases requested : transition.effect with
    | none =>
      rw [requested] at rest
      cases rest
      refine ⟨run, events, entered.world.db.effects, found, current, ?_, ?_⟩
      · rw [requested]
        rfl
      · rw [logging, moved]
        rfl
    | some effect =>
      rw [requested] at rest
      obtain ⟨effects, inserted, world⟩ := insertEffect_changes.answered rest
      rw [logging, moved] at inserted world
      refine ⟨run, events, effects, found, current, ?_, world⟩
      rwa [requested]

/-! ## Commands -/

/-- The event kind of an inserted command. -/
def insertedCommandEvent : CommandState → String
  | .queued => "command_queued"
  | .dispatching => "command_dispatching"
  | .written | .turnEnded | .deliveryUnknown => "command_state"

/-- The event kind of a changed command. -/
def changedCommandEvent : CommandState → String
  | .written => "command_written"
  | .turnEnded => "command_turn_ended"
  | .deliveryUnknown => "command_delivery_unknown"
  | .queued | .dispatching => "command_state"

section

variable (store : RunStore) (command : StoredCommand)

def insertCommandRow : Method Unit :=
  statement "insert workflow command failed" fun db =>
    match db.commands.insert? command with
    | some commands => .ok ((), { db with commands })
    | none => .error "UNIQUE constraint failed: commands.command_id"

def RunStore.insertCommand : Method Unit :=
  transaction do
    insertCommandRow command
    let seq ← nextEventSeq command.runId
    insertEvent ⟨command.runId, seq, store.now, "host",
      insertedCommandEvent command.state, some command.commandId⟩

def RunStore.insertDispatchingCommand (runId commandId sessionRef promptDigest : String)
    (turn leaseGeneration : Nat) : Method Unit :=
  store.insertCommand ⟨commandId, runId, sessionRef, promptDigest, turn,
    leaseGeneration, .dispatching, none, none⟩

def RunStore.insertQueuedCommand (runId commandId sessionRef promptDigest : String)
    (turn leaseGeneration : Nat) : Method Unit :=
  store.insertCommand ⟨commandId, runId, sessionRef, promptDigest, turn,
    leaseGeneration, .queued, none, none⟩

/-- Replace the command and event rows. -/
def World.withCommands (world : World)
    (commands : Table StoredCommand.commandId)
    (events : Table StoredEvent.key) : World :=
  { world with db := { world.db with commands, events } }

/-- A command row was added under a free id, with its event. -/
def CommandInserted (before after : World) : Prop :=
  ∃ commands events, before.db.commands.insert? command = some commands ∧
    after = before.withCommands commands events

end

private theorem insertCommandRow_changes (command : StoredCommand) :
    Changes (insertCommandRow command) (fun before after =>
      ∃ commands, before.db.commands.insert? command = some commands ∧
        after = before.withCommands commands before.db.events) := by
  refine .statement fun outcome => ?_
  split at outcome <;> cases outcome
  exact ⟨_, ‹_›, rfl⟩

theorem insertCommand_changes :
    Changes (store.insertCommand command) (CommandInserted command) := by
  refine .transaction fun ran => ?_
  obtain ⟨_, _, inserting, rest⟩ := exec_bind_eq_ok ran
  obtain ⟨commands, inserted, world⟩ := (insertCommandRow_changes command).answered inserting
  obtain ⟨events, logged⟩ := (numberedEvent_changes _).answered rest
  refine ⟨commands, events, inserted, ?_⟩
  rw [logged, world]
  rfl

/-- The command row after a state change. -/
def StoredCommand.inState (command : StoredCommand) (state : CommandState)
    (receipt resolution : Option String) : StoredCommand :=
  { command with state, receipt, resolution }

theorem StoredCommand.inState_commandId (state : CommandState)
    (receipt resolution : Option String) (command : StoredCommand) :
    (command.inState state receipt resolution).commandId = command.commandId :=
  rfl

section

variable (store : RunStore) (commandId : String) (state : CommandState)
    (receipt resolution : Option String)

/-- The command rows with one of them in another state. -/
abbrev changedCommands (commands : Table StoredCommand.commandId)
    (commandId : String)
    (state : CommandState)
    (receipt resolution : Option String) : Table StoredCommand.commandId :=
  commands.update commandId (fun command => command.inState state receipt resolution)
    (StoredCommand.inState_commandId state receipt resolution)

/-- `UPDATE commands … WHERE command_id = ?`, with its row count. -/
def updateCommand : Method Nat :=
  statement "update workflow command failed" fun db =>
    if (db.commands.find? commandId).isSome then
      .ok (1,
        { db with commands := changedCommands db.commands commandId state receipt resolution })
    else .ok (0, db)

/-- The run a command belongs to. -/
def commandRun : Method String := do
  let command ← query "load command run failed" (fun db => db.commands.find? commandId)
  let found ← Program.require command (.notFound "workflow command not found")
  return found.runId

def RunStore.setCommandState : Method Unit :=
  transaction do
    let changed ← updateCommand commandId state receipt resolution
    Program.ensure (changed ≠ 0) (.notFound "workflow command not found")
    let runId ← commandRun commandId
    let seq ← nextEventSeq runId
    insertEvent ⟨runId, seq, store.now, "host", changedCommandEvent state, some commandId⟩

/-- A stored command is in another state, with its event. -/
def CommandChanged (before after : World) : Prop :=
  ∃ command events, before.db.commands.find? commandId = some command ∧
    after = before.withCommands
      (changedCommands before.db.commands commandId state receipt resolution) events

end

/-- The session after the row of a command was updated. -/
private def commandUpdated (session : Session) (commandId : String)
    (state : CommandState) (receipt resolution : Option String) : Session :=
  session.afterStatement
    { session.world.db with
      commands := changedCommands session.world.db.commands commandId state receipt resolution }

private theorem updateCommand_answered
    (success : (updateCommand commandId state receipt resolution).exec
      session = (.ok changed, reached)) (nonzero : changed ≠ 0) :
    session.faults.head?.join = none ∧
      (∃ command, session.world.db.commands.find? commandId = some command) ∧
      reached = commandUpdated session commandId state receipt resolution := by
  obtain ⟨fate, _, outcome, rfl⟩ := statement_ok_iff.mp success
  split at outcome
  · rename_i present
    cases outcome
    exact ⟨fate, Option.isSome_iff_exists.mp present, rfl⟩
  · cases outcome
    exact absurd rfl nonzero

private theorem exec_updateCommand (fate : session.faults.head?.join = none)
    (found : session.world.db.commands.find? commandId = some command) :
    (updateCommand commandId state receipt resolution).exec session =
      (.ok 1, commandUpdated session commandId state receipt resolution) := by
  refine statement_ok_iff.mpr ⟨fate, _, ?_, rfl⟩
  rw [found]
  rfl

private theorem find?_commandUpdated
    (found : session.world.db.commands.find? commandId = some command) :
    (commandUpdated session commandId state receipt resolution).world.db.commands.find? commandId =
      some (command.inState state receipt resolution) :=
  find?_update_self (StoredCommand.inState_commandId _ _ _) found

private theorem commandRun_ok_iff :
    (commandRun commandId).exec session = (.ok runId, reached) ↔
      session.faults.head?.join = none ∧
        ∃ command, session.world.db.commands.find? commandId = some command ∧
          runId = command.runId ∧
          reached = session.afterStatement session.world.db := by
  rw [commandRun, Program.exec_bind_ok_iff]
  constructor
  · rintro ⟨loaded, read, reading, rest⟩
    obtain ⟨fate, rfl, rfl⟩ := query_ok_iff.mp reading
    obtain ⟨command, _, required, final⟩ := exec_bind_eq_ok rest
    obtain ⟨found, rfl⟩ := Program.require_ok required
    cases final
    exact ⟨fate, command, found, rfl, rfl⟩
  · rintro ⟨fate, command, found, rfl, rfl⟩
    refine ⟨_, _, query_ok_iff.mpr ⟨fate, rfl, rfl⟩, ?_⟩
    rw [found]
    rfl

theorem setCommandState_changes :
    Changes (store.setCommandState commandId state receipt resolution)
      (CommandChanged commandId state receipt resolution) := by
  refine .transaction fun ran => ?_
  obtain ⟨_, _, update, rest⟩ := exec_bind_eq_ok ran
  obtain ⟨_, _, guarded, rest⟩ := exec_bind_eq_ok rest
  obtain ⟨_, _, locating, rest⟩ := exec_bind_eq_ok rest
  obtain ⟨nonzero, rfl⟩ := ensure_ok guarded
  obtain ⟨_, ⟨command, found⟩, rfl⟩ := updateCommand_answered update nonzero
  obtain ⟨_, _, _, _, rfl⟩ := commandRun_ok_iff.mp locating
  obtain ⟨events, logged⟩ := (numberedEvent_changes _).answered rest
  refine ⟨command, events, found, ?_⟩
  rw [logged]
  rfl

/--
A state change answers when its six statements are not hit by a fault and the
command is stored.
-/
theorem setCommandState_ok_iff :
    (store.setCommandState commandId state receipt resolution).exec session =
      (.ok (), reached) ↔
      Unfaulted 6 session.faults ∧ ∃ command events,
        session.world.db.commands.find? commandId = some command ∧
        session.world.db.events.insert?
            ⟨command.runId, session.world.db.nextEventSeq command.runId, store.now,
              "host", changedCommandEvent state, some commandId⟩ = some events ∧
        reached = ⟨session.world.withCommands
            (changedCommands session.world.db.commands commandId state receipt resolution) events,
          remaining 6 session.faults⟩ := by
  rw [RunStore.setCommandState, transaction_ok_iff]
  constructor
  · rintro ⟨began, left, ran, committed, rfl⟩
    obtain ⟨_, _, update, rest⟩ := exec_bind_eq_ok ran
    obtain ⟨_, _, guarded, rest⟩ := exec_bind_eq_ok rest
    obtain ⟨_, _, locating, rest⟩ := exec_bind_eq_ok rest
    obtain ⟨nonzero, rfl⟩ := ensure_ok guarded
    obtain ⟨written, ⟨command, found⟩, rfl⟩ := updateCommand_answered update nonzero
    obtain ⟨searched, _, movedFound, rfl, rfl⟩ := commandRun_ok_iff.mp locating
    obtain ⟨⟨counted, inserted, _⟩, events, insertion, rfl⟩ := numberedEvent_ok_iff.mp rest
    rw [find?_commandUpdated found] at movedFound
    cases movedFound
    exact ⟨⟨began, written, searched, counted, inserted, committed,
      trivial⟩, command, events, found, insertion, rfl⟩
  · rintro ⟨⟨began, written, searched, counted, inserted, committed, _⟩,
      command, events, found, insertion, rfl⟩
    refine ⟨began, ⟨_, remaining 5 session.faults⟩, ?_, committed, rfl⟩
    have opened : (session.afterStatement
        session.world.db).world.db.commands.find? commandId = some command := found
    rw [exec_bind_ok (exec_updateCommand written opened),
      exec_bind_ok (Program.exec_ensure_of Nat.one_ne_zero _),
      exec_bind_ok (commandRun_ok_iff.mpr ⟨searched, _, find?_commandUpdated opened, rfl, rfl⟩)]
    exact numberedEvent_ok_iff.mpr ⟨⟨counted, inserted, trivial⟩, events, insertion, rfl⟩

/-! ## Effects -/

/-- An effect row as it is inserted. -/
def StoredEffect.planned (runId operationId : String) (kind : EffectKind)
    (ownershipLabel : String) : StoredEffect where
  operationId := operationId
  runId := runId
  kind := kind
  status := .intended
  expectedState := none
  externalIdentity := none
  ownershipLabel := some ownershipLabel
  preservation := none

/-- The unfinished effect of that kind and label, inserted when missing. -/
def ensureEffect (runId : String) (kind : EffectKind)
    (ownershipLabel : String) : Method StoredEffect := do
  let pending ← query "find workflow effect failed"
    (fun db => db.pendingEffect runId kind ownershipLabel)
  match pending with
  | some effect => return effect
  | none =>
    let count ← query "count workflow effects failed" (fun db => db.effectCount runId kind)
    let operationId := runId ++ ":" ++ kind.asStr ++ ":" ++ toString (count + 1)
    insertEffect (.planned runId operationId kind ownershipLabel)
    let fresh ← query "reload workflow effect failed" (fun db => db.effects.find? operationId)
    Program.require fresh (.storage "effect vanished after insert")

/-- The effect row after a status change. -/
def StoredEffect.settled (effect : StoredEffect) (status : EffectStatus)
    (externalIdentity preservation : Option String) : StoredEffect :=
  { effect with status, externalIdentity, preservation }

theorem StoredEffect.settled_operationId (status : EffectStatus)
    (externalIdentity preservation : Option String) (effect : StoredEffect) :
    (effect.settled status externalIdentity preservation).operationId =
      effect.operationId :=
  rfl

/-- The effect rows with one of them settled. -/
abbrev settledEffects (effects : Table StoredEffect.operationId)
    (operationId : String) (status : EffectStatus)
    (identity preservation : Option String) :
    Table StoredEffect.operationId :=
  effects.update operationId (fun effect => effect.settled status identity preservation)
    (StoredEffect.settled_operationId status identity preservation)

/-- `UPDATE effects … WHERE operation_id = ?`, with its row count. -/
def updateEffect (operationId : String) (status : EffectStatus)
    (externalIdentity preservation : Option String) : Method Nat :=
  statement "update workflow effect failed" fun db =>
    if (db.effects.find? operationId).isSome then
      .ok (1,
        { db with
          effects := settledEffects db.effects operationId status externalIdentity preservation })
    else .ok (0, db)

def RunStore.setEffect (store : RunStore) (runId operationId : String)
    (status : EffectStatus)
    (externalIdentity preservation : Option String) : Method Unit :=
  transaction do
    let changed ← updateEffect operationId status externalIdentity preservation
    Program.ensure (changed ≠ 0) (.notFound "workflow effect not found")
    let seq ← nextEventSeq runId
    insertEvent ⟨runId, seq, store.now, "host", "effect_state", some operationId⟩

/--
However `ensureEffect` ends, it added at most one planned effect.  When it
answers, the answer is stored under its operation id and belongs to the run.
-/
theorem ensureEffect_ends :
    let added := fun world : World =>
      world = session.world ∨ ∃ operationId,
        EffectInserted (.planned runId operationId kind ownershipLabel) session.world world
    (ensureEffect runId kind ownershipLabel).Ends session (fun effect reached =>
        added reached.world ∧ reached.world.db.effects.find? effect.operationId = some effect ∧
          effect.runId = runId ∧ effect.kind = kind)
      (fun reached => added reached.world) := by
  intro added
  refine .bind _ (query_ends fun _ => .inl) ?_
  rintro pending searched ⟨found, searchedWorld⟩
  cases pending with
  | some effect =>
    have matching := List.find?_some found.symm
    simp only [Bool.and_eq_true, beq_iff_eq] at matching
    refine .pure ⟨.inl searchedWorld, ?_, matching.1.1.1, matching.1.1.2⟩
    rw [searchedWorld]
    exact mem_rows_iff.mp (List.mem_of_find?_eq_some found.symm)
  | none =>
    refine .bind _ (query_ends fun _ world => .inl (world.trans searchedWorld)) ?_
    rintro count counted ⟨_, countedWorld⟩
    generalize runId ++ ":" ++ kind.asStr ++ ":" ++ toString (count + 1) = operationId
    refine .bind _ ((insertEffect_changes counted).imply (fun _ _ => id) ?_) ?_
    · rw [countedWorld.trans searchedWorld]
      exact fun _ => Or.imp_right fun inserted => ⟨operationId, inserted⟩
    · rw [countedWorld.trans searchedWorld]
      rintro _ stored ⟨effects, inserted, storedWorld⟩
      have storedAdded : added stored.world :=
        .inr ⟨operationId, effects, inserted, storedWorld⟩
      refine .bind _ (query_ends fun _ world => ?_) ?_
      · rwa [world]
      · rintro fresh reloaded ⟨found, world⟩
        rw [← world] at storedAdded
        refine .require ?_ storedAdded
        rintro effect rfl
        have reload : effects.find? operationId = some effect := by
          rw [storedWorld] at found
          exact found.symm
        obtain rfl : StoredEffect.planned runId operationId kind ownershipLabel = effect :=
          Option.mem_unique (find?_self_of_insert? inserted) reload
        refine ⟨storedAdded, ?_, rfl, rfl⟩
        rw [world]
        exact found.symm

/-- A stored effect has another status, with an event. -/
def EffectSettled (operationId : String) (status : EffectStatus)
    (identity preservation : Option String) (before after : World) : Prop :=
  ∃ effect events, before.db.effects.find? operationId = some effect ∧
    after = (before.withEvents events).withEffects
      (settledEffects before.db.effects operationId status identity preservation)

private theorem updateEffect_ok
    (success : (updateEffect operationId status identity preservation).exec
      session = (.ok changed, reached)) (nonzero : changed ≠ 0) :
    ∃ effect, session.world.db.effects.find? operationId = some effect ∧
      reached.world = session.world.withEffects
        (settledEffects session.world.db.effects operationId status identity preservation) := by
  obtain ⟨_, outcome, world⟩ := statement_ok success
  split at outcome <;> cases outcome
  · rename_i present
    obtain ⟨effect, found⟩ := Option.isSome_iff_exists.mp present
    exact ⟨effect, found, world⟩
  · exact absurd rfl nonzero

theorem setEffect_changes :
    Changes (store.setEffect runId operationId status identity preservation)
      (EffectSettled operationId status identity preservation) := by
  refine .transaction fun ran => ?_
  obtain ⟨_, _, update, rest⟩ := exec_bind_eq_ok ran
  obtain ⟨_, _, guarded, logging⟩ := exec_bind_eq_ok rest
  obtain ⟨nonzero, rfl⟩ := ensure_ok guarded
  obtain ⟨effect, found, settled⟩ := updateEffect_ok update nonzero
  obtain ⟨events, logged⟩ := (numberedEvent_changes _).answered logging
  refine ⟨effect, events, found, ?_⟩
  rw [logged, settled]
  rfl

def recordSessionRow (session : SessionAttachment) : Method Unit :=
  statement "record workflow session failed" fun db =>
    .ok ((), { db with sessions := db.sessions ++ [session.row] })

/-- Insert a verdict; one per run, candidate and kind. -/
def recordEvidence (evidence : StoredEvidence) : Method Unit :=
  statement "record workflow evidence failed" fun db =>
    match db.evidence.insert? evidence with
    | some rows => .ok ((), { db with evidence := rows })
    | none =>
      .error "UNIQUE constraint failed: evidence.run_id, evidence.candidate, evidence.kind"

/-- The unfinished verdicts of a candidate. -/
def isPartial (runId candidate : String) (evidence : StoredEvidence) : Bool :=
  evidence.runId == runId && evidence.candidate == candidate &&
    (evidence.kind == .test || evidence.kind == .review) && evidence.result == .incomplete

/-- Delete the unfinished verdicts of a candidate and count them. -/
def discardPartialEvidence (runId candidate : String) : Method Nat :=
  statement "discard partial workflow evidence failed" fun db =>
    .ok (db.evidence.rows.countP (isPartial runId candidate),
      { db with evidence := db.evidence.delete (isPartial runId candidate) })

/-- Insert a checkpoint, or replace the one of its run and candidate. -/
def recordCheckpointRow (checkpoint : StoredCheckpoint) : Method Unit :=
  statement "record workflow checkpoint failed" fun db =>
    .ok ((), { db with checkpoints := db.checkpoints.upsert checkpoint })

theorem recordEvidence_changes :
    Changes (recordEvidence evidence) (fun before after =>
      ∃ rows, before.db.evidence.insert? evidence = some rows ∧
        after = { before with db := { before.db with evidence := rows } }) := by
  refine .statement fun outcome => ?_
  split at outcome <;> cases outcome
  exact ⟨_, ‹_›, rfl⟩

theorem discardPartialEvidence_changes :
    Changes (discardPartialEvidence runId candidate) (fun before after =>
      after =
        { before with
          db :=
            { before.db with
              evidence := before.db.evidence.delete (isPartial runId candidate) } }) := by
  refine .statement fun outcome => ?_
  cases outcome
  rfl

theorem recordCheckpointRow_changes :
    Changes (recordCheckpointRow checkpoint) (fun before after => after =
      { before with
        db := { before.db with checkpoints := before.db.checkpoints.upsert checkpoint } }) := by
  refine .statement fun outcome => ?_
  cases outcome
  rfl

theorem numberedEvent_answers {event : Int → StoredEvent}
    (keyed : ∀ seq, (event seq).key = (runId, seq)) (world : World) :
    Answers (do
        let seq ← nextEventSeq runId
        insertEvent (event seq)) world
      (fun _ after => ∃ events, after = world.withEvents events) := by
  obtain ⟨events, inserted⟩ := numberedEvent_inserts event keyed world.db
  exact ⟨(), world.withEvents events,
    numberedEvent_ok_iff.mpr ⟨by simp, events, inserted, rfl⟩, events, rfl⟩

theorem appendEvent_answers :
    Answers (store.appendEvent runId actor kind evidenceRef) world
      (fun _ after => ∃ events, after = world.withEvents events) :=
  numberedEvent_answers (fun _ => rfl) world

theorem setCommandState_answers (found : world.db.commands.find? commandId = some command) :
    Answers (store.setCommandState commandId state receipt resolution) world
      (fun _ after => ∃ events, after = world.withCommands
          (changedCommands world.db.commands commandId state receipt resolution) events) := by
  obtain ⟨events, inserted⟩ := numberedEvent_inserts
    (fun seq => ⟨command.runId, seq, store.now, "host", changedCommandEvent state, some commandId⟩)
    (fun _ => rfl) world.db
  exact ⟨(), _, setCommandState_ok_iff.mpr
    ⟨by simp, command, events, found, inserted, rfl⟩, events, rfl⟩

theorem insertCommand_answers (fresh : world.db.commands.find? command.commandId = none) :
    Answers (store.insertCommand command) world (fun _ => CommandInserted command world) := by
  obtain ⟨commands, inserted⟩ := insert?_of_fresh fresh
  refine .transaction (.bind (.statement () { world.db with commands } ?_) ?_)
  · rw [inserted]
  · rintro _ _ ⟨_, rfl⟩
    refine (numberedEvent_answers (fun _ => rfl) _).weaken ?_
    rintro _ _ ⟨events, rfl⟩
    exact ⟨commands, events, inserted, rfl⟩

/-- A transition of the loaded version that plans nothing. -/
theorem applyTransition_answers (found : world.db.runs.find? transition.runId = some run)
    (current : run.version = transition.expectedVersion)
    (plain : transition.effect = none) :
    Answers (store.applyTransition transition) world (fun _ after => ∃ events, after =
        world.transitioned transition store.epoch events world.db.effects) := by
  let runs := movedRuns world.db.runs transition.runId transition store.epoch
  refine .transaction (.bind (.statement 1 { world.db with runs } ?_) ?_)
  · rw [found]
    exact if_pos current
  · rintro _ _ ⟨rfl, rfl⟩
    refine .bind (.query _) ?_
    rintro _ _ ⟨rfl, rfl⟩
    obtain ⟨events, inserted⟩ := numberedEvent_inserts
      (fun seq => ⟨transition.runId, seq, store.now,
        transition.eventActor, transition.eventKind, none⟩)
      (fun _ => rfl) { world.db with runs }
    refine .bind (.statement () { world.db with runs, events } ?_) ?_
    · rw [inserted]
    · rintro _ _ ⟨_, rfl⟩
      rw [plain]
      exact .pure ⟨events, rfl⟩

end Jackin.Workflow
