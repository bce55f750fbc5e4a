import Jackin.Workflow.Rounds

/-!
# Dispatch of input

Input reaches a session as a command.  Beside the backend interface the
library has direct entry points: a dispatch, the staging of repair feedback,
the two receipts of a command, and the planning and adoption of effects.  An
`Action` is any of these calls or a backend operation.

Three of them create a command, and the replacement that an operator asks
for.  The three do not look at the status of the run or at its uncertain
commands.
-/

namespace Jackin.Workflow

open Foundation Service Table
open Program (Emits Ends exec_bind_ok exec_ensure_of final_bind)
open Program (ensure require lift)

variable {store : RunStore} {commandId : String}

/-! ## Direct entry points -/

/-- What tells one session from another. -/
structure SessionIdentity where
  instanceId : String
  sessionId : Nat
  capsuleEpoch : Option Nat
  processIdentity : Option String
  deriving DecidableEq

/-- What is known of a session before a delivery. -/
structure DeliveryGate where
  recorded : SessionIdentity
  observed : SessionIdentity
  ownerEpochCurrent : Bool
  operatorOwned : Bool
  turnEnded : Bool

def admitRepairDelivery (gate : DeliveryGate) : Method Unit := do
  ensure (gate.recorded = gate.observed) (.blocked ("implementer session identity changed; " ++
      "refusing repair delivery to an uncertain session"))
  ensure (gate.ownerEpochCurrent) (.blocked
    "owner epoch moved; repair prompt from this epoch is stale")
  ensure (gate.operatorOwned = false) (.blocked
    "operator owns session input; automatic repair input is refused")
  ensure (gate.turnEnded) (.blocked "implementer turn has not ended; repair delivery waits")

def maxFeedbackBytes : Nat := 4 * 1024

variable (service : Service)

def Service.beginDispatch (runId sessionRef prompt : String)
    (turn leaseGeneration : Nat) :
    Method (String × String) := do
  let commandId := "cmd-" ++ service.env.freshId
  let digest ← service.writeArtifact commandId (textBytes prompt)
  service.store.insertDispatchingCommand runId commandId sessionRef digest turn leaseGeneration
  return (commandId, digest)

def Service.stageRepairFeedback (runId sessionRef feedback : String)
    (turn leaseGeneration : Nat)
    (gate : DeliveryGate) : Method RecordedDispatch := do
  admitRepairDelivery gate
  ensure (¬(Text.isBlank feedback ∨ maxFeedbackBytes + 16 < feedback.utf8ByteSize))
    (.invalid "repair feedback must be the bounded document from build_feedback")
  let (commandId, digest) ← service.beginDispatch runId sessionRef feedback turn leaseGeneration
  service.store.appendEvent runId "host" "repair_feedback_staged" (some commandId)
  return ⟨commandId, digest⟩

def Service.commandWritten (commandId : String)
    (bytes : Nat) : Method Unit := do
  let loaded ← loadCommand commandId
  let command ← require loaded (.notFound ("command " ++ commandId ++ " not found"))
  ensure (command.state = .dispatching)
    (.invalid ("command " ++ commandId ++ " is not dispatching"))
  service.store.setCommandState commandId .written (some (toString bytes)) none

def Service.commandTurnEnded (commandId evidenceQuality : String) : Method Unit := do
  let loaded ← loadCommand commandId
  let command ← require loaded (.notFound ("command " ++ commandId ++ " not found"))
  ensure (command.state = .written)
    (.invalid ("command " ++ commandId ++ " has no confirmed write"))
  service.store.setCommandState commandId .turnEnded command.receipt (some evidenceQuality)

def planEffect (runId : String) (kind : EffectKind)
    (ownershipLabel : String) : Method StoredEffect := do
  let _ ← requireRun runId
  ensureEffect runId kind ownershipLabel

def Service.adoptEffect (runId operationId externalIdentity : String) : Method Unit :=
  service.store.setEffect runId operationId .adopted (some externalIdentity) none

/-- A backend operation or a direct call of the library. -/
inductive Action where
  | backend (operation : Operation)
  | beginDispatch (runId sessionRef prompt : String) (turn leaseGeneration : Nat)
  | stageRepairFeedback (runId sessionRef feedback : String)
      (turn leaseGeneration : Nat) (gate : DeliveryGate)
  | commandWritten (commandId : String) (bytes : Nat)
  | commandTurnEnded (commandId evidenceQuality : String)
  | planEffect (runId : String) (kind : EffectKind) (ownershipLabel : String)
  | adoptEffect (runId operationId externalIdentity : String)

def Service.act : Action → Method Unit
  | .backend operation => service.perform operation
  | .beginDispatch runId sessionRef prompt turn leaseGeneration =>
    discard (service.beginDispatch runId sessionRef prompt turn leaseGeneration)
  | .stageRepairFeedback runId sessionRef feedback turn leaseGeneration gate =>
    discard (service.stageRepairFeedback runId sessionRef feedback turn leaseGeneration gate)
  | .commandWritten commandId bytes => service.commandWritten commandId bytes
  | .commandTurnEnded commandId evidenceQuality =>
    service.commandTurnEnded commandId evidenceQuality
  | .planEffect runId kind ownershipLabel => discard (planEffect runId kind ownershipLabel)
  | .adoptEffect runId operationId externalIdentity =>
    service.adoptEffect runId operationId externalIdentity

/-- One call of an action. -/
structure Invocation where
  service : Service
  faults : List (Option Fault)
  action : Action

/-- The world an invocation leaves. -/
def World.invoke (world : World) (invocation : Invocation) : World :=
  ((invocation.service.act invocation.action).exec ⟨world, invocation.faults⟩).2.world

/-- An opening of a service or an invocation. -/
inductive Incident where
  | opened
  | invoked (invocation : Invocation)

/-- The world after one incident. -/
def World.meet (world : World) : Incident → World
  | .opened => world.after .opened
  | .invoked invocation => world.invoke invocation

/-- The world after a sequence of incidents. -/
def World.live (world : World) (incidents : List Incident) : World :=
  incidents.foldl World.meet world

/-- The row and the event of a command are written and committed. -/
def CommitsCommand (faults : List (Option Fault)) : Prop :=
  Unfaulted 4 faults ∧ ¬Fault.Refuses (remaining 4 faults).head?.join

private theorem insertBody_iff :
    Program.exec (do
          insertCommandRow command
          let seq ← nextEventSeq command.runId
          insertEvent ⟨command.runId, seq, store.now, "host",
            insertedCommandEvent command.state, some command.commandId⟩)
        entered = (.ok (), left) ↔
      entered.faults.head?.join = none ∧ ∃ commands,
          entered.world.db.commands.insert? command = some commands ∧
          Unfaulted 2 entered.faults.tail ∧
          ∃ events, entered.world.db.events.insert?
                ⟨command.runId, entered.world.db.nextEventSeq command.runId,
                  store.now, "host", insertedCommandEvent command.state,
                  some command.commandId⟩ = some events ∧
              left = ⟨entered.world.withCommands commands events, remaining 3 entered.faults⟩ := by
  rw [Program.exec_bind_ok_iff]
  constructor
  · rintro ⟨_, stored, inserting, logging⟩
    obtain ⟨first, db, outcome, rfl⟩ := statement_ok_iff.mp inserting
    obtain ⟨calm, events, recorded, rfl⟩ := numberedEvent_ok_iff.mp logging
    split at outcome <;> cases outcome
    rename_i commands inserted
    exact ⟨first, commands, inserted, calm, events, recorded, rfl⟩
  · rintro ⟨first, commands, inserted, calm, events, recorded, rfl⟩
    refine ⟨(), entered.afterStatement
      { entered.world.db with commands },
      statement_ok_iff.mpr ⟨first, _, ?_, rfl⟩,
      numberedEvent_ok_iff.mpr ⟨calm, events, recorded, rfl⟩⟩
    rw [inserted]

variable {world before after : World} {gate : DeliveryGate}

/-- A command with a free id is stored when its insert is committed. -/
theorem insertCommand_commits (store : RunStore) (command : StoredCommand)
    (session : Session) (commits : CommitsCommand session.faults)
    (fresh : session.world.db.commands.find? command.commandId = none) :
    ∃ commands events, session.world.db.commands.insert? command = some commands ∧
        ((store.insertCommand command).exec session).2.world =
          session.world.withCommands commands events := by
  obtain ⟨⟨began, first, calm⟩, kept⟩ := commits
  obtain ⟨commands, inserted⟩ := insert?_of_fresh fresh
  have numbered : ∀ seq, StoredEvent.key ⟨command.runId, seq, store.now,
      "host", insertedCommandEvent command.state,
      some command.commandId⟩ = (command.runId, seq) := fun _ => rfl
  obtain ⟨events, recorded⟩ := numberedEvent_inserts _ numbered session.world.db
  obtain ⟨final, _⟩ := transaction_commits began
    (insertBody_iff.mpr ⟨first, commands, inserted, calm, events, recorded, rfl⟩) kept
  exact ⟨commands, events, inserted, congrArg Session.world final⟩

/-- Otherwise the insert fails and changes nothing. -/
theorem insertCommand_fails (store : RunStore) (command : StoredCommand)
    (session : Session)
    (prevented : ¬(CommitsCommand session.faults ∧
      session.world.db.commands.find? command.commandId = none)) :
    ((store.insertCommand command).exec session).2.world = session.world ∧
      ((store.insertCommand command).exec session).1 ≠ .ok () := by
  refine transaction_fails ?_
  intro began left ran
  obtain ⟨first, _, inserted, calm, _, _, rfl⟩ := insertBody_iff.mp ran
  by_contra kept
  exact prevented ⟨⟨⟨began, first, calm⟩, kept⟩, fresh_of_insert? inserted⟩

/-- One command appears, for this run and not yet delivered. -/
structure CommandCreated (before after : World)
    (commandId runId : String) : Prop where
  fresh : before.db.commands.find? commandId = none
  stored : ∃ command, after.db.commands.find? commandId = some command ∧ command.runId = runId ∧
    (command.state = .queued ∨ command.state = .dispatching)
  only : ∀ other, other ≠ commandId →
    before.db.commands.find? other = none → after.db.commands.find? other = none

theorem CommandCreated.insert (inserted : world.db.commands.insert? command = some commands)
    (pending : command.state = .queued ∨ command.state = .dispatching) :
    CommandCreated world (world.withCommands commands events) command.commandId command.runId where
  fresh := fresh_of_insert? inserted
  stored := ⟨command, find?_self_of_insert? inserted, rfl, pending⟩
  only other different missing := by
    change commands.find? other = none
    rwa [find?_of_insert? inserted, if_neg different.symm]

/-- What follows adds no command and keeps the new one pending. -/
theorem CommandCreated.dispatching (created : CommandCreated before session.world commandId runId) :
    CommandCreated before ((store.setCommandState commandId .dispatching none resolution).exec
        session).2.world commandId runId := by
  refine setCommandState_changes.leaves (CommandCreated before · commandId runId) created ?_
  rintro _ ⟨_, events, _, rfl⟩
  obtain ⟨_, found, owner, _⟩ := created.stored
  refine ⟨created.fresh, ?_, ?_⟩
  · exact ⟨_, find?_update_self (StoredCommand.inState_commandId _ _ _) found, owner, .inr rfl⟩
  · intro other different missing
    exact NoneQueued.update other (created.only other different missing)

/-- The command of the service's next dispatch has appeared. -/
abbrev Service.Creates (service : Service) (runId : String)
    (before : World) (reached : Session) : Prop :=
  CommandCreated before reached.world ("cmd-" ++ service.env.freshId) runId

/-- Nothing but the prompt of the command is in the way of a dispatch. -/
structure Records (service : Service) (prompt : String)
    (faults : List (Option Fault)) (world : World) : Prop where
  written : service.env.writeArtifact ("cmd-" ++ service.env.freshId) (textBytes prompt) = .ok ()
  fresh : world.db.commands.find? ("cmd-" ++ service.env.freshId) = none
  commits : CommitsCommand faults

theorem exec_writeArtifact {service : Service}
    (written : service.env.writeArtifact name bytes = .ok ())
    (session : Session) :
    (service.writeArtifact name bytes).exec session =
      (.ok (service.env.sha256Hex bytes), session) := by
  rw [writeArtifact, written]
  rfl

section

variable {Result : Type} (runId sessionRef prompt : String)
    (turn leaseGeneration : Nat)
    (session : Session)

/-- The shared part of all dispatches: the prompt and its command. -/
def Service.recordCommand (state : CommandState)
    (next : String → Method Result) : Method Result := do
  let digest ← service.writeArtifact ("cmd-" ++ service.env.freshId) (textBytes prompt)
  service.store.insertCommand ⟨"cmd-" ++ service.env.freshId, runId,
    sessionRef, digest, turn, leaseGeneration, state, none, none⟩
  next digest

variable {service runId sessionRef prompt turn leaseGeneration session}
    {next : String → Method Result}

/-- A dispatch that can record its command creates it. -/
theorem recordCommand_creates (session : Session)
    (pending : state = .queued ∨ state = .dispatching)
    (records : Records service prompt session.faults session.world)
    (rest : ∀ digest reached,
      service.Creates runId session.world reached →
        service.Creates runId session.world ((next digest).exec reached).2) :
    service.Creates runId session.world
      ((service.recordCommand runId sessionRef prompt turn leaseGeneration
        state next).exec session).2 := by
  rw [recordCommand, exec_bind_ok (exec_writeArtifact records.written session)]
  refine final_bind (service.Creates runId session.world) ?_ (fun _ => rest _)
  obtain ⟨_, _, inserted, world⟩ :=
    insertCommand_commits service.store ⟨"cmd-" ++ service.env.freshId, runId, sessionRef,
        service.env.sha256Hex (textBytes prompt), turn, leaseGeneration,
        state, none, none⟩ session records.commits records.fresh
  rw [Creates, world]
  exact .insert inserted pending

/-- A dispatch that cannot record its command changes nothing. -/
theorem recordCommand_fails
    (prevented : ¬Records service prompt session.faults session.world) :
    ((service.recordCommand runId sessionRef prompt turn leaseGeneration
      state next).exec session).2.world = session.world := by
  unfold recordCommand
  cases written : service.env.writeArtifact ("cmd-" ++ service.env.freshId) (textBytes prompt) with
  | error failure =>
    rw [writeArtifact, written]
    rfl
  | ok value =>
    rw [exec_bind_ok (exec_writeArtifact written session)]
    obtain ⟨unchanged, unanswered⟩ := insertCommand_fails service.store
      ⟨"cmd-" ++ service.env.freshId, runId, sessionRef,
        service.env.sha256Hex (textBytes prompt), turn,
        leaseGeneration, state, none, none⟩ session
      (fun both => prevented ⟨written, both.2, both.1⟩)
    rwa [Program.final_bind_of_fails fun _ => unanswered]

end

/-! ## Which calls create a command -/

/-- The gate of a repair delivery is open. -/
def DeliveryGate.Admits (gate : DeliveryGate) : Prop :=
  gate.recorded = gate.observed ∧ gate.ownerEpochCurrent ∧
    gate.operatorOwned = false ∧ gate.turnEnded

/-- The feedback is a bounded document. -/
def BoundedFeedback (feedback : String) : Prop :=
  ¬(Text.isBlank feedback ∨ maxFeedbackBytes + 16 < feedback.utf8ByteSize)

/-- The invocation dispatches input to the run. -/
def Invocation.Dispatches (invocation : Invocation) (world : World)
    (runId : String) : Prop :=
  match invocation.action with
  | .backend (.recordDispatchIntent target sessionRef prompt _ _) =>
    target = runId ∧ (world.db.runs.find? target).isSome ∧
      ¬Text.isBlank sessionRef ∧ ¬prompt.isEmpty ∧ invocation.faults.head?.join = none ∧
      Records invocation.service prompt invocation.faults.tail world
  | .beginDispatch target _ prompt _ _ =>
    target = runId ∧ Records invocation.service prompt invocation.faults world
  | .stageRepairFeedback target _ feedback _ _ gate =>
    target = runId ∧ gate.Admits ∧ BoundedFeedback feedback ∧
      Records invocation.service feedback invocation.faults world
  | _ => False

section

variable {service : Service} (turn leaseGeneration : Nat) (session : Session)

theorem recordDispatchIntent_creates (stored : (session.world.db.runs.find? runId).isSome)
    (referenced : ¬Text.isBlank sessionRef) (prompted : ¬prompt.isEmpty)
    (read : session.faults.head?.join = none)
    (records : Records service prompt session.faults.tail session.world) :
    service.Creates runId session.world ((service.recordDispatchIntent runId sessionRef prompt turn
        leaseGeneration).exec session).2 := by
  obtain ⟨_, found⟩ := Option.isSome_iff_exists.mp stored
  unfold recordDispatchIntent
  rw [exec_bind_ok (requireRun_ok_iff.mpr ⟨read, found, rfl⟩),
    exec_bind_ok (exec_ensure_of referenced _), exec_bind_ok (exec_ensure_of prompted _)]
  refine recordCommand_creates (session.afterStatement session.world.db) (.inl rfl) records ?_
  intro digest inserted created
  refine final_bind (service.Creates runId session.world) created.dispatching ?_
  intro _ reached kept
  refine final_bind (service.Creates runId session.world) ?_ (fun _ _ => id)
  rwa [Creates, summaryOf_reads.unchanged]

theorem recordDispatchIntent_skips
    (prevented : ¬((session.world.db.runs.find? runId).isSome ∧
      ¬Text.isBlank sessionRef = true ∧ ¬prompt.isEmpty ∧ session.faults.head?.join = none ∧
      Records service prompt session.faults.tail session.world)) :
    ((service.recordDispatchIntent runId sessionRef prompt turn
      leaseGeneration).exec session).2.world = session.world := by
  have ends : (service.recordDispatchIntent runId sessionRef prompt turn
      leaseGeneration).Leaves session fun reached => reached.world = session.world := by
    refine .bind
      (fun run reached => session.faults.head?.join = none ∧
        session.world.db.runs.find? runId = some run ∧
        reached = session.afterStatement session.world.db)
      (.of_exec (fun _ _ => requireRun_ok_iff.mp) requireRun_reads.unchanged) ?_
    rintro run loaded ⟨read, found, rfl⟩
    refine .ensure rfl fun referenced => ?_
    refine .ensure rfl fun prompted => ?_
    refine .of_final ?_
    refine recordCommand_fails ?_
    intro records
    refine prevented ⟨?_, referenced, prompted, read, records⟩
    rw [found]
    rfl
  exact ends.final

theorem beginDispatch_creates (records : Records service prompt session.faults session.world) :
    service.Creates runId session.world
      ((service.beginDispatch runId sessionRef prompt turn leaseGeneration).exec session).2 :=
  recordCommand_creates session (.inr rfl) records fun _ _ => id

theorem beginDispatch_skips
    (prevented : ¬Records service prompt session.faults session.world) :
    ((service.beginDispatch runId sessionRef prompt turn
      leaseGeneration).exec session).2.world = session.world :=
  recordCommand_fails prevented

theorem admitRepairDelivery_ends {session} :
    (admitRepairDelivery gate).Ends session (fun _ reached => gate.Admits ∧ reached = session)
      (fun reached => reached = session) := by
  refine .ensure rfl fun same => ?_
  refine .ensure rfl fun current => ?_
  refine .ensure rfl fun unowned => ?_
  unfold ensure
  split
  · rename_i ended
    exact .pure ⟨⟨same, current, unowned, ended⟩, rfl⟩
  · exact rfl

theorem exec_admitRepairDelivery (admits : gate.Admits) {session} :
    (admitRepairDelivery gate).exec session = (.ok (), session) := by
  obtain ⟨same, current, unowned, ended⟩ := admits
  unfold admitRepairDelivery
  rw [exec_bind_ok (exec_ensure_of same session), exec_bind_ok (exec_ensure_of current session),
    exec_bind_ok (exec_ensure_of unowned session)]
  exact exec_ensure_of ended session

theorem stageRepairFeedback_creates (admits : gate.Admits)
    (bounded : BoundedFeedback prompt)
    (records : Records service prompt session.faults session.world) :
    service.Creates runId session.world ((service.stageRepairFeedback runId sessionRef prompt turn
        leaseGeneration gate).exec session).2 := by
  unfold stageRepairFeedback
  unfold BoundedFeedback at bounded
  rw [exec_bind_ok (exec_admitRepairDelivery admits), exec_bind_ok (exec_ensure_of bounded session)]
  refine final_bind (service.Creates runId session.world)
    (beginDispatch_creates turn leaseGeneration session records) ?_
  rintro ⟨commandId, digest⟩ dispatched created
  refine final_bind (service.Creates runId session.world) ?_ (fun _ _ => id)
  obtain ⟨_, world⟩ := appendEvent_world
  rw [Creates, world]
  exact ⟨created.fresh, created.stored, created.only⟩

theorem stageRepairFeedback_skips
    (prevented : ¬(gate.Admits ∧ BoundedFeedback prompt ∧
      Records service prompt session.faults session.world)) :
    NoneQueued session.world.db.commands ((service.stageRepairFeedback runId sessionRef prompt turn
        leaseGeneration gate).exec session).2.world.db.commands := by
  have ends : (service.stageRepairFeedback runId sessionRef prompt turn
      leaseGeneration gate).Leaves session fun reached =>
        reached.world.db.commands = session.world.db.commands := by
    refine .bind (fun _ reached => gate.Admits ∧ reached = session)
      (admitRepairDelivery_ends.imply (fun _ _ => id) (fun _ same => by rw [same])) ?_
    rintro _ admitted ⟨admits, rfl⟩
    refine .ensure rfl fun bounded => ?_
    have skipped : ((service.beginDispatch runId sessionRef prompt turn
        leaseGeneration).exec admitted).2.world = admitted.world :=
      beginDispatch_skips turn leaseGeneration admitted
        (fun records => prevented ⟨admits, bounded, records⟩)
    refine .bind (fun _ reached => reached.world = admitted.world)
      (.of_exec ?_ (by rw [skipped])) ?_
    · intro _ reached success
      rwa [success] at skipped
    · rintro ⟨commandId, digest⟩ dispatched same
      obtain ⟨_, world⟩ := appendEvent_world
      refine .bind (fun _ reached => reached.world.db.commands = admitted.world.db.commands)
        (.of_final ?_) (fun _ _ => id)
      rw [world, ← same]
      rfl
  intro commandId missing
  rwa [ends.final]

end

theorem noneQueued_refl : NoneQueued commands commands := fun _ => id

/-- A path of changes that queues nothing adds no command. -/
theorem noneQueued_of_path {starts : Prop}
    (path : Relation.ReflTransGen (Progress False starts) before after) :
    NoneQueued before.db.commands after.db.commands := by
  induction path with
  | refl => exact noneQueued_refl
  | tail _ progress ih =>
    intro commandId missing
    have still := ih commandId missing
    cases progress with
    | settled _ commands => exact commands commandId still
    | queued impossible => exact impossible.elim
    | created _ _ _ _ _ _ _ commands | moved _ _ _ _ _ commands =>
      rwa [commands]

theorem perform_noneQueued (service : Service)
    (other : operation.queues = False) (session : Session) :
    NoneQueued session.world.db.commands
      ((service.perform operation).exec session).2.world.db.commands := by
  rcases perform_advances service operation session with path | ⟨run, _, decided⟩
  · rw [other] at path
    exact noneQueued_of_path path
  · obtain ⟨_, _, _, _, _, commands, _⟩ := decided.moved
    rw [commands]
    exact noneQueued_refl

theorem setCommandState_progresses :
    (store.setCommandState commandId state receipt resolution).Emits
      Session.world (Progress False False) session := by
  refine setCommandState_changes.emits ?_
  rintro _ ⟨_, events, _, rfl⟩
  exact .settled rfl .update .refl

theorem commandWritten_progresses (service : Service) (commandId : String)
    (bytes : Nat) (session : Session) :
    (service.commandWritten commandId bytes).Emits Session.world
      (Progress False False) session := by
  refine Reads.query.emits_bind fun loaded _ _ => ?_
  refine .require fun command _ => ?_
  refine .ensure fun _ => ?_
  exact setCommandState_progresses

theorem commandTurnEnded_progresses (service : Service)
    (commandId evidenceQuality : String) (session : Session) :
    (service.commandTurnEnded commandId evidenceQuality).Emits
      Session.world (Progress False False) session := by
  refine Reads.query.emits_bind fun loaded _ _ => ?_
  refine .require fun command _ => ?_
  refine .ensure fun _ => ?_
  exact setCommandState_progresses

theorem planEffect_progresses (runId : String) (kind : EffectKind)
    (ownershipLabel : String) (session : Session) :
    (planEffect runId kind ownershipLabel).Emits Session.world (Progress False False) session := by
  refine requireRun_reads.emits_bind fun run faults found => ?_
  have emitted : Obeys .none
      (ensureEffect runId kind ownershipLabel) ⟨session.world, faults⟩ :=
    ensureEffect_emits (by rw [found]; rfl)
  exact .mono (fun _ _ step => step.progress) _ _ emitted

theorem adoptEffect_progresses (service : Service)
    (runId operationId externalIdentity : String) (session : Session) :
    (service.adoptEffect runId operationId externalIdentity).Emits
      Session.world (Progress False False) session := by
  refine setEffect_changes.emits ?_
  rintro _ ⟨effect, events, _, rfl⟩
  exact .settled rfl (fun _ => id) .update

/-! ## Input for runs that must not receive it -/

/-- An uncertain command that no operator has decided on. -/
def StoredCommand.isUnresolved (command : StoredCommand) : Bool :=
  command.state == .deliveryUnknown &&
    command.resolution == some "recovered: dispatch interrupted before receipt"

/--
The run is finished, paused or with the operator, or it has an uncertain
command that is not resolved.
-/
def Blocked (world : World) (runId : String) : Prop :=
  (∃ run, world.db.runs.find? runId = some run ∧
      (run.status.isTerminal ∨ run.status = .paused ∨ run.status = .needsOperator)) ∨
    ∃ commandId command, world.db.commands.find? commandId = some command ∧
        command.runId = runId ∧ command.isUnresolved

/-- The added command takes the place of an uncertain one of the run. -/
def Supersedes (world : World) (runId commandId newId : String)
    (added : StoredCommand) : Prop :=
  ∃ uncertain, world.db.commands.find? commandId = some uncertain ∧
    uncertain.runId = runId ∧ uncertain.state = .deliveryUnknown ∧
    added = ⟨newId, runId, uncertain.sessionRef, uncertain.promptDigest,
      uncertain.turn, uncertain.leaseGeneration, .queued, none, none⟩

/-- The operator resolves an uncertain command by this new one. -/
def Invocation.Replaces (invocation : Invocation) (world : World)
    (command : StoredCommand) :
    Prop :=
  ∃ uncertainId actor observedSessionState,
    invocation.action = .backend (.resolveInput command.runId uncertainId .submitNew
      actor observedSessionState) ∧
    Supersedes world command.runId uncertainId ("cmd-" ++ invocation.service.env.freshId) command

/--
No command that is yet to be delivered appears for a blocked run, apart from
the replacement of an uncertain command.
-/
def Invocation.RespectsBlocks (invocation : Invocation)
    (world : World) : Prop :=
  ∀ commandId command, world.db.commands.find? commandId = none →
    (world.invoke invocation).db.commands.find? commandId = some command →
      command.state = .queued ∨ command.state = .dispatching →
        invocation.Replaces world command ∨ ¬Blocked world command.runId

theorem CommandCreated.respects_iff
    (created : CommandCreated world (world.invoke invocation) commandId runId)
    (ordinary : ∀ command, ¬invocation.Replaces world command) :
    invocation.RespectsBlocks world ↔ ¬Blocked world runId := by
  constructor
  · intro respects
    obtain ⟨command, found, owner, pending⟩ := created.stored
    rw [← owner]
    exact (respects commandId command created.fresh found pending).resolve_left (ordinary command)
  · intro unblocked other command missing found _
    by_cases same : other = commandId
    · obtain ⟨stored, storedFound, owner, _⟩ := created.stored
      rw [same, storedFound] at found
      cases found
      rw [owner]
      exact .inr unblocked
    · rw [created.only other same missing] at found
      cases found

/-- A call that adds no command respects every block. -/
theorem respects_iff_of_none
    (none : NoneQueued world.db.commands (world.invoke invocation).db.commands)
    (other : ∀ runId, ¬invocation.Dispatches world runId) :
    invocation.RespectsBlocks world ↔
      ¬∃ runId, Blocked world runId ∧ invocation.Dispatches world runId := by
  refine iff_of_true ?_ fun ⟨runId, _, dispatches⟩ => other runId dispatches
  intro commandId command missing found
  rw [none commandId missing] at found
  cases found

/-- A call that dispatches to one run respects its block only. -/
theorem respects_iff_of_dispatch {possible : Prop}
    (dispatches : ∀ runId, invocation.Dispatches world runId ↔
      target = runId ∧ possible)
    (creates : possible → CommandCreated world (world.invoke invocation)
      ("cmd-" ++ invocation.service.env.freshId) target)
    (skips : ¬possible → NoneQueued world.db.commands (world.invoke invocation).db.commands)
    (ordinary : ∀ command, ¬invocation.Replaces world command) :
    invocation.RespectsBlocks world ↔
      ¬∃ runId, Blocked world runId ∧ invocation.Dispatches world runId := by
  by_cases holds : possible
  · rw [(creates holds).respects_iff ordinary]
    refine not_congr ⟨fun blocked => ⟨target, blocked, (dispatches target).mpr ⟨rfl, holds⟩⟩, ?_⟩
    rintro ⟨runId, blocked, dispatched⟩
    rwa [((dispatches runId).mp dispatched).1]
  · refine respects_iff_of_none (skips holds) ?_
    exact fun runId dispatched => holds ((dispatches runId).mp dispatched).2

theorem reactivate_commands {service : Service} :
    ((service.reactivate runId actor eventKind).exec session).2.world.db.commands =
      session.world.db.commands := by
  refine final_bind (fun reached : Session => reached.world.db.commands = session.world.db.commands)
    (by rw [requireRun_reads.unchanged]) ?_
  intro stored reached same
  split
  · refine applyTransition_changes.leaves (·.db.commands = session.world.db.commands) same ?_
    rintro _ ⟨_, _, _, _, _, _, rfl⟩
    exact same
  · exact same

/-- Every command that has appeared takes the place of the uncertain one. -/
def AddsReplacement (before : World) (runId commandId newId : String)
    (after : World) : Prop :=
  ∀ addedId added, before.db.commands.find? addedId = none →
    after.db.commands.find? addedId = some added → Supersedes before runId commandId newId added

theorem resolveInput_adds_replacement (service : Service)
    (runId commandId actor observedSessionState : String) (session : Session) :
    AddsReplacement session.world runId commandId ("cmd-" ++ service.env.freshId)
      ((service.resolveInput runId commandId .submitNew actor
        observedSessionState).exec session).2.world := by
  generalize fresh : "cmd-" ++ service.env.freshId = newId
  have unchanged : AddsReplacement session.world runId commandId newId session.world := by
    intro addedId added missing found
    rw [missing] at found
    cases found
  have ends : (service.resolveInput runId commandId .submitNew actor
      observedSessionState).Leaves session fun reached =>
        AddsReplacement session.world runId commandId newId reached.world := by
    refine Reads.ensure.ends_bind (fun _ => unchanged) fun _ _ _ => ?_
    refine requireUncertain_reads.ends_bind (fun _ => unchanged) fun uncertain _ located => ?_
    obtain ⟨found, owned, state⟩ := located
    apply Program.Ends.of_final
    refine final_bind (fun reached : Session => AddsReplacement _ _ _ _ reached.world) ?_ ?_
    · refine insertCommand_changes.leaves (AddsReplacement _ _ _ _) unchanged ?_
      rintro _ ⟨commands, _, inserted, rfl⟩ addedId added missing appeared
      change commands.find? addedId = some added at appeared
      rw [find?_of_insert? inserted] at appeared
      split at appeared
      · cases appeared
        rw [← fresh]
        exact ⟨uncertain, found, owned, state, rfl⟩
      · exact unchanged addedId added missing appeared
    intro _ queued replaced
    refine final_bind (fun reached : Session => AddsReplacement _ _ _ _ reached.world) ?_ ?_
    · refine setCommandState_changes.leaves (AddsReplacement _ _ _ _) replaced ?_
      rintro _ ⟨_, _, _, rfl⟩ addedId added missing appeared
      refine replaced addedId added missing ?_
      change Table.find? (changedCommands _ _ _ _ _) _ = _ at appeared
      rwa [changedCommands, find?_update, if_neg] at appeared
      rintro rfl
      rw [found] at missing
      cases missing
    intro _ superseded replaced
    refine final_bind (fun reached : Session => AddsReplacement _ _ _ _ reached.world) ?_ ?_
    · intro addedId added missing appeared
      rw [reactivate_commands] at appeared
      exact replaced addedId added missing appeared
    intro _ reactivated replaced
    rwa [summaryOf_reads.unchanged]
  exact ends.final

theorem invoke_discard {Value : Type} {service} {method : Method Value}
    (acts : service.act action = discard method) :
    world.invoke ⟨service, faults, action⟩ =
      (method.exec ⟨world, faults⟩).2.world := by
  rw [World.invoke, acts, discard_world]

theorem backend_respects_iff {service}
    (other : operation.queues = False) :
    let invocation : Invocation := ⟨service, faults, .backend operation⟩
    invocation.RespectsBlocks world ↔
      ¬∃ runId, Blocked world runId ∧ invocation.Dispatches world runId := by
  refine respects_iff_of_none (perform_noneQueued service other ⟨world, faults⟩) ?_
  intro runId dispatched
  cases operation <;> first | exact dispatched | exact other.mp trivial

/-- A run is started and paused by the operator. -/
def pausedIncidents : List Incident :=
  .opened :: [Operation.startRun "plan" 3 "key",
      .pauseRun "run-1" "operator" "lunch" false].map fun operation =>
        .invoked ⟨⟨1, firstEnvironment⟩, [], .backend operation⟩

/-- Input for that run. -/
def pausedDispatch : Invocation :=
  ⟨⟨1, firstEnvironment⟩, [], .backend (.recordDispatchIntent "run-1" "session" "prompt" 1 1)⟩

end Jackin.Workflow
