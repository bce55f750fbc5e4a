import Jackin.Workflow.Recovery

/-!
# The backend and its histories

`Operation` is the whole backend interface.  A call performs one operation
through a service with some epoch, in some environment, with some statement
fates.  A history is any finite sequence of service openings and calls on one
database; the calls may be made by different services and may fail.
-/

namespace Jackin.Workflow

open Foundation

variable {world : World}

/-- The operations of the backend interface. -/
inductive Operation where
  | startRun (planHash : String) (maxRepairTurns : Nat) (idempotencyKey : String)
  | runStatus (runId : Option String)
  | listRuns (limit : Nat)
  | runDetail (runId : String) (afterSeq : Int) (eventLimit : Nat)
  | pauseRun (runId actor reason : String) (checkpoint : Bool)
  | resumeRun (runId actor : String)
  | cancelRun (runId actor reason : String)
  | resolveInput (runId commandId : String) (decision : OperatorDecision)
      (actor observedSessionState : String)
  | recordSession (session : SessionAttachment) (expectedVersion : Int)
  | recordCandidate (runId candidateId : String) (expectedVersion : Int)
  | recordCheckpoint (checkpoint : StoredCheckpoint) (expectedVersion : Int)
  | recordTest (runId : String) (expectedVersion : Int) (params : RecordTestParams)
  | recordReview (runId : String) (expectedVersion : Int) (reviewFile policyHash : String)
  | recordBackup (runId : String) (expectedVersion : Int) (remote gitRef : String)
  | advanceRun (runId : String) (expectedVersion : Int)
      (actor observation : String) (expectedPolicyHash : Option String)
  | recordDispatchIntent (runId sessionRef prompt : String) (turn leaseGeneration : Nat)
  | recover (inventory : InstanceInventory)

/-- Forget the answer of a method. -/
def discard {Value : Type} (method : Method Value) : Method Unit := do
  let _ ← method
  return ()

/-- The method behind an operation, without its answer. -/
def Service.perform (service : Service) : Operation → Method Unit
  | .startRun planHash maxRepairTurns idempotencyKey =>
    discard (service.startRun planHash maxRepairTurns idempotencyKey)
  | .runStatus runId => discard (runSummary runId)
  | .listRuns limit => discard (listRuns limit)
  | .runDetail runId afterSeq eventLimit => discard (runDetail runId afterSeq eventLimit)
  | .pauseRun runId actor reason checkpoint =>
    discard (service.pauseRun runId actor reason checkpoint)
  | .resumeRun runId actor => discard (service.resumeRun runId actor)
  | .cancelRun runId actor reason => discard (service.cancelRun runId actor reason)
  | .resolveInput runId commandId decision actor observedSessionState =>
    discard (service.resolveInput runId commandId decision actor observedSessionState)
  | .recordSession session expectedVersion =>
    discard (service.recordSession session expectedVersion "operator")
  | .recordCandidate runId candidateId expectedVersion =>
    discard (service.recordCandidate runId candidateId expectedVersion "operator")
  | .recordCheckpoint checkpoint expectedVersion =>
    discard (service.recordCheckpoint checkpoint expectedVersion)
  | .recordTest runId expectedVersion params =>
    discard (service.recordTest runId expectedVersion params)
  | .recordReview runId expectedVersion reviewFile policyHash =>
    discard (service.recordReview runId expectedVersion reviewFile policyHash)
  | .recordBackup runId expectedVersion remote gitRef =>
    discard (service.recordBackup runId expectedVersion remote gitRef "operator")
  | .advanceRun runId expectedVersion actor observation expectedPolicyHash =>
    discard (service.advanceRun runId expectedVersion actor observation expectedPolicyHash)
  | .recordDispatchIntent runId sessionRef prompt turn leaseGeneration =>
    discard (service.recordDispatchIntent runId sessionRef prompt turn leaseGeneration)
  | .recover inventory => discard (service.recover inventory)

/-- One call of the backend. -/
structure Call where
  service : Service
  faults : List (Option Fault)
  operation : Operation

/-- Whether the call answered, and the world it leaves. -/
def Call.exec (call : Call)
    (world : World) : Except WorkflowError Unit × Session :=
  (call.service.perform call.operation).exec ⟨world, call.faults⟩

/-- Something that happens to the database. -/
inductive Event where
  | opened
  | called (call : Call)

/-- The world after one event; opening a service increments the epoch. -/
def World.after (world : World) : Event → World
  | .opened => { world with db := { world.db with ownerEpoch := world.db.ownerEpoch + 1 } }
  | .called call => (call.exec world).2.world

/-- The world after a history. -/
def World.play (world : World)
    (history : List Event) : World := history.foldl World.after world

@[simp]
theorem World.play_nil : world.play [] = world := rfl

@[simp]
theorem World.play_append :
    world.play (first ++ second) = (world.play first).play second :=
  List.foldl_append

@[simp]
theorem World.play_cons :
    world.play (event :: rest) = (world.after event).play rest :=
  rfl

end Jackin.Workflow
