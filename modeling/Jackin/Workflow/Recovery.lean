import Jackin.Workflow.Service

/-!
# Recovery of the unfinished run

After a restart the service compares the unfinished run with an inventory of
what is alive: interrupted dispatches become uncertain, planned launches are
adopted, stalled captures and lost sessions are handed to the operator, and
unfinished verdicts are discarded.
-/

namespace Jackin.Workflow

open Foundation

/-- An instance that was found running. -/
structure LiveInstance where
  instanceId : String
  ownershipLabel : String
  capturePaused : Bool
  sessionAlive : Bool
  capsuleEpoch : Option Nat
  processIdentity : Option String
  deriving DecidableEq

structure InstanceInventory where
  instances : List LiveInstance
  backupRefs : List String
  deriving DecidableEq

/-- What a recovery did. -/
structure RecoveryReport where
  runId : Option String
  actions : List String

variable (service : Service)

variable (runId : String) (inventory : InstanceInventory)
    (effect : StoredEffect)

/-- Hand an active run to the operator; otherwise only leave the event. -/
def Service.escalateToOperator (eventKind : String) : Method Unit := do
  let stored ← requireRun runId
  if stored.status = .active then
    service.apply stored
      { status := .needsOperator, stage := stored.stage, round := stored.round
        pauseKind := stored.pauseKind, actor := "host", eventKind, effect := none }
  else service.store.appendEvent runId "host" eventKind none

/-- An interrupted dispatch is uncertain. -/
def Service.recoverDispatch (command : StoredCommand) : Method (List String) := do
  service.store.setCommandState command.commandId .deliveryUnknown none
    (some "recovered: dispatch interrupted before receipt")
  return ["command " ++ command.commandId ++ " is delivery_unknown; automatic input blocked"]

def Service.recoverCommands : Method (List String) := do
  let dispatching ← commandsInState runId .dispatching
  let actions ← Program.forEach service.recoverDispatch dispatching
  let uncertain ← commandsInState runId .deliveryUnknown
  if uncertain.isEmpty then return actions
  else
    service.escalateToOperator runId "uncertain_delivery"
    return actions ++ ["run needs_operator: uncertain input delivery"]

def captureStagingPaused (inventory : InstanceInventory) : Bool :=
  inventory.instances.any fun live =>
    live.capturePaused && effect.ownershipLabel == some live.ownershipLabel

def isPending : Bool :=
  effect.status == .intended || effect.status == .dispatched

def Service.recoverLaunch (inventory : InstanceInventory) :
    Method (List String) := do
  match inventory.instances.find? (fun live =>
      live.ownershipLabel == effect.ownershipLabel.getD "") with
  | some live =>
    service.store.setEffect runId effect.operationId .adopted (some live.instanceId) none
    return ["adopted " ++ live.instanceId ++ " for operation " ++ effect.operationId]
  | none =>
    return ["no live instance for operation " ++ effect.operationId ++
      "; confirm backend absence before relaunch"]

/-- A backup is confirmed when its remote ref is in the inventory. -/
def backupKnown (inventory : InstanceInventory) : Bool :=
  match effect.externalIdentity with
  | some identity => inventory.backupRefs.any (fun known => known == identity)
  | none => false

def Service.recoverBackup (inventory : InstanceInventory) :
    Method (List String) := do
  if backupKnown effect inventory then
    service.store.setEffect runId effect.operationId .done effect.externalIdentity none
    return ["backup operation " ++ effect.operationId ++ " confirmed at its remote ref"]
  else
    return ["backup operation " ++ effect.operationId ++
      " is uncertain; query the exact remote ref before retry"]

def Service.recoverEffect : Method (List String) :=
  match effect.kind with
  | .launch =>
    if isPending effect then service.recoverLaunch runId effect inventory
    else pure []
  | .capture =>
    if effect.status ≠ .done ∧ effect.status ≠ .abandoned ∧
        captureStagingPaused effect inventory then do
      service.escalateToOperator runId "capture_staging_paused"
      return ["capture staging paused for operation " ++
        effect.operationId ++ "; inspect then resume or preserve"]
    else pure []
  | .backup =>
    if isPending effect then service.recoverBackup runId effect inventory
    else pure []

def Service.recoverEffects : Method (List String) := do
  let effects ← loadEffects runId
  Program.forEach (service.recoverEffect runId inventory) effects

/-- The live instance no longer matches what the session recorded. -/
def differs {Value : Type} [DecidableEq Value]
    (recorded live : Option Value) : Bool :=
  match recorded, live with
  | some expected, some actual => expected != actual
  | _, _ => false

def sessionLost (session : StoredSession)
    (inventory : InstanceInventory) : Bool :=
  match session.instanceId.bind (fun identity =>
      inventory.instances.find? (·.instanceId == identity)) with
  | none => session.instanceId.isSome
  | some live =>
    !live.sessionAlive || differs (session.capsuleEpoch.map Int.toNat) live.capsuleEpoch ||
      differs session.processIdentity live.processIdentity

def Service.recoverSession (session : StoredSession) :
    Method (List String) := do
  if sessionLost session inventory then
    service.store.appendEvent runId "host" "session_lost" session.instanceId
    service.escalateToOperator runId "session_lost"
    return ["session for worker " ++ session.workerId ++
      " lost; source kept, no same-session claim"]
  else return []

def Service.recoverSessions : Method (List String) := do
  let sessions ← loadSessions runId
  Program.forEach (service.recoverSession runId inventory) sessions

def Service.recoverArtifact (command : StoredCommand) : Method (List String) := do
  let verifies ← Program.lift (service.env.verifyArtifact command.commandId command.promptDigest)
  if verifies then return []
  else
    service.store.appendEvent runId "host" "artifact_digest_mismatch" (some command.commandId)
    return ["prompt artifact for command " ++ command.commandId ++ " no longer verifies"]

def Service.recoverArtifacts : Method (List String) := do
  let written ← commandsInState runId .written
  let ended ← commandsInState runId .turnEnded
  Program.forEach (service.recoverArtifact runId) (written ++ ended)

/-- Discard the unfinished verdicts of the current candidate. -/
def discardUnfinished : Option String → Method (List String)
  | none => pure []
  | some candidate => do
    let discarded ← discardPartialEvidence runId candidate
    if 0 < discarded then
      return ["discarded " ++ toString discarded ++
        " partial test/review rows; one fresh attempt allowed"]
    else return []

def Service.recoverRun (run : StoredRun)
    (inventory : InstanceInventory) : Method RecoveryReport := do
  let commands ← service.recoverCommands run.runId
  let effects ← service.recoverEffects run.runId inventory
  let discarded ← discardUnfinished run.runId run.candidate
  let sessions ← service.recoverSessions run.runId inventory
  let artifacts ← service.recoverArtifacts run.runId
  let actions := commands ++ effects ++ discarded ++ sessions ++ artifacts
  return ⟨some run.runId, if actions.isEmpty then ["recovered with no findings"] else actions⟩

def Service.recover : Method RecoveryReport := do
  match ← activeRun with
  | none => return ⟨none, ["no incomplete run"]⟩
  | some run => service.recoverRun run inventory

end Jackin.Workflow
