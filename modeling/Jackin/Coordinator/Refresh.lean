import Jackin.Coordinator.Store

/-!
# Refreshing one account

Loading an account, admitting a refresh of it, marking the refresh as started
and finishing it.  Each function here runs under the coordinator's locks.  A
request only admits the job: sending it to the workers happens after the locks
are released.
-/

namespace Jackin.Coordinator

open Foundation Machine

variable {View : Type}

/-! ## Loading -/

/-- Record a terminal view that could not be stored when it was reached. -/
def recordBlockedTerminal (capability : Capability)
    (envelope : AccountStateEnvelope View) : Step View Unit := do
  if envelope.phase.isTerminal then
    let state ← getState
    match state.accounts.lookup capability with
    | none => throw unavailableError
    | some entry =>
      if entry.history.any fun view =>
          view.generation == envelope.generation then
        return ()
      else setState (state.setEntry capability entry.recordTerminal)
  else return ()

/-- A blocked account is stored again before it is used. -/
def retryBlocked (capability : Capability)
    (nowEpoch : Int) : Step View Unit := do
  let state ← getState
  match state.blocked.lookup capability with
  | none => return ()
  | some error =>
    match state.accounts.lookup capability with
    | none => throw error
    | some entry =>
      match ← storeEnvelope entry.envelope nowEpoch with
      | .error _ => throw error
      | .ok () =>
        setState (state.unblock capability)
        recordBlockedTerminal capability entry.envelope

section

variable (envelope : AccountStateEnvelope View)

/-- The attempt was started by an owner that recorded no invocation. -/
def unresolvedUpdatingAttempt : Bool :=
  envelope.phase == .updating && envelope.providerInvokedAtEpoch.isNone

/-- The stored state tells of an attempt that may have reached a provider. -/
def reloadSafetyFence : Bool :=
  envelope.reloadFenceRequired || envelope.providerInvokedAtEpoch.isSome ||
    envelope.phase == .updating

/-- Such an attempt asks for a fence at the next reload as well. -/
def requireReloadFence : AccountStateEnvelope View :=
  if unresolvedUpdatingAttempt envelope then { envelope with reloadFenceRequired := true }
  else envelope

end

@[simp]
theorem requireReloadFence_capability :
    (requireReloadFence envelope).capability = envelope.capability := by
  unfold requireReloadFence
  split <;> rfl

variable (shared : Shared View)

variable (capability : Capability) (job : ProbeJob) (entry : AccountEntry View)
    (envelope : AccountStateEnvelope View)

/-- Fail the refresh of an owner that is gone. -/
def recoverEnvelope (unresolved : Bool)
    (recoveryEpoch : Int) : AccountStateEnvelope View :=
  let consecutiveFailures := nextU32 envelope.consecutiveFailures
  let retry := retryDeadline shared envelope.capability envelope.generation
    consecutiveFailures envelope.retryDeadlineEpoch recoveryEpoch
  let retry := raiseTo retry
    (minimumAttemptDeadline envelope.capability envelope.providerInvokedAtEpoch)
  let recoveryFloor :=
    if unresolved then minimumAttemptDeadline envelope.capability (some recoveryEpoch)
    else none
  { envelope with
    phase := .failed
    terminalResult := none
    terminalError := some (coordinationError .ownerLost
      "usage refresh owner exited before completion")
    completedAtEpoch := some recoveryEpoch
    retryDeadlineEpoch := raiseTo retry recoveryFloor
    successDeadlineEpoch := none
    consecutiveFailures }

/-- Enter a loaded account, after failing a refresh its last owner left. -/
def enterLoaded (loaded : AccountStateEnvelope View) (nowEpoch : Int) :
    Step View Unit := do
  let sample ← sampleClock nowEpoch
  let state ← getState
  let catalogRevision := state.catalog.bind fun catalog => catalog.lookup capability
  let envelope := requireReloadFence loaded
  if envelope.phase.isActive then
    let recovered := recoverEnvelope shared envelope
      (unresolvedUpdatingAttempt loaded) sample.ceilEpoch
    match ← storeEnvelope recovered sample.ceilEpoch with
    | .error _ =>
      setState (state.block capability unavailableError)
      throw unavailableError
    | .ok () =>
      setState (state.setEntry capability
        (.new recovered true (reloadSafetyFence loaded) sample catalogRevision))
      note (.loaded capability loaded sample.monotonic)
  else
    setState (state.setEntry capability
      (.new envelope false (reloadSafetyFence loaded) sample catalogRevision))
    note (.loaded capability loaded sample.monotonic)

def ensureLoaded (nowEpoch : Int) : Step View Unit := do
  retryBlocked capability nowEpoch
  let state ← getState
  if (state.accounts.lookup capability).isSome then return ()
  else if state.catalog.any fun catalog =>
      (catalog.lookup capability).isNone then
    throw catalogRevokedError
  else
    match ← loadEnvelope capability nowEpoch with
    | .ok envelope => enterLoaded shared capability (envelope.getD (.idle capability)) nowEpoch
    | .error error =>
      setState (state.block capability (stateError error))
      throw (stateError error)

/-- The entry of a loaded account that is not blocked. -/
def requireEntry : Step View (AccountEntry View) := do
  let state ← getState
  match state.blocked.lookup capability with
  | some error => throw error
  | none => Program.require (state.accounts.lookup capability) unavailableError

/-- Some deadline of the account is still ahead. -/
def coolingDown (force : Bool) (admitted : ClockSample) : Bool :=
  let ahead := fun (deadline : Option Int) => deadline.any fun epoch => admitted.floorEpoch < epoch
  (entry.cooldownNotBeforeMonotonic.any fun deadline =>
      admitted.monotonic < deadline) ||
    ahead entry.envelope.rateLimitDeadlineEpoch ||
    ahead entry.envelope.retryDeadlineEpoch ||
    ahead (minimumAttemptDeadline capability entry.envelope.providerInvokedAtEpoch) ||
    ((!force || capability.isClaude) && ahead entry.envelope.successDeadlineEpoch)

/-- The envelope of an admitted refresh. -/
def queuedEnvelope (admissionEpoch : Int) : AccountStateEnvelope View :=
  { envelope with
    generation := nextU64 envelope.generation, phase := .queued
    startedAtEpoch := some admissionEpoch, completedAtEpoch := none
    terminalResult := none, terminalError := none, retryDeadlineEpoch := none }

/-- A refresh is under way, or the caller has not seen the last one. -/
def refreshKnown (observedGeneration : Nat) : Bool :=
  entry.pendingProviderGeneration.isSome || entry.envelope.phase.isActive ||
    (!entry.recoveryPending && decide (observedGeneration < entry.envelope.generation))

/--
Admit a refresh, up to the point where the locks are released.  The job, if
there is one, is then sent to the workers.
-/
def requestRefresh (observedGeneration : Nat) (force : Bool) (nowEpoch : Int) :
    Step View (UsageGenerationView View × Option ProbeJob) := do
  ensureLoaded shared capability nowEpoch
  let entry ← requireEntry capability
  if entry.revoked then throw catalogRevokedError
  else
    let admitted ← sampleClock nowEpoch
    if refreshKnown entry observedGeneration || coolingDown capability entry force admitted then
      return (generationView entry.envelope, none)
    else
      let envelope := queuedEnvelope entry.envelope admitted.floorEpoch
      let state ← getState
      match ← storeEnvelope envelope admitted.floorEpoch with
      | .error _ =>
        setState (state.block capability unavailableError)
        throw unavailableError
      | .ok () =>
        setState (state.setEntry capability
          { entry with envelope, recoveryPending := false })
        let job : ProbeJob :=
          ⟨capability, envelope.generation, admitted.floorEpoch,
            admitted.monotonic, entry.catalogRevision⟩
        note (.admitted job)
        return (generationView envelope, some job)

/-! ## Finishing -/

/-- The job is not the one the entry is waiting for. -/
def isStale (job : ProbeJob) : Bool :=
  entry.revoked || entry.catalogRevision != job.catalogRevision || entry.envelope.generation !=
    job.generation || !entry.envelope.phase.isActive

def persistTerminal (nowEpoch : Int) : Step View Unit := do
  let state ← getState
  match state.accounts.lookup capability with
  | none => return ()
  | some entry =>
    match ← storeEnvelope entry.envelope nowEpoch with
    | .error _ => setState (state.block capability unavailableError)
    | .ok () => setState (state.setEntry capability entry.recordTerminal)

/-- The success deadline of an attempt that finished at an epoch. -/
def successDeadline (finishedAtEpoch : Int) : Int :=
  let deadline := addI64 finishedAtEpoch (toI64 (asSecs shared.config.successCooldown))
  match minimumAttemptDeadline capability (some finishedAtEpoch) with
  | some floor => max floor deadline
  | none => deadline

/-- What a provider failure reports. -/
structure ProviderFailure where
  kind : ErrorKind
  retryAtEpoch : Option Int

/-- The retry deadline of a failed attempt, before the attempt floors. -/
def failureRetry (failure : ProviderFailure) (failures : Nat)
    (finishedAtEpoch : Int) :
    Option Int :=
  if isRetryable failure.kind then
    retryDeadline shared job.capability job.generation failures failure.retryAtEpoch finishedAtEpoch
  else failure.retryAtEpoch

/-- The deadlines of an attempt that ended after its generation. -/
def fencedEnvelope (failure : Option ProviderFailure) (finishedAtEpoch : Int)
    (envelope : AccountStateEnvelope View) : AccountStateEnvelope View :=
  let floored := raiseTo envelope.retryDeadlineEpoch
    (minimumAttemptDeadline job.capability (some finishedAtEpoch))
  match failure with
  | some failure =>
    let failures := nextU32 envelope.consecutiveFailures
    let retry := claudeRateLimitRetryDeadline job.capability failure.kind
      failures (failureRetry shared job failure failures finishedAtEpoch)
      finishedAtEpoch
    { envelope with
      retryDeadlineEpoch := raiseTo floored retry
      rateLimitDeadlineEpoch :=
        if failure.kind = .rateLimited then raiseTo envelope.rateLimitDeadlineEpoch retry
        else envelope.rateLimitDeadlineEpoch
      consecutiveFailures :=
        if isRetryable failure.kind then failures
        else envelope.consecutiveFailures }
  | none =>
    { envelope with
      retryDeadlineEpoch := floored
      successDeadlineEpoch := some (raise envelope.successDeadlineEpoch
        (successDeadline shared job.capability finishedAtEpoch)) }

/-- The entry after such an attempt: its marker goes, its fence rises. -/
def fencedEntry (failure : Option ProviderFailure) (finishedAt : ClockSample)
    (entry : AccountEntry View) : AccountEntry View :=
  AccountEntry.refreshRuntimeCooldown
    { entry with
      pendingProviderGeneration := none
      envelope := fencedEnvelope shared job failure finishedAt.ceilEpoch entry.envelope }
    finishedAt

/-- Store what such an attempt leaves on disk, or block the account. -/
def persistFenced (state : CoordinatorState View) (capability : Capability)
    (envelope : Option (AccountStateEnvelope View)) (nowEpoch : Int) :
    Step View Unit := do
  match envelope with
  | none => return ()
  | some envelope =>
    match ← storeEnvelope envelope nowEpoch with
    | .ok () => return ()
    | .error _ => setState (state.block capability unavailableError)

def finishFencedProviderAttempt (finishedAt : ClockSample)
    (failure : Option ProviderFailure) :
    Step View Unit := do
  let state ← getState
  match state.accounts.lookup job.capability with
  | none => return ()
  | some entry =>
    if entry.pendingProviderGeneration = some job.generation then
      let entry := fencedEntry shared job failure finishedAt entry
      let state := state.setEntry job.capability entry
      setState state
      let persistEpoch := max finishedAt.ceilEpoch (entry.envelope.providerInvokedAtEpoch.getD 0)
      persistFenced state job.capability
        (if entry.revoked then cooldownTombstone entry.envelope persistEpoch false
        else some entry.envelope) persistEpoch
    else return ()

/-- The entry after its refresh succeeded. -/
def succeededEntry (view : View) (finishedAt : ClockSample)
    (entry : AccountEntry View) :
    AccountEntry View :=
  let presented := shared.presentView job.capability view
  AccountEntry.refreshRuntimeCooldown
    { entry with
      pendingProviderGeneration := none
      envelope :=
        { entry.envelope with
          phase := .completed, terminalResult := some presented
          lastGood := some presented, terminalError := none
          completedAtEpoch := some finishedAt.ceilEpoch, rateLimitDeadlineEpoch := none
          retryDeadlineEpoch := none
          successDeadlineEpoch := some (successDeadline shared job.capability finishedAt.ceilEpoch)
          consecutiveFailures := 0 } }
    finishedAt

def finishSuccess (view : View)
    (finishedAt : ClockSample) : Step View Unit := do
  let state ← getState
  match state.accounts.lookup job.capability with
  | none => return ()
  | some entry =>
    if isStale entry job then finishFencedProviderAttempt shared job finishedAt none
    else
      setState (state.setEntry job.capability (succeededEntry shared job view finishedAt entry))
      persistTerminal job.capability finishedAt.ceilEpoch

/-- The retry deadline of a failed refresh. -/
def failedRetry (failure : ProviderFailure) (finishedAtEpoch : Int)
    (attemptedProvider : Bool)
    (envelope : AccountStateEnvelope View) : Option Int :=
  let failures := nextU32 envelope.consecutiveFailures
  let retry := failureRetry shared job failure failures finishedAtEpoch
  let retry := raiseTo retry (minimumAttemptDeadline job.capability envelope.providerInvokedAtEpoch)
  let retry :=
    if attemptedProvider then
      raiseTo retry (minimumAttemptDeadline job.capability (some finishedAtEpoch))
    else retry
  claudeRateLimitRetryDeadline job.capability failure.kind failures retry finishedAtEpoch

/-- The entry after its refresh failed. -/
def failedEntry (error : CoordinationError) (retryAtEpoch : Option Int)
    (finishedAt : ClockSample)
    (attemptedProvider : Bool)
    (entry : AccountEntry View) : AccountEntry View :=
  let retry := failedRetry shared job ⟨error.kind, retryAtEpoch⟩
    finishedAt.ceilEpoch attemptedProvider entry.envelope
  AccountEntry.refreshRuntimeCooldown
    { entry with
      pendingProviderGeneration := none
      envelope :=
        { entry.envelope with
          phase := .failed
          terminalResult := none
          terminalError := some error
          completedAtEpoch := some finishedAt.ceilEpoch
          retryDeadlineEpoch := retry
          rateLimitDeadlineEpoch := if error.kind = .rateLimited then retry else none
          successDeadlineEpoch := none
          consecutiveFailures := nextU32 entry.envelope.consecutiveFailures } }
    finishedAt

def finishFailureInState (error : CoordinationError) (retryAtEpoch : Option Int)
    (finishedAt : ClockSample) (attemptedProvider : Bool) :
    Step View Unit := do
  let state ← getState
  match state.accounts.lookup job.capability with
  | none => return ()
  | some entry =>
    if isStale entry job then
      if attemptedProvider then
        finishFencedProviderAttempt shared job finishedAt (some ⟨error.kind, retryAtEpoch⟩)
      else return ()
    else
      setState (state.setEntry job.capability
        (failedEntry shared job error retryAtEpoch finishedAt attemptedProvider entry))
      persistTerminal job.capability finishedAt.ceilEpoch

def finishFailure (kind : ErrorKind) (message : String)
    (retryAtEpoch : Option Int)
    (finishedAt : ClockSample) (attemptedProvider : Bool) : Step View Unit :=
  finishFailureInState shared job (coordinationError kind message)
    retryAtEpoch finishedAt attemptedProvider

/-- The job is the queued refresh of its account. -/
def isQueued (job : ProbeJob) : Bool :=
  !entry.revoked && entry.catalogRevision == job.catalogRevision && entry.envelope.generation ==
    job.generation && entry.envelope.phase == .queued

def updatingEnvelope (invokedAtEpoch : Int) : AccountStateEnvelope View :=
  { envelope with
    phase := .updating, providerInvokedAtEpoch := some invokedAtEpoch
    reloadFenceRequired := false }

/--
Mark a queued job as started.  If that cannot be stored the provider is not
called, and the refresh fails with the invocation it had before.
-/
def markUpdating : Step View (Option Int) := do
  let state ← getState
  match state.accounts.lookup job.capability with
  | none => return none
  | some entry =>
    if isQueued entry job then
      let now ← monotonicNow
      let invokedAtEpoch := addI64 job.admittedAtEpoch
        (toI64 (asSecs (now - job.admittedAtMonotonic)))
      let envelope := updatingEnvelope entry.envelope invokedAtEpoch
      match ← storeEnvelope envelope invokedAtEpoch with
      | .error _ =>
        setState (state.setEntry job.capability
          { entry with envelope := { entry.envelope with phase := .updating } })
        let sample ← sampleClock invokedAtEpoch
        finishFailureInState shared job
          (coordinationError .unavailable "usage state store is unavailable")
          none sample false
        return none
      | .ok () =>
        setState (state.setEntry job.capability
          { entry with envelope, pendingProviderGeneration := some job.generation })
        return some invokedAtEpoch
    else return none

end Jackin.Coordinator
