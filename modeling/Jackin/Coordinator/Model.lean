import Mathlib
import Jackin.Foundation.Machine
import Jackin.Foundation.Text

/-!
# Account envelopes, deadlines and entries

The usage coordinator keeps one entry for each account capability: the
envelope that is also written to disk, the recent terminal views, a monotonic
fence that no wall clock can move, and the generation of a provider call that
has been started and not finished.  The type of the usage view is a parameter.
-/

namespace Jackin.Coordinator

open Foundation.Machine

/-! ## Capabilities, phases and errors -/

/-- An account and its surface. -/
structure Capability where
  accountId : String
  surfaceId : String
  deriving DecidableEq

/-- Accounts of the one provider whose attempts are spaced. -/
def Capability.isClaude (capability : Capability) : Bool := capability.surfaceId == "claude"

inductive RefreshPhase where
  | idle
  | queued
  | updating
  | completed
  | failed
  deriving DecidableEq

namespace RefreshPhase

def isTerminal : RefreshPhase → Bool
  | completed | failed => true
  | _ => false

def isActive : RefreshPhase → Bool
  | queued | updating => true
  | _ => false

end RefreshPhase

inductive ErrorKind where
  | unavailable
  | unauthorized
  | catalogRevoked
  | catalogRevisionConflict
  | ownerLost
  | waitTimeout
  | corruptState
  | providerTimeout
  | providerUnavailable
  | needsSecret
  | rateLimited
  | protocolMismatch
  | brokerConflict
  deriving DecidableEq

structure CoordinationError where
  kind : ErrorKind
  message : String
  deriving DecidableEq

/-- An error whose message has no control characters and a bounded length. -/
def coordinationError (kind : ErrorKind)
    (message : String) : CoordinationError where
  kind := kind
  message := String.ofList
    ((message.toList.filter fun character => !Foundation.Text.isControl character).take 256)

def unavailableError : CoordinationError :=
  coordinationError .unavailable "usage coordinator is unavailable"

def catalogRevokedError : CoordinationError :=
  coordinationError .catalogRevoked
    "usage account capability was removed from the current broker catalog"

inductive StateStoreError where
  | unavailable
  | corrupt
  | schemaMigrationRequired (found current : Nat)
  deriving DecidableEq

def stateError : StateStoreError → CoordinationError
  | .unavailable => unavailableError
  | .schemaMigrationRequired _ _ => unavailableError
  | .corrupt => coordinationError .corruptState "usage coordinator state is corrupt"

/-- A wall clock and a monotonic reading, both durations. -/
structure ClockSample where
  wallEpoch : Nat
  monotonic : Nat

namespace ClockSample

/-- The wall clock that a caller's epoch stands for. -/
def anchored (epochSeconds : Int) (monotonic : Nat) : ClockSample where
  wallEpoch := ofSecs (max epochSeconds 0).toNat
  monotonic := monotonic

def floorEpoch (sample : ClockSample) : Int := toI64 (asSecs sample.wallEpoch)

def ceilEpoch (sample : ClockSample) : Int :=
  addI64 sample.floorEpoch (if sample.wallEpoch % nanos ≠ 0 then 1 else 0)

end ClockSample

/-! ## Retry policy -/

structure UsagePolicy where
  retryBase : Nat
  retryCap : Nat

structure UsageCoordinatorConfig where
  successCooldown : Nat
  providerTimeout : Nat
  retryPolicy : UsagePolicy

/-- What the coordinator is given when it starts. -/
structure Shared (View : Type) where
  config : UsageCoordinatorConfig
  accountKeyHash : String → String → String
  /-- Sanitize a view and write the capability into its account. -/
  presentView : Capability → View → View
  dataBearing : View → Bool

def claudeMinAttemptInterval : Nat := ofSecs 300

def claudeRateLimitCircuitInterval : Nat := ofSecs 3600

def claudeRateLimitCircuitFailureThreshold : Nat := 3

def isRetryable : ErrorKind → Bool
  | .unavailable | .ownerLost | .providerTimeout | .providerUnavailable
  | .rateLimited => true
  | _ => false

/-- The value of a hexadecimal digit. -/
def hexDigit (character : Char) : Option Nat :=
  if '0' ≤ character ∧ character ≤ '9' then some (character.toNat - '0'.toNat)
  else if 'a' ≤ character ∧ character ≤ 'f' then some (character.toNat - 'a'.toNat + 10)
  else if 'A' ≤ character ∧ character ≤ 'F' then some (character.toNat - 'A'.toNat + 10)
  else none

variable {View : Type}

def accountKeyHashSeed (shared : Shared View) (capability : Capability)
    (generation failures : Nat) : Nat :=
  let digest := shared.accountKeyHash "usage-retry-v1"
    (capability.accountId ++ ":" ++ toString generation ++ ":" ++ toString failures)
  ((digest.toList.filterMap hexDigit).take 16).foldl
    (fun value nibble => (value * 16 + nibble) % (u64Max + 1)) 0

def retryDeadline (shared : Shared View) (capability : Capability)
    (generation failures : Nat)
    (providerDeadline : Option Int) (finishedAtEpoch : Int) : Option Int :=
  if failures = 0 then providerDeadline
  else
    let policy := shared.config.retryPolicy
    let shift := min (failures - 1) 8
    let product := policy.retryBase * 2 ^ shift
    let exponential :=
      min (if product ≤ durationMax then product else policy.retryCap) policy.retryCap
    let capSeconds := max (asSecs policy.retryCap) 1
    let exponentialSeconds := min (max (asSecs exponential) 1) capSeconds
    let seed := accountKeyHashSeed shared capability generation failures
    let jitterCap := min (exponentialSeconds / 4) (capSeconds - exponentialSeconds)
    let jitter := if jitterCap = 0 then 0 else seed % (jitterCap + 1)
    let backoff := min (exponentialSeconds + jitter) u64Max
    let fallback := addI64 finishedAtEpoch (toI64 backoff)
    some (raise providerDeadline fallback)

section

variable (capability : Capability)

def minimumAttemptDeadline (providerInvokedAtEpoch : Option Int) : Option Int :=
  if capability.isClaude then
    providerInvokedAtEpoch.map fun invokedAt =>
      addI64 invokedAt (toI64 (asSecs claudeMinAttemptInterval))
  else none

def claudeRateLimitCircuitDeadline (latestFailure : ErrorKind)
    (consecutiveFailures : Nat)
    (finishedAtEpoch : Int) : Option Int :=
  if capability.isClaude ∧ latestFailure = .rateLimited ∧
      claudeRateLimitCircuitFailureThreshold ≤ consecutiveFailures then
    some (addI64 finishedAtEpoch (toI64 (asSecs claudeRateLimitCircuitInterval)))
  else none

def claudeRateLimitRetryDeadline (latestFailure : ErrorKind)
    (consecutiveFailures : Nat) (retryDeadlineEpoch : Option Int)
    (finishedAtEpoch : Int) :
    Option Int :=
  raiseTo retryDeadlineEpoch
    (claudeRateLimitCircuitDeadline capability latestFailure consecutiveFailures finishedAtEpoch)

end

/-! ## Envelopes -/

/-- The state of an account, as stored. -/
structure AccountStateEnvelope (View : Type) where
  capability : Capability
  generation : Nat
  phase : RefreshPhase
  terminalResult : Option View
  lastGood : Option View
  terminalError : Option CoordinationError
  startedAtEpoch : Option Int
  providerInvokedAtEpoch : Option Int
  reloadFenceRequired : Bool
  completedAtEpoch : Option Int
  rateLimitDeadlineEpoch : Option Int
  retryDeadlineEpoch : Option Int
  successDeadlineEpoch : Option Int
  consecutiveFailures : Nat
  deriving DecidableEq

def AccountStateEnvelope.idle (capability : Capability) : AccountStateEnvelope View where
  capability := capability
  generation := 0
  phase := .idle
  terminalResult := none
  lastGood := none
  terminalError := none
  startedAtEpoch := none
  providerInvokedAtEpoch := none
  reloadFenceRequired := false
  completedAtEpoch := none
  rateLimitDeadlineEpoch := none
  retryDeadlineEpoch := none
  successDeadlineEpoch := none
  consecutiveFailures := 0

/-- A generation, as its readers see it. -/
structure UsageGenerationView (View : Type) where
  capability : Capability
  generation : Nat
  phase : RefreshPhase
  snapshot : Option View
  error : Option CoordinationError
  retryAtEpoch : Option Int
  deriving DecidableEq

variable (envelope : AccountStateEnvelope View)

def generationView : UsageGenerationView View where
  capability := envelope.capability
  generation := envelope.generation
  phase := envelope.phase
  snapshot := envelope.terminalResult.or envelope.lastGood
  error := envelope.terminalError
  retryAtEpoch := latest [envelope.rateLimitDeadlineEpoch, envelope.retryDeadlineEpoch]

def accountCooldownDeadline : Option Int :=
  latest [envelope.rateLimitDeadlineEpoch, envelope.retryDeadlineEpoch,
    envelope.successDeadlineEpoch,
    minimumAttemptDeadline envelope.capability envelope.providerInvokedAtEpoch]

/-- The durable deadlines of the envelope, on the monotonic clock. -/
def runtimeCooldownDeadline (clockSample : ClockSample) : Option Nat :=
  if envelope.capability.isClaude then
    (accountCooldownDeadline envelope).bind fun deadline =>
      let remaining := ofSecs (max deadline 0).toNat - clockSample.wallEpoch
      if remaining = 0 then none
      else some (addDuration clockSample.monotonic remaining)
  else none

def revokeEnvelope (nowEpoch : Int)
    (clockSample : ClockSample) : AccountStateEnvelope View :=
  { envelope with
    retryDeadlineEpoch :=
      if envelope.phase = .updating then
        raiseTo envelope.retryDeadlineEpoch
          (minimumAttemptDeadline envelope.capability (some clockSample.ceilEpoch))
      else envelope.retryDeadlineEpoch
    generation := nextU64 envelope.generation
    phase := .failed
    terminalResult := none
    lastGood := none
    terminalError := some catalogRevokedError
    startedAtEpoch := none
    completedAtEpoch := some nowEpoch }

def resetEnvelope : AccountStateEnvelope View :=
  { envelope with
    generation := nextU64 envelope.generation, phase := .idle, terminalResult := none
    lastGood := none, terminalError := none, completedAtEpoch := none }

def pendingAttemptEnvelope (nowEpoch : Int) : AccountStateEnvelope View :=
  { envelope with
    phase := .updating, terminalResult := none, lastGood := none, terminalError := none
    startedAtEpoch := envelope.providerInvokedAtEpoch.or (some nowEpoch)
    completedAtEpoch := none }

/-- What stays on disk of an account that is being removed. -/
def cooldownTombstone (nowEpoch : Int) (pendingAttempt : Bool) :
    Option (AccountStateEnvelope View) :=
  if pendingAttempt then some (pendingAttemptEnvelope envelope nowEpoch)
  else if envelope.reloadFenceRequired ∨
      ((accountCooldownDeadline envelope).any fun deadline => nowEpoch < deadline) then
    some
      { envelope with
        phase := .idle, startedAtEpoch := none, terminalResult := none, lastGood := none
        terminalError := none, completedAtEpoch := none }
  else none

/-! ## Entries -/

def terminalHistoryLimit : Nat := 8

/-- The state of an account, in memory. -/
structure AccountEntry (View : Type) where
  envelope : AccountStateEnvelope View
  history : List (UsageGenerationView View)
  recoveryPending : Bool
  catalogRevision : Option String
  revoked : Bool
  cooldownNotBeforeMonotonic : Option Nat
  pendingProviderGeneration : Option Nat
  fencedGenerations : List Nat
  deriving DecidableEq

namespace AccountEntry

/-- The monotonic fence of a loaded account. -/
def loadedCooldown (envelope : AccountStateEnvelope View)
    (reloadSafetyFence : Bool) (clockSample : ClockSample) : Option Nat :=
  let durable := runtimeCooldownDeadline envelope clockSample
  if reloadSafetyFence ∧ envelope.capability.isClaude then
    let reloadDeadline := addDuration clockSample.monotonic claudeMinAttemptInterval
    match durable with
    | some deadline => some (max deadline reloadDeadline)
    | none => some reloadDeadline
  else durable

def new (envelope : AccountStateEnvelope View)
    (recoveryPending reloadSafetyFence : Bool)
    (clockSample : ClockSample)
    (catalogRevision : Option String) : AccountEntry View where
  envelope := envelope
  history := if envelope.phase.isTerminal then [generationView envelope] else []
  recoveryPending := recoveryPending
  catalogRevision := catalogRevision
  revoked := false
  cooldownNotBeforeMonotonic := loadedCooldown envelope reloadSafetyFence clockSample
  pendingProviderGeneration := none
  fencedGenerations := []

variable (entry : AccountEntry View)

/-- Keep the last views of a list of terminal ones. -/
def recordTerminal : AccountEntry View :=
  let history := entry.history ++ [generationView entry.envelope]
  { entry with history := history.drop (history.length - terminalHistoryLimit) }

section

variable (clockSample : ClockSample)

/-- A fence still ahead stays; the durable deadlines can only raise it. -/
def refreshRuntimeCooldown : AccountEntry View :=
  let existing := entry.cooldownNotBeforeMonotonic.filter fun deadline =>
    clockSample.monotonic < deadline
  let durable := runtimeCooldownDeadline entry.envelope clockSample
  { entry with
    cooldownNotBeforeMonotonic :=
      match existing, durable with
      | some existing, some durable => some (max existing durable)
      | some existing, none => some existing
      | none, durable => durable }

/-- The set of fenced generations, in ascending order. -/
def fence (generations : List Nat) (generation : Nat) : List Nat :=
  if generation ∈ generations then generations
  else generations.orderedInsert (· ≤ ·) generation

def revokeEntry (nowEpoch : Int)
    (clockSample : ClockSample) : AccountEntry View :=
  let fenced := fence entry.fencedGenerations entry.envelope.generation
  let envelope := revokeEnvelope entry.envelope nowEpoch clockSample
  let cooled := refreshRuntimeCooldown
    { entry with fencedGenerations := fenced, envelope }
    clockSample
  recordTerminal
    { cooled with recoveryPending := false, catalogRevision := none, revoked := true }

def resetEntry (revision : String) : AccountEntry View :=
  let fenced := fence entry.fencedGenerations entry.envelope.generation
  refreshRuntimeCooldown
    { entry with
      envelope := resetEnvelope entry.envelope, history := []
      fencedGenerations := fenced.drop (fenced.length - terminalHistoryLimit)
      recoveryPending := false, catalogRevision := some revision, revoked := false }
    clockSample

/-- The fence of the entry as a wall clock epoch. -/
def monotonicCooldownDeadlineEpoch : Option Int :=
  (entry.cooldownNotBeforeMonotonic.filter fun deadline =>
    clockSample.monotonic < deadline).map fun deadline =>
      ClockSample.ceilEpoch ⟨addDuration clockSample.wallEpoch (deadline - clockSample.monotonic),
          clockSample.monotonic⟩

end

end AccountEntry

def recoveredAttemptDeadlineEpoch (envelope : AccountStateEnvelope View)
    (clockSample : ClockSample) : Option Int :=
  if envelope.capability.isClaude ∧
      (envelope.providerInvokedAtEpoch.isSome ∨ envelope.reloadFenceRequired) then
    some (ClockSample.ceilEpoch
      ⟨addDuration clockSample.wallEpoch claudeMinAttemptInterval, clockSample.monotonic⟩)
  else none

end Jackin.Coordinator
