import Jackin.Coordinator.Refresh

/-!
# Reconciling the catalog

A new catalog removes accounts, adds accounts and changes the revision of
accounts.  Reconciliation writes what must stay on disk, fences the running
attempts and replaces the catalog.  If a step fails, the durable preimages,
the executor's catalog and the in-memory state are put back.  A successful
reconciliation returns a transaction that can do the same later.
-/

namespace Jackin.Coordinator

open Foundation Machine

variable {View : Type}

def validateCatalogEntries : List CatalogEntry → Except CoordinationError Unit
  | [] => .ok ()
  | entry :: rest =>
    if entry.revision.isEmpty ∨ rest.any fun other => other.capability == entry.capability then
      .error (coordinationError .corruptState
        "usage broker catalog contains an invalid or duplicate entry")
    else validateCatalogEntries rest

def catalogOf (entries : List CatalogEntry) : AccountMap String :=
  entries.foldl (fun catalog entry => catalog.insert entry.capability entry.revision) ∅

def catalogEntriesFromMap (catalog : AccountMap String) : List CatalogEntry :=
  catalog.entries.map fun row => ⟨row.1, row.2⟩

variable (state : CoordinatorState View)

/-- The catalog in force, or the revisions the accounts were loaded with. -/
def previousCatalog : AccountMap String :=
  state.catalog.getD (state.accounts.entries.foldl (fun catalog row =>
        match row.2.catalogRevision with
        | some revision => catalog.insert row.1 revision
        | none => catalog) ∅)

/-- The accounts that the next catalog removes or changes. -/
def catalogPurgeSet (previous next : AccountMap String) : List Capability :=
  let changed := previous.entries.filterMap fun row =>
    if next.lookup row.1 = some row.2 then none else some row.1
  let outdated := state.accounts.entries.filterMap fun row =>
    if (next.lookup row.1).isNone ∨ row.2.catalogRevision ≠ next.lookup row.1 then some row.1
    else none
  let removed := state.blocked.keys.filter fun capability => (next.lookup capability).isNone
  (changed ++ outdated ++ removed).dedup

/-- What the store held before. -/
inductive CatalogAccountPreimage (View : Type) where
  | missing
  | present (envelope : AccountStateEnvelope View)
  | corrupt

abbrev Preimages (View : Type) := AccountMap (CatalogAccountPreimage View)

/-- Read what is on disk of each account, up to the first failure. -/
def collectPreimages (nowEpoch : Int) :
    List Capability → Preimages View → Step View (Except StateStoreError (Preimages View))
  | [], preimages => return .ok preimages
  | capability :: rest, preimages => do
    match ← loadEnvelope capability nowEpoch with
    | .ok none => collectPreimages nowEpoch rest (preimages.insert capability .missing)
    | .ok (some envelope) =>
      collectPreimages nowEpoch rest (preimages.insert capability (.present envelope))
    | .error .corrupt => collectPreimages nowEpoch rest (preimages.insert capability .corrupt)
    | .error error => return .error error

/-- Write preimages back, up to the first failure. -/
def restoreCatalogPreimages (preimages : Preimages View) (nowEpoch : Int) :
    List Capability → Step View (Except StateStoreError Unit)
  | [] => return .ok ()
  | capability :: rest => do
    match preimages.lookup capability with
    | none => return .error .unavailable
    | some .corrupt => restoreCatalogPreimages preimages nowEpoch rest
    | some (.present envelope) =>
      match ← storeEnvelope envelope nowEpoch with
      | .ok () => restoreCatalogPreimages preimages nowEpoch rest
      | .error error => return .error error
    | some .missing =>
      match ← purge capability with
      | .ok () => restoreCatalogPreimages preimages nowEpoch rest
      | .error error => return .error error

def firstCatalogRollbackError (durable executor : Except CoordinationError Unit) :
    Except CoordinationError Unit :=
  match durable with
  | .error error => .error error
  | .ok () => executor

def preserveCatalogError (primary : CoordinationError)
    (rollback : Except CoordinationError Unit) : CoordinationError :=
  match rollback with
  | .ok () => primary
  | .error rollback =>
    coordinationError primary.kind
      (primary.message ++ "; catalog rollback failed: " ++ rollback.message)

def asStateError {Value : Type} (result : Except StateStoreError Value) :
    Except CoordinationError Value :=
  result.mapError stateError

/-- Put everything back after a step of the reconciliation failed. -/
def rollbackCatalogReconciliation (previousState : CoordinatorState View)
    (previous : AccountMap String) (preimages : Preimages View)
    (mutated : List Capability) (nowEpoch : Int) :
    Step View (Except CoordinationError Unit) := do
  let durable ← restoreCatalogPreimages preimages nowEpoch mutated
  let executor ← reconcileExecutorCatalog previousState.catalogRevision
    (catalogEntriesFromMap previous)
  setState previousState
  return firstCatalogRollbackError (asStateError durable) executor

/-! ## Tombstones -/

variable (preimages : Preimages View) (capability : Capability)

def hasPendingProviderAttempt : Bool :=
  ((state.accounts.lookup capability).any fun entry =>
      entry.pendingProviderGeneration.isSome) ||
    match preimages.lookup capability with
    | some (.present envelope) => envelope.phase == .updating
    | _ => false

/-- The envelope of an account in memory, else on disk, else a marker. -/
def purgedEnvelope : Option (AccountStateEnvelope View) :=
  match state.accounts.lookup capability with
  | some entry => some entry.envelope
  | none =>
    match preimages.lookup capability with
    | some (.present envelope) => some envelope
    | some .corrupt =>
      if capability.isClaude then
        some { AccountStateEnvelope.idle capability with reloadFenceRequired := true }
      else none
    | _ => none

/-- The fence of a purged account, as a wall clock epoch. -/
def purgeDeadline (envelope : AccountStateEnvelope View)
    (clockSample : ClockSample) : Option Int :=
  match state.accounts.lookup capability with
  | some entry => AccountEntry.monotonicCooldownDeadlineEpoch entry clockSample
  | none => recoveredAttemptDeadlineEpoch envelope clockSample

def catalogPurgeTombstone (isRemoved : Bool) (nowEpoch : Int)
    (clockSample : ClockSample) :
    Option (AccountStateEnvelope View × Int) :=
  (purgedEnvelope state preimages capability).bind fun stored =>
    let alreadyRevoked := (state.accounts.lookup capability).any fun entry => entry.revoked
    let pendingAttempt := hasPendingProviderAttempt state preimages capability
    let envelope :=
      if isRemoved then
        if alreadyRevoked then stored
        else revokeEnvelope stored nowEpoch clockSample
      else resetEnvelope stored
    let persistEpoch := max clockSample.ceilEpoch (envelope.providerInvokedAtEpoch.getD 0)
    let envelope :=
      { envelope with
        retryDeadlineEpoch := raiseTo envelope.retryDeadlineEpoch
          (purgeDeadline state capability envelope clockSample) }
    let tombstone :=
      if isRemoved then cooldownTombstone envelope persistEpoch pendingAttempt
      else if pendingAttempt then some (pendingAttemptEnvelope envelope persistEpoch)
      else cooldownTombstone envelope persistEpoch false
    tombstone.map fun written => (written, persistEpoch)

/-- How far the durable part of a reconciliation has come. -/
structure Progress (View : Type) where
  preimages : Preimages View
  mutated : List Capability
  prewritten : List Capability

/-- An account without a readable file has its tombstone as preimage. -/
def Progress.written (progress : Progress View) (capability : Capability)
    (tombstone : AccountStateEnvelope View) : Progress View :=
  { progress with
    preimages :=
      match progress.preimages.lookup capability with
      | some .missing | some .corrupt => progress.preimages.insert capability (.present tombstone)
      | _ => progress.preimages
    mutated := progress.mutated.insert capability }

/-- Write the tombstones of purged accounts, up to the first failure. -/
def writeTombstones (state : CoordinatorState View) (next : AccountMap String)
    (nowEpoch : Int) (clockSample : ClockSample) :
    List Capability → Progress View → Step View (Progress View × Except StateStoreError Unit)
  | [], progress => return (progress, .ok ())
  | capability :: rest, progress => do
    match catalogPurgeTombstone state progress.preimages capability
        (next.lookup capability).isNone nowEpoch clockSample with
    | none => writeTombstones state next nowEpoch clockSample rest progress
    | some (tombstone, persistEpoch) =>
      let progress := progress.written capability tombstone
      match ← storeEnvelope tombstone persistEpoch with
      | .error error => return (progress, .error error)
      | .ok () =>
        writeTombstones state next nowEpoch clockSample rest
          { progress with prewritten := progress.prewritten.insert capability }

/-- Remove the file of an account; a corrupt one is set aside. -/
def removeFile : Step View (Except StateStoreError Unit) :=
  match preimages.lookup capability with
  | some .corrupt => quarantine capability
  | some _ => purge capability
  | none => pure (.error .unavailable)

/-- Remove the files of the other purged accounts. -/
def removeFiles :
    List Capability → Progress View → Step View (Progress View × Except StateStoreError Unit)
  | [], progress => return (progress, .ok ())
  | capability :: rest, progress => do
    if capability ∈ progress.prewritten then removeFiles rest progress
    else
      let progress := { progress with mutated := progress.mutated.insert capability }
      match ← removeFile progress.preimages capability with
      | .error error => return (progress, .error error)
      | .ok () => removeFiles rest progress

/-- One account under the next catalog. -/
def reconcileAccount (next : AccountMap String) (nowEpoch : Int)
    (clockSample : ClockSample)
    (state : CoordinatorState View)
    (capability : Capability) : CoordinatorState View :=
  match state.accounts.lookup capability with
  | none => state
  | some entry =>
    match next.lookup capability with
    | none =>
      let state :=
        if entry.revoked then state
        else state.setEntry capability (entry.revokeEntry nowEpoch clockSample)
      state.unblock capability
    | some revision =>
      if entry.revoked ∨ entry.catalogRevision ≠ some revision then
        (state.setEntry capability (entry.resetEntry clockSample revision)).unblock capability
      else state

def reconcileAccounts (next : AccountMap String) (nowEpoch : Int)
    (clockSample : ClockSample)
    (state : CoordinatorState View) : CoordinatorState View :=
  state.accounts.keys.foldl (reconcileAccount next nowEpoch clockSample) state

/-- The envelope to persist of an account that was reset. -/
def persistedReset : Option (AccountStateEnvelope View) :=
  match state.accounts.lookup capability with
  | some entry => some entry.envelope
  | none =>
    match preimages.lookup capability with
    | some (.present envelope) => some (resetEnvelope envelope)
    | _ => none

def persistResetEnvelopes (state : CoordinatorState View)
    (clockSample : ClockSample) :
    List Capability → Progress View → Step View (Progress View × Except StateStoreError Unit)
  | [], progress => return (progress, .ok ())
  | capability :: rest, progress => do
    if capability ∈ progress.prewritten then persistResetEnvelopes state clockSample rest progress
    else
      match persistedReset state progress.preimages capability with
      | none => persistResetEnvelopes state clockSample rest progress
      | some envelope =>
        let envelope :=
          if hasPendingProviderAttempt state progress.preimages capability then
            pendingAttemptEnvelope envelope clockSample.ceilEpoch
          else envelope
        let persistEpoch := max clockSample.ceilEpoch (envelope.providerInvokedAtEpoch.getD 0)
        let progress := { progress with mutated := progress.mutated.insert capability }
        match ← storeEnvelope envelope persistEpoch with
        | .error error => return (progress, .error error)
        | .ok () => persistResetEnvelopes state clockSample rest progress

/-- What a rollback of the catalog restores. -/
structure CatalogTransaction (View : Type) where
  previousState : CoordinatorState View
  preimages : Preimages View
  previousEntries : List CatalogEntry
  previousCatalogRevision : Option String

/-- Continue, or put everything back and fail. -/
def orRollBack (previousState : CoordinatorState View) (nowEpoch : Int)
    (progress : Progress View) (result : Except StateStoreError Unit) :
    Step View Unit := do
  match result with
  | .ok () => return ()
  | .error error =>
    let rollback ← rollbackCatalogReconciliation previousState
      (previousCatalog previousState) progress.preimages progress.mutated
      nowEpoch
    throw (preserveCatalogError (stateError error) rollback)

def reconcileCatalogTransactionWithRevision (catalogRevision : Option String)
    (entries : List CatalogEntry)
    (nowEpoch : Int) : Step View (CatalogTransaction View) := do
  let previousState ← getState
  Program.lift (validateCatalogEntries entries)
  Program.lift (← validateExecutorCatalog catalogRevision entries)
  let previous := previousCatalog previousState
  let next := catalogOf entries
  let purged := catalogPurgeSet previousState previous next
  let preimages ← Program.lift (asStateError (← collectPreimages nowEpoch purged ∅))
  match ← reconcileExecutorCatalog catalogRevision entries with
  | .error error =>
    let rollback ← reconcileExecutorCatalog
      previousState.catalogRevision (catalogEntriesFromMap previous)
    throw (preserveCatalogError error rollback)
  | .ok () =>
    let sample ← sampleClock nowEpoch
    let (progress, written) ← writeTombstones previousState next nowEpoch
      sample purged ⟨preimages, [], []⟩
    orRollBack previousState nowEpoch progress written
    let (progress, removed) ← removeFiles purged progress
    orRollBack previousState nowEpoch progress removed
    let state := reconcileAccounts next nowEpoch sample previousState
    setState state
    let reset := purged.filter fun capability => (next.lookup capability).isSome
    let (progress, persisted) ← persistResetEnvelopes state sample reset progress
    orRollBack previousState nowEpoch progress persisted
    setState
      { state with catalog := some next, catalogRevision }
    return ⟨previousState, progress.preimages,
      catalogEntriesFromMap previous, previousState.catalogRevision⟩

/--
Undo a reconciliation that succeeded.  The locks were released in between:
whatever the state is now, it becomes the one before the reconciliation.
-/
def CatalogTransaction.rollback (transaction : CatalogTransaction View)
    (nowEpoch : Int) : Step View Unit := do
  let durable ← restoreCatalogPreimages transaction.preimages nowEpoch transaction.preimages.keys
  let executor ← reconcileExecutorCatalog
    transaction.previousCatalogRevision transaction.previousEntries
  setState transaction.previousState
  Program.lift (firstCatalogRollbackError (asStateError durable) executor)

end Jackin.Coordinator
