import Mathlib
import Jackin.Coordinator.Model
import Jackin.Foundation.Program

/-!
# The coordinator state and what surrounds it

A coordinator operation runs under the coordinator's locks and reads the
clock, the durable store and the provider executor.  A session lists their
answers in advance: how far each clock reading advances, whether each store
request is accepted, refused, or applied and then reported as failed, and what
the executor says.  The samples taken and a journal of what happened are kept,
and no operation reads them.
-/

namespace Jackin.Coordinator

open Foundation Machine

/-- A finite map from account capabilities. -/
abbrev AccountMap (Value : Type) := AList (fun _ : Capability => Value)

structure CoordinatorState (View : Type) where
  accounts : AccountMap (AccountEntry View)
  blocked : AccountMap CoordinationError
  catalog : Option (AccountMap String)
  catalogRevision : Option String

structure CatalogEntry where
  capability : Capability
  revision : String

/-- An admitted refresh. -/
structure ProbeJob where
  capability : Capability
  generation : Nat
  admittedAtEpoch : Int
  admittedAtMonotonic : Nat
  catalogRevision : Option String

/-- What the durable store holds for an account it has a file of. -/
inductive Stored (View : Type) where
  | present (envelope : AccountStateEnvelope View)
  | corrupt

/-- What happened, for the statements about whole runs. -/
inductive Occurrence (View : Type) where
  | loaded (capability : Capability) (envelope : AccountStateEnvelope View) (monotonic : Nat)
  | admitted (job : ProbeJob)
  | invoked (capability : Capability) (monotonic : Nat)

/-- The coordinator with its store and clock, and what it did. -/
structure World (View : Type) where
  state : CoordinatorState View
  durable : AccountMap (Stored View)
  elapsed : Nat
  samples : List ClockSample
  journal : List (Occurrence View)

/--
A clock reading: how far the monotonic clock has advanced, and the wall clock.
Without a wall clock the caller's epoch is used, as the default sample does.
-/
structure Reading where
  advance : Nat
  wall : Option Nat

/-- What becomes of a write. -/
inductive StoreFate where
  | accepted
  | refused (error : StateStoreError)
  | lost (error : StateStoreError)

/-- A world with the readings and fates to come. -/
structure Session (View : Type) where
  world : World View
  readings : List Reading
  storeFates : List StoreFate
  executorFates : List (Option CoordinationError)

variable {View : Type}

abbrev Step (View : Type) := Program (Session View) CoordinationError

def getState : Step View (CoordinatorState View) := do return (← get).world.state

def setState (state : CoordinatorState View) : Step View Unit :=
  modify fun session => { session with world := { session.world with state } }

def World.note (world : World View)
    (occurrence : Occurrence View) : World View :=
  { world with journal := world.journal ++ [occurrence] }

def note (occurrence : Occurrence View) : Step View Unit :=
  modify fun session => { session with world := session.world.note occurrence }

namespace CoordinatorState

section

variable (state : CoordinatorState View) (capability : Capability)

def setEntry (entry : AccountEntry View) : CoordinatorState View :=
  { state with accounts := state.accounts.insert capability entry }

def block (error : CoordinationError) : CoordinatorState View :=
  { state with blocked := state.blocked.insert capability error }

def unblock : CoordinatorState View :=
  { state with blocked := state.blocked.erase capability }

end

end CoordinatorState

variable (capability : Capability) (world : World View) (reading : Reading)
    (fallbackEpoch : Int)

/-- Read the monotonic clock. -/
def World.tick : World View :=
  { world with elapsed := world.elapsed + reading.advance }

/-- What a sample taken now shows. -/
def World.sampleOf : ClockSample :=
  match reading.wall with
  | some wall => ⟨wall, world.elapsed + reading.advance⟩
  | none => .anchored fallbackEpoch (world.elapsed + reading.advance)

/-- Read both clocks. -/
def World.sample : World View :=
  { world.tick reading with samples := world.samples ++ [world.sampleOf reading fallbackEpoch] }

/-- The next clock reading; without one the clock stands still. -/
def nextReading (readings : List Reading) : Reading := readings.headD ⟨0, none⟩

def monotonicNow : Step View Nat := do
  let session ← get
  let world := session.world.tick (nextReading session.readings)
  set { session with readings := session.readings.tail, world }
  return world.elapsed

def sampleClock : Step View ClockSample := do
  let session ← get
  let reading := nextReading session.readings
  set
    { session with
      readings := session.readings.tail
      world := session.world.sample reading fallbackEpoch }
  return session.world.sampleOf reading fallbackEpoch

def nextStoreFate : Step View StoreFate := do
  let session ← get
  set { session with storeFates := session.storeFates.tail }
  return session.storeFates.headD .accepted

def setDurable (durable : AccountMap (Stored View)) : Step View Unit :=
  modify fun session => { session with world := { session.world with durable } }

/-- A store request that changes the durable map. -/
def writeDurable (change : AccountMap (Stored View) → AccountMap (Stored View)) :
    Step View (Except StateStoreError Unit) := do
  let fate ← nextStoreFate
  let durable := (← get).world.durable
  match fate with
  | .accepted =>
    setDurable (change durable)
    return .ok ()
  | .refused error => return .error error
  | .lost error =>
    setDurable (change durable)
    return .error error

/--
Write an envelope.  The epoch is what the file store compares timestamps with;
a store may refuse for that reason, as for any other.
-/
def storeEnvelope (envelope : AccountStateEnvelope View)
    (_nowEpoch : Int) : Step View (Except StateStoreError Unit) :=
  writeDurable fun durable => durable.insert envelope.capability (.present envelope)

def purge : Step View (Except StateStoreError Unit) :=
  writeDurable fun durable => durable.erase capability

def quarantine : Step View (Except StateStoreError Unit) :=
  writeDurable fun durable => durable.erase capability

/--
Read an envelope back.  A file whose envelope names another capability is
corrupt, as is any file that the store's other checks turn down.
-/
def loadEnvelope (_nowEpoch : Int) :
    Step View (Except StateStoreError (Option (AccountStateEnvelope View))) := do
  let fate ← nextStoreFate
  let durable := (← get).world.durable
  match fate with
  | .accepted =>
    match durable.lookup capability with
    | none => return .ok none
    | some .corrupt => return .error .corrupt
    | some (.present envelope) =>
      if envelope.capability = capability then return .ok (some envelope)
      else return .error .corrupt
  | .refused error => return .error error
  | .lost error => return .error error

def executorCall : Step View (Except CoordinationError Unit) := do
  let session ← get
  set { session with executorFates := session.executorFates.tail }
  match session.executorFates.headD none with
  | none => return .ok ()
  | some error => return .error error

/-- Whether the executor accepts a catalog. -/
def validateExecutorCatalog (_catalogRevision : Option String)
    (_entries : List CatalogEntry) :
    Step View (Except CoordinationError Unit) :=
  executorCall

/-- Give the executor a catalog. -/
def reconcileExecutorCatalog (_catalogRevision : Option String)
    (_entries : List CatalogEntry) :
    Step View (Except CoordinationError Unit) :=
  executorCall

end Jackin.Coordinator
