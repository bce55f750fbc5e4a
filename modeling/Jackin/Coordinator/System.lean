import Jackin.Coordinator.Reconcile

/-!
# The coordinator with its callers and workers

A flight is a job on its way: admitted and not yet sent, waiting for a worker,
marked, with its provider call running, answered, or turned down because the
queue was full.  Steps under the locks are atomic, and everything a thread
does between two locked sections is a step of its own, so a history is any
interleaving of the threads.
-/

namespace Jackin.Coordinator

open Foundation Machine

variable {View : Type}

/-- What came of a probe. -/
inductive ProbeOutcome (View : Type) where
  | success (view : View)
  | failure (kind : ErrorKind) (message : String) (retryAtEpoch : Option Int)
  | panicked

/-- The end of a worker's probe, once the provider has answered. -/
def finishProbe (shared : Shared View) (job : ProbeJob)
    (outcome : ProbeOutcome View)
    (providerElapsed : Nat) (finishedAt : ClockSample) : Step View Unit :=
  if shared.config.providerTimeout < providerElapsed then
    finishFailure shared job .providerTimeout "usage provider probe timed out" none finishedAt true
  else
    match outcome with
    | .success view =>
      if shared.dataBearing view then finishSuccess shared job view finishedAt
      else
        finishFailure shared job .providerUnavailable
          "usage provider returned no quota data" none finishedAt true
    | .failure kind message retryAtEpoch =>
      finishFailure shared job kind message retryAtEpoch finishedAt true
    | .panicked =>
      finishFailure shared job .ownerLost "usage provider worker failed" none finishedAt true

/-- How far a refresh has come. -/
inductive Stage (View : Type) where
  | admitted
  | queued
  | rejected (finishedAt : ClockSample)
  | marked (invokedAtEpoch : Int)
  | calling (invokedAtEpoch : Int) (startedAt : Nat)
  | answered (startedAt : Nat) (outcome : ProbeOutcome View)
      (providerElapsed : Nat) (finishedAt : ClockSample)

/-- Between the mark and the finish of a provider call. -/
def Stage.inFlight : Stage View → Bool
  | .marked _ | .calling _ _ | .answered _ _ _ _ => true
  | _ => false

/-- A refresh under way. -/
structure Flight (View : Type) where
  job : ProbeJob
  stage : Stage View

/-- The coordinator with all refreshes under way. -/
structure System (View : Type) where
  world : World View
  flights : List (Flight View)

/-- The flight with that index. -/
abbrev System.Holds (system : System View) (index : Nat)
    (flight : Flight View) : Prop :=
  system.flights[index]? = some flight

/-- A coordinator that has just started, on whatever is on disk. -/
def System.start (catalog : Option (AccountMap String))
    (catalogRevision : Option String)
    (durable : AccountMap (Stored View)) : System View where
  world := ⟨⟨∅, ∅, catalog, catalogRevision⟩, durable, 0, [], []⟩
  flights := []

/-! ## Events -/

/-- What the surroundings answer during one step. -/
structure Surroundings where
  readings : List Reading
  storeFates : List StoreFate
  executorFates : List (Option CoordinationError)

/-- A step of the thread that holds a flight. -/
inductive FlightStep (View : Type) where
  | send (accepted : Bool)
  | failUnsent
  | mark
  | call
  | answer (outcome : ProbeOutcome View) (providerElapsed : Nat)
  | finish

/-- What can happen next. -/
inductive Event (View : Type) where
  | request (capability : Capability) (observedGeneration : Nat) (force : Bool) (nowEpoch : Int)
  | load (capability : Capability) (nowEpoch : Int)
  | reconcile (catalogRevision : Option String) (entries : List CatalogEntry) (nowEpoch : Int)
  | flight (index : Nat) (step : FlightStep View)

def Surroundings.session (around : Surroundings)
    (world : World View) : Session View :=
  ⟨world, around.readings, around.storeFates, around.executorFates⟩

/-- Run a program from a world. -/
def World.run {Value : Type} (world : World View) (around : Surroundings)
    (program : Step View Value) : Except CoordinationError Value × World View :=
  let ended := program.exec (around.session world)
  (ended.1, ended.2.world)

namespace System

variable (system : System View)

def withWorld (world : World View) : System View := { system with world }

/-- Move a flight to another stage. -/
def move (index : Nat) (flight : Flight View)
    (stage : Stage View) : System View :=
  { system with flights := system.flights.set index ⟨flight.job, stage⟩ }

/-- A flight is over. -/
def land (index : Nat) : System View := { system with flights := system.flights.eraseIdx index }

/-- A job that was admitted is on its way. -/
def launch : Option ProbeJob → System View
  | some job => { system with flights := system.flights ++ [⟨job, .admitted⟩] }
  | none => system

variable (shared : Shared View)

variable (around : Surroundings) (index : Nat) (flight : Flight View)

def request (capability : Capability) (observedGeneration : Nat) (force : Bool)
    (nowEpoch : Int) :
    System View :=
  let (result, world) := system.world.run around
    (requestRefresh shared capability observedGeneration force nowEpoch)
  (system.withWorld world).launch (match result with
    | .ok (_, job) => job
    | .error _ => none)

/-- Hand an admitted job to the workers, or find the queue full. -/
def send (accepted : Bool) : System View :=
  if accepted then system.move index flight .queued
  else
    let reading := nextReading around.readings
    let epoch := flight.job.admittedAtEpoch
    (system.withWorld (system.world.sample reading epoch)).move index flight
      (.rejected (system.world.sampleOf reading epoch))

def failUnsent (finishedAt : ClockSample) : System View :=
  let (_, world) := system.world.run around (finishFailure shared flight.job .unavailable
      "usage coordinator queue is unavailable" none finishedAt false)
  (system.withWorld world).land index

def mark : System View :=
  let (result, world) := system.world.run around (markUpdating shared flight.job)
  match result with
  | .ok (some invokedAtEpoch) => (system.withWorld world).move index flight (.marked invokedAtEpoch)
  | _ => (system.withWorld world).land index

/-- The provider is called. -/
def call (invokedAtEpoch : Int) : System View :=
  let world := system.world.tick (nextReading around.readings)
  (system.withWorld (world.note (.invoked flight.job.capability world.elapsed))).move index
      flight (.calling invokedAtEpoch world.elapsed)

/-- The provider has answered; the worker reads the clock. -/
def answer (invokedAtEpoch : Int)
    (startedAt : Nat) (outcome : ProbeOutcome View)
    (providerElapsed : Nat) : System View :=
  let reading := nextReading around.readings
  let epoch := addI64 invokedAtEpoch (toI64 (asSecs providerElapsed))
  (system.withWorld (system.world.sample reading epoch)).move index flight
    (.answered startedAt outcome providerElapsed (system.world.sampleOf reading epoch))

def finish (outcome : ProbeOutcome View) (providerElapsed : Nat)
    (finishedAt : ClockSample) : System View :=
  let (_, world) := system.world.run around
    (finishProbe shared flight.job outcome providerElapsed finishedAt)
  (system.withWorld world).land index

/-- A thread takes the step its flight is ready for. -/
def onFlight (step : FlightStep View) : System View :=
  match step, flight.stage with
  | .send accepted, .admitted => system.send around index flight accepted
  | .failUnsent, .rejected finishedAt => system.failUnsent shared around index flight finishedAt
  | .mark, .queued => system.mark shared around index flight
  | .call, .marked invokedAtEpoch => system.call around index flight invokedAtEpoch
  | .answer outcome providerElapsed, .calling invokedAtEpoch startedAt =>
    system.answer around index flight invokedAtEpoch startedAt outcome providerElapsed
  | .finish, .answered _ outcome providerElapsed finishedAt =>
    system.finish shared around index flight outcome providerElapsed finishedAt
  | _, _ => system

def after : Event View → System View
  | .request capability observedGeneration force nowEpoch =>
    system.request shared around capability observedGeneration force nowEpoch
  | .load capability nowEpoch =>
    system.withWorld (system.world.run around (ensureLoaded shared capability nowEpoch)).2
  | .reconcile catalogRevision entries nowEpoch =>
    system.withWorld (system.world.run around
        (reconcileCatalogTransactionWithRevision catalogRevision entries nowEpoch)).2
  | .flight index step =>
    match system.flights[index]? with
    | some flight => system.onFlight shared around index flight step
    | none => system

/-- The system after a history, each event with its surroundings. -/
def play (history : List (Surroundings × Event View)) : System View :=
  history.foldl (fun system step => system.after shared step.1 step.2) system

end System

end Jackin.Coordinator
