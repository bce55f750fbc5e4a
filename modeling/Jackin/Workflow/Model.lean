import Mathlib

/-!
# The run reducer

A workflow run has a status, a stage and a repair round.  `advance` is the
single reducer that turns a host or worker observation into the next state,
or refuses it.  The stored columns are the texts of these enumerations; each
text parses back to the value it was written from, so the store below keeps
the values themselves.
-/

namespace Jackin.Workflow

/-- The classes of failure a caller can tell apart. -/
inductive ErrorKind where
  | invalid
  | notFound
  | busy
  | staleVersion
  | staleEpoch
  | blocked
  | storage
  deriving DecidableEq

/-- A failure with its class and its text. -/
structure WorkflowError where
  kind : ErrorKind
  message : String
  deriving DecidableEq

namespace WorkflowError

def invalid (message : String) : WorkflowError := ⟨.invalid, message⟩
def notFound (message : String) : WorkflowError := ⟨.notFound, message⟩
def busy (message : String) : WorkflowError := ⟨.busy, message⟩
def staleVersion (message : String) : WorkflowError := ⟨.staleVersion, message⟩
def staleEpoch (message : String) : WorkflowError := ⟨.staleEpoch, message⟩
def blocked (message : String) : WorkflowError := ⟨.blocked, message⟩
def storage (message : String) : WorkflowError := ⟨.storage, message⟩

end WorkflowError

inductive RunStatus where
  | active
  | paused
  | needsOperator
  | accepted
  | failed
  | cancelled
  deriving DecidableEq

def RunStatus.isTerminal : RunStatus → Bool
  | .accepted | .failed | .cancelled => true
  | .active | .paused | .needsOperator => false

inductive Stage where
  | prepare
  | implement
  | capture
  | test
  | review
  | decide
  deriving DecidableEq

def Stage.asStr : Stage → String
  | .prepare => "prepare"
  | .implement => "implement"
  | .capture => "capture"
  | .test => "test"
  | .review => "review"
  | .decide => "decide"

/-- How far a prompt has come. -/
inductive CommandState where
  | queued
  | dispatching
  | written
  | turnEnded
  | deliveryUnknown
  deriving DecidableEq

inductive EffectKind where
  | launch
  | capture
  | backup
  deriving DecidableEq

def EffectKind.asStr : EffectKind → String
  | .launch => "launch"
  | .capture => "capture"
  | .backup => "backup"

inductive EffectStatus where
  | intended
  | adopted
  | dispatched
  | done
  | abandoned
  deriving DecidableEq

/-! ## Observations and the reducer -/

inductive Actor where
  | host
  | worker
  deriving DecidableEq

/-- What is reported about a run. -/
inductive Observation where
  | turnStarted
  | turnEnded
  | testStarted
  | testPassed
  | testFailed
  | reviewPassed
  | reviewFailed
  | infraFailed
  | sessionLost
  | uncertainDelivery
  | captureStalled
  | verifiedCurrent
  deriving DecidableEq

/-- What the reducer reads of a run. -/
structure RunView where
  status : RunStatus
  stage : Stage
  round : Nat
  candidateGeneration : Nat

/-- What the reducer decides for a run. -/
structure NextState where
  status : RunStatus
  stage : Stage
  round : Nat
  eventKind : String

/-- The reason the reducer gives for refusing an observation. -/
structure ReducerRefusal where
  reason : String

/-- Move to a stage when the run is at the stage the observation expects. -/
private def advanceStage (view : RunView) (expected next : Stage)
    (eventKind refusal : String) : Except ReducerRefusal NextState :=
  if view.stage ≠ expected then .error ⟨refusal⟩
  else .ok ⟨view.status, next, view.round, eventKind⟩

/-- Hand the run to the operator where it stands. -/
private def escalate (view : RunView) (eventKind : String) : NextState :=
  ⟨.needsOperator, view.stage, view.round, eventKind⟩

/-- A failed test or review spends a repair round or ends the run. -/
private def repairOrFail (view : RunView) (maxRepairTurns : Nat) :
    Except ReducerRefusal NextState :=
  if view.stage ≠ .test ∧ view.stage ≠ .review then
    .error ⟨"verification result outside test/review"⟩
  else if view.round < maxRepairTurns then
    .ok ⟨view.status, .implement, view.round + 1, "repair_turn"⟩
  else .ok ⟨.failed, view.stage, view.round, "repair_budget_exhausted"⟩

/-- The reducer: the next state for one observation, or its refusal. -/
def advance (view : RunView) (maxRepairTurns : Nat) (observation : Observation)
    (actor : Actor) :
    Except ReducerRefusal NextState :=
  if view.status.isTerminal then .error ⟨"run is terminal"⟩
  else if view.status = .needsOperator then .error ⟨"run needs operator resolution first"⟩
  else if view.status = .paused ∧ observation ≠ .turnEnded then
    .error ⟨"run is paused; only an in-deadline turn may finish"⟩
  else
    match observation with
    | .turnStarted =>
      advanceStage view .prepare .implement "turn_started" "turn start outside the prepare stage"
    | .testStarted =>
      advanceStage view .capture .test "test_started" "test start outside the capture stage"
    | .turnEnded =>
      advanceStage view .implement .capture "turn_ended" "turn end outside the implement stage"
    | .testPassed =>
      advanceStage view .test .review "test_passed" "test result outside the test stage"
    | .testFailed | .reviewFailed => repairOrFail view maxRepairTurns
    | .reviewPassed =>
      advanceStage view .review .decide "review_passed" "review result outside the review stage"
    | .verifiedCurrent =>
      if actor ≠ .host then .error ⟨"only the host can accept a run"⟩
      else if view.stage ≠ .decide then .error ⟨"acceptance requires the decide stage"⟩
      else .ok ⟨.accepted, .decide, view.round, "accepted"⟩
    | .infraFailed => .ok (escalate view "infra_failed")
    | .sessionLost => .ok (escalate view "session_lost")
    | .uncertainDelivery => .ok (escalate view "uncertain_delivery")
    | .captureStalled => .ok (escalate view "capture_stalled")

variable {view : RunView} {maxRepairTurns : Nat} {observation : Observation}
    {actor : Actor}
    {next : NextState}

/-- The order in which a round goes through its stages. -/
def Stage.rank : Stage → Nat
  | .prepare => 0
  | .implement => 1
  | .capture => 2
  | .test => 3
  | .review => 4
  | .decide => 5

theorem Stage.rank_injective : Function.Injective Stage.rank := by
  intro first second same
  cases first <;> cases second <;> first | rfl | cases same

/-- Where a run stands: its round first, then the stage within the round. -/
def position (round : Nat) (stage : Stage) : ℕ ×ₗ ℕ := toLex (round, stage.rank)

theorem position_le_iff {round later} {next} :
    position round stage ≤ position later next ↔
      round < later ∨ round = later ∧ stage.rank ≤ next.rank :=
  Prod.Lex.toLex_le_toLex

theorem position_inj {round later} {next}
    (same : position round stage = position later next) :
    round = later ∧ stage = next := by
  have components := Prod.mk.inj (toLex.injective same)
  exact ⟨components.1, Stage.rank_injective components.2⟩

variable (view maxRepairTurns observation actor) in
/-- The decisions of the reducer on an observation of an actor. -/
inductive Decides : NextState → Prop where
  | advanced (next : Stage) (eventKind : String) (ordinary : observation ≠ .verifiedCurrent)
      (forward : view.stage.rank ≤ next.rank) :
      Decides ⟨view.status, next, view.round, eventKind⟩
  | repaired (ordinary : observation ≠ .verifiedCurrent) (within : view.round < maxRepairTurns) :
      Decides ⟨view.status, .implement, view.round + 1, "repair_turn"⟩
  | stopped (status : RunStatus) (eventKind : String) (ordinary : observation ≠ .verifiedCurrent)
      (unaccepted : status ≠ .accepted) :
      Decides ⟨status, view.stage, view.round, eventKind⟩
  | accepted (verified : observation = .verifiedCurrent)
      (host : actor = .host) (decides : view.stage = .decide) :
      Decides ⟨.accepted, .decide, view.round, "accepted"⟩

private theorem advanceStage_decides (forward : expected.rank ≤ stage.rank)
    (ordinary : observation ≠ .verifiedCurrent)
    (advanced : advanceStage view expected stage eventKind refusal = .ok next) :
    Decides view maxRepairTurns observation actor next := by
  unfold advanceStage at advanced
  split at advanced
  · cases advanced
  · rename_i here
    cases advanced
    rw [← not_not.mp here] at forward
    exact .advanced stage eventKind ordinary forward

private theorem repairOrFail_decides (ordinary : observation ≠ .verifiedCurrent)
    (advanced : repairOrFail view maxRepairTurns = .ok next) :
    Decides view maxRepairTurns observation actor next := by
  unfold repairOrFail at advanced
  split at advanced
  · cases advanced
  split at advanced
  · rename_i within
    cases advanced
    exact .repaired ordinary within
  · cases advanced
    exact .stopped _ _ ordinary (by decide)

section

variable (advanced : advance view maxRepairTurns observation actor = .ok next)
include advanced

/-- A run that is not terminal, and one of the decisions. -/
theorem advance_decides :
    view.status.isTerminal = false ∧
      Decides view maxRepairTurns observation actor next := by
  unfold advance at advanced
  split at advanced
  · cases advanced
  rename_i nonterminal
  refine ⟨by simpa using nonterminal, ?_⟩
  split at advanced
  · cases advanced
  split at advanced
  · cases advanced
  cases observation with
  | turnStarted | turnEnded | testStarted | testPassed | reviewPassed =>
    exact advanceStage_decides (by decide) (by decide) advanced
  | testFailed | reviewFailed => exact repairOrFail_decides (by decide) advanced
  | infraFailed | sessionLost | uncertainDelivery | captureStalled =>
    cases advanced
    exact .stopped _ _ (by decide) (by decide)
  | verifiedCurrent =>
    dsimp only at advanced
    split at advanced
    · cases advanced
    split at advanced
    · cases advanced
    rename_i host decided
    cases advanced
    exact .accepted rfl (not_not.mp host) (not_not.mp decided)

/-- Only the host's verification observation reaches acceptance. -/
theorem advance_accepted (accepted : next.status = .accepted) :
    observation = .verifiedCurrent ∧ actor = .host ∧ view.stage = .decide := by
  obtain ⟨nonterminal, decides⟩ := advance_decides advanced
  cases decides with
  | advanced | repaired =>
    rw [show view.status = .accepted from accepted] at nonterminal
    cases nonterminal
  | stopped _ _ _ unaccepted => exact absurd accepted unaccepted
  | accepted verified host decides => exact ⟨verified, host, decides⟩

end

/-- The verification observation leads to acceptance or is refused. -/
theorem advance_verifiedCurrent
    (advanced : advance view maxRepairTurns .verifiedCurrent actor = .ok next) :
    view.stage = .decide ∧ next = ⟨.accepted, .decide, view.round, "accepted"⟩ := by
  cases (advance_decides advanced).2 with
  | advanced _ _ ordinary | repaired ordinary | stopped _ _ ordinary => exact absurd rfl ordinary
  | accepted _ _ decides => exact ⟨decides, rfl⟩

/--
The reducer stays in the round, at its stage or a later one, or it begins the
implementation of the next round and spends a repair turn of the budget.
-/
theorem advance_onward (advanced : advance view maxRepairTurns observation actor = .ok next) :
    (next.round = view.round ∧ view.stage.rank ≤ next.stage.rank) ∨
      (next.stage = .implement ∧ next.round = view.round + 1 ∧ next.round ≤ maxRepairTurns) := by
  cases (advance_decides advanced).2 with
  | advanced _ _ _ forward => exact .inl ⟨rfl, forward⟩
  | repaired _ within => exact .inr ⟨rfl, rfl, within⟩
  | stopped => exact .inl ⟨rfl, Nat.le_refl _⟩
  | accepted _ _ decides => exact .inl ⟨rfl, by rw [decides]⟩

/-- A failed test starts the next round while the budget lasts. -/
theorem advance_testFailed {round} (within : round < maxRepairTurns) :
    advance ⟨.active, .test, round, generation⟩ maxRepairTurns .testFailed actor =
      .ok ⟨.active, .implement, round + 1, "repair_turn"⟩ := by
  simp [advance, repairOrFail, RunStatus.isTerminal, within]

end Jackin.Workflow
