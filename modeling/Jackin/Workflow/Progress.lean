import Jackin.Workflow.Moves

/-!
# Progress of runs

A run goes through the stages of a round in order, and from one round to the
next.  One change of the store leaves all runs as they are, creates the first
open run under a new key, or moves an open run to the same or a later
position.  A command appears only where the operation is one that queues
input.  Acceptance is a move of its own, on a run that stands at the decision.
-/

namespace Jackin.Workflow

open Foundation

/-- The operation id of the effect with this number of a run. -/
def plannedId (runId : String) (kind : EffectKind) (count : Nat) : String :=
  runId ++ ":" ++ kind.asStr ++ ":" ++ toString count

/--
Effects stay under their ids, with their run, kind and label; a new one
belongs to a stored run and has one of its ids.
-/
structure EffectsProgress (runs : Table StoredRun.runId)
    (before after : Table StoredEffect.operationId) : Prop where
  kept : ∀ operationId effect, before.find? operationId = some effect →
      ∃ later, after.find? operationId = some later ∧ later.runId = effect.runId ∧
        later.kind = effect.kind ∧ later.ownershipLabel = effect.ownershipLabel
  planned : ∀ operationId effect, after.find? operationId = some effect →
      before.find? operationId = none → (runs.find? effect.runId).isSome ∧
          ∃ count, operationId = plannedId effect.runId effect.kind count

namespace EffectsProgress

theorem refl : EffectsProgress runs effects effects where
  kept _ effect found := ⟨effect, found, rfl, rfl, rfl⟩
  planned _ effect found missing := by
    rw [missing] at found
    cases found

theorem insert (owned : (runs.find? runId).isSome)
    (inserted : effects.insert?
      (.planned runId (plannedId runId kind count) kind label) = some after) :
    EffectsProgress runs effects after where
  kept operationId effect found :=
    ⟨effect, Table.find?_insert?_of_found inserted found, rfl, rfl, rfl⟩
  planned operationId effect found missing := by
    rw [Table.find?_of_insert? inserted] at found
    split at found
    · rename_i here
      cases found
      exact ⟨owned, count, here.symm⟩
    · rw [missing] at found
      cases found

theorem update :
    EffectsProgress runs effects
      (settledEffects effects operationId status identity preservation) where
  kept wanted effect found := by
    rw [Table.find?_update]
    split
    · rw [found]
      exact ⟨_, rfl, rfl, rfl, rfl⟩
    · exact ⟨effect, found, rfl, rfl, rfl⟩
  planned wanted effect found missing := by
    rw [Table.find?_update, missing] at found
    split at found <;> cases found

end EffectsProgress

/-! ## Changes -/

/--
A transition stays in the round, at its stage or a later one, or it begins
the next round of the budget with its implementation.
-/
def Onward (run : StoredRun) (transition : RunTransition) : Prop :=
  (transition.round = run.round ∧ run.stage.rank ≤ transition.stage.rank) ∨
    (transition.stage = .implement ∧ transition.round = run.round + 1 ∧
      transition.round ≤ run.maxRepairTurns)

theorem Onward.here (round : transition.round = run.round)
    (stage : transition.stage = run.stage) :
    Onward run transition :=
  .inl ⟨round, le_of_eq (congrArg Stage.rank stage.symm)⟩

/-- No command appears under a new id. -/
def NoneQueued (before after : Table StoredCommand.commandId) : Prop :=
  ∀ commandId, before.find? commandId = none → after.find? commandId = none

theorem NoneQueued.update
    : NoneQueued commands (changedCommands commands commandId state receipt resolution) := by
  intro wanted missing
  rw [Table.find?_update, missing]
  split <;> rfl

/--
One change of the store, as far as runs and their plans go.  Commands are
added and runs are created only by operations that are there for it.
-/
inductive Progress (queues starts : Prop) (before after : World) : Prop where
  | settled (runs : after.db.runs = before.db.runs)
      (commands : NoneQueued before.db.commands after.db.commands)
      (effects : EffectsProgress before.db.runs before.db.effects after.db.effects)
  | queued (allowed : queues) (runs : after.db.runs = before.db.runs)
      (effects : after.db.effects = before.db.effects)
  | created {run : StoredRun} (allowed : starts)
      (active : run.status = .active)
      (stage : run.stage = .prepare)
      (round : run.round = 0)
      (idle : before.db.activeRun = none)
      (unkeyed : before.db.runByKey run.idempotencyKey = none)
      (inserted : before.db.runs.insert? run = some after.db.runs)
      (commands : after.db.commands = before.db.commands)
      (effects : after.db.effects = before.db.effects)
  | moved (epoch : Nat) (isOpen : OpenRun before run)
      (onward : Onward run transition)
      (unaccepted : transition.status ≠ .accepted)
      (runs : after.db.runs = movedRuns before.db.runs run.runId transition epoch)
      (commands : after.db.commands = before.db.commands)
      (effects : EffectsProgress before.db.runs before.db.effects after.db.effects)

/-- The rows of runs, commands and effects are the same. -/
theorem Progress.unchanged {queues starts : Prop}
    (runs : after.db.runs = before.db.runs)
    (commands : after.db.commands = before.db.commands)
    (effects : after.db.effects = before.db.effects) :
    Progress queues starts before after := by
  refine .settled runs ?_ ?_
  · rw [commands]
    exact fun _ => id
  · rw [effects]
    exact .refl

/-- The acceptance of a run that stands at the decision. -/
structure Decided (run : StoredRun) (before after : World) : Prop where
  isOpen : OpenRun before run
  stage : run.stage = .decide
  accepted : ∃ transition epoch events,
    transition.runId = run.runId ∧ transition.status = .accepted ∧
      transition.stage = run.stage ∧ transition.round = run.round ∧
      after = before.transitioned transition epoch events before.db.effects

/-- An acceptance changes one run and nothing else of concern here. -/
theorem Decided.moved (decided : Decided run before after) :
    ∃ transition epoch, Onward run transition ∧ transition.status = .accepted ∧
      after.db.runs = movedRuns before.db.runs run.runId transition epoch ∧
      after.db.commands = before.db.commands ∧
      after.db.effects = before.db.effects := by
  obtain ⟨transition, epoch, _, own, accepted, stage, round, rfl⟩ := decided.accepted
  refine ⟨transition, epoch, .here round stage, accepted, ?_, rfl, rfl⟩
  rw [World.transitioned, own]

/-- The operations that put new input into the store. -/
def Operation.queues : Operation → Prop
  | .resolveInput _ _ decision _ _ => decision = .submitNew
  | .recordDispatchIntent _ _ _ _ _ => True
  | _ => False

/-- The operation that creates runs. -/
def Operation.starts : Operation → Prop
  | .startRun _ _ _ => True
  | _ => False

/-- The host's observation that a run has been verified. -/
def Operation.decides (operation : Operation) (runId : String) : Prop :=
  ∃ expectedVersion expectedPolicyHash,
    operation = .advanceRun runId expectedVersion "host" "verified_current" expectedPolicyHash

/-- What a call does: progress, or the acceptance of one run. -/
def Advances (operation : Operation) (before after : World) : Prop :=
  Relation.ReflTransGen (Progress operation.queues operation.starts) before after ∨
    ∃ run, operation.decides run.runId ∧ Decided run before after

end Jackin.Workflow
