import Jackin.Workflow.Backend

/-!
# The protocol of the run store

The abstract protocol says which changes of the world may follow one another.
A finished run never changes.  A run that is not finished may be moved, but
not to acceptance; its candidate and the source of its checkpoints may only be
exchanged for runs that are being re-pointed; a verdict is stored only for an
open run, and only after the corresponding action on the commit and tree of
the candidate's checkpoint; a backup becomes known only after its commit was
confirmed; a command whose delivery is uncertain stays uncertain.

Acceptance is a change of its own, with everything the decision was made on.
-/

namespace Jackin.Workflow

open Foundation Table

variable {world : World}

/-- The journal supports a verdict on a commit and tree. -/
def Witnessed (journal : List Occurrence) (row : StoredEvidence)
    (commit tree : String) : Prop :=
  match row.kind with
  | .test => ∃ hash passed, .testRun row.runId row.candidate commit tree hash passed ∈ journal ∧
        row.policyHash = some hash ∧
        row.result = if passed then .pass else .fail
  | .review => .reviewValidated row.runId row.candidate commit tree row.result ∈ journal

/-- A longer journal supports what a shorter one does. -/
theorem Witnessed.mono (witnessed : Witnessed shorter row commit tree)
    (extends' : shorter ⊆ longer) : Witnessed longer row commit tree := by
  unfold Witnessed at witnessed ⊢
  cases kind : row.kind with
  | test =>
    simp only [kind] at witnessed ⊢
    obtain ⟨hash, passed, noted, policy, result⟩ := witnessed
    exact ⟨hash, passed, extends' noted, policy, result⟩
  | review =>
    simp only [kind] at witnessed ⊢
    exact extends' witnessed

/-- The run is stored and not finished. -/
def OpenRun (world : World) (run : StoredRun) : Prop :=
  world.db.runs.find? run.runId = some run ∧ run.status.isTerminal = false

theorem OpenRun.of_find (found : world.db.runs.find? runId = some run)
    (nonterminal : run.status.isTerminal = false) :
    OpenRun world run ∧ run.runId = runId := by
  have key : run.runId = runId := key_of_find? found
  refine ⟨⟨?_, nonterminal⟩, key⟩
  rwa [key]

/-- The command is an uncertain one of the run. -/
def Uncertain (world : World) (runId commandId : String) : Prop :=
  ∃ command, world.db.commands.find? commandId = some command ∧
      command.runId = runId ∧ command.state = .deliveryUnknown

/-- No uncertain command is lost or becomes certain. -/
def UncertaintyKept (before after : Table StoredCommand.commandId) : Prop :=
  ∀ commandId command, before.find? commandId = some command → command.state = .deliveryUnknown →
      ∃ kept, after.find? commandId = some kept ∧
        kept.state = .deliveryUnknown ∧ kept.runId = command.runId

theorem UncertaintyKept.insert (inserted : before.insert? row = some after) :
    UncertaintyKept before after := by
  intro commandId command found uncertain
  exact ⟨command, find?_insert?_of_found inserted found, uncertain, rfl⟩

/-- Changing a command that is not uncertain, or leaving it uncertain. -/
theorem UncertaintyKept.update
    (harmless : state = .deliveryUnknown ∨
      ∀ command, before.find? commandId = some command → command.state ≠ .deliveryUnknown) :
    UncertaintyKept before (changedCommands before commandId state receipt resolution) := by
  intro wanted command found uncertain
  rw [find?_update]
  split
  · rename_i same
    rcases harmless with rfl | certain
    · rw [found]
      exact ⟨_, rfl, rfl, rfl⟩
    · rw [same] at found
      exact absurd uncertain (certain command found)
  · exact ⟨command, found, uncertain, rfl⟩

/-- The effect is done, or names what it made. -/
def StoredEffect.isKnown (effect : StoredEffect) : Bool :=
  effect.status == .done || effect.externalIdentity.isSome

/-- Some backup of the run is known. -/
def BackupKnown (world : World) (runId : String) : Prop :=
  ∃ operationId effect, world.db.effects.find? operationId = some effect ∧ effect.runId = runId ∧
      effect.kind = .backup ∧ effect.isKnown

/-- The commit of the run's current candidate was confirmed at a remote. -/
def BackupConfirmed (world : World) (runId : String) : Prop :=
  ∀ run candidate checkpoint, world.db.runs.find? runId = some run →
      run.candidate = some candidate →
      world.db.checkpoints.find? (runId, candidate) = some checkpoint →
        ∃ remote gitRef, .backupConfirmed runId checkpoint.commitHash remote gitRef ∈ world.journal

/--
Effects keep their run and kind, known effects stay known, and a backup that
becomes known has a confirmed commit.
-/
structure EffectsFollow (world : World)
    (after : Table StoredEffect.operationId) : Prop where
  kept : ∀ operationId effect, world.db.effects.find? operationId = some effect →
      ∃ later, after.find? operationId = some later ∧ later.runId = effect.runId ∧
        later.kind = effect.kind ∧ (effect.isKnown → later.isKnown)
  confirmed : ∀ operationId effect, after.find? operationId = some effect → effect.kind = .backup →
      effect.isKnown → BackupKnown world effect.runId ∨ BackupConfirmed world effect.runId

theorem EffectsFollow.refl : EffectsFollow world world.db.effects where
  kept _ effect found := ⟨effect, found, rfl, rfl, id⟩
  confirmed operationId effect found backup known :=
    .inl ⟨operationId, effect, found, rfl, backup, known⟩

/-- A planned effect is not yet known. -/
theorem EffectsFollow.insert
    (inserted : world.db.effects.insert?
      (.planned runId operationId kind label) = some effects) :
    EffectsFollow world effects where
  kept wanted effect found := ⟨effect, find?_insert?_of_found inserted found, rfl, rfl, id⟩
  confirmed wanted effect found backup known := by
    rw [find?_of_insert? inserted] at found
    split at found
    · cases found
      cases known
    · exact .inl ⟨wanted, effect, found, rfl, backup, known⟩

/-- An effect that becomes known was a known or confirmed backup. -/
theorem EffectsFollow.update (found : world.db.effects.find? operationId = some effect)
    (settles : (effect.settled status identity preservation).isKnown)
    (justified : effect.kind = .backup →
      BackupKnown world effect.runId ∨ BackupConfirmed world effect.runId) :
    EffectsFollow world
      (settledEffects world.db.effects operationId status identity preservation) where
  kept wanted stored present := by
    rw [find?_update]
    split
    · rw [present]
      exact ⟨_, rfl, rfl, rfl, fun _ => settles⟩
    · exact ⟨stored, present, rfl, rfl, id⟩
  confirmed wanted later present backup known := by
    rw [find?_update] at present
    split at present
    · rename_i same
      rw [same, found, Option.map_some, Option.some.injEq] at present
      subst present
      exact justified backup
    · exact .inl ⟨wanted, later, present, rfl, backup, known⟩

/--
What a call is there for: the runs whose candidate or source it may exchange,
the checkpoints it may write, what it may note, and whether it queues
commands and starts runs.
-/
structure Permits where
  repoints : String → Prop
  captures : String × String → Prop
  notes : Occurrence → Prop
  queues : Prop
  starts : Prop

/-- Nothing of this is permitted. -/
def Permits.none : Permits :=
  ⟨fun _ => False, fun _ => False, fun _ => False, False, False⟩

/-- One permitted change. -/
inductive Move (permits : Permits) (world : World) : World → Prop where
  | opened : Move permits world { world with db := { world.db with ownerEpoch := epoch } }
  | logged : Move permits world { world with db := { world.db with events, sessions } }
  | noted (allowed : permits.notes occurrence) :
      Move permits world { world with journal := world.journal ++ [occurrence] }
  | effects (follows : EffectsFollow world effects) :
      Move permits world { world with db := { world.db with events, effects } }
  | commands (kept : UncertaintyKept world.db.commands commands) :
      Move permits world { world with db := { world.db with events, commands } }
  | created {run : StoredRun} (active : run.status = .active)
      (empty : run.candidate = none)
      (inserted : world.db.runs.insert? run = some runs) :
      Move permits world { world with db := { world.db with events, runs } }
  | moved {transition : RunTransition} (isOpen : OpenRun world run)
      (same : transition.runId = run.runId)
      (unaccepted : transition.status ≠ .accepted)
      (candidate : transition.candidate = run.candidate ∨ permits.repoints run.runId)
      (follows : EffectsFollow world effects) :
      Move permits world (world.transitioned transition epoch events effects)
  | recaptured {checkpoint : StoredCheckpoint} (isOpen : OpenRun world run)
      (same : checkpoint.runId = run.runId)
      (found : world.db.checkpoints.find? checkpoint.key = some previous)
      (commit : previous.commitHash = checkpoint.commitHash)
      (tree : previous.treeHash = checkpoint.treeHash)
      (place : previous.sourceManifest = checkpoint.sourceManifest ∧
        previous.localPath = checkpoint.localPath ∨ permits.captures checkpoint.key) :
      Move permits world
        { world with db := { world.db with checkpoints := world.db.checkpoints.upsert checkpoint } }
  | captured {checkpoint : StoredCheckpoint} (isOpen : OpenRun world run)
      (same : checkpoint.runId = run.runId)
      (repointed : permits.repoints run.runId)
      (captures : permits.captures checkpoint.key)
      (unverified : checkpoint.commitHash = "preserved" ∨
        ¬world.hasVerdict checkpoint.runId checkpoint.candidate) :
      Move permits world
        { world with db := { world.db with checkpoints := world.db.checkpoints.upsert checkpoint } }
  | verdict {row : StoredEvidence} (isOpen : OpenRun world run)
      (same : row.runId = run.runId)
      (found : world.db.checkpoints.find? (row.runId, row.candidate) = some checkpoint)
      (witnessed : Witnessed world.journal row checkpoint.commitHash checkpoint.treeHash)
      (inserted : world.db.evidence.insert? row = some evidence) :
      Move permits world { world with db := { world.db with evidence } }
  | discarded :
      Move permits world
        { world with
          db := { world.db with evidence := world.db.evidence.delete (isPartial runId candidate) } }

/-- What an acceptance of a candidate under a policy hash is made on. -/
structure Acceptable (world : World) (run : StoredRun)
    (candidate hash : String) : Prop where
  isOpen : OpenRun world run
  current : run.candidate = some candidate
  named : hash ≠ ""
  verdicts : ∃ checkpoint test review,
    world.db.checkpoints.find? (run.runId, candidate) = some checkpoint ∧
    Text.isHexadecimal checkpoint.commitHash ∧
    world.db.evidence.find? (run.runId, candidate, .test) = some test ∧
    world.db.evidence.find? (run.runId, candidate, .review) = some review ∧
    test.result = .pass ∧ review.result = .pass ∧
    test.policyHash = some hash ∧ review.policyHash = some hash
  backedUp : BackupKnown world run.runId
  certain : world.db.commandsIn run.runId .deliveryUnknown = []

/-- The change of an acceptance. -/
def Accepts (run : StoredRun) (candidate hash : String)
    (before after : World) : Prop :=
  Acceptable before run candidate hash ∧ ∃ transition epoch events effects,
      transition.runId = run.runId ∧ transition.status = .accepted ∧
        transition.candidate = run.candidate ∧ EffectsFollow before effects ∧
        after = before.transitioned transition epoch events effects

/-- Any change of the protocol: a move or an acceptance. -/
inductive Change (permits : Permits) (before after : World) : Prop where
  | move (move : Move permits before after)
  | accept {hash : String} (accepts : Accepts run candidate hash before after)

end Jackin.Workflow
