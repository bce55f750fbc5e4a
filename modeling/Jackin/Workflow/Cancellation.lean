import Jackin.Workflow.Acceptance

/-!
# What cancellation does to captured work

Before it moves the run, cancellation writes a checkpoint row of its own for
the current candidate: commit, tree and local path become the word
`preserved`, and the manifest a fixed label.  The row replaces what
`record_checkpoint` stored, and it stays when the move that follows fails.

The ledger of a history holds what `record_checkpoint` stored last for each
candidate, and whether a cancelling call has written over it since.
-/

namespace Jackin.Workflow

open Foundation
open Program (final_cases final_ensure)

variable {candidate actor : String} {store : RunStore}
    {world before after : World}
    {key : String × String} {session : Session} {service : Service}

/-- Where the work of a candidate is to be found. -/
structure Source where
  commitHash : String
  treeHash : String
  sourceManifest : String
  localPath : String
  deriving DecidableEq

def StoredCheckpoint.source (checkpoint : StoredCheckpoint) : Source :=
  ⟨checkpoint.commitHash, checkpoint.treeHash, checkpoint.sourceManifest, checkpoint.localPath⟩

/-- What a cancellation writes in its place. -/
def Source.preserved : Source :=
  ⟨"preserved", "preserved", "cancel-preserved-source", "preserved"⟩

/-- The source that the store has for a candidate of a run. -/
def World.source (world : World) (key : String × String) : Option Source :=
  (world.db.checkpoints.find? key).map StoredCheckpoint.source

/-- The source after a checkpoint was written. -/
theorem source_upsert
    (written : after.db.checkpoints = before.db.checkpoints.upsert checkpoint) :
    after.source key = if checkpoint.key = key then some checkpoint.source
      else before.source key := by
  rw [World.source, written, Table.find?_upsert]
  split <;> rfl

theorem source_of_checkpoints (same : after.db.checkpoints = before.db.checkpoints) :
    after.source key = before.source key := by
  rw [World.source, same, World.source]

/-- Only what may write a checkpoint exchanges its source. -/
theorem Change.source (change : Change permits before after)
    (uncaptured : ¬permits.captures key) :
    after.source key = before.source key := by
  cases change with
  | move move =>
    cases move with
    | recaptured _ _ found commit tree place =>
      rw [source_upsert rfl]
      split
      · rename_i here
        rw [here] at found place
        obtain ⟨manifest, path⟩ := place.resolve_right uncaptured
        rw [World.source, found, Option.map_some, StoredCheckpoint.source,
          StoredCheckpoint.source, commit, tree, manifest, path]
      · rfl
    | captured _ _ _ captures =>
      rw [source_upsert rfl, if_neg]
      rintro rfl
      exact uncaptured captures
    | _ => rfl
  | accept accepts =>
    obtain ⟨_, _, _, _, _, _, _, _, _, rfl⟩ := accepts
    rfl

theorem after_source (uncaptured : ¬event.permits.captures key) :
    (world.after event).source key = world.source key :=
  invariant_of_path (fun reached : World => reached.source key = world.source key) after_changes
    (fun _ _ change same => (change.source uncaptured).trans same) rfl

/-- The checkpoints after a sequence whose rest keeps them. -/
theorem bind_checkpoints {Value Result : Type} {method}
    {next : Value → Method Result}
    (rest : ∀ value reached, method.exec session = (.ok value, reached) →
      ((next value).exec reached).2.world.db.checkpoints = reached.world.db.checkpoints) :
    ((method >>= next).exec session).2.world.db.checkpoints =
      (method.exec session).2.world.db.checkpoints := by
  refine final_cases (fun reached : Session => reached.world.db.checkpoints = _) ?_ ?_
  · intro failure reached failed
    rw [failed]
  · intro value reached answered
    rw [rest value reached answered, answered]

theorem applyTransition_checkpoints :
    ((store.applyTransition transition).exec session).2.world.db.checkpoints =
      session.world.db.checkpoints := by
  refine applyTransition_changes.leaves (·.db.checkpoints = session.world.db.checkpoints) rfl ?_
  rintro _ ⟨_, _, _, _, _, _, rfl⟩
  rfl

theorem setCommandState_checkpoints :
    ((store.setCommandState commandId state receipt resolution).exec
        session).2.world.db.checkpoints = session.world.db.checkpoints := by
  refine setCommandState_changes.leaves (·.db.checkpoints = session.world.db.checkpoints) rfl ?_
  rintro _ ⟨_, _, _, rfl⟩
  rfl

theorem finish_checkpoints :
    (Program.exec (do
      store.appendEvent runId actor kind evidenceRef
      summaryOf summarized) session).2.world.db.checkpoints =
        session.world.db.checkpoints := by
  obtain ⟨_, world⟩ := appendEvent_world
  rw [bind_checkpoints, world]
  · rfl
  · intro _ _ _
    rw [summaryOf_reads.unchanged]

/-- The checkpoint is written with a commit that git can name, or none is. -/
def CheckpointRecorded (checkpoint : StoredCheckpoint)
    (before after : World) : Prop :=
  after.db.checkpoints = before.db.checkpoints ∨
    ∃ tree, Text.isHexadecimal checkpoint.commitHash ∧
      after.db.checkpoints = before.db.checkpoints.upsert { checkpoint with treeHash := tree }

theorem recordCheckpoint_records (service : Service)
    (checkpoint : StoredCheckpoint)
    (expectedVersion : Int) (session : Session) :
    CheckpointRecorded checkpoint session.world
      ((service.recordCheckpoint checkpoint expectedVersion).exec session).2.world := by
  have ends : (service.recordCheckpoint checkpoint expectedVersion).Leaves session
      fun reached => CheckpointRecorded checkpoint session.world reached.world := by
    refine requireOpenRun_reads.ends_bind (fun _ => .inl rfl) fun stored _ _ => ?_
    refine Reads.ensure.ends_bind (fun _ => .inl rfl) fun _ _ _ => ?_
    refine Reads.lift.ends_bind (fun _ => .inl rfl) fun tree _ verified => ?_
    refine Reads.ensure.ends_bind (fun _ => .inl rfl) fun _ _ _ => ?_
    refine checkUnchangedSource_reads.ends_bind (fun _ => .inl rfl) fun _ _ _ => ?_
    refine .of_final ?_
    rw [CheckpointRecorded, bind_checkpoints fun _ _ _ => finish_checkpoints]
    refine recordCheckpointRow_changes.leaves (CheckpointRecorded checkpoint session.world)
      (.inl rfl) ?_
    rintro _ rfl
    exact .inr ⟨tree, verifySource_hexadecimal verified, rfl⟩
  exact ends.final

/-! ## The cancelling calls -/

/-- The statements before a write answer, and the write is not refused. -/
def Written (count : Nat) (faults : List (Option Fault)) : Prop :=
  Unfaulted count faults ∧ ∀ reason, (remaining count faults).head?.join ≠ some (.refused reason)

/-- The run is open with the candidate. -/
def World.WorksOn (world : World) (runId candidate : String) : Prop :=
  ∃ run, world.db.runs.find? runId = some run ∧ run.status.isTerminal = false ∧
    run.candidate = some candidate

theorem World.WorksOn.unique (first : world.WorksOn runId candidate)
    (second : world.WorksOn runId other) : candidate = other := by
  obtain ⟨run, found, _, current⟩ := first
  obtain ⟨_, again, _, same⟩ := second
  cases Option.mem_unique found again
  exact Option.mem_unique current same

/-- The preserved row is written for the candidate that is reached, if any. -/
def Preserves (runId : String) (reached : String → Prop)
    (before after : World) : Prop :=
  (after.db.checkpoints = before.db.checkpoints ∧ ∀ candidate, ¬reached candidate) ∨
    ∃ candidate, reached candidate ∧
      after.db.checkpoints = before.db.checkpoints.upsert (preservedCheckpoint runId candidate)

theorem Preserves.congr {first second : String → Prop}
    (same : ∀ candidate, first candidate ↔ second candidate)
    (preserves : Preserves runId first before after) :
    Preserves runId second before after := by
  rwa [funext fun candidate => propext (same candidate)] at preserves

/-- The checkpoints after the preserved row was written or refused. -/
theorem preserveCandidate_checkpoints :
    let final := ((preserveCandidate runId (some candidate)).exec session).2.world
    ((∀ reason, session.faults.head?.join ≠ some (.refused reason)) ∧
        final.db.checkpoints =
          session.world.db.checkpoints.upsert (preservedCheckpoint runId candidate)) ∨
      ((∃ reason, session.faults.head?.join = some (.refused reason)) ∧
        final.db.checkpoints = session.world.db.checkpoints) := by
  intro final
  by_cases refused : ∃ reason, session.faults.head?.join = some (.refused reason)
  · obtain ⟨reason, fate⟩ := refused
    refine .inr ⟨⟨reason, fate⟩, ?_⟩
    dsimp only [final, preserveCandidate, recordCheckpointRow]
    rw [statement_world_of_refused fate]
  · have accepted : ∀ reason, session.faults.head?.join ≠ some (.refused reason) :=
      fun reason fate => refused ⟨reason, fate⟩
    refine .inl ⟨accepted, ?_⟩
    dsimp only [final, preserveCandidate, recordCheckpointRow]
    rw [statement_world_of_not_refused accepted rfl]

/-- What follows the preserved row keeps the checkpoints. -/
theorem cancelRun_tail_checkpoints :
    (Program.exec (do
      service.apply stored request
      service.store.appendEvent runId actor "cancel_reason" (some reason)
      summaryOf runId) session).2.world.db.checkpoints = session.world.db.checkpoints :=
  (bind_checkpoints fun _ _ _ => finish_checkpoints).trans applyTransition_checkpoints

/-- A cancellation reaches its row when the run is open with a candidate. -/
theorem cancelRun_preserves (service : Service) (runId actor reason : String)
    (session : Session) :
    Preserves runId
      (fun candidate => Written 1 session.faults ∧ session.world.WorksOn runId candidate)
      session.world ((service.cancelRun runId actor reason).exec session).2.world := by
  refine final_cases (fun reached : Session => Preserves runId _ session.world reached.world) ?_ ?_
  · intro failure reached loading
    have unchanged := requireRun_reads.ended loading
    refine .inl ⟨congrArg (·.db.checkpoints) unchanged, ?_⟩
    rintro _ ⟨⟨⟨fate, _⟩, _⟩, run, found, _⟩
    rw [requireRun_ok_iff.mpr ⟨fate, found, rfl⟩] at loading
    cases loading
  intro run reached loading
  obtain ⟨fate, found, rfl⟩ := requireRun_ok_iff.mp loading
  refine final_ensure (fun reached : Session => Preserves runId _ session.world reached.world) ?_ ?_
  · intro terminal
    refine .inl ⟨rfl, ?_⟩
    rintro _ ⟨_, other, otherFound, otherOpen, _⟩
    cases Option.mem_unique found otherFound
    rw [otherOpen] at terminal
    exact terminal Bool.false_ne_true
  intro nonterminal
  rw [Preserves, bind_checkpoints fun _ _ _ => cancelRun_tail_checkpoints]
  have isOpen : run.status.isTerminal = false := by simpa using nonterminal
  cases current : run.candidate with
  | none =>
    refine .inl ⟨rfl, ?_⟩
    rintro _ ⟨_, other, otherFound, _, otherCurrent⟩
    cases Option.mem_unique found otherFound
    rw [current] at otherCurrent
    cases otherCurrent
  | some candidate =>
    rcases preserveCandidate_checkpoints with
      ⟨accepted, checkpoints⟩ | ⟨⟨_, refused⟩, checkpoints⟩
    · exact .inr ⟨candidate, ⟨⟨⟨fate, trivial⟩, accepted⟩, run, found, isOpen, current⟩,
        checkpoints⟩
    · refine .inl ⟨checkpoints, ?_⟩
      rintro _ ⟨⟨_, accepted⟩, _⟩
      exact accepted _ refused

theorem setCommandState_unfaulted (unfaulted : Unfaulted 6 session.faults)
    (found : session.world.db.commands.find? commandId = some command) :
    ∃ reached, (store.setCommandState commandId state receipt resolution).exec
        session = (.ok (), reached) := by
  obtain ⟨events, inserted⟩ := numberedEvent_inserts
    (fun seq => ⟨command.runId, seq, store.now, "host", changedCommandEvent state, some commandId⟩)
    (fun _ => rfl) session.world.db
  exact ⟨_, setCommandState_ok_iff.mpr ⟨unfaulted, command, events, found, inserted, rfl⟩⟩

/-- The cancelling part of a decision, after its command was found. -/
theorem decidedCancel_preserves
    (found : session.world.db.commands.find? commandId = some command) :
    Preserves runId
      (fun candidate => Written 7 session.faults ∧ session.world.WorksOn runId candidate)
      session.world (Program.exec (do
        service.store.setCommandState commandId .deliveryUnknown receipt resolution
        service.cancelRun runId actor reason) session).2.world := by
  refine final_cases (fun reached : Session => Preserves runId _ session.world reached.world) ?_ ?_
  · intro failure reached changing
    have checkpoints := congrArg (fun outcome => outcome.2.world.db.checkpoints) changing
    refine .inl ⟨checkpoints.symm.trans setCommandState_checkpoints, ?_⟩
    rintro _ ⟨⟨unfaulted, _⟩, _⟩
    obtain ⟨_, answered⟩ := setCommandState_unfaulted ((unfaulted_add 6 1).mp unfaulted).1 found
    rw [changing] at answered
    cases answered
  · intro value reached changing
    obtain ⟨unfaulted, _, events, _, _, rfl⟩ := setCommandState_ok_iff.mp changing
    have written : Written 7 session.faults ↔
        Written 1 (remaining 6 session.faults) := by
      rw [Written, unfaulted_add 6 1, and_iff_right unfaulted]
      rfl
    rw [written]
    exact cancelRun_preserves service runId actor reason
      ⟨session.world.withCommands _ events, remaining 6 session.faults⟩

/-- A decision to cancel reaches the row when its command is uncertain. -/
theorem resolveInput_preserves (service : Service)
    (runId commandId actor observedSessionState : String) (session : Session) :
    Preserves runId
      (fun candidate => Text.isBlank observedSessionState = false ∧
        Uncertain session.world runId commandId ∧ Written 8 session.faults ∧
        session.world.WorksOn runId candidate)
      session.world ((service.resolveInput runId commandId .cancel actor
        observedSessionState).exec session).2.world := by
  refine final_ensure (fun reached : Session => Preserves runId _ session.world reached.world) ?_ ?_
  · intro blank
    refine .inl ⟨rfl, ?_⟩
    rintro _ ⟨visible, _⟩
    rw [visible] at blank
    exact blank Bool.false_ne_true
  intro inspected
  refine final_cases (fun reached : Session => Preserves runId _ session.world reached.world) ?_ ?_
  · intro failure reached loading
    have unchanged := requireUncertain_reads.ended loading
    refine .inl ⟨congrArg (·.db.checkpoints) unchanged, ?_⟩
    rintro _ ⟨_, ⟨command, found, owned, uncertain⟩, ⟨⟨fate, _⟩, _⟩, _⟩
    rw [requireUncertain_ok_iff.mpr ⟨fate, found, owned, uncertain, rfl⟩] at loading
    cases loading
  · intro command reached loading
    obtain ⟨fate, found, owned, uncertain, rfl⟩ := requireUncertain_ok_iff.mp loading
    refine Preserves.congr (fun candidate => ?_) (decidedCancel_preserves found)
    constructor
    · rintro ⟨⟨unfaulted, accepted⟩, works⟩
      exact ⟨by simpa using inspected, ⟨command, found, owned, uncertain⟩,
        ⟨⟨fate, unfaulted⟩, accepted⟩, works⟩
    · rintro ⟨_, _, ⟨⟨_, unfaulted⟩, accepted⟩, works⟩
      exact ⟨⟨unfaulted, accepted⟩, works⟩

/-- The two ways to cancel a run. -/
inductive Cancelling where
  | direct (runId actor reason : String)
  | decided (runId commandId actor observedSessionState : String)

namespace Cancelling

def runId : Cancelling → String
  | .direct runId _ _ | .decided runId _ _ _ => runId

def operation : Cancelling → Operation
  | .direct runId actor reason => .cancelRun runId actor reason
  | .decided runId commandId actor observedSessionState =>
    .resolveInput runId commandId .cancel actor observedSessionState

/--
The guards before the preserved row hold, the statements before it answer, the
row is not refused, and the candidate is the one it is for.
-/
def reaches (world : World) (faults : List (Option Fault))
    (candidate : String) :
    Cancelling → Prop
  | .direct runId _ _ => Written 1 faults ∧ world.WorksOn runId candidate
  | .decided runId commandId _ observedSessionState =>
    Text.isBlank observedSessionState = false ∧ Uncertain world runId commandId ∧
      Written 8 faults ∧ world.WorksOn runId candidate

theorem reaches_unique {cancelling : Cancelling}
    (first : cancelling.reaches world faults candidate)
    (second : cancelling.reaches world faults other) : candidate = other := by
  cases cancelling with
  | direct runId actor reason => exact first.2.unique second.2
  | decided runId commandId actor observed => exact first.2.2.2.unique second.2.2.2

theorem after_preserves {cancelling : Cancelling} (world : World) (call : Call)
    (cancels : call.operation = cancelling.operation) :
    Preserves cancelling.runId (fun candidate => cancelling.reaches world call.faults candidate)
      world (world.after (.called call)) := by
  unfold World.after Call.exec
  dsimp only
  rw [cancels]
  cases cancelling with
  | direct runId actor reason =>
    dsimp only [Cancelling.operation, Service.perform]
    rw [discard_world]
    exact cancelRun_preserves call.service runId actor reason ⟨world, call.faults⟩
  | decided runId commandId actor observedSessionState =>
    dsimp only [Cancelling.operation, Service.perform]
    rw [discard_world]
    exact resolveInput_preserves call.service runId commandId actor observedSessionState
      ⟨world, call.faults⟩

end Cancelling

/-! ## The ledger of a history -/

/-- The event is a `record_checkpoint` for the candidate that left another source. -/
def Event.stores (world : World) (key : String × String)
    (event : Event) : Bool :=
  match event with
  | .opened => false
  | .called call =>
    match call.operation with
    | .recordCheckpoint checkpoint _ =>
      checkpoint.key = key && (world.after event).source key != world.source key
    | _ => false

/-- The event is a cancellation that writes over the source of the candidate. -/
def Event.overwrites (world : World) (key : String × String)
    (event : Event) : Prop :=
  ∃ (call : Call) (cancelling : Cancelling), event = .called call ∧
    call.operation = cancelling.operation ∧ cancelling.runId = key.1 ∧
    cancelling.reaches world call.faults key.2 ∧
    ∃ source, world.source key = some source ∧ source ≠ .preserved

/-- What `record_checkpoint` stored last, and what was written over since. -/
structure Ledger where
  world : World
  recorded : String × String → Option Source
  lost : String × String → Prop

namespace Ledger

def enter (ledger : Ledger) (event : Event) : Ledger where
  world := ledger.world.after event
  recorded key :=
    if event.stores ledger.world key then (ledger.world.after event).source key
    else ledger.recorded key
  lost key :=
    event.stores ledger.world key = false ∧
      (ledger.lost key ∨ event.overwrites ledger.world key)

/-- The ledger of a history on a fresh store. -/
def of (history : List Event) : Ledger :=
  history.foldl enter ⟨World.fresh, fun _ => none, fun _ => False⟩

/--
What is recorded is in the store, or was written over; without a record the
store has no source but a preserved one.
-/
def Sound (ledger : Ledger) (key : String × String) : Prop :=
  match ledger.recorded key with
  | none => ¬ledger.lost key ∧ ∀ source ∈ ledger.world.source key, source = .preserved
  | some source => source ≠ .preserved ∧
      (¬ledger.lost key ∧ ledger.world.source key = some source ∨
        ledger.lost key ∧ ledger.world.source key = some .preserved)

variable {ledger : Ledger} {event : Event}

/-- A new source is one that git has named. -/
theorem stored_ne_preserved (stores : event.stores world key) :
    ∃ source, (world.after event).source key = some source ∧ source ≠ .preserved := by
  cases event with
  | opened => cases stores
  | called call =>
    obtain ⟨service, faults, operation⟩ := call
    cases operation with
    | recordCheckpoint checkpoint expectedVersion =>
      simp only [Event.stores, Bool.and_eq_true, decide_eq_true_eq, bne_iff_ne] at stores
      obtain ⟨rfl, changed⟩ := stores
      have left : (world.after (.called ⟨service, faults,
          .recordCheckpoint checkpoint expectedVersion⟩)) =
          ((service.recordCheckpoint checkpoint expectedVersion).exec ⟨world, faults⟩).2.world :=
        discard_world
      rw [left] at changed ⊢
      rcases recordCheckpoint_records service checkpoint expectedVersion ⟨world, faults⟩ with
        same | ⟨tree, hexadecimal, written⟩
      · exact absurd (source_of_checkpoints same) changed
      · refine ⟨_, (source_upsert written).trans (if_pos rfl), ?_⟩
        intro preserved
        rw [show checkpoint.commitHash = "preserved" from congrArg Source.commitHash preserved]
          at hexadecimal
        cases hexadecimal
    | _ => cases stores

/-- An event that neither records nor overwrites leaves what was recorded. -/
theorem unwritten_source (unstored : event.stores world key = false)
    (kept : ¬event.overwrites world key) :
    (world.after event).source key = world.source key ∨
      world.source key = none ∧
        (world.after event).source key = some .preserved := by
  by_cases captures : event.permits.captures key
  · cases event with
    | opened => exact captures.elim
    | called call =>
      have cancels (cancelling : Cancelling) (cancels : call.operation = cancelling.operation)
          (owned : cancelling.runId = key.1) :
          (world.after (.called call)).source key = world.source key ∨ world.source key = none ∧
            (world.after (.called call)).source key = some .preserved := by
        rcases cancelling.after_preserves world call cancels with
          ⟨same, _⟩ | ⟨candidate, reached, written⟩
        · exact .inl (source_of_checkpoints same)
        by_cases here : candidate = key.2
        · have row : (world.after (.called call)).source key = some .preserved := by
            rw [source_upsert written, if_pos (Prod.ext owned here)]
            rfl
          cases had : world.source key with
          | none => exact .inr ⟨rfl, row⟩
          | some source =>
            rw [row]
            refine .inl (congrArg some ?_)
            by_contra other
            exact kept ⟨call, cancelling, rfl, cancels, owned, here ▸ reached, source, had,
              Ne.symm other⟩
        · rw [source_upsert written, if_neg]
          · exact .inl rfl
          · exact fun same => here (congrArg Prod.snd same)
      obtain ⟨service, faults, operation⟩ := call
      cases operation with
      | recordCheckpoint checkpoint expectedVersion =>
        obtain rfl : key = checkpoint.key := captures
        simp only [Event.stores, decide_true, Bool.true_and, bne_eq_false_iff_eq] at unstored
        exact .inl unstored
      | cancelRun runId actor reason =>
        exact cancels (.direct runId actor reason) rfl captures.symm
      | resolveInput runId commandId decision actor observed =>
        obtain ⟨rfl, owned⟩ := captures
        exact cancels (.decided runId commandId actor observed) rfl owned.symm
      | _ => exact captures.elim
  · exact .inl (after_source captures)

/-- A source that is written over is preserved in name only. -/
theorem overwritten_source (overwrites : event.overwrites world key) :
    (∃ source, world.source key = some source ∧ source ≠ .preserved) ∧
      (world.after event).source key = some .preserved := by
  obtain ⟨call, cancelling, rfl, cancels, owned, reached, exposed⟩ := overwrites
  refine ⟨exposed, ?_⟩
  rcases cancelling.after_preserves world call cancels with
    ⟨_, unreached⟩ | ⟨candidate, other, written⟩
  · exact absurd reached (unreached _)
  · rw [source_upsert written, if_pos (Prod.ext owned (cancelling.reaches_unique other reached))]
    rfl

theorem Sound.enter (sound : ledger.Sound key) (event : Event) :
    (ledger.enter event).Sound key := by
  by_cases stores : event.stores ledger.world key
  · obtain ⟨source, stored, named⟩ := stored_ne_preserved stores
    have recorded : (ledger.enter event).recorded key = some source :=
      (if_pos stores).trans stored
    have kept : ¬(ledger.enter event).lost key := by
      rintro ⟨unstored, _⟩
      rw [stores] at unstored
      cases unstored
    rw [Sound, recorded]
    exact ⟨named, .inl ⟨kept, stored⟩⟩
  rw [Bool.not_eq_true] at stores
  have recorded : (ledger.enter event).recorded key = ledger.recorded key :=
    if_neg (by simp [stores])
  have lost : (ledger.enter event).lost key ↔
      ledger.lost key ∨ event.overwrites ledger.world key := and_iff_right stores
  unfold Sound at sound ⊢
  rw [recorded, lost]
  by_cases overwrites : event.overwrites ledger.world key
  · obtain ⟨⟨source, had, exposed⟩, row⟩ := overwritten_source overwrites
    cases known : ledger.recorded key with
    | none =>
      rw [known] at sound
      exact absurd (sound.2 source had) exposed
    | some _ =>
      rw [known] at sound
      exact ⟨sound.1, .inr ⟨.inr overwrites, row⟩⟩
  · have source := unwritten_source stores overwrites
    rw [or_iff_left overwrites]
    cases known : ledger.recorded key with
    | none =>
      rw [known] at sound
      refine ⟨sound.1, ?_⟩
      rcases source with same | ⟨_, row⟩
      · exact fun other listed => sound.2 other (same ▸ listed)
      · exact fun other listed => (Option.mem_unique row listed).symm
    | some _ =>
      rw [known] at sound
      have same : (ledger.enter event).world.source key =
          ledger.world.source key := by
        refine source.resolve_right ?_
        rintro ⟨missing, _⟩
        rcases sound.2 with ⟨_, had⟩ | ⟨_, had⟩ <;> rw [missing] at had <;> cases had
      rwa [same]

theorem sound_of (history : List Event)
    (key : String × String) : (of history).Sound key := by
  have fresh : Sound ⟨World.fresh, fun _ => none, fun _ => False⟩ key := ⟨id, nofun⟩
  exact List.foldlRecOn (motive := fun ledger => ledger.Sound key) history enter fresh
    fun _ sound event _ => sound.enter event

theorem of_world (history : List Event) :
    (of history).world = World.fresh.play history := by
  induction history using List.reverseRecOn with
  | nil => rfl
  | append_singleton history event ih =>
    rw [of, List.foldl_append, World.play_append, ← ih]
    rfl

end Ledger

/--
After every history that ends with a cancelling call, whether it answers or
fails, the store has the source that `record_checkpoint` stored last for every
candidate of the run if and only if no cancelling call, this one included,
has written the preserved row over it since.
-/
theorem cancelling_keeps_sources_iff (history : List Event) (service : Service)
    (faults : List (Option Fault)) (cancelling : Cancelling) :
    let ended := history ++ [.called ⟨service, faults, cancelling.operation⟩]
    (∀ candidate source, (Ledger.of ended).recorded (cancelling.runId, candidate) = some source →
        (World.fresh.play ended).source (cancelling.runId, candidate) = some source) ↔
      ∀ candidate, ¬(Ledger.of ended).lost (cancelling.runId, candidate) := by
  intro ended
  rw [← Ledger.of_world]
  refine forall_congr' fun candidate => ?_
  have sound := Ledger.sound_of ended (cancelling.runId, candidate)
  unfold Ledger.Sound at sound
  cases known : (Ledger.of ended).recorded (cancelling.runId, candidate) with
  | none =>
    rw [known] at sound
    exact iff_of_true nofun sound.1
  | some recorded =>
    rw [known] at sound
    obtain ⟨named, ⟨kept, had⟩ | ⟨lost, had⟩⟩ := sound
    · refine iff_of_true ?_ kept
      rintro _ ⟨⟩
      exact had
    · refine iff_of_false ?_ (not_not_intro lost)
      intro keeps
      rw [had] at keeps
      exact named (Option.some.inj (keeps recorded rfl)).symm

/-- The first candidate is captured. -/
def capturedHistory : List Event :=
  .opened :: calls firstEnvironment (implementation ++ capture "c1" "aaa1" 2)

/-- The captured commit is replaced by a cancellation that answers. -/
theorem cancelRun_loses_source :
    ((World.fresh.play capturedHistory).db.checkpoints.find?
        ("run-1", "c1")).map StoredCheckpoint.commitHash = some "aaa1" ∧
      (Call.exec ⟨⟨1, firstEnvironment⟩, [], .cancelRun "run-1" "operator" "stop"⟩
        (World.fresh.play capturedHistory)).1 = .ok () ∧
      ((Call.exec ⟨⟨1, firstEnvironment⟩, [], .cancelRun "run-1" "operator" "stop"⟩
          (World.fresh.play capturedHistory)).2.world.db.checkpoints.find?
        ("run-1", "c1")).map StoredCheckpoint.commitHash = some "preserved" := by
  refine ⟨by decide +kernel, by decide +kernel, by decide +kernel⟩

end Jackin.Workflow
