import Jackin.Workflow.Starts

/-!
# The launch of a started run

Starting a run writes its row and its first event in one transaction, and its
launch effect by a statement of its own.  A retry under the same key finds the
row and returns it, so a start that is cut off between the two leaves an open
run that nobody will launch.  In every history in which no start is cut off
there, every open run has its launch recorded.
-/

namespace Jackin.Workflow

open Option List Foundation Table
open Program (Ends exec_bind_ok final_bind)

variable {queues : Prop} {before world : World} {kind : EffectKind}
    {call : Call}

/-- Every effect belongs to a stored run and has one of its ids. -/
def World.Planned (world : World) : Prop :=
  ∀ operationId effect, world.db.effects.find? operationId = some effect →
    (world.db.runs.find? effect.runId).isSome ∧
      ∃ count, operationId = plannedId effect.runId effect.kind count

theorem plannedId_run
    (same : plannedId first firstKind firstCount = plannedId second secondKind secondCount) :
    first = second := by
  have plain : ∀ kind : EffectKind, ':' ∉ kind.asStr.toList := by
    intro kind
    cases kind <;> decide
  have symbols := congrArg String.toList same
  simp only [plannedId, String.toList_append, append_assoc,
    show ":".toList = [':'] from rfl, singleton_append] at symbols
  rw [← append_assoc, ← append_assoc] at symbols
  have heads := (Text.append_separator_inj (Text.not_mem_toString (by decide))
    (Text.not_mem_toString (by decide)) symbols).1
  exact String.toList_injective
    (Text.append_separator_inj (plain firstKind) (plain secondKind) heads).1

/-- Runs stay stored along any change of the store. -/
theorem Progress.stored {starts : Prop} {after}
    (progress : Progress queues starts before after)
    (stored : (before.db.runs.find? runId).isSome) :
    (after.db.runs.find? runId).isSome := by
  obtain ⟨_, found⟩ := isSome_iff_exists.mp stored
  obtain ⟨_, laterFound, _⟩ := progress.follows found
  rw [laterFound]
  rfl

theorem World.Planned.step {after : World} (planned : before.Planned)
    (runs : ∀ runId, (before.db.runs.find? runId).isSome →
      (after.db.runs.find? runId).isSome)
    (effects : EffectsProgress before.db.runs before.db.effects after.db.effects) :
    after.Planned := by
  intro operationId effect found
  cases earlier : before.db.effects.find? operationId with
  | none =>
    obtain ⟨owned, named⟩ := effects.planned operationId effect found earlier
    exact ⟨runs _ owned, named⟩
  | some row =>
    obtain ⟨later, laterFound, run, kind, _⟩ := effects.kept operationId row earlier
    obtain rfl : later = effect := mem_unique laterFound found
    obtain ⟨owned, named⟩ := planned operationId row earlier
    rw [run, kind]
    exact ⟨runs _ owned, named⟩

theorem Progress.planned {starts : Prop} {after}
    (progress : Progress queues starts before after)
    (planned : before.Planned) :
    after.Planned := by
  refine planned.step (fun _ => progress.stored) ?_
  cases progress with
  | settled _ _ effects | moved _ _ _ _ _ _ effects => exact effects
  | queued _ _ effects | created _ _ _ _ _ _ _ _ effects =>
    rw [effects]
    exact .refl

theorem planned_after (planned : world.Planned)
    (event : Event) : (world.after event).Planned := by
  refine after_invariant ?_ ?_ planned
  · exact fun _ _ progress => progress.planned
  · intro run before after decided earlier
    obtain ⟨_, _, _, _, runs, _, effects⟩ := decided.moved
    refine earlier.step ?_ ?_
    · intro runId stored
      obtain ⟨_, found⟩ := isSome_iff_exists.mp stored
      rcases find?_moved decided.isOpen runs found with same | ⟨_, same⟩ <;> rw [same] <;> rfl
    · rw [effects]
      exact .refl

/-- No effect belongs to a run that is not stored. -/
theorem World.Planned.unowned (planned : world.Planned)
    (missing : world.db.runs.find? runId = none) :
    ∀ effect ∈ world.db.effects.rows, effect.runId ≠ runId := by
  rintro effect member rfl
  have owned := (planned _ effect (mem_rows_iff.mp member)).1
  rw [missing] at owned
  cases owned

/-! ## The statements of a start -/

/-- Nothing in the store is in the way of a new run. -/
structure Vacant (world : World) (runId idempotencyKey : String) : Prop where
  unkeyed : world.db.runByKey idempotencyKey = none
  missing : world.db.runs.find? runId = none
  silent : world.db.events.find? (runId, 0) = none

/-- The row and the first event of a run are written and committed. -/
def CommitsRow (faults : List (Option Fault)) : Prop :=
  Unfaulted 3 faults ∧ ¬Fault.Refuses (remaining 3 faults).head?.join

/-- The insert of the launch effect is reached and carried out. -/
def PlansLaunch (faults : List (Option Fault)) : Prop :=
  Unfaulted 2 faults ∧ ¬Fault.Refuses (remaining 2 faults).head?.join

section

variable {store : RunStore}

/-- The world with the row and the first event of a run. -/
def World.withRun (world : World) (runs : Table StoredRun.runId)
    (events : Table StoredEvent.key) : World :=
  { world with db := { world.db with runs, events } }

private theorem createBody_vacant (ran : Program.exec (do
        insertRun (store.newRun runId planHash maxRepairTurns idempotencyKey)
        insertEvent ⟨runId, 0, store.now, "host", "run_started", none⟩)
      entered = (.ok (), left)) :
    Unfaulted 2 entered.faults ∧ Vacant entered.world runId idempotencyKey ∧
      left.faults = remaining 2 entered.faults := by
  obtain ⟨_, _, inserting, logging⟩ := Program.exec_bind_eq_ok ran
  obtain ⟨first, _, outcome, rfl⟩ := statement_ok_iff.mp inserting
  obtain ⟨second, _, recorded, rfl⟩ := statement_ok_iff.mp logging
  split at outcome
  · cases outcome
  rename_i unkeyed
  split at outcome
  · rename_i runs inserted
    cases outcome
    split at recorded
    · rename_i events written
      exact ⟨⟨first, second, trivial⟩, ⟨by simpa [RunStore.newRun] using unkeyed,
          fresh_of_insert? inserted, fresh_of_insert? written⟩, rfl⟩
    · cases recorded
  · cases outcome

private theorem createBody_ok (store : RunStore) (planHash : String)
    (maxRepairTurns : Nat)
    (calm : Unfaulted 2 entered.faults)
    (vacant : Vacant entered.world runId idempotencyKey) :
    ∃ runs events, entered.world.db.runs.insert?
          (store.newRun runId planHash maxRepairTurns idempotencyKey) =
        some runs ∧
      Program.exec (do
          insertRun (store.newRun runId planHash maxRepairTurns idempotencyKey)
          insertEvent ⟨runId, 0, store.now, "host", "run_started", none⟩)
        entered = (.ok (), ⟨entered.world.withRun runs events, remaining 2 entered.faults⟩) := by
  obtain ⟨first, second, _⟩ := calm
  have missing : entered.world.db.runs.find?
      (store.newRun runId planHash maxRepairTurns idempotencyKey).runId = none := vacant.missing
  obtain ⟨runs, inserted⟩ := insert?_of_fresh missing
  have silent : entered.world.db.events.find?
      (StoredEvent.key ⟨runId, 0, store.now, "host", "run_started", none⟩) = none := vacant.silent
  obtain ⟨events, recorded⟩ := insert?_of_fresh silent
  refine ⟨runs, events, inserted, ?_⟩
  refine Program.exec_bind_ok_iff.mpr ⟨(), entered.afterStatement
    { entered.world.db with runs }, statement_ok_iff.mpr
      ⟨first, _, ?_, rfl⟩, statement_ok_iff.mpr ⟨second, _, ?_, rfl⟩⟩
  · have unkeyed : (entered.world.db.runByKey (store.newRun runId planHash maxRepairTurns
          idempotencyKey).idempotencyKey).isSome ≠ true := by
      have none := vacant.unkeyed
      simp [RunStore.newRun, none]
    rw [if_neg unkeyed, inserted]
  · dsimp only [Session.afterStatement]
    rw [recorded]

/-- A start that finds room and is committed has written its row. -/
theorem createRun_commits (store : RunStore) (planHash : String)
    (maxRepairTurns : Nat) (session : Session)
    (commits : CommitsRow session.faults)
    (vacant : Vacant session.world runId idempotencyKey) :
    ∃ runs events, session.world.db.runs.insert?
          (store.newRun runId planHash maxRepairTurns idempotencyKey) =
        some runs ∧
      ((store.createRun runId planHash maxRepairTurns idempotencyKey).exec session).2 =
        ⟨session.world.withRun runs events, remaining 4 session.faults⟩ ∧
      (((store.createRun runId planHash maxRepairTurns idempotencyKey).exec session).1 = .ok () ↔
        (remaining 3 session.faults).head?.join = none) := by
  obtain ⟨⟨began, calm⟩, kept⟩ := commits
  obtain ⟨runs, events, inserted, ran⟩ :=
    createBody_ok store planHash maxRepairTurns
      (show Unfaulted 2 (session.afterStatement session.world.db).faults from calm) vacant
  obtain ⟨final, answered⟩ := transaction_commits began ran kept
  exact ⟨runs, events, inserted, final, answered⟩

/-- Otherwise it fails and leaves the store as it was. -/
theorem createRun_fails (store : RunStore) (planHash : String)
    (maxRepairTurns : Nat) (session : Session)
    (prevented : ¬(CommitsRow session.faults ∧ Vacant session.world runId idempotencyKey)) :
    ((store.createRun runId planHash maxRepairTurns
        idempotencyKey).exec session).2.world = session.world ∧
      ((store.createRun runId planHash maxRepairTurns idempotencyKey).exec session).1 ≠ .ok () := by
  refine transaction_fails ?_
  intro began left ran
  obtain ⟨calm, vacant, faults⟩ := createBody_vacant ran
  by_contra kept
  refine prevented ⟨⟨⟨began, calm⟩, ?_⟩, vacant⟩
  rwa [faults] at kept

end

/-- A query hit by no fault answers; any other changes nothing. -/
theorem query_ends_exactly {Value : Type} {answer : Database → Value} :
    (query label answer).Ends session
      (fun value reached => session.faults.head?.join = none ∧
        value = answer session.world.db ∧ reached = session.afterStatement session.world.db)
      (·.world = session.world) :=
  Ends.of_exec (fun _ _ => query_ok_iff.mp) (query_world label answer session)

section

variable {runId : String}

/-- The store holds no effect of the run, nor one under its first id. -/
structure Unplanned (world : World) (runId : String) : Prop where
  unowned : ∀ effect ∈ world.db.effects.rows, effect.runId ≠ runId
  free : ∀ kind, world.db.effects.find? (plannedId runId kind 1) = none

section

variable (unplanned : Unplanned world runId)
include unplanned

theorem Unplanned.pendingEffect :
    world.db.pendingEffect runId kind label = none := by
  refine find?_eq_none.mpr ?_
  intro effect member
  simp [unplanned.unowned effect member]

theorem Unplanned.effectCount : world.db.effectCount runId kind = 0 := by
  refine countP_eq_zero.mpr ?_
  intro effect member
  simp [unplanned.unowned effect member]

theorem Unplanned.withRun (runs : Table StoredRun.runId)
    (events : Table StoredEvent.key) :
    Unplanned (world.withRun runs events) runId :=
  ⟨unplanned.unowned, unplanned.free⟩

end

theorem World.Planned.unplanned (planned : world.Planned)
    (missing : world.db.runs.find? runId = none) : Unplanned world runId where
  unowned := planned.unowned missing
  free kind := by
    refine eq_none_iff_forall_ne_some.mpr ?_
    intro effect found
    obtain ⟨owned, _, named⟩ := planned _ effect found
    rw [← plannedId_run named, missing] at owned
    cases owned

/-- The first effect of a run is recorded when its insert is reached. -/
theorem ensureEffect_plans (kind : EffectKind) (label : String)
    (session : Session)
    (unplanned : Unplanned session.world runId)
    (plans : PlansLaunch session.faults) :
    ∃ effects, session.world.db.effects.insert?
          (.planned runId (plannedId runId kind 1) kind label) =
        some effects ∧
      ((ensureEffect runId kind label).exec session).2.world =
        session.world.withEffects effects := by
  obtain ⟨⟨first, second, _⟩, kept⟩ := plans
  have fresh : session.world.db.effects.find?
      (StoredEffect.planned runId (plannedId runId kind 1) kind
        label).operationId = none := unplanned.free kind
  obtain ⟨effects, inserted⟩ := insert?_of_fresh fresh
  refine ⟨effects, inserted, ?_⟩
  unfold ensureEffect
  rw [exec_bind_ok (query_ok_iff.mpr ⟨first, unplanned.pendingEffect.symm, rfl⟩),
    exec_bind_ok (query_ok_iff.mpr ⟨second, unplanned.effectCount.symm, rfl⟩)]
  refine final_bind (fun reached : Session =>
      reached.world = session.world.withEffects effects) ?_ ?_
  · refine statement_world_of_not_refused (fun reason refused => kept ⟨reason, refused⟩)
      (?_ : _ = Except.ok ((), _))
    have added : session.world.db.effects.insert? (.planned runId
          (runId ++ ":" ++ kind.asStr ++ ":" ++ toString (0 + 1)) kind
          label) = some effects := inserted
    dsimp only [Session.afterStatement]
    rw [added]
  · intro _ reached stored
    refine final_bind (fun later : Session =>
        later.world = session.world.withEffects effects)
      ((query_world _ _ reached).trans stored) ?_
    intro fresh reloaded still
    cases fresh <;> exact still

/-- No effect is recorded when its insert is not reached or refused. -/
theorem ensureEffect_plans_none (unplanned : Unplanned session.world runId)
    (cut : ¬PlansLaunch session.faults) :
    ((ensureEffect runId kind label).exec session).2.world = session.world := by
  have ends : (ensureEffect runId kind label).Leaves session fun reached =>
    reached.world = session.world := by
    refine .bind _ query_ends_exactly ?_
    rintro pending searched ⟨first, rfl, rfl⟩
    rw [unplanned.pendingEffect]
    refine .bind _ query_ends_exactly ?_
    rintro count counted ⟨second, rfl, rfl⟩
    have refused : Fault.Refuses (remaining 2 session.faults).head?.join := by
      by_contra kept
      exact cut ⟨⟨first, second, trivial⟩, kept⟩
    obtain ⟨_, refused⟩ := refused
    refine .bind (fun _ _ => False) (.of_exec ?_ (statement_world_of_refused refused))
      (fun _ _ impossible => impossible.elim)
    intro _ reached success
    have calm := (statement_ok_iff.mp success).1
    cases refused.symm.trans calm
  exact ends.final

end

/-- The start is valid and finds room for its run. -/
structure Creates (service : Service) (planHash idempotencyKey : String)
    (world : World) : Prop where
  valid : ¬(Text.isBlank idempotencyKey ∨ Text.isBlank planHash)
  idle : world.db.activeRun = none
  vacant : Vacant world ("run-" ++ service.env.freshId) idempotencyKey

/-- The start gets as far as the commit of its row. -/
def ReachesRow (faults : List (Option Fault)) : Prop :=
  Unfaulted 2 faults ∧ CommitsRow (remaining 2 faults)

/-- After the commit of its row, it also gets to its launch effect. -/
def ReachesLaunch (faults : List (Option Fault)) : Prop :=
  (remaining 5 faults).head?.join = none ∧ PlansLaunch (remaining 6 faults)

/-- A start that cannot create its run leaves the store as it was. -/
theorem startRun_skips
    (prevented : ¬(Creates service planHash idempotencyKey session.world ∧
      ReachesRow session.faults)) :
    ((service.startRun planHash maxRepairTurns idempotencyKey).exec
      session).2.world = session.world := by
  have ends :
      (service.startRun planHash maxRepairTurns idempotencyKey).Leaves session
        fun reached => reached.world = session.world := by
    refine .ensure rfl fun valid => ?_
    refine .bind _ query_ends_exactly ?_
    rintro existing keyed ⟨first, rfl, rfl⟩
    cases unkeyed : session.world.db.runByKey idempotencyKey with
    | some run => exact .pure rfl
    | none =>
      refine .bind _ query_ends_exactly ?_
      rintro active searched ⟨second, rfl, rfl⟩
      cases idle : (session.afterStatement session.world.db).world.db.activeRun with
      | some run => exact rfl
      | none =>
        have room : ¬(CommitsRow (remaining 2 session.faults) ∧
            Vacant session.world ("run-" ++ service.env.freshId) idempotencyKey) := by
          rintro ⟨commits, vacant⟩
          exact prevented ⟨⟨valid, idle, vacant⟩, ⟨first, second, trivial⟩, commits⟩
        have failing := createRun_fails service.store planHash
          maxRepairTurns ((session.afterStatement
            session.world.db).afterStatement session.world.db) room
        refine .bind (fun _ _ => False) (.of_exec ?_ failing.1)
          (fun _ _ impossible => impossible.elim)
        intro _ reached success
        exact failing.2 (congrArg Prod.fst success)
  exact ends.final

/-- The run that a start creates. -/
def Service.startedRun (service : Service) (planHash : String)
    (maxRepairTurns : Nat) (idempotencyKey : String) : StoredRun :=
  service.store.newRun ("run-" ++ service.env.freshId) planHash maxRepairTurns idempotencyKey

/-- A start that creates its run goes on when its commit is answered. -/
theorem startRun_creates (creates : Creates service planHash idempotencyKey session.world)
    (reaches : ReachesRow session.faults) :
    ∃ runs events, session.world.db.runs.insert?
          (service.startedRun planHash maxRepairTurns idempotencyKey) =
        some runs ∧
      ((service.startRun planHash maxRepairTurns idempotencyKey).exec session).2.world =
        if (remaining 5 session.faults).head?.join = none then
          ((ensureEffect ("run-" ++ service.env.freshId) .launch ("plan:" ++ planHash)).exec
              ⟨session.world.withRun runs events, remaining 6 session.faults⟩).2.world
        else session.world.withRun runs events := by
  obtain ⟨⟨first, second, _⟩, commits⟩ := reaches
  obtain ⟨runs, events, inserted, final, answered⟩ :=
    createRun_commits service.store planHash maxRepairTurns
      ((session.afterStatement session.world.db).afterStatement
        session.world.db) commits creates.vacant
  refine ⟨runs, events, inserted, ?_⟩
  have keyed : (loadRunByKey idempotencyKey).exec session =
      (.ok none, session.afterStatement session.world.db) :=
    query_ok_iff.mpr ⟨first, creates.vacant.unkeyed.symm, rfl⟩
  have searched :
      activeRun.exec (session.afterStatement session.world.db) =
        (.ok none, (session.afterStatement session.world.db).afterStatement session.world.db) :=
    query_ok_iff.mpr ⟨second, creates.idle.symm, rfl⟩
  unfold Service.startRun
  rw [exec_bind_ok (Program.exec_ensure_of creates.valid session), exec_bind_ok keyed]
  rw [exec_bind_ok searched, Program.exec_bind]
  cases outcome : (service.store.createRun ("run-" ++ service.env.freshId) planHash maxRepairTurns
      idempotencyKey).exec
        ((session.afterStatement session.world.db).afterStatement session.world.db) with
  | mk result reached =>
    rw [outcome] at final answered
    subst final
    cases result with
    | error failure =>
      rw [if_neg]
      · rfl
      · exact fun calm => nomatch answered.mpr calm
    | ok value =>
      have calm : (remaining 5 session.faults).head?.join = none := answered.mp rfl
      rw [if_pos calm]
      refine final_bind (fun later : Session => later.world = _) rfl ?_
      intro _ planned same
      rwa [summaryOf_reads.unchanged]

/-- A start that creates its run and reaches its launch records both. -/
theorem startRun_launches (maxRepairTurns : Nat) (session : Session)
    (planned : session.world.Planned)
    (creates : Creates service planHash idempotencyKey session.world)
    (reaches : ReachesRow session.faults)
    (launches : ReachesLaunch session.faults) :
    ∃ runs events effects, session.world.db.runs.insert?
          (service.startedRun planHash maxRepairTurns idempotencyKey) =
        some runs ∧
      session.world.db.effects.insert? (.planned ("run-" ++ service.env.freshId)
            (plannedId ("run-" ++ service.env.freshId) .launch 1) .launch
            ("plan:" ++ planHash)) = some effects ∧
      ((service.startRun planHash maxRepairTurns idempotencyKey).exec session).2.world =
        (session.world.withRun runs events).withEffects effects := by
  obtain ⟨runs, events, inserted, final⟩ := startRun_creates creates reaches
  have unplanned := planned.unplanned creates.vacant.missing
  obtain ⟨effects, added, world⟩ :=
    ensureEffect_plans .launch ("plan:" ++ planHash)
      ⟨session.world.withRun runs events, remaining 6 session.faults⟩
      (unplanned.withRun runs events) launches.2
  rw [if_pos launches.1, world] at final
  exact ⟨runs, events, effects, inserted, added, final⟩

/-- A start that is cut off after its row records the row only. -/
theorem startRun_strands (maxRepairTurns : Nat) (session : Session)
    (planned : session.world.Planned)
    (creates : Creates service planHash idempotencyKey session.world)
    (reaches : ReachesRow session.faults)
    (cut : ¬ReachesLaunch session.faults) :
    ∃ runs events, session.world.db.runs.insert?
          (service.startedRun planHash maxRepairTurns idempotencyKey) =
        some runs ∧
      ((service.startRun planHash maxRepairTurns idempotencyKey).exec session).2.world =
        session.world.withRun runs events := by
  obtain ⟨runs, events, inserted, final⟩ := startRun_creates creates reaches
  refine ⟨runs, events, inserted, final.trans ?_⟩
  split
  · rename_i calm
    have unplanned := planned.unplanned creates.vacant.missing
    exact ensureEffect_plans_none (unplanned.withRun runs events) (fun plans => cut ⟨calm, plans⟩)
  · rfl

/-! ## Launches along histories -/

/-- A launch effect for the plan of the run is recorded. -/
def LaunchRecorded (world : World) (run : StoredRun) : Prop :=
  ∃ operationId effect, world.db.effects.find? operationId = some effect ∧
      effect.runId = run.runId ∧ effect.kind = .launch ∧
      effect.ownershipLabel = some ("plan:" ++ run.planHash)

/-- Every open run has its launch recorded. -/
def World.Launched (world : World) : Prop :=
  ∀ run, OpenRun world run → LaunchRecorded world run

theorem LaunchRecorded.kept {after} (recorded : LaunchRecorded before run)
    (effects : EffectsProgress runs before.db.effects after.db.effects)
    (name : later.runId = run.runId) (plan : later.planHash = run.planHash) :
    LaunchRecorded after later := by
  obtain ⟨operationId, effect, found, owner, kind, label⟩ := recorded
  obtain ⟨kept, keptFound, sameRun, sameKind, sameLabel⟩ := effects.kept operationId effect found
  refine ⟨operationId, kept, keptFound, ?_, sameKind.trans kind, ?_⟩
  · rw [sameRun, owner, name]
  · rw [sameLabel, label, plan]

/-- Open runs of the later store were open in the earlier one. -/
theorem World.Launched.step {after} (launched : before.Launched)
    (effects : EffectsProgress before.db.runs before.db.effects after.db.effects)
    (opened : ∀ later, OpenRun after later → ∃ run,
      OpenRun before run ∧ later.runId = run.runId ∧ later.planHash = run.planHash) :
    after.Launched := by
  intro later laterOpen
  obtain ⟨run, runOpen, name, plan⟩ := opened later laterOpen
  exact (launched run runOpen).kept effects name plan

theorem openRun_of_moved {after} (isOpen : OpenRun before moved)
    (runs : after.db.runs = movedRuns before.db.runs moved.runId transition epoch)
    (laterOpen : OpenRun after later) :
    ∃ run, OpenRun before run ∧ later.runId = run.runId ∧ later.planHash = run.planHash := by
  have found := laterOpen.1
  rw [runs, find?_update] at found
  split at found
  · rename_i here
    rw [here, isOpen.1] at found
    cases found
    exact ⟨moved, isOpen, rfl, rfl⟩
  · exact ⟨later, ⟨found, laterOpen.2⟩, rfl, rfl⟩

/-- A change that creates no run keeps the launches. -/
theorem Progress.launched {after}
    (progress : Progress queues False before after)
    (launched : before.Launched) : after.Launched := by
  have same : after.db.runs = before.db.runs → ∀ later,
      OpenRun after later → ∃ run, OpenRun before run ∧
        later.runId = run.runId ∧ later.planHash = run.planHash :=
    fun runs later laterOpen => ⟨later, laterOpen.of_runs runs.symm, rfl, rfl⟩
  cases progress with
  | settled runs _ effects => exact launched.step effects (same runs)
  | queued _ runs effects =>
    refine launched.step ?_ (same runs)
    rw [effects]
    exact .refl
  | created impossible => exact impossible.elim
  | moved _ isOpen _ _ runs _ effects =>
    exact launched.step effects fun _ => openRun_of_moved isOpen runs

/-- Events that start no run keep the launches. -/
theorem World.Launched.after (launched : world.Launched)
    (other : event.starts = False) : (world.after event).Launched := by
  refine after_invariant ?_ ?_ launched
  · intro before after progress
    rw [other] at progress
    exact progress.launched
  · intro run before after decided earlier
    obtain ⟨_, _, _, _, runs, _, effects⟩ := decided.moved
    refine earlier.step ?_ fun _ => openRun_of_moved decided.isOpen runs
    rw [effects]
    exact .refl

/-- The call is a start that is cut off between its row and its launch. -/
def Call.Strands (call : Call) (world : World) : Prop :=
  ∃ planHash maxRepairTurns idempotencyKey, call.operation =
        .startRun planHash maxRepairTurns idempotencyKey ∧
      Creates call.service planHash idempotencyKey world ∧
      ReachesRow call.faults ∧ ¬ReachesLaunch call.faults

/-- The event is a start that is cut off. -/
def Event.Strands : Event → World → Prop
  | .opened, _ => False
  | .called call, world => call.Strands world

/-- The rows of a store with one more run, when no run was open. -/
theorem openRun_of_started (idle : world.db.activeRun = none)
    (inserted : world.db.runs.insert? run = some runs)
    (found : runs.find? later.runId = some later)
    (nonterminal : later.status.isTerminal = false) :
    later = run := by
  rw [find?_of_insert? inserted] at found
  split at found
  · exact (some.inj found).symm
  · exact absurd ⟨found, nonterminal⟩ (not_open_of_idle idle)

theorem after_start (start : call.operation = .startRun planHash maxRepairTurns idempotencyKey) :
    world.after (.called call) =
      ((call.service.startRun planHash maxRepairTurns idempotencyKey).exec
        ⟨world, call.faults⟩).2.world := by
  unfold World.after Call.exec
  dsimp only
  rw [start, Service.perform, discard_world]

/-- A start that is not cut off keeps the launches. -/
theorem startRun_launched
    (start : call.operation = .startRun planHash maxRepairTurns idempotencyKey)
    (planned : world.Planned) (launched : world.Launched)
    (kept : ¬call.Strands world) :
    (world.after (.called call)).Launched := by
  rw [after_start start]
  by_cases creating : Creates call.service planHash idempotencyKey world ∧ ReachesRow call.faults
  · obtain ⟨creates, reaches⟩ := creating
    have launches : ReachesLaunch call.faults := by
      by_contra cut
      exact kept ⟨_, _, _, start, creates, reaches, cut⟩
    obtain ⟨_, _, _, inserted, added, left⟩ :=
      startRun_launches maxRepairTurns ⟨world, call.faults⟩ planned creates reaches launches
    rw [left]
    intro run runOpen
    obtain rfl := openRun_of_started creates.idle inserted runOpen.1 runOpen.2
    exact ⟨_, _, find?_self_of_insert? added, rfl, rfl, rfl⟩
  · rwa [startRun_skips creating]

/-- A start that is cut off leaves its run without a launch. -/
theorem Call.Strands.unlaunched (strands : call.Strands world)
    (planned : world.Planned) :
    ¬(world.after (.called call)).Launched := by
  obtain ⟨planHash, maxRepairTurns, idempotencyKey, start, creates, reaches, cut⟩ := strands
  obtain ⟨_, _, inserted, left⟩ :=
    startRun_strands maxRepairTurns ⟨world, call.faults⟩ planned creates reaches cut
  rw [after_start start, left]
  intro launched
  obtain ⟨_, effect, found, owner, _⟩ :=
    launched (call.service.startedRun planHash maxRepairTurns idempotencyKey)
      ⟨find?_self_of_insert? inserted, rfl⟩
  exact planned.unowned creates.vacant.missing effect (mem_of_find? found) owner

theorem after_launched (planned : world.Planned)
    (launched : world.Launched)
    (kept : ¬event.Strands world) : (world.after event).Launched := by
  cases event with
  | opened => exact launched.after rfl
  | called call =>
    cases operation : call.operation with
    | startRun planHash maxRepairTurns idempotencyKey =>
      exact startRun_launched operation planned launched kept
    | _ =>
      refine launched.after ?_
      simp only [Event.starts, operation, Operation.starts]

theorem planned_of_history : (World.fresh.play history).Planned := by
  refine play_invariant_of_after World.Planned
    (fun _ event planned => planned_after planned event) ?_ history
  nofun

/--
Along a history every open run has its launch recorded in every state if and
only if no start is cut off after the commit of its row and before its launch
effect is written.
-/
theorem launches_recorded_iff (history : List Event) :
    (∀ past future, history = past ++ future → (World.fresh.play past).Launched) ↔
      ∀ past event future, history = past ++ event :: future →
        ¬event.Strands (World.fresh.play past) := by
  constructor
  · intro launched past event future split strands
    have left := launched (past ++ [event]) future (by simp [split])
    rw [World.play_append, World.play_cons] at left
    cases event with
    | opened => exact strands
    | called call => exact strands.unlaunched planned_of_history left
  · intro kept past
    induction past using reverseRecOn with
    | nil =>
      intro future _ run runOpen
      cases runOpen.1
    | append_singleton past event ih =>
      intro future split
      rw [append_assoc] at split
      rw [World.play_append, World.play_cons]
      exact after_launched planned_of_history (ih (event :: future) split)
        (kept past event future split)

/-- The start whose connection breaks right after the commit of its row. -/
def brokenStart : Call where
  service := ⟨1, firstEnvironment⟩
  faults := List.replicate 6 none ++ [some (.refused "disk I/O error")]
  operation := .startRun "plan" 3 "key"

/-- The broken start, a restart and two retries under the same key. -/
def strandedHistory : List Event :=
  [.opened, .called brokenStart, .opened] ++
    calls firstEnvironment [.startRun "plan" 3 "key", .startRun "plan" 3 "key"]

theorem strandedHistory_unlaunched :
    ¬(World.fresh.play strandedHistory).Launched := by
  have found : ((World.fresh.play strandedHistory).db.runs.find?
      "run-1").any (fun run => !run.status.isTerminal) := by
    decide +kernel
  simp only [Option.any_eq_true] at found
  obtain ⟨run, stored, nonterminal⟩ := found
  intro launched
  obtain ⟨_, _, recorded, _⟩ := launched run (OpenRun.of_find stored (by simpa using nonterminal)).1
  have member := mem_of_find? recorded
  cases member

end Jackin.Workflow
