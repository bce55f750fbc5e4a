import Jackin.Workflow.Acceptance

/-!
# Rounds and stages

What a history does to one run: the row keeps its plan and its budget, a
finished run is left alone, and every event that changes the stage or the
round brings the run to a later position.  The number of implementations that
a run has begun is a monotone function of its position, which bounds how often
the run can enter the implementation.
-/

namespace Jackin.Workflow

open Foundation StoredRun

variable {run later : StoredRun} {world after : World} {runId : String}

/-! ## One row along a path -/

/-- Where a stored run stands. -/
def StoredRun.position (run : StoredRun) : ℕ ×ₗ ℕ :=
  Workflow.position run.round run.stage

/-- What a run may have become. -/
structure Followed (run later : StoredRun) : Prop where
  runId : later.runId = run.runId
  planHash : later.planHash = run.planHash
  key : later.idempotencyKey = run.idempotencyKey
  budget : later.maxRepairTurns = run.maxRepairTurns
  position : run.position ≤ later.position
  finished : run.status.isTerminal → later = run

theorem Followed.refl :
    Followed run run := ⟨rfl, rfl, rfl, rfl, le_refl _, fun _ => rfl⟩

theorem Followed.trans (first : Followed run middle)
    (second : Followed middle later) : Followed run later where
  runId := second.runId.trans first.runId
  planHash := second.planHash.trans first.planHash
  key := second.key.trans first.key
  budget := second.budget.trans first.budget
  position := first.position.trans second.position
  finished terminal := by
    have same := first.finished terminal
    subst same
    exact second.finished terminal

/-- An open run after a transition that goes on. -/
theorem Followed.transitioned (nonterminal : run.status.isTerminal = false)
    (onward : Onward run transition) :
    Followed run (run.transitioned transition epoch) where
  runId := rfl
  planHash := rfl
  key := rfl
  budget := rfl
  position := by
    refine position_le_iff.mpr ?_
    rcases onward with ⟨round, rank⟩ | ⟨_, round, _⟩
    · exact .inr ⟨round.symm, rank⟩
    · refine .inl ?_
      change run.round < transition.round
      rw [round]
      exact Nat.lt_succ_self _
  finished terminal := by
    rw [nonterminal] at terminal
    cases terminal

/-- What becomes of a stored run in one transition of some open run. -/
theorem find?_moved (isOpen : OpenRun world moved)
    (updated : runs = movedRuns world.db.runs moved.runId transition epoch)
    (found : world.db.runs.find? runId = some run) :
    runs.find? runId = some run ∨
      run = moved ∧ runs.find? runId = some (run.transitioned transition epoch) := by
  rw [updated, Table.find?_update]
  split
  · rename_i here
    subst here
    obtain rfl : moved = run := Option.mem_unique isOpen.1 found
    rw [found]
    exact .inr ⟨rfl, rfl⟩
  · exact .inl found

/-- A change keeps every stored run, and accepts none. -/
theorem Progress.follows {queues starts : Prop}
    (progress : Progress queues starts before after)
    (found : before.db.runs.find? runId = some run) :
    ∃ later, after.db.runs.find? runId = some later ∧ Followed run later ∧
      (later.status = .accepted → run.status = .accepted) := by
  cases progress with
  | settled runs | queued _ runs =>
    rw [runs]
    exact ⟨run, found, .refl, id⟩
  | created _ _ _ _ _ _ inserted =>
    exact ⟨run, Table.find?_insert?_of_found inserted found, .refl, id⟩
  | moved _ isOpen onward unaccepted runs =>
    rcases find?_moved isOpen runs found with same | ⟨rfl, changed⟩
    · exact ⟨run, same, .refl, id⟩
    · exact ⟨_, changed, .transitioned isOpen.2 onward, fun accepted => absurd accepted unaccepted⟩

/-- A path of changes keeps every stored run, and accepts none. -/
theorem follows_of_path {queues starts : Prop}
    (path : Relation.ReflTransGen (Progress queues starts) before after)
    (found : before.db.runs.find? runId = some run) :
    ∃ later, after.db.runs.find? runId = some later ∧ Followed run later ∧
      (later.status = .accepted → run.status = .accepted) := by
  induction path with
  | refl => exact ⟨run, found, .refl, id⟩
  | tail _ progress ih =>
    obtain ⟨_, middleFound, first, firstAccepted⟩ := ih
    obtain ⟨later, laterFound, second, secondAccepted⟩ := progress.follows middleFound
    exact ⟨later, laterFound, first.trans second,
      fun accepted => firstAccepted (secondAccepted accepted)⟩

/-- The event is the host's observation that the run is verified. -/
def Event.decides : Event → String → Prop
  | .opened, _ => False
  | .called call, runId => call.operation.decides runId

/-- The event is a call that puts new input into the store. -/
def Event.queues : Event → Prop
  | .opened => False
  | .called call => call.operation.queues

/-- The event is a call that creates runs. -/
def Event.starts : Event → Prop
  | .opened => False
  | .called call => call.operation.starts

/-- An event is a path of changes or the acceptance of one run. -/
theorem after_advances :
    Relation.ReflTransGen (Progress event.queues event.starts) world (world.after event) ∨
      ∃ run, event.decides run.runId ∧ Decided run world (world.after event) := by
  cases event with
  | opened => exact .inl (.single (.unchanged rfl rfl rfl))
  | called call => exact perform_advances call.service call.operation ⟨world, call.faults⟩

/-- What every change and every acceptance keeps, an event keeps. -/
theorem after_invariant {invariant : World → Prop}
    (changed : ∀ before after,
      Progress event.queues event.starts before after → invariant before → invariant after)
    (accepted : ∀ run before after, Decided run before after →
      invariant before → invariant after) (initial : invariant world) :
    invariant (world.after event) := by
  rcases after_advances with path | ⟨run, _, decided⟩
  · exact invariant_of_path invariant path changed initial
  · exact accepted run _ _ decided initial

/-- What every event keeps, a history keeps. -/
theorem play_invariant_of_after (invariant : World → Prop)
    (kept : ∀ world event, invariant world → invariant (world.after event))
    (initial : invariant world)
    (history : List Event) : invariant (world.play history) := by
  induction history generalizing world with
  | nil => exact initial
  | cons event rest ih => exact ih (kept world event initial)

/--
Every event keeps a stored run or brings it to a later position, and a run
becomes accepted only at the decision and by the host.
-/
theorem after_follows_run (world : World) (event : Event)
    (found : world.db.runs.find? runId = some run) :
    ∃ later, (world.after event).db.runs.find? runId = some later ∧ Followed run later ∧
      (later.status = .accepted → run.status ≠ .accepted →
        run.stage = .decide ∧ event.decides runId) := by
  rcases after_advances with path | ⟨accepted, decides, decided⟩
  · obtain ⟨later, laterFound, follows, unaccepted⟩ := follows_of_path path found
    exact ⟨later, laterFound, follows, fun accepted => absurd (unaccepted accepted)⟩
  · obtain ⟨_, _, onward, _, runs, _⟩ := decided.moved
    have isOpen := decided.isOpen
    rcases find?_moved isOpen runs found with same | ⟨rfl, changed⟩
    · exact ⟨run, same, .refl, absurd⟩
    · refine ⟨_, changed, .transitioned isOpen.2 onward, fun _ _ => ⟨decided.stage, ?_⟩⟩
      have key : run.runId = runId := Table.key_of_find? found
      rwa [← key]

/-- The round is within the budget, and a run prepares only once. -/
def InBudget (run : StoredRun) : Prop :=
  run.round ≤ run.maxRepairTurns ∧ (run.stage = .prepare → run.round = 0)

/-- Every stored run is in its budget. -/
def World.InBudget (world : World) : Prop :=
  ∀ runId run, world.db.runs.find? runId = some run → Workflow.InBudget run

theorem InBudget.transitioned (within : InBudget run)
    (onward : Onward run transition) :
    InBudget (run.transitioned transition epoch) := by
  obtain ⟨bounded, prepares⟩ := within
  rcases onward with ⟨round, rank⟩ | ⟨stage, _, budget⟩
  · refine ⟨?_, ?_⟩
    · change transition.round ≤ run.maxRepairTurns
      rwa [round]
    · intro preparing
      change transition.stage = .prepare at preparing
      change transition.round = 0
      rw [preparing] at rank
      rw [round]
      exact prepares (Stage.rank_injective (Nat.le_zero.mp rank))
  · refine ⟨budget, ?_⟩
    intro preparing
    change transition.stage = .prepare at preparing
    rw [stage] at preparing
    cases preparing

/-- A transition of an open run keeps all runs in their budgets. -/
theorem World.InBudget.moved (within : before.InBudget)
    (isOpen : OpenRun before run) (onward : Onward run transition)
    (runs : after.db.runs = movedRuns before.db.runs run.runId transition epoch) :
    after.InBudget := by
  intro runId later found
  rw [runs, Table.find?_update] at found
  split at found
  · rename_i here
    rw [here, isOpen.1] at found
    cases found
    exact (within run.runId run isOpen.1).transitioned onward
  · exact within runId later found

theorem Progress.inBudget {queues starts : Prop}
    (progress : Progress queues starts before after)
    (within : before.InBudget) : after.InBudget := by
  cases progress with
  | settled runs | queued _ runs =>
    intro runId run found
    rw [runs] at found
    exact within runId run found
  | created _ _ _ round _ _ inserted =>
    intro runId run found
    rw [Table.find?_of_insert? inserted] at found
    split at found
    · cases found
      refine ⟨?_, fun _ => round⟩
      rw [round]
      exact Nat.zero_le _
    · exact within runId run found
  | moved _ isOpen onward _ runs => exact within.moved isOpen onward runs

theorem inBudget_of_history (history : List Event) :
    (World.fresh.play history).InBudget := by
  refine play_invariant_of_after World.InBudget ?_ ?_ history
  · intro world event within
    refine after_invariant ?_ ?_ within
    · exact fun _ _ progress => progress.inBudget
    · intro run before after decided before_within
      obtain ⟨_, _, onward, _, runs, _⟩ := decided.moved
      exact before_within.moved decided.isOpen onward runs
  · nofun

/-! ## Implementations begun -/

/-- The run stands at this stage. -/
def World.stands (world : World) (runId : String) (stage : Stage) : Bool :=
  (world.db.runs.find? runId).any (·.stage == stage)

/-- How often a run enters the implementation during a history. -/
def World.implementations (runId : String) : World → List Event → Nat
  | _, [] => 0
  | world, event :: rest =>
    (if !world.stands runId .implement &&
        (world.after event).stands runId .implement then 1 else 0) +
      World.implementations runId (world.after event) rest

/-- The implementations a run has begun, read off its position. -/
def StoredRun.begun (run : StoredRun) : Nat :=
  if run.stage = .prepare then run.round else run.round + 1

theorem StoredRun.begun_le (run : StoredRun) : run.begun ≤ run.round + 1 := by
  unfold begun
  split <;> omega

theorem StoredRun.begun_of_implement (inside : run.stage = .implement) :
    run.begun = run.round + 1 := by
  rw [begun, if_neg]
  rw [inside]
  decide

/-- The implementations begun by a run that may not be stored. -/
def begunBy : Option StoredRun → Nat
  | none => 0
  | some run => run.begun

theorem StoredRun.begun_le_of_position (onward : run.position ≤ later.position) :
    run.begun ≤ later.begun := by
  unfold begun
  rcases position_le_iff.mp onward with earlier | ⟨same, rank⟩
  · split <;> split <;> omega
  · split
    · split <;> omega
    · rename_i started
      rw [if_neg, same]
      intro preparing
      rw [preparing] at rank
      exact started (Stage.rank_injective (Nat.le_zero.mp rank))

/-- Entering the implementation is counted by the position. -/
theorem StoredRun.begun_lt_of_entered (onward : run.position ≤ later.position)
    (outside : run.stage ≠ .implement) (inside : later.stage = .implement) :
    run.begun < later.begun := by
  rw [begun_of_implement inside]
  rcases position_le_iff.mp onward with earlier | ⟨same, rank⟩
  · have bound := run.begun_le
    omega
  · rw [inside] at rank
    have preparing : run.stage = .prepare := by
      cases stage : run.stage with
      | prepare => rfl
      | implement => exact absurd stage outside
      | capture | test | review | decide =>
        rw [stage] at rank
        exact absurd rank (by decide)
    rw [begun, if_pos preparing]
    omega

/-- One event begins at most what the position says. -/
theorem begunBy_after (world : World) (event : Event) (runId : String) :
    (if !world.stands runId .implement &&
        (world.after event).stands runId .implement then 1 else 0) +
      begunBy (world.db.runs.find? runId) ≤
        begunBy ((world.after event).db.runs.find? runId) := by
  cases found : world.db.runs.find? runId with
  | none =>
    split
    · rename_i entered
      simp only [Bool.and_eq_true, World.stands, Option.any_eq_true, beq_iff_eq] at entered
      obtain ⟨_, later, laterFound, inside⟩ := entered
      rw [laterFound]
      change 1 + 0 ≤ later.begun
      rw [begun_of_implement inside]
      omega
    · exact Nat.zero_le _
  | some run =>
    obtain ⟨_, laterFound, follows, _⟩ := after_follows_run world event found
    rw [laterFound]
    split
    · rename_i entered
      simp only [World.stands, found, laterFound, Option.any_some, Bool.and_eq_true,
        Bool.not_eq_true', beq_iff_eq, beq_eq_false_iff_ne] at entered
      rw [Nat.add_comm]
      exact begun_lt_of_entered follows.position entered.1 entered.2
    · rw [Nat.zero_add]
      exact begun_le_of_position follows.position

/-- A history begins what the position of the run says at most. -/
theorem implementations_le (runId : String) (world : World)
    (history : List Event) :
    world.implementations runId history + begunBy (world.db.runs.find? runId) ≤
      begunBy ((world.play history).db.runs.find? runId) := by
  induction history generalizing world with
  | nil =>
    rw [World.implementations, Nat.zero_add]
    exact Nat.le_refl _
  | cons event rest ih =>
    have first := begunBy_after world event runId
    have others := ih (world.after event)
    rw [World.implementations, World.play_cons]
    omega

/--
Along every history a run stays within its repair budget, prepares only in
its first round and enters the implementation at most once more than its
budget allows repairs.  Whatever happens next, the row stays stored with its
budget; a finished status is not left; a change of stage or round is a step to
a later position; and acceptance comes from the decision, by the host.
-/
theorem runs_advance_within_budget (history : List Event) (runId : String)
    (run : StoredRun)
    (found : (World.fresh.play history).db.runs.find? runId = some run) :
    run.round ≤ run.maxRepairTurns ∧ (run.stage = .prepare → run.round = 0) ∧
      World.fresh.implementations runId history ≤ run.maxRepairTurns + 1 ∧
      ∀ event, ∃ later, ((World.fresh.play history).after event).db.runs.find? runId = some later ∧
          later.maxRepairTurns = run.maxRepairTurns ∧
          (run.status.isTerminal → later.status = run.status) ∧
          ((later.round, later.stage) ≠ (run.round, run.stage) → run.position < later.position) ∧
          (later.status = .accepted → run.status ≠ .accepted →
            run.stage = .decide ∧ event.decides runId) := by
  obtain ⟨bounded, prepares⟩ := inBudget_of_history history runId run found
  have begun := implementations_le runId World.fresh history
  rw [found] at begun
  refine ⟨bounded, prepares, ?_, ?_⟩
  · change _ ≤ run.begun at begun
    have bound := run.begun_le
    omega
  · intro event
    obtain ⟨later, laterFound, follows, accepts⟩ :=
      after_follows_run (World.fresh.play history) event found
    refine ⟨later, laterFound, follows.budget, ?_, ?_, accepts⟩
    · intro terminal
      rw [follows.finished terminal]
    · intro changed
      refine lt_of_le_of_ne follows.position ?_
      intro same
      obtain ⟨round, stage⟩ := position_inj same
      exact changed (by rw [round, stage])

theorem acceptedRun_within_budget :
    (World.fresh.play acceptingHistory).db.runs.find? "run-1" = some acceptedRun ∧
      World.fresh.implementations "run-1" acceptingHistory ≤ acceptedRun.maxRepairTurns + 1 :=
  ⟨acceptedRun_found,
    (runs_advance_within_budget acceptingHistory "run-1" acceptedRun acceptedRun_found).2.2.1⟩

end Jackin.Workflow
