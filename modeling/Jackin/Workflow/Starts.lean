import Jackin.Workflow.Rounds

/-!
# Starting runs

A run is started under an idempotency key, and only while no other run is
open.  Both are queries before the insert.  They suffice for a single slot
because no change of the store opens a finished run again, and for stable
answers because a stored key stays with its run.
-/

namespace Jackin.Workflow

open Foundation Table

variable {world before after : World}

/-! ## One open run, one run per key -/

/-- At most one run is open, and a key belongs to one run. -/
structure World.Single (world : World) : Prop where
  oneOpen : ∀ first second, OpenRun world first → OpenRun world second → first.runId = second.runId
  oneKey : ∀ firstId secondId first second,
    world.db.runs.find? firstId = some first → world.db.runs.find? secondId = some second →
      first.idempotencyKey = second.idempotencyKey → firstId = secondId

theorem isOpen_iff : Database.isOpen run ↔ run.status.isTerminal = false := by
  unfold Database.isOpen
  cases run.status <;> decide

/-- No run is open when the query for one finds none. -/
theorem not_open_of_idle (idle : world.db.activeRun = none) :
    ¬OpenRun world run := by
  rintro ⟨found, nonterminal⟩
  have closed := List.find?_eq_none.mp idle run (mem_of_find? found)
  exact closed (isOpen_iff.mpr nonterminal)

/-- No run has a key that the query for it does not find. -/
theorem key_ne_of_unkeyed (unkeyed : world.db.runByKey key = none)
    (found : world.db.runs.find? runId = some run) :
    run.idempotencyKey ≠ key := by
  have other := List.find?_eq_none.mp unkeyed run (mem_of_find? found)
  intro same
  exact other (beq_iff_eq.mpr same)

/-- The rows that a transition leaves come from rows with the same key. -/
theorem find?_of_moved (isOpen : OpenRun world moved)
    (updated : runs = movedRuns world.db.runs moved.runId transition epoch)
    (found : runs.find? runId = some later) :
    ∃ run, world.db.runs.find? runId = some run ∧ run.idempotencyKey = later.idempotencyKey ∧
      (later.status.isTerminal = false → run.status.isTerminal = false) := by
  rw [updated, find?_update] at found
  split at found
  · rename_i here
    rw [here, isOpen.1] at found
    cases found
    refine ⟨moved, ?_, rfl, fun _ => isOpen.2⟩
    rw [here]
    exact isOpen.1
  · exact ⟨later, found, rfl, id⟩

theorem World.Single.moved {moved}
    (single : before.Single) (isOpen : OpenRun before moved)
    (runs : after.db.runs = movedRuns before.db.runs moved.runId transition epoch) :
    after.Single where
  oneOpen first second firstOpen secondOpen := by
    obtain ⟨run, found, _, nonterminal⟩ := find?_of_moved isOpen runs firstOpen.1
    obtain ⟨other, otherFound, _, otherNonterminal⟩ := find?_of_moved isOpen runs secondOpen.1
    obtain ⟨runOpen, key⟩ := OpenRun.of_find found (nonterminal firstOpen.2)
    obtain ⟨otherOpen, otherKey⟩ := OpenRun.of_find otherFound (otherNonterminal secondOpen.2)
    rw [← key, ← otherKey]
    exact single.oneOpen run other runOpen otherOpen
  oneKey firstId secondId first second firstFound secondFound same := by
    obtain ⟨run, found, key, _⟩ := find?_of_moved isOpen runs firstFound
    obtain ⟨other, otherFound, otherKey, _⟩ := find?_of_moved isOpen runs secondFound
    exact single.oneKey firstId secondId run other found otherFound
      (key.trans (same.trans otherKey.symm))

/-- A new run takes the free slot and a free key. -/
theorem World.Single.created (single : before.Single)
    (idle : before.db.activeRun = none)
    (unkeyed : before.db.runByKey run.idempotencyKey = none)
    (inserted : before.db.runs.insert? run = some after.db.runs) :
    after.Single where
  oneOpen first second firstOpen secondOpen := by
    have isNew : ∀ row, OpenRun after row → row.runId = run.runId := by
      intro row rowOpen
      have found := rowOpen.1
      rw [find?_of_insert? inserted] at found
      split at found
      · rename_i here
        exact here.symm
      · exact absurd ⟨found, rowOpen.2⟩ (not_open_of_idle idle)
    rw [isNew first firstOpen, isNew second secondOpen]
  oneKey firstId secondId first second firstFound secondFound same := by
    rw [find?_of_insert? inserted] at firstFound secondFound
    split at firstFound
    · rename_i here
      cases firstFound
      split at secondFound
      · rename_i there
        exact here.symm.trans there
      · exact absurd same.symm (key_ne_of_unkeyed unkeyed secondFound)
    · split at secondFound
      · cases secondFound
        exact absurd same (key_ne_of_unkeyed unkeyed firstFound)
      · exact single.oneKey firstId secondId first second firstFound secondFound same

theorem World.Single.of_runs (single : before.Single)
    (runs : after.db.runs = before.db.runs) :
    after.Single where
  oneOpen first second firstOpen secondOpen :=
    single.oneOpen first second (firstOpen.of_runs runs.symm) (secondOpen.of_runs runs.symm)
  oneKey firstId secondId first second firstFound secondFound same := by
    rw [runs] at firstFound secondFound
    exact single.oneKey firstId secondId first second firstFound secondFound same

theorem Progress.single {queues starts : Prop}
    (progress : Progress queues starts before after)
    (single : before.Single) : after.Single := by
  cases progress with
  | settled runs | queued _ runs => exact single.of_runs runs
  | created _ _ _ _ idle unkeyed inserted => exact single.created idle unkeyed inserted
  | moved _ isOpen _ _ runs => exact single.moved isOpen runs

theorem single_of_history : (World.fresh.play history).Single := by
  refine play_invariant_of_after World.Single ?_ ?_ history
  · intro world event single
    refine after_invariant ?_ ?_ single
    · exact fun _ _ progress => progress.single
    · intro run before after decided earlier
      obtain ⟨_, _, _, _, runs, _⟩ := decided.moved
      exact earlier.moved decided.isOpen runs
  · refine ⟨?_, ?_⟩
    · intro first second firstOpen
      cases firstOpen.1
    · rintro firstId secondId first second ⟨⟩

/-- An answered start has stored its key under the run it reports. -/
theorem startRun_answered {service : Service} :
    (service.startRun planHash maxRepairTurns idempotencyKey).Ends session
      (fun answer reached => ∃ run,
        reached.world.db.runs.find? answer.runId = some run ∧ run.idempotencyKey = idempotencyKey)
      (fun _ => True) := by
  refine Reads.ensure.ends_bind (fun _ => trivial) fun _ _ _ => ?_
  refine Reads.query.ends_bind (fun _ => trivial) fun existing _ found => ?_
  cases existing with
  | some run =>
    have key := List.find?_some found.symm
    refine .pure ⟨run, ?_, beq_iff_eq.mp key⟩
    exact mem_rows_iff.mp (List.mem_of_find?_eq_some found.symm)
  | none =>
    refine Reads.query.ends_bind (fun _ => trivial) fun active _ _ => ?_
    cases active with
    | some run => exact trivial
    | none =>
      refine .bind (fun _ created => ∃ run, created.world.db.runs.find?
              ("run-" ++ service.env.freshId) = some run ∧
            run.idempotencyKey = idempotencyKey)
        (.of_exec ?_ trivial) ?_
      · intro _ created creating
        obtain ⟨runs, _, inserted, world⟩ := createRun_changes.answered creating
        rw [world]
        exact ⟨_, find?_self_of_insert? inserted, rfl⟩
      · rintro _ created ⟨run, stored, key⟩
        refine .bind
          (fun _ planned => planned.world.db.runs.find? ("run-" ++ service.env.freshId) = some run)
          (.of_exec ?_ trivial) ?_
        · intro effect planned planning
          obtain ⟨_, world, _⟩ := ensureEffect_answered planning
          rwa [world]
        · intro _ planned kept
          refine .of_exec ?_ trivial
          intro answer reached summarizing
          obtain ⟨⟨summarized, found, rfl⟩, world⟩ := summaryOf_reads.answered summarizing
          have name : summarized.runId = "run-" ++ service.env.freshId := key_of_find? found
          refine ⟨run, ?_, key⟩
          rw [world]
          change planned.world.db.runs.find? summarized.runId = _
          rwa [name]

/-- The row of a run stays, with its key, through a history. -/
theorem key_kept (world : World) (history : List Event)
    (found : world.db.runs.find? runId = some run) :
    ∃ later, (world.play history).db.runs.find? runId = some later ∧
      later.idempotencyKey = run.idempotencyKey := by
  induction history generalizing world run with
  | nil => exact ⟨run, found, rfl⟩
  | cons event rest ih =>
    obtain ⟨_, middleFound, follows, _⟩ := after_follows_run world event found
    obtain ⟨later, laterFound, key⟩ := ih (world.after event) middleFound
    exact ⟨later, laterFound, key.trans follows.key⟩

/-- The world after an answered start is the world after its call. -/
theorem startRun_after
    (answered :
      (service.startRun planHash maxRepairTurns idempotencyKey).exec
        ⟨world, faults⟩ = (.ok answer, reached)) :
    reached.world = world.after (.called ⟨service, faults,
      .startRun planHash maxRepairTurns idempotencyKey⟩) := by
  unfold World.after Call.exec
  dsimp only [Service.perform]
  rw [discard_world, answered]

/--
From an empty store, at most one run is open at any time, and two answered
starts under one key report the same run, whatever happens in between.
-/
theorem single_slot_and_stable_starts (history : List Event) :
    (∀ first second, OpenRun (World.fresh.play history) first →
      OpenRun (World.fresh.play history) second → first.runId = second.runId) ∧
      ∀ (service later : Service) (faults laterFaults : List (Option Fault))
        (planHash laterPlan : String) (turns laterTurns : Nat)
        (idempotencyKey : String) (between : List Event)
        (answer laterAnswer : RunSummary) (reached final : Session),
        (service.startRun planHash turns idempotencyKey).exec
            ⟨World.fresh.play history, faults⟩ = (.ok answer, reached) →
          (later.startRun laterPlan laterTurns idempotencyKey).exec
              ⟨reached.world.play between, laterFaults⟩ =
            (.ok laterAnswer, final) → laterAnswer.runId = answer.runId := by
  refine ⟨single_of_history.oneOpen, ?_⟩
  intro service later faults laterFaults planHash laterPlan turns laterTurns
    idempotencyKey between answer laterAnswer reached final first second
  obtain ⟨run, found, key⟩ := startRun_answered.answered first
  obtain ⟨other, otherFound, otherKey⟩ := startRun_answered.answered second
  -- The first run is still stored under its key when the second call ends.
  obtain ⟨_, middleFound, middleKey⟩ := key_kept reached.world between found
  obtain ⟨last, lastFound, follows, _⟩ :=
    after_follows_run _ (.called ⟨later, laterFaults,
      .startRun laterPlan laterTurns idempotencyKey⟩) middleFound
  have reachable : final.world = World.fresh.play (history ++ .called ⟨service, faults,
          .startRun planHash turns idempotencyKey⟩ ::
        (between ++ [.called ⟨later, laterFaults,
          .startRun laterPlan laterTurns idempotencyKey⟩])) := by
    rw [World.play_append, World.play_cons, World.play_append,
      startRun_after second, startRun_after first]
    rfl
  rw [← startRun_after second] at lastFound
  rw [reachable] at lastFound otherFound
  exact single_of_history.oneKey _ _ other last otherFound lastFound
    (otherKey.trans (key.symm.trans (middleKey.symm.trans follows.key.symm)))

/-- The start that the samples repeat. -/
def sampleStart : Method RunSummary := Service.startRun ⟨1, firstEnvironment⟩ "plan" 3 "key"

theorem repeated_start_reports_one_run :
    ∃ answer laterAnswer reached final, sampleStart.exec ⟨World.fresh.play [.opened], []⟩ =
          (.ok answer, reached) ∧
        sampleStart.exec ⟨reached.world.play [.opened], []⟩ =
          (.ok laterAnswer, final) ∧
        laterAnswer.runId = answer.runId := by
  refine ⟨_, _, _, _, rfl, rfl, ?_⟩
  exact (single_slot_and_stable_starts [.opened]).2
    ⟨1, firstEnvironment⟩ ⟨1, firstEnvironment⟩ [] [] "plan" "plan" 3 3
    "key" [.opened] _ _
    (sampleStart.exec ⟨World.fresh.play [.opened], []⟩).2 _ rfl rfl

end Jackin.Workflow
