import Mathlib
import Jackin.Foundation.Text
import Jackin.Workflow.Model
import Jackin.WorkflowSpec.Plan

/-!
# The nodes of a plan and the states of its run

A compiled plan lists one node for each stage and round a run can come to.
The list is written down from the repair budget; the reducer of the runs
comes to a stage by observations.  Both describe the same positions.
-/

namespace Jackin.WorkflowSpec

open List Foundation Workflow

variable {maxRepairTurns round : Nat} {view : RunView}

/-- The states of a run that observations can bring about. -/
inductive Reaches (maxRepairTurns : Nat) : RunView → Prop where
  | start (generation : Nat) : Reaches maxRepairTurns ⟨.active, .prepare, 0, generation⟩
  | observe {view : RunView} {observation : Observation} {actor : Actor}
      {next : NextState} (reaches : Reaches maxRepairTurns view)
      (advanced : advance view maxRepairTurns observation actor = .ok next) :
      Reaches maxRepairTurns ⟨next.status, next.stage, next.round, view.candidateGeneration⟩

/-- The positions of a plan: the start, and the other stages of each round. -/
def Planned (maxRepairTurns : Nat) (stage : Stage) (round : Nat) : Prop :=
  round ≤ maxRepairTurns ∧ (stage = .prepare → round = 0)

theorem Reaches.planned (reaches : Reaches maxRepairTurns view) :
    Planned maxRepairTurns view.stage view.round := by
  induction reaches with
  | start => exact ⟨Nat.zero_le _, fun _ => rfl⟩
  | @observe view _ _ next _ advanced ih =>
    obtain ⟨within, first⟩ := ih
    rcases advance_onward advanced with ⟨same, later⟩ | ⟨repairs, _, bound⟩
    · refine ⟨same.trans_le within, fun prepares => same.trans (first ?_)⟩
      change next.stage = .prepare at prepares
      rw [prepares] at later
      exact Stage.rank_injective (Nat.le_zero.mp later)
    · refine ⟨bound, fun prepares => ?_⟩
      rw [repairs] at prepares
      cases prepares

theorem Reaches.step {next}
    (reaches : Reaches maxRepairTurns ⟨.active, stage, round, 0⟩)
    (observation : Observation)
    (advanced : advance ⟨.active, stage, round, 0⟩ maxRepairTurns observation
      .host = .ok ⟨.active, next, later, kind⟩) :
    Reaches maxRepairTurns ⟨.active, next, later, 0⟩ :=
  reaches.observe advanced

/-- From its implementation on, a round can be gone through to the end. -/
theorem Reaches.throughout (implements : Reaches maxRepairTurns ⟨.active, .implement, round, 0⟩)
    (started : stage ≠ .prepare) :
    Reaches maxRepairTurns ⟨.active, stage, round, 0⟩ := by
  have captures := implements.step .turnEnded rfl
  have tests := captures.step .testStarted rfl
  have reviews := tests.step .testPassed rfl
  cases stage with
  | prepare => exact absurd rfl started
  | implement => exact implements
  | capture => exact captures
  | test => exact tests
  | review => exact reviews
  | decide => exact reviews.step .reviewPassed rfl

/-- Failing tests lead into every round of the budget. -/
theorem reaches_implement (within : round ≤ maxRepairTurns) :
    Reaches maxRepairTurns ⟨.active, .implement, round, 0⟩ := by
  induction round with
  | zero => exact (Reaches.start 0).step .turnStarted rfl
  | succ round ih =>
    have implements := ih (Nat.le_of_succ_le within)
    have tests : Reaches maxRepairTurns ⟨.active, .test, round, 0⟩ :=
      implements.throughout (by decide)
    exact tests.step .testFailed (advance_testFailed within)

theorem reaches_of_planned (planned : Planned maxRepairTurns stage round) :
    Reaches maxRepairTurns ⟨.active, stage, round, 0⟩ := by
  by_cases first : stage = .prepare
  · rw [first, planned.2 first]
    exact .start 0
  · exact (reaches_implement planned.1).throughout first

theorem mem_repairStages :
    name ∈ repairStages.drop 1 ↔
      ∃ stage : Stage, stage ≠ .prepare ∧ stage.asStr = name := by
  constructor
  · intro member
    simp only [repairStages, drop_succ_cons, drop_zero, mem_cons, not_mem_nil, or_false] at member
    rcases member with rfl | rfl | rfl | rfl | rfl
    · exact ⟨.implement, by decide, rfl⟩
    · exact ⟨.capture, by decide, rfl⟩
    · exact ⟨.test, by decide, rfl⟩
    · exact ⟨.review, by decide, rfl⟩
    · exact ⟨.decide, by decide, rfl⟩
  · rintro ⟨stage, later, rfl⟩
    cases stage with
    | prepare => exact absurd rfl later
    | implement | capture | test | review | decide => decide

theorem planned_iff_node :
    (∃ stage : Stage, stage.asStr = name ∧ Planned maxRepairTurns stage round) ↔
      ∃ node ∈ repairNodes maxRepairTurns, node.stage = name ∧ node.round = round := by
  simp only [repairNodes, mem_cons, mem_flatMap, mem_range, mem_map, mem_repairStages]
  constructor
  · rintro ⟨stage, rfl, within, first⟩
    by_cases prepares : stage = .prepare
    · subst prepares
      rw [first rfl]
      exact ⟨_, .inl rfl, rfl, rfl⟩
    · exact ⟨_, .inr ⟨round, Nat.lt_succ_of_le within, _, ⟨stage, prepares, rfl⟩, rfl⟩, rfl, rfl⟩
  · rintro ⟨node, rfl | ⟨other, within, _, ⟨stage, later, rfl⟩, rfl⟩, rfl, rfl⟩
    · exact ⟨.prepare, rfl, Nat.zero_le _, fun _ => rfl⟩
    · exact ⟨stage, rfl, Nat.le_of_lt_succ within, fun prepares => absurd prepares later⟩

/-- An identifier tells the stage and the round. -/
theorem nodeId_inj {first second : String} {round later : Nat}
    (same : s!"{first}@r{round}" = s!"{second}@r{later}") :
    first = second ∧ round = later := by
  have letters := congrArg String.toList same
  simp only [String.toList_append] at letters
  have marked : (toString "@r").toList = ['@'] ++ ['r'] := rfl
  rw [marked, ← append_assoc, ← append_assoc, append_assoc, append_assoc (_ ++ ['@'])] at letters
  obtain ⟨stages, rounds⟩ := Text.append_separator_inj (Text.not_mem_toString (by decide))
    (Text.not_mem_toString (by decide)) letters
  exact ⟨String.toList_injective (append_cancel_right stages),
    Nat.repr_inj.mp (String.toList_injective rounds)⟩

theorem repairNodes_ids : ((repairNodes maxRepairTurns).map (·.id)).Nodup := by
  simp only [repairNodes, map_cons, map_flatMap, map_map]
  refine nodup_cons.mpr ⟨?_, nodup_flatMap.mpr ⟨?_, ?_⟩⟩
  · simp only [mem_flatMap, mem_map]
    rintro ⟨round, _, stage, member, same⟩
    rw [(@nodeId_inj stage "prepare" round 0 same).1] at member
    exact absurd member (by decide)
  · intro round _
    refine Nodup.map ?_ (by decide)
    intro one other same
    exact (nodeId_inj same).1
  · refine nodup_range.imp ?_
    intro one other differ id member there
    simp only [mem_map] at member there
    obtain ⟨_, _, rfl⟩ := member
    obtain ⟨_, _, same⟩ := there
    exact differ (nodeId_inj same).2.symm

/--
The positions a run can come to are the nodes of the plan, and the nodes have
different identifiers.
-/
theorem repairNodes_reachable (maxRepairTurns : Nat) :
    {position : String × Nat | ∃ view, Reaches maxRepairTurns view ∧
        position = (view.stage.asStr, view.round)} =
      {position | ∃ node ∈ repairNodes maxRepairTurns, position = (node.stage, node.round)} ∧
    ((repairNodes maxRepairTurns).map (·.id)).Nodup := by
  refine ⟨?_, repairNodes_ids⟩
  ext ⟨name, round⟩
  simp only [Set.mem_ofPred_eq, Prod.mk.injEq]
  constructor
  · rintro ⟨view, reaches, rfl, rfl⟩
    obtain ⟨node, member, stage, round⟩ := planned_iff_node.mp ⟨view.stage, rfl, reaches.planned⟩
    exact ⟨node, member, stage.symm, round.symm⟩
  · rintro ⟨node, member, rfl, rfl⟩
    obtain ⟨_, named, planned⟩ := planned_iff_node.mpr ⟨node, member, rfl, rfl⟩
    exact ⟨_, reaches_of_planned planned, named.symm, rfl⟩

end Jackin.WorkflowSpec
