import Mathlib

/-!
# Fallible programs over a state

A service method reads and writes a store and stops at the first failure; what
it wrote before that failure stays written.  `Program` is that shape, and
`exec` runs a program from a state to its result and the state it leaves.

`Ends` is about both ways to end.  `Emits` says that, however the program
ends, the visible part of the state moved along a path of permitted steps.
The rules follow the program text.
-/

namespace Jackin.Foundation

/-- What every step of a path preserves, the path preserves. -/
theorem invariant_of_path {World : Type} {Step}
    {before after} (invariant : World → Prop)
    (path : Relation.ReflTransGen Step before after)
    (preserved : ∀ earlier later, Step earlier later →
      invariant earlier → invariant later) (initial : invariant before) : invariant after := by
  induction path with
  | refl => exact initial
  | tail _ step ih => exact preserved _ _ step ih

/-- A computation that can fail, keeping the state it had reached. -/
abbrev Program (State Failure : Type) := ExceptT Failure (StateM State)

namespace Program

variable {State Failure Value Result : Type}

variable {program : Program State Failure Value}
    {next : Value → Program State Failure Result}
    {state reached : State} {failure : Failure} {condition : Prop}
    {value : Option Value}

/-- Run a program from a state. -/
def exec (program : Program State Failure Value)
    (state : State) : Except Failure Value × State :=
  program.run.run state

@[simp]
theorem exec_get :
    exec (get : Program State Failure State) state = (.ok state, state) := rfl

theorem exec_bind :
    exec (program >>= next) state = match exec program state with
      | (.ok value, reached) => exec (next value) reached
      | (.error failure, reached) => (.error failure, reached) := by
  change (match (program.run.run state : Except Failure Value × State) with
      | (result, reached) => (ExceptT.bindCont next result).run reached) = _
  cases equality : exec program state with
  | mk result reached =>
    have run : program.run.run state = (result, reached) := equality
    rw [run]
    cases result <;> rfl

theorem exec_bind_ok {value}
    (first : exec program state = (.ok value, reached)) :
    exec (program >>= next) state = exec (next value) reached := by
  rw [exec_bind, first]

/-- A successful sequence is a success of both of its parts. -/
theorem exec_bind_eq_ok (success : exec (program >>= next) state = (.ok result, final)) :
    ∃ value reached, exec program state = (.ok value, reached) ∧
        exec (next value) reached = (.ok result, final) := by
  rw [exec_bind] at success
  cases first : exec program state with
  | mk outcome reached =>
    rw [first] at success
    cases outcome with
    | ok value => exact ⟨value, reached, rfl, success⟩
    | error failure => cases success

theorem exec_bind_ok_iff :
    exec (program >>= next) state = (.ok result, final) ↔ ∃ value reached,
        exec program state = (.ok value, reached) ∧
          exec (next value) reached = (.ok result, final) := by
  refine ⟨exec_bind_eq_ok, ?_⟩
  rintro ⟨value, reached, first, rest⟩
  rwa [exec_bind_ok first]

/-- Fail unless the condition holds. -/
def ensure (condition : Prop) [Decidable condition] (failure : Failure) :
    Program State Failure Unit :=
  if condition then pure () else throw failure

/-- The value of an option, or a failure when there is none. -/
def require (value : Option Value)
    (failure : Failure) : Program State Failure Value :=
  match value with
  | some present => pure present
  | none => throw failure

/-- Continue with the value of a finished fallible computation. -/
def lift (result : Except Failure Value) : Program State Failure Value :=
  match result with
  | .ok value => pure value
  | .error failure => throw failure

theorem exec_ensure (condition : Prop) [Decidable condition] (failure : Failure)
    (state : State) :
    exec (ensure condition failure) state =
      (if condition then .ok () else .error failure, state) := by
  unfold ensure
  split <;> rfl

theorem exec_ensure_of [Decidable condition] (holds : condition)
    (state : State) :
    exec (ensure condition failure) state = (.ok (), state) := by
  rw [exec_ensure, if_pos holds]

theorem ensure_ok [Decidable condition] {value}
    (success : exec (ensure condition failure) state = (.ok value, reached)) :
    condition ∧ reached = state := by
  rw [exec_ensure] at success
  split at success
  · cases success
    exact ⟨‹condition›, rfl⟩
  · cases success

theorem require_ok
    (success : exec (require value failure) state = (.ok present, reached)) :
    value = some present ∧ reached = state := by
  cases value with
  | some stored =>
    cases success
    exact ⟨rfl, rfl⟩
  | none => cases success

theorem require_ok_iff :
    exec (require value failure) state = (.ok present, reached) ↔
      value = some present ∧ reached = state := by
  refine ⟨require_ok, ?_⟩
  rintro ⟨rfl, rfl⟩
  rfl

/-- Apply a program to each item in turn and collect what it reports. -/
def forEach {Item Report : Type}
    (action : Item → Program State Failure (List Report)) :
    List Item → Program State Failure (List Report)
  | [] => pure []
  | item :: rest => do
    let reports ← action item
    let others ← forEach action rest
    return reports ++ others

/-! ## Both ways to end -/

/--
The program, run from a state, ends in a success or in a failure that
satisfies the corresponding condition.
-/
def Ends (program : Program State Failure Value) (state : State)
    (success : Value → State → Prop) (failed : State → Prop) : Prop :=
  match exec program state with
  | (.ok value, reached) => success value reached
  | (.error _, reached) => failed reached

/-- Either way the program leaves a state as described. -/
abbrev Leaves (program : Program State Failure Value) (state : State)
    (holds : State → Prop) : Prop :=
  Ends program state (fun _ => holds) holds

section

variable {success weaker : Value → State → Prop} {failed : State → Prop}

theorem Ends.of_exec
    (answered : ∀ result reached,
      exec program state = (.ok result, reached) → success result reached)
    (final : failed (exec program state).2) :
    Ends program state success failed := by
  unfold Ends
  cases equality : exec program state with
  | mk outcome reached =>
    cases outcome with
    | ok result => exact answered result reached equality
    | error failure => rwa [equality] at final

theorem Ends.pure {value} (holds : success value state) :
    Ends (Pure.pure value : Program State Failure Value) state success failed :=
  holds

theorem Ends.bind {success} (middle : Value → State → Prop)
    (first : Ends program state middle failed)
    (rest : ∀ value reached, middle value reached → Ends (next value) reached success failed) :
    Ends (program >>= next) state success failed := by
  unfold Ends at first ⊢
  rw [exec_bind]
  cases equality : exec program state with
  | mk outcome reached =>
    rw [equality] at first
    cases outcome with
    | ok value => exact rest value reached first
    | error failure => exact first

section

variable (ends : Ends program state success failed)
include ends

/-- Weaken both ways to end. -/
theorem Ends.imply (succeeds : ∀ result reached, success result reached → weaker result reached)
    (fails : ∀ reached, failed reached → weakerFailed reached) :
    Ends program state weaker weakerFailed := by
  unfold Ends at ends ⊢
  cases equality : exec program state with
  | mk outcome reached =>
    rw [equality] at ends
    cases outcome with
    | ok result => exact succeeds result reached ends
    | error failure => exact fails reached ends

theorem Ends.weaken (imply : ∀ result reached, success result reached → weaker result reached) :
    Ends program state weaker failed :=
  ends.imply imply fun _ => id

theorem Ends.answered {result}
    (answer : exec program state = (.ok result, reached)) :
    success result reached := by
  rwa [Ends, answer] at ends

end

theorem Ends.require
    (present : ∀ result, value = some result → success result state)
    (absent : failed state) :
    Ends (require value failure) state success failed := by
  cases value with
  | some result => exact present result rfl
  | none => exact absent

/-- A guard ends the program or hands over its condition. -/
theorem Ends.ensure [Decidable condition] {next} (refused : failed state)
    (rest : condition → Ends (next ()) state success failed) :
    Ends (ensure condition failure >>= next) state success failed := by
  unfold Ends
  by_cases holds : condition
  · rw [exec_bind_ok (exec_ensure_of holds state)]
    exact rest holds
  · rwa [exec_bind, exec_ensure, if_neg holds]

/-- A condition that holds either way holds of the state reached. -/
theorem Ends.final (ends : Leaves program state failed) :
    failed (exec program state).2 := by
  unfold Leaves Ends at ends
  cases equality : exec program state with
  | mk outcome reached =>
    rw [equality] at ends
    cases outcome <;> exact ends

theorem Ends.of_final (final : failed (exec program state).2) :
    Leaves program state failed := by
  refine .of_exec ?_ final
  intro result reached success
  rwa [success] at final

/-- A condition on states that both parts of a sequence establish. -/
theorem final_bind (holds : State → Prop) (first : holds (exec program state).2)
    (rest : ∀ value reached, holds reached → holds (exec (next value) reached).2) :
    holds (exec (program >>= next) state).2 :=
  (Ends.bind (fun _ => holds) (.of_final first)
    fun value reached still => .of_final (rest value reached still)).final

/-- A condition on the final state, by the ways the first part ends. -/
theorem final_cases (holds : State → Prop)
    (fails : ∀ failure reached, exec program state = (.error failure, reached) → holds reached)
    (rest : ∀ value reached, exec program state = (.ok value, reached) →
      holds (exec (next value) reached).2) : holds (exec (program >>= next) state).2 := by
  rw [exec_bind]
  cases outcome : exec program state with
  | mk result reached =>
    cases result with
    | ok value => exact rest value reached outcome
    | error failure => exact fails failure reached outcome

theorem final_ensure [Decidable condition]
    {next : Unit → Program State Failure Result}
    (holds : State → Prop) (refused : ¬condition → holds state)
    (rest : condition → holds (exec (next ()) state).2) :
    holds (exec (ensure condition failure >>= next) state).2 := by
  by_cases passed : condition
  · rw [exec_bind_ok (exec_ensure_of passed state)]
    exact rest passed
  · rw [exec_bind, exec_ensure, if_neg passed]
    exact refused passed

/-- What follows a program that does not answer is not executed. -/
theorem final_bind_of_fails (fails : ∀ value, (exec program state).1 ≠ .ok value) :
    (exec (program >>= next) state).2 = (exec program state).2 := by
  refine final_cases (· = (exec program state).2) (fun _ _ failed => by rw [failed]) ?_
  exact fun value _ answered => absurd (congrArg Prod.fst answered) (fails value)

end

/-! ## Visible paths -/

section

variable {World : Type} (view : State → World) (Step : World → World → Prop)

/--
However the program ends, the visible state has moved along a finite path of
steps.
-/
def Emits (program : Program State Failure Value) (state : State) : Prop :=
  Relation.ReflTransGen Step (view state) (view (exec program state).2)

variable {view Step}

theorem Emits.of_unchanged (unchanged : view (exec program state).2 = view state) :
    Emits view Step program state := by
  rw [Emits, unchanged]

theorem Emits.pure {value} :
    Emits view Step (Pure.pure value : Program State Failure Value) state :=
  Emits.of_unchanged rfl

theorem Emits.throw :
    Emits view Step (MonadExcept.throw failure : Program State Failure Value) state :=
  Emits.of_unchanged rfl

theorem Emits.bind (first : Emits view Step program state)
    (rest :
      ∀ value reached, exec program state = (.ok value, reached) →
        Emits view Step (next value) reached) :
    Emits view Step (program >>= next) state := by
  unfold Emits at first
  refine final_cases (fun reached => Relation.ReflTransGen Step (view state) (view reached)) ?_ ?_
  · intro failure reached failed
    rwa [failed] at first
  · intro value reached answered
    rw [answered] at first
    exact first.trans (rest value reached answered)

theorem Emits.ensure [Decidable condition]
    {next : Unit → Program State Failure Result}
    (rest : condition → Emits view Step (next ()) state) :
    Emits view Step (ensure condition failure >>= next) state :=
  final_ensure (fun reached => Relation.ReflTransGen Step (view state) (view reached))
    (fun _ => .refl) rest

theorem Emits.require
    (rest : ∀ present, value = some present → Emits view Step (next present) state) :
    Emits view Step (require value failure >>= next) state := by
  cases value with
  | some present => exact rest present rfl
  | none => exact .of_unchanged rfl

theorem Emits.lift {result}
    (rest : ∀ value, result = .ok value → Emits view Step (next value) state) :
    Emits view Step (lift result >>= next) state := by
  cases result with
  | ok value => exact rest value rfl
  | error failure => exact .of_unchanged rfl

/-- What every step preserves, the whole program preserves. -/
theorem Emits.invariant {invariant : World → Prop}
    (emits : Emits view Step program state)
    (preserved : ∀ before after, Step before after →
      invariant before → invariant after) (initial : invariant (view state)) :
    invariant (view (exec program state).2) :=
  invariant_of_path invariant emits preserved initial

/--
Collecting over a list emits what each item emits, from any state that still
has what every step preserves.
-/
theorem Emits.forEach (kept : World → Prop)
    (preserved : ∀ before after, Step before after → kept before → kept after)
    (initial : kept (view state))
    (each : ∀ item ∈ items, ∀ reached, kept (view reached) →
      Emits view Step (action item) reached) :
    Emits view Step (forEach action items) state := by
  induction items generalizing state with
  | nil => exact .pure
  | cons item rest ih =>
    have first := each item (by simp) state initial
    refine .bind first ?_
    intro reports reached success
    have stillKept := first.invariant preserved initial
    rw [success] at stillKept
    refine .bind (ih stillKept (fun other member => each other (by simp [member]))) ?_
    intro others final _
    exact .pure

end

end Program

end Jackin.Foundation
