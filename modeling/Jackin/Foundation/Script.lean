import Mathlib

/-!
# Scripts of operations that fail or are cut off

A script is a program whose operations reach outside the process: each of
them works, fails, or is the one during which the process dies.  What becomes
of the operations is a list of fates; an exhausted list means that everything
from there on works.  A failed operation is an error like any other, which the
script can catch.  No handler of the script sees a death.

An operation that is not atomic may have been carried out in part when it
fails or the process dies in it; the extent of a fate says how far it got.
Every operation that does not work is an incident of the run.

`Outcomes` is the judgement about scripts: in every run all of whose incidents
are tolerated, the script ends in a success, in a failure or in a death that
satisfies the corresponding condition.
-/

namespace Jackin.Foundation

/-- What becomes of one operation. -/
inductive Fate where
  | works
  /-- The operation reports an error after the given extent. -/
  | fails (extent : Nat)
  /--
  The process dies: right after the operation at extent zero, otherwise
  inside the operation.
  -/
  | dies (extent : Nat)

/-- Why a script stopped without a result. -/
inductive Stop (Failure : Type) where
  | failed (failure : Failure)
  | died
  deriving DecidableEq

/-- An operation that did not work, and what was before and after it. -/
structure Incident (World : Type) where
  fate : Fate
  before : World
  left : World

/-- How a script ended, and what it met on the way. -/
structure Run (World Failure Value : Type) where
  result : Except (Stop Failure) Value
  world : World
  fates : List Fate
  incidents : List (Incident World)

/-- A program of operations that can fail and in which the process can die. -/
def Script (World Failure Value : Type) :=
  World → List Fate → Run World Failure Value

/--
An operation on the world.  `complete` is what it answers and leaves when it
is carried out, `partly` what is left when it got only to an extent, and
`failure` the error it then reports.
-/
structure Operation (World Failure Value : Type) where
  complete : World → Except Failure Value × World
  partly : Nat → World → World := fun _ world => world
  failure : Failure

namespace Script

variable {World Failure Value Result : Type}

variable {script : Script World Failure Value} {fates : List Fate}
    {value : Value}
    {failure : Failure} {next : Value → Script World Failure Result}
    {finish : Result → World → Prop} {operation : Operation World Failure Value}

/-! ## Scripts -/

instance : Monad (Script World Failure) where
  pure := fun value world fates => ⟨.ok value, world, fates, []⟩
  bind := fun script next world fates =>
    let first := script world fates
    match first.result with
    | .ok value =>
      let second := next value first.world first.fates
      { second with incidents := first.incidents ++ second.incidents }
    | .error stop => ⟨.error stop, first.world, first.fates, first.incidents⟩

/-- Stop with an error of the script itself. -/
def fail (failure : Failure) : Script World Failure Value :=
  fun world fates => ⟨.error (.failed failure), world, fates, []⟩

/-- Stop with an error unless the condition holds. -/
def ensure (condition : Prop) [Decidable condition] (failure : Failure) :
    Script World Failure Unit :=
  if condition then pure () else fail failure

/-- Continue with the value of a finished fallible computation. -/
def lift : Except Failure Value → Script World Failure Value
  | .ok value => pure value
  | .error failure => fail failure

/-- Hand an error of the script over as a value; a death is not caught. -/
def attempt (script : Script World Failure Value) :
    Script World Failure (Except Failure Value) := fun world fates =>
  let run := script world fates
  { run with
    result := match run.result with
      | .ok value => .ok (.ok value)
      | .error (.failed failure) => .ok (.error failure)
      | .error .died => .error .died }

/-- What the process knows without asking. -/
def glance (view : World → Value) : Script World Failure Value :=
  fun world fates => ⟨.ok (view world), world, fates, []⟩

/-- Change what the process itself keeps. -/
def adjust (change : World → World) : Script World Failure Unit :=
  fun world fates => ⟨.ok (), change world, fates, []⟩

section

variable (operation : Operation World Failure Value)

/-- What a process leaves that dies in an operation. -/
def deathIn : Nat → World → World
  | 0, world => (operation.complete world).2
  | extent + 1, world => operation.partly extent world

/-- An operation that is carried out. -/
def carryOut (world : World) (fates : List Fate) : Run World Failure Value :=
  match operation.complete world with
  | (.ok value, reached) => ⟨.ok value, reached, fates, []⟩
  | (.error failure, reached) => ⟨.error (.failed failure), reached, fates, []⟩

/-- Meet the next fate with an operation. -/
def perform : Script World Failure Value
  | world, [] => carryOut operation world []
  | world, .works :: rest => carryOut operation world rest
  | world, .fails extent :: rest =>
    let left := operation.partly extent world
    ⟨.error (.failed operation.failure), left, rest, [⟨.fails extent, world, left⟩]⟩
  | world, .dies extent :: rest =>
    let left := deathIn operation extent world
    ⟨.error .died, left, rest, [⟨.dies extent, world, left⟩]⟩

end

/-! ## Outcomes -/

/-- A success, a failure or a death that satisfies its condition. -/
def Meets (done : Value → World → Prop) (failed : Failure → World → Prop)
    (died : World → Prop) (run : Run World Failure Value) : Prop :=
  match run.result with
  | .ok value => done value run.world
  | .error (.failed failure) => failed failure run.world
  | .error .died => died run.world

section

variable (tolerated : Incident World → Prop)

/--
In every run with tolerated incidents the script ends in a success, a failure
or a death that satisfies the corresponding condition.
-/
def Outcomes (script : Script World Failure Value) (world : World)
    (done : Value → World → Prop) (failed : Failure → World → Prop)
    (died : World → Prop) : Prop :=
  ∀ fates : List Fate, (∀ incident ∈ (script world fates).incidents, tolerated incident) →
      Meets done failed died (script world fates)

variable {tolerated} {world : World} {done : Value → World → Prop}
    {failed : Failure → World → Prop}
    {died : World → Prop}

section

variable (ends : Outcomes tolerated script world done failed died)
include ends

section

variable (calm : ∀ incident ∈ (script world fates).incidents, tolerated incident)
include calm

/-- What is known about a run that succeeded. -/
theorem Outcomes.of_ok (succeeded : (script world fates).result = .ok value) :
    done value (script world fates).world := by
  have meets := ends fates calm
  rwa [Meets, succeeded] at meets

/-- What is known about a run that failed. -/
theorem Outcomes.of_failed (stopped : (script world fates).result = .error (.failed failure)) :
    failed failure (script world fates).world := by
  have meets := ends fates calm
  rwa [Meets, stopped] at meets

end

end

theorem Outcomes.pure (holds : done value world) :
    Outcomes tolerated (Pure.pure value : Script World Failure Value) world done failed died :=
  fun _ _ => holds

theorem Outcomes.fail (holds : failed failure world) :
    Outcomes tolerated (fail failure : Script World Failure Value) world done failed died :=
  fun _ _ => holds

/-- The rest of a sequence starts from wherever its first part succeeds. -/
theorem Outcomes.bind
    (first : Outcomes tolerated script world (fun value reached =>
        Outcomes tolerated (next value) reached finish failed died)
      failed died) :
    Outcomes tolerated (script >>= next) world finish failed died := by
  intro fates calm
  have ends := first fates
  simp only [Bind.bind] at calm ⊢
  generalize script world fates = begun at ends calm ⊢
  obtain ⟨result, _, _, _⟩ := begun
  cases result with
  | ok value =>
    apply ends (fun incident member => calm incident (List.mem_append_left _ member))
    exact fun incident member => calm incident (List.mem_append_right _ member)
  | error stop => cases stop <;> exact ends calm

/-- Weaken all ways to end. -/
theorem Outcomes.imply {finish}
    (ends : Outcomes tolerated script world done failed died)
    (succeeds : ∀ value reached, done value reached → finish value reached)
    (fails : ∀ failure reached, failed failure reached → refuse failure reached)
    (dies : ∀ reached, died reached → perish reached) :
    Outcomes tolerated script world finish refuse perish := by
  intro fates calm
  have holds := ends fates calm
  unfold Meets at holds ⊢
  split at holds
  · exact succeeds _ _ holds
  · exact fails _ _ holds
  · exact dies _ holds

theorem Outcomes.ensure {condition : Prop} [Decidable condition]
    {next}
    (holds : condition → Outcomes tolerated (next ()) world done failed died)
    (refused : ¬condition → failed failure world) :
    Outcomes tolerated (ensure condition failure >>= next) world done failed died := by
  apply Outcomes.bind
  unfold Script.ensure
  split
  · exact .pure (holds ‹condition›)
  · exact .fail (refused ‹¬condition›)

theorem Outcomes.glance {next}
    (rest : Outcomes tolerated (next (view world)) world done failed died) :
    Outcomes tolerated (glance view >>= next) world done failed died :=
  Outcomes.bind fun _ _ => rest

theorem Outcomes.adjust {next}
    (rest : Outcomes tolerated (next ()) (change world) done failed died) :
    Outcomes tolerated (adjust change >>= next) world done failed died :=
  Outcomes.bind fun _ _ => rest

/-- A caught error is a value; only a death still ends the script. -/
theorem Outcomes.attempt {finish}
    (ends : Outcomes tolerated script world (fun value reached => finish (.ok value) reached)
      (fun failure reached => finish (.error failure) reached) died) :
    Outcomes tolerated (attempt script) world finish failed died := by
  intro fates calm
  have holds := ends fates calm
  unfold Meets Script.attempt at *
  generalize script world fates = run at holds ⊢
  obtain ⟨result, _, _, _⟩ := run
  cases result with
  | ok value => exact holds
  | error stop => cases stop <;> exact holds

theorem meets_carryOut
    (works : ∀ value reached,
      operation.complete world = (.ok value, reached) → done value reached)
    (refuses : ∀ failure reached,
      operation.complete world = (.error failure, reached) → failed failure reached) :
    Meets done failed died (carryOut operation world fates) := by
  unfold carryOut
  rcases completed : operation.complete world with ⟨failure | value, reached⟩
  · exact refuses failure reached completed
  · exact works value reached completed

/-- An operation is carried out, fails at some extent, or is the last. -/
theorem Outcomes.perform
    (works : ∀ value reached,
      operation.complete world = (.ok value, reached) → done value reached)
    (refuses : ∀ failure reached,
      operation.complete world = (.error failure, reached) → failed failure reached)
    (fails : ∀ extent, tolerated ⟨.fails extent, world, operation.partly extent world⟩ →
      failed operation.failure (operation.partly extent world))
    (dies : ∀ extent, tolerated ⟨.dies extent, world, deathIn operation extent world⟩ →
      died (deathIn operation extent world)) :
    Outcomes tolerated (perform operation) world done failed died := by
  intro fates calm
  cases fates with
  | nil => exact meets_carryOut works refuses
  | cons fate rest =>
    cases fate with
    | works => exact meets_carryOut works refuses
    | fails extent => exact fails extent (calm _ List.mem_cons_self)
    | dies extent => exact dies extent (calm _ List.mem_cons_self)

/--
A script that ends well, and that stops by an error or a death only at good
worlds.
-/
abbrev Steady (tolerated : Incident World → Prop) (stop : World → Prop)
    (script : Script World Failure Value) (world : World)
    (done : Value → World → Prop) : Prop :=
  Outcomes tolerated script world done (fun _ => stop) stop

variable {stop part : World → Prop} {between : Value → World → Prop}

/-- An operation that leaves a good world however far it gets. -/
theorem Steady.perform (parts : ∀ extent, stop (operation.partly extent world))
    (works : ∀ value reached,
      operation.complete world = (.ok value, reached) → stop reached ∧ done value reached)
    (refuses : ∀ failure reached,
      operation.complete world = (.error failure, reached) → stop reached) :
    Steady tolerated stop (perform operation) world done := by
  apply Outcomes.perform (fun value reached completed =>
    (works value reached completed).2) refuses fun extent _ => parts extent
  intro extent _
  cases extent with
  | succ extent => exact parts extent
  | zero =>
    rw [deathIn]
    rcases completed : operation.complete world with ⟨_ | _, reached⟩
    · exact refuses _ _ completed
    · exact (works _ _ completed).1

/-- An operation that has its whole effect or none. -/
theorem Steady.whole (whole : ∀ extent, operation.partly extent world = world)
    (before : stop world) (after : stop (operation.complete world).2)
    (works : ∀ value reached,
      operation.complete world = (.ok value, reached) → done value reached) :
    Steady tolerated stop (Script.perform operation) world done := by
  apply Steady.perform
  · intro extent
    rwa [whole]
  · intro value reached completed
    rw [completed] at after
    exact ⟨after, works value reached completed⟩
  · intro failure reached completed
    rwa [completed] at after

/-- An operation with its whole effect or none, and what comes after it. -/
theorem Steady.attemptWhole {next}
    (whole : ∀ extent, operation.partly extent world = world)
    (completed : operation.complete world = (answer, reached))
    (before : stop world)
    (after : stop reached)
    (ends : Steady tolerated stop (next answer) reached finish)
    (fails : Steady tolerated stop (next (.error operation.failure)) world finish) :
    Steady tolerated stop (attempt (Script.perform operation) >>= next) world finish := by
  refine .bind (Outcomes.attempt ?_)
  apply Outcomes.perform
  case works =>
    intro value left works
    rw [completed] at works
    cases works
    exact ends
  case refuses =>
    intro failure left refuses
    rw [completed] at refuses
    cases refuses
    exact ends
  case fails =>
    intro extent _
    rwa [whole]
  case dies =>
    intro extent _
    cases extent with
    | zero =>
      simp only [deathIn, completed]
      exact after
    | succ extent =>
      simp only [deathIn, whole]
      exact before

/-- Where a script leaves the world, if all its ends are good. -/
theorem Outcomes.leaves (ends : Steady tolerated stop script world fun _ => stop)
    (calm : ∀ incident ∈ (script world fates).incidents, tolerated incident) :
    stop (script world fates).world := by
  have meets := ends fates calm
  unfold Meets at meets
  split at meets <;> exact meets

/-- A first part with stops of its own, and the rest from where it ends. -/
theorem Steady.bind (first : Steady tolerated part script world between)
    (stops : ∀ reached, part reached → stop reached)
    (rest : ∀ value reached, between value reached →
      Steady tolerated stop (next value) reached finish) :
    Steady tolerated stop (script >>= next) world finish :=
  Outcomes.bind (first.imply rest (fun _ => stops) stops)

/-- A first part whose errors are handled by the rest. -/
theorem Steady.attempt {next}
    (first : Steady tolerated part script world between)
    (stops : ∀ reached, part reached → stop reached)
    (works : ∀ value reached, between value reached →
      Steady tolerated stop (next (.ok value)) reached finish)
    (fails : ∀ failure reached, part reached →
      Steady tolerated stop (next (.error failure)) reached finish) :
    Steady tolerated stop (attempt script >>= next) world finish :=
  Outcomes.bind (.attempt (first.imply works fails stops))

/-- One run of a program: its process and what becomes of its calls. -/
structure Invocation where
  pid : Nat
  /-- Where the process starts to count. -/
  counter : Nat
  fates : List Fate

/-- The runs of a script, each by a process of its own. -/
def runs (script : Script World Failure Value)
    (enter : World → Invocation → World) (world : World) :
    List Invocation → List (Run World Failure Value)
  | [] => []
  | invocation :: rest =>
    let run := script (enter world invocation) invocation.fates
    run :: runs script enter run.world rest

/-- What holds at the end of a script, from every world it may leave. -/
theorem runs_succeed {enter : World → Invocation → World}
    (enters : ∀ world invocation, stop world → stop (enter world invocation))
    (ends : ∀ world, stop world → Steady tolerated stop script world
      fun value reached => stop reached ∧ done value reached)
    (good : stop world) (invocations : List Invocation)
    (calm : ∀ run ∈ runs script enter world invocations,
      ∀ incident ∈ run.incidents, tolerated incident) :
    ∀ run ∈ runs script enter world invocations, ∀ value,
      run.result = .ok value → done value run.world := by
  induction invocations generalizing world with
  | nil => exact fun _ member => nomatch member
  | cons invocation rest ih =>
    have first := ends _ (enters _ invocation good)
    have undisturbed := calm _ List.mem_cons_self
    intro run member value succeeded
    rcases List.mem_cons.mp member with rfl | later
    · exact (first.of_ok undisturbed succeeded).2
    · have left := first.imply (fun _ _ => And.left) (fun _ _ => id) fun _ => id
      exact ih (left.leaves undisturbed)
        (fun other listed => calm other (List.mem_cons_of_mem _ listed)) run later value succeeded

end

/--
A script that leaves the world as it is, whatever happens; it answers as
stated and fails with nothing but the failures stated.
-/
abbrev Observes (tolerated : Incident World → Prop) (blame : Failure → Prop)
    (script : Script World Failure Value) (world : World)
    (answers : Value → Prop) : Prop :=
  Outcomes tolerated script world (fun value reached => reached = world ∧ answers value)
    (fun failure reached => reached = world ∧ blame failure) (fun reached => reached = world)

section

variable {tolerated : Incident World → Prop} {blame : Failure → Prop}
    {answers between : Value → Prop} {finish : Result → Prop}

theorem Observes.pure (holds : answers value) :
    Observes tolerated blame (Pure.pure value : Script World Failure Value) world answers :=
  Outcomes.pure ⟨rfl, holds⟩

theorem Observes.fail (blamed : blame failure) :
    Observes tolerated blame (fail failure) world answers :=
  Outcomes.fail ⟨rfl, blamed⟩

/-- What an observation answers, for a script that goes on to change things. -/
theorem Observes.andThen (first : Observes tolerated blame script world answers)
    (rest : ∀ value, answers value → Outcomes tolerated (next value) world done failed died)
    (fails : ∀ failure, blame failure → failed failure world)
    (dies : died world) :
    Outcomes tolerated (script >>= next) world done failed died := by
  apply Outcomes.bind
  apply Outcomes.imply first
  · rintro value reached ⟨rfl, holds⟩
    exact rest value holds
  · rintro failure reached ⟨rfl, blamed⟩
    exact fails failure blamed
  · rintro reached rfl
    exact dies

theorem Observes.bind (first : Observes tolerated blame script world between)
    (rest : ∀ value, between value → Observes tolerated blame (next value) world finish) :
    Observes tolerated blame (script >>= next) world finish :=
  Observes.andThen first rest (fun _ blamed => ⟨rfl, blamed⟩) rfl

theorem Observes.ensure {condition : Prop} [Decidable condition]
    (blamed : blame failure) :
    Observes tolerated blame (ensure condition failure) world (fun _ => condition) := by
  unfold Script.ensure
  split
  · exact .pure ‹condition›
  · exact .fail blamed

theorem Observes.lift {computed : Except Failure Value}
    (blamed : ∀ failure, computed = .error failure → blame failure) :
    Observes tolerated blame (lift computed) world (fun value => computed = .ok value) := by
  cases computed with
  | ok value => exact .pure rfl
  | error failure => exact .fail (blamed failure rfl)

/-- Answer less precisely. -/
theorem Observes.imply (observes : Observes tolerated blame script world between)
    (weaker : ∀ value, between value → answers value) :
    Observes tolerated blame script world answers :=
  Outcomes.imply observes (fun value _ holds => ⟨holds.1, weaker value holds.2⟩)
    (fun _ _ => id) (fun _ => id)

end

/--
The property holds at the end of a run exactly if it held at the start and no
incident of the run was harmful.
-/
def Hinges (property : World → Prop) (harmless : Incident World → Prop)
    (script : Script World Failure Value) (world : World) : Prop :=
  ∀ fates, property (script world fates).world ↔ property world ∧
    ∀ incident ∈ (script world fates).incidents, harmless incident

section

variable {property : World → Prop} {harmless : Incident World → Prop}

theorem Hinges.pure :
    Hinges property harmless (Pure.pure value : Script World Failure Value) world :=
  fun _ => (and_iff_left (by nofun)).symm

theorem Hinges.fail :
    Hinges property harmless (fail failure : Script World Failure Value) world :=
  fun _ => (and_iff_left (by nofun)).symm

theorem Hinges.ensure {condition : Prop} [Decidable condition] :
    Hinges property harmless
      (ensure condition failure : Script World Failure Unit) world := by
  unfold Script.ensure
  split
  · exact .pure
  · exact .fail

theorem Hinges.lift :
    Hinges property harmless (lift computed) world := by
  cases computed with
  | ok value => exact .pure
  | error failure => exact .fail

theorem Hinges.glance (rest : Hinges property harmless (next (view world)) world) :
    Hinges property harmless (glance view >>= next) world :=
  rest

theorem Hinges.bind (first : Hinges property harmless script world)
    (rest : ∀ value reached, Hinges property harmless (next value) reached) :
    Hinges property harmless (script >>= next) world := by
  intro fates
  have begun := first fates
  simp only [Bind.bind]
  cases (script world fates).result with
  | ok value => simp only [rest value _ _, begun, List.forall_mem_append, and_assoc]
  | error stop => exact begun

theorem Hinges.perform (completes : property (operation.complete world).2 ↔ property world)
    (parts : ∀ fate extent, property (operation.partly extent world) ↔ property world ∧
        harmless ⟨fate, world, operation.partly extent world⟩)
    (after : harmless ⟨.dies 0, world, (operation.complete world).2⟩) :
    Hinges property harmless (perform operation) world := by
  have carried (fates : List Fate) :
      property (carryOut operation world fates).world ↔ property world ∧
        ∀ incident ∈ (carryOut operation world fates).incidents, harmless incident := by
    rw [← completes]
    unfold carryOut
    rcases operation.complete world with ⟨_ | _, reached⟩ <;> simp
  intro fates
  match fates with
  | [] => exact carried []
  | .works :: rest => exact carried rest
  | .fails extent :: _ => simp [Script.perform, parts (.fails extent)]
  | .dies 0 :: _ => simp [Script.perform, deathIn, completes, after]
  | .dies (extent + 1) :: _ => simp [Script.perform, deathIn, parts (.dies (extent + 1)) extent]

end

end Script

end Jackin.Foundation
