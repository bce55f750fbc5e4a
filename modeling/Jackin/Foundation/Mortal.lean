import Jackin.Foundation.Script

/-!
# Scripts of a mortal process

Here no operation reports an error that its world gives no reason for, but
the process can die in every operation.

`Mortal` is the judgement about such runs.  A death counts only if the fates
say so, so that a judgement without failures is also one about success: an
undisturbed run reaches the end.  `Yields` is the case of a script with a
known end.
-/

namespace Jackin.Foundation

namespace Script

variable {World Failure Value Result : Type} {failure : Failure}
    {condition : Prop}
    {operation : Operation World Failure Value}
    {next : Value → Script World Failure Result}

theorem pure_bind : (Pure.pure value >>= next) = next value := rfl

/-- No operation reports an error: it works, or the process dies. -/
def Errorless (fates : List Fate) : Prop :=
  ∀ fate ∈ fates, ∀ extent, fate ≠ .fails extent

theorem Errorless.subset (errorless : Errorless fates)
    (subset : rest ⊆ fates) : Errorless rest :=
  fun fate member => errorless fate (subset member)

/--
Without errors from outside, a script ends in a success, a failure or a death
that satisfies the corresponding condition, and it dies only where a fate
says so.
-/
def Mortal (script : Script World Failure Value) (world : World)
    (done : Value → World → Prop) (failed : Failure → World → Prop)
    (died : World → Prop) : Prop :=
  ∀ fates, Errorless fates → (script world fates).fates ⊆ fates ∧
      Meets done failed (fun left => died left ∧ ∃ extent, .dies extent ∈ fates)
        (script world fates)

section

variable {script : Script World Failure Value} {done : Value → World → Prop}
    {failed : Failure → World → Prop} {died : World → Prop}
    {finish : Result → World → Prop}

theorem Mortal.pure (holds : done value world) :
    Mortal (Pure.pure value : Script World Failure Value) world done failed died :=
  fun fates _ => ⟨List.Subset.refl fates, holds⟩

theorem Mortal.fail (holds : failed failure world) :
    Mortal (fail failure : Script World Failure Value) world done failed died :=
  fun fates _ => ⟨List.Subset.refl fates, holds⟩

/-- Weaken all ways to end. -/
theorem Mortal.imply {finish} (ends : Mortal script world done failed died)
    (succeeds : ∀ value reached, done value reached → finish value reached)
    (fails : ∀ failure reached, failed failure reached → refuse failure reached)
    (dies : ∀ reached, died reached → perish reached) :
    Mortal script world finish refuse perish := by
  intro fates errorless
  obtain ⟨subset, holds⟩ := ends fates errorless
  refine ⟨subset, ?_⟩
  simp only [Meets] at holds ⊢
  split at holds
  · exact succeeds _ _ holds
  · exact fails _ _ holds
  · exact ⟨dies _ holds.1, holds.2⟩

theorem Mortal.bind
    (first : Mortal script world
      (fun value reached => Mortal (next value) reached finish failed died) failed died) :
    Mortal (script >>= next) world finish failed died := by
  intro fates errorless
  obtain ⟨subset, ends⟩ := first fates errorless
  simp only [Bind.bind]
  generalize script world fates = begun at subset ends ⊢
  obtain ⟨result, _, rest, _⟩ := begun
  cases result with
  | ok value =>
    obtain ⟨less, more⟩ := ends rest (errorless.subset subset)
    refine ⟨List.Subset.trans less subset, ?_⟩
    simp only [Meets] at more ⊢
    split at more
    · exact more
    · exact more
    · obtain ⟨extent, fatal⟩ := more.2
      exact ⟨more.1, extent, subset fatal⟩
  | error stop => cases stop <;> exact ⟨subset, ends⟩

/-- The rest starts from wherever the first part may succeed. -/
theorem Mortal.seq (first : Mortal script world done failed died)
    (rest : ∀ value reached, done value reached → Mortal (next value) reached finish failed died) :
    Mortal (script >>= next) world finish failed died :=
  Mortal.bind (first.imply rest (fun _ _ => id) fun _ => id)

/-- A caught error is a value; only a death still ends the script. -/
theorem Mortal.attempt {finish}
    (ends : Mortal script world
      (fun value reached => finish (.ok value) reached)
      (fun failure reached => finish (.error failure) reached) died) :
    Mortal (attempt script) world finish failed died := by
  intro fates errorless
  obtain ⟨subset, holds⟩ := ends fates errorless
  simp only [Script.attempt]
  generalize script world fates = run at subset holds ⊢
  obtain ⟨result, _, _, _⟩ := run
  cases result with
  | ok value => exact ⟨subset, holds⟩
  | error stop => cases stop <;> exact ⟨subset, holds⟩

theorem Mortal.check [Decidable condition]
    (holds : condition → checked () world)
    (refused : ¬condition → failed failure world) :
    Mortal (ensure condition failure) world checked failed died := by
  simp only [ensure]
  split
  · exact .pure (holds ‹condition›)
  · exact .fail (refused ‹¬condition›)

theorem Mortal.ensure [Decidable condition] {next}
    (holds : condition → Mortal (next ()) world done failed died)
    (refused : ¬condition → failed failure world) :
    Mortal (ensure condition failure >>= next) world done failed died :=
  Mortal.bind (.check holds refused)

/-- An operation is carried out, or the process dies on the way. -/
theorem Mortal.perform
    (works : ∀ value reached,
      operation.complete world = (.ok value, reached) → done value reached)
    (refuses : ∀ failure reached,
      operation.complete world = (.error failure, reached) → failed failure reached)
    (parts : ∀ extent, died (operation.partly extent world))
    (after : died (operation.complete world).2) :
    Mortal (perform operation) world done failed died := by
  intro fates errorless
  have carried (rest : List Fate) :
      (carryOut operation world rest).fates = rest ∧
        Meets done failed (fun left => died left ∧ ∃ extent, .dies extent ∈ fates)
          (carryOut operation world rest) := by
    refine ⟨?_, meets_carryOut works refuses⟩
    simp only [carryOut]
    split <;> rfl
  cases fates with
  | nil =>
    obtain ⟨same, holds⟩ := carried []
    exact ⟨by simp [Script.perform, same], holds⟩
  | cons fate rest =>
    cases fate with
    | works =>
      obtain ⟨same, holds⟩ := carried rest
      exact ⟨by simp [Script.perform, same], holds⟩
    | fails extent => exact absurd rfl (errorless _ List.mem_cons_self extent)
    | dies extent =>
      refine ⟨List.subset_cons_self _ rest, ?_, extent, List.mem_cons_self⟩
      cases extent with
      | zero => exact after
      | succ extent => exact parts extent

/-- An operation that its world does not allow. -/
theorem Mortal.refused (refuses : operation.complete world = (.error failure, reached))
    (parts : ∀ extent, died (operation.partly extent world))
    (after : died reached) (stays : failed failure reached) :
    Mortal (Script.perform operation) world done failed died := by
  apply Mortal.perform
  case works =>
    intro value left works
    rw [refuses] at works
    cases works
  case refuses =>
    intro other left fails
    rw [refuses] at fails
    cases fails
    exact stays
  case parts => exact parts
  case after =>
    rwa [refuses]

/-- The world a run ends in, if all ways to end are alike. -/
theorem Mortal.leaves (ends : Mortal script world (fun _ => died) (fun _ => died) died)
    (errorless : Errorless fates) : died (script world fates).world := by
  have meets := (ends fates errorless).2
  simp only [Meets] at meets
  split at meets
  · exact meets
  · exact meets
  · exact meets.1

/-- A run that is not disturbed reaches an end. -/
theorem Mortal.undisturbed (ends : Mortal script world done (fun _ _ => False) died) :
    ∃ value, (script world []).result = .ok value ∧ done value (script world []).world := by
  obtain ⟨_, holds⟩ := ends [] nofun
  simp only [Meets] at holds
  split at holds
  · exact ⟨_, ‹_›, holds⟩
  · exact holds.elim
  · obtain ⟨_, member⟩ := holds.2
    cases member

end

/--
The script ends with the value at the world, unless the process dies, and
then at a world as described.
-/
abbrev Yields (died : World → Prop) (script : Script World Failure Value)
    (world : World) (value : Value) (reached : World) : Prop :=
  Mortal script world (fun answer left => answer = value ∧ left = reached) (fun _ _ => False) died

section

variable {died : World → Prop} {failed : Failure → World → Prop}
    {finish : Value → World → Prop}

theorem Yields.pure :
    Yields died (Pure.pure value : Script World Failure Value) world value world :=
  Mortal.pure ⟨rfl, rfl⟩

theorem Yields.ends
    (yields : Yields died script world value reached)
    (holds : finish value reached) :
    Mortal script world finish failed died := by
  apply yields.imply
  · rintro _ _ ⟨rfl, rfl⟩
    exact holds
  · exact fun _ _ => False.elim
  · exact fun _ => id

/-- What follows starts from the known end. -/
theorem Yields.then {finish}
    (first : Yields died script world value reached)
    (rest : Mortal (next value) reached finish failed died) :
    Mortal (script >>= next) world finish failed died :=
  Mortal.bind (first.ends rest)

theorem Yields.ensure [Decidable condition] (holds : condition) :
    Yields died (ensure condition failure) world () world := by
  simp only [Script.ensure, holds]
  exact .pure

/-- A check that passes is left behind. -/
theorem Mortal.passed [Decidable condition] {next} (holds : condition)
    (rest : Mortal (next ()) world finish failed died) :
    Mortal (Script.ensure condition failure >>= next) world finish failed died :=
  (Yields.ensure holds).then rest

theorem Yields.attempt (ends : Yields died script world value reached) :
    Yields died (attempt script) world (.ok value) reached :=
  Mortal.attempt (ends.ends ⟨rfl, rfl⟩)

theorem Yields.perform (completed : operation.complete world = (.ok value, reached))
    (parts : ∀ extent, died (operation.partly extent world))
    (after : died reached) :
    Yields died (perform operation) world value reached := by
  apply Mortal.perform
  case works =>
    intro answer left works
    rw [completed] at works
    cases works
    exact ⟨rfl, rfl⟩
  case refuses =>
    intro failure left refuses
    rw [completed] at refuses
    cases refuses
  case parts => exact parts
  case after =>
    rwa [completed]

end

end Script

end Jackin.Foundation
