import Jackin.Coordinator.Moves

/-!
# The start and the end of a job

A worker starts a job by marking its entry, and ends it by settling the entry:
with a success, with a failure, or, when the entry has moved on to another
generation or catalog, by leaving only its deadlines and taking its marker
away.  A job that is not started is dropped or settles as a failure.
-/

namespace Jackin.Coordinator

open Foundation Machine World

variable {View Value Result : Type} {session : Session View}
    {entry : AccountEntry View}
    {job : ProbeJob}

/-! ## The end of a job -/

theorem exec_getState_bind :
    (getState >>= next).exec session = (next session.world.state).exec session :=
  rfl

theorem World.lookup_entry {world : World View}
    (found : world.entryOf capability = some entry) :
    world.state.accounts.lookup capability = some entry := found

/-- Storing a terminal entry records its view or blocks the account. -/
theorem persistTerminal_calmed (nowEpoch : Int) (session : Session View)
    (found : session.world.entryOf capability = some settled) :
    let final := ((persistTerminal capability nowEpoch).exec session).2.world
    Calmed session.world final ∨
      Calmed (session.world.enter capability settled.recordTerminal) final := by
  intro final
  obtain ⟨stored, _, ran, quiet, _⟩ := storeEnvelope_still settled.envelope nowEpoch session
  unfold final persistTerminal
  rw [exec_getState_bind, lookup_entry found, Program.exec_bind_ok ran]
  cases stored with
  | error =>
    left
    rw [← quiet.state]
    exact quiet.calmed.trans Calmed.block
  | ok =>
    right
    exact ⟨rfl, quiet.elapsed, quiet.samples, quiet.journal⟩

/-- Storing an envelope, if there is one, at most blocks the account. -/
theorem persistFenced_calmed (capability : Capability)
    (session : Session View) :
    Calmed session.world
      ((persistFenced session.world.state capability envelope nowEpoch).exec session).2.world := by
  unfold persistFenced
  cases envelope with
  | none => exact Calmed.refl
  | some envelope =>
    obtain ⟨stored, _, ran, quiet, _⟩ := storeEnvelope_still envelope nowEpoch session
    rw [Program.exec_bind_ok ran]
    cases stored with
    | ok => exact quiet.calmed
    | error =>
      rw [← quiet.state]
      exact quiet.calmed.trans Calmed.block

/-- The job settled its entry, and nothing else of the accounts changed. -/
def SettledWorld (shared : Shared View) (job : ProbeJob)
    (finishedAt : ClockSample) (attempted : Bool)
    (before after : World View) : Prop :=
  ∃ entry settled, before.entryOf job.capability = some entry ∧
    Settles shared job finishedAt attempted entry settled ∧
    Calmed (before.enter job.capability settled) after

section

variable (found : session.world.entryOf job.capability = some entry)
include found

variable {failure : Option ProviderFailure}

/-- An attempt that ended after its generation only leaves its deadlines. -/
theorem finishFenced_world :
    let final := ((finishFencedProviderAttempt shared job finishedAt failure).exec session).2.world
    (entry.pendingProviderGeneration ≠ some job.generation ∧ final = session.world) ∨
      (entry.pendingProviderGeneration = some job.generation ∧
        Calmed (session.world.enter job.capability
          (fencedEntry shared job failure finishedAt entry)) final) := by
  intro final
  unfold final finishFencedProviderAttempt
  rw [exec_getState_bind, lookup_entry found]
  dsimp only
  by_cases marked : entry.pendingProviderGeneration = some job.generation
  · refine .inr ⟨marked, ?_⟩
    rw [if_pos marked]
    exact persistFenced_calmed job.capability
      { session with
        world := session.world.enter job.capability
          (fencedEntry shared job failure finishedAt entry) }
  · refine .inl ⟨marked, ?_⟩
    rw [if_neg marked]
    rfl

/-- A fresh job settles by changing its entry and persisting it. -/
theorem settledWorld_of_persisted
    (settles : Settles shared job finishedAt attempted entry settled) :
    SettledWorld shared job finishedAt attempted session.world ((do
        setState (session.world.state.setEntry job.capability settled)
        persistTerminal job.capability nowEpoch : Step View Unit).exec session).2.world := by
  have entered : (session.world.enter job.capability settled).entryOf
      job.capability = some settled := by
    simp
  rcases persistTerminal_calmed nowEpoch
      { session with world := session.world.enter job.capability settled }
      entered with unrecorded | recorded
  · exact ⟨entry, settled, found, settles, unrecorded⟩
  · simp only [World.enter, CoordinatorState.setEntry, AList.insert_insert] at recorded
    exact ⟨entry, settled.recordTerminal, found, .recorded settles, recorded⟩

theorem settledWorld_of_fenced (stale : isStale entry job)
    (marked : entry.pendingProviderGeneration = some job.generation) :
    SettledWorld shared job finishedAt true session.world
      ((finishFencedProviderAttempt shared job finishedAt failure).exec session).2.world := by
  rcases finishFenced_world found with ⟨unmarked, _⟩ | ⟨_, calmed⟩
  · exact absurd marked unmarked
  · exact ⟨entry, _, found, .fenced stale marked, calmed⟩

theorem finishSuccess_settles
    (due : isStale entry job = false ∨
      entry.pendingProviderGeneration = some job.generation) :
    SettledWorld shared job finishedAt true session.world
      ((finishSuccess shared job view finishedAt).exec session).2.world := by
  rw [finishSuccess, exec_getState_bind, lookup_entry found]
  dsimp only
  cases stale : isStale entry job with
  | true => exact settledWorld_of_fenced found stale (due.resolve_left (by simp [stale]))
  | false => exact settledWorld_of_persisted found (.succeeded stale)

/-- A failure settles its job, unless the job is stale and not started. -/
theorem finishFailureInState_settles
    (due : isStale entry job = false ∨
      attempted = true ∧ entry.pendingProviderGeneration = some job.generation) :
    SettledWorld shared job finishedAt attempted session.world
      ((finishFailureInState shared job error retryAtEpoch finishedAt
        attempted).exec session).2.world := by
  rw [finishFailureInState, exec_getState_bind, lookup_entry found]
  dsimp only
  cases stale : isStale entry job with
  | true =>
    obtain ⟨rfl, marked⟩ := due.resolve_left (by simp [stale])
    exact settledWorld_of_fenced found stale marked
  | false => exact settledWorld_of_persisted found (.failed stale)

end

/-- A stale job that called no provider changes nothing. -/
theorem finishFailureInState_stale (shared : Shared View) (job : ProbeJob)
    (error : CoordinationError) (retryAtEpoch : Option Int)
    (finishedAt : ClockSample) (session : Session View)
    (stale : ∀ entry, session.world.entryOf job.capability = some entry →
      isStale entry job) :
    ((finishFailureInState shared job error retryAtEpoch finishedAt
      false).exec session).2.world = session.world := by
  rw [finishFailureInState, exec_getState_bind]
  split
  · rfl
  · rename_i entry found
    rw [if_pos (stale entry found)]
    rfl

/-- Nothing is left of the job in its account. -/
def Forgotten (world : World View) (job : ProbeJob) : Prop :=
  ∀ entry, world.entryOf job.capability = some entry →
    isStale entry job ∧ entry.pendingProviderGeneration ≠ some job.generation

section

variable (shared : Shared View) (forgotten : Forgotten session.world job)
include shared forgotten

theorem finishFenced_forgotten {failure} :
    ((finishFencedProviderAttempt shared job finishedAt failure).exec
      session).2.world = session.world := by
  rw [finishFencedProviderAttempt, exec_getState_bind]
  split
  · rfl
  · rename_i entry found
    rw [if_neg (forgotten entry found).2]
    rfl

theorem finishSuccess_forgotten :
    ((finishSuccess shared job view finishedAt).exec session).2.world =
      session.world := by
  rw [finishSuccess, exec_getState_bind]
  split
  · rfl
  · rename_i entry found
    rw [if_pos (forgotten entry found).1]
    exact finishFenced_forgotten shared forgotten

theorem finishFailureInState_forgotten :
    ((finishFailureInState shared job error retryAtEpoch finishedAt
      true).exec session).2.world = session.world := by
  rw [finishFailureInState, exec_getState_bind]
  split
  · rfl
  · rename_i entry found
    rw [if_pos (forgotten entry found).1]
    exact finishFenced_forgotten shared forgotten

omit forgotten

/-- A worker ends its probe with a success or a failure. -/
theorem finishProbe_cases :
    (∃ view, finishProbe shared job outcome providerElapsed finishedAt =
      finishSuccess shared job view finishedAt) ∨
      ∃ kind message retryAtEpoch, finishProbe shared job outcome providerElapsed finishedAt =
          finishFailure shared job kind message retryAtEpoch finishedAt true := by
  unfold finishProbe
  split
  · exact .inr ⟨_, _, _, rfl⟩
  · split
    · split
      · exact .inl ⟨_, rfl⟩
      · exact .inr ⟨_, _, _, rfl⟩
    · exact .inr ⟨_, _, _, rfl⟩
    · exact .inr ⟨_, _, _, rfl⟩

/-- The end of a probe settles the job, unless nothing is left of it. -/
theorem finishProbe_settles (job : ProbeJob) (outcome : ProbeOutcome View)
    (providerElapsed : Nat) (finishedAt : ClockSample)
    (session : Session View) :
    let final := ((finishProbe shared job outcome providerElapsed finishedAt).exec session).2.world
    SettledWorld shared job finishedAt true session.world final ∨
      Forgotten session.world job ∧ final = session.world := by
  intro final
  by_cases forgotten : Forgotten session.world job
  · refine .inr ⟨forgotten, ?_⟩
    unfold final
    rcases finishProbe_cases shared with ⟨view, success⟩ | ⟨kind, message, retry, failure⟩
    · rw [success]
      exact finishSuccess_forgotten shared forgotten
    · rw [failure]
      exact finishFailureInState_forgotten shared forgotten
  · unfold Forgotten at forgotten
    push Not at forgotten
    obtain ⟨entry, found, due⟩ := forgotten
    have left : isStale entry job = false ∨
        entry.pendingProviderGeneration = some job.generation := by
      cases stale : isStale entry job with
      | false => exact .inl rfl
      | true => exact .inr (due stale)
    refine .inl ?_
    unfold final
    rcases finishProbe_cases shared with ⟨view, success⟩ | ⟨kind, message, retry, failure⟩
    · rw [success]
      exact finishSuccess_settles found left
    · rw [failure]
      exact finishFailureInState_settles found (left.imp id fun marked => ⟨rfl, marked⟩)

end

/-- No provider was called: nothing happened, or the refresh failed. -/
def NotStarted (shared : Shared View) (job : ProbeJob)
    (before after : World View) : Prop :=
  Path before after ∨ ∃ reached sample, Path before reached ∧ sample.monotonic ≤ reached.elapsed ∧
      SettledWorld shared job sample false reached after

theorem isQueued_iff :
    isQueued entry job ↔ entry.revoked = false ∧
        entry.catalogRevision = job.catalogRevision ∧
        entry.envelope.generation = job.generation ∧
        entry.envelope.phase = .queued := by
  unfold isQueued
  simp only [Bool.and_eq_true, Bool.not_eq_true', beq_iff_eq, and_assoc]

/-- A queued job whose start was not stored is still its account's job. -/
theorem broken_not_stale (queued : isQueued entry job) :
    isStale
      { entry with envelope := { entry.envelope with phase := .updating } }
      job = false := by
  obtain ⟨unrevoked, revision, generation, _⟩ := isQueued_iff.mp queued
  simp [isStale, unrevoked, revision, generation, RefreshPhase.isActive]

theorem markUpdating_ends (shared : Shared View) (job : ProbeJob)
    (session : Session View) :
    (markUpdating shared job).Ends session (fun invoked reached =>
        invoked = none ∧ NotStarted shared job session.world reached.world ∨
          ∃ invokedAtEpoch before entry, invoked = some invokedAtEpoch ∧ Path session.world before ∧
            Starts before job entry ∧ reached.world = before.begin job entry invokedAtEpoch)
      (fun reached => NotStarted shared job session.world reached.world) := by
  refine getState_calm.ends_bind ?_
  rintro _ here same rfl
  have unchanged : NotStarted shared job session.world here.world :=
    .inl same.calmed.path
  split
  · exact .inl ⟨rfl, unchanged⟩
  rename_i entry found
  split
  · rename_i queued
    refine monotonicNow_calm.ends_bind ?_
    rintro now read quiet _
    refine (storeEnvelope_still _ _ read).ends_bind ?_
    intro stored written later _
    have calm := (same.trans quiet).trans later
    have held : written.world.entryOf job.capability = some entry := by
      rwa [calm.entryOf]
    rw [← calm.state]
    obtain ⟨_, _, generation, phase⟩ := isQueued_iff.mp queued
    cases stored with
    | error =>
      have broke := Move.broken held phase
      refine .bind (fun _ reached =>
        reached.world = written.world.enter job.capability
          { entry with envelope := { entry.envelope with phase := .updating } })
        rfl ?_
      intro _ broken brokenWorld
      refine sampleClock_calm.ends_bind ?_
      rintro sample sampled sampledQuiet ⟨_, current⟩
      have brokenEntry : sampled.world.entryOf job.capability =
          some { entry with envelope := { entry.envelope with phase := .updating } } := by
        rw [sampledQuiet.entryOf, brokenWorld, enter_entryOf, if_pos rfl]
      have reached : Path session.world sampled.world := by
        refine (calm.calmed.path.tail broke).trans ?_
        rw [← brokenWorld]
        exact sampledQuiet.calmed.path
      have failed : NotStarted shared job session.world ((finishFailureInState shared job
            (coordinationError .unavailable "usage state store is unavailable") none sample
            false).exec sampled).2.world :=
        .inr ⟨sampled.world, sample, reached, current.le,
          finishFailureInState_settles brokenEntry (.inl (broken_not_stale queued))⟩
      refine .bind (fun _ final =>
          NotStarted shared job session.world final.world)
        (.of_final failed) ?_
      intro _ final unstarted
      exact .inl ⟨rfl, unstarted⟩
    | ok =>
      refine .inr ⟨_, written.world, entry, rfl, calm.calmed.path, ⟨held, phase, generation⟩, rfl⟩
  · exact .inl ⟨rfl, unchanged⟩

end Jackin.Coordinator
