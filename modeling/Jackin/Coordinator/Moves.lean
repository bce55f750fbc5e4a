import Jackin.Coordinator.Effects

/-!
# Moves of the coordinator

Outside of the life of a job an entry only changes in a few ways: a terminal
view is recorded late, an account is loaded, a queued refresh breaks because
its start cannot be stored, and a new catalog revokes or resets the account.
A job changes its entry when it is admitted, when it starts and when it
settles.
-/

namespace Jackin.Coordinator

open Foundation Machine
open Program (Emits Ends exec_bind_ok)

variable {View Value Result : Type}

def World.entryOf (world : World View)
    (capability : Capability) : Option (AccountEntry View) :=
  world.state.accounts.lookup capability

/-- Put an entry into the accounts. -/
def World.enter (world : World View) (capability : Capability)
    (entry : AccountEntry View) : World View :=
  { world with state := world.state.setEntry capability entry }

/-! ## Moves -/

/-- The accounts and the journal are as they were. -/
structure Calmed (before after : World View) : Prop where
  accounts : after.state.accounts = before.state.accounts
  elapsed : before.elapsed ≤ after.elapsed
  samples : before.samples <+: after.samples
  journal : after.journal = before.journal

/-- The history of the entry has its current generation. -/
def AccountEntry.recorded (entry : AccountEntry View) : Bool :=
  entry.history.any fun view => view.generation == entry.envelope.generation

/-- A change that neither a job nor a catalog takes part in. -/
inductive Move (world : World View) : World View → Prop where
  | calm (calmed : Calmed world after) : Move world after
  | recorded (found : world.entryOf capability = some entry)
      (unrecorded : entry.recorded = false) :
      Move world (world.enter capability entry.recordTerminal)
  | entered {envelope : AccountStateEnvelope View} {sample : ClockSample}
      (absent : world.entryOf capability = none)
      (own : envelope.capability = capability)
      (inactive : envelope.phase.isActive = false)
      (taken : sample ∈ world.samples)
      (past : sample.monotonic ≤ world.elapsed) :
      Move world ((world.enter capability
          (.new envelope recoveryPending (reloadSafetyFence loaded) sample catalogRevision)).note
          (.loaded capability loaded sample.monotonic))
  | broken (found : world.entryOf capability = some entry)
      (queued : entry.envelope.phase = .queued) :
      Move world (world.enter capability
          { entry with envelope := { entry.envelope with phase := .updating } })

abbrev Path : World View → World View → Prop := Relation.ReflTransGen Move

/-- A change that a new catalog makes. -/
inductive Revision (world : World View) : World View → Prop where
  | calm (calmed : Calmed world after) : Revision world after
  | revoked {sample : ClockSample} (found : world.entryOf capability = some entry)
      (past : sample.monotonic ≤ world.elapsed) :
      Revision world (world.enter capability (entry.revokeEntry nowEpoch sample))
  | reset {sample : ClockSample} (found : world.entryOf capability = some entry)
      (past : sample.monotonic ≤ world.elapsed) :
      Revision world (world.enter capability (entry.resetEntry sample revision))

abbrev Revisions : World View → World View → Prop := Relation.ReflTransGen Revision

section

variable (world : World View) (job : ProbeJob) (entry : AccountEntry View)

/-- A refresh of an account with nothing under way is admitted. -/
structure Admits (sample : ClockSample) : Prop where
  found : world.entryOf job.capability = some entry
  unmarked : entry.pendingProviderGeneration = none
  inactive : entry.envelope.phase.isActive = false
  generation : job.generation = nextU64 entry.envelope.generation
  past : sample.monotonic ≤ world.elapsed
  cooled : ∀ deadline, entry.cooldownNotBeforeMonotonic = some deadline →
    deadline ≤ sample.monotonic

def World.queue (sample : ClockSample) : World View :=
  (world.enter job.capability
    { entry with
      envelope := queuedEnvelope entry.envelope sample.floorEpoch
      recoveryPending := false }).note (.admitted job)

/-- The job is the queued refresh of its account. -/
structure Starts : Prop where
  found : world.entryOf job.capability = some entry
  queued : entry.envelope.phase = .queued
  generation : entry.envelope.generation = job.generation

def World.begin (invokedAtEpoch : Int) : World View :=
  world.enter job.capability
    { entry with
      envelope := updatingEnvelope entry.envelope invokedAtEpoch
      pendingProviderGeneration := some job.generation }

end

/-- The ways in which the end of a job changes its entry. -/
inductive Settles (shared : Shared View) (job : ProbeJob)
    (finishedAt : ClockSample) :
    Bool → AccountEntry View → AccountEntry View → Prop where
  | succeeded (fresh : isStale entry job = false) :
      Settles shared job finishedAt true entry (succeededEntry shared job view finishedAt entry)
  | failed (fresh : isStale entry job = false) :
      Settles shared job finishedAt attempted entry
        (failedEntry shared job error retryAtEpoch finishedAt attempted entry)
  | fenced {failure : Option ProviderFailure} (stale : isStale entry job)
      (marked : entry.pendingProviderGeneration = some job.generation) :
      Settles shared job finishedAt true entry (fencedEntry shared job failure finishedAt entry)
  | recorded (settles : Settles shared job finishedAt attempted entry settled) :
      Settles shared job finishedAt attempted entry settled.recordTerminal

/-! ## Their effect -/

variable {before after : World View} {session : Session View}
    {entry : AccountEntry View}
    {world : World View} {capability : Capability}
    {state : CoordinatorState View}

@[simp]
theorem World.enter_entryOf :
    (world.enter capability entry).entryOf other =
      if other = capability then some entry else world.entryOf other := by
  split
  · rename_i same
    rw [same]
    exact AList.lookup_insert _
  · rename_i different
    exact AList.lookup_insert_ne different

@[simp]
theorem World.note_entryOf :
    (world.note occurrence).entryOf capability = world.entryOf capability :=
  rfl

theorem Quiet.entryOf (quiet : Quiet before after) (capability : Capability) :
    after.entryOf capability = before.entryOf capability := by
  unfold World.entryOf
  rw [quiet.state]

theorem Quiet.calmed (quiet : Quiet before after) : Calmed before after :=
  ⟨by rw [quiet.state], quiet.elapsed, quiet.samples, quiet.journal⟩

theorem Calmed.entryOf (calmed : Calmed before after)
    (capability : Capability) :
    after.entryOf capability = before.entryOf capability := by
  unfold World.entryOf
  rw [calmed.accounts]

theorem Calmed.trans
    (left : Calmed first second)
    (right : Calmed second third) : Calmed first third where
  accounts := right.accounts.trans left.accounts
  elapsed := left.elapsed.trans right.elapsed
  samples := left.samples.trans right.samples
  journal := right.journal.trans left.journal

/-- A change of the state that keeps the accounts. -/
theorem Calmed.of_accounts (accounts : state.accounts = world.state.accounts) :
    Calmed world { world with state } :=
  ⟨accounts, le_refl _, List.prefix_refl _, rfl⟩

theorem Calmed.refl : Calmed world world := Calmed.of_accounts rfl

theorem Calmed.unblock (world : World View) (capability : Capability) :
    Calmed world { world with state := world.state.unblock capability } :=
  Calmed.of_accounts rfl

theorem Calmed.block :
    Calmed world { world with state := world.state.block capability error } :=
  Calmed.of_accounts rfl

theorem Calmed.path (calmed : Calmed before after) : Path before after :=
  .single (.calm calmed)

theorem Calmed.revisions (calmed : Calmed before after) :
    Revisions before after :=
  .single (.calm calmed)

theorem Calm.emits_bind {next : Value → Step View Result}
    (first : Calm program session fact)
    (rest : ∀ value reached, Quiet session.world reached.world →
      fact value reached.world → (next value).Emits Session.world Move reached) :
    (program >>= next).Emits Session.world Move session := by
  obtain ⟨value, reached, ran, quiet, holds⟩ := first
  have onward := rest value reached quiet holds
  unfold Emits at onward ⊢
  rw [exec_bind_ok ran]
  exact quiet.calmed.path.trans onward

theorem setState_emits (path : Path session.world { session.world with state }) :
    (setState state).Emits Session.world Move session :=
  path

theorem setState_ends :
    (setState state).Ends session (fun _ reached =>
        reached.world = { session.world with state })
      failed :=
  rfl

theorem recordBlockedTerminal_emits (capability : Capability)
    (session : Session View)
    (found : session.world.entryOf capability = some entry) :
    (recordBlockedTerminal capability entry.envelope).Emits Session.world Move session := by
  unfold recordBlockedTerminal
  split
  · refine getState_calm.emits_bind ?_
    rintro _ reached quiet rfl
    have here : reached.world.entryOf capability = some entry :=
      (quiet.entryOf capability).trans found
    rw [← quiet.state, show reached.world.state.accounts.lookup capability = some entry from here]
    dsimp only
    split
    · exact .pure
    · rename_i unrecorded
      exact setState_emits (.single
        (.recorded here (Bool.eq_false_iff.mpr unrecorded)))
  · exact .pure

theorem retryBlocked_emits :
    (retryBlocked capability nowEpoch).Emits Session.world Move session := by
  refine getState_calm.emits_bind ?_
  rintro _ reached quiet rfl
  split
  · exact .pure
  split
  · exact .throw
  rename_i entry found
  refine (storeEnvelope_still _ nowEpoch reached).emits_bind ?_
  intro stored written later _
  have calm := quiet.trans later
  rw [← calm.state] at found ⊢
  cases stored with
  | error => exact .throw
  | ok =>
    have unblocked := Calmed.unblock written.world capability
    exact unblocked.path.trans (recordBlockedTerminal_emits capability
        { written with
          world := { written.world with state := written.world.state.unblock capability } }
        ((unblocked.entryOf capability).trans found))

/-- What a loaded account is entered with is no active refresh. -/
theorem enterLoaded_emits
    (absent : session.world.entryOf capability = none)
    (own : loaded.capability = capability) :
    (enterLoaded shared capability loaded nowEpoch).Emits Session.world Move session := by
  refine sampleClock_calm.emits_bind ?_
  rintro sample sampled quiet ⟨taken, past⟩
  refine getState_calm.emits_bind ?_
  rintro _ here same rfl
  have enters : ∀ (envelope : AccountStateEnvelope View)
      (recoveryPending : Bool) (catalogRevision : Option String)
      (reached : Session View), Quiet sampled.world reached.world →
      envelope.capability = capability →
      envelope.phase.isActive = false →
      (do
        setState (sampled.world.state.setEntry capability
          (.new envelope recoveryPending (reloadSafetyFence loaded) sample catalogRevision))
        note (.loaded capability loaded sample.monotonic) :
          Step View Unit).Emits Session.world Move reached := by
    intro envelope recoveryPending catalogRevision reached later mine inactive
    rw [← later.state]
    refine .single (.entered ?_ mine inactive (later.samples.mem taken)
      (past.le.trans later.elapsed))
    rwa [later.entryOf, quiet.entryOf]
  dsimp only
  split
  · refine (storeEnvelope_still _ _ here).emits_bind ?_
    intro stored written later _
    cases stored with
    | error =>
      refine .bind (setState_emits (Calmed.of_accounts ?_).path) fun _ _ _ => .throw
      rw [later.state, same.state]
      rfl
    | ok =>
      exact enters _ _ _ written (same.trans later) (requireReloadFence_capability.trans own) rfl
  · rename_i inactive
    exact enters _ _ _ here same (requireReloadFence_capability.trans own)
      (Bool.eq_false_iff.mpr inactive)

theorem ensureLoaded_emits (shared : Shared View) (capability : Capability)
    (nowEpoch : Int) (session : Session View) :
    (ensureLoaded shared capability nowEpoch).Emits Session.world Move session := by
  refine .bind retryBlocked_emits ?_
  intro _ retried _
  refine getState_calm.emits_bind ?_
  rintro _ here same rfl
  split
  · exact .pure
  rename_i unknown
  split
  · exact .throw
  refine (loadEnvelope_calm capability nowEpoch here).emits_bind ?_
  intro loaded reached quiet own
  cases loaded with
  | error =>
    refine .bind (setState_emits (Calmed.of_accounts ?_).path) fun _ _ _ => .throw
    rw [quiet.state, same.state]
    rfl
  | ok found =>
    refine enterLoaded_emits ?_ ?_
    · rw [quiet.entryOf, same.entryOf]
      exact Option.not_isSome_iff_eq_none.mp unknown
    · cases found with
      | none => rfl
      | some envelope => exact own envelope rfl

theorem requireEntry_ends :
    (requireEntry capability).Ends session
      (fun entry reached => reached = session ∧ session.world.entryOf capability = some entry)
      (fun reached => reached = session) := by
  have searched : (getState : Step View _).exec session = (.ok session.world.state, session) := rfl
  rw [requireEntry, Ends, exec_bind_ok searched]
  cases blocked : session.world.state.blocked.lookup capability with
  | some error => rfl
  | none =>
    cases found : session.world.state.accounts.lookup capability with
    | none => rfl
    | some entry => exact ⟨rfl, found⟩

/-- An entry that is neither under way nor cooling down can be admitted. -/
theorem Admits.of_checks (found : world.entryOf job.capability = some entry)
    (generation : job.generation = nextU64 entry.envelope.generation)
    (past : sample.monotonic ≤ world.elapsed)
    (unknown : refreshKnown entry observedGeneration = false)
    (cooled : coolingDown job.capability entry force sample = false) :
    Admits world job entry sample := by
  simp only [refreshKnown, Bool.or_eq_false_iff,
    Option.isSome_eq_false_iff, Option.isNone_iff_eq_none] at unknown
  simp only [coolingDown, Bool.or_eq_false_iff, Option.any_eq_false,
    decide_eq_false_iff_not, not_lt] at cooled
  exact ⟨found, unknown.1.1, unknown.1.2, generation, past, cooled.1.1.1.1⟩

theorem requestRefresh_ends (shared : Shared View) (capability : Capability)
    (observedGeneration : Nat) (force : Bool) (nowEpoch : Int)
    (session : Session View) :
    (requestRefresh shared capability observedGeneration force nowEpoch).Ends session
      (fun answer reached => ∃ before, Path session.world before ∧
        (answer.2 = none ∧ reached.world = before ∨
          ∃ job entry sample, answer.2 = some job ∧ job.capability = capability ∧
            Admits before job entry sample ∧ reached.world = before.queue job entry sample))
      (fun reached => Path session.world reached.world) := by
  refine .bind (fun _ reached => Path session.world reached.world)
    (.of_final (ensureLoaded_emits shared capability nowEpoch session)) ?_
  intro _ loaded path
  refine .bind
    (fun entry reached => reached = loaded ∧ loaded.world.entryOf capability = some entry) ?_ ?_
  · refine requireEntry_ends.imply ?_ ?_
    · exact fun _ _ => id
    · rintro _ rfl
      exact path
  rintro entry _ ⟨rfl, found⟩
  split
  · exact path
  refine sampleClock_calm.ends_bind ?_
  rintro sample sampled quiet ⟨_, current⟩
  have onward := path.trans quiet.calmed.path
  split
  · exact ⟨sampled.world, onward, .inl ⟨rfl, rfl⟩⟩
  rename_i proceed
  rw [Bool.not_eq_true, Bool.or_eq_false_iff] at proceed
  refine getState_calm.ends_bind ?_
  rintro _ here same rfl
  refine (storeEnvelope_still _ _ here).ends_bind ?_
  intro stored written later _
  have reached := onward.trans (same.trans later).calmed.path
  cases stored with
  | error =>
    refine reached.trans (Calmed.of_accounts ?_).path
    rw [(same.trans later).state]
    rfl
  | ok =>
    refine ⟨written.world, reached, .inr ⟨_, entry, sample, rfl, rfl,
      Admits.of_checks ?_ rfl ?_ proceed.1 proceed.2, ?_⟩⟩
    · rwa [(same.trans later).entryOf, quiet.entryOf]
    · exact current.le.trans (same.trans later).elapsed
    · rw [← (same.trans later).state]
      rfl

end Jackin.Coordinator
