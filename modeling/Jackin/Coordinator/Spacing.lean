import Jackin.Coordinator.SingleFlight

/-!
# The spacing of provider calls

Calls of a spaced account start at least the minimum attempt interval apart.
When a call ends, its deadline is moved to the monotonic fence of the entry,
where no wall clock, reset or revocation can bring it forward; an admission
waits for the fence, and a reload starts with one when the stored state tells
of an attempt.
-/

namespace Jackin.Coordinator

open List Foundation Machine Stage World
open Coordinator.System

variable {View : Type} {capability : Capability} {sample : ClockSample}
    {envelope : AccountStateEnvelope View} {entry : AccountEntry View}
    {stage : Stage View}
    {before after world : World View} {occurrence : Occurrence View}
    {Item : Type}
    {index : Nat}
    {items : List Item}

/-- The minimum interval can be added to both clocks of the sample. -/
structure ClockSample.InRange (sample : ClockSample) : Prop where
  wall : asSecs sample.wallEpoch + 301 ≤ i64Max
  monotonic : sample.monotonic + claudeMinAttemptInterval ≤ durationMax

instance (sample : ClockSample) : Decidable sample.InRange :=
  decidable_of_iff (asSecs sample.wallEpoch + 301 ≤ i64Max ∧
      sample.monotonic + claudeMinAttemptInterval ≤ durationMax)
    ⟨fun range => ⟨range.1, range.2⟩, fun range => ⟨range.wall, range.monotonic⟩⟩

namespace ClockSample

theorem InRange.floorEpoch_eq (range : sample.InRange) :
    sample.floorEpoch = asSecs sample.wallEpoch := by
  have wall := range.wall
  unfold floorEpoch toI64
  omega

theorem InRange.ceilEpoch_eq (range : sample.InRange) :
    sample.ceilEpoch = asSecs sample.wallEpoch +
      (if sample.wallEpoch % nanos ≠ 0 then 1 else 0) := by
  have wall := range.wall
  unfold ceilEpoch
  rw [range.floorEpoch_eq, addI64_of_le] <;> split <;> omega

/-- The wall clock is not after its rounded epoch. -/
theorem InRange.wall_le_ceil (range : sample.InRange) :
    (sample.wallEpoch : Int) ≤ sample.ceilEpoch * nanos := by
  rw [range.ceilEpoch_eq]
  unfold asSecs nanos at *
  split <;> omega

end ClockSample

/-- The wall clock deadline of an attempt that ended with a sample. -/
theorem minimumAttemptDeadline_atLeast (spaced : capability.isClaude)
    (range : sample.InRange) :
    AtLeast (sample.ceilEpoch + 300)
      (minimumAttemptDeadline capability (some sample.ceilEpoch)) := by
  have interval : toI64 (asSecs claudeMinAttemptInterval) = 300 := by decide
  have wall := range.wall
  have ceil := range.ceilEpoch_eq
  rw [minimumAttemptDeadline, if_pos spaced, Option.map_some]
  refine ⟨_, rfl, ?_⟩
  rw [addI64_of_le] <;> split at ceil <;> omega

/-- The bound has passed, or the fence of the entry is not before it. -/
def Cools (entry : AccountEntry View) (elapsed bound : Nat) : Prop :=
  bound ≤ elapsed ∨ ∃ deadline, entry.cooldownNotBeforeMonotonic = some deadline ∧ bound ≤ deadline

/-- A durable deadline of three hundred seconds becomes such a fence. -/
theorem runtimeCooldownDeadline_fences
    (spaced : envelope.capability.isClaude) (range : sample.InRange)
    (deadline : AtLeast (sample.ceilEpoch + 300) (accountCooldownDeadline envelope)) :
    ∃ fence, runtimeCooldownDeadline envelope sample = some fence ∧
      sample.monotonic + claudeMinAttemptInterval ≤ fence := by
  obtain ⟨epoch, found, _⟩ := deadline
  have interval : claudeMinAttemptInterval = 300 * nanos := rfl
  have remaining : claudeMinAttemptInterval ≤
      ofSecs (max epoch 0).toNat - sample.wallEpoch := by
    have wall := range.wall_le_ceil
    unfold ofSecs
    unfold nanos at *
    omega
  have positive : ofSecs (max epoch 0).toNat - sample.wallEpoch ≠ 0 := by
    rw [interval] at remaining
    unfold nanos at remaining
    omega
  rw [runtimeCooldownDeadline, if_pos spaced, found, Option.bind_some, if_neg positive]
  refine ⟨_, rfl, le_addDuration ?_ range.monotonic⟩
  omega

/-- A fence that is still ahead survives, and durable deadlines are added. -/
theorem refreshRuntimeCooldown_cools {elapsed bound}
    (past : sample.monotonic ≤ elapsed) (cools : Cools entry elapsed bound) :
    Cools (entry.refreshRuntimeCooldown sample) elapsed bound := by
  rcases cools with passed | ⟨deadline, found, late⟩
  · exact .inl passed
  · by_cases ahead : sample.monotonic < deadline
    · refine .inr ?_
      simp only [AccountEntry.refreshRuntimeCooldown, found, Option.filter_some, ahead]
      cases runtimeCooldownDeadline entry.envelope sample with
      | some durable => exact ⟨_, rfl, late.trans (le_max_left _ _)⟩
      | none => exact ⟨deadline, rfl, late⟩
    · exact .inl (late.trans ((not_lt.mp ahead).trans past))

theorem refreshRuntimeCooldown_fences
    (durable : runtimeCooldownDeadline entry.envelope sample = some fence) :
    ∃ deadline, (entry.refreshRuntimeCooldown sample).cooldownNotBeforeMonotonic =
        some deadline ∧ fence ≤ deadline := by
  simp only [AccountEntry.refreshRuntimeCooldown, durable]
  cases entry.cooldownNotBeforeMonotonic.filter fun deadline =>
      decide (sample.monotonic < deadline) with
  | some existing => exact ⟨_, rfl, le_max_right _ _⟩
  | none => exact ⟨fence, rfl, le_refl _⟩

/-- What changes of an entry keep of its fence. -/
structure KeepsFence (elapsed : Nat)
    (before after : AccountEntry View) : Prop where
  own : after.envelope.capability = before.envelope.capability
  cools : ∀ bound, Cools before elapsed bound → Cools after elapsed bound
  queued : after.envelope.phase = .queued → before.envelope.phase = .queued

section

variable {elapsed : Nat}

variable {job : ProbeJob}

theorem Settles.keepsFence (settles : Settles shared job sample attempted entry settled)
    (past : sample.monotonic ≤ elapsed) : KeepsFence elapsed entry settled := by
  induction settles with
  | succeeded | failed =>
    exact ⟨rfl, fun _ cools => refreshRuntimeCooldown_cools past cools, nofun⟩
  | @fenced _ failure =>
    refine ⟨?_, fun _ cools => refreshRuntimeCooldown_cools past cools, ?_⟩
    · cases failure <;> rfl
    · cases failure <;> exact id
  | recorded _ ih => exact ⟨ih.own, ih.cools, ih.queued⟩

theorem successDeadline_atLeast (spaced : job.capability.isClaude)
    (range : sample.InRange) :
    sample.ceilEpoch + 300 ≤
      successDeadline shared job.capability sample.ceilEpoch := by
  obtain ⟨_, found, late⟩ := minimumAttemptDeadline_atLeast spaced range
  rw [successDeadline, found]
  exact late.trans (le_max_left _ _)

theorem failedRetry_atLeast (shared : Shared View)
    (failure : ProviderFailure) (envelope : AccountStateEnvelope View)
    (spaced : job.capability.isClaude) (range : sample.InRange) :
    AtLeast (sample.ceilEpoch + 300)
      (failedRetry shared job failure sample.ceilEpoch true envelope) :=
  AtLeast.raiseTo ((minimumAttemptDeadline_atLeast spaced range).raiseTo_floor _) _

theorem fencedEnvelope_atLeast (shared : Shared View)
    (failure : Option ProviderFailure) (envelope : AccountStateEnvelope View)
    (spaced : job.capability.isClaude) (range : sample.InRange) :
    AtLeast (sample.ceilEpoch + 300)
      (fencedEnvelope shared job failure sample.ceilEpoch envelope).retryDeadlineEpoch := by
  have floored := (minimumAttemptDeadline_atLeast spaced
    range).raiseTo_floor envelope.retryDeadlineEpoch
  cases failure with
  | none => exact floored
  | some failure => exact floored.raiseTo _

/-- A changed envelope whose deadline is late enough raises the fence. -/
theorem refreshRuntimeCooldown_raises {changed : AccountEntry View}
    (spaced : changed.envelope.capability.isClaude)
    (range : sample.InRange)
    (deadline : AtLeast (sample.ceilEpoch + 300)
      (accountCooldownDeadline changed.envelope)) :
    ∃ deadline, (changed.refreshRuntimeCooldown sample).cooldownNotBeforeMonotonic = some deadline ∧
        sample.monotonic + claudeMinAttemptInterval ≤ deadline := by
  obtain ⟨_, durable, late⟩ := runtimeCooldownDeadline_fences spaced range deadline
  obtain ⟨deadline, found, later⟩ := refreshRuntimeCooldown_fences durable
  exact ⟨deadline, found, late.trans later⟩

/-- However an attempt ends, it leaves a fence for the whole interval. -/
theorem Settles.fences (settles : Settles shared job sample attempted entry settled)
    (called : attempted) (own : entry.envelope.capability = job.capability)
    (spaced : job.capability.isClaude) (range : sample.InRange) :
    ∃ deadline, settled.cooldownNotBeforeMonotonic = some deadline ∧
      sample.monotonic + claudeMinAttemptInterval ≤ deadline := by
  have mine : entry.envelope.capability.isClaude := by
    rwa [own]
  induction settles with
  | succeeded =>
    have late : AtLeast (sample.ceilEpoch + 300)
        (some (successDeadline shared job.capability sample.ceilEpoch)) :=
      ⟨_, rfl, successDeadline_atLeast spaced range⟩
    exact refreshRuntimeCooldown_raises mine range (late.latest (by simp))
  | @failed entry _ error retryAtEpoch =>
    subst called
    have late := failedRetry_atLeast shared ⟨error.kind, retryAtEpoch⟩ entry.envelope spaced range
    exact refreshRuntimeCooldown_raises mine range (late.latest (by simp))
  | @fenced entry failure =>
    have late := fencedEnvelope_atLeast shared failure entry.envelope spaced range
    refine refreshRuntimeCooldown_raises ?_ range (late.latest (by simp))
    cases failure <;> exact mine
  | recorded _ ih => exact ih called own mine

end

/-! ## The invariant -/

/-- The stored state tells of an attempt that may have reached a provider. -/
def RecordsAttempt (envelope : AccountStateEnvelope View) : Prop :=
  envelope.providerInvokedAtEpoch.isSome ∨
    envelope.phase = .updating ∨ envelope.reloadFenceRequired

theorem recordsAttempt_iff :
    RecordsAttempt envelope ↔ reloadSafetyFence envelope := by
  unfold RecordsAttempt reloadSafetyFence
  simp only [Bool.or_eq_true, beq_iff_eq]
  tauto

/-- The account was called then, or loaded with a record of an attempt. -/
inductive RefersTo (capability : Capability)
    (moment : Nat) : Occurrence View → Prop where
  | invoked : RefersTo capability moment (.invoked capability moment)
  | loaded (envelope : AccountStateEnvelope View) (records : RecordsAttempt envelope) :
      RefersTo capability moment (.loaded capability envelope moment)

/-- A later call keeps the interval to an earlier call or load. -/
def Spaced (capability : Capability) (earlier later : Occurrence View) : Prop :=
  ∀ moment start, RefersTo capability moment earlier →
    later = .invoked capability start → moment + claudeMinAttemptInterval ≤ start

/-- When the provider of a flight was called. -/
def Stage.startedAt : Stage View → Option Nat
  | .calling _ startedAt => some startedAt
  | .answered startedAt _ _ _ => some startedAt
  | _ => none

theorem Stage.inFlight_of_startedAt
    (started : stage.startedAt = some moment) : stage.inFlight := by
  cases stage with
  | admitted | queued | rejected | marked => cases started
  | calling | answered => rfl

/-- The clock readings of a flight are in the past. -/
def Stage.Past (world : World View) : Stage View → Prop
  | .rejected finishedAt => finishedAt.monotonic ≤ world.elapsed
  | .calling _ startedAt => startedAt ≤ world.elapsed
  | .answered startedAt _ _ finishedAt =>
    startedAt ≤ finishedAt.monotonic ∧ finishedAt.monotonic ≤ world.elapsed ∧
      finishedAt ∈ world.samples
  | _ => True

/-- A call of the account that started then is still running. -/
def Runs (capability : Capability) (flights : List (Flight View))
    (moment : Nat) : Prop :=
  ∃ flight ∈ flights, flight.job.capability = capability ∧ flight.stage.startedAt = some moment

/-- With the entry, the interval after a call or load is over, fenced, or the call runs. -/
def Guards (capability : Capability) (system : System View)
    (entry : AccountEntry View) (moment : Nat) : Prop :=
  Cools entry system.world.elapsed (moment + claudeMinAttemptInterval) ∨
    Runs capability system.flights moment

def Guarded (capability : Capability) (system : System View)
    (moment : Nat) : Prop :=
  ∃ entry, system.world.entryOf capability = some entry ∧ Guards capability system entry moment

/-- The interval after every call and load of the account is over. -/
def Clear (capability : Capability) (world : World View) : Prop :=
  ∀ occurrence ∈ world.journal, ∀ moment, RefersTo capability moment occurrence →
    moment + claudeMinAttemptInterval ≤ world.elapsed

/-- What keeps the attempts of a capability apart. -/
structure Fenced (capability : Capability) (system : System View) : Prop where
  own : ∀ entry, system.world.entryOf capability = some entry →
    entry.envelope.capability = capability
  past : ∀ flight ∈ system.flights, flight.stage.Past system.world
  guarded : ∀ occurrence ∈ system.world.journal, ∀ moment,
    RefersTo capability moment occurrence → Guarded capability system moment
  queued : ∀ entry, system.world.entryOf capability = some entry →
    entry.envelope.phase = .queued → Clear capability system.world
  marked : ∀ flight ∈ system.flights, flight.job.capability = capability → ∀ invokedAtEpoch,
    flight.stage = .marked invokedAtEpoch → Clear capability system.world
  spaced : system.world.journal.Pairwise (Spaced capability)

/-! ## Changing the world -/

theorem Stage.Past.mono (past : stage.Past before)
    (elapsed : before.elapsed ≤ after.elapsed)
    (samples : before.samples <+: after.samples) : stage.Past after := by
  cases stage with
  | admitted | queued | marked => trivial
  | rejected | calling => exact Nat.le_trans past elapsed
  | answered => exact ⟨past.1, past.2.1.trans elapsed, samples.mem past.2.2⟩

theorem Cools.mono {before after bound}
    (cools : Cools entry before bound)
    (elapsed : before ≤ after) : Cools entry after bound :=
  cools.imp_left fun passed => passed.trans elapsed

theorem Clear.mono (clear : Clear capability before)
    (elapsed : before.elapsed ≤ after.elapsed)
    (journal : after.journal = before.journal) : Clear capability after := by
  intro occurrence member moment refers
  rw [journal] at member
  exact (clear occurrence member moment refers).trans elapsed

section

variable {system : System View}

/-- Nothing of the account is on its way to a call. -/
def Unready (capability : Capability) (system : System View) : Prop :=
  (∀ entry, system.world.entryOf capability = some entry → entry.envelope.phase ≠ .queued) ∧
    ∀ flight ∈ system.flights, flight.job.capability = capability →
      ∀ invokedAtEpoch, flight.stage ≠ .marked invokedAtEpoch

theorem Clear.note (clear : Clear capability world)
    (other : ∀ moment, ¬RefersTo capability moment occurrence) :
    Clear capability (world.note occurrence) := by
  intro noted member moment refers
  rcases mem_append.mp member with old | new
  · exact clear noted old moment refers
  · rw [mem_singleton] at new
    subst new
    exact absurd refers (other moment)

/-- A load that tells of an attempt starts with a fence. -/
theorem loadedCooldown_cools {elapsed} (spaced : envelope.capability.isClaude)
    (records : reloadSafetyFence loaded) (range : sample.InRange) :
    Cools (.new envelope recoveryPending (reloadSafetyFence loaded) sample catalogRevision) elapsed
      (sample.monotonic + claudeMinAttemptInterval) := by
  have reload : sample.monotonic + claudeMinAttemptInterval ≤
      addDuration sample.monotonic claudeMinAttemptInterval :=
    le_addDuration (le_refl _) range.monotonic
  refine .inr ?_
  simp only [AccountEntry.new, AccountEntry.loadedCooldown, records, spaced]
  cases runtimeCooldownDeadline envelope sample with
  | some deadline => exact ⟨_, rfl, reload.trans (le_max_right _ _)⟩
  | none => exact ⟨_, rfl, reload⟩

variable (fenced : Fenced capability system)
include fenced

/-- Time passes and the entries of the account stay. -/
theorem Fenced.of_calmed (calmed : Calmed system.world world) :
    Fenced capability (system.withWorld world) where
  own := by
    intro entry found
    rw [withWorld, calmed.entryOf] at found
    exact fenced.own entry found
  past := fun flight member => (fenced.past flight member).mono calmed.elapsed calmed.samples
  guarded := by
    intro occurrence member moment refers
    rw [withWorld, calmed.journal] at member
    obtain ⟨entry, found, guards⟩ := fenced.guarded occurrence member moment refers
    refine ⟨entry, (calmed.entryOf capability).trans found, ?_⟩
    exact guards.imp_left fun cools => cools.mono calmed.elapsed
  queued := by
    intro entry found queued
    rw [withWorld, calmed.entryOf] at found
    exact (fenced.queued entry found queued).mono calmed.elapsed calmed.journal
  marked := fun flight member mine invokedAtEpoch marked =>
    (fenced.marked flight member mine invokedAtEpoch marked).mono calmed.elapsed calmed.journal
  spaced := by
    rw [withWorld, calmed.journal]
    exact fenced.spaced

/--
Put an entry of any account into the world.  For the account itself the entry
must be its own, guard what the old one guarded and not be queued too early.
-/
theorem Fenced.enter (own : changed = capability → entry.envelope.capability = capability)
    (guarded : changed = capability → ∀ occurrence ∈ system.world.journal, ∀ moment,
      RefersTo capability moment occurrence → Guards capability system entry moment)
    (queued : changed = capability → entry.envelope.phase = .queued →
      Clear capability system.world) :
    Fenced capability (system.withWorld (system.world.enter changed entry)) where
  own := by
    intro found lookup
    simp only [withWorld, enter_entryOf] at lookup
    split at lookup
    · rename_i same
      cases lookup
      exact own same.symm
    · exact fenced.own found lookup
  past := fenced.past
  guarded := by
    intro occurrence member moment refers
    unfold Guarded
    simp only [withWorld, enter_entryOf]
    split
    · rename_i same
      exact ⟨entry, rfl, guarded same.symm occurrence member moment refers⟩
    · exact fenced.guarded occurrence member moment refers
  queued := by
    intro found lookup
    simp only [withWorld, enter_entryOf] at lookup
    split at lookup
    · rename_i same
      cases lookup
      exact queued same.symm
    · exact fenced.queued found lookup
  marked := fenced.marked
  spaced := fenced.spaced

/-- A change of an entry that keeps its fence. -/
theorem Fenced.keep {before after}
    (found : system.world.entryOf changed = some before)
    (keeps : KeepsFence system.world.elapsed before after) :
    Fenced capability (system.withWorld (system.world.enter changed after)) := by
  apply fenced.enter
  · rintro rfl
    exact keeps.own.trans (fenced.own before found)
  · rintro rfl occurrence member moment refers
    obtain ⟨_, lookup, guards⟩ := fenced.guarded occurrence member moment refers
    cases Option.mem_unique found lookup
    exact guards.imp_left (keeps.cools _)
  · rintro rfl queued
    exact fenced.queued before found (keeps.queued queued)

/-- A call or load may be noted when it is guarded and nothing is ready. -/
theorem Fenced.note
    (guarded : ∀ moment, RefersTo capability moment occurrence →
      Guarded capability system moment ∧ Unready capability system)
    (spaced : ∀ earlier ∈ system.world.journal, Spaced capability earlier occurrence) :
    Fenced capability (system.withWorld (system.world.note occurrence)) where
  own := fenced.own
  past := fun flight member => (fenced.past flight member).mono (le_refl _) (prefix_refl _)
  guarded := by
    intro noted member moment refers
    rcases mem_append.mp member with old | new
    · exact fenced.guarded noted old moment refers
    · rw [mem_singleton] at new
      subst new
      exact (guarded moment refers).1
  queued := by
    intro entry found queued
    apply (fenced.queued entry found queued).note
    intro moment refers
    exact (guarded moment refers).2.1 entry found queued
  marked := by
    intro flight member mine invokedAtEpoch marked
    apply (fenced.marked flight member mine invokedAtEpoch marked).note
    intro moment refers
    exact (guarded moment refers).2.2 flight member mine invokedAtEpoch marked
  spaced := by
    simp only [withWorld, World.note, pairwise_append, pairwise_singleton, mem_singleton, true_and]
    refine ⟨fenced.spaced, ?_⟩
    rintro earlier member _ rfl
    exact spaced earlier member

/-- What happens to other accounts may be noted. -/
theorem Fenced.note_other (other : ∀ moment, ¬RefersTo capability moment occurrence) :
    Fenced capability (system.withWorld (system.world.note occurrence)) := by
  apply fenced.note
  · intro moment refers
    exact absurd refers (other moment)
  · rintro earlier member moment start refers rfl
    exact absurd .invoked (other start)

theorem Fenced.entered (consistent : Consistent system)
    (spaced : capability.isClaude)
    (range : sample.InRange) (absent : system.world.entryOf changed = none)
    (own : envelope.capability = changed)
    (inactive : envelope.phase.isActive = false) :
    Fenced capability (system.withWorld ((system.world.enter changed
          (.new envelope recoveryPending (reloadSafetyFence loaded) sample catalogRevision)).note
          (.loaded changed loaded sample.monotonic))) := by
  have dequeued : envelope.phase ≠ .queued := by
    intro queued
    simp [queued, RefreshPhase.isActive] at inactive
  have entered : Fenced capability (system.withWorld (system.world.enter changed
        (.new envelope recoveryPending (reloadSafetyFence loaded) sample catalogRevision))) := by
    apply fenced.enter
    · rintro rfl
      exact own
    · rintro rfl occurrence member moment refers
      obtain ⟨entry, found, _⟩ := fenced.guarded occurrence member moment refers
      simp [absent] at found
    · rintro _ queued
      exact absurd queued dequeued
  apply entered.note
  · intro moment refers
    cases refers with
    | loaded _ records =>
      subst own
      refine ⟨⟨_, enter_entryOf.trans (if_pos rfl), .inl ?_⟩, ?_, ?_⟩
      · exact loadedCooldown_cools spaced (recordsAttempt_iff.mp records) range
      · intro entry found
        simp only [withWorld, enter_entryOf] at found
        cases found
        exact dequeued
      · intro flight member mine
        obtain ⟨_, found, _⟩ := consistent.known flight member
        rw [mine, absent] at found
        cases found
  · rintro earlier _ moment start _ ⟨⟩

theorem Fenced.moved (consistent : Consistent system)
    (spaced : capability.isClaude)
    (ranges : ∀ sample ∈ world.samples, sample.InRange)
    (move : Move system.world world) :
    Fenced capability (system.withWorld world) := by
  obtain ⟨initial, flights⟩ := system
  cases move with
  | calm calmed => exact fenced.of_calmed calmed
  | recorded found unrecorded => exact fenced.keep found ⟨rfl, fun _ => id, id⟩
  | entered absent own inactive taken past =>
    exact fenced.entered consistent spaced (ranges _ taken) absent own inactive
  | broken found queued => exact fenced.keep found ⟨rfl, fun _ => id, nofun⟩

theorem Fenced.revised (revision : Revision system.world world) :
    Fenced capability (system.withWorld world) := by
  obtain ⟨initial, flights⟩ := system
  cases revision with
  | calm calmed => exact fenced.of_calmed calmed
  | revoked found past =>
    exact fenced.keep found ⟨rfl, fun _ cools => refreshRuntimeCooldown_cools past cools, nofun⟩
  | reset found past =>
    exact fenced.keep found ⟨rfl, fun _ cools => refreshRuntimeCooldown_cools past cools, nofun⟩

end

theorem mem_eraseIdx_or_eq (held : items[index]? = some item)
    (member : other ∈ items) :
    other = item ∨ other ∈ items.eraseIdx index := by
  obtain ⟨bound, rfl⟩ := List.getElem?_eq_some_iff.mp held
  have rearranged := getElem_cons_eraseIdx_perm bound
  exact mem_cons.mp (rearranged.mem_iff.mpr member)

theorem mem_set_iff {changed} (held : items[index]? = some item) :
    other ∈ items.set index changed ↔
      other = changed ∨ other ∈ items.eraseIdx index := by
  obtain ⟨bound, _⟩ := List.getElem?_eq_some_iff.mp held
  rw [(set_perm_cons_eraseIdx bound changed).mem_iff, mem_cons]

section

variable {system : System View}

variable (fenced : Fenced capability system)
include fenced

/--
The flights may change if every new one is past and not marked too early, and
every call that no longer runs is guarded by the fence.
-/
theorem Fenced.withFlights {flights}
    (fresh : ∀ flight ∈ flights, flight ∈ system.flights ∨
      flight.stage.Past system.world ∧ (flight.job.capability = capability →
        ∀ invokedAtEpoch, flight.stage = .marked invokedAtEpoch → Clear capability system.world))
    (running : ∀ moment, Runs capability system.flights moment →
      Runs capability flights moment ∨ ∃ entry, system.world.entryOf capability = some entry ∧
        Cools entry system.world.elapsed (moment + claudeMinAttemptInterval)) :
    Fenced capability { system with flights } where
  own := fenced.own
  past := fun flight member => (fresh flight member).elim (fenced.past flight) And.left
  guarded := by
    intro occurrence member moment refers
    obtain ⟨entry, found, cools | runs⟩ := fenced.guarded occurrence member moment refers
    · exact ⟨entry, found, .inl cools⟩
    · rcases running moment runs with still | ⟨cooled, lookup, cools⟩
      · exact ⟨entry, found, .inr still⟩
      · exact ⟨cooled, lookup, .inl cools⟩
  queued := fenced.queued
  marked := fun flight member mine =>
    (fresh flight member).elim (fun old => fenced.marked flight old mine) fun new => new.2 mine
  spaced := fenced.spaced

/-- A flight may take a stage that keeps the time of its call. -/
theorem Fenced.move (held : system.Holds index flight)
    (past : stage.Past system.world)
    (started : ∀ moment, flight.stage.startedAt = some moment → stage.startedAt = some moment)
    (marked : flight.job.capability = capability → ∀ invokedAtEpoch,
      stage = .marked invokedAtEpoch → Clear capability system.world) :
    Fenced capability (system.move index flight stage) := by
  apply fenced.withFlights
  · intro other member
    rcases mem_or_eq_of_mem_set member with kept | rfl
    · exact .inl kept
    · exact .inr ⟨past, marked⟩
  · rintro moment ⟨other, here, mine, start⟩
    refine .inl ?_
    rcases mem_eraseIdx_or_eq held here with rfl | elsewhere
    · exact ⟨_, (mem_set_iff held).mpr (.inl rfl), mine, started moment start⟩
    · exact ⟨other, (mem_set_iff held).mpr (.inr elsewhere), mine, start⟩

/-- A flight may end when its call is guarded by the fence. -/
theorem Fenced.land (held : system.Holds index flight)
    (guarded : flight.job.capability = capability → ∀ moment, flight.stage.startedAt = some moment →
      ∃ entry, system.world.entryOf capability = some entry ∧
        Cools entry system.world.elapsed (moment + claudeMinAttemptInterval)) :
    Fenced capability (system.land index) := by
  apply fenced.withFlights
  · exact fun other member => .inl (mem_of_mem_eraseIdx member)
  · rintro moment ⟨other, here, mine, start⟩
    rcases mem_eraseIdx_or_eq held here with rfl | elsewhere
    · exact .inr (guarded mine moment start)
    · exact .inl ⟨other, elsewhere, mine, start⟩

theorem Fenced.launch : Fenced capability (system.launch (some job)) := by
  apply fenced.withFlights
  · intro other member
    rcases mem_append.mp member with old | new
    · exact .inl old
    · obtain rfl := mem_singleton.mp new
      exact .inr ⟨trivial, nofun⟩
  · rintro moment ⟨other, here, flies⟩
    exact .inl ⟨other, mem_append_left _ here, flies⟩

end

section

variable {system : System View} {flight : Flight View}

/-- An entry with the same fence guards the same calls. -/
theorem Fenced.guards {changed : AccountEntry View}
    (fenced : Fenced capability system)
    (found : system.world.entryOf capability = some entry)
    (same : changed.cooldownNotBeforeMonotonic = entry.cooldownNotBeforeMonotonic)
    (member : occurrence ∈ system.world.journal)
    (refers : RefersTo capability moment occurrence) :
    Guards capability system changed moment := by
  obtain ⟨_, lookup, guards⟩ := fenced.guarded occurrence member moment refers
  cases Option.mem_unique found lookup
  unfold Guards Cools at guards ⊢
  rwa [same]

/-- A refresh is admitted when the interval after every call is over. -/
theorem Admits.clear (admits : Admits system.world job entry sample)
    (fenced : Fenced job.capability system) (consistent : Consistent system) :
    Clear job.capability system.world := by
  intro occurrence member moment refers
  rcases fenced.guards admits.found rfl member refers with
    (passed | ⟨deadline, fence, late⟩) | ⟨flight, here, mine, start⟩
  · exact passed
  · exact late.trans ((admits.cooled deadline fence).trans admits.past)
  · have known := consistent.knows here mine admits.found
    have marked := known.marked (inFlight_of_startedAt start)
    simp [admits.unmarked] at marked

variable (fenced : Fenced capability system)
include fenced

theorem Fenced.admitted (consistent : Consistent system)
    (admits : Admits system.world job entry sample) :
    Fenced capability
      ((system.withWorld (system.world.queue job entry sample)).launch (some job)) := by
  have entered : Fenced capability (system.withWorld (system.world.enter job.capability
        { entry with
          envelope := queuedEnvelope entry.envelope sample.floorEpoch
          recoveryPending := false })) := by
    apply fenced.enter
    · rintro rfl
      exact fenced.own entry admits.found
    · rintro rfl occurrence member moment refers
      exact fenced.guards admits.found rfl member refers
    · rintro rfl _
      exact admits.clear fenced consistent
  have noted : Fenced capability (system.withWorld (system.world.queue job entry sample)) :=
    entered.note_other fun moment refers => by cases refers
  exact noted.launch

variable (held : system.Holds index flight)
include held

theorem Fenced.started (ready : flight.stage = .queued)
    (starts : Starts system.world flight.job entry) :
    Fenced capability ((system.withWorld
        (system.world.begin flight.job entry invokedAtEpoch)).move index
          flight (.marked invokedAtEpoch)) := by
  have begun : Fenced capability (system.withWorld
      (system.world.begin flight.job entry invokedAtEpoch)) := by
    apply fenced.enter
    · rintro rfl
      exact fenced.own entry starts.found
    · rintro rfl occurrence member moment refers
      exact fenced.guards starts.found rfl member refers
    · rintro _ ⟨⟩
  apply begun.move held
  · trivial
  · intro moment started
    rw [ready] at started
    cases started
  · rintro rfl _ _
    exact fenced.queued entry starts.found starts.queued

/-- While a call of the account is in flight, nothing else is ready. -/
theorem Fenced.called (consistent : Consistent system)
    (ready : flight.stage = .marked invokedAtEpoch) :
    Fenced capability ((system.withWorld (system.world.note (.invoked flight.job.capability
          system.world.elapsed))).move index flight
            (.calling invokedAtEpoch system.world.elapsed)) := by
  have member := mem_of_getElem? held
  have calling : Fenced capability (system.move index flight
      (.calling invokedAtEpoch system.world.elapsed)) := by
    apply fenced.move held
    · exact le_refl _
    · intro moment started
      rw [ready] at started
      cases started
    · rintro _ _ ⟨⟩
  refine calling.note ?_ ?_
  · rintro moment ⟨⟩
    obtain ⟨entry, found, known⟩ := consistent.known flight member
    have marker := known.marked (by simp [ready, inFlight])
    refine ⟨⟨entry, found, .inr ⟨_, (mem_set_iff held).mpr (.inl rfl), rfl, rfl⟩⟩, ?_, ?_⟩
    · intro other lookup queued
      cases Option.mem_unique found lookup
      have unmarked := (consistent.sound _ _ found).queued queued
      simp [marker] at unmarked
    · intro other here mine epoch marked
      rcases (mem_set_iff held).mp here with rfl | elsewhere
      · cases marked
      · have waiting := consistent.alone held (by simp [ready, inFlight]) elsewhere mine
        simp [marked, inFlight] at waiting
  · rintro earlier here moment start refers ⟨⟩
    exact fenced.marked flight member rfl invokedAtEpoch ready earlier here moment refers

theorem Fenced.endsWith_past
    (ends : flight.stage.EndsWith system.world.elapsed finishedAt attempted) :
    finishedAt.monotonic ≤ system.world.elapsed := by
  have past := fenced.past flight (mem_of_getElem? held)
  generalize flight.stage = stage at ends past
  cases ends with
  | rejected => exact past
  | queued passed => exact passed
  | answered => exact past.2.1

/-- The fence that the end of a call leaves guards the call. -/
theorem Fenced.settled {settled} (spaced : capability.isClaude)
    (ranges : ∀ sample ∈ system.world.samples, sample.InRange)
    (ends : flight.stage.EndsWith system.world.elapsed finishedAt attempted)
    (found : system.world.entryOf flight.job.capability = some entry)
    (settles : Settles shared flight.job finishedAt attempted entry settled) :
    Fenced capability
      ((system.withWorld (system.world.enter flight.job.capability settled)).land index) := by
  have kept := fenced.keep found (settles.keepsFence (fenced.endsWith_past held ends))
  apply kept.land held
  rintro rfl moment started
  refine ⟨settled, enter_entryOf.trans (if_pos rfl), ?_⟩
  have past := fenced.past flight (mem_of_getElem? held)
  generalize flight.stage = stage at ends past started
  cases ends with
  | rejected | queued => cases started
  | answered =>
    cases started
    obtain ⟨earlier, _, taken⟩ := past
    obtain ⟨deadline, fence, late⟩ := settles.fences rfl
      (fenced.own entry found) spaced (ranges finishedAt taken)
    exact .inr ⟨deadline, fence, (Nat.add_le_add_right earlier _).trans late⟩

theorem Fenced.dropped (consistent : Consistent system)
    (forgotten : flight.stage.inFlight → Forgotten system.world flight.job) :
    Fenced capability (system.land index) := by
  apply fenced.land held
  intro _ moment started
  have inFlight := inFlight_of_startedAt started
  obtain ⟨entry, found, known⟩ := consistent.known flight (mem_of_getElem? held)
  exact absurd (known.marked inFlight) (forgotten inFlight entry found).2

end

theorem Move.samples (move : Move before after) :
    before.samples <+: after.samples := by
  cases move with
  | calm calmed => exact calmed.samples
  | recorded | entered | broken => exact prefix_refl _

theorem Revision.samples (revision : Revision before after) :
    before.samples <+: after.samples := by
  cases revision with
  | calm calmed => exact calmed.samples
  | revoked | reset => exact prefix_refl _

theorem Advance.samples {before after}
    (advance : Advance shared renewing before after) :
    before.world.samples <+: after.world.samples := by
  cases advance with
  | moved move => exact move.samples
  | revised _ revision => exact revision.samples
  | admitted | sent | declined | started | called | answered | settled
  | dropped => exact prefix_refl _

theorem Advance.fenced {before after}
    (advance : Advance shared renewing before after)
    (spaced : capability.isClaude)
    (ranges : ∀ sample ∈ after.world.samples, sample.InRange)
    (consistent : Consistent before)
    (fenced : Fenced capability before) : Fenced capability after := by
  have earlier : ∀ sample ∈ before.world.samples, sample.InRange :=
    fun sample member => ranges sample (advance.samples.mem member)
  cases advance with
  | moved move => exact fenced.moved consistent spaced ranges move
  | revised _ revision => exact fenced.revised revision
  | admitted admits => exact fenced.admitted consistent admits
  | sent held ready =>
    apply fenced.move held
    · trivial
    · simp [ready, startedAt]
    · simp
  | declined held ready past =>
    apply fenced.move held
    · exact past
    · simp [ready, startedAt]
    · simp
  | started held ready starts =>
    exact fenced.started held ready starts
  | called held ready => exact fenced.called held consistent ready
  | answered held ready taken current =>
    have past := fenced.past _ (mem_of_getElem? held)
    rw [ready] at past
    apply fenced.move held
    · exact ⟨Nat.le_trans past current.ge, current.le, taken⟩
    · simp [ready, Stage.startedAt]
    · simp
  | settled held ends found settles =>
    exact fenced.settled held spaced earlier ends found settles
  | dropped held forgotten => exact fenced.dropped held consistent forgotten

theorem Advances.fenced {before after}
    (advances : Advances shared renewing before after)
    (spaced : capability.isClaude)
    (unsaturated : Unsaturated after.world.journal)
    (ranges : ∀ sample ∈ after.world.samples, sample.InRange)
    (consistent : Consistent before)
    (fenced : Fenced capability before) : Fenced capability after := by
  have both := invariant_of_path (fun system => Unsaturated system.world.journal →
      (∀ sample ∈ system.world.samples, sample.InRange) →
      Consistent system ∧ Fenced capability system)
    advances
    (fun _ _ advance ih unsaturated ranges => by
      obtain ⟨consistent, fenced⟩ := ih (advance.unsaturated unsaturated)
        (fun sample member => ranges sample (advance.samples.mem member))
      exact ⟨advance.consistent unsaturated consistent,
        advance.fenced spaced ranges consistent fenced⟩)
    (fun _ _ => ⟨consistent, fenced⟩)
  exact (both unsaturated ranges).2

theorem start_fenced {durable : AccountMap (Stored View)} :
    Fenced capability (start catalog catalogRevision durable) where
  own := by rintro _ ⟨⟩
  past := by nofun
  guarded := by rintro _ ⟨⟩
  queued := by rintro _ ⟨⟩
  marked := by nofun
  spaced := .nil

/--
The calls of a spaced account keep the minimum interval to each other and to
a load that tells of an attempt, in every history whose clock samples are in
range and whose admissions do not saturate the generation.
-/
theorem provider_calls_spaced (shared : Shared View)
    (catalog : Option (AccountMap String)) (catalogRevision : Option String)
    (durable : AccountMap (Stored View))
    (history : List (Surroundings × Event View)) (capability : Capability)
    (spaced : capability.surfaceId = "claude")
    (unsaturated : Unsaturated
      ((System.start catalog catalogRevision durable).play shared
        history).world.journal)
    (ranges : ∀ sample ∈
      ((System.start catalog catalogRevision durable).play shared
        history).world.samples, sample.InRange) :
    ((System.start catalog catalogRevision durable).play shared
      history).world.journal.Pairwise (Spaced capability) := by
  have claude : capability.isClaude := by simp [Capability.isClaude, spaced]
  exact ((play_advances shared (start catalog catalogRevision durable) history).fenced claude
      unsaturated ranges
      (start_consistent catalog catalogRevision durable)
      start_fenced).spaced

/-! ## Sample histories -/

def claudeAccount : Capability := ⟨"account", "claude"⟩

/-- When the provider of an account was called. -/
def callTimes (capability : Capability)
    (journal : List (Occurrence View)) : List Nat :=
  journal.filterMap fun
    | .invoked called monotonic => if called = capability then some monotonic else none
    | _ => none

/-- Some time has passed; the wall clock may show something else. -/
def passing (advance : Nat) (wall : Option Nat) : Surroundings :=
  ⟨⟨advance, wall⟩ :: List.replicate 4 ⟨0, wall⟩, [], []⟩

/-- A whole refresh by the flight with an index, some time later. -/
def refreshAfter (index advance : Nat) (wall : Option Nat)
    (observedGeneration : Nat)
    (nowEpoch : Int) : List (Surroundings × Event Nat) :=
  [(passing advance wall, .request claudeAccount observedGeneration true nowEpoch),
    (passing 0 wall, .flight index (.send true)),
    (passing 0 wall, .flight index .mark),
    (passing 0 wall, .flight index .call),
    (passing 0 wall, .flight index (.answer (.success 7) 0)),
    (passing 0 wall, .flight index .finish)]

def claudeFile (envelope : AccountStateEnvelope Nat) : AccountMap (Stored Nat) :=
  (∅ : AccountMap (Stored Nat)).insert claudeAccount (.present envelope)

/-- A file that tells of an attempt. -/
def attemptedFile : AccountMap (Stored Nat) :=
  claudeFile { AccountStateEnvelope.idle claudeAccount with providerInvokedAtEpoch := some 50 }

/-- The account is loaded, refused, and called twice. -/
def spacedHistory : List (Surroundings × Event Nat) :=
  refreshAfter 0 (ofSecs 5) (some (ofSecs 9000)) 0 100 ++ refreshAfter 0 (ofSecs 400)
    (some (ofSecs 9400)) 0 100 ++ refreshAfter 0 (ofSecs 300) (some (ofSecs 9700)) 1 100

theorem spacedHistory_spaced :
    callTimes claudeAccount ((System.start none none attemptedFile).play sampleShared
          spacedHistory).world.journal = [ofSecs 405, ofSecs 705] ∧
      ((System.start none none attemptedFile).play sampleShared
        spacedHistory).world.journal.Pairwise (Spaced claudeAccount) :=
  ⟨by decide +kernel, provider_calls_spaced sampleShared none none attemptedFile spacedHistory
      claudeAccount rfl (by decide +kernel) (by decide +kernel)⟩

/-- The epoch of the callers is the last one. -/
def lastEpochHistory : List (Surroundings × Event Nat) :=
  refreshAfter 0 (ofSecs 1) none 0 i64Max ++ refreshAfter 0 (ofSecs 2) none 1 i64Max

/-- The monotonic clock comes to its end. -/
def lastReadingHistory : List (Surroundings × Event Nat) :=
  refreshAfter 0 (durationMax - ofSecs 1) none 0 100 ++
    refreshAfter 0 (ofSecs 1) (some (ofSecs 1000)) 1 1000

/-- The generation comes to its end while the wall clock jumps. -/
def lastGenerationHistory : List (Surroundings × Event Nat) :=
  [(still, .request claudeAccount (u64Max - 1) true 100),
    (still, .reconcile none [⟨claudeAccount, "second"⟩] 100),
    (still, .reconcile none [⟨claudeAccount, "first"⟩] 100),
    (still, .request claudeAccount u64Max true 100),
    (still, .flight 1 (.send true)), (still, .flight 1 .mark),
    (still, .flight 1 .call), (atWall 5000, .flight 0 (.send false)),
    (still, .flight 0 .failUnsent)] ++
    refreshAfter 1 (ofSecs 20) (some (ofSecs 9000)) u64Max 5000

theorem calls_not_spaced :
    callTimes claudeAccount ((System.start none none ∅).play sampleShared
          lastEpochHistory).world.journal = [ofSecs 1, ofSecs 3] ∧
      callTimes claudeAccount
        ((System.start none none ∅).play sampleShared lastReadingHistory).world.journal =
        [durationMax - ofSecs 1, durationMax] ∧
      callTimes claudeAccount ((System.start (some (catalogOf [⟨claudeAccount, "first"⟩])) none
          (claudeFile
            { AccountStateEnvelope.idle claudeAccount with
              generation := u64Max - 1 })).play sampleShared
          lastGenerationHistory).world.journal = [0, ofSecs 20] := by
  decide +kernel

end Jackin.Coordinator
