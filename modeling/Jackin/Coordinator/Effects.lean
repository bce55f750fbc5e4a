import Jackin.Coordinator.System

/-!
# What each operation does to the accounts

Programs that only talk to the surroundings are calm: they end and leave the
coordinator's state and journal as they were.  Every other operation is read
as a path of moves, each of which changes the entry of at most one account.
The invariants of whole runs are proved from the moves.
-/

namespace Jackin.Coordinator

open Foundation Machine Program

variable {View Value Result : Type}

/-! ## Calm programs -/

/-- Only the surroundings and the clocks have moved. -/
structure Quiet (before after : World View) : Prop where
  state : after.state = before.state
  elapsed : before.elapsed ≤ after.elapsed
  samples : before.samples <+: after.samples
  journal : after.journal = before.journal

theorem Quiet.refl : Quiet world world :=
  ⟨rfl, le_refl _, List.prefix_refl _, rfl⟩

theorem Quiet.trans
    (left : Quiet first second)
    (right : Quiet second third) : Quiet first third where
  state := right.state.trans left.state
  elapsed := left.elapsed.trans right.elapsed
  samples := left.samples.trans right.samples
  journal := right.journal.trans left.journal

/-- The program ends, keeps state and journal, and has this answer. -/
def Calm (program : Step View Value) (session : Session View)
    (fact : Value → World View → Prop) : Prop :=
  ∃ value reached, program.exec session = (.ok value, reached) ∧
    Quiet session.world reached.world ∧ fact value reached.world

namespace Calm

variable {fact : Value → World View → Prop} {next : Value → Step View Result}

theorem pure (holds : fact value session.world) :
    Calm (Pure.pure value) session fact :=
  ⟨value, session, rfl, .refl, holds⟩

theorem bind (first : Calm program session fact)
    (rest : ∀ value reached, Quiet session.world reached.world →
      fact value reached.world → Calm (next value) reached outcome) :
    Calm (program >>= next) session outcome := by
  obtain ⟨value, reached, ran, quiet, holds⟩ := first
  obtain ⟨result, final, ended, later, finally_⟩ := rest value reached quiet holds
  refine ⟨result, final, ?_, quiet.trans later, finally_⟩
  rwa [exec_bind_ok ran]

/-- After a calm program both ways to end are those of the rest. -/
theorem ends_bind (first : Calm program session fact)
    (rest : ∀ value reached, Quiet session.world reached.world →
      fact value reached.world → (next value).Ends reached success failed) :
    (program >>= next).Ends session success failed := by
  obtain ⟨value, reached, ran, quiet, holds⟩ := first
  have ends := rest value reached quiet holds
  unfold Ends at ends ⊢
  rwa [exec_bind_ok ran]

end Calm

/-- The program is calm, whatever it answers. -/
def Still (program : Step View Value) : Prop :=
  ∀ session, Calm program session fun _ _ => True

theorem Still.pure : Still (Pure.pure value : Step View Value) :=
  fun _ => .pure trivial

theorem Still.bind {next : Value → Step View Result} (first : Still program)
    (rest : ∀ value, Still (next value)) : Still (program >>= next) :=
  fun session => (first session).bind fun value reached _ _ => rest value reached

theorem get_still : Still (get : Step View _) :=
  fun _ => ⟨_, _, rfl, .refl, trivial⟩

theorem getState_calm :
    Calm getState session (fun state _ => state = session.world.state) :=
  ⟨session.world.state, session, rfl, .refl, rfl⟩

theorem nextStoreFate_still : Still (nextStoreFate : Step View _) :=
  fun _ => ⟨_, _, rfl, .refl, trivial⟩

theorem setDurable_still : Still (setDurable durable : Step View _) :=
  fun _ => ⟨_, _, rfl, ⟨rfl, le_refl _, List.prefix_refl _, rfl⟩, trivial⟩

theorem writeDurable_still : Still (writeDurable change : Step View _) := by
  refine .bind nextStoreFate_still fun fate => ?_
  refine .bind get_still fun found => ?_
  cases fate with
  | accepted | lost => exact .bind setDurable_still fun _ => .pure
  | refused error => exact .pure

theorem storeEnvelope_still (envelope : AccountStateEnvelope View)
    (nowEpoch : Int) :
    Still (storeEnvelope envelope nowEpoch) :=
  writeDurable_still

theorem purge_still : Still (purge capability : Step View _) :=
  writeDurable_still

theorem quarantine_still : Still (quarantine capability : Step View _) :=
  writeDurable_still

/-- A loaded envelope belongs to the account that was asked for. -/
theorem loadEnvelope_calm (capability : Capability) (nowEpoch : Int)
    (session : Session View) :
    Calm (loadEnvelope capability nowEpoch) session
      (fun loaded _ => ∀ envelope, loaded = .ok (some envelope) →
        envelope.capability = capability) := by
  refine (nextStoreFate_still session).bind fun fate reached _ _ => ?_
  refine (get_still reached).bind fun found same _ _ => ?_
  cases fate with
  | accepted =>
    dsimp only
    split
    · exact .pure (by simp)
    · exact .pure (by simp)
    · split
      · rename_i own
        exact .pure (by simp [own])
      · exact .pure (by simp)
  | refused | lost => exact .pure (by simp)

theorem executorCall_still : Still (executorCall : Step View _) := by
  intro session
  have ran : executorCall.exec session =
      (.ok ((session.executorFates.headD none).elim (.ok ()) .error),
        { session with executorFates := session.executorFates.tail }) := by
    rw [executorCall, exec_bind_ok exec_get]
    cases session.executorFates.headD none <;> rfl
  exact ⟨_, _, ran, .refl, trivial⟩

@[simp]
theorem World.sampleOf_monotonic {world : World View} :
    (world.sampleOf reading fallbackEpoch).monotonic =
      world.elapsed + reading.advance := by
  unfold World.sampleOf
  split <;> rfl

theorem World.sample_quiet (world : World View) (reading : Reading)
    (fallbackEpoch : Int) :
    Quiet world (world.sample reading fallbackEpoch) :=
  ⟨rfl, Nat.le_add_right _ _, List.prefix_append _ _, rfl⟩

theorem World.tick_quiet (world : World View) (reading : Reading) :
    Quiet world (world.tick reading) :=
  ⟨rfl, Nat.le_add_right _ _, List.prefix_refl _, rfl⟩

theorem sampleClock_calm :
    Calm (sampleClock fallbackEpoch) session
      (fun sample world => sample ∈ world.samples ∧ sample.monotonic = world.elapsed) :=
  ⟨_, _, rfl, session.world.sample_quiet _ _, by simp [World.sample, World.tick]⟩

theorem monotonicNow_calm :
    Calm monotonicNow session (fun now world => now = world.elapsed) :=
  ⟨_, _, rfl, session.world.tick_quiet _, rfl⟩

theorem collectPreimages_still {preimages : Preimages View} :
    Still (collectPreimages nowEpoch capabilities preimages) := by
  induction capabilities generalizing preimages with
  | nil => exact .pure
  | cons capability rest ih =>
    refine fun session => (loadEnvelope_calm capability nowEpoch session).bind ?_
    intro loaded reached _ _
    split
    · exact ih reached
    · exact ih reached
    · exact ih reached
    · exact .pure trivial

theorem restoreCatalogPreimages_still {preimages : Preimages View} :
    Still (restoreCatalogPreimages preimages nowEpoch capabilities) := by
  induction capabilities with
  | nil => exact .pure
  | cons capability rest ih =>
    unfold restoreCatalogPreimages
    split
    · exact .pure
    · exact ih
    · refine .bind (storeEnvelope_still _ nowEpoch) fun stored => ?_
      cases stored with
      | ok => exact ih
      | error => exact .pure
    · refine .bind purge_still fun stored => ?_
      cases stored with
      | ok => exact ih
      | error => exact .pure

theorem writeTombstones_still {progress : Progress View} :
    Still (writeTombstones state next nowEpoch clockSample capabilities progress) := by
  induction capabilities generalizing progress with
  | nil => exact .pure
  | cons capability rest ih =>
    unfold writeTombstones
    split
    · exact ih
    · refine .bind (storeEnvelope_still _ _) fun stored => ?_
      cases stored with
      | ok => exact ih
      | error => exact .pure

theorem removeFile_still {preimages : Preimages View} :
    Still (removeFile preimages capability) := by
  unfold removeFile
  split
  · exact quarantine_still
  · exact purge_still
  · exact .pure

theorem removeFiles_still {progress : Progress View} :
    Still (removeFiles capabilities progress) := by
  induction capabilities generalizing progress with
  | nil => exact .pure
  | cons capability rest ih =>
    unfold removeFiles
    split
    · exact ih
    · refine .bind removeFile_still fun result => ?_
      cases result with
      | ok => exact ih
      | error => exact .pure

theorem persistResetEnvelopes_still {progress : Progress View} :
    Still (persistResetEnvelopes state clockSample capabilities progress) := by
  induction capabilities generalizing progress with
  | nil => exact .pure
  | cons capability rest ih =>
    unfold persistResetEnvelopes
    split
    · exact ih
    · split
      · exact ih
      · refine .bind (storeEnvelope_still _ _) fun stored => ?_
        cases stored with
        | ok => exact ih
        | error => exact .pure

end Jackin.Coordinator
