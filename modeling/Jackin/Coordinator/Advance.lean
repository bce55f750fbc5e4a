import Jackin.Coordinator.Jobs

/-!
# Advances of the system

Every event of a history is a sequence of advances: moves that no job takes
part in, and the admission, the sending, the start, the call, the answer and
the end of one flight.  An invariant of the system is proved for each kind of
advance and then holds after every history.
-/

namespace Jackin.Coordinator

open Foundation Machine

variable {View Value Result : Type}

/-- The clock reading a job ends with, and whether its provider was called. -/
inductive Stage.EndsWith
    (elapsed : Nat) : Stage View → ClockSample → Bool → Prop where
  | rejected : EndsWith elapsed (.rejected finishedAt) finishedAt false
  | queued {finishedAt : ClockSample} (past : finishedAt.monotonic ≤ elapsed) :
      EndsWith elapsed .queued finishedAt false
  | answered :
      EndsWith elapsed (.answered startedAt outcome providerElapsed finishedAt) finishedAt true

/-- One thing that happens to the system; the catalog may be held fixed. -/
inductive Advance (shared : Shared View) (renewing : Bool)
    (system : System View) :
    System View → Prop where
  | moved (move : Move system.world world) :
      Advance shared renewing system (system.withWorld world)
  | revised (allowed : renewing) (revision : Revision system.world world) :
      Advance shared renewing system (system.withWorld world)
  | admitted (admits : Admits system.world job entry sample) :
      Advance shared renewing system
        ((system.withWorld (system.world.queue job entry sample)).launch (some job))
  | sent (held : system.Holds index flight) (ready : flight.stage = .admitted) :
      Advance shared renewing system (system.move index flight .queued)
  | declined {finishedAt : ClockSample} (held : system.Holds index flight)
      (ready : flight.stage = .admitted)
      (past : finishedAt.monotonic ≤ system.world.elapsed) :
      Advance shared renewing system (system.move index flight (.rejected finishedAt))
  | started (held : system.Holds index flight)
      (ready : flight.stage = .queued)
      (starts : Starts system.world flight.job entry) :
      Advance shared renewing system
        ((system.withWorld (system.world.begin flight.job entry invokedAtEpoch)).move index flight
          (.marked invokedAtEpoch))
  | called (held : system.Holds index flight) (ready : flight.stage = .marked invokedAtEpoch) :
      Advance shared renewing system
        ((system.withWorld
          (system.world.note (.invoked flight.job.capability system.world.elapsed))).move
            index flight (.calling invokedAtEpoch system.world.elapsed))
  | answered {finishedAt : ClockSample} (held : system.Holds index flight)
      (ready : flight.stage = .calling invokedAtEpoch startedAt)
      (taken : finishedAt ∈ system.world.samples)
      (current : finishedAt.monotonic = system.world.elapsed) :
      Advance shared renewing system
        (system.move index flight (.answered startedAt outcome providerElapsed finishedAt))
  | settled (held : system.Holds index flight)
      (ends : flight.stage.EndsWith system.world.elapsed finishedAt attempted)
      (found : system.world.entryOf flight.job.capability = some entry)
      (settles : Settles shared flight.job finishedAt attempted entry settled) :
      Advance shared renewing system
        ((system.withWorld (system.world.enter flight.job.capability settled)).land index)
  | dropped (held : system.Holds index flight)
      (forgotten : flight.stage.inFlight → Forgotten system.world flight.job) :
      Advance shared renewing system (system.land index)

abbrev Advances (shared : Shared View)
    (renewing : Bool) : System View → System View → Prop :=
  Relation.ReflTransGen (Advance shared renewing)

/-! ## Catalogs -/

variable {shared : Shared View} {index : Nat} {flight : Flight View}
    {finishedAt : ClockSample}
    {session : Session View}

/-- A new catalog revokes, resets or keeps an account. -/
theorem reconcileAccount_revisions (next : AccountMap String) (nowEpoch : Int)
    (world : World View)
    (capability : Capability) (past : sample.monotonic ≤ world.elapsed) :
    Revisions world
      { world with state := reconcileAccount next nowEpoch sample world.state capability } := by
  unfold reconcileAccount
  cases found : world.state.accounts.lookup capability with
  | none => exact .refl
  | some entry =>
    cases next.lookup capability with
    | none =>
      dsimp only
      split
      · exact (Calmed.unblock world capability).revisions
      · have revoked := @Revision.revoked _ _ _ _ nowEpoch _ found past
        exact .head revoked (Calmed.unblock _ capability).revisions
    | some revision =>
      dsimp only
      split
      · have reset := @Revision.reset _ _ _ _ revision _ found past
        exact .head reset (Calmed.unblock _ capability).revisions
      · exact .refl

theorem reconcileAccounts_revisions (next : AccountMap String) (nowEpoch : Int)
    (world : World View) (past : sample.monotonic ≤ world.elapsed) :
    Revisions world { world with state := reconcileAccounts next nowEpoch sample world.state } := by
  unfold reconcileAccounts
  generalize world.state.accounts.keys = capabilities
  induction capabilities generalizing world with
  | nil => exact .refl
  | cons capability rest ih =>
    have step := reconcileAccount_revisions next nowEpoch world capability past
    exact step.trans (ih
      { world with state := reconcileAccount next nowEpoch sample world.state capability } past)

theorem rollbackCatalogReconciliation_ends :
    (rollbackCatalogReconciliation previousState previous preimages mutated
      nowEpoch).Ends session (fun _ reached =>
        Quiet { session.world with state := previousState } reached.world)
      (fun _ => False) := by
  refine (restoreCatalogPreimages_still session).ends_bind ?_
  intro durable restored quiet _
  refine (executorCall_still _).ends_bind ?_
  intro executor called later _
  have calm := quiet.trans later
  exact ⟨rfl, calm.elapsed, calm.samples, calm.journal⟩

/-- A failed step fails the reconciliation, with the state put back. -/
theorem orRollBack_ends :
    (orRollBack previousState nowEpoch progress result).Ends session
      (fun _ reached => reached = session) (fun reached =>
        Quiet { session.world with state := previousState } reached.world) := by
  cases result with
  | ok => rfl
  | error error =>
    refine .bind _ (rollbackCatalogReconciliation_ends.imply (fun _ _ => id)
        (fun _ impossible => impossible.elim)) ?_
    intro rollback reached restored
    exact restored

/-- A step of the reconciliation that only writes files. -/
theorem orRollBack_quiet
    (quiet : Quiet session.world { here.world with state := session.world.state })
    (rest : (next ()).Ends here success (fun reached => Quiet session.world reached.world)) :
    (orRollBack session.world.state nowEpoch progress result >>=
      next).Ends here success
      (fun reached => Quiet session.world reached.world) := by
  refine .bind (fun _ reached => reached = here)
    (orRollBack_ends.imply (fun _ _ => id) (fun _ => quiet.trans)) ?_
  rintro _ _ rfl
  exact rest

theorem Quiet.restored (quiet : Quiet before after) :
    Quiet before { after with state := before.state } :=
  ⟨rfl, quiet.elapsed, quiet.samples, quiet.journal⟩

theorem lift_ends {result} {next : Value → Step View Result}
    (stopped : failed session)
    (rest : ∀ value, result = .ok value → (next value).Ends session success failed) :
    (Program.lift result >>= next).Ends session success failed := by
  cases result with
  | ok value => exact rest value rfl
  | error error => exact stopped

/--
A reconciliation that fails leaves the state as it was; one that succeeds has
revoked and reset accounts, and its transaction holds the state before.
-/
theorem reconcile_ends (catalogRevision : Option String)
    (entries : List CatalogEntry) (nowEpoch : Int) (session : Session View) :
    (reconcileCatalogTransactionWithRevision catalogRevision entries
      nowEpoch).Ends session (fun transaction reached =>
        Revisions session.world reached.world ∧ transaction.previousState = session.world.state ∧
          ∃ sample, reached.world.state =
            { reconcileAccounts (catalogOf entries) nowEpoch sample session.world.state with
              catalog := some (catalogOf entries), catalogRevision })
      (fun reached => Quiet session.world reached.world) := by
  refine getState_calm.ends_bind ?_
  rintro _ here same rfl
  refine lift_ends same ?_
  intro _ _
  refine (executorCall_still _).ends_bind ?_
  intro validated checked checkedQuiet _
  have calm := same.trans checkedQuiet
  refine lift_ends calm ?_
  intro _ _
  refine (collectPreimages_still checked).ends_bind ?_
  intro collected read readQuiet _
  replace calm := calm.trans readQuiet
  refine lift_ends calm ?_
  intro preimages _
  refine (executorCall_still _).ends_bind ?_
  intro reconciled called calledQuiet _
  replace calm := calm.trans calledQuiet
  cases reconciled with
  | error error =>
    refine (executorCall_still _).ends_bind ?_
    intro rollback reached reachedQuiet _
    exact calm.trans reachedQuiet
  | ok =>
    refine sampleClock_calm.ends_bind ?_
    rintro sample sampled sampledQuiet ⟨_, current⟩
    replace calm := calm.trans sampledQuiet
    refine (writeTombstones_still sampled).ends_bind ?_
    rintro ⟨progress, result⟩ written writtenQuiet _
    replace calm := calm.trans writtenQuiet
    refine orRollBack_quiet calm.restored ?_
    refine (removeFiles_still written).ends_bind ?_
    rintro ⟨removing, removal⟩ removed removedQuiet _
    replace calm := calm.trans removedQuiet
    refine orRollBack_quiet calm.restored ?_
    have past : sample.monotonic ≤ removed.world.elapsed :=
      current.le.trans (writtenQuiet.trans removedQuiet).elapsed
    have revisions := reconcileAccounts_revisions (catalogOf entries) nowEpoch removed.world past
    rw [calm.state] at revisions
    refine .bind (fun _ reached => reached.world = { removed.world with
        state := reconcileAccounts (catalogOf entries) nowEpoch sample session.world.state })
      setState_ends ?_
    intro _ changed reconciled
    refine (persistResetEnvelopes_still changed).ends_bind ?_
    rintro ⟨persisting, result⟩ persisted persistedQuiet _
    rw [reconciled] at persistedQuiet
    have restored : Quiet session.world
        { persisted.world with state := session.world.state } :=
      ⟨rfl, calm.elapsed.trans persistedQuiet.elapsed, calm.samples.trans persistedQuiet.samples,
        persistedQuiet.journal.trans calm.journal⟩
    refine orRollBack_quiet restored ?_
    refine .bind _ setState_ends ?_
    intro _ committed final
    refine ⟨?_, rfl, sample, by rw [final]⟩
    rw [final]
    refine calm.calmed.revisions.trans (revisions.trans
      (persistedQuiet.calmed.revisions.trans (Calmed.of_accounts ?_).revisions))
    rw [persistedQuiet.state]

theorem Advances.of_path (system : System View)
    (path : Path system.world world) :
    Advances shared renewing system (system.withWorld world) := by
  induction path with
  | refl => exact .refl
  | tail _ move ih => exact ih.tail (.moved move)

theorem Advances.of_revisions (system : System View)
    (revisions : Revisions system.world world) :
    Advances shared true system (system.withWorld world) := by
  induction revisions with
  | refl => exact .refl
  | tail _ revision ih => exact ih.tail (.revised rfl revision)

/-! ## Events -/

section

variable (shared : Shared View) (system : System View) (around : Surroundings)

theorem request_advances :
    Advances shared renewing system
      (system.request shared around capability observedGeneration force nowEpoch) := by
  have ends := requestRefresh_ends shared capability observedGeneration
    force nowEpoch (around.session system.world)
  unfold Program.Ends at ends
  unfold System.request World.run
  generalize Program.exec _ _ = ended at ends ⊢
  obtain ⟨result, _⟩ := ended
  cases result with
  | error => exact .of_path system ends
  | ok answer =>
    obtain ⟨_, job⟩ := answer
    obtain ⟨before, path, unadmitted | admission⟩ := ends
    · obtain ⟨rfl, rfl⟩ := unadmitted
      exact .of_path system path
    · obtain ⟨job, entry, sample, rfl, _, admits, final⟩ := admission
      have admissible : Advances shared renewing system
          (system.withWorld before) := .of_path system path
      refine admissible.tail ?_
      dsimp only at final ⊢
      rw [final]
      exact .admitted admits

theorem load_advances :
    Advances shared renewing system (system.after shared around (.load capability nowEpoch)) :=
  Advances.of_path system
    (ensureLoaded_emits shared capability nowEpoch (around.session system.world))

theorem reconcile_advances (catalogRevision : Option String)
    (entries : List CatalogEntry) (nowEpoch : Int) :
    Advances shared true system
      (system.after shared around (.reconcile catalogRevision entries nowEpoch)) := by
  have ends := reconcile_ends catalogRevision entries nowEpoch (around.session system.world)
  exact .of_revisions system
    (ends.imply (fun _ _ done => done.1) (fun _ quiet => quiet.calmed.revisions)).final

section

variable (held : system.Holds index flight)
include held

theorem send_advances (ready : flight.stage = .admitted) :
    Advances shared renewing system (system.send around index flight accepted) := by
  unfold System.send
  split
  · exact .single (.sent held ready)
  · have sampled := system.world.sample_quiet
      (nextReading around.readings) flight.job.admittedAtEpoch
    refine .tail (Advances.of_path system sampled.calmed.path) ?_
    exact .declined held ready World.sampleOf_monotonic.le

theorem call_advances (ready : flight.stage = .marked invokedAtEpoch) :
    Advances shared renewing system (system.call around index flight invokedAtEpoch) := by
  have ticked := system.world.tick_quiet (nextReading around.readings)
  exact .tail (Advances.of_path system ticked.calmed.path) (.called held ready)

theorem answer_advances (ready : flight.stage = .calling invokedAtEpoch startedAt) :
    Advances shared renewing system
      (system.answer around index flight invokedAtEpoch startedAt outcome providerElapsed) := by
  have sampled := system.world.sample_quiet (nextReading around.readings)
    (addI64 invokedAtEpoch (toI64 (asSecs providerElapsed)))
  refine .tail (Advances.of_path system sampled.calmed.path) (.answered held ready ?_ ?_)
  · exact List.mem_append_right _ (List.mem_singleton_self _)
  · exact World.sampleOf_monotonic

end

section

variable (held : system.Holds index flight)
include held

/-- A job that settles is over. -/
theorem Advances.of_settled (ends : flight.stage.EndsWith system.world.elapsed finishedAt attempted)
    (settled : SettledWorld shared flight.job finishedAt attempted system.world after) :
    Advances shared renewing system ((system.withWorld after).land index) := by
  obtain ⟨entry, settled, found, settles, calmed⟩ := settled
  refine .head (.settled held ends found settles) ?_
  exact Advances.of_path
    ((system.withWorld (system.world.enter flight.job.capability settled)).land index) calmed.path

theorem finish_advances
    (ready : flight.stage = .answered startedAt outcome providerElapsed finishedAt) :
    Advances shared renewing system
      (system.finish shared around index flight outcome providerElapsed finishedAt) := by
  unfold System.finish World.run
  dsimp only
  rcases finishProbe_settles shared flight.job outcome providerElapsed
      finishedAt (around.session system.world) with
    settled | ⟨forgotten, unchanged⟩
  · exact .of_settled shared system held (by rw [ready]; exact .answered) settled
  · rw [unchanged]
    exact .single (.dropped held fun _ => forgotten)

theorem failUnsent_advances (ready : flight.stage = .rejected finishedAt) :
    Advances shared renewing system (system.failUnsent shared around index flight finishedAt) := by
  unfold System.failUnsent World.run
  dsimp only
  by_cases stale : ∀ entry,
      system.world.entryOf flight.job.capability = some entry → isStale entry flight.job
  · have unchanged := finishFailureInState_stale shared flight.job
      (coordinationError .unavailable "usage coordinator queue is unavailable") none finishedAt
      (around.session system.world) stale
    rw [finishFailure, unchanged]
    refine .single (.dropped held ?_)
    simp [ready, Stage.inFlight]
  · push Not at stale
    obtain ⟨_, found, fresh⟩ := stale
    apply Advances.of_settled shared system held (by rw [ready]; exact .rejected)
    exact @finishFailureInState_settles _ (around.session system.world) _ _ found _ _ _ _ _
      (.inl (Bool.eq_false_iff.mpr fresh))

theorem NotStarted.advances (ready : flight.stage = .queued)
    (unstarted : NotStarted shared flight.job system.world after) :
    Advances shared renewing system ((system.withWorld after).land index) := by
  rcases unstarted with path | ⟨reached, sample, path, past, settled⟩
  · refine .tail (Advances.of_path system path) (.dropped held ?_)
    simp [ready, Stage.inFlight]
  · refine (Advances.of_path system path).trans ?_
    exact Advances.of_settled shared (system.withWorld reached) held
      (by rw [ready]; exact .queued past) settled

theorem mark_advances (ready : flight.stage = .queued) :
    Advances shared renewing system (system.mark shared around index flight) := by
  have ends := markUpdating_ends shared flight.job (around.session system.world)
  unfold Program.Ends at ends
  unfold System.mark World.run
  generalize Program.exec _ _ = ended at ends ⊢
  obtain ⟨result, _⟩ := ended
  cases result with
  | error => exact NotStarted.advances shared system held ready ends
  | ok invoked =>
    rcases ends with ⟨rfl, unstarted⟩ | started
    · exact NotStarted.advances shared system held ready unstarted
    · obtain ⟨invokedAtEpoch, before, entry, rfl, path, starts, final⟩ := started
      dsimp only at final ⊢
      rw [final]
      exact .tail (Advances.of_path system path) (.started held ready starts)

end

theorem onFlight_advances (held : system.Holds index flight) :
    Advances shared renewing system (system.onFlight shared around index flight step) := by
  unfold System.onFlight
  split
  · exact send_advances shared system around held ‹_›
  · exact failUnsent_advances shared system around held ‹_›
  · exact mark_advances shared system around held ‹_›
  · exact call_advances shared system around held ‹_›
  · exact answer_advances shared system around held ‹_›
  · exact finish_advances shared system around held ‹_›
  · exact .refl

end

/-- Whether an event brings a new catalog. -/
def Event.renews : Event View → Bool
  | .reconcile _ _ _ => true
  | _ => false

theorem after_advances (shared : Shared View) (system : System View)
    (around : Surroundings) (event : Event View) :
    Advances shared event.renews system (system.after shared around event) := by
  cases event with
  | request capability observedGeneration force nowEpoch =>
    exact request_advances shared system around
  | load capability nowEpoch => exact load_advances shared system around
  | reconcile catalogRevision entries nowEpoch =>
    exact reconcile_advances shared system around catalogRevision entries nowEpoch
  | flight index step =>
    unfold System.after
    dsimp only
    split
    · exact onFlight_advances shared system around ‹_›
    · exact .refl

/-- Without a restriction on the catalog every advance is allowed. -/
theorem Advance.unrestricted {before after}
    (advance : Advance shared renewing before after) :
    Advance shared true before after := by
  cases renewing with
  | true => exact advance
  | false =>
    cases advance with
    | revised allowed => cases allowed
    | _ => constructor <;> assumption

/-- A history is a sequence of advances. -/
theorem play_advances (shared : Shared View) (system : System View)
    (history : List (Surroundings × Event View)) :
    Advances shared true system (system.play shared history) := by
  induction history generalizing system with
  | nil => exact .refl
  | cons step rest ih =>
    have first : Advances shared true system (system.after shared step.1 step.2) :=
      Relation.ReflTransGen.mono (fun _ _ => Advance.unrestricted) _ _
        (after_advances shared system step.1 step.2)
    exact first.trans (ih _)

end Jackin.Coordinator
