import Mathlib
import Jackin.Coordinator.SingleFlight

/-!
# Rolling a reconciliation back

Rolling a reconciliation back puts the whole state of the time before it in
place, with whatever refresh requests and workers have done in between undone
in memory.  This file says for which windows the rollback still leaves the
accounts outside the purge set alone, and for which it keeps provider calls
single.
-/

namespace Jackin.Coordinator

open List Foundation Machine World

variable {View : Type} {entry before after : AccountEntry View}
    {world : World View}
    {capability : Capability}

/-! ## Accounts a catalog does not change -/

/-- A revoked entry is of no catalog. -/
def Retired (entry : AccountEntry View) : Prop :=
  entry.revoked → entry.catalogRevision = none

/-- A change that keeps an entry in its catalog. -/
structure KeepsCatalog (before after : AccountEntry View) : Prop where
  revoked : after.revoked = before.revoked
  revision : after.catalogRevision = before.catalogRevision

theorem Settles.keepsCatalog (settles : Settles shared job finishedAt attempted entry settled) :
    KeepsCatalog entry settled := by
  induction settles with
  | succeeded | failed | fenced => exact ⟨rfl, rfl⟩
  | recorded _ ih => exact ⟨ih.revoked, ih.revision⟩

def AllRetired (world : World View) : Prop :=
  ∀ capability entry, world.entryOf capability = some entry → Retired entry

theorem AllRetired.enter (retired : AllRetired world)
    (holds : Retired entry) : AllRetired (world.enter capability entry) := by
  intro other found lookup
  rw [enter_entryOf] at lookup
  split at lookup
  · cases lookup
    exact holds
  · exact retired other found lookup

theorem AllRetired.keep (retired : AllRetired world)
    (found : world.entryOf capability = some before)
    (keeps : KeepsCatalog before after) :
    AllRetired (world.enter capability after) := by
  apply retired.enter
  rw [Retired, keeps.revoked, keeps.revision]
  exact retired capability before found

theorem AllRetired.of_calmed {before after : World View}
    (retired : AllRetired before)
    (calmed : Calmed before after) : AllRetired after := by
  intro capability entry found
  rw [calmed.entryOf] at found
  exact retired capability entry found

theorem Move.allRetired {before after : World View} (move : Move before after)
    (retired : AllRetired before) : AllRetired after := by
  cases move with
  | calm calmed => exact retired.of_calmed calmed
  | recorded found | broken found => exact retired.keep found ⟨rfl, rfl⟩
  | entered => exact retired.enter nofun

theorem Revision.allRetired {before after : World View}
    (revision : Revision before after)
    (retired : AllRetired before) : AllRetired after := by
  cases revision with
  | calm calmed => exact retired.of_calmed calmed
  | revoked => exact retired.enter fun _ => rfl
  | reset => exact retired.enter nofun

theorem Advance.allRetired {before after}
    (advance : Advance shared renewing before after)
    (retired : AllRetired before.world) : AllRetired after.world := by
  cases advance with
  | moved move => exact move.allRetired retired
  | revised _ revision => exact revision.allRetired retired
  | admitted admits => exact retired.keep admits.found ⟨rfl, rfl⟩
  | started _ _ starts => exact retired.keep starts.found ⟨rfl, rfl⟩
  | settled _ _ found settles => exact retired.keep found settles.keepsCatalog
  | sent | declined | called | answered | dropped => exact retired

/-- What the coordinator holds of an account: its entry and why it is blocked. -/
def CoordinatorState.accountOf (state : CoordinatorState View)
    (capability : Capability) :
    Option (AccountEntry View) × Option CoordinationError :=
  (state.accounts.lookup capability, state.blocked.lookup capability)

/-- The next catalog has the account as its entry has it. -/
def Listed (next : AccountMap String) (entry : AccountEntry View)
    (capability : Capability) : Prop :=
  entry.revoked = false ∧
    ∃ revision, next.lookup capability = some revision ∧ entry.catalogRevision = some revision

theorem listed_of_outside {state} {previous next}
    (found : state.accounts.lookup capability = some entry)
    (retired : Retired entry)
    (outside : capability ∉ catalogPurgeSet state previous next) :
    Listed next entry capability := by
  have row : (⟨capability, entry⟩ : Sigma fun _ => AccountEntry View) ∈
      state.accounts.entries := AList.mem_lookup_iff.mp found
  have current : ¬((next.lookup capability).isNone ∨
      entry.catalogRevision ≠ next.lookup capability) := by
    intro outdated
    apply outside
    simp only [catalogPurgeSet, mem_dedup, mem_append, mem_filterMap]
    exact .inl (.inr ⟨_, row, if_pos outdated⟩)
  rw [not_or, not_not, Option.isNone_iff_eq_none, ← ne_eq, Option.ne_none_iff_exists'] at current
  obtain ⟨⟨revision, listed⟩, same⟩ := current
  refine ⟨?_, revision, listed, same.trans listed⟩
  rw [← Bool.not_eq_true]
  intro revoked
  simp [retired revoked, listed] at same

section

variable (next : AccountMap String) (nowEpoch : Int) (sample : ClockSample)

theorem reconcileAccount_accountOf (changed : Capability)
    (state : CoordinatorState View)
    (listed : ∀ entry, state.accounts.lookup capability = some entry →
      Listed next entry capability) :
    (reconcileAccount next nowEpoch sample state changed).accountOf capability =
      state.accountOf capability := by
  unfold reconcileAccount
  cases found : state.accounts.lookup changed with
  | none => rfl
  | some entry =>
    by_cases same : capability = changed
    · subst same
      obtain ⟨unrevoked, revision, lookup, kept⟩ := listed entry found
      rw [lookup]
      dsimp only
      rw [if_neg (by simp [unrevoked, kept])]
    · have unblocked := AList.lookup_erase_ne (s := state.blocked) same
      cases next.lookup changed with
      | none =>
        dsimp only
        split
        · exact Prod.ext rfl unblocked
        · exact Prod.ext (AList.lookup_insert_ne same) unblocked
      | some revision =>
        dsimp only
        split
        · exact Prod.ext (AList.lookup_insert_ne same) unblocked
        · rfl

theorem reconcileAccounts_accountOf (state : CoordinatorState View)
    (listed : ∀ entry, state.accounts.lookup capability = some entry →
      Listed next entry capability) :
    (reconcileAccounts next nowEpoch sample state).accountOf capability =
      state.accountOf capability := by
  unfold reconcileAccounts
  generalize state.accounts.keys = capabilities
  induction capabilities generalizing state with
  | nil => rfl
  | cons changed rest ih =>
    have step := reconcileAccount_accountOf next nowEpoch sample changed state listed
    have entries := congrArg Prod.fst step
    dsimp only [CoordinatorState.accountOf] at entries
    rw [foldl_cons, ih _ (by rwa [entries]), step]

end

/-! ## Progress of an entry -/

/-- How far a refresh has come. -/
def RefreshPhase.rank : RefreshPhase → Nat
  | .queued => 0
  | .updating => 1
  | _ => 2

/--
Within a fixed catalog an entry only counts up: its generation, then its
phase, then the end of the marked call, then the recording of its view.
-/
def AccountEntry.rank (entry : AccountEntry View) : Nat :=
  entry.envelope.generation * 12 + entry.envelope.phase.rank * 4 +
    (if entry.pendingProviderGeneration.isNone then 2 else 0) +
    (if entry.recorded then 1 else 0)

def rankOf : Option (AccountEntry View) → Nat
  | none => 0
  | some entry => entry.rank + 1

theorem recordTerminal_recorded (entry : AccountEntry View) :
    entry.recordTerminal.recorded := by
  rw [AccountEntry.recorded, any_eq_true]
  refine ⟨generationView entry.envelope, ?_, by simp [generationView, AccountEntry.recordTerminal]⟩
  unfold AccountEntry.recordTerminal
  dsimp only
  rw [drop_append_of_le_length (by simp [terminalHistoryLimit])]
  exact mem_append_right _ (mem_singleton_self _)

theorem rank_le_recordTerminal (entry : AccountEntry View) :
    entry.rank ≤ entry.recordTerminal.rank := by
  have recorded := recordTerminal_recorded entry
  have bound : (if entry.recorded then 1 else 0) ≤ 1 := by split <;> omega
  unfold AccountEntry.rank
  rw [recorded]
  exact Nat.add_le_add_left bound _

theorem rank_lt_recordTerminal (unrecorded : entry.recorded = false) :
    entry.rank < entry.recordTerminal.rank := by
  have recorded := recordTerminal_recorded entry
  unfold AccountEntry.rank
  rw [recorded, unrecorded]
  simp [AccountEntry.recordTerminal]

/-- A new generation outranks all of the last one. -/
theorem rank_lt_of_generation (newer : before.envelope.generation < after.envelope.generation) :
    before.rank < after.rank := by
  have phase : before.envelope.phase.rank ≤ 2 := by cases before.envelope.phase <;> decide
  unfold AccountEntry.rank
  split <;> split <;> split <;> split <;> omega

/-- A later phase outranks all of the earlier one. -/
theorem rank_lt_of_phase (generation : after.envelope.generation = before.envelope.generation)
    (later : before.envelope.phase.rank < after.envelope.phase.rank) :
    before.rank < after.rank := by
  unfold AccountEntry.rank
  split <;> split <;> omega

/-- However a job settles, its entry counts up. -/
theorem Settles.rank_lt (settles : Settles shared job finishedAt attempted entry settled) :
    entry.rank < settled.rank := by
  have active : ∀ entry : AccountEntry View, isStale entry job = false →
      entry.envelope.phase.rank < 2 := by
    intro entry fresh
    have phase := (isStale_eq_false fresh).2
    cases named : entry.envelope.phase with
    | queued | updating => decide
    | idle | completed | failed => simp [named, RefreshPhase.isActive] at phase
  induction settles with
  | succeeded fresh | failed fresh => exact rank_lt_of_phase rfl (active _ fresh)
  | @fenced entry failure stale marked =>
    have same : ∀ (envelope : AccountStateEnvelope View) (cooldown : Option Nat),
        envelope.generation = entry.envelope.generation →
        envelope.phase = entry.envelope.phase →
        entry.rank < ({ entry with
            envelope, cooldownNotBeforeMonotonic := cooldown
            pendingProviderGeneration := none } : AccountEntry View).rank := by
      intro envelope cooldown generation phase
      simp [AccountEntry.rank, AccountEntry.recorded, generation, phase, marked]
    cases failure <;> exact same _ _ rfl rfl
  | recorded _ ih => exact ih.trans_le (rank_le_recordTerminal _)

/-- An entry of the account is as it was, or has counted up. -/
def Progresses (capability : Capability) (before after : World View) : Prop :=
  after.entryOf capability = before.entryOf capability ∨
    rankOf (before.entryOf capability) < rankOf (after.entryOf capability)

theorem Progresses.enter (found : world.entryOf changed = some before)
    (newer : before.rank < after.rank) :
    Progresses capability world (world.enter changed after) := by
  rw [Progresses, enter_entryOf]
  split
  · rename_i same
    subst same
    rw [found]
    exact .inr (Nat.add_lt_add_right newer 1)
  · exact .inl rfl

theorem Move.progresses {before after : World View} (move : Move before after) :
    Progresses capability before after := by
  cases move with
  | calm calmed => exact .inl (calmed.entryOf capability)
  | recorded found unrecorded =>
    exact .enter found (rank_lt_recordTerminal unrecorded)
  | entered absent own inactive taken past =>
    rw [Progresses, note_entryOf, enter_entryOf]
    split
    · rename_i same
      subst same
      rw [absent]
      exact .inr (Nat.succ_pos _)
    · exact .inl rfl
  | broken found queued =>
    refine .enter found (rank_lt_of_phase rfl ?_)
    rw [queued]
    exact Nat.zero_lt_one

theorem Advance.progresses {before after}
    (advance : Advance shared false before after)
    (unsaturated : Unsaturated after.world.journal) :
    Progresses capability before.world after.world := by
  cases advance with
  | moved move => exact move.progresses
  | revised allowed => cases allowed
  | @admitted job _ _ admits =>
    have counted : job.generation < u64Max :=
      unsaturated (.admitted job) (mem_append_right _ (mem_singleton_self _))
    rw [admits.generation] at counted
    exact .enter admits.found (rank_lt_of_generation (lt_nextU64 counted))
  | started _ _ starts =>
    refine .enter starts.found (rank_lt_of_phase rfl ?_)
    rw [starts.queued]
    exact Nat.zero_lt_one
  | settled _ _ found settles => exact .enter found settles.rank_lt
  | sent | declined | called | answered | dropped => exact .inl rfl

theorem Progresses.trans
    (left : Progresses capability first second)
    (right : Progresses capability second third) :
    Progresses capability first third := by
  unfold Progresses at *
  rcases left with same | newer
  · rwa [same] at right
  · rcases right with same | later
    · rw [same]
      exact .inr newer
    · exact .inr (newer.trans later)

/-- An entry that returns to what it was has not changed in between. -/
theorem Progresses.unchanged
    (left : Progresses capability first second)
    (right : Progresses capability second third)
    (same : third.entryOf capability = first.entryOf capability) :
    second.entryOf capability = first.entryOf capability := by
  unfold Progresses at *
  rw [same] at right
  rcases left with kept | newer
  · exact kept
  · rcases right with kept | later
    · exact kept.symm
    · exact absurd (newer.trans later) (lt_irrefl _)

theorem Advances.progresses {before after}
    (advances : Advances shared false before after)
    (unsaturated : Unsaturated after.world.journal) :
    Progresses capability before.world after.world :=
  invariant_of_path (fun system => Unsaturated system.world.journal →
      Progresses capability before.world system.world)
    advances
    (fun _ _ advance ih unsaturated =>
      (ih (advance.unsaturated unsaturated)).trans (advance.progresses unsaturated))
    (fun _ => .inl rfl) unsaturated

/-- Every step of a history leaves what is seen of some accounts alone. -/
def Spares {Seen : Type} (view : World View → Capability → Seen)
    (shared : Shared View)
    (accounts : Capability → Prop) : System View → List (Surroundings × Event View) → Prop
  | _, [] => True
  | system, step :: rest =>
    (∀ capability, accounts capability →
      view (system.after shared step.1 step.2).world capability = view system.world capability) ∧
    Spares view shared accounts (system.after shared step.1 step.2) rest

/-- No step of a history admits a refresh or starts a provider call. -/
def StartsNothing (shared : Shared View) : System View → List (Surroundings × Event View) → Prop
  | _, [] => True
  | system, step :: rest =>
    (∀ flight ∈ (system.after shared step.1 step.2).flights,
      ∃ earlier ∈ system.flights, earlier.job = flight.job ∧
        (flight.stage.inFlight → earlier.stage.inFlight)) ∧
    StartsNothing shared (system.after shared step.1 step.2) rest

section

variable {system : System View} {accounts : Capability → Prop}

theorem Spares.play {Seen : Type} {view : World View → Capability → Seen}
    (spares : Spares view shared accounts system window)
    (mine : accounts capability) :
    view (system.play shared window).world capability =
      view system.world capability := by
  induction window generalizing system with
  | nil => rfl
  | cons step rest ih => exact (ih spares.2).trans (spares.1 capability mine)

theorem StartsNothing.play (nothing : StartsNothing shared system window)
    (member : flight ∈ (system.play shared window).flights) :
    ∃ earlier ∈ system.flights, earlier.job = flight.job ∧
      (flight.stage.inFlight → earlier.stage.inFlight) := by
  induction window generalizing system with
  | nil => exact ⟨flight, member, rfl, id⟩
  | cons step rest ih =>
    obtain ⟨between, here, same, held⟩ := ih nothing.2 member
    obtain ⟨earlier, before, equal, kept⟩ := nothing.1 between here
    exact ⟨earlier, before, equal.trans same, fun inFlight => kept (held inFlight)⟩

theorem Advances.unsaturated {before after}
    (advances : Advances shared renewing before after)
    (unsaturated : Unsaturated after.world.journal) :
    Unsaturated before.world.journal :=
  invariant_of_path
    (fun system => Unsaturated system.world.journal → Unsaturated before.world.journal) advances
    (fun _ _ advance ih later => ih (advance.unsaturated later)) (id) unsaturated

theorem after_progresses {step : Surroundings × Event View}
    (fixed : step.2.renews = false)
    (unsaturated : Unsaturated (system.after shared step.1 step.2).world.journal)
    (capability : Capability) :
    Progresses capability system.world (system.after shared step.1 step.2).world := by
  have advances := after_advances shared system step.1 step.2
  rw [fixed] at advances
  exact advances.progresses unsaturated

theorem play_progresses (fixed : ∀ step ∈ window, step.2.renews = false)
    (unsaturated : Unsaturated (system.play shared window).world.journal)
    (capability : Capability) :
    Progresses capability system.world (system.play shared window).world := by
  induction window generalizing system with
  | nil => exact .inl rfl
  | cons step rest ih =>
    have first := after_progresses (fixed step mem_cons_self)
      ((play_advances shared _ rest).unsaturated unsaturated) capability
    exact first.trans (ih (fun other member => fixed other (mem_cons_of_mem _ member)) unsaturated)

/-- Entries that end as they began were left alone by every step. -/
theorem Spares.of_play (fixed : ∀ step ∈ window, step.2.renews = false)
    (unsaturated : Unsaturated (system.play shared window).world.journal)
    (same : ∀ capability, accounts capability →
      (system.play shared window).world.entryOf capability = system.world.entryOf capability) :
    Spares entryOf shared accounts system window := by
  induction window generalizing system with
  | nil => trivial
  | cons step rest ih =>
    have later : ∀ other ∈ rest, other.2.renews = false :=
      fun other member => fixed other (mem_cons_of_mem _ member)
    have kept : ∀ capability, accounts capability →
        (system.after shared step.1 step.2).world.entryOf capability =
          system.world.entryOf capability := by
      intro capability mine
      have first := after_progresses (fixed step mem_cons_self)
        ((play_advances shared _ rest).unsaturated unsaturated) capability
      have second := play_progresses later unsaturated capability
      exact first.unchanged second (same capability mine)
    refine ⟨kept, ih later unsaturated ?_⟩
    intro capability mine
    exact (same capability mine).trans (kept capability mine).symm

end

/-! ## Rollback -/

/-- Reconcile with a new catalog, keeping the transaction. -/
def System.reconcile (system : System View) (around : Surroundings)
    (catalogRevision : Option String) (entries : List CatalogEntry)
    (nowEpoch : Int) :
    Except CoordinationError (CatalogTransaction View) × System View :=
  let (result, world) := system.world.run around
    (reconcileCatalogTransactionWithRevision catalogRevision entries nowEpoch)
  (result, system.withWorld world)

/-- Roll a transaction back; the caller only learns whether it failed. -/
def System.rollBack (system : System View) (around : Surroundings)
    (transaction : CatalogTransaction View) (nowEpoch : Int) : System View :=
  system.withWorld (system.world.run around (transaction.rollback nowEpoch)).2

/-- The rollback puts the old state in place, whatever else fails. -/
theorem rollback_quiet (transaction : CatalogTransaction View)
    (nowEpoch : Int) (session : Session View) :
    Quiet { session.world with state := transaction.previousState }
      ((transaction.rollback nowEpoch).exec session).2.world := by
  have ends : (transaction.rollback nowEpoch).Leaves session fun reached =>
    Quiet { session.world with state := transaction.previousState } reached.world := by
    refine (restoreCatalogPreimages_still session).ends_bind ?_
    intro durable written writtenQuiet _
    refine (executorCall_still _).ends_bind ?_
    intro executor called calledQuiet _
    have calm := writtenQuiet.trans calledQuiet
    refine .bind _ setState_ends ?_
    intro _ restored same
    have quiet : Quiet
        { session.world with state := transaction.previousState }
        restored.world := by
      rw [same]
      exact ⟨rfl, calm.elapsed, calm.samples, calm.journal⟩
    cases firstCatalogRollbackError (asStateError durable) executor <;> exact quiet
  exact ends.final

/-- The accounts that a catalog with these entries removes or changes. -/
def System.purgeSet (system : System View)
    (entries : List CatalogEntry) : List Capability :=
  catalogPurgeSet system.world.state (previousCatalog system.world.state) (catalogOf entries)

section

variable {before opened : System View} {transaction : CatalogTransaction View}

section

variable (succeeded : before.reconcile around catalogRevision entries nowEpoch =
      (.ok transaction, opened))
include succeeded

theorem reconcile_succeeded :
    opened.flights = before.flights ∧
      transaction.previousState = before.world.state ∧
      ∃ sample, opened.world.state =
        { reconcileAccounts (catalogOf entries) nowEpoch sample before.world.state with
          catalog := some (catalogOf entries), catalogRevision } := by
  have ends := reconcile_ends catalogRevision entries nowEpoch (around.session before.world)
  unfold Program.Ends at ends
  unfold System.reconcile run at succeeded
  generalize Program.exec _ _ = ended at ends succeeded
  obtain ⟨_, _⟩ := ended
  obtain ⟨rfl, rfl⟩ := Prod.mk.inj succeeded
  exact ⟨rfl, ends.2⟩

/-- The reconciliation leaves the accounts outside the purge set alone. -/
theorem reconcile_frame (retired : AllRetired before.world)
    (outside : capability ∉ before.purgeSet entries) :
    opened.world.state.accountOf capability =
      before.world.state.accountOf capability := by
  obtain ⟨_, _, _, state⟩ := reconcile_succeeded succeeded
  rw [state]
  apply reconcileAccounts_accountOf
  intro entry found
  exact listed_of_outside found (retired capability entry found) outside

theorem reconcile_succeeded_advances : Advances shared true before opened := by
  have advances := reconcile_advances shared before around catalogRevision entries nowEpoch
  have same : before.after shared around (.reconcile catalogRevision entries nowEpoch) = opened :=
    congrArg Prod.snd succeeded
  rwa [same] at advances

theorem rollBack_state (closed : System View) :
    (closed.rollBack rollbackAround transaction rollbackEpoch).world.state =
      before.world.state := by
  have quiet := rollback_quiet transaction rollbackEpoch (rollbackAround.session closed.world)
  rw [(reconcile_succeeded succeeded).2.1] at quiet
  exact quiet.state

end

/-- A window that starts nothing leaves the old entries their flights. -/
theorem rollBack_consistent (rollbackAround : Surroundings)
    (rollbackEpoch : Int)
    (succeeded : before.reconcile around catalogRevision entries nowEpoch =
      (.ok transaction, opened)) (played : opened.play shared window = closed)
    (nothing : StartsNothing shared opened window)
    (beforeConsistent : Consistent before)
    (closedConsistent : Consistent closed) :
    Consistent (closed.rollBack rollbackAround transaction rollbackEpoch) where
  sound := by
    intro capability entry found
    rw [entryOf, rollBack_state succeeded] at found
    exact beforeConsistent.sound capability entry found
  known := by
    subst played
    intro flight member
    obtain ⟨earlier, here, same, held⟩ := nothing.play member
    rw [(reconcile_succeeded succeeded).1] at here
    obtain ⟨entry, found, known⟩ := beforeConsistent.known earlier here
    refine ⟨entry, ?_, ?_, ?_⟩
    · rwa [entryOf, rollBack_state succeeded, ← same]
    · rw [← same]
      exact known.generation
    · intro inFlight
      rw [← same]
      exact known.marked (held inFlight)
  apart := closedConsistent.apart

end

/--
A rollback leaves the accounts outside the purge set, their entries and the
errors they are blocked with, as they were just before it exactly if they have
not changed since the reconciliation; that is so when no step of the window
has changed one of them, and, as long as no generation saturates, only when
none has changed an entry.  When the window in addition starts nothing,
provider calls stay single ever after.
-/
theorem rollback_frame (shared : Shared View)
    (catalog : Option (AccountMap String)) (startRevision : Option String)
    (durable : AccountMap (Stored View))
    (history window : List (Surroundings × Event View))
    (around rollbackAround : Surroundings) (catalogRevision : Option String)
    (entries : List CatalogEntry) (nowEpoch rollbackEpoch : Int)
    (before opened : System View) (transaction : CatalogTransaction View)
    (reached : (System.start catalog startRevision durable).play shared history = before)
    (succeeded : before.reconcile around catalogRevision entries nowEpoch =
      (.ok transaction, opened))
    (fixed : ∀ step ∈ window, step.2.renews = false) :
    let closed := opened.play shared window
    let restored := closed.rollBack rollbackAround transaction rollbackEpoch
    let outside := fun capability => capability ∉ before.purgeSet entries
    let kept := ∀ capability, outside capability →
      restored.world.state.accountOf capability = closed.world.state.accountOf capability
    (kept ↔ ∀ capability, outside capability →
        closed.world.state.accountOf capability = opened.world.state.accountOf capability) ∧
      (Spares (·.state.accountOf) shared outside opened window → kept) ∧
      (Unsaturated closed.world.journal → kept → Spares entryOf shared outside opened window) ∧
      (StartsNothing shared opened window →
        ∀ later, Unsaturated (restored.play shared later).world.journal →
          ∀ capability, ((restored.play shared later).callsInFlight capability).length ≤ 1) := by
  intro closed restored outside kept
  have advances := play_advances shared (System.start catalog startRevision durable) history
  rw [reached] at advances
  have retired : AllRetired before.world :=
    invariant_of_path (fun system => AllRetired system.world) advances
      (fun _ _ advance => advance.allRetired) (fun _ _ found => by cases found)
  have restores : ∀ capability, outside capability →
      restored.world.state.accountOf capability = opened.world.state.accountOf capability := by
    intro capability mine
    rw [rollBack_state succeeded]
    exact (reconcile_frame succeeded retired mine).symm
  have exactly : kept ↔ ∀ capability, outside capability →
      closed.world.state.accountOf capability = opened.world.state.accountOf capability := by
    constructor
    · intro keeps capability mine
      exact (keeps capability mine).symm.trans (restores capability mine)
    · intro same capability mine
      exact (restores capability mine).trans (same capability mine).symm
  refine ⟨exactly, ?_, ?_, ?_⟩
  · intro spares
    exact exactly.mpr fun _ => spares.play
  · intro unsaturated keeps
    exact .of_play fixed unsaturated fun capability mine =>
      congrArg Prod.fst (exactly.mp keeps capability mine)
  · intro nothing later unsaturated capability
    have onward := play_advances shared restored later
    have journal : restored.world.journal = closed.world.journal :=
      (rollback_quiet transaction rollbackEpoch (rollbackAround.session closed.world)).journal
    have closedCounted : Unsaturated closed.world.journal := by
      rw [← journal]
      exact onward.unsaturated unsaturated
    have toClosed : Advances shared true before closed :=
      (reconcile_succeeded_advances succeeded).trans (play_advances shared opened window)
    have beforeConsistent := advances.consistent (toClosed.unsaturated closedCounted)
      (start_consistent catalog startRevision durable)
    have restoredConsistent := rollBack_consistent rollbackAround
      rollbackEpoch succeeded rfl nothing beforeConsistent
      (toClosed.consistent closedCounted beforeConsistent)
    exact (onward.consistent unsaturated restoredConsistent).single capability

/-! ## Sample windows -/

def otherAccount : Capability := ⟨"other", "codex"⟩

def bothListed : Option (AccountMap String) :=
  some (catalogOf [⟨codexAccount, "first"⟩, ⟨otherAccount, "first"⟩])

/-- A refresh of the account up to its provider call. -/
def startRefresh (observedGeneration : Nat) : List (Surroundings × Event Nat) :=
  [(still, .request codexAccount observedGeneration true 100),
    (still, .flight 0 (.send true)), (still, .flight 0 .mark)]

def endRefresh : List (Surroundings × Event Nat) :=
  [(still, .flight 0 .call), (still, .flight 0 (.answer (.success 7) 0)),
    (still, .flight 0 .finish)]

def beforeRemoval (history : List (Surroundings × Event Nat)) : System Nat :=
  (System.start bothListed none ∅).play sampleShared history

/-- The catalog without the other account, which is purged. -/
def removal (history : List (Surroundings × Event Nat)) :
    Except CoordinationError (CatalogTransaction Nat) × System Nat :=
  (beforeRemoval history).reconcile still none [⟨codexAccount, "first"⟩] 100

def finishedRefresh : List (Surroundings × Event Nat) :=
  startRefresh 0 ++ endRefresh

/-- A window in which a request only joins what is there. -/
def joiningWindow : List (Surroundings × Event Nat) :=
  [(still, .request codexAccount 0 true 100)]

def joined : System Nat :=
  (removal finishedRefresh).2.play sampleShared joiningWindow

theorem joiningWindow_rollback :
    ∃ transaction, removal finishedRefresh = (.ok transaction, (removal finishedRefresh).2) ∧
      ∀ capability,
        capability ∉ (beforeRemoval finishedRefresh).purgeSet [⟨codexAccount, "first"⟩] →
        (joined.rollBack still transaction 100).world.state.accountOf capability =
          joined.world.state.accountOf capability := by
  have succeeded : (removal finishedRefresh).1.isOk := by decide +kernel
  obtain ⟨transaction, result⟩ :
      ∃ transaction, (removal finishedRefresh).1 = .ok transaction := by
    cases ended : (removal finishedRefresh).1 with
    | ok transaction => exact ⟨transaction, rfl⟩
    | error error => simp [ended, Except.toBool] at succeeded
  have ended : removal finishedRefresh =
      (.ok transaction, (removal finishedRefresh).2) :=
    Prod.ext result rfl
  have accounts : joined.world.state.accounts =
      (removal finishedRefresh).2.world.state.accounts := by
    apply AList.ext
    decide +kernel
  have blocked : joined.world.state.blocked =
      (removal finishedRefresh).2.world.state.blocked := by
    apply AList.ext
    decide +kernel
  refine ⟨transaction, ended, ?_⟩
  have frame := rollback_frame sampleShared bothListed none ∅ finishedRefresh joiningWindow still
    still none [⟨codexAccount, "first"⟩] 100 100 _ _ transaction rfl ended
    (by simp [joiningWindow, Event.renews])
  refine frame.1.mpr fun capability _ => ?_
  change joined.world.state.accountOf capability = _
  rw [CoordinatorState.accountOf, accounts, blocked]
  rfl

/-- What a caller and a worker see of an entry. -/
structure Outline where
  generation : Nat
  phase : RefreshPhase
  marker : Option Nat
  deriving DecidableEq

def outline (system : System Nat) : Option Outline :=
  (system.world.entryOf codexAccount).map fun entry =>
    ⟨entry.envelope.generation, entry.envelope.phase, entry.pendingProviderGeneration⟩

/-- The account before and after the rollback, and its calls later on. -/
def rolledBack (history window later : List (Surroundings × Event Nat)) :
    Option (Option Outline × Option Outline × Nat) :=
  match removal history with
  | (.error _, _) => none
  | (.ok transaction, opened) =>
    let closed := opened.play sampleShared window
    let restored := closed.rollBack still transaction 100
    some (outline closed, outline restored,
      ((restored.play sampleShared later).callsInFlight codexAccount).length)

/--
The account is not purged.  A refresh that is admitted and started in the
window is forgotten, its generation is given again and a second call runs
beside it; an attempt that ends in the window is active again.
-/
theorem rollback_loses_window :
    codexAccount ∉ (beforeRemoval finishedRefresh).purgeSet [⟨codexAccount, "first"⟩] ∧
      rolledBack finishedRefresh (startRefresh 1)
          [(still, .request codexAccount 1 true 100),
            (still, .flight 1 (.send true)), (still, .flight 1 .mark)] =
        some (some ⟨2, .updating, some 2⟩, some ⟨1, .completed, none⟩, 2) ∧
      codexAccount ∉ (beforeRemoval (startRefresh 0)).purgeSet [⟨codexAccount, "first"⟩] ∧
      rolledBack (startRefresh 0) endRefresh [] =
        some (some ⟨1, .completed, none⟩, some ⟨1, .updating, some 1⟩, 0) :=
  ⟨by decide +kernel, by decide +kernel, by decide +kernel, by decide +kernel⟩

end Jackin.Coordinator
