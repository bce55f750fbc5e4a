import Mathlib
import Jackin.Coordinator.Advance

/-!
# One provider call per account

The marker of an entry names the generation whose provider call is running.
A job in flight holds the marker of its account, two jobs of one account never
have the same generation, and a queued refresh has no marker.  These facts are
kept by every advance, as long as no admission saturates the generation.
-/

namespace Jackin.Coordinator

open List Foundation Machine World
open Coordinator.System

variable {View : Type}

variable {entry : AccountEntry View} {flight : Flight View}
    {system before after : System View}
    {capability : Capability} {world : World View} {job : ProbeJob}
    {failure : Option ProviderFailure}

/-- The marker of an active entry is its own generation. -/
structure EntrySound (entry : AccountEntry View) : Prop where
  queued : entry.envelope.phase = .queued → entry.pendingProviderGeneration = none
  active : entry.envelope.phase.isActive →
    ∀ generation, entry.pendingProviderGeneration = some generation →
      generation = entry.envelope.generation

/-- The entry knows the job, and a job in flight holds its marker. -/
structure Known (entry : AccountEntry View) (flight : Flight View) : Prop where
  generation : flight.job.generation ≤ entry.envelope.generation
  marked : flight.stage.inFlight →
    entry.pendingProviderGeneration = some flight.job.generation

/-- Two jobs that cannot be taken for each other. -/
def Apart (first second : ProbeJob) : Prop :=
  first.capability = second.capability → first.generation ≠ second.generation

theorem Apart.symm (apart : Apart first second) : Apart second first :=
  fun same equal => apart same.symm equal.symm

/-- Entries are sound, and flights known to theirs and apart. -/
structure Consistent (system : System View) : Prop where
  sound : ∀ capability entry, system.world.entryOf capability = some entry → EntrySound entry
  known : ∀ flight ∈ system.flights, ∃ entry,
    system.world.entryOf flight.job.capability = some entry ∧ Known entry flight
  apart : (system.flights.map Flight.job).Pairwise Apart

/-- An admission whose generation is a new one. -/
def Occurrence.Counted : Occurrence View → Prop
  | .admitted job => job.generation < u64Max
  | _ => True

instance (occurrence : Occurrence View) : Decidable occurrence.Counted :=
  match occurrence with
  | .admitted job => inferInstanceAs (Decidable (job.generation < u64Max))
  | .loaded _ _ _ => isTrue trivial
  | .invoked _ _ => isTrue trivial

/-- No admission of the journal has saturated the generation. -/
def Unsaturated (journal : List (Occurrence View)) : Prop :=
  ∀ occurrence ∈ journal, occurrence.Counted

instance (journal : List (Occurrence View)) : Decidable (Unsaturated journal) :=
  inferInstanceAs (Decidable (∀ occurrence ∈ journal, occurrence.Counted))

theorem EntrySound.of_unmarked (unmarked : entry.pendingProviderGeneration = none) :
    EntrySound entry where
  queued := fun _ => unmarked
  active := by simp [unmarked]

theorem EntrySound.of_inactive (inactive : entry.envelope.phase.isActive = false) :
    EntrySound entry where
  queued := by
    intro queued
    simp [queued, RefreshPhase.isActive] at inactive
  active := by simp [inactive]

/-- The part of an entry that flights depend on is kept. -/
structure Keeps (before after : AccountEntry View) : Prop where
  generation : before.envelope.generation ≤ after.envelope.generation
  marker : after.pendingProviderGeneration = before.pendingProviderGeneration
  sound : EntrySound before → EntrySound after

theorem Keeps.known {before after} (keeps : Keeps before after)
    (known : Known before flight) : Known after flight where
  generation := known.generation.trans keeps.generation
  marked := fun inFlight => keeps.marker.trans (known.marked inFlight)

section

variable (consistent : Consistent system)
include consistent

/--
An entry may be replaced when the new one is sound and the flights of the
account know it.
-/
theorem Consistent.enter (sound : EntrySound entry)
    (known : ∀ flight ∈ system.flights,
      flight.job.capability = capability → Known entry flight) :
    Consistent (system.withWorld (system.world.enter capability entry)) where
  sound := by
    intro other found lookup
    simp only [withWorld, enter_entryOf] at lookup
    split at lookup
    · cases lookup
      exact sound
    · exact consistent.sound other found lookup
  known := by
    intro flight member
    simp only [withWorld, enter_entryOf]
    split
    · rename_i same
      exact ⟨entry, rfl, known flight member same⟩
    · exact consistent.known flight member
  apart := consistent.apart

theorem Consistent.knows (member : flight ∈ system.flights)
    (same : flight.job.capability = capability)
    (found : system.world.entryOf capability = some entry) :
    Known entry flight := by
  obtain ⟨known, lookup, holds⟩ := consistent.known flight member
  rw [same, found] at lookup
  cases lookup
  exact holds

theorem Consistent.keep {before after}
    (found : system.world.entryOf capability = some before)
    (keeps : Keeps before after) :
    Consistent (system.withWorld (system.world.enter capability after)) := by
  apply consistent.enter (keeps.sound (consistent.sound _ _ found))
  intro flight member same
  exact keeps.known (consistent.knows member same found)

/-- The entries of the world are all that matters of it. -/
theorem Consistent.of_entries
    (same : ∀ capability, world.entryOf capability = system.world.entryOf capability) :
    Consistent (system.withWorld world) where
  sound := by
    intro capability entry found
    exact consistent.sound capability entry ((same capability).symm.trans found)
  known := by
    intro flight member
    simp only [withWorld, same]
    exact consistent.known flight member
  apart := consistent.apart

theorem Consistent.moved (move : Move system.world world) :
    Consistent (system.withWorld world) := by
  obtain ⟨initial, flights⟩ := system
  cases move with
  | calm calmed => exact consistent.of_entries calmed.entryOf
  | recorded found unrecorded =>
    exact consistent.keep found ⟨le_refl _, rfl, fun sound => ⟨sound.queued, sound.active⟩⟩
  | @entered capability recoveryPending loaded catalogRevision envelope sample absent =>
    have unknown : ∀ flight ∈ flights, flight.job.capability ≠ capability := by
      rintro flight member rfl
      obtain ⟨entry, found, _⟩ := consistent.known flight member
      simp [absent] at found
    have sound : EntrySound (AccountEntry.new envelope recoveryPending
        (reloadSafetyFence loaded) sample catalogRevision) :=
      .of_unmarked rfl
    have entered := consistent.enter sound
      (fun flight member same => absurd same (unknown flight member))
    exact entered.of_entries fun _ => rfl
  | broken found queued =>
    exact consistent.keep found ⟨le_refl _, rfl, fun sound => .of_unmarked (sound.queued queued)⟩

theorem Consistent.revised (revision : Revision system.world world) :
    Consistent (system.withWorld world) := by
  obtain ⟨initial, flights⟩ := system
  cases revision with
  | calm calmed => exact consistent.of_entries calmed.entryOf
  | revoked found past =>
    exact consistent.keep found ⟨le_nextU64, rfl, fun _ => .of_inactive rfl⟩
  | reset found past =>
    exact consistent.keep found ⟨le_nextU64, rfl, fun _ => .of_inactive rfl⟩

end

theorem map_job_move (held : system.Holds index flight) :
    (system.move index flight stage).flights.map Flight.job =
      system.flights.map Flight.job := by
  obtain ⟨_, rfl⟩ := List.getElem?_eq_some_iff.mp held
  apply ext_getElem
  · simp [move]
  · intro position _ _
    simp only [move, getElem_set, getElem_map]
    split
    · rename_i same
      subst same
      rfl
    · rfl

section

variable (consistent : Consistent system)
include consistent

/-- A flight may take any stage in which its entry still knows it. -/
theorem Consistent.move (held : system.Holds index flight)
    (known : ∀ entry,
      system.world.entryOf flight.job.capability = some entry →
        Known entry flight → Known entry ⟨flight.job, stage⟩) :
    Consistent (system.move index flight stage) where
  sound := consistent.sound
  known := by
    intro moved member
    rcases mem_or_eq_of_mem_set member with kept | rfl
    · exact consistent.known moved kept
    · obtain ⟨entry, found, holds⟩ := consistent.known flight (mem_of_getElem? held)
      exact ⟨entry, found, known entry found holds⟩
  apart := by
    rw [map_job_move held]
    exact consistent.apart

theorem Consistent.land : Consistent (system.land index) where
  sound := consistent.sound
  known := fun flight member => consistent.known flight (mem_of_mem_eraseIdx member)
  apart := consistent.apart.sublist ((eraseIdx_sublist system.flights index).map Flight.job)

/-- The other flights are apart from the one at an index. -/
theorem Consistent.apart_of_eraseIdx
    (held : system.Holds index flight)
    (member : other ∈ system.flights.eraseIdx index) :
    Apart flight.job other.job := by
  obtain ⟨bound, rfl⟩ := List.getElem?_eq_some_iff.mp held
  have rearranged := (getElem_cons_eraseIdx_perm bound).symm.map Flight.job
  have pairwise := (rearranged.pairwise_iff Apart.symm).mp consistent.apart
  rw [map_cons, pairwise_cons] at pairwise
  exact pairwise.1 other.job (mem_map_of_mem member)

/-- No other call of the account is in flight. -/
theorem Consistent.alone (held : system.Holds index flight)
    (inFlight : flight.stage.inFlight)
    (member : other ∈ system.flights.eraseIdx index)
    (same : other.job.capability = flight.job.capability) :
    other.stage.inFlight = false := by
  have apart := consistent.apart_of_eraseIdx held member
  obtain ⟨_, found, known⟩ := consistent.known flight (mem_of_getElem? held)
  have otherKnown := consistent.knows (mem_of_mem_eraseIdx member) same found
  rw [← Bool.not_eq_true]
  intro otherInFlight
  have marker := known.marked inFlight
  rw [otherKnown.marked otherInFlight] at marker
  exact apart same.symm (Option.some.inj marker).symm

theorem Consistent.launch (found : system.world.entryOf job.capability = some entry)
    (generation : job.generation ≤ entry.envelope.generation)
    (newer : ∀ flight ∈ system.flights, Apart flight.job job) :
    Consistent (system.launch (some job)) where
  sound := consistent.sound
  known := by
    intro flight member
    rcases mem_append.mp member with old | new
    · exact consistent.known flight old
    · rw [mem_singleton] at new
      subst new
      exact ⟨entry, found, generation, by simp [Stage.inFlight]⟩
  apart := by
    simp only [System.launch, map_append, pairwise_append]
    refine ⟨consistent.apart, ?_⟩
    simpa using newer

end

/-! ## Advances keep the invariant -/

/-- An admission gives the account a generation none of its jobs has. -/
theorem Consistent.admitted {sample} (consistent : Consistent system)
    (admits : Admits system.world job entry sample)
    (unsaturated : job.generation < u64Max) :
    Consistent ((system.withWorld (system.world.queue job entry sample)).launch (some job)) := by
  have grows : entry.envelope.generation < job.generation := by
    rw [admits.generation] at unsaturated ⊢
    exact lt_nextU64 unsaturated
  have entered : Consistent (system.withWorld (system.world.enter job.capability
      { entry with
        envelope := queuedEnvelope entry.envelope sample.floorEpoch
        recoveryPending := false })) :=
    consistent.keep admits.found ⟨le_nextU64, rfl, fun _ => .of_unmarked admits.unmarked⟩
  have noted : Consistent (system.withWorld (system.world.queue job entry sample)) :=
    entered.of_entries fun _ => rfl
  apply noted.launch
  · simp only [withWorld, queue, note_entryOf, enter_entryOf]
    rfl
  · exact admits.generation.le
  · intro flight member same equal
    have known := consistent.knows member same admits.found
    have older := known.generation.trans_lt grows
    exact older.ne equal

/-- A queued entry has no other job in flight. -/
theorem Consistent.started (consistent : Consistent system)
    (held : system.Holds index flight)
    (starts : Starts system.world flight.job entry) :
    Consistent ((system.withWorld (system.world.begin flight.job entry invokedAtEpoch)).move index
          flight (.marked invokedAtEpoch)) := by
  have unmarked := (consistent.sound _ _ starts.found).queued starts.queued
  have entered : Consistent (system.withWorld
      (system.world.begin flight.job entry invokedAtEpoch)) := by
    apply consistent.enter
    · constructor
      · rintro ⟨⟩
      · rintro _ generation ⟨⟩
        exact starts.generation.symm
    · intro other member same
      have known := consistent.knows member same starts.found
      constructor
      · exact known.generation
      · intro inFlight
        have marked := known.marked inFlight
        simp [unmarked] at marked
  apply entered.move held
  intro begun found known
  constructor
  · exact known.generation
  · intro _
    simp only [withWorld, begin, enter_entryOf] at found
    cases found
    rfl

theorem Settles.unmarked (settles : Settles shared job finishedAt attempted entry settled) :
    settled.pendingProviderGeneration = none := by
  induction settles with
  | succeeded | failed | fenced => rfl
  | recorded _ ih => exact ih

theorem Settles.generation (settles : Settles shared job finishedAt attempted entry settled) :
    settled.envelope.generation = entry.envelope.generation := by
  induction settles with
  | succeeded | failed => rfl
  | @fenced _ failure => cases failure <;> rfl
  | recorded _ ih => exact ih

theorem isStale_eq_false (fresh : isStale entry job = false) :
    entry.envelope.generation = job.generation ∧ entry.envelope.phase.isActive := by
  unfold isStale at fresh
  simp only [Bool.or_eq_false_iff, bne_eq_false_iff_eq, Bool.not_eq_false'] at fresh
  exact ⟨fresh.1.2, fresh.2⟩

/-- Only the marker of the job itself is taken away. -/
theorem Settles.marker
    (settles : Settles shared job finishedAt attempted entry settled)
    (sound : EntrySound entry)
    {generation} (marked : entry.pendingProviderGeneration = some generation) :
    generation = job.generation := by
  have current : ∀ entry : AccountEntry View, EntrySound entry →
      entry.pendingProviderGeneration = some generation →
      isStale entry job = false → generation = job.generation := by
    intro entry sound marked fresh
    obtain ⟨same, active⟩ := isStale_eq_false fresh
    exact (sound.active active generation marked).trans same
  induction settles with
  | succeeded fresh | failed fresh => exact current _ sound marked fresh
  | fenced _ held =>
    rw [marked] at held
    exact Option.some.inj held
  | recorded _ ih => exact ih sound marked

theorem Consistent.settled {settled} (consistent : Consistent system)
    (held : system.Holds index flight)
    (found : system.world.entryOf flight.job.capability = some entry)
    (settles : Settles shared flight.job finishedAt attempted entry settled) :
    Consistent
      ((system.withWorld (system.world.enter flight.job.capability settled)).land index) := by
  apply consistent.land.enter (.of_unmarked settles.unmarked)
  intro other member same
  have apart := consistent.apart_of_eraseIdx held member
  have known := consistent.knows (mem_of_mem_eraseIdx member) same found
  constructor
  · rw [settles.generation]
    exact known.generation
  · intro inFlight
    have equal := settles.marker (consistent.sound _ _ found) (known.marked inFlight)
    exact absurd equal.symm (apart same.symm)

/-- The journal only grows. -/
theorem Move.journal {before after : World View}
    (move : Move before after) : before.journal <+: after.journal := by
  cases move with
  | calm calmed => simp [calmed.journal]
  | recorded | broken => exact prefix_refl _
  | entered => exact prefix_append _ _

theorem Revision.journal {before after : World View}
    (revision : Revision before after) :
    before.journal <+: after.journal := by
  cases revision with
  | calm calmed => simp [calmed.journal]
  | revoked | reset => exact prefix_refl _

theorem Advance.journal (advance : Advance shared renewing before after) :
    before.world.journal <+: after.world.journal := by
  cases advance with
  | moved move => exact move.journal
  | revised _ revision => exact revision.journal
  | admitted | called => exact prefix_append _ _
  | sent | declined | started | answered | settled | dropped => exact prefix_refl _

theorem Advance.unsaturated (advance : Advance shared renewing before after)
    (unsaturated : Unsaturated after.world.journal) :
    Unsaturated before.world.journal :=
  fun occurrence member => unsaturated occurrence (advance.journal.mem member)

/-- A stage that changes nothing for the marker. -/
theorem Known.stage {stage} (known : Known entry flight)
    (same : stage.inFlight → flight.stage.inFlight) :
    Known entry ⟨flight.job, stage⟩ where
  generation := known.generation
  marked := fun inFlight => known.marked (same inFlight)

theorem Advance.consistent (advance : Advance shared renewing before after)
    (unsaturated : Unsaturated after.world.journal)
    (consistent : Consistent before) : Consistent after := by
  cases advance with
  | moved move => exact consistent.moved move
  | revised _ revision => exact consistent.revised revision
  | admitted admits =>
    refine consistent.admitted admits (unsaturated (.admitted _) ?_)
    exact mem_append_right _ (mem_singleton_self _)
  | sent held ready =>
    exact consistent.move held fun _ _ known => known.stage (by simp [Stage.inFlight])
  | declined held ready past =>
    exact consistent.move held fun _ _ known => known.stage (by simp [Stage.inFlight])
  | started held ready starts =>
    exact consistent.started held starts
  | @called _ flight _ held ready =>
    have noted : Consistent (before.withWorld (before.world.note
        (.invoked flight.job.capability before.world.elapsed))) :=
      consistent.of_entries fun _ => rfl
    exact noted.move held fun _ _ known => known.stage (by simp [ready, Stage.inFlight])
  | answered held ready taken current =>
    exact consistent.move held fun _ _ known => known.stage (by simp [ready, Stage.inFlight])
  | settled held ends found settles =>
    exact consistent.settled held found settles
  | dropped held forgotten => exact consistent.land

theorem Advances.consistent (advances : Advances shared renewing before after)
    (unsaturated : Unsaturated after.world.journal)
    (consistent : Consistent before) : Consistent after :=
  invariant_of_path (fun system => Unsaturated system.world.journal → Consistent system) advances
    (fun _ _ advance ih unsaturated =>
      advance.consistent unsaturated (ih (advance.unsaturated unsaturated)))
    (fun _ => consistent) unsaturated

/-! ## Superseded jobs -/

/-- The entry has moved on to another generation or catalog. -/
def Superseded (entry : AccountEntry View) (job : ProbeJob) : Prop :=
  entry.envelope.generation ≠ job.generation ∨
    entry.catalogRevision ≠ job.catalogRevision ∨ entry.revoked

/-- What callers see of the refresh of an entry is unchanged. -/
structure SameOutcome (before after : AccountEntry View) : Prop where
  generation : after.envelope.generation = before.envelope.generation
  phase : after.envelope.phase = before.envelope.phase
  terminalResult : after.envelope.terminalResult = before.envelope.terminalResult
  terminalError : after.envelope.terminalError = before.envelope.terminalError
  lastGood : after.envelope.lastGood = before.envelope.lastGood

theorem SameOutcome.refl : SameOutcome entry entry := ⟨rfl, rfl, rfl, rfl, rfl⟩

theorem Superseded.isStale (superseded : Superseded entry job) :
    isStale entry job := by
  rcases superseded with moved | moved | moved <;> simp [Coordinator.isStale, moved]

theorem Superseded.not_isQueued (superseded : Superseded entry job) :
    isQueued entry job = false := by
  rcases superseded with moved | moved | moved <;> simp [isQueued, moved]

theorem fencedEntry_sameOutcome :
    SameOutcome entry (fencedEntry shared job failure finishedAt entry) := by
  cases failure <;> exact ⟨rfl, rfl, rfl, rfl, rfl⟩

section

variable (shared : Shared View) (job : ProbeJob) (session : Session View)

/-- The account still has an entry, with the same outcome. -/
def KeepsOutcome (entry : AccountEntry View) (capability : Capability)
    (world : World View) : Prop :=
  ∃ after, world.entryOf capability = some after ∧ SameOutcome entry after

variable (found : session.world.entryOf job.capability = some entry)
include found

theorem finishFenced_keepsOutcome :
    KeepsOutcome entry job.capability
      ((finishFencedProviderAttempt shared job finishedAt failure).exec session).2.world := by
  rcases finishFenced_world found with ⟨_, unchanged⟩ | ⟨_, calmed⟩
  · rw [unchanged]
    exact ⟨entry, found, .refl⟩
  · refine ⟨fencedEntry shared job failure finishedAt entry, ?_, fencedEntry_sameOutcome⟩
    rw [calmed.entryOf, enter_entryOf, if_pos rfl]

section

variable (superseded : Superseded entry job)
include superseded

theorem finishSuccess_keepsOutcome :
    KeepsOutcome entry job.capability
      ((finishSuccess shared job view finishedAt).exec session).2.world := by
  rw [finishSuccess, exec_getState_bind, lookup_entry found]
  dsimp only
  rw [if_pos superseded.isStale]
  exact finishFenced_keepsOutcome shared job session found

theorem finishFailure_keepsOutcome :
    KeepsOutcome entry job.capability
      ((finishFailure shared job kind message retryAtEpoch finishedAt
        attempted).exec session).2.world := by
  rw [finishFailure, finishFailureInState, exec_getState_bind, lookup_entry found]
  dsimp only
  rw [if_pos superseded.isStale]
  cases attempted with
  | true => exact finishFenced_keepsOutcome shared job session found
  | false => exact ⟨entry, found, .refl⟩

theorem finishProbe_keepsOutcome :
    KeepsOutcome entry job.capability
      ((finishProbe shared job outcome providerElapsed finishedAt).exec session).2.world := by
  rcases finishProbe_cases shared with ⟨view, success⟩ | ⟨kind, message, retryAtEpoch, failure⟩
  · rw [success]
    exact finishSuccess_keepsOutcome shared job session found superseded
  · rw [failure]
    exact finishFailure_keepsOutcome shared job session found superseded

theorem markUpdating_superseded :
    (markUpdating shared job).exec session = (.ok none, session) := by
  rw [markUpdating, exec_getState_bind, lookup_entry found]
  dsimp only
  rw [superseded.not_isQueued]
  rfl

end

end

/-- No step of a superseded job changes what callers see. -/
theorem onFlight_keepsOutcome (found : system.world.entryOf flight.job.capability = some entry)
    (superseded : Superseded entry flight.job) :
    KeepsOutcome entry flight.job.capability
      (system.onFlight shared around index flight step).world := by
  have unchanged : KeepsOutcome entry flight.job.capability system.world :=
    ⟨entry, found, .refl⟩
  unfold onFlight
  split
  · unfold send
    split <;> exact unchanged
  · exact finishFailure_keepsOutcome shared flight.job
      (around.session system.world) found superseded
  · have marked := markUpdating_superseded shared flight.job
      (around.session system.world) found superseded
    rwa [mark, run, marked]
  · exact unchanged
  · exact unchanged
  · exact finishProbe_keepsOutcome shared flight.job (around.session system.world) found superseded
  · exact unchanged

/-- The provider calls of an account that are marked and not finished. -/
def System.callsInFlight (system : System View)
    (capability : Capability) : List (Flight View) :=
  system.flights.filter fun flight => flight.stage.inFlight && flight.job.capability == capability

theorem start_consistent (catalog : Option (AccountMap String))
    (catalogRevision : Option String) (durable : AccountMap (Stored View)) :
    Consistent (start catalog catalogRevision durable) where
  sound := by rintro _ _ ⟨⟩
  known := by nofun
  apart := .nil

/-- Two calls of one account would both hold its marker. -/
theorem Consistent.single (consistent : Consistent system)
    (capability : Capability) :
    (system.callsInFlight capability).length ≤ 1 := by
  have apart : (system.callsInFlight capability).Pairwise
      fun first second => Apart first.job second.job :=
    (pairwise_map.mp consistent.apart).filter _
  have marked : ∀ flight ∈ system.callsInFlight capability, flight.job.capability = capability ∧
        ∃ entry, system.world.entryOf capability = some entry ∧
          entry.pendingProviderGeneration = some flight.job.generation := by
    intro flight member
    simp only [callsInFlight, mem_filter, Bool.and_eq_true, beq_iff_eq] at member
    obtain ⟨member, inFlight, rfl⟩ := member
    obtain ⟨entry, found, known⟩ := consistent.known flight member
    exact ⟨rfl, entry, found, known.marked inFlight⟩
  match calls : system.callsInFlight capability with
  | [] => simp
  | [_] => simp
  | first :: second :: rest =>
    rw [calls] at apart marked
    obtain ⟨mine, _, found, firstMark⟩ := marked first (by simp)
    obtain ⟨yours, _, lookup, secondMark⟩ := marked second (by simp)
    rw [found] at lookup
    cases lookup
    rw [firstMark] at secondMark
    have distinct := (pairwise_cons.mp apart).1 second (by simp)
    exact absurd (Option.some.inj secondMark) (distinct (mine.trans yours.symm))

/--
At most one provider call of an account is in flight after any history in
which no admission saturates the generation, and a job whose entry has moved
on never changes what callers see of it.
-/
theorem single_flight (shared : Shared View)
    (catalog : Option (AccountMap String)) (catalogRevision : Option String)
    (durable : AccountMap (Stored View))
    (history : List (Surroundings × Event View)) :
    let system := (start catalog catalogRevision durable).play shared history
    (Unsaturated system.world.journal → ∀ capability,
        (system.callsInFlight capability).length ≤ 1) ∧
      ∀ index flight entry around step, system.flights[index]? = some flight →
        system.world.entryOf flight.job.capability = some entry →
        Superseded entry flight.job →
        KeepsOutcome entry flight.job.capability
          (system.after shared around (.flight index step)).world := by
  intro system
  constructor
  · intro unsaturated capability
    have reached := play_advances shared (start catalog catalogRevision durable) history
    exact (reached.consistent unsaturated
      (start_consistent catalog catalogRevision durable)).single capability
  · intro index flight entry around step held found superseded
    unfold System.after
    dsimp only
    rw [held]
    exact onFlight_keepsOutcome found superseded

/-! ## Sample histories -/

/-- Views are numbers, all of them data. -/
def sampleShared : Shared Nat where
  config := ⟨ofSecs 60, ofSecs 30, ⟨ofSecs 10, ofSecs 600⟩⟩
  accountKeyHash := fun scope key => scope ++ key
  presentView := fun _ view => view
  dataBearing := fun _ => true

/-- The clock stands still and nothing fails. -/
def still : Surroundings := ⟨[], [], []⟩

/-- The wall clock shows a time in seconds. -/
def atWall (seconds : Nat) : Surroundings :=
  ⟨List.replicate 4 ⟨0, some (ofSecs seconds)⟩, [], []⟩

def codexAccount : Capability := ⟨"account", "codex"⟩

def catalogAt (revision : String) : Option (AccountMap String) :=
  some (catalogOf [⟨codexAccount, revision⟩])

def reconcileAt (revision : String) : Surroundings × Event Nat :=
  (still, .reconcile none [⟨codexAccount, revision⟩] 100)

/-- The account is reset while its provider call is running. -/
def resetHistory : List (Surroundings × Event Nat) :=
  [(still, .request codexAccount 0 true 100),
    (still, .flight 0 (.send true)), (still, .flight 0 .mark),
    (still, .flight 0 .call), (still, .flight 0 (.answer (.success 7) 0)),
    reconcileAt "second"]

def resetSystem : System Nat :=
  (System.start (catalogAt "first") none ∅).play sampleShared resetHistory

/-- The call is in flight, and the entry has moved on to the second catalog. -/
theorem resetHistory_single_flight :
    (∃ flight entry, resetSystem.flights[0]? = some flight ∧
      resetSystem.world.entryOf flight.job.capability = some entry ∧
      Superseded entry flight.job ∧
      KeepsOutcome entry flight.job.capability
        (resetSystem.after sampleShared still (.flight 0 .finish)).world) ∧
      (resetSystem.callsInFlight codexAccount).length ≤ 1 := by
  have superseded : ((resetSystem.flights[0]?).any fun flight =>
      (resetSystem.world.entryOf flight.job.capability).any fun entry =>
        decide (entry.envelope.generation ≠ flight.job.generation)) =
      true := by
    decide +kernel
  simp only [Option.any_eq_true, decide_eq_true_eq] at superseded
  obtain ⟨flight, held, entry, found, newer⟩ := superseded
  have facts := single_flight sampleShared (catalogAt "first") none ∅ resetHistory
  constructor
  · exact ⟨flight, entry, held, found, .inl newer,
      facts.2 0 flight entry still .finish held found (.inl newer)⟩
  · exact facts.1 (by decide +kernel) codexAccount

/-- A generation that cannot be counted up any more. -/
def saturatedEnvelope : AccountStateEnvelope Nat :=
  { AccountStateEnvelope.idle codexAccount with generation := u64Max - 1 }

def saturatedFile : AccountMap (Stored Nat) :=
  (∅ : AccountMap (Stored Nat)).insert codexAccount (.present saturatedEnvelope)

/--
Two jobs have the last generation there is: the first one is turned down and
takes the marker of the second one away.
-/
def saturatingHistory : List (Surroundings × Event Nat) :=
  [(still, .request codexAccount (u64Max - 1) true 100), reconcileAt "second", reconcileAt "first",
    (still, .request codexAccount u64Max true 100),
    (still, .flight 1 (.send true)), (still, .flight 1 .mark),
    (still, .flight 0 (.send false)), (still, .flight 0 .failUnsent),
    (atWall 5000, .request codexAccount u64Max true 5000),
    (atWall 5000, .flight 1 (.send true)),
    (atWall 5000, .flight 1 .mark)]

theorem saturatingHistory_two_in_flight :
    (((System.start (catalogAt "first") none saturatedFile).play
      sampleShared saturatingHistory).callsInFlight codexAccount).length = 2 := by
  decide +kernel

end Jackin.Coordinator
