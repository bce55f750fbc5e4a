import Jackin.Credentials.Recoverable

/-!
# Rolling a swap back

A rollback first moves an installed directory out of the way, under a name
that is on record before the move.  Then it puts back the previous directory
and records that it is done.  It may be entered at any of these points, by the
publication whose step has failed or by a recovery after a crash.
-/

namespace Jackin.Credentials

open Foundation Script Instance

variable {name : EntryName}

/-! ## The sources of a rollback -/

section

variable {old : Option Files} {new : Files} {root : Instance}
    {transaction : CredentialSwapTransaction} {done : Unit → Instance → Prop}

/-- The transaction lists the name as a possible source. -/
def CredentialSwapTransaction.IsSource
    (transaction : CredentialSwapTransaction) (name : EntryName) : Prop :=
  transaction.previous = some name ∨ transaction.cleanup = some name

theorem CredentialSwapTransaction.Formed.source_plays
    (formed : transaction.Formed) (source : transaction.IsSource name) :
    name.Plays .previous ∨ name.Plays .cleanup :=
  source.imp (formed.previous name) (formed.cleanup name)

theorem Sources.transport (sources : Sources transaction root files)
    (same : ∀ name, transaction.IsSource name → later.files? name = root.files? name) :
    Sources transaction later files := by
  have previous : later.held? transaction.previous =
      root.held? transaction.previous := by
    cases named : transaction.previous with
    | none => rfl
    | some name => exact same name (.inl named)
  have cleanup : later.held? transaction.cleanup =
      root.held? transaction.cleanup := by
    cases named : transaction.cleanup with
    | none => rfl
    | some name => exact same name (.inr named)
  rwa [Sources, previous, cleanup]

theorem Complete.transport (complete : Complete old new root)
    (same : later.live? = root.live?) : Complete old new later := by
  rwa [Complete, same]

theorem Recoverable.of_recorded (found : root.transaction = some recorded)
    (formed : recorded.Formed) (holds : PhaseHolds old new recorded root) :
    Recoverable old new root := by
  rw [Recoverable, found]
  exact ⟨formed, holds⟩

/-- A directory that plays no source of a rollback and is not live. -/
theorem EntryName.Plays.elsewhere (plays : name.Plays .rollback)
    (source : other.Plays .previous ∨ other.Plays .cleanup) : other ≠ name := by
  rintro rfl
  obtain ⟨_, _, rfl⟩ := plays
  rcases source with ⟨_, _, same⟩ | ⟨_, _, same⟩ <;> cases same

theorem EntryName.Plays.ne_credentials (plays : name.Plays role) :
    name ≠ .credentials := by
  rintro rfl
  obtain ⟨_, _, same⟩ := plays
  cases same

/-- Moving the source back leaves no source behind. -/
theorem Sources.returned (formed : transaction.Formed)
    (sources : Sources transaction root held)
    (source : transaction.IsSource name)
    (found : root.files? name = some files) :
    held = some files ∧ Sources transaction (root.move name .credentials files) none := by
  unfold Sources at sources ⊢
  rcases source with previous | cleanup
  · obtain ⟨_, _, rfl⟩ := formed.previous _ previous
    rw [previous, held?_some, found] at sources
    rcases sources with ⟨rfl, empty⟩ | ⟨absurd, _⟩
    · refine ⟨rfl, .inl ⟨by simp [previous], ?_⟩⟩
      cases cleanup : transaction.cleanup with
      | none => rfl
      | some other =>
        obtain ⟨_, _, rfl⟩ := formed.cleanup _ cleanup
        simpa [cleanup] using empty
    · cases absurd
  · obtain ⟨_, _, rfl⟩ := formed.cleanup _ cleanup
    rw [cleanup, held?_some, found] at sources
    rcases sources with ⟨_, absurd⟩ | ⟨empty, rfl⟩
    · cases absurd
    · refine ⟨rfl, .inr ⟨?_, by simp [cleanup]⟩⟩
      cases previous : transaction.previous with
      | none => rfl
      | some other =>
        obtain ⟨_, _, rfl⟩ := formed.previous _ previous
        simpa [previous] using empty

/-- What a rollback finds when it looks for its source. -/
def Finds (transaction : CredentialSwapTransaction)
    (root : Instance) : Option EntryName → Prop
  | none => Sources transaction root none
  | some name => transaction.IsSource name ∧ (root.files? name).isSome

theorem Sources.unique (sources : Sources transaction root first)
    (nothing : Sources transaction root none) : first = none := by
  rcases sources with ⟨previous, cleanup⟩ | ⟨previous, cleanup⟩ <;>
    rcases nothing with ⟨noPrevious, noCleanup⟩ | ⟨noPrevious, noCleanup⟩ <;>
    simp_all

theorem Safe.rollbackSource {done} (safe : Recoverable old new root)
    (holds : ∀ source, Finds transaction root source → done source root) :
    Safe old new (rollbackSource transaction) root done := by
  refine .bind (Steady.credentialEntryExists safe ?_)
  refine .bind (Steady.credentialEntryExists safe ?_)
  refine .ensure (fun _ => ?_) fun _ => safe
  apply Outcomes.pure
  apply holds
  cases previous : root.held? transaction.previous with
  | some files =>
    obtain ⟨_, named, found⟩ := Option.bind_eq_some_iff.mp previous
    simp only [named]
    exact ⟨.inl named, by rw [found]; rfl⟩
  | none =>
    cases cleanup : root.held? transaction.cleanup with
    | some files =>
      obtain ⟨_, named, found⟩ := Option.bind_eq_some_iff.mp cleanup
      simp only [named]
      exact ⟨.inr named, by rw [found]; rfl⟩
    | none => exact .inl ⟨previous, cleanup⟩

/-! ## The states of a rollback -/

/-- No transaction is on record and the live directory is complete. -/
structure Ended (old : Option Files) (new : Files)
    (root : Instance) : Prop where
  transaction : root.transaction = none
  complete : Complete old new root

/-- A rollback that has put the directories right is on record. -/
theorem Recoverable.restored (found : root.transaction = some recorded)
    (formed : recorded.Formed)
    (phase : recorded.phase = .restored) (sources : Sources recorded root none)
    (complete : Complete old new root) : Recoverable old new root := by
  apply Recoverable.of_recorded found formed
  rw [PhaseHolds, phase]
  exact ⟨sources, complete⟩

section

variable (old : Option Files) (new : Files)
    (transaction : CredentialSwapTransaction)
    (root : Instance)

/-- The live directory is away and the previous one, if any, is a source. -/
structure Aside : Prop where
  live : root.live? = none
  sources : Sources transaction root old
  safe : Recoverable old new root
  returns : ∀ name files, transaction.IsSource name → root.files? name = some files →
      Sheltered (Recoverable old new) (root.move name .credentials files)

/-- The live directory is right and there is no source. -/
structure Settled : Prop where
  complete : Complete old new root
  sources : Sources transaction root none
  safe : Recoverable old new root

/-- The installed directory is live and has to make way. -/
structure Target : Prop where
  live : root.live? = some new
  free : root.held? transaction.rollback = none
  sources : Sources transaction root old
  safe : Recoverable old new root

/-- A rollback can go on from here without a quarantine. -/
def Restorable : Prop :=
  Aside old new transaction root ∨ Settled old new transaction root

end

theorem Restorable.safe (restorable : Restorable old new transaction root) :
    Recoverable old new root :=
  restorable.elim Aside.safe Settled.safe

/-- A rollback can start here. -/
def Rolling (old : Option Files) (new : Files)
    (transaction : CredentialSwapTransaction) (installed : Bool)
    (root : Instance) : Prop :=
  (installed ∧ Target old new transaction root) ∨
    ((installed && root.live?.isSome && !(root.held? transaction.rollback).isSome) = false ∧
      Restorable old new transaction root)

theorem Rolling.safe (rolling : Rolling old new transaction installed root) :
    Recoverable old new root :=
  rolling.elim (fun target => target.2.safe) (fun restorable => restorable.2.safe)

theorem Sources.without (sources : Sources transaction root none) :
    Sources (transaction.without name) root none := by
  have none_of_both : root.held? transaction.previous = none ∧
      root.held? transaction.cleanup = none := by
    rcases sources with both | both <;> exact both
  refine .inl ⟨?_, ?_⟩
  · simp only [CredentialSwapTransaction.without]
    split
    · rfl
    · exact none_of_both.1
  · simp only [CredentialSwapTransaction.without]
    split
    · rfl
    · exact none_of_both.2

theorem Agree.store (root : Instance) (stage : name.IsStage) (files : Files) :
    Agree root (root.store name files) where
  transaction := rfl
  files := fun other differs => by
    rw [files?_store, if_neg (by rintro rfl; exact differs stage)]

theorem Agree.drop (root : Instance)
    (stage : name.IsStage) : Agree root (root.drop name) where
  transaction := rfl
  files := fun other differs => by
    rw [files?_drop, if_neg (by rintro rfl; exact differs stage)]

/-- The staged directory can be removed at any time. -/
theorem Safe.removeStaged {name} (stage : ∀ entry ∈ name, entry.IsStage)
    (safe : Recoverable old new root)
    (holds : ∀ reached, Agree root reached → done () reached) :
    Safe old new (removeCredentialEntry name) root done := by
  cases name with
  | none => exact .pure (holds root (.refl root))
  | some entry =>
    have isStage := stage entry rfl
    apply Steady.removeEntry safe
    · exact fun _ left _ => safe.agree (.store root isStage left)
    · exact safe.agree (.drop root isStage)
    · exact holds _ (.drop root isStage)

theorem Agree.move (agree : Agree root later) {source} {files} :
    Agree (root.move source .credentials files) (later.move source .credentials files) where
  transaction := agree.transaction
  files := fun other differs => by
    rw [files?_move, files?_move, agree.files other differs]

/-! ## Rolling back -/

variable (formed : transaction.Formed)
include formed

theorem Safe.discardQuarantined
    (found : root.transaction = some transaction)
    (phase : transaction.phase = .restored)
    (sources : Sources transaction root none) (complete : Complete old new root)
    (holds : ∀ reached, Recoverable old new reached → Complete old new reached → done () reached) :
    Safe old new (discardQuarantined transaction) root done := by
  have safe := Recoverable.restored found formed phase sources complete
  unfold Credentials.discardQuarantined
  cases named : transaction.rollback with
  | none => exact .pure (holds root safe complete)
  | some name =>
    have plays := formed.rollback name named
    have apart : ∀ other, transaction.IsSource other → other ≠ name :=
      fun other source => plays.elsewhere (formed.source_plays source)
    have notLive := plays.ne_credentials.symm
    have gone : Complete old new (root.drop name) :=
      complete.transport (by simp [live?, notLive])
    have noSources : Sources transaction (root.drop name) none :=
      sources.transport fun other source => by simp [apart other source]
    have dropped : Recoverable old new (root.drop name) :=
      Recoverable.restored found formed phase noSources gone
    apply Outcomes.bind
    apply Steady.removeEntry safe ?_ dropped
    · have formed' :
          ({ transaction with rollback := none } : CredentialSwapTransaction).Formed :=
        { formed with rollback := nofun }
      have after : Recoverable old new
          ((root.drop name).record { transaction with rollback := none }) :=
        Recoverable.restored rfl formed' phase noSources gone
      exact Steady.persist formed' (.inl dropped) after (holds _ after gone)
    · intro files left present
      have kept : (root.store name left).transaction = some transaction := found
      apply Recoverable.restored kept formed phase
      · exact sources.transport fun other source => by simp [apart other source]
      · exact complete.transport (by simp [live?, notLive])

theorem Safe.concludeRollback (sheltered : Sheltered (Recoverable old new) root)
    (sources : Sources transaction root none)
    (complete : Complete old new root) :
    Safe old new (concludeRollback transaction) root (fun _ => Ended old new) := by
  have formed' : ({ transaction with phase := .restored } :
      CredentialSwapTransaction).Formed := { formed with }
  have complete' : Complete old new
      (root.record { transaction with phase := .restored }) := complete
  apply Outcomes.bind
  apply Steady.persist formed' sheltered
  · exact Recoverable.restored rfl formed' rfl sources complete'
  · apply Outcomes.bind
    apply Safe.discardQuarantined formed' rfl rfl ?_ complete'
    · intro reached safe complete
      exact Steady.clear safe complete ⟨rfl, complete⟩
    · exact sources

theorem CredentialSwapTransaction.Formed.without :
    (transaction.without name).Formed where
  version := formed.version
  staged := formed.staged
  previous := by
    intro entry listed
    simp only [CredentialSwapTransaction.without] at listed
    split at listed
    · cases listed
    · exact formed.previous entry listed
  cleanup := by
    intro entry listed
    simp only [CredentialSwapTransaction.without] at listed
    split at listed
    · cases listed
    · exact formed.cleanup entry listed
  rollback := formed.rollback

theorem Safe.restore_aside (aside : Aside old new transaction root)
    (finds : Finds transaction root source) :
    Safe old new (restoreSource transaction installed source) root (fun _ => Ended old new) := by
  refine .bind (Steady.exists? aside.safe ?_)
  have absent : root.files? .credentials = none := aside.live
  rw [absent, Option.isSome_none]
  cases source with
  | none =>
    have oldNone := aside.sources.unique finds
    refine .ensure (fun _ => ?_) fun _ => aside.safe
    exact Safe.concludeRollback formed (.inl aside.safe) finds
      (.inl (aside.live.trans oldNone.symm))
  | some name =>
    obtain ⟨listed, present⟩ := finds
    obtain ⟨files, found⟩ := Option.isSome_iff_exists.mp present
    obtain ⟨held, emptied⟩ := aside.sources.returned formed listed found
    have sheltered := aside.returns name files listed found
    refine .bind (Steady.validateEntry aside.safe ?_)
    refine .bind (Steady.rename aside.safe found sheltered ?_)
    refine .bind (Steady.settle sheltered ?_)
    apply Safe.concludeRollback formed.without sheltered emptied.without
    left
    simp [live?, held]

theorem Safe.restore_settled (settled : Settled old new transaction root)
    (finds : Finds transaction root source) :
    Safe old new (restoreSource transaction installed source) root (fun _ => Ended old new) := by
  have conclude := Safe.concludeRollback formed (.inl settled.safe) settled.sources settled.complete
  refine .bind (Steady.exists? settled.safe ?_)
  split
  · exact .ensure (fun _ => conclude) fun _ => settled.safe
  · cases source with
    | none => exact .ensure (fun _ => conclude) fun _ => settled.safe
    | some name =>
      obtain ⟨listed, present⟩ := finds
      obtain ⟨_, found⟩ := Option.isSome_iff_exists.mp present
      cases (settled.sources.returned formed listed found).1

/-- A root on which a quarantined directory and a source are on record. -/
theorem Aside.quarantined (found : root.transaction = some transaction)
    (phase : transaction.phase = .rollbackTargetQuarantined)
    (live : root.live? = none)
    (held : (root.held? transaction.rollback).isSome)
    (sources : Sources transaction root old) :
    Aside old new transaction root where
  live := live
  sources := sources
  safe := by
    apply Recoverable.of_recorded found formed
    rw [PhaseHolds, phase]
    refine ⟨?_, .inr (.inl ⟨live, held, sources⟩)⟩
    cases named : transaction.rollback with
    | none => simp [named] at held
    | some name => rfl
  returns := by
    intro name files source present
    obtain ⟨same, emptied⟩ := sources.returned formed source present
    have kept : (root.move name .credentials files).transaction = some transaction := found
    left
    apply Recoverable.of_recorded kept formed
    rw [PhaseHolds, phase]
    cases named : transaction.rollback with
    | none => simp [named] at held
    | some target =>
      have plays := formed.rollback target named
      have apart := plays.elsewhere (formed.source_plays source)
      rw [named] at held
      refine ⟨rfl, .inr (.inr ⟨?_, ?_, emptied⟩)⟩
      · simp [live?, same]
      · simpa [plays.ne_credentials, apart.symm] using held

theorem Target.agree (target : Target old new transaction root)
    (agree : Agree root later) :
    Target old new transaction later where
  live := agree.live?.trans target.live
  free := (agree.held? formed.rollback).trans target.free
  sources := (agree.sources formed).mpr target.sources
  safe := target.safe.agree agree

theorem Safe.rollbackName {done}
    (target : Target old new transaction root)
    (holds : ∀ name reached, name.Plays .rollback →
      reached.files? name = none → Target old new transaction reached → done name reached) :
    Safe old new (rollbackName transaction) root done := by
  unfold Credentials.rollbackName
  cases named : transaction.rollback with
  | some name =>
    have free := target.free
    rw [named] at free
    exact .pure (holds name root (formed.rollback name named) free target)
  | none =>
    refine .uniqueCredentialSibling target.safe.counted fun name sequence plays absent => ?_
    exact holds name _ plays absent (target.agree formed (.counted root sequence))

variable {done : CredentialSwapTransaction → Instance → Prop}

theorem Safe.quarantineLive (target : Target old new transaction root)
    (holds : ∀ quarantined reached, quarantined.Formed →
      Aside old new quarantined reached → done quarantined reached) :
    Safe old new (quarantineLive transaction) root done := by
  refine .bind (Safe.rollbackName formed target ?_)
  intro name reached plays free target
  refine .bind (Steady.validateEntry target.safe ?_)
  have formed' : ({ transaction with
      rollback := some name, phase := .rollbackTargetQuarantined } :
      CredentialSwapTransaction).Formed :=
    { formed with rollback := by rintro _ ⟨⟩; exact plays }
  generalize begun : ({ transaction with
    rollback := some name, phase := .rollbackTargetQuarantined } :
    CredentialSwapTransaction) = quarantined at formed' ⊢
  have phase : quarantined.phase = .rollbackTargetQuarantined := by rw [← begun]
  have rollback : quarantined.rollback = some name := by rw [← begun]
  have sources : Sources quarantined reached old := by
    rw [← begun]
    exact target.sources
  have recorded : Recoverable old new (reached.record quarantined) := by
    apply Recoverable.of_recorded rfl formed'
    rw [PhaseHolds, phase, rollback]
    exact ⟨rfl, .inl ⟨target.live, free, sources⟩⟩
  have aside : Aside old new quarantined
      ((reached.record quarantined).move .credentials name new) := by
    apply Aside.quarantined formed' rfl phase
    · simp [live?, plays.ne_credentials.symm]
    · simp [rollback]
    · apply sources.transport
      intro other source
      have known := formed'.source_plays source
      simp [plays.elsewhere known, known.elim (·.ne_credentials) (·.ne_credentials)]
  refine .bind (Steady.persist formed' (.inl target.safe) recorded ?_)
  refine .bind (Steady.rename recorded target.live (.inl aside.safe) ?_)
  refine .bind (Steady.settle (.inl aside.safe) ?_)
  refine .bind (Steady.persist formed' (.inl aside.safe) aside.safe ?_)
  exact .pure (holds quarantined _ formed' aside)

/-- What happened to the staging directories does not matter. -/
theorem Restorable.unstaged (restorable : Restorable old new transaction root)
    (agree : Agree root later) :
    Restorable old new { transaction with staged := none } later := by
  rcases restorable with aside | settled
  · left
    refine ⟨agree.live?.trans aside.live,
      (agree.sources formed).mpr aside.sources, aside.safe.agree agree, ?_⟩
    intro name files source found
    have notStage : ¬name.IsStage :=
      (formed.source_plays source).elim (·.not_isStage) (·.not_isStage)
    rw [agree.files name notStage] at found
    exact (aside.returns name files source found).agree agree.move
  · exact .inr ⟨agree.complete.mpr settled.complete,
      (agree.sources formed).mpr settled.sources, settled.safe.agree agree⟩

theorem Safe.restoreSource (restorable : Restorable old new transaction root)
    (finds : Finds transaction root source) :
    Safe old new (restoreSource transaction installed source) root (fun _ => Ended old new) := by
  rcases restorable with aside | settled
  · exact .restore_aside formed aside finds
  · exact .restore_settled formed settled finds

theorem Safe.quarantineIf (rolling : Rolling old new transaction installed root)
    (holds : ∀ quarantined reached, quarantined.Formed →
      Restorable old new quarantined reached → done quarantined reached) :
    Safe old new (quarantineIf (installed && root.live?.isSome &&
        !(root.held? transaction.rollback).isSome) transaction) root done := by
  rcases rolling with ⟨rfl, target⟩ | ⟨needless, restorable⟩
  · rw [target.live, target.free]
    apply Safe.quarantineLive formed target
    exact fun quarantined reached formed aside => holds quarantined reached formed (.inl aside)
  · rw [needless]
    exact .pure (holds transaction root formed restorable)

/-- A rollback that is not disturbed ends with a complete directory. -/
theorem Safe.finishCredentialRollback (rolling : Rolling old new transaction installed root) :
    Safe old new (finishCredentialRollback transaction installed) root
      (fun _ => Ended old new) := by
  have safe := rolling.safe
  rw [Credentials.finishCredentialRollback, validateCredentialTransaction_eq formed]
  refine .bind (Outcomes.pure ?_)
  refine .bind (Steady.credentialEntryExists safe ?_)
  refine .bind (Steady.credentialEntryExists safe ?_)
  refine .ensure (fun _ => ?_) fun _ => safe
  refine .bind (Steady.exists? safe ?_)
  refine .bind (Steady.credentialEntryExists safe ?_)
  refine .bind (Safe.quarantineIf formed rolling ?_)
  intro quarantined reached formed restorable
  refine .bind (Safe.removeStaged formed.staged restorable.safe ?_)
  intro later agree
  have unstaged := restorable.unstaged formed agree
  have formed' : ({ quarantined with staged := none } :
      CredentialSwapTransaction).Formed :=
    { formed with staged := nofun }
  refine .bind (Safe.rollbackSource unstaged.safe ?_)
  intro source finds
  exact Safe.restoreSource formed' unstaged finds

end

end Jackin.Credentials
