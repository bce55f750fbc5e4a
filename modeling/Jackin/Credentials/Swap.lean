import Jackin.Credentials.Recovery

/-!
# Recovered credentials are complete

A publication and the recoveries after it are runs one after another, each of
which may fail or be cut off anywhere.  A recovery that succeeds leaves the
previous directory or the complete new one, as long as no incident has torn
the previous directory while it was being removed, or has stopped a rollback
between putting it back and recording so.
-/

namespace Jackin.Credentials

open Foundation Script Safe

variable {done : CredentialSwapTransaction → Instance → Prop}
    {cleanup : EntryName}

section

variable {old : Option Files} {new : Files} {root : Instance}
    {transaction : CredentialSwapTransaction} {stage : EntryName}

/-! ## Publishing -/

theorem Ended.safe (ended : Ended old new root) : Recoverable old new root := by
  rw [Recoverable, ended.transaction]
  exact ended.complete

/-- A failed step is rolled back. -/
theorem safe_orRollBack {Value : Type} {script : Action Value}
    {done} (formed : transaction.Formed)
    (ends : Outcomes Harmless script root done
      (fun _ => Rolling old new transaction installed) (Recoverable old new)) :
    Safe old new (orRollBack transaction installed script) root done := by
  refine .bind (Outcomes.attempt ?_)
  apply ends.imply
  · exact fun _ _ => .pure
  · intro cause reached rolling
    refine .bind (Outcomes.attempt ?_)
    apply (Safe.finishCredentialRollback formed rolling).imply
    · exact fun _ _ ended => .fail ended.safe
    · exact fun _ _ safe => .fail safe
    · exact fun _ => id
  · exact fun _ => id

/-- A step that fails only where a rollback can start. -/
theorem Safe.orRollBack {Value : Type} {script : Action Value}
    {done} (formed : transaction.Formed)
    (steady : Steady (Rolling old new transaction installed) script root done) :
    Safe old new (orRollBack transaction installed script) root done := by
  apply safe_orRollBack formed
  apply Outcomes.imply steady (fun _ _ => id) (fun _ _ => id) (fun _ rolling => rolling.safe)

/-- The staged directory is complete and its transaction on record. -/
structure Staged (old : Option Files) (new : Files) (stage : EntryName)
    (transaction : CredentialSwapTransaction) (root : Instance) : Prop where
  found : root.transaction = some transaction
  formed : transaction.Formed
  phase : transaction.phase = .prepared
  cleanup : transaction.cleanup = none
  rollback : transaction.rollback = none
  had : transaction.previous.isSome = old.isSome
  complete : root.files? stage = some new
  live : root.live? = old
  free : root.held? transaction.previous = none

theorem Staged.safe (staged : Staged old new stage transaction root) :
    Recoverable old new root := by
  apply Recoverable.of_recorded staged.found staged.formed
  rw [PhaseHolds, staged.phase, staged.rollback]
  refine ⟨rfl, .inl ⟨.inl ⟨staged.free, ?_⟩, .inl staged.live⟩⟩
  rw [staged.cleanup]
  rfl

/-- The way is free for the staged directory. -/
structure Cleared (old : Option Files) (new : Files) (stage : EntryName)
    (transaction : CredentialSwapTransaction) (root : Instance) : Prop where
  found : root.transaction = some transaction
  formed : transaction.Formed
  phase : transaction.phase = .prepared ∧ old = none ∨ transaction.phase = .previousMoved
  cleanup : transaction.cleanup = none
  rollback : transaction.rollback = none
  had : transaction.previous.isSome = old.isSome
  complete : root.files? stage = some new
  live : root.live? = none
  previous : root.held? transaction.previous = old

theorem Cleared.aside (cleared : Cleared old new stage transaction root) :
    Aside old new transaction root := by
  have noCleanup : root.held? transaction.cleanup = none := by
    rw [cleared.cleanup]
    rfl
  exact .moved cleared.found cleared.formed cleared.rollback (cleared.phase.imp_left And.left)
    cleared.live cleared.previous noCleanup rfl noCleanup

theorem Safe.moveAside (isStage : stage.IsStage)
    (staged : Staged (some files) new stage transaction root)
    (named : transaction.previous = some previous)
    (holds : ∀ moved reached, Cleared (some files) new stage moved reached → done moved reached) :
    Safe (some files) new (moveAside transaction previous) root done := by
  obtain ⟨suffix, rfl⟩ := isStage
  obtain ⟨pid, sequence, rfl⟩ := staged.formed.previous _ named
  have noCleanup : ∀ other : Instance, other.held? transaction.cleanup = none := by
    intro other
    rw [staged.cleanup]
    rfl
  generalize movedRoot : root.move .credentials (.sibling .previous pid sequence) files = reached
  have live : reached.live? = none := by simp [← movedRoot, Instance.live?]
  have held : reached.held? transaction.previous = some files := by simp [← movedRoot, named]
  have found : reached.transaction = some transaction := by
    rw [← movedRoot]
    exact staged.found
  have formed' : ({ transaction with phase := .previousMoved } :
      CredentialSwapTransaction).Formed := { staged.formed with }
  have prepared : Aside (some files) new
      { transaction with phase := .previousMoved } reached :=
    Aside.moved found staged.formed staged.rollback (.inl staged.phase)
      live held (noCleanup reached) rfl (noCleanup reached)
  have cleared : Cleared (some files) new (.stage suffix)
      { transaction with phase := .previousMoved }
      (reached.record { transaction with phase := .previousMoved }) := {
    found := rfl
    formed := formed'
    phase := .inr rfl
    cleanup := staged.cleanup
    rollback := staged.rollback
    had := staged.had
    complete := by simpa [← movedRoot] using staged.complete
    live
    previous := held }
  refine .bind (Steady.validateEntry staged.safe ?_)
  apply Outcomes.bind
  apply Steady.rename staged.safe staged.live
  · rw [movedRoot]
    exact .inl prepared.safe
  · rw [movedRoot]
    refine .bind (orRollBack formed' ?_)
    apply Steady.persist formed'
    · exact .inl (.inr ⟨rfl, .inl prepared⟩)
    · exact .inr ⟨rfl, .inl cleared.aside⟩
    · exact .pure (holds _ _ cleared)

theorem Safe.movePrevious (isStage : stage.IsStage)
    (staged : Staged old new stage transaction root)
    (holds : ∀ moved reached, Cleared old new stage moved reached → done moved reached) :
    Safe old new (movePrevious transaction) root done := by
  have had := staged.had
  unfold Credentials.movePrevious
  cases named : transaction.previous with
  | none =>
    have nothing : old = none := by
      rw [named] at had
      simpa using had.symm
    apply Outcomes.pure
    apply holds
    exact {
      found := staged.found
      formed := staged.formed
      phase := .inl ⟨staged.phase, nothing⟩
      cleanup := staged.cleanup
      rollback := staged.rollback
      had := staged.had
      complete := staged.complete
      live := staged.live.trans nothing
      previous := staged.free.trans nothing.symm }
  | some previous =>
    obtain ⟨files, rfl⟩ : ∃ files, old = some files := by
      rw [named] at had
      exact Option.isSome_iff_exists.mp had.symm
    exact .moveAside isStage staged named holds

/-- The staged directory is live, and the previous one still there. -/
structure Installed (old : Option Files) (new : Files)
    (transaction : CredentialSwapTransaction) (root : Instance) : Prop where
  found : root.transaction = some transaction
  formed : transaction.Formed
  phase : transaction.phase = .installed ∨ transaction.phase = .cleanupPending
  rollback : transaction.rollback = none
  live : root.live? = some new
  sources : Sources transaction root old

theorem Target.rolling (target : Target old new transaction root) :
    Rolling old new transaction true root :=
  .inl ⟨rfl, target⟩

section

variable (installed : Installed old new transaction root)
include installed

theorem Installed.safe : Recoverable old new root := by
  apply Recoverable.of_recorded installed.found installed.formed
  unfold PhaseHolds
  rcases installed.phase with phase | phase <;> rw [phase]
  all_goals exact ⟨installed.rollback, installed.live, .inl installed.sources⟩

theorem Installed.target : Target old new transaction root where
  live := installed.live
  free := by
    rw [installed.rollback]
    rfl
  sources := installed.sources
  safe := installed.safe

theorem Installed.rolling :
    Rolling old new transaction true root := installed.target.rolling

theorem Installed.previous (noCleanup : transaction.cleanup = none) :
    root.held? transaction.previous = old := by
  rcases installed.sources with ⟨previous, _⟩ | ⟨previous, cleanup⟩
  · exact previous
  · rw [noCleanup] at cleanup
    exact previous.trans cleanup

/-- The cleanup directory is named before the previous one is moved there. -/
theorem Installed.pending {pending}
    (noCleanup : transaction.cleanup = none) (plays : cleanup.Plays .cleanup)
    (free : root.files? cleanup = none)
    (named : pending =
      { transaction with cleanup := some cleanup, phase := .cleanupPending }) :
    Target old new pending root ∧ Installed old new pending (root.record pending) := by
  subst named
  have formed' : CredentialSwapTransaction.Formed { transaction with
      cleanup := some cleanup, phase := .cleanupPending } :=
    { installed.formed with cleanup := by rintro _ ⟨⟩; exact plays }
  have sources : Sources { transaction with
      cleanup := some cleanup, phase := .cleanupPending } root old :=
    .inl ⟨installed.previous noCleanup, free⟩
  exact ⟨{ installed.target with sources },
    ⟨rfl, formed', .inr rfl, installed.rollback, installed.live, sources⟩⟩

/-- The previous directory is no longer on record under its old name. -/
theorem Installed.forget
    (pending : transaction.phase = .cleanupPending)
    (there : root.held? transaction.cleanup = old)
    (named : moved = { transaction with previous := none }) :
    Target old new moved root ∧ Installed old new moved (root.record moved) := by
  subst named
  have formed' : ({ transaction with previous := none } :
      CredentialSwapTransaction).Formed :=
    { installed.formed with previous := fun _ listed => by cases listed }
  have sources : Sources { transaction with previous := none } root old :=
    .inr ⟨rfl, there⟩
  exact ⟨{ installed.target with sources },
    ⟨rfl, formed', .inr pending, installed.rollback, installed.live, sources⟩⟩

/-- A harmless removal that stops early has removed nothing. -/
theorem Installed.untorn (named : transaction.cleanup = some cleanup)
    (found : root.files? cleanup = some files)
    (harmless : Harmless ⟨fate, root, root.store cleanup left⟩) :
    Installed old new transaction (root.store cleanup left) := by
  have same : left = files := by
    have whole := harmless.1
    simpa [tears, installed.found, named, found] using whole
  subst same
  have unchanged : ∀ name : EntryName,
      (root.store cleanup left).files? name = root.files? name := by
    intro name
    rw [Instance.files?_store]
    split
    · rename_i here
      rw [here, found]
    · rfl
  exact { installed with
    live := (unchanged _).trans installed.live
    sources := installed.sources.transport fun name _ => unchanged name }

/-- The removal of the previous directory ends the rollback's chances. -/
theorem Installed.removed (pending : transaction.phase = .cleanupPending)
    (noPrevious : transaction.previous = none)
    (named : transaction.cleanup = some cleanup) :
    Recoverable old new (root.drop cleanup) ∧
      (root.drop cleanup).live? = some new := by
  have elsewhere := (installed.formed.cleanup _ named).ne_credentials.symm
  have live : (root.drop cleanup).live? = some new := by
    simpa [Instance.live?, elsewhere] using installed.live
  refine ⟨?_, live⟩
  have found : (root.drop cleanup).transaction = some transaction := installed.found
  apply Recoverable.of_recorded found installed.formed
  rw [PhaseHolds, pending]
  refine ⟨installed.rollback, live, .inr (.inl ⟨?_, ?_⟩)⟩
  · rw [noPrevious]
    rfl
  · simp [named]

end

/-- The staged directory has become the live one. -/
theorem Cleared.installed_target (isStage : stage.IsStage)
    (cleared : Cleared old new stage transaction root) :
    Target old new { transaction with staged := none, phase := .installed }
      (root.move stage .credentials new) := by
  obtain ⟨suffix, rfl⟩ := isStage
  have found : (root.move (.stage suffix) .credentials new).transaction =
      some transaction := cleared.found
  have live : (root.move (.stage suffix) .credentials new).live? = some new := by
    simp [Instance.live?]
  have previous : (root.move (.stage suffix) .credentials new).held?
      transaction.previous = old := by
    rw [← cleared.previous]
    cases named : transaction.previous with
    | none => rfl
    | some name =>
      obtain ⟨_, _, rfl⟩ := cleared.formed.previous _ named
      simp
  have cleanup : (root.move (.stage suffix) .credentials new).held? transaction.cleanup = none := by
    rw [cleared.cleanup]
    rfl
  refine ⟨live, ?_, .inl ⟨previous, cleanup⟩, ?_⟩
  · show Instance.held? _ transaction.rollback = none
    rw [cleared.rollback]
    rfl
  · apply Recoverable.of_recorded found cleared.formed
    unfold PhaseHolds
    rcases cleared.phase with ⟨phase, nothing⟩ | phase
    · rw [phase]
      exact ⟨cleared.rollback, .inl ⟨.inl ⟨previous.trans nothing, cleanup⟩, .inr live⟩⟩
    · rw [phase]
      exact ⟨cleared.rollback, previous, cleanup, .inr live⟩

theorem Safe.installStaged (isStage : stage.IsStage)
    (cleared : Cleared old new stage transaction root)
    (holds : ∀ installed reached, Installed old new installed reached →
      installed.cleanup = none → installed.previous.isSome = old.isSome → done installed reached) :
    Safe old new (installStaged stage transaction) root done := by
  have aside : Rolling old new transaction false root :=
    .inr ⟨rfl, .inl cleared.aside⟩
  have target := cleared.installed_target isStage
  have formed' :
      ({ transaction with staged := none, phase := .installed } :
        CredentialSwapTransaction).Formed :=
    { cleared.formed with staged := fun _ listed => by cases listed }
  have installed : Installed old new
      { transaction with staged := none, phase := .installed }
      ((root.move stage .credentials new).record
        { transaction with staged := none, phase := .installed }) := {
    found := rfl
    formed := formed'
    phase := .inl rfl
    rollback := cleared.rollback
    live := target.live
    sources := target.sources }
  refine .bind (safe_orRollBack cleared.formed ?_)
  have completed := rename_complete .credentials cleared.complete
  apply Outcomes.perform
  case fails => exact fun _ _ => aside
  case refuses =>
    intro failure reached refused
    rcases completed with same | same <;> rw [same] at refused <;> cases refused
    exact aside
  case dies =>
    intro extent _
    cases extent with
    | zero =>
      rcases completed with same | same <;> simp only [deathIn, same]
      · exact aside.safe
      · exact target.safe
    | succ extent => exact aside.safe
  case works =>
    intro value reached moved
    rcases completed with same | same <;> rw [same] at moved <;> cases moved
    refine .bind (orRollBack formed' ?_)
    apply Steady.persist formed' (.inl target.rolling) installed.rolling
    refine .bind (orRollBack formed' ?_)
    apply Steady.settle (.inl installed.rolling)
    exact .pure (holds _ _ installed cleared.cleanup cleared.had)

/-- The previous directory is moved to the cleanup directory. -/
theorem Installed.move_cleanup {previous}
    (installed : Installed (some files) new transaction root)
    (named : transaction.previous = some previous)
    (target : transaction.cleanup = some cleanup) :
    Installed (some files) new transaction (root.move previous cleanup files) := by
  obtain ⟨_, _, rfl⟩ := installed.formed.previous _ named
  obtain ⟨_, _, rfl⟩ := installed.formed.cleanup _ target
  refine { installed with live := ?_, sources := .inr ⟨?_, ?_⟩ }
  · simpa [Instance.live?] using installed.live
  · simp [named]
  · simp [target]

theorem Safe.discardMoved (installed : Installed (some files) new transaction root)
    (noCleanup : transaction.cleanup = none)
    (named : transaction.previous = some previous)
    (holds : ∀ discarded reached, discarded.Formed →
      Recoverable (some files) new reached → reached.live? = some new → done discarded reached) :
    Safe (some files) new (discardMoved transaction previous) root done := by
  refine .bind (orRollBack installed.formed ?_)
  apply Steady.uniqueCredentialSibling
    (fun sequence => (installed.target.agree installed.formed (.counted root sequence)).rolling)
  intro cleanup sequence plays free
  have counted : Installed (some files) new transaction
      (root.counted sequence) := { installed with }
  generalize pendingName : ({ transaction with
    cleanup := some cleanup, phase := .cleanupPending } : CredentialSwapTransaction) = pending
  obtain ⟨target, recorded⟩ := counted.pending noCleanup plays free pendingName.symm
  refine .bind (orRollBack recorded.formed ?_)
  apply Steady.persist recorded.formed (.inl target.rolling) recorded.rolling
  iterate 2
    refine .bind (orRollBack recorded.formed ?_)
    apply Steady.validateEntry recorded.rolling
  have pendingPrevious : pending.previous = some previous := by
    rwa [← pendingName]
  have pendingCleanup : pending.cleanup = some cleanup := by rw [← pendingName]
  have pendingPhase : pending.phase = .cleanupPending := by rw [← pendingName]
  have source : root.files? previous = some files := by
    have held := installed.previous noCleanup
    rwa [named] at held
  have moved := recorded.move_cleanup pendingPrevious pendingCleanup
  refine .bind (orRollBack recorded.formed ?_)
  apply Steady.rename recorded.rolling source (.inl moved.rolling)
  generalize forgottenName : ({ pending with previous := none } :
    CredentialSwapTransaction) = forgotten
  have there : (((root.counted sequence).record pending).move previous
      cleanup files).held? pending.cleanup = some files := by
    simp [pendingCleanup]
  obtain ⟨target, recorded⟩ := moved.forget pendingPhase there forgottenName.symm
  refine .bind (orRollBack recorded.formed ?_)
  apply Steady.persist recorded.formed (.inl target.rolling) recorded.rolling
  have forgottenCleanup : forgotten.cleanup = some cleanup := by
    rwa [← forgottenName]
  have forgottenPhase : forgotten.phase = .cleanupPending := by
    rwa [← forgottenName]
  have forgottenPrevious : forgotten.previous = none := by rw [← forgottenName]
  obtain ⟨safe, live⟩ := recorded.removed forgottenPhase forgottenPrevious forgottenCleanup
  refine .bind (safe_orRollBack recorded.formed ?_)
  apply outcomes_removeEntry recorded.rolling recorded.safe
  · intro fate removed left found harmless
    have untorn := recorded.untorn forgottenCleanup found harmless
    exact ⟨untorn.rolling, untorn.safe⟩
  · exact safe
  · apply Outcomes.pure
    apply holds _ _ _ safe live
    exact { recorded.formed with cleanup := fun _ listed => by cases listed }

theorem Safe.discardPrevious (installed : Installed old new transaction root)
    (noCleanup : transaction.cleanup = none)
    (had : transaction.previous.isSome = old.isSome)
    (holds : ∀ discarded reached, discarded.Formed →
      Recoverable old new reached → reached.live? = some new → done discarded reached) :
    Safe old new (discardPrevious transaction) root done := by
  unfold Credentials.discardPrevious
  cases named : transaction.previous with
  | none =>
    exact Outcomes.pure (holds _ _ installed.formed installed.safe installed.live)
  | some previous =>
    obtain ⟨files, rfl⟩ : ∃ files, old = some files := by
      rw [named] at had
      exact Option.isSome_iff_exists.mp had.symm
    exact .discardMoved installed noCleanup named holds

/-! ## The whole publication -/

theorem Safe.persistCommitted {done} (formed : transaction.Formed)
    (safe : Recoverable old new root)
    (after : Recoverable old new (root.record transaction))
    (holds : done () (root.record transaction)) :
    Safe old new (persistCommitted transaction) root done := by
  have persisted : Safe old new (persistCredentialTransaction transaction)
      root done := .persist formed (.inl safe) after holds
  refine .bind (Outcomes.attempt ?_)
  apply persisted.imply
  · exact fun _ _ => .pure
  · exact fun _ _ safe => .fail safe
  · exact fun _ => id

theorem Staged.of_prepared (isStage : stage.IsStage)
    (plays : ∀ name ∈ previous, name.Plays .previous)
    (had : previous.isSome = old.isSome)
    (complete : root.files? stage = some new) (live : root.live? = old)
    (free : root.held? previous = none) :
    Staged old new stage (preparedTransaction stage previous)
      (root.record (preparedTransaction stage previous)) where
  found := rfl
  formed := {
    version := rfl
    staged := by rintro _ ⟨⟩; exact isStage
    previous := plays
    cleanup := nofun
    rollback := fun _ listed => by cases listed }
  phase := rfl
  cleanup := rfl
  rollback := rfl
  had := had
  complete := complete
  live := live
  free := free

theorem Safe.swapStaged (isStage : stage.IsStage)
    (plays : ∀ name ∈ previous, name.Plays .previous)
    (had : previous.isSome = old.isSome)
    (safe : Recoverable old new root) (complete : root.files? stage = some new)
    (live : root.live? = old) (free : root.held? previous = none) :
    Safe old new (swapStaged stage previous) root (fun _ => Recoverable old new) := by
  have staged := Staged.of_prepared isStage plays had complete live free
  refine .bind (Steady.persist staged.formed (.inl safe) staged.safe ?_)
  refine .bind (movePrevious isStage staged ?_)
  intro moved _ cleared
  refine .bind (installStaged isStage cleared ?_)
  intro installed _ holds noCleanup had
  refine .bind (discardPrevious holds noCleanup had ?_)
  intro discarded reached formed safe live
  have committed : CommittedTo new { discarded with phase := .committed }
      (reached.record { discarded with phase := .committed }) :=
    ⟨rfl, { formed with }, rfl, live⟩
  have cleared : Recoverable old new
      (reached.record { discarded with phase := .committed }).cleared :=
    .inr live
  refine .bind (persistCommitted committed.formed safe committed.safe ?_)
  exact Steady.clear committed.safe cleared cleared

/-- The directory with the given files, later ones in place of earlier. -/
def filesOf (payloads : List Payload) (files : Files) : Files :=
  payloads.foldl (fun files payload => addFile files payload.file) files

/-- The complete new set. -/
def publishedFiles (payloads : List Payload) : Files := filesOf payloads []

section

variable {done : Unit → Instance → Prop} (safe : Recoverable old new root)
include safe

theorem Safe.previousName {done}
    (holds : ∀ previous sequence, (∀ name ∈ previous, name.Plays .previous) →
        previous.isSome = hadPrevious → root.held? previous = none →
          done previous (root.counted sequence)) :
    Safe old new (previousName hadPrevious) root done := by
  cases hadPrevious with
  | false => exact .pure (holds none root.sequence nofun rfl rfl)
  | true =>
    refine .bind (Steady.uniqueCredentialSibling safe.counted ?_)
    intro name sequence plays absent
    apply Outcomes.pure
    apply holds (some name) sequence _ rfl absent
    rintro _ ⟨⟩
    exact plays

theorem Safe.ensureFiles (holds : done () root) :
    Safe old new (ensureFiles files) root done := by
  induction files with
  | nil => exact .pure holds
  | cons file rest ih =>
    refine .bind (Steady.settle (.inl safe) ?_)
    exact .ensure (fun _ => ih) fun _ => safe

theorem Safe.validateExisting {done}
    (holds : done root.live?.isSome root) :
    Safe old new validateExistingCredentialsDirectory root done := by
  refine .bind (Steady.exists? safe ?_)
  cases found : root.files? .credentials with
  | none =>
    have live : root.live? = none := found
    rw [live] at holds
    exact .pure holds
  | some files =>
    have live : root.live? = some files := found
    rw [live] at holds
    have completed : (readDirectory .credentials).complete root =
        (.ok files, root) := by
      simp only [readDirectory, found]
    apply Outcomes.bind
    apply Steady.perform (fun _ => rfl) (.inl safe)
    all_goals rw [completed]
    · exact .inl safe
    · rintro _ _ ⟨⟩
      exact Outcomes.bind (ensureFiles safe (.pure holds))
    · rintro _ _ ⟨⟩

variable (isStage : stage.IsStage)
include isStage

theorem Safe.createStage
    (holds : ∀ reached, Agree root reached → reached.files? stage = some [] → done () reached) :
    Safe old new (perform (createDirectory stage)) root done := by
  have created := Agree.store root isStage []
  apply Steady.perform (fun _ => rfl) (.inl safe)
  · simp only [createDirectory]
    split
    · exact .inl safe
    · exact .inl (safe.agree created)
  · intro _ reached completed
    simp only [createDirectory] at completed
    split at completed <;> cases completed
    exact holds _ created (by simp)
  · intro _ reached completed
    simp only [createDirectory] at completed
    split at completed <;> cases completed
    exact safe

theorem Safe.stagePayloads (found : root.files? stage = some files)
    (holds : ∀ reached, Agree root reached →
      reached.files? stage = some (filesOf payloads files) → done () reached) :
    Safe old new (stagePayloads stage payloads) root done := by
  induction payloads generalizing root files with
  | nil => exact .settle (.inl safe) (holds root (.refl root) found)
  | cons payload rest ih =>
    have stored := Agree.store root isStage (addFile files payload.file)
    iterate 4
      apply Outcomes.bind
      apply Steady.settle (.inl safe)
    apply Outcomes.bind
    have completed : (storeFile stage payload.file).complete root =
        (.ok (), root.store stage (addFile files payload.file)) := by
      simp only [storeFile, found]
    apply Steady.perform (fun _ => rfl) (.inl safe)
    all_goals rw [completed]
    · exact .inl (safe.agree stored)
    · rintro _ _ ⟨⟩
      have grown : (root.store stage (addFile files payload.file)).files?
          stage = some (addFile files payload.file) := by simp
      apply ih (safe.agree stored) grown
      exact fun reached agree => holds reached (stored.trans agree)
    · rintro _ _ ⟨⟩

/-- The end of a temporary directory passes the result on. -/
theorem Safe.removeTemporary :
    Safe old new (do
      let _ ← attempt (perform (removeDirAll stage))
      lift ended) root (fun _ => Recoverable old new) := by
  have removal : Safe old new (perform (removeDirAll stage)) root (fun _ => Recoverable old new) :=
    removeStage isStage safe fun _ agree => safe.agree agree
  have conclude : ∀ reached, Recoverable old new reached →
      Safe old new (lift ended) reached (fun _ => Recoverable old new) := by
    intro reached good
    cases ended with
    | ok _ => exact .pure good
    | error _ => exact .fail good
  refine .bind (Outcomes.attempt ?_)
  exact removal.imply (fun _ reached => conclude reached)
    (fun _ reached => conclude reached) (fun _ => id)

end

theorem Safe.publishStaged (isStage : stage.IsStage)
    (safe : Recoverable old (publishedFiles payloads) root)
    (empty : root.files? stage = some [])
    (live : root.live? = old) (had : hadPrevious = old.isSome) :
    Safe old (publishedFiles payloads) (publishStaged stage hadPrevious payloads) root
      (fun _ => Recoverable old (publishedFiles payloads)) := by
  refine .bind (Steady.settle (.inl safe) ?_)
  refine .bind (stagePayloads safe isStage empty ?_)
  intro reached agree complete
  have staged := safe.agree agree
  refine .bind (previousName staged ?_)
  intro previous sequence plays named free
  exact swapStaged isStage plays (named.trans had)
    (staged.counted sequence) complete (agree.live?.trans live) free

theorem Safe.withTemporaryDirectory
    (isStage : stage.IsStage)
    (safe : Safe old new script root (fun _ => Recoverable old new)) :
    Safe old new (withTemporaryDirectory stage script) root (fun _ => Recoverable old new) := by
  refine .bind (Outcomes.attempt ?_)
  exact safe.imply (fun _ _ good => removeTemporary good isStage)
    (fun _ _ good => removeTemporary good isStage) (fun _ => id)

end

/-- Wherever a publication stops, a complete directory can be recovered. -/
theorem Safe.writeAccountCredentials (root : Instance)
    (unrecorded : root.transaction = none) (suffix : String)
    (payloads : List Payload) :
    Safe root.live? (publishedFiles payloads) (writeAccountCredentials suffix payloads) root
      (fun _ => Recoverable root.live? (publishedFiles payloads)) := by
  have safe : Recoverable root.live? (publishedFiles payloads) root := by
    rw [Recoverable, unrecorded]
    exact .inl rfl
  have isStage : EntryName.IsStage (.stage suffix) := ⟨suffix, rfl⟩
  refine .bind (Steady.settle (.inl safe) ?_)
  refine .bind (recover_unrecorded safe unrecorded ?_)
  intro swept agree
  have safe := safe.agree agree
  refine .bind (validateExisting safe ?_)
  refine .bind (createStage safe isStage ?_)
  intro created later empty
  have live : created.live? = root.live? := later.live?.trans agree.live?
  apply withTemporaryDirectory isStage
  apply publishStaged isStage (safe.agree later) empty live
  rw [agree.live?]

/-! ## Histories -/

/-- The root as a new process finds it. -/
def Instance.enter (root : Instance) (invocation : Invocation) : Instance :=
  { root with pid := invocation.pid, sequence := invocation.counter }

/-- A publication by a process of its own. -/
def publication (root : Instance) (suffix : String)
    (payloads : List Payload)
    (invocation : Invocation) : Run Instance Failure Unit :=
  writeAccountCredentials suffix payloads (root.enter invocation) invocation.fates

/-- The runs of recoveries one after another. -/
def recoveries : Instance → List Invocation → List (Run Instance Failure Unit) :=
  runs recoverCredentialSwap Instance.enter

theorem recoveries_complete (safe : Recoverable old new root)
    (invocations : List Invocation)
    (harmless : ∀ run ∈ recoveries root invocations,
      ∀ incident ∈ run.incidents, Harmless incident) :
    ∀ run ∈ recoveries root invocations,
      run.result = .ok () → Complete old new run.world := by
  have recovers (root : Instance) (safe : Recoverable old new root) :
      Safe old new recoverCredentialSwap root
        fun _ reached => Recoverable old new reached ∧ Complete old new reached :=
    (Safe.recoverCredentialSwap safe).imply
      (fun _ _ ended => ⟨ended.safe, ended.complete⟩) (fun _ _ => id) fun _ => id
  intro run member
  exact runs_succeed (fun root invocation safe => safe.agree ⟨rfl, fun _ _ => rfl⟩)
    recovers safe invocations harmless run member ()

/--
Whatever happens to a publication and to the recoveries after it, and however
often they are cut off: a recovery that succeeds leaves the previous
directory or the complete new one, unless an incident was harmful.
-/
theorem recovered_credentials_complete (root : Instance)
    (unrecorded : root.transaction = none) (suffix : String)
    (payloads : List Payload) (publisher : Invocation)
    (invocations : List Invocation)
    (published : ∀ incident ∈
      (publication root suffix payloads publisher).incidents,
        Harmless incident)
    (recovered : ∀ run ∈
      recoveries (publication root suffix payloads publisher).world
        invocations, ∀ incident ∈ run.incidents, Harmless incident) :
    ∀ run ∈ recoveries (publication root suffix payloads publisher).world
        invocations, run.result = .ok () →
      run.world.files? .credentials = root.files? .credentials ∨
        run.world.files? .credentials = some (publishedFiles payloads) := by
  have written : Safe root.live? (publishedFiles payloads)
      (writeAccountCredentials suffix payloads) (root.enter publisher)
      (fun _ => Recoverable root.live? (publishedFiles payloads)) :=
    Safe.writeAccountCredentials (root.enter publisher) unrecorded suffix payloads
  exact recoveries_complete (Outcomes.leaves written published) invocations recovered

/-- An instance with two credential files. -/
def sampleRoot : Instance where
  entries := Directory.store Table.empty .credentials
    [⟨"work", .file [1]⟩, ⟨"home", .file [2]⟩]
  transaction := none
  pid := 0
  sequence := 0

def samplePayloads : List Payload := [⟨"work", [3]⟩]

/-- A process that dies in the call after the given number of calls. -/
def cutOff (calls extent : Nat) : Invocation :=
  ⟨1, 0, List.replicate calls .works ++ [.dies extent]⟩

/-- A process that is not disturbed. -/
def undisturbed : Invocation := ⟨1, 0, []⟩

/--
A publication that dies when it has moved the present directory aside, a
recovery that dies while it removes the staged one, and one that ends.
-/
theorem interrupted_swap_recovered :
    (∃ run ∈ recoveries (publication sampleRoot "stage" samplePayloads
        (cutOff 22 0)).world [cutOff 8 1, undisturbed],
      run.result = .ok ()) ∧
      ∀ run ∈ recoveries (publication sampleRoot "stage" samplePayloads
          (cutOff 22 0)).world [cutOff 8 1, undisturbed],
        run.result = .ok () →
          run.world.files? .credentials = sampleRoot.files? .credentials ∨
            run.world.files? .credentials = some (publishedFiles samplePayloads) :=
  ⟨by decide +kernel, recovered_credentials_complete sampleRoot rfl "stage"
    samplePayloads (cutOff 22 0) [cutOff 8 1, undisturbed]
    (by decide +kernel) (by decide +kernel)⟩

/--
Two histories of crashes alone.  In the first the process dies while it
removes the previous directory, and the recovery puts the rest of it back.
In the second it dies before the new directory is installed, the recovery
dies when it has put the previous directory back, and the next recovery takes
that for the new one and removes it.
-/
theorem interrupted_swap_loses_credentials :
    (∃ run ∈ recoveries (publication sampleRoot "stage" samplePayloads
        (cutOff 51 2)).world [undisturbed],
      run.result = .ok () ∧ run.world.files? .credentials = some [⟨"work", .file [1]⟩]) ∧
      ∃ run ∈ recoveries (publication sampleRoot "stage" samplePayloads
          (cutOff 28 0)).world [cutOff 10 0, undisturbed],
        run.result = .ok () ∧ run.world.files? .credentials = none := by
  decide +kernel

end Jackin.Credentials
