import Jackin.Credentials.Model

/-!
# Recoverable instance roots

The invariant says, phase by phase, which directories can be where: wherever
the process may stop, the recorded phase leads the next recovery to a complete
directory, the previous one or the new one.

Two kinds of incidents break it.  A removal of the previous directory that
stops part-way leaves the rest under the name that is recorded as the source
of a rollback.  And while `PreviousMoved` is on record, a live directory
without a previous one is taken for the installed one, as it is between the
moment a rollback has put the previous directory back and the moment
`Restored` is on record.

`Safe` is the judgement about scripts that follows: wherever the script stops
after harmless incidents, the root is recoverable.
-/

namespace Jackin.Credentials

open Foundation Script

variable {name : EntryName} {done : Unit → Instance → Prop} {files : Files}

/-! ## Looking up directories -/

namespace Instance

/-- The files below a recorded name. -/
def held? (root : Instance)
    (name : Option EntryName) : Option Files := name.bind root.files?

/-- The live credentials. -/
def live? (root : Instance) : Option Files := root.files? .credentials

section

variable (root : Instance)
include root

@[simp]
theorem files?_record {transaction} :
    (root.record transaction).files? name = root.files? name :=
  rfl

@[simp]
theorem transaction_move :
    (root.move source target files).transaction = root.transaction := rfl

@[simp]
theorem held?_none : root.held? none = none := rfl

@[simp]
theorem held?_some : root.held? (some name) = root.files? name := rfl

@[simp]
theorem files?_store :
    (root.store name files).files? other =
      if other = name then some files else root.files? other :=
  Directory.node?_store

@[simp]
theorem files?_drop :
    (root.drop name).files? other = if other = name then none else root.files? other :=
  Directory.node?_drop

@[simp]
theorem files?_move :
    (root.move source target files).files? other =
      if other = target then some files
      else if other = source then none else root.files? other :=
  Directory.node?_move

end

theorem drop_of_absent {root : Instance}
    (absent : root.files? name = none) : root.drop name = root := by
  have missing : root.entries.find? name = none := Option.map_eq_none_iff.mp absent
  rw [drop, Directory.drop, Table.delete_key_of_absent missing]

end Instance

/-- The name was made for a role. -/
def EntryName.Plays (role : Sibling) (name : EntryName) : Prop :=
  ∃ pid sequence, name = .sibling role pid sequence

def EntryName.IsStage (name : EntryName) : Prop := ∃ suffix, name = .stage suffix

/-- Every name a transaction lists was made for its role. -/
structure CredentialSwapTransaction.Formed (transaction : CredentialSwapTransaction) : Prop where
  version : transaction.schemaVersion = credentialTransactionVersion
  staged : ∀ name ∈ transaction.staged, name.IsStage
  previous : ∀ name ∈ transaction.previous, name.Plays .previous
  cleanup : ∀ name ∈ transaction.cleanup, name.Plays .cleanup
  rollback : ∀ name ∈ transaction.rollback, name.Plays .rollback

/--
Two roots with the same record and the same directories, staging directories
apart.
-/
structure Agree (first second : Instance) : Prop where
  transaction : second.transaction = first.transaction
  files : ∀ name : EntryName, ¬name.IsStage → second.files? name = first.files? name

/--
At most one of the directories a rollback can start from is there, and it
holds the given files.
-/
def Sources (transaction : CredentialSwapTransaction) (root : Instance)
    (files : Option Files) : Prop :=
  (root.held? transaction.previous = files ∧ root.held? transaction.cleanup = none) ∨
    (root.held? transaction.previous = none ∧ root.held? transaction.cleanup = files)

section

variable (old : Option Files) (new : Files)

/-- The live directory is complete. -/
def Complete (root : Instance) : Prop := root.live? = old ∨ root.live? = some new

/-- Where the directories can be while a transaction is on record. -/
def PhaseHolds (transaction : CredentialSwapTransaction)
    (root : Instance) : Prop :=
  match transaction.phase with
  | .prepared =>
    transaction.rollback = none ∧ ((Sources transaction root none ∧ Complete old new root) ∨
        (root.live? = none ∧ root.held? transaction.previous = old ∧
          root.held? transaction.cleanup = none))
  | .previousMoved =>
    transaction.rollback = none ∧ root.held? transaction.previous = old ∧
        root.held? transaction.cleanup = none ∧ (root.live? = none ∨ root.live? = some new)
  | .installed | .cleanupPending =>
    transaction.rollback = none ∧ root.live? = some new ∧
      (Sources transaction root old ∨ Sources transaction root none)
  | .rollbackTargetQuarantined =>
    transaction.rollback.isSome ∧ ((root.live? = some new ∧ root.held? transaction.rollback = none ∧
          Sources transaction root old) ∨
        (root.live? = none ∧
          (root.held? transaction.rollback).isSome ∧ Sources transaction root old) ∨
        (root.live? = old ∧ (root.held? transaction.rollback).isSome ∧
          Sources transaction root none))
  | .restored => Sources transaction root none ∧ Complete old new root
  | .committed => root.live? = some new

/-- The next recovery finds a complete directory. -/
def Recoverable (root : Instance) : Prop :=
  match root.transaction with
  | none => Complete old new root
  | some transaction => transaction.Formed ∧ PhaseHolds old new transaction root

end

/-! ## Harmful incidents -/

/--
The previous directory is back in place while the record still says that it
was moved away.
-/
def Instance.unrecorded (root : Instance) : Bool :=
  match root.transaction with
  | none => false
  | some transaction =>
    transaction.phase = .previousMoved && root.live?.isSome &&
      (root.held? transaction.previous).isNone

/-- The recorded cleanup directory is there but no longer what it was. -/
def tears (incident : Incident Instance) : Bool :=
  match incident.before.transaction with
  | none => false
  | some transaction =>
    (incident.before.held? transaction.cleanup).isSome &&
      (incident.left.held? transaction.cleanup).isSome &&
        incident.left.held? transaction.cleanup ≠ incident.before.held? transaction.cleanup

/-- An incident that no recovery is misled by. -/
abbrev Harmless (incident : Incident Instance) : Prop :=
  tears incident = false ∧ incident.left.unrecorded = false

section

variable {transaction : CredentialSwapTransaction}

theorem Agree.refl (root : Instance) : Agree root root := ⟨rfl, fun _ _ => rfl⟩

theorem Agree.trans (first : Agree root later)
    (second : Agree later last) : Agree root last where
  transaction := second.transaction.trans first.transaction
  files := fun name other => (second.files name other).trans (first.files name other)

theorem EntryName.Plays.not_isStage (plays : name.Plays role) :
    ¬name.IsStage := by
  rintro ⟨suffix, same⟩
  obtain ⟨_, _, rfl⟩ := plays
  cases same

section

variable (agree : Agree root later)
include agree

theorem Agree.live? :
    later.live? = root.live? := agree.files _ (by rintro ⟨_, same⟩; cases same)

theorem Agree.held? {name} (plays : ∀ entry ∈ name, entry.Plays role) :
    later.held? name = root.held? name := by
  cases name with
  | none => rfl
  | some entry => exact agree.files _ (plays entry rfl).not_isStage

theorem Agree.sources (formed : transaction.Formed) {files} :
    Sources transaction later files ↔ Sources transaction root files := by
  unfold Sources
  rw [agree.held? formed.previous, agree.held? formed.cleanup]

theorem Agree.complete : Complete old new later ↔ Complete old new root := by
  unfold Complete
  rw [agree.live?]

theorem Agree.phaseHolds (formed : transaction.Formed) :
    PhaseHolds old new transaction later ↔ PhaseHolds old new transaction root := by
  unfold PhaseHolds
  rw [agree.live?, agree.held? formed.previous, agree.held? formed.cleanup,
    agree.held? formed.rollback, agree.complete]
  simp only [agree.sources formed]

theorem Agree.unrecorded (recorded : root.transaction = some transaction)
    (formed : transaction.Formed) : later.unrecorded = root.unrecorded := by
  unfold Instance.unrecorded
  rw [agree.transaction, recorded]
  simp only [agree.live?, agree.held? formed.previous]

end

theorem Recoverable.agree (safe : Recoverable old new root)
    (agree : Agree root later) : Recoverable old new later := by
  unfold Recoverable at safe ⊢
  rw [agree.transaction]
  cases recorded : root.transaction with
  | none =>
    rw [recorded] at safe
    exact agree.complete.mpr safe
  | some transaction =>
    rw [recorded] at safe
    exact ⟨safe.1, (agree.phaseHolds safe.1).mpr safe.2⟩

end

/-! ## The steps of a script -/

/-- A harmless incident that leaves this root leaves it good to stop at. -/
def Sheltered (stop : Instance → Prop) (root : Instance) : Prop :=
  stop root ∨
    (∃ recorded, root.transaction = some recorded ∧ recorded.Formed) ∧ root.unrecorded

/--
A script ends well, and stops only at good roots, by an error or a death, as
long as the incidents are harmless.
-/
abbrev Steady {Value : Type} (stop : Instance → Prop) (script : Action Value)
    (root : Instance) (done : Value → Instance → Prop) : Prop :=
  Outcomes Harmless script root done (fun _ => stop) stop

/-- A script that leaves the root recoverable wherever it stops. -/
abbrev Safe {Value : Type} (old : Option Files) (new : Files)
    (script : Action Value) (root : Instance)
    (done : Value → Instance → Prop) : Prop :=
  Steady (Recoverable old new) script root done

section

variable {stop : Instance → Prop} {transaction : CredentialSwapTransaction}

theorem Sheltered.stops (sheltered : Sheltered stop root)
    (harmless : Harmless ⟨fate, before, root⟩) : stop root := by
  rcases sheltered with good | ⟨_, unrecorded⟩
  · exact good
  · have recorded := harmless.2
    simp [unrecorded] at recorded

/--
An operation that is not carried out in part, between two roots that are
both sheltered.
-/
theorem Steady.perform {Value : Type} {operation}
    {done : Value → Instance → Prop}
    (whole : ∀ extent, operation.partly extent root = root)
    (before : Sheltered stop root)
    (after : Sheltered stop (operation.complete root).2)
    (works : ∀ value reached, operation.complete root = (.ok value, reached) → done value reached)
    (refuses : ∀ failure reached,
      operation.complete root = (.error failure, reached) → stop reached) :
    Steady stop (perform operation) root done := by
  apply Outcomes.perform works refuses
  case fails =>
    intro extent harmless
    rw [whole] at harmless ⊢
    exact before.stops harmless
  case dies =>
    intro extent harmless
    cases extent with
    | zero => exact after.stops harmless
    | succ extent =>
      simp only [deathIn, whole] at harmless ⊢
      exact before.stops harmless

theorem Steady.settle (sheltered : Sheltered stop root) (holds : done () root) :
    Steady stop (Script.perform settle) root done := by
  apply Steady.perform (fun _ => rfl) sheltered sheltered
  · rintro _ _ ⟨⟩
    exact holds
  · rintro _ _ ⟨⟩

/-- An operation that only looks. -/
theorem Steady.exists? {done} (good : stop root)
    (holds : done (root.files? name).isSome root) :
    Steady stop (Script.perform (exists? name)) root done := by
  apply Steady.perform (fun _ => rfl) (.inl good) (.inl good)
  · rintro _ _ ⟨⟩
    exact holds
  · rintro _ _ ⟨⟩

theorem Steady.validateEntry (good : stop root) (holds : done () root) :
    Steady stop (validateEntry name) root done := by
  unfold Credentials.validateEntry ensure
  split
  · exact .pure holds
  · exact .fail good

theorem Steady.credentialEntryExists {name}
    {done} (good : stop root)
    (holds : done (root.held? name).isSome root) :
    Steady stop (credentialEntryExists name) root done := by
  cases name with
  | none => exact .pure holds
  | some entry =>
    exact Outcomes.bind (Steady.validateEntry good (Steady.exists? good holds))

theorem EntryName.Plays.isPrivate (plays : name.Plays role) :
    name.isPrivate := by
  obtain ⟨_, _, rfl⟩ := plays
  rfl

theorem CredentialSwapTransaction.Formed.isPrivate (formed : transaction.Formed) :
    ∀ name ∈ transaction.names, name.isPrivate := by
  intro name listed
  simp only [names, List.mem_filterMap, id_eq, exists_eq_right,
    List.mem_cons, List.not_mem_nil, or_false] at listed
  rcases listed with staged | previous | cleanup | rollback
  · obtain ⟨_, rfl⟩ := formed.staged name staged.symm
    rfl
  · exact (formed.previous name previous.symm).isPrivate
  · exact (formed.cleanup name cleanup.symm).isPrivate
  · exact (formed.rollback name rollback.symm).isPrivate

theorem validateEntries_eq
    (allowed : ∀ name ∈ names, name.isPrivate) :
    validateEntries names = pure () := by
  induction names with
  | nil => rfl
  | cons name rest ih =>
    unfold validateEntries validateEntry ensure
    rw [if_pos (allowed name List.mem_cons_self), ih fun other member =>
        allowed other (List.mem_cons_of_mem _ member)]
    rfl

theorem validateCredentialTransaction_eq (formed : transaction.Formed) :
    validateCredentialTransaction transaction = pure () := by
  unfold validateCredentialTransaction ensure
  rw [if_pos formed.version, validateEntries_eq formed.isPrivate]
  rfl

/-- The record is replaced between two roots that are both sheltered. -/
theorem Steady.persist (formed : transaction.Formed)
    (before : Sheltered stop root)
    (after : stop (root.record transaction))
    (holds : done () (root.record transaction)) :
    Steady stop (persistCredentialTransaction transaction) root done := by
  rw [persistCredentialTransaction, validateCredentialTransaction_eq formed]
  refine .bind (Outcomes.pure ?_)
  iterate 4
    apply Outcomes.bind
    apply Steady.settle before
  apply Outcomes.bind
  apply Steady.perform (fun _ => rfl) before (.inl after)
  · rintro _ _ ⟨⟩
    exact Steady.settle (.inl after) holds
  · rintro _ _ ⟨⟩

/--
A removal that finds nothing counts as success.  The process may also die
right after the removal, so the roots where it dies are kept apart from those
where the removal fails.
-/
theorem outcomes_unlessMissing (nature : removal.failure = .io)
    (refusal : ∀ failure reached,
      removal.complete root = (.error failure, reached) → failure = .notFound)
    (part : ∀ fate extent, Harmless ⟨fate, root, removal.partly extent root⟩ →
        stop (removal.partly extent root) ∧ died (removal.partly extent root))
    (after : died (removal.complete root).2)
    (works : ∀ reached, removal.complete root = (.ok (), reached) →
      Outcomes Harmless next reached done (fun _ => stop) died)
    (missing : ∀ reached, removal.complete root = (.error .notFound, reached) → done () reached) :
    Outcomes Harmless (unlessMissing removal next) root done (fun _ => stop) died := by
  refine .bind (Outcomes.attempt ?_)
  apply Outcomes.perform
  case works => exact fun _ reached => works reached
  case refuses =>
    intro failure reached completed
    obtain rfl := refusal failure reached completed
    exact .pure (missing reached completed)
  case fails =>
    intro extent harmless
    rw [nature]
    exact .fail (part _ extent harmless).1
  case dies =>
    intro extent harmless
    cases extent with
    | zero => exact after
    | succ extent => exact (part _ extent harmless).2

/-- The root once no transaction is on record. -/
def Instance.cleared (root : Instance) : Instance := { root with transaction := none }

theorem removeTransaction_after (root : Instance) :
    (removeTransaction.complete root).2 = root.cleared := by
  obtain ⟨_, recorded, _, _⟩ := root
  cases recorded <;> rfl

theorem Steady.clear (good : stop root) (cleared : stop root.cleared)
    (holds : done () root.cleared) :
    Steady stop clearCredentialTransaction root done := by
  have after := removeTransaction_after root
  apply outcomes_unlessMissing rfl ?_ (fun _ _ _ => ⟨good, good⟩)
  · rwa [after]
  · intro reached completed
    rw [completed] at after
    subst after
    exact Steady.settle (.inl cleared) holds
  · intro reached completed
    rw [completed] at after
    subst after
    exact holds
  · intro failure reached completed
    simp only [removeTransaction] at completed
    split at completed <;> cases completed
    rfl

theorem removeDirAll_after (root : Instance) (name : EntryName) :
    ((removeDirAll name).complete root).2 = root.drop name := by
  cases found : root.files? name with
  | none => simp only [removeDirAll, found, Instance.drop_of_absent found]
  | some files => simp only [removeDirAll, found]

/-- A recorded directory is removed, or a part of it. -/
theorem outcomes_removeEntry (good : stop root) (alive : died root)
    (part : ∀ fate files left, root.files? name = some files →
      Harmless ⟨fate, root, root.store name left⟩ →
        stop (root.store name left) ∧ died (root.store name left))
    (gone : died (root.drop name)) (holds : done () (root.drop name)) :
    Outcomes Harmless (removeCredentialEntry (some name)) root done (fun _ => stop) died := by
  have after := removeDirAll_after root name
  refine .ensure (fun _ => ?_) fun _ => good
  apply outcomes_unlessMissing rfl
  · intro failure reached completed
    simp only [removeDirAll] at completed
    split at completed <;> cases completed
    rfl
  · intro fate extent harmless
    unfold removeDirAll at harmless ⊢
    cases found : root.files? name with
    | none =>
      simp only [found]
      exact ⟨good, alive⟩
    | some files =>
      simp only [found] at harmless ⊢
      exact part fate files _ found harmless
  · rwa [after]
  · intro reached completed
    rw [completed] at after
    subst after
    exact .pure holds
  · intro reached completed
    rw [completed] at after
    subst after
    exact holds

theorem Steady.removeEntry (good : stop root)
    (part : ∀ files left, root.files? name = some files → stop (root.store name left))
    (gone : stop (root.drop name))
    (holds : done () (root.drop name)) :
    Steady stop (removeCredentialEntry (some name)) root done :=
  outcomes_removeEntry good good (fun _ files left found _ =>
      ⟨part files left found, part files left found⟩)
    gone holds

theorem rename_complete (target : EntryName)
    (found : root.files? source = some files) :
    (rename source target).complete root = (.error .io, root) ∨
      (rename source target).complete root =
        (.ok (), root.move source target files) :=
  Directory.renameNode_found found

theorem Steady.rename (good : stop root)
    (found : root.files? source = some files)
    (after : Sheltered stop (root.move source target files))
    (holds : done () (root.move source target files)) :
    Steady stop (Script.perform (rename source target)) root done := by
  rcases rename_complete target found with refused | moved
  · apply Steady.perform (fun _ => rfl) (.inl good)
    all_goals rw [refused]
    · exact .inl good
    · rintro _ _ ⟨⟩
    · rintro _ _ ⟨⟩
      exact good
  · apply Steady.perform (fun _ => rfl) (.inl good)
    all_goals rw [moved]
    · exact after
    · rintro _ _ ⟨⟩
      exact holds
    · rintro _ _ ⟨⟩

/-- The root after the process has used up some sequence numbers. -/
def Instance.counted (root : Instance) (sequence : Nat) : Instance :=
  { root with sequence }

theorem Agree.counted (root : Instance)
    (sequence : Nat) : Agree root (root.counted sequence) :=
  ⟨rfl, fun _ _ => rfl⟩

theorem Steady.uniqueSiblingFrom {done}
    (good : ∀ sequence, stop (root.counted sequence))
    (holds : ∀ name sequence, name.Plays role → root.files? name = none →
      done name (root.counted sequence)) :
    Steady stop (uniqueSiblingFrom role tries) root done := by
  induction tries generalizing root with
  | zero => exact .fail (good root.sequence)
  | succ tries ih =>
    apply Outcomes.glance
    apply Outcomes.adjust
    refine .bind (Steady.exists? (good (root.sequence + 1)) ?_)
    split
    · exact ih good holds
    · rename_i absent
      apply Outcomes.pure
      exact holds _ _ ⟨_, _, rfl⟩ (Option.not_isSome_iff_eq_none.mp absent)

theorem Steady.uniqueCredentialSibling {done}
    (good : ∀ sequence, stop (root.counted sequence))
    (holds : ∀ name sequence, name.Plays role → root.files? name = none →
      done name (root.counted sequence)) : Steady stop (uniqueCredentialSibling role) root done :=
  Steady.uniqueSiblingFrom good holds

theorem Recoverable.counted (safe : Recoverable old new root) (sequence : Nat) :
    Recoverable old new (root.counted sequence) :=
  safe.agree (.counted root sequence)

theorem Sheltered.agree (sheltered : Sheltered (Recoverable old new) root)
    (agree : Agree root later) :
    Sheltered (Recoverable old new) later := by
  rcases sheltered with safe | ⟨⟨recorded, found, formed⟩, unrecorded⟩
  · exact .inl (safe.agree agree)
  · refine .inr ⟨⟨recorded, agree.transaction.trans found, formed⟩, ?_⟩
    rwa [agree.unrecorded found formed]

end

end Jackin.Credentials
