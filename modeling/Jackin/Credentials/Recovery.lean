import Jackin.Credentials.Rollback

/-!
# Recovering a swap

A recovery sweeps the staging directories no transaction lists, and then goes
by the recorded phase.  A published directory with nothing left of the
previous one is committed.  In the other phases before the commit the swap is
rolled back; the invariant of each phase says from where.  After the commit
the private directories are removed.
-/

namespace Jackin.Credentials

open Foundation Script Safe

variable {done : Unit → Instance → Prop}

section

variable {new : Files} {root : Instance}
    {transaction : CredentialSwapTransaction}

theorem Safe.removeStage (stage : name.IsStage)
    (safe : Recoverable old new root)
    (holds : ∀ reached, Agree root reached → done () reached) :
    Safe old new (perform (removeDirAll name)) root done := by
  have dropped := Agree.drop root stage
  have part : ∀ extent, Agree root ((removeDirAll name).partly extent root) := by
    intro extent
    simp only [removeDirAll]
    split
    · exact .refl root
    · exact .store root stage _
  have after := removeDirAll_after root name
  apply Outcomes.perform
  case works =>
    intro _ reached completed
    rw [completed] at after
    subst after
    exact holds _ dropped
  case refuses =>
    intro _ reached completed
    rw [completed] at after
    subst after
    exact safe.agree dropped
  case fails => exact fun extent _ => safe.agree (part extent)
  case dies =>
    intro extent _
    cases extent with
    | zero =>
      simp only [deathIn, after]
      exact safe.agree dropped
    | succ extent => exact safe.agree (part extent)

theorem isStage_of_valid (valid : ¬isValidCredentialStageName name = false) :
    name.IsStage := by
  cases name with
  | stage suffix => exact ⟨suffix, rfl⟩
  | credentials | sibling => exact absurd rfl valid

theorem Safe.sweepEntries {done} (safe : Recoverable old new root)
    (holds : ∀ removed reached, Agree root reached → done removed reached) :
    Safe old new (sweepEntries active names) root done := by
  induction names generalizing root done with
  | nil => exact .pure (holds false root (.refl root))
  | cons name rest ih =>
    unfold sweepEntries
    split
    · exact ih safe holds
    · rename_i swept
      have stage := isStage_of_valid (not_or.mp swept).2
      refine .bind (Steady.settle (.inl safe) ?_)
      refine .bind (removeStage stage safe ?_)
      intro dropped agree
      refine .bind (ih (safe.agree agree) ?_)
      intro _ reached later
      exact .pure (holds true reached (agree.trans later))

theorem Safe.sweep (safe : Recoverable old new root)
    (holds : ∀ reached, Agree root reached → done () reached) :
    Safe old new (sweepOrphanCredentialStaging active) root done := by
  apply Outcomes.bind
  apply Steady.perform (fun _ => rfl) (.inl safe) (.inl safe)
  · rintro names _ ⟨⟩
    refine .bind (sweepEntries safe ?_)
    intro removed reached agree
    cases removed with
    | false => exact .pure (holds reached agree)
    | true => exact Steady.settle (.inl (safe.agree agree)) (holds reached agree)
  · rintro _ _ ⟨⟩

/-- The previous directory was moved away, on record or not yet. -/
theorem Aside.moved (found : root.transaction = some recorded)
    (formed : recorded.Formed) (unquarantined : recorded.rollback = none)
    (phase : recorded.phase = .prepared ∨ recorded.phase = .previousMoved)
    (live : root.live? = none) (previous : root.held? recorded.previous = old)
    (cleanup : root.held? recorded.cleanup = none)
    (samePrevious : transaction.previous = recorded.previous)
    (noCleanup : root.held? transaction.cleanup = none) :
    Aside old new transaction root where
  live := live
  sources := .inl ⟨by rw [samePrevious, previous], noCleanup⟩
  safe := by
    apply Recoverable.of_recorded found formed
    unfold PhaseHolds
    rcases phase with phase | phase
    · rw [phase]
      exact ⟨unquarantined, .inr ⟨live, previous, cleanup⟩⟩
    · rw [phase]
      exact ⟨unquarantined, previous, cleanup, .inl live⟩
  returns := by
    intro name files source present
    rcases source with named | named
    · rw [samePrevious] at named
      have sources : Sources recorded root old := .inl ⟨previous, cleanup⟩
      obtain ⟨same, emptied⟩ := sources.returned formed (.inl named) present
      have kept : (root.move name .credentials files).transaction = some recorded :=
        found
      rcases phase with phase | phase
      · left
        apply Recoverable.of_recorded kept formed
        rw [PhaseHolds, phase]
        refine ⟨unquarantined, .inl ⟨emptied, .inl ?_⟩⟩
        simp [Instance.live?, same]
      · right
        refine ⟨⟨recorded, kept, formed⟩, ?_⟩
        have elsewhere := (formed.previous name named).ne_credentials
        simp [Instance.unrecorded, found, phase, named, Instance.live?, elsewhere]
    · rw [named, Instance.held?_some, present] at noCleanup
      cases noCleanup

variable (found : root.transaction = some transaction)
    (formed : transaction.Formed)
    (holds : PhaseHolds old new transaction root)

include found formed holds

theorem rolling_of_prepared (phase : transaction.phase = .prepared) :
    Rolling old new transaction false root := by
  have safe := Recoverable.of_recorded found formed holds
  rw [PhaseHolds, phase] at holds
  refine .inr ⟨rfl, ?_⟩
  rcases holds with ⟨unquarantined, ⟨sources, complete⟩ | away⟩
  · exact .inr ⟨complete, sources, safe⟩
  · obtain ⟨live, previous, cleanup⟩ := away
    exact .inl (.moved found formed unquarantined (.inl phase) live previous cleanup rfl cleanup)

theorem rolling_of_previousMoved (phase : transaction.phase = .previousMoved) :
    Rolling old new transaction root.live?.isSome root := by
  have safe := Recoverable.of_recorded found formed holds
  rw [PhaseHolds, phase] at holds
  obtain ⟨unquarantined, previous, cleanup, live | live⟩ := holds
  · refine .inr ⟨by rw [live]; rfl, .inl ?_⟩
    exact .moved found formed unquarantined (.inr phase) live previous cleanup rfl cleanup
  · refine .inl ⟨by rw [live]; rfl, live, ?_, .inl ⟨previous, cleanup⟩, safe⟩
    rw [unquarantined]
    rfl

omit found formed in
theorem published_holds (phase : transaction.phase.isPublished) :
    transaction.rollback = none ∧ root.live? = some new ∧
      (Sources transaction root old ∨ Sources transaction root none) := by
  unfold PhaseHolds at holds
  cases recorded : transaction.phase <;> rw [recorded] at phase holds
  case installed => exact holds
  case cleanupPending => exact holds
  all_goals cases phase

/-- An installed directory next to a previous one has to make way. -/
theorem rolling_of_published (phase : transaction.phase.isPublished)
    (some_source : ¬Sources transaction root none) :
    Rolling old new transaction true root := by
  have safe := Recoverable.of_recorded found formed holds
  obtain ⟨unquarantined, live, sources | sources⟩ := published_holds holds phase
  · refine .inl ⟨rfl, live, ?_, sources, safe⟩
    rw [unquarantined]
    rfl
  · exact absurd sources some_source

theorem rolling_of_quarantined (phase : transaction.phase = .rollbackTargetQuarantined) :
    Rolling old new transaction true root := by
  have safe := Recoverable.of_recorded found formed holds
  rw [PhaseHolds, phase] at holds
  obtain ⟨_, target | quarantined | restored⟩ := holds
  · obtain ⟨live, free, sources⟩ := target
    exact .inl ⟨rfl, live, free, sources, safe⟩
  · obtain ⟨live, held, sources⟩ := quarantined
    refine .inr ⟨by rw [live]; rfl, .inl ?_⟩
    exact .quarantined formed found phase live held sources
  · obtain ⟨live, held, sources⟩ := restored
    refine .inr ⟨by rw [held]; simp, .inr ⟨.inl live, sources, safe⟩⟩

theorem rolling_of_restored (phase : transaction.phase = .restored) :
    Rolling old new transaction false root := by
  have safe := Recoverable.of_recorded found formed holds
  rw [PhaseHolds, phase] at holds
  exact .inr ⟨rfl, .inr ⟨holds.2, holds.1, safe⟩⟩

omit found formed holds

/-- A committed transaction is on record and the new directory is live. -/
structure CommittedTo (new : Files)
    (transaction : CredentialSwapTransaction) (root : Instance) : Prop where
  found : root.transaction = some transaction
  formed : transaction.Formed
  phase : transaction.phase = .committed
  live : root.live? = some new

section

variable (committed : CommittedTo new transaction root)
include committed

theorem CommittedTo.safe : Recoverable old new root := by
  apply Recoverable.of_recorded committed.found committed.formed
  rw [PhaseHolds, committed.phase]
  exact committed.live

/-- Every directory but the live one may go. -/
theorem Safe.removeLeftover (elsewhere : ∀ entry ∈ name, entry ≠ .credentials)
    (holds : ∀ reached, CommittedTo new transaction reached → done () reached) :
    Safe old new (removeCredentialEntry name) root done := by
  cases name with
  | none => exact .pure (holds root committed)
  | some entry =>
    have other := (elsewhere entry rfl).symm
    have dropped : CommittedTo new transaction (root.drop entry) :=
      { committed with live := by simpa [Instance.live?, other] using committed.live }
    apply Steady.removeEntry committed.safe
    · intro files left _
      have stored : CommittedTo new transaction (root.store entry left) :=
        { committed with live := by simpa [Instance.live?, other] using committed.live }
      exact stored.safe
    · exact dropped.safe
    · exact holds _ dropped

theorem Safe.recover_committed (phase : transaction.phase = .committed) :
    Safe old new (recoverPhase transaction) root (fun _ => Ended old new) := by
  have formed := committed.formed
  rw [recoverPhase, phase]
  apply Outcomes.bind
  apply removeLeftover committed
  · rintro _ listed rfl
    obtain ⟨_, same⟩ := formed.staged _ listed
    cases same
  · intro _ committed
    apply Outcomes.bind
    apply removeLeftover committed fun entry listed => (formed.previous entry listed).ne_credentials
    intro _ committed
    apply Outcomes.bind
    apply removeLeftover committed fun entry listed => (formed.cleanup entry listed).ne_credentials
    intro _ committed
    apply Outcomes.bind
    apply removeLeftover committed fun entry listed => (formed.rollback entry listed).ne_credentials
    intro reached committed
    have complete : Complete old new reached := .inr committed.live
    exact Steady.clear committed.safe complete ⟨rfl, complete⟩

end

theorem Safe.recoverPhase (found : root.transaction = some transaction)
    (formed : transaction.Formed) (holds : PhaseHolds old new transaction root)
    (some_source : transaction.phase.isPublished → ¬Sources transaction root none) :
    Safe old new (recoverPhase transaction) root (fun _ => Ended old new) := by
  have safe := Recoverable.of_recorded found formed holds
  by_cases committed : transaction.phase = .committed
  · have live : root.live? = some new := by
      rwa [PhaseHolds, committed] at holds
    exact .recover_committed ⟨found, formed, committed, live⟩ committed
  unfold Credentials.recoverPhase
  cases phase : transaction.phase with
  | committed => exact absurd phase committed
  | prepared =>
    refine .bind (Steady.credentialEntryExists safe ?_)
    refine .bind (Steady.exists? safe ?_)
    refine .ensure (fun _ => ?_) fun _ => safe
    exact finishCredentialRollback formed (rolling_of_prepared found formed holds phase)
  | previousMoved =>
    refine .bind (Steady.exists? safe ?_)
    exact finishCredentialRollback formed (rolling_of_previousMoved found formed holds phase)
  | installed | cleanupPending =>
    have published : transaction.phase.isPublished := by rw [phase]; rfl
    exact .finishCredentialRollback formed
      (rolling_of_published found formed holds published (some_source published))
  | rollbackTargetQuarantined =>
    exact .finishCredentialRollback formed (rolling_of_quarantined found formed holds phase)
  | restored =>
    exact .finishCredentialRollback formed (rolling_of_restored found formed holds phase)

theorem Safe.recoverTransaction (found : root.transaction = some transaction)
    (formed : transaction.Formed)
    (holds : PhaseHolds old new transaction root) :
    Safe old new (recoverTransaction transaction) root (fun _ => Ended old new) := by
  have safe := Recoverable.of_recorded found formed holds
  refine .bind (Steady.exists? safe ?_)
  refine .bind (Steady.credentialEntryExists safe ?_)
  refine .bind (Steady.credentialEntryExists safe ?_)
  split
  · rename_i shortcut
    simp only [Bool.and_eq_true] at shortcut
    have live := (published_holds holds shortcut.2).2.1
    have formed' : ({ transaction with phase := .committed } :
        CredentialSwapTransaction).Formed := { formed with }
    have committed : CommittedTo new { transaction with phase := .committed }
        (root.record { transaction with phase := .committed }) :=
      ⟨rfl, formed', rfl, live⟩
    have complete : Complete old new
        (root.record { transaction with phase := .committed }) := .inr live
    refine .bind (Steady.persist formed' (.inl safe) committed.safe ?_)
    exact Steady.clear committed.safe complete ⟨rfl, complete⟩
  · rename_i noShortcut
    apply recoverPhase found formed holds
    intro published sources
    obtain ⟨unquarantined, live, _⟩ := published_holds holds published
    have present : root.files? .credentials = some new := live
    have previous : root.held? transaction.previous = none := by
      rcases sources with both | both <;> exact both.1
    have cleanup : root.held? transaction.cleanup = none := by
      rcases sources with both | both <;> exact both.2
    simp [present, previous, cleanup, unquarantined, published] at noShortcut

section

variable (safe : Recoverable old new root)
include safe

theorem Safe.load {done}
    (holds : done root.transaction root) :
    Safe old new loadCredentialTransaction root done := by
  apply Outcomes.bind
  apply Steady.perform (fun _ => rfl) (.inl safe) (.inl safe)
  · rintro _ _ ⟨⟩
    cases found : root.transaction with
    | none =>
      rw [found] at holds
      exact .pure holds
    | some transaction =>
      rw [found] at holds
      rw [Recoverable, found] at safe
      simp only [validateCredentialTransaction_eq safe.1]
      exact .pure holds
  · rintro _ _ ⟨⟩

/-- Without a record only staging directories are swept. -/
theorem Safe.recover_unrecorded (unrecorded : root.transaction = none)
    (holds : ∀ reached, Agree root reached → done () reached) :
    Safe old new recoverCredentialSwap root done := by
  refine .bind (load safe ?_)
  rw [unrecorded]
  refine .bind (sweep safe ?_)
  exact fun reached agree => .pure (holds reached agree)

/-- A recovery that succeeds leaves a complete directory and no record. -/
theorem Safe.recoverCredentialSwap :
    Safe old new recoverCredentialSwap root (fun _ => Ended old new) := by
  refine .bind (load safe ?_)
  refine .bind (sweep safe ?_)
  intro reached agree
  have swept := safe.agree agree
  cases found : root.transaction with
  | none =>
    have unrecorded := agree.transaction.trans found
    rw [Recoverable, unrecorded] at swept
    exact .pure ⟨unrecorded, swept⟩
  | some transaction =>
    have recorded := agree.transaction.trans found
    rw [Recoverable, recorded] at swept
    exact recoverTransaction recorded swept.1 swept.2

end

end

end Jackin.Credentials
