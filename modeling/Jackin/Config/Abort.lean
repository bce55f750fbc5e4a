import Jackin.Config.Commit

/-!
# Aborted commits

An abort stages the old content of every target that was published, under
names of its own, and then replaces the journal by one that puts them back.
Up to that moment the journal of the commit is in place and leads forward;
from then on the new one leads back.
-/

namespace Jackin.Config

open List Foundation Script

variable {Content Digest : Type} {coding : Coding Content Digest}
    {start begun disk : Disk Content}
    {items : List (Published × TargetState Content)}

/-- A published target with the state it had. -/
def Restorable (start : Disk Content)
    (item : Published × TargetState Content) : Prop :=
  ∃ name, item.1 = .config name ∧ item.2.Describes (start.config? name)

/-- Entries that lead back, with temporary files of their own. -/
structure WayBack (coding : Coding Content Digest) (start : Disk Content)
    (items : List (Published × TargetState Content))
    (ops : List (PublicationOp Digest)) (begun disk : Disk Content) : Prop where
  about : ops.map PublicationOp.about = items.map Prod.fst
  leads : ∀ op ∈ ops, op.Leads coding start.config? disk
  kept : ∀ tmp ∈ ops.filterMap PublicationOp.tmp?, ¬disk.Reserves tmp
  fresh : ∀ tmp ∈ ops.filterMap PublicationOp.tmp?, begun.Reserves tmp

theorem PublicationOp.Leads.grows {op : PublicationOp Digest}
    (leads : op.Leads coding goal disk)
    (kept : ∀ tmp ∈ op.tmp?, ¬disk.Reserves tmp)
    (grows : Grows disk reached) : op.Leads coding goal reached := by
  cases op with
  | delete target => exact leads
  | write target tmp expected =>
    obtain ⟨name, pid, counter, content, rfl, rfl, digest, wanted, staged⟩ := leads
    refine ⟨name, pid, counter, content, rfl, rfl, digest, wanted, ?_⟩
    rwa [grows.nodes _ (kept _ rfl) nofun, grows.config?]

theorem WayBack.grows
    (back : WayBack coding start items ops begun disk)
    (grows : Grows disk reached) :
    WayBack coding start items ops begun reached where
  about := back.about
  leads := fun op member => (back.leads op member).grows
    (fun tmp named => back.kept tmp (mem_filterMap.mpr ⟨op, member, named⟩)) grows
  kept := fun tmp listed reserved => back.kept tmp listed (grows.reserves reserved)
  fresh := back.fresh

/-- What staging the way back leaves. -/
structure Restored (coding : Coding Content Digest) (start : Disk Content)
    (items : List (Published × TargetState Content))
    (restores : Restores Content Digest)
    (begun disk : Disk Content) : Prop where
  grown : Grown begun disk
  staged : ∀ write ∈ restores.staged, begun.Reserves write.tmp
  back : restores.errors = [] → WayBack coding start items restores.ops begun disk

theorem restoreTarget_restored (restorable : Restorable start (target, original))
    (disk : Disk Content) :
    Always (Grown disk) (restoreTarget coding target original) disk
      (fun restores => Restored coding start [(target, original)] restores disk) := by
  obtain ⟨name, rfl, describes⟩ := restorable
  cases original with
  | missing =>
    apply Outcomes.pure
    refine ⟨Grown.refl disk, forall_mem_nil _, fun _ => ?_⟩
    refine ⟨rfl, ?_, forall_mem_nil _, forall_mem_nil _⟩
    intro op member
    obtain rfl := mem_singleton.mp member
    exact ⟨name, rfl, describes⟩
  | other =>
    apply Outcomes.pure
    exact ⟨Grown.refl disk, forall_mem_nil _, fun clean => absurd clean (cons_ne_nil _ _)⟩
  | file contents =>
    apply Steady.attempt (stage_grows coding (.config name) contents disk) (fun _ => id)
    · rintro staged reached ⟨grown, prepared⟩
      have tmp := prepared.tmp
      have content := prepared.content
      rw [tmp] at content
      apply Outcomes.pure
      refine ⟨grown, ?_, fun _ => ⟨?_, ?_, ?_, ?_⟩⟩
      · intro write member
        obtain rfl := mem_singleton.mp member
        exact prepared.reserved
      · simp [StagedWrite.op, PublicationOp.about, FileName.about, prepared.target]
      · intro op member
        obtain rfl := mem_singleton.mp member
        exact ⟨name, disk.pid, disk.counter, contents, by rw [prepared.target], tmp,
          prepared.digest.symm, describes, .inl (by rw [tmp]; exact content)⟩
      · intro other listed
        obtain rfl : other = staged.tmp := by
          simpa [StagedWrite.op, PublicationOp.tmp?] using listed
        rw [tmp]
        rintro ⟨_, _, same, later⟩
        rw [FileName.staged.injEq] at same
        have used := prepared.used
        omega
      · intro other listed
        obtain rfl : other = staged.tmp := by
          simpa [StagedWrite.op, PublicationOp.tmp?] using listed
        exact prepared.reserved
    · intro failure reached grown
      apply Outcomes.pure
      exact ⟨grown, forall_mem_nil _, fun clean => absurd clean (cons_ne_nil _ _)⟩

theorem Restored.join (one : Restored coding start [item] first begun disk)
    (rest : Restored coding start items others disk reached) :
    Restored coding start (item :: items) (first.join others) begun reached where
  grown := one.grown.trans rest.grown
  staged := by
    intro write member
    rcases mem_append.mp member with here | later
    · exact one.staged write here
    · exact one.grown.reserves (rest.staged write later)
  back := by
    intro clean
    obtain ⟨cleanOne, cleanRest⟩ := append_eq_nil_iff.mp clean
    have back := (one.back cleanOne).grows rest.grown.toGrows
    have backRest := rest.back cleanRest
    refine ⟨?_, ?_, ?_, ?_⟩
    · simp [Restores.join, back.about, backRest.about]
    · intro op member
      rcases mem_append.mp member with here | later
      · exact back.leads op here
      · exact backRest.leads op later
    · intro tmp listed
      simp only [Restores.join, filterMap_append, mem_append] at listed
      exact listed.elim (back.kept tmp) (backRest.kept tmp)
    · intro tmp listed
      simp only [Restores.join, filterMap_append, mem_append] at listed
      exact listed.elim (back.fresh tmp)
        (fun later => one.grown.reserves (backRest.fresh tmp later))

theorem restoreTargets_restored
    (restorable : ∀ item ∈ items, Restorable start item) (disk : Disk Content) :
    Always (Grown disk) (restoreTargets coding items) disk
      (fun restores => Restored coding start items restores disk) := by
  induction items generalizing disk with
  | nil =>
    apply Outcomes.pure
    refine ⟨Grown.refl disk, forall_mem_nil _, fun _ => ?_⟩
    exact ⟨rfl, forall_mem_nil _, forall_mem_nil _, forall_mem_nil _⟩
  | cons item items ih =>
    apply Steady.bind (restoreTarget_restored (restorable item mem_cons_self) disk) (fun _ => id)
    intro first middle one
    apply Steady.bind (ih (fun other later => restorable other (mem_cons_of_mem _ later))
      middle) (fun _ grown => one.grown.trans grown)
    intro others reached rest
    exact .pure (one.join rest)

section

variable {ops : List (PublicationOp Digest)}
    {writes : List (StagedWrite Content Digest)}

/-- What a commit has staged is not reserved any more. -/
theorem WriteStaged.not_reserved (staged : WriteStaged coding start write)
    (counter : start.counter ≤ disk.counter) : ¬disk.Reserves write.tmp := by
  obtain ⟨_, tmp, _⟩ := staged.tmp
  rw [tmp]
  rintro ⟨_, later, same, above⟩
  rw [FileName.staged.injEq] at same
  omega

theorem Progress.grows (progress : Progress start writes deletes disk)
    (staged : StagedOn coding start writes deletes)
    (grows : Grows disk reached) : Progress start writes deletes reached := by
  have published : ∀ name, reached.node? (.published (.config name)) =
      disk.node? (.published (.config name)) := grows.config?
  refine ⟨grows.pid.trans progress.pid, Nat.le_trans progress.counter grows.counter, ?_, ?_, ?_⟩
  · intro write member
    have known := staged.written write member
    obtain ⟨name, target⟩ := known.config
    have sameTmp : reached.node? write.tmp = disk.node? write.tmp := by
      apply grows.nodes _ (known.not_reserved progress.counter)
      obtain ⟨_, tmp, _⟩ := known.tmp
      rw [tmp]
      exact nofun
    have holds := progress.written write member
    rw [WriteAt, target] at holds ⊢
    rwa [sameTmp, published]
  · intro delete member
    obtain ⟨name, target⟩ := (staged.deleted delete member).config
    have holds := progress.deleted delete member
    rw [DeleteAt, target] at holds ⊢
    rwa [published]
  · intro name unlisted
    rw [grows.config?]
    exact progress.others name unlisted

theorem Journaled.grown (journaled : Journaled coding start new forward writes deletes disk)
    (grown : Grown disk reached) :
    Journaled coding start new forward writes deletes reached :=
  { journaled with
    progress := journaled.progress.grows journaled.staged grown.toGrows
    journal := grown.journal.trans journaled.journal }

theorem StagedOn.restorable (staged : StagedOn coding start writes deletes) :
    ∀ item ∈ publishedTargets writes deletes, Restorable start item := by
  intro item member
  rcases mem_append.mp member with deleted | written
  · obtain ⟨delete, listed, rfl⟩ := mem_map.mp deleted
    have known := staged.deleted delete (mem_reverse.mp (mem_of_mem_filter listed))
    obtain ⟨name, target⟩ := known.config
    have original := known.original
    rw [target] at original
    exact ⟨name, target, original⟩
  · obtain ⟨write, listed, rfl⟩ := mem_map.mp written
    have known := staged.written write (mem_reverse.mp (mem_of_mem_filter listed))
    obtain ⟨name, target⟩ := known.config
    have original := known.original
    rw [target] at original
    exact ⟨name, target, original⟩

theorem publishedTargets_fst :
    (publishedTargets writes deletes).map Prod.fst =
      (deletes.reverse.filter (·.committed)).map StagedDelete.target ++
        (writes.reverse.filter (·.committed)).map StagedWrite.target := by
  simp only [publishedTargets, map_append, map_map]
  rfl

theorem StagedOn.published_apart (staged : StagedOn coding start writes deletes) :
    ((publishedTargets writes deletes).map Prod.fst).Nodup := by
  obtain ⟨written, deleted, separate⟩ := nodup_append.mp staged.apart
  have some_deleted := ((filter_sublist
    (l := deletes.reverse) (p := (·.committed))).map StagedDelete.target)
  have some_written := ((filter_sublist
    (l := writes.reverse) (p := (·.committed))).map StagedWrite.target)
  rw [publishedTargets_fst]
  apply nodup_append.mpr
  refine ⟨some_deleted.nodup ?_, some_written.nodup ?_, ?_⟩
  · rw [map_reverse]
    exact nodup_reverse.mpr deleted
  · rw [map_reverse]
    exact nodup_reverse.mpr written
  · intro first firstMember second secondMember same
    have inDeletes := some_deleted.subset firstMember
    have inWrites := some_written.subset secondMember
    rw [map_reverse, mem_reverse] at inDeletes inWrites
    exact separate _ inWrites _ inDeletes same.symm

/-- What was not published is as it was. -/
theorem Progress.unpublished (progress : Progress start writes deletes disk)
    (unlisted : .config name ∉ (publishedTargets writes deletes).map Prod.fst) :
    disk.config? name = start.config? name := by
  rw [publishedTargets_fst] at unlisted
  by_cases target : Published.config name ∈ targets writes deletes
  · rcases mem_append.mp target with written | deleted
    · obtain ⟨write, member, same⟩ := mem_map.mp written
      have holds := progress.written write member
      unfold WriteAt at holds
      split at holds
      · rename_i committed
        refine absurd (mem_append_right _ ?_) unlisted
        exact mem_map.mpr ⟨write, mem_filter.mpr ⟨mem_reverse.mpr member, committed⟩, same⟩
      · rw [same] at holds
        exact holds.2
    · obtain ⟨delete, member, same⟩ := mem_map.mp deleted
      have holds := progress.deleted delete member
      unfold DeleteAt at holds
      split at holds
      · rename_i committed
        refine absurd (mem_append_left _ ?_) unlisted
        exact mem_map.mpr ⟨delete, mem_filter.mpr ⟨mem_reverse.mpr member, committed⟩, same⟩
      · rwa [same] at holds
  · exact progress.others name target

/-- Once the new journal is in place, it leads back. -/
theorem Journaled.turned (journaled : Journaled coding start new forward writes deletes begun)
    (back : WayBack coding start (publishedTargets writes deletes) ops begun
      disk) (grown : Grown begun disk) (grows : Grows disk reached)
    (journal : reached.journal? = some (.file (coding.encode ⟨publicationJournalVersion, ops⟩))) :
    Underway coding start.config? ops reached where
  journal := journal
  toward := {
    leads := (back.grows grows).leads
    apart := by
      rw [back.about]
      exact journaled.staged.published_apart
    rest := by
      intro name unlisted
      rw [back.about] at unlisted
      rw [grows.config?, grown.toGrows.config?]
      exact journaled.progress.unpublished unlisted }

end

end Jackin.Config
