import Mathlib
import Jackin.Config.Model

/-!
# Carrying out a journal

A journal leads to a goal, a content or an absence for each configuration
file.  An entry that writes a file is still staged, or its target is as the
goal wants it; an entry that deletes a file can be carried out at any time.
Carrying out an entry, once or again, keeps all of this, so a recovery may
stop anywhere and a later one starts over.
-/

namespace Jackin.Config

open List Foundation Script

variable {Content Digest : Type} {done : Unit → Disk Content → Prop}
    {stop : Disk Content → Prop}
    {name : FileName} {listed : List FileName}

namespace Disk

variable (disk : Disk Content)

@[simp]
theorem node?_store :
    (disk.store name node).node? other = if other = name then some node else disk.node? other :=
  Directory.node?_store

@[simp]
theorem node?_drop :
    (disk.drop name).node? other = if other = name then none else disk.node? other :=
  Directory.node?_drop

@[simp]
theorem node?_move :
    (disk.move source target node).node? other =
      if other = target then some node
      else if other = source then none else disk.node? other :=
  Directory.node?_move

/-- The file that is published under a configuration name. -/
def config? (name : ConfigName) : Option (Node Content) :=
  disk.node? (.published (.config name))

def journal? : Option (Node Content) := disk.node? (.published .journal)

/-- Every configuration file is as given. -/
def Has (goal : ConfigName → Option (Node Content)) : Prop :=
  ∀ name, disk.config? name = goal name

end Disk

/-! ## Journals that lead somewhere -/

/-- The published file an entry of a journal is about. -/
def PublicationOp.about : PublicationOp Digest → Published
  | .write target _ _ => target.about
  | .delete target => target.about

variable (coding : Coding Content Digest)
    (goal : ConfigName → Option (Node Content))

/-- The entry can be carried out, and gets its file to the goal. -/
def PublicationOp.Leads (disk : Disk Content) : PublicationOp Digest → Prop
  | .write target tmp expected =>
    ∃ name pid counter content, target = .published (.config name) ∧
        tmp = .staged (.config name) pid counter ∧
        coding.digest content = expected ∧
        goal name = some (.file content) ∧
        (disk.node? tmp = some (.file content) ∨
          disk.node? tmp = none ∧ disk.config? name = some (.file content))
  | .delete target => ∃ name, target = .published (.config name) ∧ goal name = none

/-- The file of the entry is at the goal. -/
def PublicationOp.Done (disk : Disk Content)
    (op : PublicationOp Digest) : Prop :=
  ∀ name, op.about = .config name → disk.config? name = goal name

/-- The entries of a journal get every configuration file to the goal. -/
structure Toward (ops : List (PublicationOp Digest))
    (disk : Disk Content) : Prop where
  leads : ∀ op ∈ ops, op.Leads coding goal disk
  apart : (ops.map PublicationOp.about).Nodup
  rest : ∀ name, .config name ∉ ops.map PublicationOp.about → disk.config? name = goal name

/-- A journal that leads to the goal is in place. -/
structure Underway (ops : List (PublicationOp Digest))
    (disk : Disk Content) : Prop where
  toward : Toward coding goal ops disk
  journal : disk.journal? = some (.file (coding.encode ⟨publicationJournalVersion, ops⟩))

variable {coding goal}

/-- Two disks that differ only in files that belong to one published file. -/
def Beside (file : Published) (first second : Disk Content) : Prop :=
  ∀ name : FileName, name.about ≠ file → second.node? name = first.node? name

variable {op : PublicationOp Digest} {ops : List (PublicationOp Digest)}
    {disk reached : Disk Content} {file : Published}

theorem PublicationOp.Leads.is_config (leads : op.Leads coding goal disk) :
    ∃ name, op.about = .config name := by
  cases op with
  | write target tmp expected =>
    obtain ⟨name, _, _, _, rfl, _⟩ := leads
    exact ⟨name, rfl⟩
  | delete target =>
    obtain ⟨name, rfl, _⟩ := leads
    exact ⟨name, rfl⟩

theorem PublicationOp.Leads.beside (leads : op.Leads coding goal disk)
    (beside : Beside file disk reached) (elsewhere : op.about ≠ file) :
    op.Leads coding goal reached := by
  cases op with
  | delete target => exact leads
  | write target tmp expected =>
    obtain ⟨name, pid, counter, content, rfl, rfl, digest, wanted, staged⟩ := leads
    have sameTmp := beside (.staged (.config name) pid counter) elsewhere
    have sameTarget := beside (.published (.config name)) elsewhere
    refine ⟨name, pid, counter, content, rfl, rfl, digest, wanted, ?_⟩
    unfold Disk.config? at staged ⊢
    rwa [sameTmp, sameTarget]

theorem PublicationOp.Done.beside (done : op.Done goal disk)
    (beside : Beside file disk reached)
    (elsewhere : op.about ≠ file) : op.Done goal reached := by
  intro name about
  have same : reached.config? name = disk.config? name :=
    beside _ (by rw [← about] at *; exact fun here => elsewhere here)
  rw [same]
  exact done name about

/-- Whatever is done for one entry keeps the journal going. -/
theorem Toward.change (toward : Toward coding goal ops disk) (member : op ∈ ops)
    (beside : Beside op.about disk reached)
    (leads : op.Leads coding goal reached) :
    Toward coding goal ops reached where
  apart := toward.apart
  leads := by
    intro entry entryMember
    by_cases same : entry.about = op.about
    · rwa [inj_on_of_nodup_map toward.apart entryMember member same]
    · exact (toward.leads entry entryMember).beside beside same
  rest := by
    intro name unlisted
    have elsewhere : Published.config name ≠ op.about := by
      intro same
      exact unlisted (same ▸ mem_map_of_mem member)
    have unchanged : reached.config? name = disk.config? name := beside _ elsewhere
    rw [unchanged]
    exact toward.rest name unlisted

theorem Underway.change (underway : Underway coding goal ops disk)
    (member : op ∈ ops)
    (beside : Beside op.about disk reached)
    (leads : op.Leads coding goal reached) :
    Underway coding goal ops reached where
  toward := underway.toward.change member beside leads
  journal := by
    obtain ⟨_, about⟩ := leads.is_config
    have same : reached.journal? = disk.journal? :=
      beside _ (by rw [about]; exact nofun)
    rw [same]
    exact underway.journal

/-- A script that ends well and stops only at good disks, come what may. -/
abbrev Always {Value : Type} (stop : Disk Content → Prop)
    (script : Action Content Value)
    (disk : Disk Content) (done : Value → Disk Content → Prop) : Prop :=
  Steady (fun _ => True) stop script disk done

theorem Always.settle (good : stop disk) (holds : done () disk) :
    Always stop (perform settle) disk done := by
  apply Steady.whole (fun _ => rfl) good good
  rintro _ _ ⟨⟩
  exact holds

theorem Always.syncParent (good : stop disk) (holds : done () disk) :
    Always stop syncParent disk done := by
  exact Outcomes.bind (Always.settle good (Always.settle good holds))

theorem Always.metadata {done}
    (good : stop disk) (holds : done (disk.node? name) disk) :
    Always stop (perform (metadata name)) disk done := by
  apply Steady.whole (fun _ => rfl) good good
  rintro _ _ ⟨⟩
  exact holds

theorem readFile_complete : ((readFile name).complete disk).2 = disk := by
  simp only [readFile]
  split <;> rfl

theorem Always.readFile {done} (good : stop disk)
    (holds : ∀ content, disk.node? name = some (.file content) → done content disk) :
    Always stop (perform (readFile name)) disk done := by
  apply Steady.whole (fun _ => rfl) good
  · rwa [readFile_complete]
  · intro content reached completed
    simp only [Config.readFile] at completed
    split at completed <;> cases completed
    exact holds content ‹_›

/-- A file is removed, was not there, or is still there. -/
theorem Always.removeFile {Value : Type} {next}
    {done : Value → Disk Content → Prop} (good : stop disk)
    (gone : stop (disk.drop name))
    (removed : Always stop (next (.ok ())) (disk.drop name) done)
    (missing : disk.node? name = none → Always stop (next (.error .notFound)) disk done)
    (kept : Always stop (next (.error .io)) disk done) :
    Always stop (attempt (perform (removeFile name)) >>= next) disk done := by
  cases found : disk.node? name with
  | none =>
    have completed : (Config.removeFile name).complete disk =
        (.error .notFound, disk) := by
      simp only [Config.removeFile, found]
    exact .attemptWhole (fun _ => rfl) completed good good (missing found) kept
  | some node =>
    cases node with
    | file content =>
      have completed : (Config.removeFile name).complete disk =
          (.ok (), disk.drop name) := by
        simp only [Config.removeFile, found]
      exact .attemptWhole (fun _ => rfl) completed good gone removed kept
    | directory =>
      have completed : (Config.removeFile name).complete disk =
          (.error .io, disk) := by
        simp only [Config.removeFile, found]
      exact .attemptWhole (fun _ => rfl) completed good good kept kept

theorem Always.rename (good : stop disk) (found : disk.node? source = some node)
    (after : stop (disk.move source target node))
    (holds : done () (disk.move source target node)) :
    Always stop (perform (rename source target)) disk done := by
  rcases Directory.renameNode_found found with refused | moved
  · apply Steady.whole (fun _ => rfl) good
    all_goals rw [Config.rename, refused]
    · exact good
    · rintro _ _ ⟨⟩
  · apply Steady.whole (fun _ => rfl) good
    all_goals rw [Config.rename, moved]
    · exact after
    · rintro _ _ ⟨⟩
      exact holds

/-! ## Carrying out one entry -/

theorem Beside.refl : Beside file disk disk := fun _ _ => rfl

theorem Beside.drop (disk : Disk Content) (name : FileName) :
    Beside name.about disk (disk.drop name) := by
  intro other elsewhere
  rw [Disk.node?_drop, if_neg]
  rintro rfl
  exact elsewhere rfl

theorem Beside.move (disk : Disk Content) (node : Node Content)
    (source target : FileName) (same : source.about = target.about) :
    Beside target.about disk (disk.move source target node) := by
  intro other elsewhere
  rw [Disk.node?_move, if_neg, if_neg]
  · rintro rfl
    exact elsewhere same
  · rintro rfl
    exact elsewhere rfl

/-- What an entry of the journal has done when it has succeeded. -/
structure Applied (coding : Coding Content Digest)
    (goal : ConfigName → Option (Node Content))
    (ops : List (PublicationOp Digest)) (op : PublicationOp Digest)
    (disk reached : Disk Content) : Prop where
  underway : Underway coding goal ops reached
  done : op.Done goal reached
  beside : Beside op.about disk reached

theorem Always.verify [DecidableEq Digest]
    (good : stop disk) (holds : done () disk) :
    Always stop (verifyPublicationBytes coding name expected) disk done := by
  apply Outcomes.bind
  apply Always.readFile good
  intro content _
  unfold ensure
  split
  · exact .pure holds
  · exact .fail good

theorem Always.replaceable (good : stop disk) (holds : done () disk) :
    Always stop (ensureReplaceableTarget name) disk done := by
  apply Outcomes.bind
  apply Always.metadata good
  split
  · exact .fail good
  · exact .pure holds

section

variable (underway : Underway coding goal ops disk)
include underway

theorem Underway.applyWrite [DecidableEq Digest]
    (member : .write target tmp expected ∈ ops) :
    Always (Underway coding goal ops) (applyWrite coding target tmp expected) disk (fun _ =>
        Applied coding goal ops (.write target tmp expected) disk) := by
  obtain ⟨name, pid, counter, content, rfl, rfl, digest, wanted, staged⟩ :=
    underway.toward.leads _ member
  refine .ensure (fun _ => ?_) fun _ => underway
  apply Outcomes.glance
  rcases staged with present | ⟨absent, published⟩
  · generalize moved : disk.move (.staged (.config name) pid counter)
      (.published (.config name)) (.file content) = reached
    have beside : Beside (.config name) disk reached := by
      rw [← moved]
      exact Beside.move disk _ _ (.published (.config name)) rfl
    have config : reached.config? name = some (.file content) := by simp [← moved, Disk.config?]
    have renamed : Underway coding goal ops reached := by
      apply underway.change member beside
      refine ⟨name, pid, counter, content, rfl, rfl, digest, wanted, .inr ⟨?_, config⟩⟩
      simp [← moved]
    rw [present, Option.isSome_some]
    refine .bind (Always.verify underway ?_)
    refine .bind (Always.replaceable underway ?_)
    apply Outcomes.bind
    apply Always.rename underway present
    · rwa [moved]
    · rw [moved]
      apply Always.syncParent renamed
      refine ⟨renamed, ?_, beside⟩
      rintro _ ⟨⟩
      rw [config, wanted]
  · rw [absent, Option.isSome_none]
    apply Outcomes.glance
    split
    · refine .bind (Always.verify underway ?_)
      apply Always.syncParent underway
      refine ⟨underway, ?_, Beside.refl⟩
      rintro _ ⟨⟩
      rw [published, wanted]
    · exact .fail underway

theorem Underway.applyDelete (member : .delete target ∈ ops) :
    Always (Underway coding goal ops) (applyDelete target) disk
      (fun _ => Applied coding goal ops (.delete target) disk) := by
  obtain ⟨name, rfl, wanted⟩ := underway.toward.leads _ member
  have beside := Beside.drop disk (.published (.config name))
  have removed : Underway coding goal ops (disk.drop (.published (.config name))) :=
    underway.change member beside ⟨name, rfl, wanted⟩
  apply Always.removeFile underway removed
  · apply Always.syncParent removed
    refine ⟨removed, ?_, beside⟩
    rintro _ ⟨⟩
    rw [wanted]
    simp [Disk.config?]
  · intro absent
    apply Always.syncParent underway
    refine ⟨underway, ?_, Beside.refl⟩
    rintro _ ⟨⟩
    rwa [wanted]
  · exact .fail underway

theorem Underway.applyOp [DecidableEq Digest] (member : op ∈ ops) :
    Always (Underway coding goal ops) (applyPublicationOp coding op) disk
      (fun _ => Applied coding goal ops op disk) := by
  cases op with
  | write target tmp expected => exact underway.applyWrite member
  | delete target => exact underway.applyDelete member

end

/-- Entries done before stay done. -/
theorem Applied.done_of_mem (applied : Applied coding goal ops op disk reached)
    (member : op ∈ ops)
    (otherMember : other ∈ ops)
    (done : other.Done goal disk) : other.Done goal reached := by
  by_cases same : other.about = op.about
  · rw [inj_on_of_nodup_map applied.underway.toward.apart otherMember member same]
    exact applied.done
  · exact done.beside applied.beside same

/-- Every entry that is not left to do is done. -/
def DoneBut (goal : ConfigName → Option (Node Content))
    (ops left : List (PublicationOp Digest)) (disk : Disk Content) : Prop :=
  ∀ op ∈ ops, op ∈ left ∨ op.Done goal disk

theorem Applied.doneBut (applied : Applied coding goal ops op disk reached)
    (member : op ∈ ops)
    (doneBut : DoneBut goal ops (op :: left) disk) :
    DoneBut goal ops left reached := by
  intro entry entryMember
  rcases doneBut entry entryMember with listed | done
  · rcases mem_cons.mp listed with rfl | later
    · exact .inr applied.done
    · exact .inl later
  · exact .inr (applied.done_of_mem member entryMember done)

theorem Underway.applyAll [DecidableEq Digest]
    (underway : Underway coding goal ops disk)
    (doneBut : DoneBut goal ops left disk) (within : ∀ op ∈ left, op ∈ ops) :
    Always (Underway coding goal ops) (applyAll coding left) disk
      (fun _ reached => Underway coding goal ops reached ∧ DoneBut goal ops [] reached) := by
  induction left generalizing disk with
  | nil => exact .pure ⟨underway, doneBut⟩
  | cons op rest ih =>
    have member := within op mem_cons_self
    refine .bind (underway.applyOp member) (fun _ => id) fun _ reached applied => ?_
    exact ih applied.underway (applied.doneBut member doneBut)
      (fun entry later => within entry (mem_cons_of_mem _ later))

/-- When every entry is done, everything is at the goal. -/
theorem Toward.has (toward : Toward coding goal ops disk)
    (done : DoneBut goal ops [] disk) : disk.Has goal := by
  intro name
  by_cases listed : Published.config name ∈ ops.map PublicationOp.about
  · obtain ⟨op, member, about⟩ := mem_map.mp listed
    rcases done op member with absurd | done
    · cases absurd
    · exact done name about
  · exact toward.rest name listed

/-! ## Sweeping and recovering -/

/-- Only temporary files that are not listed may have gone. -/
def Swept (listed : List FileName) (first second : Disk Content) : Prop :=
  ∀ name, isStagedGarbage name = false ∨ name ∈ listed → second.node? name = first.node? name

theorem Swept.refl : Swept listed disk disk := fun _ _ => rfl

section

variable (swept : Swept listed disk reached)
include swept

theorem Swept.drop (garbage : isStagedGarbage name ∧ name ∉ listed) :
    Swept listed disk (reached.drop name) := by
  intro other kept
  rw [Disk.node?_drop, if_neg]
  · exact swept other kept
  · rintro rfl
    rcases kept with published | member
    · rw [garbage.1] at published
      cases published
    · exact garbage.2 member

theorem collectListed_sweeps :
    Always (Swept listed disk)
    (collectListed listed names : Action Content Unit)
      reached (fun _ => Swept listed disk) := by
  induction names generalizing reached with
  | nil => exact .pure swept
  | cons name rest ih =>
    unfold collectListed
    split
    · rename_i garbage
      have dropped := swept.drop garbage
      exact .removeFile swept dropped (ih dropped) (fun _ => ih swept) (ih swept)
    · exact ih swept

theorem collectFolder_sweeps :
    Always (Swept listed disk)
    (collectFolder listed folder : Action Content Unit)
      reached (fun _ => Swept listed disk) := by
  have completed : (readFolder folder).complete reached =
      (.ok (reached.directory.names.filter (·.parent = folder)), reached) :=
    rfl
  exact .attemptWhole (fun _ => rfl) completed swept swept
    (collectListed_sweeps swept) (.pure swept)

end

theorem collectStagedGarbage_sweeps (listed : List FileName)
    (disk : Disk Content) :
    Always (Swept listed disk)
    (collectStagedGarbage listed : Action Content Unit)
      disk (fun _ => Swept listed disk) := by
  refine .bind (collectFolder_sweeps Swept.refl) (fun _ => id) fun _ reached swept => ?_
  exact collectFolder_sweeps swept

theorem Swept.config? (swept : Swept listed disk reached) (name : ConfigName) :
    reached.config? name = disk.config? name :=
  swept _ (.inl rfl)

theorem Swept.journal? (swept : Swept listed disk reached) :
    reached.journal? = disk.journal? :=
  swept _ (.inl rfl)

/-- Only the published files and what the journal lists matter. -/
structure Alike (ops : List (PublicationOp Digest))
    (first second : Disk Content) : Prop where
  published : ∀ file, second.node? (.published file) = first.node? (.published file)
  listed : ∀ tmp ∈ ops.filterMap PublicationOp.tmp?, second.node? tmp = first.node? tmp

theorem Swept.alike (swept : Swept (ops.filterMap PublicationOp.tmp?) disk reached) :
    Alike ops disk reached :=
  ⟨fun _ => swept _ (.inl rfl), fun tmp listed => swept tmp (.inr listed)⟩

theorem Toward.alike (toward : Toward coding goal ops disk)
    (alike : Alike ops disk reached) : Toward coding goal ops reached where
  apart := toward.apart
  leads := by
    intro op member
    have leads := toward.leads op member
    cases op with
    | delete target => exact leads
    | write target tmp expected =>
      have listed : tmp ∈ ops.filterMap PublicationOp.tmp? :=
        mem_filterMap.mpr ⟨_, member, rfl⟩
      obtain ⟨name, pid, counter, content, rfl, rfl, digest, wanted, staged⟩ := leads
      refine ⟨name, pid, counter, content, rfl, rfl, digest, wanted, ?_⟩
      unfold Disk.config? at staged ⊢
      rwa [alike.listed _ listed, alike.published]
  rest := by
    intro name unlisted
    rw [← toward.rest name unlisted]
    exact alike.published _

theorem Underway.alike (underway : Underway coding goal ops disk)
    (alike : Alike ops disk reached) : Underway coding goal ops reached :=
  ⟨underway.toward.alike alike, (alike.published .journal).trans underway.journal⟩

section

variable (coding) (old new : ConfigName → Option (Node Content))

/-- No journal is left, and all files are old or all are new. -/
structure Ended (disk : Disk Content) : Prop where
  journal : disk.journal? = none
  has : disk.Has old ∨ disk.Has new

/-- The next recovery gets everything to the old or to the new state. -/
def Recoverable (disk : Disk Content) : Prop :=
  Ended old new disk ∨ ∃ ops, Underway coding old ops disk ∨ Underway coding new ops disk

variable {coding old new}

/-- The journal is removed when everything is at the goal. -/
theorem Underway.removeJournal (good : stop disk)
    (gone : stop (disk.drop (.published .journal)))
    (present : disk.journal? ≠ none)
    (holds : done () (disk.drop (.published .journal))) :
    Always stop removePublicationJournal disk done := by
  apply Always.removeFile good gone
  · exact .syncParent gone holds
  · intro absent
    exact absurd absent present
  · exact .fail good

theorem Disk.Has.drop_journal (has : disk.Has goal) :
    (disk.drop (.published .journal)).Has goal := by
  intro name
  rw [← has name]
  simp [Disk.config?]

theorem Recoverable.of_goal (journal : disk.journal? = none)
    (either : goal = old ∨ goal = new)
    (has : disk.Has goal) : Recoverable coding old new disk := by
  rcases either with rfl | rfl
  · exact .inl ⟨journal, .inl has⟩
  · exact .inl ⟨journal, .inr has⟩

theorem Underway.recoverable (either : goal = old ∨ goal = new)
    (underway : Underway coding goal ops disk) :
    Recoverable coding old new disk := by
  rcases either with rfl | rfl
  · exact .inr ⟨ops, .inl underway⟩
  · exact .inr ⟨ops, .inr underway⟩

theorem Underway.recover [DecidableEq Digest] (either : goal = old ∨ goal = new)
    (underway : Underway coding goal ops disk) :
    Always (Recoverable coding old new)
      (recoverJournal coding ⟨publicationJournalVersion, ops⟩) disk (fun _ => Ended old new) := by
  refine .ensure (fun _ => ?_) fun different => absurd rfl different
  apply Steady.bind (underway.applyAll (fun _ => .inl)
    (fun _ => id)) (fun _ => Underway.recoverable either)
  rintro _ applied ⟨underway, done⟩
  have has := underway.toward.has done
  apply Steady.bind (collectStagedGarbage_sweeps _ applied)
    (fun _ swept => (underway.alike swept.alike).recoverable either)
  intro _ reached swept
  have hasStill : reached.Has goal := by
    intro name
    rw [swept.config?]
    exact has name
  have underway := underway.alike swept.alike
  have journal : (reached.drop (.published .journal)).journal? = none := by simp [Disk.journal?]
  apply Underway.removeJournal (underway.recoverable either)
  · exact Recoverable.of_goal journal either hasStill.drop_journal
  · rw [underway.journal]
    exact nofun
  · refine ⟨journal, ?_⟩
    rcases either with rfl | rfl
    · exact .inl hasStill.drop_journal
    · exact .inr hasStill.drop_journal

/-- A recovery that succeeds leaves the old or the new state as a whole. -/
theorem Recoverable.recover [DecidableEq Digest]
    (recoverable : Recoverable coding old new disk) :
    Always (Recoverable coding old new) (recoverPendingPublication coding)
      disk (fun _ => Ended old new) := by
  have stopped := recoverable
  rcases recoverable with ⟨journal, has⟩ | ⟨ops, underway⟩
  · have completed : (readFile (.published .journal)).complete disk =
        (.error .notFound, disk) := by
      unfold Disk.journal? at journal
      simp only [readFile, journal]
    have ended : ∀ reached, Swept [] disk reached → Ended old new reached := by
      intro reached swept
      refine ⟨swept.journal?.trans journal, has.imp ?_ ?_⟩
      · exact fun has name => (swept.config? name).trans (has name)
      · exact fun has name => (swept.config? name).trans (has name)
    apply Steady.attemptWhole (fun _ => rfl) completed stopped stopped
    · exact (collectStagedGarbage_sweeps [] disk).imply (fun _ reached => ended reached)
        (fun _ reached swept => .inl (ended reached swept))
        (fun reached swept => .inl (ended reached swept))
    · exact .fail stopped
  · obtain ⟨goal, either, underway⟩ : ∃ goal, (goal = old ∨ goal = new) ∧
        Underway coding goal ops disk := by
      rcases underway with underway | underway
      · exact ⟨old, .inl rfl, underway⟩
      · exact ⟨new, .inr rfl, underway⟩
    have journal := underway.journal
    have completed : (readFile (.published .journal)).complete disk =
        (.ok (coding.encode ⟨publicationJournalVersion, ops⟩), disk) := by
      unfold Disk.journal? at journal
      simp only [readFile, journal]
    apply Steady.attemptWhole (fun _ => rfl) completed stopped stopped
    · simp only [coding.decode_encode]
      exact underway.recover either
    · exact .fail stopped

end

end Jackin.Config
