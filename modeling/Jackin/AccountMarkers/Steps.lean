import Jackin.AccountMarkers.Model
import Jackin.Foundation.Mortal

/-!
# What the steps of a transaction do

While the root is the one that was leased, the methods of a lease do what
their system calls do.  For entries that are as they should be, every step
has a known end; these facts are what the transaction is executed with.  An
entry about which nothing is known is either observed as it is or refused,
and in both cases left alone.
-/

namespace Jackin.AccountMarkers

open List Foundation Script MarkerPairLease

variable {reached : Disk} {stop : Disk → Prop} {Value : Type} {mode : Nat}

/-- A regular file of the user with one name. -/
def MarkerPairLease.own (lease : MarkerPairLease) (bytes : Bytes)
    (mode : Nat) : Inode :=
  ⟨.regular, mode, lease.euid, 1, bytes⟩

/-- The root is still the directory that was leased. -/
structure MarkerPairLease.Rooted (lease : MarkerPairLease) : Prop where
  described : lease.descriptor.directory ∧
    lease.descriptor.owner = lease.euid ∧ lease.descriptor.mode &&& 0o022 = 0
  named : lease.named.directory ∧ lease.named.owner = lease.euid ∧
    lease.named.mode &&& 0o022 = 0
  same : lease.descriptor.identity = lease.identity ∧ lease.named.identity = lease.identity

/-! ## Effects on the entries -/

namespace Disk

/-- An inode with a single link has a single name. -/
def Linked (disk : Disk) : Prop :=
  ∀ name other file inode, disk.leads name = some (file, inode) → inode.links ≤ 1 →
      disk.leads other = some (file, inode) → other = name

variable {disk : Disk}

@[simp]
theorem leads_record : (disk.record event).leads name = disk.leads name := rfl

theorem leads_enter (unused : fresh ∉ disk.volume.used) (name : EntryName)
    (inode : Inode) (other : EntryName) :
    (disk.enter name fresh inode).leads other =
      if other = name then some (fresh, inode) else disk.leads other :=
  Volume.leads_enter unused

/-- Move one name to a file that no name kept from before leads to. -/
theorem Linked.update (linked : disk.Linked) (name : EntryName) (file : File)
    (moved : ∀ number found, reached.leads name = some (number, found) → number = file)
    (others : ∀ other, other ≠ name → reached.leads other = none ∨
      reached.leads other = disk.leads other ∧ ∀ found, disk.leads other ≠ some (file, found)) :
    reached.Linked := by
  -- a name other than the moved one is as before and leads elsewhere
  have kept : ∀ other number found, other ≠ name → reached.leads other = some (number, found) →
        disk.leads other = some (number, found) ∧ number ≠ file := by
    intro other number found differs present
    rcases others other differs with gone | ⟨same, elsewhere⟩
    · rw [gone] at present
      cases present
    · rw [same] at present
      exact ⟨present, fun equal => elsewhere found (equal ▸ present)⟩
  intro first second number found here few there
  by_cases at_first : first = name
  · by_cases at_second : second = name
    · rw [at_first, at_second]
    · rw [at_first] at here
      exact absurd (moved _ _ here) (kept _ _ _ at_second there).2
  · by_cases at_second : second = name
    · rw [at_second] at there
      exact absurd (moved _ _ there) (kept _ _ _ at_first here).2
    · exact linked first second number found (kept _ _ _ at_first here).1 few
        (kept _ _ _ at_second there).1

/--
Nothing happened but under the given names; no journal was written and no
transaction committed on the way.
-/
structure Keeps (names : List EntryName) (disk reached : Disk) : Prop where
  linked : reached.Linked
  entries : ∀ other, other ∉ names → reached.leads other = disk.leads other
  log : ∀ event ∈ disk.log, event ∈ reached.log
  uncommitted : .renamed .next .transaction ∈ reached.log → .renamed .next .transaction ∈ disk.log
  unwritten : .written .transaction ∈ reached.log → .written .transaction ∈ disk.log

theorem Keeps.refl (linked : disk.Linked) : Keeps names disk disk :=
  ⟨linked, fun _ _ => rfl, fun _ => id, id, id⟩

theorem Keeps.trans (first : Keeps names disk reached)
    (second : Keeps names reached last) : Keeps names disk last where
  linked := second.linked
  entries := fun other outside => (second.entries other outside).trans (first.entries other outside)
  log := fun event member => second.log event (first.log event member)
  uncommitted := fun committed => first.uncommitted (second.uncommitted committed)
  unwritten := fun written => first.unwritten (second.unwritten written)

theorem Keeps.mono (keeps : Keeps names disk reached)
    (subset : names ⊆ more) : Keeps more disk reached where
  linked := keeps.linked
  entries := fun other outside => keeps.entries other (fun member => outside (subset member))
  log := keeps.log
  uncommitted := keeps.uncommitted
  unwritten := keeps.unwritten

/-- One name has changed, and leads to a file of its own if to any. -/
theorem Keeps.entry (linked : disk.Linked)
    (entries : ∀ other, reached.leads other = if other = name then now else disk.leads other)
    (only : ∀ entry, now = some entry → entry.1 = file)
    (elsewhere : ∀ other, other ≠ name → ∀ found, disk.leads other ≠ some (file, found))
    (log : reached.log = disk.log) : Keeps [name] disk reached where
  linked := by
    apply linked.update name file
    · intro number found there
      rw [entries, if_pos rfl] at there
      exact only _ there
    · intro other differs
      rw [entries, if_neg differs]
      exact .inr ⟨rfl, elsewhere other differs⟩
  entries := fun other outside => by
    rw [entries, if_neg (fun same => outside (mem_singleton.2 same))]
  log := fun _ member => log ▸ member
  uncommitted := fun committed => log ▸ committed
  unwritten := fun written => log ▸ written

section

variable (linked : disk.Linked) (present : disk.leads name = some (file, inode))
    (once : inode.links = 1)
include linked present once

/-- Two names lead to one file only if they lead to one inode. -/
theorem Linked.single (also : disk.leads other = some (file, found)) :
    other = name := by
  have same : found = inode := by rw [← Volume.node_of_entry also, Volume.node_of_entry present]
  exact linked name other file inode present (Nat.le_of_eq once) (same ▸ also)

/-- No other name leads to a file with a single link. -/
theorem Linked.elsewhere (other : EntryName) (differs : other ≠ name)
    (found : Inode) :
    disk.leads other ≠ some (file, found) :=
  fun also => differs (linked.single present once also)

/-- A file with one name is changed under that name only. -/
theorem leads_change (update : Inode → Inode) (other : EntryName) :
    (disk.change file update).leads other =
      if other = name then some (file, update inode)
      else disk.leads other := by
  simp only [leads, change, Volume.leads_change]
  split
  · next same => simp [same, present]
  · next differs =>
      cases found : disk.volume.leads other with
      | none => rfl
      | some entry =>
        have elsewhere : entry.1 ≠ file := by
          rintro rfl
          exact differs (linked.single present once found)
        simp [elsewhere]

theorem leads_unlink (other : EntryName) :
    (disk.unlink name file).leads other = if other = name then none else disk.leads other := by
  have changed := leads_change linked present once
    (fun inode => { inode with links := inode.links - 1 }) other
  simp only [leads, change, unlink, Volume.leads_change, Volume.leads_remove] at changed ⊢
  split
  · rfl
  · next differs => rwa [if_neg differs] at changed

theorem Keeps.change (update : Inode → Inode) :
    Keeps [name] disk (disk.change file update) :=
  .entry linked (leads_change linked present once update)
    (by rintro _ ⟨⟩; rfl) (linked.elsewhere present once) rfl

theorem Keeps.unlink : Keeps [name] disk (disk.unlink name file) :=
  .entry linked (leads_unlink linked present once) nofun (linked.elsewhere present once) rfl

end

theorem Keeps.enter (linked : disk.Linked) (unused : fresh ∉ disk.volume.used) :
    Keeps [name] disk (disk.enter name fresh inode) :=
  .entry linked (leads_enter unused name inode) (by rintro _ ⟨⟩; rfl)
    (fun _ _ _ there => unused (Volume.number_used there)) rfl

/-- What a rename replaces has no other name. -/
def Replaceable (disk : Disk) (target : EntryName) : Prop :=
  ∀ lost replaced, disk.leads target = some (lost, replaced) →
    replaced.links = 1 ∧ replaced.kind ≠ .directory

theorem leads_rename (linked : disk.Linked)
    (present : disk.leads source = some (file, inode))
    (replaceable : disk.Replaceable target) (differ : source ≠ target)
    (other : EntryName) :
    (disk.rename source target file).leads other =
      if other = target then some (file, inode)
      else if other = source then none else disk.leads other := by
  cases found : disk.leads target with
  | none =>
    simp only [rename, found]
    exact Volume.leads_rename present other
  | some entry =>
    obtain ⟨lost, replaced⟩ := entry
    have single := (replaceable lost replaced found).1
    have unlinked := leads_unlink linked found single
    have still : (disk.unlink target lost).leads source = some (file, inode) := by
      rw [unlinked, if_neg differ, present]
    simp only [rename, found]
    rw [leads, Volume.leads_rename still]
    split
    · rfl
    · split
      · rfl
      · next away _ => exact (unlinked other).trans (if_neg away)

@[simp]
theorem log_rename : (disk.rename source target file).log = disk.log := by
  simp only [rename]
  split <;> rfl

theorem Linked.rename (linked : disk.Linked)
    (present : disk.leads source = some (file, inode))
    (single : inode.links = 1) (replaceable : disk.Replaceable target)
    (differ : source ≠ target) :
    (disk.rename source target file).Linked := by
  have entries := leads_rename linked present replaceable differ
  apply linked.update target file
  · intro number found there
    rw [entries, if_pos rfl] at there
    cases there
    rfl
  · intro other away
    rw [entries, if_neg away]
    by_cases same : other = source
    · exact .inl (if_pos same)
    · rw [if_neg same]
      exact .inr ⟨rfl, linked.elsewhere present single other same⟩

/-- A rename that is not a commit. -/
theorem Keeps.rename (linked : disk.Linked)
    (present : disk.leads source = some (file, inode))
    (single : inode.links = 1) (replaceable : disk.Replaceable target)
    (differ : source ≠ target) (other : target ≠ .transaction) :
    Keeps [target, source] disk
      ((disk.rename source target file).record (.renamed source target)) where
  linked := linked.rename present single replaceable differ
  entries := by
    intro name outside
    rw [leads_record, leads_rename linked present replaceable differ]
    simp_all
  log := by
    intro event member
    simp [record, member]
  uncommitted := by
    simp only [record, log_rename, mem_append, mem_singleton,
      Event.renamed.injEq, other.symm, and_false, or_false]
    exact id
  unwritten := by
    simp only [record, log_rename, mem_append, mem_singleton, reduceCtorEq, or_false]
    exact id

/-- A record of a write leaves the entries as they are. -/
theorem Keeps.record (keeps : Keeps names disk reached)
    (other : name ≠ .transaction) :
    Keeps names disk (reached.record (.written name)) where
  linked := keeps.linked
  entries := keeps.entries
  log := fun event member => mem_append_left _ (keeps.log event member)
  uncommitted := fun committed => by
    simp only [Disk.record, mem_append, mem_singleton, reduceCtorEq, or_false] at committed
    exact keeps.uncommitted committed
  unwritten := fun written => by
    simp only [Disk.record, mem_append, mem_singleton,
      Event.written.injEq, other.symm, or_false] at written
    exact keeps.unwritten written

end Disk

section

variable {lease : MarkerPairLease} {died : Disk → Prop} {file : File}

theorem MarkerPairLease.Rooted.ensures (rooted : lease.Rooted) :
    lease.ensureRootIdentity = pure () := by
  simp [ensureRootIdentity, validateRootMetadata, ensure,
    rooted.described, rooted.named, rooted.same, pure_bind]

theorem validateRootMetadata_tells (here : stop disk) :
    Mortal (lease.validateRootMetadata metadata) disk
      (fun _ reached => reached = disk ∧ metadata.directory ∧
        metadata.owner = lease.euid ∧ metadata.mode &&& 0o022 = 0) (fun _ => stop) died := by
  apply Mortal.ensure _ (fun _ => here)
  intro directory
  apply Mortal.ensure _ (fun _ => here)
  intro owner
  exact .check (fun mode => ⟨rfl, directory, owner, mode⟩) (fun _ => here)

/-- A root that was replaced is refused before anything is done. -/
theorem ensureRootIdentity_tells (here : stop disk) :
    Mortal lease.ensureRootIdentity disk
      (fun _ reached => reached = disk ∧ lease.Rooted) (fun _ => stop) died := by
  apply (validateRootMetadata_tells here).seq
  rintro _ _ ⟨rfl, described⟩
  apply (validateRootMetadata_tells here).seq
  rintro _ _ ⟨rfl, named⟩
  exact .check (fun same => ⟨rfl, described, named, same.1, same.2.1⟩) (fun _ => here)

/-! ## Steps on known entries -/

/-- A call that only looks. -/
theorem look_yields (whole : operation.partly = fun _ disk => disk)
    (looks : operation.complete disk = (.ok value, disk)) (here : died disk) :
    Yields died (perform operation) disk value disk := by
  apply Yields.perform looks _ here
  intro extent
  rwa [whole]

theorem withContext_yields (ends : Yields died action disk value reached) :
    Yields died (withContext message action) disk value reached :=
  ends.attempt.then Yields.pure

/-- The causes of an error do not matter where it stops. -/
theorem withContext_mortal (ends : Mortal action disk done (fun _ => stop) died) :
    Mortal (withContext message action) disk done (fun _ => stop) died := by
  refine .bind (Mortal.attempt ?_)
  apply ends.imply
  · exact fun _ _ => .pure
  · intro failure reached stops
    exact Mortal.fail stops
  · exact fun _ => id

theorem permits_stage (access : Access) :
    lease.permits .regular lease.euid stageMode access := by
  cases access with
  | readOnly => exact lease.permits_read stageMode (by decide)
  | readWrite => exact lease.permits_write stageMode (by decide) (by decide)

theorem fstat_yields (present : disk.leads name = some (file, inode))
    (here : died disk) :
    Yields died (perform (lease.fstat file)) disk (lease.stat file inode) disk := by
  apply look_yields rfl _ here
  simp [fstat, Volume.node_of_entry present]

variable (rooted : lease.Rooted)
include rooted

/-- A call between two looks at the root. -/
theorem guarded_yields (completed : operation.complete disk = (.ok (), reached))
    (parts : ∀ extent, died (operation.partly extent disk))
    (after : died reached) :
    Yields died (lease.guarded message operation) disk () reached := by
  simp only [guarded, rooted.ensures]
  exact (withContext_yields (.perform completed parts after)).then Yields.pure

variable (here : died disk)
include here

theorem entryStat_yields :
    Yields died (lease.entryStat name) disk
      ((disk.leads name).map fun entry => lease.stat entry.1 entry.2) disk := by
  simp only [entryStat, rooted.ensures]
  apply (withContext_yields (look_yields rfl rfl here)).then
  cases disk.leads name <;> exact Yields.pure

theorem ensureFileNameMatches_yields (present : disk.leads name = some (file, inode)) :
    Yields died (lease.ensureFileNameMatches name file) disk () disk := by
  simp only [ensureFileNameMatches, rooted.ensures]
  apply (fstat_yields present here).then
  apply (entryStat_yields rooted here).then
  rw [present]
  exact (Yields.ensure rfl).then Yields.pure

theorem openEntry_yields (present : disk.leads name = some (file, inode))
    (permitted : lease.permits inode.kind inode.owner inode.permissions access) :
    Yields died (lease.openEntry name access) disk file disk := by
  simp only [openEntry, rooted.ensures]
  apply (withContext_yields (look_yields rfl _ here)).then Yields.pure
  simp [openat, present, permitted]

theorem syncFile_yields : Yields died (lease.syncFile file) disk () disk :=
  guarded_yields rooted rfl (fun _ => here) here

theorem syncRoot_yields : Yields died lease.syncRoot disk () disk :=
  guarded_yields rooted rfl (fun _ => here) here

theorem setFileMode_yields (bits : mode ≤ 0o777)
    (after : died (disk.change file fun inode => { inode with permissions := mode })) :
    Yields died (lease.setFileMode file mode) disk ()
      (disk.change file fun inode => { inode with permissions := mode }) := by
  simp only [setFileMode, rooted.ensures]
  apply Mortal.passed bits
  exact (withContext_yields (.perform rfl (fun _ => here) after)).then Yields.pure

theorem unlinkEntry_yields (present : disk.leads name = some (file, inode))
    (file? : inode.kind ≠ .directory) (after : died (disk.unlink name file)) :
    Yields died (lease.unlinkEntry name) disk () (disk.unlink name file) := by
  apply guarded_yields rooted _ (fun _ => here) after
  simp [unlinkat, present, file?]

theorem renameEntry_yields (linked : disk.Linked)
    (present : disk.leads source = some (file, inode))
    (single : inode.links = 1) (replaceable : disk.Replaceable target)
    (differ : source ≠ target)
    (after : died ((disk.rename source target file).record (.renamed source target))) :
    Yields died (lease.renameEntry source target) disk ()
      ((disk.rename source target file).record (.renamed source target)) := by
  apply guarded_yields rooted _ (fun _ => here) after
  cases found : disk.leads target with
  | none => simp [renameat, present, found]
  | some entry =>
    obtain ⟨lost, replaced⟩ := entry
    have elsewhere : file ≠ lost := by
      rintro rfl
      exact differ (linked.single present single found).symm
    have regular := (replaceable lost replaced found).2
    simp [renameat, present, found, elsewhere, regular]

theorem observeOptional_absent (absent : disk.leads name = none) :
    Yields died (observeOptional lease name limit) disk none disk := by
  apply (entryStat_yields rooted here).then
  rw [absent]
  exact Yields.pure

theorem observeOptional_present
    (present : disk.leads name = some (file, lease.own bytes mode))
    (fits : bytes.length ≤ limit)
    (readable : lease.permits .regular lease.euid mode .readOnly) :
    Yields died (observeOptional lease name limit) disk
      (some ⟨lease.stat file (lease.own bytes mode), bytes⟩) disk := by
  have reads : (readToEnd file (limit + 1)).complete disk = (.ok bytes, disk) := by
    simp only [readToEnd, Volume.node_of_entry present, own]
    rw [take_of_length_le (by omega)]
  apply (entryStat_yields rooted here).then
  rw [present]
  apply Mortal.passed rfl
  apply Mortal.passed rfl
  apply Mortal.passed rfl
  apply Mortal.passed fits
  apply (openEntry_yields rooted here present readable).then
  apply (fstat_yields present here).then
  apply Mortal.passed rfl
  apply (withContext_yields (look_yields rfl reads here)).then
  apply Mortal.passed fits
  apply (fstat_yields present here).then
  apply Mortal.passed rfl
  exact (ensureFileNameMatches_yields rooted here present).then Yields.pure

theorem observeRequired_present
    (present : disk.leads name = some (file, lease.own bytes mode))
    (fits : bytes.length ≤ limit)
    (readable : lease.permits .regular lease.euid mode .readOnly) :
    Yields died (observeRequired lease name limit) disk
      ⟨lease.stat file (lease.own bytes mode), bytes⟩ disk :=
  (observeOptional_present rooted here present fits readable).then Yields.pure

/-- What an observation says about the entry. -/
def Observed (lease : MarkerPairLease) (disk : Disk) (name : EntryName)
    (limit : Nat) : Option ObservedFile → Prop
  | none => disk.leads name = none
  | some observed => ∃ file bytes mode, disk.leads name = some (file, lease.own bytes mode) ∧
      bytes.length ≤ limit ∧ lease.permits .regular lease.euid mode .readOnly ∧
      observed = ⟨lease.stat file (lease.own bytes mode), bytes⟩

theorem openEntry_refused (present : disk.leads name = some (file, inode))
    (denied : lease.permits inode.kind inode.owner inode.permissions
      access = false) (stays : stop disk) :
    Mortal (lease.openEntry name access) disk done (fun _ => stop) died := by
  have refuses : (lease.openat name access).complete disk = (.error (.system "openat"), disk) := by
    simp [openat, present, denied]
  simp only [openEntry, rooted.ensures, pure_bind]
  refine .bind (withContext_mortal ?_)
  exact .refused refuses (fun _ => here) here stays

/-- An entry is observed as it is, or refused; it is not touched. -/
theorem observeOptional_tells (stays : stop disk) :
    Mortal (observeOptional lease name limit) disk (fun observed reached =>
        reached = disk ∧ Observed lease disk name limit observed) (fun _ => stop) died := by
  cases found : disk.leads name with
  | none => exact (observeOptional_absent rooted here found).ends ⟨rfl, found⟩
  | some entry =>
    obtain ⟨file, inode⟩ := entry
    by_cases good : ∃ bytes mode, inode = lease.own bytes mode ∧
        bytes.length ≤ limit ∧ lease.permits .regular lease.euid mode .readOnly
    · obtain ⟨bytes, mode, rfl, fits, readable⟩ := good
      exact (observeOptional_present rooted here found fits readable).ends
        ⟨rfl, file, bytes, mode, found, fits, readable, rfl⟩
    · obtain ⟨kind, mode, _, _, bytes⟩ := inode
      apply (entryStat_yields rooted here).then
      rw [found]
      apply Mortal.ensure _ (fun _ => stays)
      intro regular
      obtain rfl : kind = .regular := of_decide_eq_true regular
      apply Mortal.ensure _ (fun _ => stays)
      rintro rfl
      apply Mortal.ensure _ (fun _ => stays)
      rintro rfl
      apply Mortal.ensure _ (fun _ => stays)
      intro fits
      apply Mortal.bind
      apply openEntry_refused rooted here found _ stays
      exact Bool.eq_false_iff.2 fun readable => good ⟨bytes, mode, rfl, fits, readable⟩

end

end Jackin.AccountMarkers
