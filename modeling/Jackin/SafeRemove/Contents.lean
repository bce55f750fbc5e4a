import Jackin.SafeRemove.Model

/-!
# Removing what is inside a directory

The system calls and checks of the removal that leave the world alone are
observations.  The recursion is more: where a directory is the top of a
subtree in which no directory occurs twice, removing what is inside it, when
it succeeds, clears the directory and removes every directory below it, and
does nothing else.
-/

namespace Jackin.SafeRemove

open List Foundation Script Hierarchy

variable {Value : Type} {world : World} {answer : Except Errno Value}

/-- Runs are not restricted: every call may fail, every death may happen. -/
def anything : Incident World → Prop := fun _ => True

/-- A failure that is not the bound on the depth. -/
def Refusal (failure : Failure) : Prop := failure ≠ .exhausted

/-- The script leaves the world alone, and fails by refusing only. -/
abbrev Checks {Value : Type} (script : Removing Value) (world : World)
    (answers : Value → Prop) : Prop :=
  Observes anything Refusal script world answers

/-! ## System calls -/

theorem outcomes_call
    (answers : done (effect world).1 (effect world).2)
    (fails : done (.error .unexpected) world)
    (before : died world) (after : died (effect world).2) :
    Outcomes anything (call effect) world done failed died := by
  refine .bind (Outcomes.attempt ?_)
  apply Outcomes.perform
  case works =>
    rintro value reached ⟨⟩
    exact .pure answers
  case refuses => nofun
  case fails =>
    intro extent _
    exact .pure fails
  case dies =>
    intro extent _
    cases extent with
    | zero => exact after
    | succ extent => exact before

/-- A question is answered by the world as it is, or not at all. -/
theorem observes_ask :
    Observes anything blame (ask view) world
      (fun answer => answer = view world ∨ answer = .error .unexpected) :=
  outcomes_call ⟨rfl, .inl rfl⟩ ⟨rfl, .inr rfl⟩ rfl rfl

theorem observes_orRefuse :
    Checks (orRefuse path answer) world (fun value => answer = .ok value) := by
  cases answer with
  | ok value => exact .pure rfl
  | error errno => exact .fail nofun

theorem observes_orStop :
    Checks (orStop answer) world (fun value => answer = .ok value) := by
  cases answer with
  | ok value => exact .pure rfl
  | error errno => exact .fail nofun

/-- What follows on a question was answered by the world. -/
theorem ok_of_answer (asked : answer = viewed ∨ answer = .error .unexpected)
    (accepted : answer = .ok value) : viewed = .ok value := by
  cases asked with
  | inl answered => exact answered.symm.trans accepted
  | inr failed => cases failed.symm.trans accepted

theorem observes_refusing :
    Checks (refusing path (ask view)) world (fun value => view world = .ok value) :=
  Observes.bind observes_ask fun _ asked => observes_orRefuse.imply fun _ => ok_of_answer asked

theorem observes_passing :
    Checks (passing (ask view)) world (fun value => view world = .ok value) :=
  Observes.bind observes_ask fun _ asked => observes_orStop.imply fun _ => ok_of_answer asked

theorem observes_verifyDirectoryOwner :
    Checks (verifyDirectoryOwner process identity path) world (fun _ => True) :=
  (Observes.ensure nofun).imply fun _ _ => trivial

/-- Only directories are reported as directories. -/
theorem directory_of_stat (kind : (world.stat entry).kind = .directory) :
    entry = .directory (world.stat entry).identity := by
  cases entry with
  | directory identity => rfl
  | leaf leaf => cases link : leaf.symlink <;> simp [World.stat, Leaf.kind, link] at kind

/-- What `fstatat` reports is about the entry that is there. -/
theorem statAt_eq_ok :
    world.statAt parent name = .ok stat ↔
      ∃ entry, world.hierarchy.child? parent name = some entry ∧ world.stat entry = stat := by
  cases found : world.hierarchy.child? parent name <;> simp [World.statAt, found]

/-- Only a directory can be opened. -/
theorem openAt_eq_ok :
    world.openAt parent name = .ok identity ↔
      world.hierarchy.child? parent name = some (.directory identity) := by
  cases found : world.hierarchy.child? parent name with
  | none => simp [World.openAt, found]
  | some entry => cases entry <;> simp [World.openAt, found]

/-- A verified entry is the directory that was expected. -/
theorem observes_verifyEntry :
    Checks (verifyEntry parent name expected path) world
      (fun _ => world.hierarchy.child? parent name = some (.directory expected.identity)) := by
  refine .bind observes_refusing fun actual reported => ?_
  obtain ⟨_, found, rfl⟩ := statAt_eq_ok.mp reported
  apply (Observes.ensure nofun).imply
  rintro _ ⟨same, kind⟩
  rw [found, directory_of_stat kind, same]

/-! ## The recursion -/

/-- A refusal says nothing about the bound. -/
theorem within_of_refusal {bound : Prop} {failure}
    (refusal : Refusal failure) : failure = .exhausted → bound :=
  fun exhausted => absurd exhausted refusal

/-- A removal that leaves a world, and exhausts its depth only within a bound. -/
abbrev Removes (script : Removing Unit) (world left : World)
    (bound : Prop) : Prop :=
  Outcomes anything script world (fun _ after => after = left)
    (fun failure _ => failure = .exhausted → bound) (fun _ => True)

namespace Removes

variable {left middle : World} {bound inner : Prop}

theorem of_observes {script} (observes : Checks script world answers) :
    Removes script world world bound :=
  Outcomes.imply observes (fun _ _ => And.left)
    (fun _ _ refused => within_of_refusal refused.2) (fun _ _ => trivial)

theorem after_observes {next} (first : Checks script world answers)
    (rest : ∀ value, answers value → Removes (next value) world left bound) :
    Removes (script >>= next) world left bound :=
  first.andThen rest (fun _ => within_of_refusal) trivial

theorem widen {script} (removes : Removes script world left inner)
    (wider : inner → bound) :
    Removes script world left bound :=
  removes.imply (fun _ _ => id) (fun _ _ within exhausted => wider (within exhausted))
    (fun _ => id)

theorem bind {script next} (first : Removes script world middle bound)
    (rest : Removes (next ()) middle left bound) :
    Removes (script >>= next) world left bound := by
  refine Outcomes.bind (first.imply ?_ (fun _ _ => id) fun _ => id)
  rintro _ _ rfl
  exact rest

/-- An unlinking that the world allows is carried out or refused. -/
theorem unlinkat
    (allowed : world.unlink parent name flags
      (world.hierarchy.child? parent name) = (.ok (), left)) :
    Removes (refusing path (unlinkat parent name flags)) world left bound := by
  apply Outcomes.bind
  apply outcomes_call
  case answers =>
    rw [allowed]
    exact .pure rfl
  case fails => exact .fail nofun
  case before => trivial
  case after => trivial

end Removes

/-- The world with everything taken out of a directory. -/
def World.clear (world : World) (identity : Identity)
    (below : List Identity) : World :=
  { world with hierarchy := world.hierarchy.clear identity below }

/--
Removing what is inside the top of a subtree clears it, and runs into the
bound on the depth only in a subtree with that many directories.
-/
def Clears (depth : Nat) (inside : Identity → Removing Unit) : Prop :=
  ∀ (world : World) (identity : Identity) (below : List Identity),
    world.hierarchy.Subtree identity below → (identity :: below).Nodup →
      Removes (inside identity) world (world.clear identity below) (depth ≤ below.length)

theorem removeName_leaf (found : world.hierarchy.child? fd name = some (.leaf leaf)) :
    Removes (removeName process inside fd path name) world (world.prune fd name []) bound := by
  have unlinks : Removes (refusing path (unlinkat fd name .noRemoveDir)) world
      (world.prune fd name []) bound :=
    .unlinkat (by rw [found]; rfl)
  apply Removes.after_observes observes_ask
  rintro answer (answered | failed)
  · rw [answered, World.openAt, found]
    by_cases link : leaf.symlink = true <;>
      simpa only [link, if_true, if_false, Bool.false_eq_true] using unlinks
  · rw [failed]
    exact .fail nofun

/-- An entry of a directory outside a clearing is still there. -/
theorem entry_clear {inner} (different : fd ≠ child) (outside : fd ∉ inner) :
    (world.clear child inner).hierarchy.child? fd name =
      world.hierarchy.child? fd name := by
  simp [World.clear, child?, clear_of_ne outside different]

/-- An emptied directory can be unlinked, with all that was below it. -/
theorem unlink_cleared {inner}
    (found : world.hierarchy.child? fd name = some (.directory child))
    (distinct : (fd :: child :: inner).Nodup) :
    (world.clear child inner).unlink fd name .removeDir
        ((world.clear child inner).hierarchy.child? fd name) =
      (.ok (), world.prune fd name (child :: inner)) := by
  simp only [nodup_cons, mem_cons, not_or] at distinct
  have empty : (world.clear child inner).isEmpty child := by
    simp [World.isEmpty, World.clear, clear_self distinct.2.1, Table.empty]
  rw [entry_clear distinct.1.1 distinct.1.2, found, World.unlink, if_pos empty]
  simp only [World.prune, World.clear, prune_clear]

theorem removeName_directory {inner} (clears : Clears depth inside)
    (found : world.hierarchy.child? fd name = some (.directory child))
    (subtree : world.hierarchy.Subtree child inner)
    (distinct : (fd :: child :: inner).Nodup) :
    Removes (removeName process inside fd path name) world
      (world.prune fd name (child :: inner)) (depth ≤ inner.length) := by
  apply Removes.after_observes observes_ask
  rintro answer (answered | failed)
  · rw [answered, openAt_eq_ok.mpr found]
    refine .after_observes observes_refusing fun identity _ => ?_
    refine .after_observes observes_verifyDirectoryOwner fun _ _ => ?_
    apply (clears world child inner subtree (nodup_cons.mp distinct).2).bind
    refine .after_observes observes_verifyEntry fun _ _ => ?_
    exact .unlinkat (unlink_cleared found distinct)
  · rw [failed]
    exact .fail nofun

/-- The first row of a directory is the entry under its name. -/
theorem entry_head (found : world.hierarchy fd = some listing)
    (rows : listing.rows = row :: rest) :
    world.hierarchy.child? fd row.name = some row.node := by
  simp [child?, found, Directory.node?, Table.find?, rows]

/-- The directories that are left do not notice what is gone. -/
theorem parts_prune
    (parts : world.hierarchy.Parts rows below)
    (distinct : (fd :: (gone ++ below)).Nodup) :
    (world.prune fd name gone).hierarchy.Parts rows below := by
  rw [nodup_cons, nodup_append] at distinct
  apply parts.congr
  intro listed member
  apply prune_of_ne
  · exact fun lost => distinct.2.2.2 listed lost listed member rfl
  · rintro rfl
    exact distinct.1 (mem_append_right _ member)

/-- The names are removed one after the other, each as its entry requires. -/
theorem removeNames_clears (clears : Clears depth inside) :
    ∀ {world : World} {below : List Identity}
      {listing : Listing Name Identity Leaf},
      world.hierarchy fd = some listing → listing.rows = rows →
      world.hierarchy.Parts rows below → (fd :: below).Nodup →
        Removes (removeNames process inside fd path (rows.map DirectoryEntry.name)) world
          (world.clear fd below) (depth < below.length) := by
  induction rows with
  | nil =>
    intro world below listing found empty parts distinct
    cases parts
    obtain ⟨_, _⟩ := listing
    subst empty
    apply Outcomes.pure
    simp only [World.clear, clear_of_empty found]
  | cons row rest ih =>
    intro world below listing found shape parts distinct
    -- Some directories go with the first entry, the others stay for later.
    have continues : ∀ gone later : List Identity,
        (fd :: (gone ++ later)).Nodup → world.hierarchy.Parts rest later →
        Removes (removeName process inside fd path row.name) world
          (world.prune fd row.name gone) (depth < gone.length) →
        Removes (removeNames process inside fd path ((row :: rest).map DirectoryEntry.name))
          world (world.clear fd (gone ++ later)) (depth < (gone ++ later).length) := by
      intro gone later separate others removes
      have outside : fd ∉ gone := fun member =>
        (nodup_cons.mp separate).1 (mem_append_left _ member)
      have remaining : (fd :: later).Nodup :=
        separate.sublist ((sublist_append_right gone later).cons_cons fd)
      have stays : (world.prune fd row.name gone).hierarchy fd =
          some (listing.drop row.name) := by
        show world.hierarchy.prune fd row.name gone fd = _
        rw [prune_parent outside, found]
        rfl
      have cleared : (world.prune fd row.name gone).clear fd later =
          world.clear fd (gone ++ later) := by
        simp only [World.clear, World.prune, clear_prune outside]
      have rests := ih stays (rows_drop_head shape) (parts_prune others separate) remaining
      rw [← cleared, length_append]
      exact (removes.widen (Nat.lt_add_right _)).bind (rests.widen (Nat.lt_add_left _))
    have entry := entry_head found shape
    cases parts with
    | leaf others =>
      exact continues [] below distinct others (removeName_leaf entry)
    | @directory name child inner later rest subtree others =>
      have top : (fd :: child :: inner).Nodup :=
        distinct.sublist ((sublist_append_left (child :: inner) later).cons_cons fd)
      exact continues (child :: inner) later distinct others
        ((removeName_directory clears entry subtree top).widen Nat.lt_succ_of_le)

/-- Removing what is inside a directory clears it, at every depth. -/
theorem removeDirContents_clears :
    Clears depth (removeDirContents process path depth) := by
  induction depth with
  | zero =>
    intro world identity below _ _
    exact .fail fun _ => Nat.zero_le _
  | succ depth ih =>
    intro world identity below subtree distinct
    cases subtree with
    | @directory identity below listing found parts =>
      refine .after_observes observes_refusing fun names listed => ?_
      rw [World.namesIn, found, Except.ok.injEq] at listed
      subst listed
      exact (removeNames_clears ih found rfl parts distinct).bind (.of_observes observes_refusing)

/-- Removing a pinned directory takes its whole subtree out of its parent. -/
theorem removeFrom_prunes {pinned : PinnedDir}
    (same : pinned.identity.identity = pinned.fd)
    (subtree : world.hierarchy.Subtree pinned.fd below)
    (distinct : (parent :: pinned.fd :: below).Nodup) :
    Removes (pinned.removeFrom process depth parent name) world
      (world.prune parent name (pinned.fd :: below)) (depth ≤ below.length) := by
  refine .after_observes observes_verifyEntry fun _ found => ?_
  rw [same] at found
  apply (removeDirContents_clears world pinned.fd below subtree (nodup_cons.mp distinct).2).bind
  refine .after_observes observes_verifyEntry fun _ _ => ?_
  exact Removes.bind (.unlinkat (unlink_cleared found distinct)) (.of_observes observes_refusing)

end Jackin.SafeRemove
