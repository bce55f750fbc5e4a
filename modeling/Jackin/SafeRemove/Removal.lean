import Jackin.Foundation.Result
import Jackin.SafeRemove.Contents

/-!
# What an admitted removal removes

`Descent` is the walk of an admission as a relation: it is established in the
world of the admission, and the checks of the removal establish it again in
the world the removal finds.  `Holds` says the same in terms of paths: every
prefix of the admitted path that was pinned leads to the directory that was
pinned, and what was absent is absent.

Between the two phases the world may have become any other world.  A removal
that succeeds has taken exactly the subtree of the target out of it; one that
finds anything else than what was admitted fails and leaves the world as it is.
-/

namespace Jackin.SafeRemove

open List Foundation Script

variable {world : World} {process : Process}

variable {parent : Identity} {name : Name} {path : PathText}
    {segments : List Name}
    {failure : Failure}

/-- A directory that was opened under a name of a parent. -/
structure Bound (parent : Identity) (name : Name)
    (pinned : PinnedDir) : Prop where
  parent : pinned.parent = some parent
  name : pinned.name = some name
  /-- The numbers that were recorded are those of the open directory. -/
  identity : pinned.identity.identity = pinned.fd

/-- The entry through which a directory was opened leads to it. -/
def World.links (world : World) (parent : Identity) (name : Name)
    (pinned : PinnedDir) : Prop :=
  world.hierarchy.child? parent name = some (.directory pinned.identity.identity)

/-- A directory was opened under one name of one parent. -/
theorem World.links_of_bound (bound : Bound parent name pinned)
    (again : Bound other otherName pinned)
    (linked : world.links parent name pinned) :
    world.links other otherName pinned := by
  have sameParent : parent = other := Option.mem_unique bound.parent again.parent
  have sameName : name = otherName := Option.mem_unique bound.name again.name
  rwa [← sameParent, ← sameName]

/-- What pinning a child answers. -/
def Pinned (world : World) (parent : Identity) (name : Name)
    (path : PathText) : Option PinnedDir → Prop
  | none => world.hierarchy.child? parent name = none
  | some pinned => Bound parent name pinned ∧ world.links parent name pinned ∧ pinned.path = path

theorem observes_pinFound :
    Checks (pinFound process parent name path expected)
      world (fun pinned => Pinned world parent name path (some pinned)) := by
  refine .bind (.ensure nofun) fun _ _ => ?_
  refine .bind (.ensure nofun) fun _ _ => ?_
  refine .bind observes_refusing fun fd opened => ?_
  refine .bind observes_refusing fun identity reported => ?_
  rw [Except.ok.injEq] at reported
  subst reported
  refine .bind (.ensure nofun) fun _ _ => ?_
  refine .bind observes_verifyDirectoryOwner fun _ _ => ?_
  refine .bind observes_passing fun _ _ => ?_
  exact .pure ⟨⟨rfl, rfl, rfl⟩, openAt_eq_ok.mp opened, rfl⟩

theorem observes_pinChild :
    Checks (pinChild process parent name path) world
      (Pinned world parent name path) := by
  apply Observes.bind observes_ask
  rintro answer (answered | failed)
  · cases found : world.hierarchy.child? parent name with
    | none =>
      rw [answered, World.statAt, found]
      exact .pure found
    | some entry =>
      rw [answered, World.statAt, found]
      refine .bind observes_pinFound fun pinned holds => ?_
      exact .pure holds
  · rw [failed]
    exact .fail (by rintro ⟨⟩)

theorem observes_descend (path : PathText) (segments : List Name) :
    ∀ fd : Identity, Checks (descend path fd segments) world
        (fun answer => ∀ reached, answer = some reached →
          world.hierarchy.lookup fd segments = some (.directory reached)) := by
  induction segments with
  | nil =>
    intro fd
    apply Observes.pure
    rintro reached ⟨⟩
    rfl
  | cons segment rest ih =>
    intro fd
    refine .bind observes_ask fun answer asked => ?_
    cases answer with
    | ok child =>
      have entry := openAt_eq_ok.mp (ok_of_answer asked rfl)
      rw [Hierarchy.lookup_cons_of_directory entry]
      exact ih child
    | error errno =>
      cases errno
      case enoent => exact .pure nofun
      all_goals exact .fail nofun

/-- Where a path leads, for a directory that was pinned by its path. -/
structure Found (process : Process) (world : World) (path : PathText)
    (names : List Name) (pinned : PinnedDir) : Prop where
  segments : absoluteSegments path = .ok names
  path : pinned.path = path
  identity : pinned.identity.identity = pinned.fd
  /-- The directory is bound in the parent that the path leads to. -/
  bound : ∃ parent name, Bound parent name pinned
  leads : world.hierarchy.lookup process.top names = some (.directory pinned.fd)

theorem observes_pinSegments (absolute : absoluteSegments path = .ok segments) :
    Checks (pinSegments process path process.top segments) world
      (fun answer => ∀ pinned, answer = some pinned →
        Found process world path segments pinned) := by
  unfold pinSegments
  cases final : segments.getLast? with
  | none => exact .fail nofun
  | some last =>
    refine .bind (observes_descend path _ _) fun answer descended => ?_
    cases answer with
    | none => exact .pure nofun
    | some parent =>
      apply observes_pinChild.imply
      rintro answer holds pinned rfl
      obtain ⟨bound, links, samePath⟩ := holds
      have split : segments = segments.dropLast ++ [last] :=
        (dropLast_append_getLast? last final).symm
      have leads : world.hierarchy.lookup process.top segments =
          some (.directory pinned.fd) := by
        rw [split, Hierarchy.lookup_append (descended parent rfl),
          Hierarchy.lookup_singleton, ← bound.identity]
        exact links
      exact ⟨absolute, samePath, bound.identity, ⟨parent, last, bound⟩, leads⟩

theorem childName_refusal (failed : childName name path = .error failure) :
    Refusal failure := by
  unfold childName at failed
  split at failed
  · cases failed
    exact nofun
  · split at failed <;> cases failed
    exact nofun

theorem childName_eq_ok (accepted : childName name path = .ok stored) :
    stored = name := by
  unfold childName at accepted
  split at accepted
  · cases accepted
  · split at accepted <;> cases accepted
    rfl

theorem normalSegment_refusal
    (failed : normalSegment path component = .error failure) :
    Refusal failure := by
  cases component with
  | normal name => exact childName_refusal failed
  | _ =>
    cases failed
    exact nofun

theorem normalSegments_refusal (failed : normalSegments path components = .error failure) :
    Refusal failure := by
  unfold normalSegments at failed
  induction components with
  | nil => cases failed
  | cons component rest ih =>
    rw [mapM_cons] at failed
    cases first : normalSegment path component with
    | error refusal =>
      rw [first] at failed
      cases failed
      exact normalSegment_refusal first
    | ok name =>
      rw [first] at failed
      cases others : mapM (normalSegment path) rest with
      | error refusal =>
        rw [others] at failed
        cases failed
        exact ih others
      | ok names =>
        rw [others] at failed
        cases failed

theorem absoluteSegments_refusal
    (failed : absoluteSegments path = .error failure) : Refusal failure := by
  unfold absoluteSegments at failed
  split at failed
  · split at failed
    · cases failed
      exact nofun
    · split at failed
      · cases failed
        exact nofun
      · exact normalSegments_refusal failed
  · cases failed
    exact nofun

/-- Segments that are accepted are the names of normal components. -/
theorem components_of_segments (accepted : normalSegments path components = .ok segments) :
    components = segments.map .normal := by
  unfold normalSegments at accepted
  induction components generalizing segments with
  | nil =>
    cases accepted
    rfl
  | cons component rest ih =>
    rw [mapM_cons, Result.bind_eq_ok] at accepted
    obtain ⟨_, first, accepted⟩ := accepted
    rw [Result.bind_eq_ok] at accepted
    obtain ⟨_, others, accepted⟩ := accepted
    cases accepted
    rw [map_cons, ← ih others]
    cases component with
    | normal stored => rw [childName_eq_ok first]
    | _ => cases first

theorem observes_pinDir :
    Checks (pinDir process path) world (fun answer => ∀ pinned, answer = some pinned →
        ∃ names, Found process world path names pinned) := by
  refine .bind (.lift fun _ => absoluteSegments_refusal) fun segments absolute => ?_
  apply Observes.bind observes_refusing
  rintro fd ⟨⟩
  apply (observes_pinSegments absolute).imply
  exact fun _ found pinned answered => ⟨segments, found pinned answered⟩

/-- The containment root of an admission, and the segments of its target. -/
structure Contained (process : Process) (world : World)
    (root target : PathText) (names segments : List Name)
    (pinned : PinnedDir) : Prop where
  /-- The names are those of the canonical path of the root. -/
  found : ∃ absolute canonical expected, absoluteRoot process root = .ok absolute ∧
    process.symlinkMetadata world absolute = .ok expected ∧
    process.canonicalize world absolute = .ok canonical ∧
    suffixOf absolute canonical target = some (segments.map .normal) ∧
    pinned.identity.identity = expected.identity ∧ Found process world canonical names pinned
  below : segments ≠ []

theorem observes_pinRoot (rooted : absoluteRoot process root = .ok absolute)
    (reported : process.symlinkMetadata world absolute = .ok expected) :
    Checks (pinRoot process root target absolute expected) world
      (fun admitted => ∃ names, Contained process world root target names
        admitted.2.1 admitted.1) := by
  refine .bind (.ensure nofun) fun _ _ => ?_
  refine .bind observes_passing fun canonical resolved => ?_
  cases stripped : suffixOf absolute canonical target with
  | none => exact .fail nofun
  | some suffix =>
    refine .bind (.lift fun _ => normalSegments_refusal) fun segments accepted => ?_
    refine .bind (.ensure nofun) fun _ below => ?_
    refine .bind observes_pinDir fun answer pins => ?_
    cases answer with
    | none => exact .fail nofun
    | some pinned =>
      refine .bind (.ensure nofun) fun _ same => ?_
      obtain ⟨names, found⟩ := pins pinned rfl
      rw [components_of_segments accepted] at stripped
      exact .pure ⟨names, ⟨absolute, canonical, expected, rooted,
        reported, resolved, stripped, same, found⟩, below⟩

theorem observes_containedRoot :
    Checks (containedRoot process root target) world
      (fun admitted => ∃ names, Contained process world root target names
        admitted.2.1 admitted.1) := by
  refine .bind (.lift fun _ => absoluteSegments_refusal) fun _ _ => ?_
  refine .bind observes_orStop fun absolute rooted => ?_
  refine .bind (.lift fun _ => absoluteSegments_refusal) fun _ _ => ?_
  refine .bind observes_passing fun expected reported => ?_
  exact observes_pinRoot rooted reported

/-- The walk from a pinned directory along segments, in one world. -/
inductive Descent
    (world : World) : PinnedDir → List Name → List PinnedDir → AdmittedState → Prop
  | absent {parent : PinnedDir} {name : Name} {rest : List Name}
      (missing : world.hierarchy.child? parent.fd name = none) :
      Descent world parent (name :: rest) [] (.absent name)
  | target {parent child : PinnedDir} {name : Name}
    (bound : Bound parent.fd name child)
      (links : world.links parent.fd name child) :
      Descent world parent [name] [] (.present child)
  | step {parent child : PinnedDir} {name : Name} {rest : List Name}
      {found : List PinnedDir} {state : AdmittedState}
      (bound : Bound parent.fd name child)
      (links : world.links parent.fd name child)
      (further : Descent world child rest found state) :
      Descent world parent (name :: rest) (child :: found) state

theorem observes_admitSegments (pinnedPath : PathText) (segments : List Name) :
    ∀ {ancestors : List PinnedDir}
    {parent : PinnedDir}, ancestors.getLast? = some parent →
      Checks (admitSegments process pinnedPath ancestors segments) world
        (fun removal => ∃ found, removal.ancestors = ancestors ++ found ∧
          Descent world parent segments found removal.state) := by
  induction segments with
  | nil => exact fun _ => .fail nofun
  | cons segment rest ih =>
    intro ancestors parent last
    rw [admitSegments, last]
    refine .bind observes_pinChild fun answer pins => ?_
    cases answer with
    | none => exact .pure ⟨[], (append_nil ancestors).symm, .absent pins⟩
    | some child =>
      obtain ⟨bound, links, _⟩ := pins
      by_cases final : rest = []
      · subst final
        exact .pure ⟨[], (append_nil ancestors).symm,
          .target ⟨bound.parent, bound.name, bound.identity⟩ links⟩
      · simp only [if_neg final]
        apply (ih getLast?_concat).imply
        rintro removal ⟨found, grown, descent⟩
        refine ⟨child :: found, ?_, .step bound links descent⟩
        rw [grown, append_assoc, singleton_append]

/-- An admission: the root, what was found below it, and the end. -/
structure Admission (process : Process) (world : World)
    (root target : PathText) (names segments : List Name)
    (pinnedRoot : PinnedDir) (found : List PinnedDir)
    (removal : OwnedRemoval) : Prop where
  contained : Contained process world root target names segments pinnedRoot
  ancestors : removal.ancestors = pinnedRoot :: found
  descent : Descent world pinnedRoot segments found removal.state

theorem observes_admitContained :
    Checks (admitContained process root target) world
      (fun removal => ∃ names segments pinnedRoot found,
        Admission process world root target names segments pinnedRoot found removal) := by
  apply Observes.bind observes_containedRoot
  rintro ⟨pinnedRoot, segments, pinnedPath⟩ ⟨names, contained⟩
  apply (observes_admitSegments pinnedPath segments getLast?_singleton).imply
  rintro removal ⟨found, grown, descent⟩
  exact ⟨names, segments, pinnedRoot, found, contained, grown, descent⟩

/-- The directories that a removal keeps open, from the root on. -/
def OwnedRemoval.pinned (removal : OwnedRemoval) : List PinnedDir :=
  match removal.state with
  | .present target => removal.ancestors ++ [target]
  | .absent _ => removal.ancestors

/--
The admitted path is as it was admitted: every part of it that was pinned
leads to the directory with the identity recorded, and the entry that was
absent is absent.
-/
structure Holds (process : Process) (world : World)
    (names segments : List Name) (removal : OwnedRemoval) : Prop where
  pinned : ∀ index pinned, removal.pinned[index]? = some pinned →
    world.hierarchy.lookup process.top (names ++ segments.take index) =
      some (.directory pinned.identity.identity)
  absent : ∀ name, removal.state = .absent name →
    world.hierarchy.lookup process.top (names ++ segments.take removal.ancestors.length) = none

/-- The walk as it would go now, from the root that the names lead to. -/
structure Current (process : Process) (world : World)
    (names segments : List Name) (root : PinnedDir)
    (found : List PinnedDir) (state : AdmittedState) : Prop where
  leads : world.hierarchy.lookup process.top names = some (.directory root.fd)
  descent : Descent world root segments found state

section

variable {parent : PinnedDir}

section

variable (leads : world.hierarchy.lookup process.top names = some (.directory parent.fd))
include leads

theorem lookup_child (links : world.links parent.fd name child) :
    world.hierarchy.lookup process.top (names ++ [name]) =
      some (.directory child.identity.identity) := by
  rwa [Hierarchy.lookup_append leads, Hierarchy.lookup_singleton]

/-- The next directory of a walk, and the walk from there. -/
theorem Current.next (bound : Bound parent.fd name child)
    (links : world.links parent.fd name child)
    (further : Descent world child rest found state) :
    Current process world (names ++ [name]) rest child found state where
  leads := by rw [lookup_child leads links, bound.identity]
  descent := further

end

/-- A walk that goes as admitted is as admitted in terms of paths. -/
theorem Current.holds (current : Current process world names segments root found state)
    (identity : root.identity.identity = root.fd) :
    Holds process world names segments ⟨root :: found, state⟩ := by
  obtain ⟨leads, descent⟩ := current
  induction descent generalizing names with
  | @absent parent name rest missing =>
    constructor
    · intro index pinned member
      cases index with
      | zero =>
        cases member
        rwa [take_zero, append_nil, identity]
      | succ index => cases member
    · intro _ _
      show world.hierarchy.lookup process.top (names ++ [name]) = none
      rwa [Hierarchy.lookup_append leads, Hierarchy.lookup_singleton]
  | @target parent child name bound links =>
    constructor
    · intro index pinned member
      match index with
      | 0 =>
        cases member
        rwa [take_zero, append_nil, identity]
      | 1 =>
        cases member
        exact lookup_child leads links
      | index + 2 => cases member
    · exact nofun
  | @step parent child name rest found state bound links further ih =>
    have next := Current.next leads bound links further
    have later := ih bound.identity next.leads
    constructor
    · intro index pinned member
      cases index with
      | zero =>
        have first : parent = pinned := by cases state <;> exact Option.some.inj member
        rwa [← first, take_zero, append_nil, identity]
      | succ index =>
        have moved : (OwnedRemoval.pinned ⟨child :: found, state⟩)[index]? =
            some pinned := by
          cases state <;> exact member
        have reached := later.pinned index pinned moved
        rwa [append_assoc, singleton_append] at reached
    · intro absentName absent
      have missing := later.absent absentName absent
      rwa [append_assoc, singleton_append] at missing

/-- Where the walk to a target ends. -/
theorem Current.leadsTo
    (current : Current process world names segments root found (.present target)) :
    ∃ front name parent, segments = front ++ [name] ∧
      world.hierarchy.lookup process.top (names ++ front) =
        some (.directory parent) ∧
      Bound parent name target ∧ world.links parent name target := by
  obtain ⟨leads, descent⟩ := current
  generalize shape : AdmittedState.present target = state at descent
  induction descent generalizing names with
  | absent => cases shape
  | @target parent child name bound links =>
    cases shape
    refine ⟨[], name, parent.fd, rfl, ?_, bound, links⟩
    rwa [append_nil]
  | @step parent child name rest found state bound links further ih =>
    have next := Current.next leads bound links further
    obtain ⟨front, last, holder, split, reached, ends⟩ := ih next.leads shape
    refine ⟨name :: front, last, holder, by rw [split]; rfl, ?_, ends⟩
    rwa [append_assoc, singleton_append] at reached

end

/-! ## The checks of the removal -/

/-- A pinned directory is still where it was opened. -/
def World.relinks (world : World) (pinned : PinnedDir) : Prop :=
  ∀ parent name, Bound parent name pinned → world.links parent name pinned

/-- The end of an admitted walk is as it was. -/
def World.ends (world : World)
    (ancestors : List PinnedDir) : AdmittedState → Prop
  | .present target => world.relinks target
  | .absent name => ∀ last, ancestors.getLast? = some last →
      world.hierarchy.child? last.fd name = none

/-- A walk whose links are all there again goes as it went. -/
theorem Descent.again {parent}
    (descent : Descent before parent segments found state)
    (relinked : ∀ pinned ∈ found, now.relinks pinned)
    (ends : now.ends (parent :: found) state) :
    Descent now parent segments found state := by
  induction descent with
  | absent _ => exact .absent (ends _ rfl)
  | target bound _ => exact .target bound (ends _ _ bound)
  | @step parent child name rest found state bound _ _ ih =>
    apply Descent.step bound (relinked _ mem_cons_self _ _ bound)
    apply ih
    · exact fun pinned member => relinked pinned (mem_cons_of_mem _ member)
    · cases state with
      | present target => exact ends
      | absent missing =>
        intro last final
        apply ends last
        rwa [getLast?_cons_cons]

/-- The target of a walk was opened in its parent. -/
theorem Descent.bound {parent pinned}
    (descent : Descent world parent segments found state)
    (present : state = .present pinned) :
    ∃ holder name, Bound holder name pinned := by
  induction descent with
  | absent => cases present
  | @target parent child name bound links =>
    cases present
    exact ⟨parent.fd, name, bound⟩
  | step _ _ _ ih => exact ih present

theorem PinnedDir.remove_of_bound (bound : Bound parent name pinned) :
    pinned.remove process depth = pinned.removeFrom process depth parent name := by
  rw [PinnedDir.remove, bound.parent, bound.name]

theorem observes_verifyAncestor :
    Checks (verifyAncestor ancestor) world (fun _ => world.relinks ancestor) := by
  unfold verifyAncestor
  split
  · rename_i parent name holder named
    apply observes_verifyEntry.imply
    intro _ linked other otherName bound
    exact World.links_of_bound ⟨holder, named, bound.identity⟩ bound linked
  · exact .fail nofun

theorem observes_verifyAncestors :
    Checks (verifyAncestors ancestors) world
      (fun _ => ∀ pinned ∈ ancestors, world.relinks pinned) := by
  induction ancestors with
  | nil => exact .pure nofun
  | cons ancestor rest ih =>
    refine .bind observes_verifyAncestor fun _ linked => ?_
    apply ih.imply
    intro _ others pinned member
    cases member with
    | head => exact linked
    | tail _ later => exact others pinned later

theorem observes_verifyAbsent {parent} :
    Checks (verifyAbsent parent name) world
      (fun _ => world.hierarchy.child? parent.fd name = none) := by
  refine .bind observes_ask fun answer asked => ?_
  cases answer with
  | ok stat => exact .fail (by rintro ⟨⟩)
  | error errno =>
    cases errno
    case enoent =>
      apply Observes.pure
      cases asked with
      | inl answered =>
        cases found : world.hierarchy.child? parent.fd name with
        | none => rfl
        | some entry => simp [World.statAt, found] at answered
      | inr failed => cases failed
    all_goals exact .fail (by rintro ⟨⟩)

/-- A target that is elsewhere is not removed. -/
theorem removeFrom_refused (elsewhere : ¬world.links parent name pinned) :
    Checks (pinned.removeFrom process depth parent name) world (fun _ => False) := by
  apply Observes.andThen observes_verifyEntry
  case rest => exact fun _ linked => absurd linked elsewhere
  case fails => exact fun _ refusal => ⟨rfl, refusal⟩
  case dies => rfl

section

variable (admission : Admission process before root target names segments pinnedRoot found removal)
include admission

/-- What has been checked when the removal gets to its end. -/
theorem remove_checked
    (finishes :
      now.hierarchy.lookup process.top names = some (.directory pinnedRoot.fd) →
      (∀ pinned ∈ found, now.relinks pinned) →
        Outcomes anything (removal.finish process depth) now done failed died)
    (fails : ∀ failure, Refusal failure → failed failure now)
    (dies : died now) :
    Outcomes anything (removal.remove process depth) now done failed died := by
  obtain ⟨⟨⟨_, _, _, _, _, _, _, _, origin⟩, _⟩, ancestors, _⟩ := admission
  rw [OwnedRemoval.remove, ancestors]
  apply Observes.andThen observes_pinDir
  case fails => exact fails
  case dies => exact dies
  intro answer pins
  cases answer with
  | none => exact .fail (fails _ nofun)
  | some currentRoot =>
    refine Observes.andThen (show Checks _ now _ from Observes.ensure ?_) ?_ fails dies
    · exact nofun
    intro _ same
    apply Observes.andThen observes_verifyAncestors
    case fails => exact fails
    case dies => exact dies
    intro _ relinked
    obtain ⟨current, located⟩ := pins currentRoot rfl
    have sameNames : current = names := by
      have segments := located.segments
      rw [origin.path, origin.segments] at segments
      exact (Except.ok.inj segments).symm
    apply finishes
    · rw [← sameNames, located.leads, ← located.identity, same, origin.identity]
    · exact fun pinned member => relinked pinned (mem_cons_of_mem _ member)

/-- A walk that would not go as admitted is noticed before any change. -/
theorem remove_refused
    (changed : ¬Current process now names segments pinnedRoot found removal.state)
    (depth : Nat) :
    Checks (removal.remove process depth) now (fun _ => False) := by
  apply remove_checked admission
  case fails => exact fun _ refusal => ⟨rfl, refusal⟩
  case dies => rfl
  intro leads relinked
  have broken : ¬now.ends (pinnedRoot :: found) removal.state := fun ends =>
    changed ⟨leads, admission.descent.again relinked ends⟩
  cases state : removal.state with
  | present pinned =>
    obtain ⟨parent, name, bound⟩ := admission.descent.bound state
    simp only [OwnedRemoval.finish, state, PinnedDir.remove_of_bound bound]
    apply removeFrom_refused
    intro linked
    rw [state] at broken
    exact broken fun _ _ again => World.links_of_bound bound again linked
  | absent name =>
    simp only [OwnedRemoval.finish, state]
    cases last : removal.ancestors.getLast? with
    | none => exact .fail ⟨rfl, nofun⟩
    | some parent =>
      apply observes_verifyAbsent.imply
      intro _ missing
      rw [state] at broken
      apply broken
      intro other final
      rw [← admission.ancestors, last] at final
      cases final
      exact missing

/--
Exactly the directory at the admitted path is gone, with everything below it:
its name is taken out of its parent, and nothing else in the world differs.
-/
def Removed (process : Process) (names segments : List Name)
    (pinned : PinnedDir) (now after : World) : Prop :=
  ∃ front name parent below, segments = front ++ [name] ∧
    now.hierarchy.lookup process.top (names ++ front) = some (.directory parent) ∧
    now.hierarchy.lookup process.top (names ++ segments) =
      some (.directory pinned.identity.identity) ∧
    now.hierarchy.Subtree pinned.identity.identity below ∧
    parent ∉ pinned.identity.identity :: below ∧
    after = now.prune parent name (pinned.identity.identity :: below)

/-- A walk that goes as admitted to a target ends with its removal. -/
theorem remove_removes (present : removal.state = .present pinned)
    (current : Current process now names segments pinnedRoot found removal.state)
    (tree : now.hierarchy.Arborescent) :
    ∃ below : List Identity, ∀ depth : Nat, Outcomes anything (removal.remove process depth) now
        (fun _ after => Removed process names segments pinned now after)
        (fun failure _ => failure = .exhausted → depth ≤ below.length) (fun _ => True) := by
  rw [present] at current
  obtain ⟨front, name, parent, split, leads, bound, linked⟩ := current.leadsTo
  obtain ⟨below, subtree, distinct⟩ := tree.ofChild linked
  rw [bound.identity] at subtree distinct
  refine ⟨below, fun depth => ?_⟩
  apply remove_checked admission
  case fails => exact fun _ => within_of_refusal
  case dies => trivial
  intro _ _
  simp only [OwnedRemoval.finish, present, PinnedDir.remove_of_bound bound]
  apply (removeFrom_prunes bound.identity subtree distinct).imply
  · rintro _ _ rfl
    rw [← bound.identity] at subtree distinct ⊢
    refine ⟨front, name, parent, below, split, leads, ?_, subtree, (nodup_cons.mp distinct).1, rfl⟩
    rwa [split, ← append_assoc, Hierarchy.lookup_append leads, Hierarchy.lookup_singleton]
  · exact fun _ _ => id
  · exact fun _ _ => trivial

/-- Some depth of the recursion is enough for every run. -/
theorem remove_enough (tree : now.hierarchy.Arborescent) :
    ∃ bound, ∀ depth, bound ≤ depth → ∀ fates,
      (removal.remove process depth now fates).result ≠ .error (.failed .exhausted) := by
  by_cases current : Current process now names segments pinnedRoot found removal.state
  · cases state : removal.state with
    | present pinned =>
      obtain ⟨below, removes⟩ := remove_removes admission state current tree
      refine ⟨below.length + 1, fun depth enough fates exhausted => ?_⟩
      have short := (removes depth).of_failed (fun _ _ => trivial) exhausted rfl
      exact absurd short (Nat.not_le.mpr enough)
    | absent name =>
      refine ⟨0, fun depth _ fates exhausted => ?_⟩
      have observes : Checks (removal.remove process depth) now (fun _ => True) := by
        apply remove_checked admission
        case fails => exact fun _ refusal => ⟨rfl, refusal⟩
        case dies => rfl
        intro _ _
        simp only [OwnedRemoval.finish, state]
        cases removal.ancestors.getLast? with
        | none => exact .fail ⟨rfl, nofun⟩
        | some parent => exact observes_verifyAbsent.imply fun _ _ => trivial
      exact (observes.of_failed (fun _ _ => trivial) exhausted).2 rfl
  · refine ⟨0, fun depth _ fates exhausted => ?_⟩
    have refuses := remove_refused admission current depth
    exact (refuses.of_failed (fun _ _ => trivial) exhausted).2 rfl

end

/-- A run that stopped with an error of the code and changed nothing. -/
def Refused (now : World) (run : Run World Failure Unit) : Prop :=
  run.world = now ∧ ∃ stop, run.result = .error stop ∧ stop ≠ .failed .exhausted

/--
For every admission, whatever the file system has become afterwards: a
removal of a present target that returns without an error has removed exactly
the directory at the admitted path and what is below it, and a removal that
finds an ancestor or the target with another identity, or an entry that was
absent, stops with an error and changes nothing.
-/
theorem removal_exact_or_refused (process : Process)
    (root target : PathText) (before : World) (admission : List Fate)
    (removal : OwnedRemoval)
    (admitted : (admitContained process root target before admission).result = .ok removal) :
    ∃ names segments, (∃ pinnedRoot, removal.ancestors.head? = some pinnedRoot ∧
        Contained process before root target names segments pinnedRoot) ∧
      Holds process before names segments removal ∧
      ∀ now : World, (∀ pinned, removal.state = .present pinned →
          now.hierarchy.Arborescent → ∀ depth fates,
            (removal.remove process depth now fates).result = .ok () →
              Removed process names segments pinned now
                (removal.remove process depth now fates).world) ∧
        (¬Holds process now names segments removal → ∀ depth fates,
          Refused now (removal.remove process depth now fates)) ∧
        (now.hierarchy.Arborescent → ∃ bound, ∀ depth, bound ≤ depth →
          ∀ fates, (removal.remove process depth now fates).result ≠
            .error (.failed .exhausted)) := by
  obtain ⟨_, names, segments, pinnedRoot, found, admission⟩ :=
    observes_admitContained.of_ok (fun _ _ => trivial) admitted
  obtain ⟨⟨_, _, _, _, _, _, _, _, origin⟩, _⟩ := admission.contained
  have asRemoval : removal = ⟨pinnedRoot :: found, removal.state⟩ := by rw [← admission.ancestors]
  have holds : ∀ world, Current process world names segments pinnedRoot found
      removal.state → Holds process world names segments removal := by
    intro world current
    rw [asRemoval]
    exact current.holds origin.identity
  refine ⟨names, segments, ⟨pinnedRoot, by rw [admission.ancestors]; rfl, admission.contained⟩,
    holds before ⟨origin.leads, admission.descent⟩, fun now => ⟨?_, ?_, ?_⟩⟩
  · intro pinned present tree depth fates succeeded
    by_cases current : Current process now names segments pinnedRoot found removal.state
    · obtain ⟨_, removes⟩ := remove_removes admission present current tree
      exact (removes depth).of_ok (fun _ _ => trivial) succeeded
    · have refuses := remove_refused admission current depth
      exact ((refuses.of_ok (fun _ _ => trivial) succeeded).2).elim
  · intro changed depth fates
    have ends := remove_refused admission (fun current => changed (holds now current)) depth fates
      (fun _ _ => trivial)
    unfold Meets at ends
    split at ends
    · exact ends.2.elim
    · rename_i failure stopped
      exact ⟨ends.1, _, stopped, fun same => ends.2 (Stop.failed.inj same)⟩
    · rename_i stopped
      exact ⟨ends, _, stopped, nofun⟩
  · exact remove_enough admission

/-- `/r/t` with a subdirectory, a file and a link, next to another file. -/
def sampleWorld : World where
  hierarchy := fun identity =>
    if identity = ⟨1, 2⟩ then some ⟨[⟨[114], .directory ⟨1, 3⟩⟩], by decide⟩
    else if identity = ⟨1, 3⟩ then
      some ⟨[⟨[107], .leaf ⟨⟨1, 7⟩, false⟩⟩, ⟨[116], .directory ⟨1, 4⟩⟩], by decide⟩
    else if identity = ⟨1, 4⟩ then
      some ⟨[⟨[115], .directory ⟨1, 5⟩⟩, ⟨[102], .leaf ⟨⟨1, 8⟩, false⟩⟩,
        ⟨[108], .leaf ⟨⟨1, 9⟩, true⟩⟩], by decide⟩
    else if identity = ⟨1, 5⟩ then some ⟨[⟨[103], .leaf ⟨⟨1, 10⟩, false⟩⟩], by decide⟩
    else none
  owners := fun _ => 1000
  contents := fun _ => []

def sampleProcess : Process where
  effectiveUid := 1000
  top := ⟨1, 2⟩
  currentDir := .ok [47]
  symlinkMetadata := fun world _ => .ok (world.stat (.directory ⟨1, 3⟩))
  canonicalize := fun _ path => .ok path

theorem sampleWorld_arborescent : sampleWorld.hierarchy.Arborescent := by
  have inner : sampleWorld.hierarchy.Subtree ⟨1, 5⟩ [] :=
    .directory rfl (.leaf .nil)
  have target : sampleWorld.hierarchy.Subtree ⟨1, 4⟩ [⟨1, 5⟩] :=
    .directory rfl (.directory inner (.leaf (.leaf .nil)))
  have root : sampleWorld.hierarchy.Subtree ⟨1, 3⟩ [⟨1, 4⟩, ⟨1, 5⟩] :=
    .directory rfl (.leaf (.directory target .nil))
  have top : sampleWorld.hierarchy.Subtree ⟨1, 2⟩ [⟨1, 3⟩, ⟨1, 4⟩, ⟨1, 5⟩] :=
    .directory rfl (.directory root .nil)
  intro identity listing found
  by_cases isTop : identity = ⟨1, 2⟩
  · exact ⟨_, isTop ▸ top, by rw [isTop]; decide⟩
  by_cases isRoot : identity = ⟨1, 3⟩
  · exact ⟨_, isRoot ▸ root, by rw [isRoot]; decide⟩
  by_cases isTarget : identity = ⟨1, 4⟩
  · exact ⟨_, isTarget ▸ target, by rw [isTarget]; decide⟩
  by_cases isInner : identity = ⟨1, 5⟩
  · exact ⟨_, isInner ▸ inner, by rw [isInner]; decide⟩
  simp [sampleWorld, isTop, isRoot, isTarget, isInner] at found

/-- The target of the sample, as it is pinned. -/
def sampleTarget : PinnedDir :=
  ⟨⟨1, 4⟩, some ⟨1, 3⟩, some [116], [47, 114, 47, 116], ⟨⟨1, 4⟩, .directory, 1000⟩⟩

def sampleRemoval : OwnedRemoval where
  ancestors := [⟨⟨1, 3⟩, some ⟨1, 2⟩, some [114], [47, 114], ⟨⟨1, 3⟩, .directory, 1000⟩⟩]
  state := .present sampleTarget

theorem sample_removed_exactly :
    ∃ names segments, Removed sampleProcess names segments sampleTarget sampleWorld
      (sampleRemoval.remove sampleProcess 2 sampleWorld []).world := by
  obtain ⟨names, segments, _, _, later⟩ :=
    removal_exact_or_refused sampleProcess [47, 114] [47, 114, 47, 116]
      sampleWorld [] sampleRemoval (by decide +kernel)
  exact ⟨names, segments, (later sampleWorld).1 sampleTarget rfl
    sampleWorld_arborescent 2 [] (by decide +kernel)⟩

end Jackin.SafeRemove
