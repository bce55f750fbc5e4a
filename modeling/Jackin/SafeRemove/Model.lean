import Jackin.Foundation.Hierarchy
import Jackin.Foundation.Path
import Jackin.Foundation.Script

/-!
# Removal of directories that are pinned first

`safe_remove.rs` removes a directory in two phases.  An admission walks from
the root of the file system to a containment root and from there to the
target, opening every directory without following a symbolic link, and keeps
the open descriptors with the device and inode numbers they had.  The removal
checks all of this again before it removes anything.

An open directory is represented by its identity, which cannot be given to
another directory while a descriptor is open.  The recursion into
subdirectories carries a bound on its depth, which the source does not have:
running into it is a failure of its own.

The current directory, the metadata of the containment root and its canonical
path come from the standard library and are parameters of the process.
-/

namespace Jackin.SafeRemove

open Foundation

/-! ## The file system -/

/-- A name of a directory entry, or a path, as the bytes of the platform. -/
abbrev Name := List UInt8

abbrev PathText := List UInt8

/-- The separator and the dot in the bytes of a path. -/
def bytes : Alphabet UInt8 where
  separator := 47
  dot := 46
  distinct := by decide

/-- What identifies a file or directory: its device and its inode number. -/
structure Identity where
  device : Nat
  inode : Nat
  deriving DecidableEq

/-- The file types that the removal tells apart. -/
inductive Kind where
  | directory
  | symlink
  | other
  deriving DecidableEq

/-- An entry that is not a directory. -/
structure Leaf where
  identity : Identity
  symlink : Bool

/-- The file system. -/
structure World where
  hierarchy : Hierarchy Name Identity Leaf
  /-- The user that owns a file or directory. -/
  owners : Identity → Nat
  /-- The bytes of a file, or the target of a symbolic link. -/
  contents : Identity → List UInt8

/-- The part of `FileStat` that is used. -/
structure FileStat where
  identity : Identity
  kind : Kind
  uid : Nat
  deriving DecidableEq

inductive Errno where
  | enoent
  | enotdir
  | eloop
  | eisdir
  | enotempty
  /-- Any error that does not depend on what the entries are. -/
  | unexpected
  deriving DecidableEq

def Leaf.kind (leaf : Leaf) : Kind := if leaf.symlink then .symlink else .other

/-- What is reported about an entry, without following a link. -/
def World.stat (world : World) : Entry Identity Leaf → FileStat
  | .directory identity => ⟨identity, .directory, world.owners identity⟩
  | .leaf leaf => ⟨leaf.identity, leaf.kind, world.owners leaf.identity⟩

/-- The process, and what the standard library answers to it. -/
structure Process where
  /-- `geteuid` -/
  effectiveUid : Nat
  /-- The directory that is opened under `/`. -/
  top : Identity
  currentDir : Except Errno PathText
  symlinkMetadata : World → PathText → Except Errno FileStat
  canonicalize : World → PathText → Except Errno PathText

/-- What follows the path in a message. -/
inductive Reason where
  | text (text : String)
  | errno (errno : Errno)
  | escapes (root : PathText)
  deriving DecidableEq

inductive Failure where
  /-- `refusing to {action} {path}: {reason}` -/
  | refused (action : String) (path : PathText) (reason : Reason)
  /-- A refusal that names no path. -/
  | denied (text : String)
  /-- A name with a zero byte. -/
  | invalidComponent (path : PathText)
  /-- `std::io::Error::other` -/
  | other (text : String)
  /-- An error of the system that is passed on as it is. -/
  | system (errno : Errno)
  /-- The bound on the depth of the recursion is reached. -/
  | exhausted
  deriving DecidableEq

abbrev Removing := Script World Failure

/-! ## System calls -/

variable {Value : Type}

/-- What a system call does, as an operation that answers with its errno. -/
def operation (effect : World → Except Errno Value × World) :
    Operation World Failure (Except Errno Value) where
  complete := fun world => (.ok (effect world).1, (effect world).2)
  failure := .system .unexpected

/-- A system call: its answer and its effect, unless it fails beforehand. -/
def call (effect : World → Except Errno Value × World) : Removing (Except Errno Value) := do
  match ← Script.attempt (Script.perform (operation effect)) with
  | .ok answer => pure answer
  | .error _ => pure (.error .unexpected)

/-- A system call that changes nothing. -/
def ask (view : World → Except Errno Value) : Removing (Except Errno Value) :=
  call fun world => (view world, world)

def World.statAt (world : World) (parent : Identity)
    (name : Name) : Except Errno FileStat :=
  match world.hierarchy.child? parent name with
  | none => .error .enoent
  | some entry => .ok (world.stat entry)

/-- `fstatat` with `AT_SYMLINK_NOFOLLOW`. -/
def fstatat (parent : Identity)
    (name : Name) : Removing (Except Errno FileStat) :=
  ask fun world => world.statAt parent name

def World.openAt (world : World) (parent : Identity)
    (name : Name) : Except Errno Identity :=
  match world.hierarchy.child? parent name with
  | none => .error .enoent
  | some (.directory identity) => .ok identity
  | some (.leaf leaf) => .error (if leaf.symlink then .eloop else .enotdir)

/-- `openat` with `O_DIRECTORY` and `O_NOFOLLOW`. -/
def openat (parent : Identity)
    (name : Name) : Removing (Except Errno Identity) :=
  ask fun world => world.openAt parent name

/-- `fstat` of an open directory. -/
def fstat (fd : Identity) : Removing (Except Errno FileStat) :=
  ask fun world => .ok (world.stat (.directory fd))

variable (process : Process)

/-- `open` of `/`. -/
def openTop : Removing (Except Errno Identity) := ask fun _ => .ok process.top

def World.namesIn (world : World) (fd : Identity) : Except Errno (List Name) :=
  match world.hierarchy fd with
  | none => .error .enoent
  | some listing => .ok listing.names

/-- The names that reading an open directory yields. -/
def readNames (fd : Identity) : Removing (Except Errno (List Name)) :=
  ask fun world => world.namesIn fd

def duplicate : Removing (Except Errno Unit) := ask fun _ => .ok ()

def fsync : Removing (Except Errno Unit) := ask fun _ => .ok ()

inductive UnlinkatFlags where
  | removeDir
  | noRemoveDir

/-- Whether a directory has no entries. -/
def World.isEmpty (world : World) (identity : Identity) : Bool :=
  match world.hierarchy identity with
  | none => true
  | some listing => listing.rows.isEmpty

/-- The world without an entry, and without directories that go with it. -/
def World.prune (world : World) (parent : Identity) (name : Name)
    (gone : List Identity) : World :=
  { world with hierarchy := world.hierarchy.prune parent name gone }

/-- What unlinking does to the entry that is there. -/
def World.unlink (world : World) (parent : Identity) (name : Name) :
    UnlinkatFlags → Option (Entry Identity Leaf) → Except Errno Unit × World
  | _, none => (.error .enoent, world)
  | .removeDir, some (.leaf _) => (.error .enotdir, world)
  | .removeDir, some (.directory identity) =>
    if world.isEmpty identity then (.ok (), world.prune parent name [identity])
    else (.error .enotempty, world)
  | .noRemoveDir, some (.directory _) => (.error .eisdir, world)
  | .noRemoveDir, some (.leaf _) => (.ok (), world.prune parent name [])

variable (path : PathText) (parent : Identity) (name : Name)

def unlinkat (flags : UnlinkatFlags) : Removing (Except Errno Unit) :=
  call fun world => world.unlink parent name flags (world.hierarchy.child? parent name)

/-- `refuse_io` on an error. -/
def orRefuse : Except Errno Value → Removing Value
  | .ok value => pure value
  | .error errno => Script.fail (.refused "remove" path (.errno errno))

/-- Pass an error on as it is. -/
def orStop : Except Errno Value → Removing Value
  | .ok value => pure value
  | .error errno => Script.fail (.system errno)

/-- A system call whose errors are refusals. -/
def refusing (question : Removing (Except Errno Value)) : Removing Value :=
  question >>= orRefuse path

/-- A system call whose errors are passed on. -/
def passing (question : Removing (Except Errno Value)) : Removing Value :=
  question >>= orStop

def isAbsolute : Bool := path.head? = some bytes.separator

variable (root path : PathText)

/-- `child_name`: one normal component without a zero byte. -/
def childName : Except Failure Name :=
  if ¬Path.Ordinary bytes name then
    .error (.refused "access" path (.text "expected one normal path component"))
  else if 0 ∈ name then .error (.invalidComponent path)
  else .ok name

/-- One step of `normal_segments`; `path` is only shown. -/
def normalSegment : Component UInt8 → Except Failure Name
  | .normal name => childName name path
  | _ => .error (.refused "remove" path (.text "path escapes containment root"))

def normalSegments (components : List (Component UInt8)) : Except Failure (List Name) :=
  components.mapM (normalSegment path)

/-- `Path::strip_prefix`, as the components that are left. -/
def stripPrefix (base path : PathText) : Option (List (Component UInt8)) :=
  let front := Path.components bytes base
  let all := Path.components bytes path
  if front.isPrefixOf all then some (all.drop front.length) else none

/-- What is left of an absolute path, as `strip_prefix` shows it. -/
def suffixText (suffix : List (Component UInt8)) : PathText :=
  let blank := fun part => (Path.component bytes part).isNone
  let rest := (path.splitOn bytes.separator).tails.find? fun tail =>
    tail.filterMap (Path.component bytes) = suffix
  [bytes.separator].intercalate (((rest.getD []).dropWhile blank).rdropWhile blank)

def absoluteSegments : Except Failure (List Name) :=
  if isAbsolute path then
    if (path.splitOn bytes.separator).any
        (fun part => part = [bytes.dot] ∨ part = [bytes.dot, bytes.dot]) then
      .error (.refused "remove" path (.text "path escapes containment root or has dot components"))
    else
      match stripPrefix [bytes.separator] path with
      | none => .error (.other "prefix not found")
      | some components => normalSegments (suffixText path components) components
  else .error (.refused "remove" path (.text "contained path must be absolute"))

/-! ## Pinned directories -/

/-- An open directory, with where it was found. -/
structure PinnedDir where
  fd : Identity
  parent : Option Identity
  name : Option Name
  path : PathText
  identity : FileStat
  deriving DecidableEq

def verifyDirectoryOwner (identity : FileStat)
    (path : PathText) : Removing Unit :=
  Script.ensure (process.effectiveUid = 0 ∨ identity.uid = process.effectiveUid)
    (.refused "remove" path (.text "directory is not owned by the current user"))

def verifyEntry (expected : FileStat) (path : PathText) : Removing Unit := do
  let actual ← refusing path (fstatat parent name)
  Script.ensure (actual.identity = expected.identity ∧ actual.kind = .directory)
    (.refused "remove" path (.text "path changed during removal"))

/-- `pin_child` after the entry was found. -/
def pinFound (expected : FileStat) : Removing PinnedDir := do
  Script.ensure (expected.kind ≠ .symlink) (.refused "remove" path (.text "path is a symlink"))
  Script.ensure (expected.kind = .directory)
    (.refused "remove" path (.text "path is not a directory"))
  let fd ← refusing path (openat parent name)
  let identity ← refusing path (fstat fd)
  Script.ensure (identity.identity = expected.identity)
    (.refused "remove" path (.text "path changed during validation"))
  verifyDirectoryOwner process identity path
  passing duplicate
  pure
    { fd, parent := some parent, name := some name, path, identity }

def pinChild : Removing (Option PinnedDir) := do
  match ← fstatat parent name with
  | .ok expected =>
    let pinned ← pinFound process parent name path expected
    pure (some pinned)
  | .error .enoent => pure none
  | .error errno => Script.fail (.refused "remove" path (.errno errno))

/-- The directories that `pin_dir` passes through. -/
def descend (path : PathText)
    (fd : Identity) : List Name → Removing (Option Identity)
  | [] => pure (some fd)
  | segment :: rest => do
    match ← openat fd segment with
    | .ok child => descend path child rest
    | .error .enoent => pure none
    | .error errno => Script.fail (.refused "remove" path (.errno errno))

/-- `pin_dir` of the segments of a path. -/
def pinSegments (fd : Identity)
    (segments : List Name) : Removing (Option PinnedDir) :=
  match segments.getLast? with
  | none => Script.fail (.refused "pin" path (.text "path has no final component"))
  | some last => do
    match ← descend path fd segments.dropLast with
    | none => pure none
    | some parent => pinChild process parent last path

def pinDir : Removing (Option PinnedDir) := do
  let segments ← Script.lift (absoluteSegments path)
  let fd ← refusing path (openTop process)
  pinSegments process path fd segments

/-- One name of `remove_dir_contents`. -/
def removeName (inside : Identity → Removing Unit)
    (fd : Identity) (path : PathText) (name : Name) : Removing Unit := do
  match ← openat fd name with
  | .ok child => do
    let identity ← refusing path (fstat child)
    verifyDirectoryOwner process identity path
    inside child
    verifyEntry fd name identity path
    refusing path (unlinkat fd name .removeDir)
  | .error .enotdir | .error .eloop => refusing path (unlinkat fd name .noRemoveDir)
  | .error .enoent => pure ()
  | .error errno => Script.fail (.refused "remove" path (.errno errno))

def removeNames (process : Process) (inside : Identity → Removing Unit)
    (fd : Identity) (path : PathText) : List Name → Removing Unit
  | [] => pure ()
  | name :: rest => do
    removeName process inside fd path name
    removeNames process inside fd path rest

/-- `remove_dir_contents`, to a depth. -/
def removeDirContents (process : Process)
    (path : PathText) : Nat → Identity → Removing Unit
  | 0, _ => Script.fail .exhausted
  | depth + 1, fd => do
    let names ← refusing path (readNames fd)
    removeNames process (removeDirContents process path depth) fd path names
    refusing path fsync

/-- `PinnedDir::remove` of a bound directory. -/
def PinnedDir.removeFrom (depth : Nat) (pinned : PinnedDir) (parent : Identity)
    (name : Name) :
    Removing Unit := do
  verifyEntry parent name pinned.identity pinned.path
  removeDirContents process pinned.path depth pinned.fd
  verifyEntry parent name pinned.identity pinned.path
  refusing pinned.path (unlinkat parent name .removeDir)
  refusing pinned.path fsync

def PinnedDir.remove (process : Process) (depth : Nat)
    (pinned : PinnedDir) : Removing Unit :=
  match pinned.parent, pinned.name with
  | some parent, some name => pinned.removeFrom process depth parent name
  | _, _ => Script.fail (.refused "remove" pinned.path (.text "path has no final component"))

/-! ## Admission and removal -/

/-- What the path led to on admission. -/
inductive AdmittedState where
  | present (target : PinnedDir)
  | absent (name : Name)
  deriving DecidableEq

/-- An admitted path, pinned directory by directory. -/
structure OwnedRemoval where
  ancestors : List PinnedDir
  state : AdmittedState
  deriving DecidableEq

/-- The containment root as an absolute path. -/
def absoluteRoot : Except Errno PathText :=
  if isAbsolute root then .ok root
  else process.currentDir.map fun base => Path.join bytes base root

/-- The components of a path below the root, however the root is written. -/
def suffixOf (absolute canonical path : PathText) : Option (List (Component UInt8)) :=
  (stripPrefix absolute path).or (stripPrefix canonical path)

/-- `contained_root` once the metadata of the root is known. -/
def pinRoot (absolute : PathText) (expected : FileStat) :
    Removing (PinnedDir × List Name × PathText) := do
  Script.ensure (expected.kind = .directory)
    (.refused "remove" path (.text "containment root is a symlink or not a directory"))
  let canonical ← passing (ask fun world => process.canonicalize world absolute)
  match suffixOf absolute canonical path with
  | none => Script.fail (.refused "remove" path (.escapes root))
  | some suffix => do
    let segments ← Script.lift (normalSegments (suffixText path suffix) suffix)
    Script.ensure (segments ≠ [])
      (.refused "remove" path (.text "path is the containment root itself"))
    match ← pinDir process canonical with
    | none => Script.fail (.refused "remove" path (.text "containment root disappeared"))
    | some pinned => do
      Script.ensure (pinned.identity.identity = expected.identity)
        (.refused "remove" path (.text "containment root changed during validation"))
      pure (pinned, segments, Path.join bytes canonical
        (List.intercalate [bytes.separator] segments))

def containedRoot : Removing (PinnedDir × List Name × PathText) := do
  let _ ← Script.lift (absoluteSegments path)
  let absolute ← orStop (absoluteRoot process root)
  let _ ← Script.lift (absoluteSegments absolute)
  let expected ← passing (ask fun world => process.symlinkMetadata world absolute)
  pinRoot process root path absolute expected

/-- The loop of `admit_contained` over the segments below the root. -/
def admitSegments (process : Process) (pinnedPath : PathText)
    (ancestors : List PinnedDir) : List Name → Removing OwnedRemoval
  | [] => Script.fail (.denied "refusing admission without a final target component")
  | segment :: rest =>
    match ancestors.getLast? with
    | none => Script.fail (.other "missing containment root")
    | some parent => do
      match ← pinChild process parent.fd segment (Path.join bytes parent.path segment) with
      | none => pure ⟨ancestors, .absent segment⟩
      | some child =>
        if rest = [] then pure ⟨ancestors, .present { child with path := pinnedPath }⟩
        else admitSegments process pinnedPath (ancestors ++ [child]) rest

def admitContained (target : PathText) : Removing OwnedRemoval := do
  let admitted ← containedRoot process root target
  admitSegments process admitted.2.2 [admitted.1] admitted.2.1

/-- The check of one ancestor before the removal. -/
def verifyAncestor (ancestor : PinnedDir) : Removing Unit :=
  match ancestor.parent, ancestor.name with
  | some parent, some name => verifyEntry parent name ancestor.identity ancestor.path
  | _, _ => Script.fail (.denied "refusing removal with an unbound ancestor")

def verifyAncestors : List PinnedDir → Removing Unit
  | [] => pure ()
  | ancestor :: rest => do
    verifyAncestor ancestor
    verifyAncestors rest

/-- The check that an entry is still absent. -/
def verifyAbsent (parent : PinnedDir) (name : Name) : Removing Unit := do
  match ← fstatat parent.fd name with
  | .error .enoent => pure ()
  | .error errno => Script.fail (.refused "remove" parent.path (.errno errno))
  | .ok _ => Script.fail (.refused "remove" (Path.join bytes parent.path name)
      (.text "entry appeared after admission"))

/-- The removal after all ancestors are verified. -/
def OwnedRemoval.finish (depth : Nat)
    (removal : OwnedRemoval) : Removing Unit :=
  match removal.state with
  | .present target => target.remove process depth
  | .absent name =>
    match removal.ancestors.getLast? with
    | none => Script.fail (.other "missing absence parent")
    | some parent => verifyAbsent parent name

def OwnedRemoval.remove (process : Process) (depth : Nat)
    (removal : OwnedRemoval) : Removing Unit :=
  match removal.ancestors.head? with
  | none => Script.fail (.other "missing containment root")
  | some root => do
    match ← pinDir process root.path with
    | none => Script.fail (.other "containment root disappeared after admission")
    | some currentRoot => do
      Script.ensure (currentRoot.identity.identity = root.identity.identity)
        (.refused "remove" root.path (.text "containment root changed after admission"))
      verifyAncestors removal.ancestors
      removal.finish process depth

end Jackin.SafeRemove
