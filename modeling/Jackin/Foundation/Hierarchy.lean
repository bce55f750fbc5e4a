import Jackin.Foundation.Directory

/-!
# Hierarchies of directories

A hierarchy gives the directory behind every identity.  An entry of a
directory is another directory, by its identity, or a leaf.

`Subtree` says that the directories reached from a top are exactly those of a
list, each in one way when the list has no duplicates.  This depends on
nothing but the directories it lists, which is what makes removals elsewhere
invisible to it.

Taking an entry away together with directories that are gone for good is
`prune`; removing everything inside a directory is `clear`, the composition of
the prunings of the entries.
-/

namespace Jackin.Foundation

open List

/-- What a name of a directory stands for. -/
inductive Entry (Identity Leaf : Type) where
  | directory (identity : Identity)
  | leaf (leaf : Leaf)

/-- The entries of a directory. -/
abbrev Listing
    (Name Identity Leaf : Type) := Directory Name (Entry Identity Leaf)

/-- The directory behind every identity. -/
abbrev Hierarchy
    (Name Identity Leaf : Type) := Identity → Option (Listing Name Identity Leaf)

namespace Hierarchy

variable {Name Identity Leaf : Type}

section

variable [DecidableEq Name] {hierarchy : Hierarchy Name Identity Leaf}

/-- The entry under a name of a directory. -/
def child? (hierarchy : Hierarchy Name Identity Leaf) (identity : Identity)
    (name : Name) : Option (Entry Identity Leaf) :=
  (hierarchy identity).bind (·.node? name)

/-- What a path leads to from a directory, through directories only. -/
def lookup (hierarchy : Hierarchy Name Identity Leaf) (identity : Identity) :
    List Name → Option (Entry Identity Leaf)
  | [] => some (.directory identity)
  | name :: rest =>
    match hierarchy.child? identity name with
    | none => none
    | some (.directory child) => hierarchy.lookup child rest
    | some (.leaf leaf) => if rest = [] then some (.leaf leaf) else none

theorem lookup_cons_of_directory
    (found : hierarchy.child? identity name = some (.directory child)) :
    hierarchy.lookup identity (name :: rest) = hierarchy.lookup child rest := by
  rw [lookup, found]

/-- A path of one name leads to the entry under the name. -/
@[simp]
theorem lookup_singleton :
    hierarchy.lookup identity [name] = hierarchy.child? identity name := by
  cases found : hierarchy.child? identity name with
  | none => simp [lookup, found]
  | some entry => cases entry <;> simp [lookup, found]

/-- A path goes on from the directory its front leads to. -/
theorem lookup_append :
    ∀ {identity reached : Identity}, hierarchy.lookup identity front = some (.directory reached) →
      ∀ rest, hierarchy.lookup identity (front ++ rest) = hierarchy.lookup reached rest := by
  induction front with
  | nil =>
    intro identity reached leads rest
    cases leads
    rfl
  | cons name others ih =>
    intro identity reached leads rest
    rw [cons_append]
    cases found : hierarchy.child? identity name with
    | none => simp [lookup, found] at leads
    | some entry =>
      cases entry with
      | directory child =>
        rw [lookup_cons_of_directory found] at leads ⊢
        exact ih leads rest
      | leaf leaf => by_cases last : others = [] <;> simp [lookup, found] at leads

end

mutual

/-- A directory, with the identities of the directories below it. -/
inductive Subtree
    (hierarchy : Hierarchy Name Identity Leaf) : Identity → List Identity → Prop
  | directory {identity : Identity} {below : List Identity}
      {listing : Listing Name Identity Leaf}
      (found : hierarchy identity = some listing)
      (parts : Parts hierarchy listing.rows below) :
      Subtree hierarchy identity below

/-- Some entries, with the identities of the directories in and below them. -/
inductive Parts (hierarchy : Hierarchy Name Identity Leaf) :
    List (DirectoryEntry Name (Entry Identity Leaf)) → List Identity → Prop
  | nil : Parts hierarchy [] []
  | leaf {name : Name} {leaf : Leaf} {below : List Identity}
      {rest : List (DirectoryEntry Name (Entry Identity Leaf))}
      (others : Parts hierarchy rest below) :
      Parts hierarchy (⟨name, .leaf leaf⟩ :: rest) below
  | directory {name : Name} {child : Identity}
      {inner below : List Identity}
      {rest : List (DirectoryEntry Name (Entry Identity Leaf))}
      (subtree : Subtree hierarchy child inner)
      (others : Parts hierarchy rest below) :
      Parts hierarchy (⟨name, .directory child⟩ :: rest)
    (child :: inner ++ below)

end

/--
Every directory is the top of a finite tree in which no directory occurs
twice: a directory has one parent and is not inside itself.
-/
def Arborescent (hierarchy : Hierarchy Name Identity Leaf) : Prop :=
  ∀ identity listing, hierarchy identity = some listing →
    ∃ below, hierarchy.Subtree identity below ∧ (identity :: below).Nodup

section

variable {hierarchy changed : Hierarchy Name Identity Leaf}

mutual

/-- A subtree is described by the directories it lists and no others. -/
theorem Subtree.congr :
    hierarchy.Subtree identity below →
      (∀ listed ∈ identity :: below, changed listed = hierarchy listed) →
        changed.Subtree identity below
  | .directory found parts, same =>
    .directory ((same _ mem_cons_self).trans found) (parts.congr fun listed member =>
        same listed (mem_cons_of_mem _ member))

theorem Parts.congr :
    hierarchy.Parts rows below →
      (∀ listed ∈ below, changed listed = hierarchy listed) →
        changed.Parts rows below
  | .nil, _ => .nil
  | .leaf others, same => .leaf (others.congr same)
  | .directory subtree others, same =>
    .directory (subtree.congr fun listed member =>
        same listed (mem_append_left _ member))
      (others.congr fun listed member => same listed (mem_append_right _ member))

end

end

section

variable {hierarchy : Hierarchy Name Identity Leaf} {below : List Identity}

/-- A directory among some entries brings its subtree with it. -/
theorem Parts.ofChild :
    ∀ {below : List Identity}, hierarchy.Parts rows below → row ∈ rows →
      row.node = .directory child →
        ∃ inner, hierarchy.Subtree child inner ∧ (child :: inner).Sublist below := by
  induction rows with
  | nil => exact nofun
  | cons head rest ih =>
    intro below parts member node
    cases parts with
    | leaf others =>
      cases member with
      | head => cases node
      | tail _ later => exact ih others later node
    | @directory name first inner later rest subtree others =>
      cases member with
      | head =>
        cases node
        exact ⟨inner, subtree, sublist_append_left _ _⟩
      | tail _ behind =>
        obtain ⟨found, tree, part⟩ := ih others behind node
        exact ⟨found, tree, part.trans (sublist_append_right _ _)⟩

variable [DecidableEq Name]

/-- The subtree of a child is a part of the subtree of its parent. -/
theorem Subtree.ofChild (subtree : hierarchy.Subtree identity below)
    (entry : hierarchy.child? identity name = some (.directory child)) :
    ∃ inner, hierarchy.Subtree child inner ∧ (child :: inner).Sublist below := by
  cases subtree with
  | @directory identity below listing found parts =>
    rw [child?, found, Option.bind_some, Directory.node?, Option.map_eq_some_iff] at entry
    obtain ⟨_, stored, node⟩ := entry
    exact parts.ofChild (Table.mem_of_find? stored) node

/-- In a tree, a child and everything below it are not the parent. -/
theorem Arborescent.ofChild (tree : hierarchy.Arborescent)
    (entry : hierarchy.child? identity name = some (.directory child)) :
    ∃ inner, hierarchy.Subtree child inner ∧ (identity :: child :: inner).Nodup := by
  cases found : hierarchy identity with
  | none => simp [child?, found] at entry
  | some listing =>
    obtain ⟨_, subtree, distinct⟩ := tree identity listing found
    obtain ⟨inner, inside, part⟩ := subtree.ofChild entry
    exact ⟨inner, inside, distinct.sublist (part.cons_cons identity)⟩

end

/-! ## Removal -/

section

variable [DecidableEq Identity]

/-- Take everything out of a directory. -/
def clear (hierarchy : Hierarchy Name Identity Leaf) (identity : Identity)
    (below : List Identity) : Hierarchy Name Identity Leaf := fun other =>
  if other ∈ below then none
  else if other = identity then some Table.empty
  else hierarchy other

variable {hierarchy : Hierarchy Name Identity Leaf} {identity : Identity}

theorem clear_self (outside : identity ∉ below) :
    hierarchy.clear identity below identity = some Table.empty := by
  rw [clear, if_neg outside, if_pos rfl]

theorem clear_of_ne (outside : other ∉ below) (different : other ≠ identity) :
    hierarchy.clear identity below other = hierarchy other := by
  rw [clear, if_neg outside, if_neg different]

/-- An empty directory needs no clearing. -/
theorem clear_of_empty (empty : hierarchy identity = some Table.empty) :
    hierarchy.clear identity [] = hierarchy := by
  funext other
  rw [clear, if_neg not_mem_nil]
  split
  · rename_i same
    rw [same, empty]
  · rfl

variable [DecidableEq Name]

/-- Take a name out of a directory; some directories are gone with it. -/
def prune (hierarchy : Hierarchy Name Identity Leaf) (parent : Identity)
    (name : Name) (gone : List Identity) :
    Hierarchy Name Identity Leaf := fun identity =>
  if identity ∈ gone then none
  else if identity = parent then (hierarchy identity).map (·.drop name)
  else hierarchy identity

theorem prune_of_ne (kept : identity ∉ gone) (different : identity ≠ parent) :
    hierarchy.prune parent name gone identity = hierarchy identity := by
  rw [prune, if_neg kept, if_neg different]

theorem prune_parent (kept : parent ∉ gone) :
    hierarchy.prune parent name gone parent =
      (hierarchy parent).map (·.drop name) := by
  rw [prune, if_neg kept, if_pos rfl]

/-- Clearing goes on after an entry is gone. -/
theorem clear_prune (outside : identity ∉ gone) :
    (hierarchy.prune identity name gone).clear identity below =
      hierarchy.clear identity (gone ++ below) := by
  funext other
  by_cases listed : other ∈ below
  · simp [clear, listed]
  · by_cases same : other = identity
    · simp [clear, same, outside]
    · simp [clear, prune, listed, same]

/-- A cleared directory is removed with everything that was below it. -/
theorem prune_clear {inner} :
    (hierarchy.clear child inner).prune parent name [child] =
      hierarchy.prune parent name (child :: inner) := by
  funext other
  by_cases removed : other = child
  · simp [prune, removed]
  · by_cases listed : other ∈ inner
    · simp [prune, clear, listed]
    · simp [prune, clear, listed, removed]

omit [DecidableEq Identity] in
/-- Dropping the first of the rows leaves the others. -/
theorem rows_drop_head {listing : Listing Name Identity Leaf}
    (rows : listing.rows = row :: rest) :
    (listing.drop row.name).rows = rest := by
  have unique := listing.unique
  rw [rows, map_cons, nodup_cons] at unique
  have kept : ∀ other ∈ rest, other.name ≠ row.name := by
    intro other member same
    exact unique.1 (mem_map.mpr ⟨other, member, same⟩)
  show listing.rows.filter _ = rest
  rw [rows, filter_cons_of_neg (by simp), filter_eq_self]
  intro other member
  simpa using kept other member

end

end Hierarchy

end Jackin.Foundation
