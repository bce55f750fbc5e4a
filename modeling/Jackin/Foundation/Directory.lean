import Jackin.Foundation.Script
import Jackin.Foundation.Table

/-!
# Directories

A directory maps names to nodes and can be listed.  Names and nodes are
whatever the program under study needs: a file with its bytes, an inode, or a
whole subdirectory that is only ever moved or removed as one.
-/

namespace Jackin.Foundation

/-- One entry of a directory. -/
structure DirectoryEntry (Name Node : Type) where
  name : Name
  node : Node

/-- Entries with pairwise different names. -/
abbrev Directory
    (Name Node : Type) :=
  Table (DirectoryEntry.name : DirectoryEntry Name Node → Name)

namespace Directory

variable {Name Node : Type} [DecidableEq Name]

variable (directory : Directory Name Node)

/-- The node under a name. -/
def node? (name : Name) : Option Node :=
  (directory.find? name).map DirectoryEntry.node

/-- Put a node under a name, in place of whatever was there. -/
def store (name : Name)
    (node : Node) : Directory Name Node := directory.upsert ⟨name, node⟩

def drop (name : Name) : Directory Name Node := directory.delete (·.name = name)

/-- Take a node from one name to another. -/
def move (source target : Name) (node : Node) : Directory Name Node :=
  (directory.drop source).store target node

def names : List Name := directory.rows.map DirectoryEntry.name

@[simp]
theorem node?_store {directory : Directory Name Node} :
    (directory.store name node).node? other =
      if other = name then some node else directory.node? other := by
  rw [node?, store, Table.find?_upsert]
  simp only [eq_comm]
  split <;> rfl

@[simp]
theorem node?_drop {directory : Directory Name Node} :
    (directory.drop name).node? other = if other = name then none else directory.node? other := by
  rw [node?, drop, Table.find?_delete_key]
  split <;> rfl

@[simp]
theorem node?_move {directory : Directory Name Node} :
    (directory.move source target node).node? other =
      if other = target then some node
      else if other = source then none else directory.node? other := by
  rw [move, node?_store, node?_drop]

theorem find?_of_node? {directory : Directory Name Node}
    (leads : directory.node? name = some node) :
    directory.find? name = some ⟨name, node⟩ := by
  obtain ⟨⟨entryName, _⟩, found, rfl⟩ := Option.map_eq_some_iff.mp leads
  obtain rfl : entryName = name := Table.key_of_find? found
  exact found

section

variable {World Failure : Type}

/--
`rename` in a directory of the world: it fails if there is no source, or if
the node at the target does not give way.
-/
def renameNode (view : World → Directory Name Node)
    (update : World → Directory Name Node → World) (blocks : Node → Bool)
    (missing refused : Failure) (source target : Name) :
    Operation World Failure Unit where
  complete := fun world =>
    match (view world).node? source with
    | none => (.error missing, world)
    | some node =>
      if ((view world).node? target).any blocks then (.error refused, world)
      else (.ok (), update world ((view world).move source target node))
  failure := refused

variable {view : World → Directory Name Node}
    {update : World → Directory Name Node → World} {blocks : Node → Bool}
    {missing refused : Failure}

/-- A rename of what is there is carried out, or it changes nothing. -/
theorem renameNode_found (found : (view world).node? source = some node) :
    (renameNode view update blocks missing refused source target).complete world =
        (.error refused, world) ∨
      (renameNode view update blocks missing refused source target).complete world =
        (.ok (), update world ((view world).move source target node)) := by
  simp only [renameNode, found]
  split
  · exact .inl rfl
  · exact .inr rfl

end

end Directory

end Jackin.Foundation
