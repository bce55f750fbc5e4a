import Jackin.Foundation.Directory

/-!
# Names that lead to numbered nodes

In a volume a directory gives every name the number of a node, and the nodes
are kept apart from the names.  A program that has opened a node goes on to
work on it whatever name leads there, so a change of the node is seen under
each of its names, and moving a name leaves the nodes alone.
-/

namespace Jackin.Foundation

/-- A directory of node numbers, and the nodes. -/
structure Volume (Name Node : Type) where
  directory : Directory Name Nat
  node : Nat → Node

namespace Volume

variable {Name Node : Type} [DecidableEq Name]

variable (volume : Volume Name Node)

section

variable (name : Name) (number : Nat)

/-- The number and the node a name leads to. -/
def leads : Option (Nat × Node) :=
  (volume.directory.node? name).map fun number => (number, volume.node number)

/-- The numbers that names lead to. -/
def used : List Nat := volume.directory.rows.map DirectoryEntry.node

def change (update : Node → Node) : Volume Name Node :=
  { volume with
    node := fun other =>
      if other = number then update (volume.node other)
      else volume.node other }

/-- Put a node under a number, and a name to it. -/
def enter (node : Node) : Volume Name Node :=
  { directory := volume.directory.store name number
    node := fun other => if other = number then node else volume.node other }

def remove : Volume Name Node :=
  { volume with directory := volume.directory.drop name }

end

/-- Let the target lead where the source does, and take the source away. -/
def rename (source target : Name) (number : Nat) : Volume Name Node :=
  { volume with directory := volume.directory.move source target number }

variable {volume : Volume Name Node} {node : Node}

theorem number_used (present : volume.leads name = some (number, node)) :
    number ∈ volume.used := by
  simp only [leads, Directory.node?, Option.map_map, Option.map_eq_some_iff,
    Function.comp_apply, Prod.mk.injEq] at present
  obtain ⟨row, found, named, _⟩ := present
  exact List.mem_map.2 ⟨row, List.mem_of_find?_eq_some found, named⟩

theorem node_of_entry (present : volume.leads name = some (number, node)) :
    volume.node number = node := by
  simp only [leads, Option.map_eq_some_iff, Prod.mk.injEq] at present
  obtain ⟨_, _, rfl, reads⟩ := present
  exact reads

/-- A changed node is seen under each of its names. -/
theorem leads_change :
    (volume.change number update).leads name = (volume.leads name).map fun entry =>
        if entry.1 = number then (entry.1, update entry.2) else entry := by
  simp only [leads, change, Option.map_map]
  congr 1
  funext found
  simp only [Function.comp_apply]
  split <;> rfl

theorem leads_enter (unused : number ∉ volume.used) :
    (volume.enter name number node).leads other =
      if other = name then some (number, node) else volume.leads other := by
  by_cases same : other = name
  · simp [leads, enter, same]
  · cases found : volume.leads other with
    | none =>
      have absent : volume.directory.node? other = none := by simpa [leads] using found
      simp [leads, enter, absent]
    | some entry =>
      have differs : entry.1 ≠ number := fun equal => unused (equal ▸ number_used found)
      simp only [leads, Option.map_eq_some_iff] at found
      obtain ⟨_, _, rfl⟩ := found
      simp_all [leads, enter]

@[simp]
theorem leads_remove :
    (volume.remove name).leads other = if other = name then none else volume.leads other := by
  simp only [leads, remove, Directory.node?_drop]
  split <;> rfl

theorem leads_rename (present : volume.leads source = some (number, node))
    (other : Name) :
    (volume.rename source target number).leads other =
      if other = target then some (number, node)
      else if other = source then none else volume.leads other := by
  have reads := node_of_entry present
  simp only [leads, rename, Directory.node?_move]
  split
  · simp [reads]
  · split <;> rfl

end Volume

end Jackin.Foundation
