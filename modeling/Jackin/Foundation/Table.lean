import Mathlib

/-!
# Tables with a primary key

A table is a list of rows in insertion order in which no key occurs twice.
The operations are the statements a relational store offers: look up, insert
unless the key is taken, update in place, insert or replace, and delete.
Every operation is described by its effect on `find?`.
-/

namespace Jackin.Foundation

open Option List

/-- Rows in insertion order, with pairwise distinct keys. -/
structure Table {Row Key : Type} (key : Row → Key) where
  rows : List Row
  unique : (rows.map key).Nodup

namespace Table

variable {Row Key : Type} {key : Row → Key}

/-- The table without rows. -/
def empty : Table key := ⟨[], List.nodup_nil⟩

variable [DecidableEq Key]

variable {table inserted : Table key} {row : Row}

/-- The row stored under a key. -/
def find? (table : Table key) (wanted : Key) : Option Row :=
  table.rows.find? (fun row => key row = wanted)

theorem key_of_find? (found : table.find? wanted = some row) :
    key row = wanted := by
  have holds := find?_some found
  simpa using holds

theorem mem_of_find? (found : table.find? wanted = some row) :
    row ∈ table.rows :=
  mem_of_find?_eq_some found

private theorem find?_of_mem {rows : List Row} (unique : (rows.map key).Nodup)
    (member : row ∈ rows) :
    rows.find? (fun other => key other = key row) = some row := by
  induction rows with
  | nil => cases member
  | cons head tail ih =>
    rw [map_cons, nodup_cons] at unique
    rcases mem_cons.mp member with rfl | inTail
    · simp
    · have different : key head ≠ key row := by
        intro equality
        exact unique.1 (equality ▸ mem_map_of_mem (f := key) inTail)
      rw [find?_cons_of_neg (by simpa using different)]
      exact ih unique.2 inTail

/-- A row is in the table exactly when its key finds it. -/
theorem mem_rows_iff : row ∈ table.rows ↔ table.find? (key row) = some row :=
  ⟨fun member => find?_of_mem table.unique member, mem_of_find?⟩

theorem find?_eq_none_iff :
    table.find? wanted = none ↔ ∀ row ∈ table.rows, key row ≠ wanted := by
  simp [find?]

/-- Searching a selection of the rows is looking up the key it fixes. -/
theorem find?_filter_rows
    (fixes : ∀ row, (selected row ∧ searched row) ↔ key row = wanted) :
    (table.rows.filter selected).find? searched = table.find? wanted := by
  rw [find?_filter]
  congr 1
  funext row
  exact decide_eq_decide.mpr (fixes row)

/-- At most one row has a key. -/
theorem filter_rows_key (fixes : ∀ row, selected row ↔ key row = wanted) :
    table.rows.filter selected = (table.find? wanted).toList := by
  obtain ⟨rows, unique⟩ := table
  unfold find?
  induction rows with
  | nil => rfl
  | cons head tail ih =>
    rw [map_cons, nodup_cons] at unique
    by_cases same : key head = wanted
    · rw [filter_cons_of_pos ((fixes head).mpr same), find?_cons_of_pos (by simpa using same)]
      have none : tail.filter selected = [] := by
        rw [filter_eq_nil_iff]
        intro row member chosen
        exact unique.1 (mem_map.mpr ⟨row, member, ((fixes row).mp chosen).trans same.symm⟩)
      rw [none]
      rfl
    · rw [filter_cons_of_neg (fun chosen =>
          same ((fixes head).mp chosen)),
        find?_cons_of_neg (by simpa using same)]
      exact ih unique.2

/-- Append a row whose key is free. -/
def insert (table : Table key) (row : Row)
    (fresh : table.find? (key row) = none) : Table key where
  rows := table.rows ++ [row]
  unique := by
    rw [List.map_append, List.nodup_append]
    refine ⟨table.unique, by simp, ?_⟩
    intro stored member added single
    rw [List.mem_map] at member
    obtain ⟨other, inTable, rfl⟩ := member
    have equal : added = key row := by simpa using single
    rw [equal]
    exact find?_eq_none_iff.mp fresh other inTable

/-- Append a row, or report that its key is taken. -/
def insert? (table : Table key) (row : Row) : Option (Table key) :=
  if fresh : table.find? (key row) = none then some (table.insert row fresh)
  else none

theorem find?_insert (fresh : table.find? (key row) = none) :
    (table.insert row fresh).find? wanted =
      if key row = wanted then some row else table.find? wanted := by
  unfold insert find?
  rw [find?_append]
  by_cases same : key row = wanted
  · subst same
    have absent : table.rows.find? (fun other => key other = key row) = none :=
      fresh
    rw [absent]
    simp
  · simp [same]

section

variable (success : table.insert? row = some inserted)
include success

theorem fresh_of_insert? : table.find? (key row) = none := by
  unfold insert? at success
  split at success
  · assumption
  · cases success

theorem find?_of_insert? :
    inserted.find? wanted = if key row = wanted then some row else table.find? wanted := by
  unfold insert? at success
  split at success
  · cases success
    exact find?_insert _
  · cases success

theorem find?_self_of_insert? : inserted.find? (key row) = some row := by
  rw [find?_of_insert? success, if_pos rfl]

/-- An insert keeps the rows that are there. -/
theorem find?_insert?_of_found (found : table.find? wanted = some stored) :
    inserted.find? wanted = some stored := by
  rw [find?_of_insert? success, if_neg]
  · exact found
  · rintro rfl
    rw [fresh_of_insert? success] at found
    cases found

end

theorem insert?_of_fresh (fresh : table.find? (key row) = none) :
    ∃ inserted, table.insert? row = some inserted := by
  rw [insert?, dif_pos fresh]
  exact ⟨_, rfl⟩

/-- Change the row stored under a key, keeping its key. -/
def update (table : Table key) (wanted : Key) (change : Row → Row)
    (keeps : ∀ row, key (change row) = key row) : Table key where
  rows := table.rows.map (fun row => if key row = wanted then change row else row)
  unique := by
    have sameKeys :
        (table.rows.map (fun row => if key row = wanted then change row else row)).map key =
          table.rows.map key := by
      rw [List.map_map]
      apply List.map_congr_left
      intro row _
      rw [Function.comp_apply]
      split
      · exact keeps row
      · rfl
    rw [sameKeys]
    exact table.unique

theorem find?_update (table : Table key) (wanted : Key) (change : Row → Row)
    (keeps : ∀ row, key (change row) = key row) (other : Key) :
    (table.update wanted change keeps).find? other =
      if other = wanted then (table.find? other).map change
      else table.find? other := by
  unfold update find?
  rw [find?_map]
  have samePredicate :
      ((fun row => decide (key row = other)) ∘
        fun row => if key row = wanted then change row else row) =
        fun row => decide (key row = other) := by
    funext row
    rw [Function.comp_apply]
    split
    · rw [keeps row]
    · rfl
  rw [samePredicate]
  cases found : table.rows.find? (fun row => decide (key row = other)) with
  | none => simp
  | some row =>
    have rowKey : key row = other := by simpa using find?_some found
    simp only [map_some, rowKey]
    split <;> rfl

theorem find?_update_self (keeps : ∀ row, key (change row) = key row)
    (found : table.find? wanted = some row) :
    (table.update wanted change keeps).find? wanted = some (change row) := by
  rw [find?_update, if_pos rfl, found]
  rfl

/-- Insert a row, or replace the one stored under its key. -/
def upsert (table : Table key) (row : Row) : Table key :=
  if fresh : table.find? (key row) = none then table.insert row fresh
  else
    { rows := table.rows.map
        (fun stored => if key stored = key row then row else stored)
      unique := by
        have sameKeys :
            (table.rows.map (fun stored =>
                if key stored = key row then row else stored)).map key =
              table.rows.map key := by
          rw [List.map_map]
          apply List.map_congr_left
          intro stored _
          rw [Function.comp_apply]
          split
          · exact Eq.symm ‹key stored = key row›
          · rfl
        rw [sameKeys]
        exact table.unique }

theorem find?_upsert :
    (table.upsert row).find? wanted =
      if key row = wanted then some row else table.find? wanted := by
  unfold upsert
  split
  · exact find?_insert _
  · rename_i taken
    unfold find?
    rw [find?_map]
    have samePredicate :
        ((fun stored => decide (key stored = wanted)) ∘
          fun stored => if key stored = key row then row else stored) =
          fun stored => decide (key stored = wanted) := by
      funext stored
      rw [Function.comp_apply]
      split
      · rename_i same
        rw [same]
      · rfl
    rw [samePredicate]
    cases found : table.rows.find? (fun stored => decide (key stored = wanted)) with
    | none =>
      have different : key row ≠ wanted := by
        rintro rfl
        exact taken found
      simp [different]
    | some stored =>
      have storedKey : key stored = wanted := by simpa using find?_some found
      simp only [map_some, storedKey, eq_comm]
      split <;> rfl

/-- Delete the rows that satisfy a condition. -/
def delete (table : Table key) (condition : Row → Bool) : Table key where
  rows := table.rows.filter (fun row => !condition row)
  unique := (List.Sublist.map key List.filter_sublist).nodup table.unique

omit [DecidableEq Key] in
theorem mem_rows_delete :
    row ∈ (table.delete condition).rows ↔
      row ∈ table.rows ∧ condition row = false := by
  simp [delete]

theorem find?_delete :
    (table.delete condition).find? wanted =
      (table.find? wanted).filter (fun row => !condition row) := by
  cases found : table.find? wanted with
  | none =>
    rw [filter_none]
    rw [find?_eq_none_iff] at found ⊢
    intro row member
    exact found row (mem_rows_delete.mp member).1
  | some row =>
    have rowKey : key row = wanted := key_of_find? found
    cases holds : condition row with
    | true =>
      simp only [filter_some, holds, Bool.not_true, Bool.false_eq_true, if_false]
      rw [find?_eq_none_iff]
      intro other member equality
      have kept := mem_rows_delete.mp member
      have same : table.find? wanted = some other := by
        rw [← equality]
        exact mem_rows_iff.mp kept.1
      rw [found, some.injEq] at same
      subst same
      rw [holds] at kept
      cases kept.2
    | false =>
      simp only [filter_some, holds]
      rw [← rowKey]
      exact mem_rows_iff.mp (mem_rows_delete.mpr ⟨mem_of_find? found, holds⟩)

/-- Deleting a key leaves the other keys. -/
theorem find?_delete_key :
    (table.delete (fun row => decide (key row = gone))).find? wanted =
      if wanted = gone then none else table.find? wanted := by
  rw [find?_delete]
  cases found : table.find? wanted with
  | none => simp
  | some row => simp [key_of_find? found, filter_some]

/-- Deleting a key that is not there changes nothing. -/
theorem delete_key_of_absent (absent : table.find? gone = none) :
    table.delete (fun row => decide (key row = gone)) = table := by
  have others := find?_eq_none_iff.mp absent
  obtain ⟨rows, _⟩ := table
  have kept : rows.filter (fun row => !decide (key row = gone)) = rows :=
    filter_eq_self.mpr fun row => by simpa using others row
  simp only [delete, kept]

end Table

end Jackin.Foundation
