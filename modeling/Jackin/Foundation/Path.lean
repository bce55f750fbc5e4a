import Mathlib

/-!
# Paths as texts

A path is a text over some alphabet with a separator and a dot.  What it means
is its list of components: segments between separators, where empty segments
and single dots are skipped except for a leading separator, which is the root
directory, and a leading dot.
-/

namespace Jackin.Foundation

open List

/-- The two symbols that have a meaning in a path. -/
structure Alphabet (Symbol : Type) where
  separator : Symbol
  dot : Symbol
  distinct : separator ≠ dot

inductive Component (Symbol : Type) where
  | rootDir
  | curDir
  | parentDir
  | normal (name : List Symbol)
  deriving DecidableEq

namespace Path

variable {Symbol : Type} [DecidableEq Symbol] (alphabet : Alphabet Symbol)

/-- The component of a segment that is not the first one. -/
def component (segment : List Symbol) : Option (Component Symbol) :=
  if segment = [] ∨ segment = [alphabet.dot] then none
  else if segment = [alphabet.dot, alphabet.dot] then some .parentDir
  else some (.normal segment)

/-- The component of the first segment of a path. -/
def leading (path segment : List Symbol) : Option (Component Symbol) :=
  if segment = [] then if path = [] then none else some .rootDir
  else if segment = [alphabet.dot] then some .curDir
  else component alphabet segment

/-- `Path::components`. -/
def components (path : List Symbol) : List (Component Symbol) :=
  match path.splitOn alphabet.separator with
  | [] => []
  | first :: rest => (leading alphabet path first).toList ++ rest.filterMap (component alphabet)

/-- A path that starts with a separator starts at the root, and only there. -/
theorem components_of_absolute (absolute : path.head? = some alphabet.separator) :
    ∃ rest, components alphabet path = .rootDir :: rest ∧ .rootDir ∉ rest := by
  obtain ⟨others, rfl⟩ := head?_eq_some_iff.mp absolute
  have divided : (alphabet.separator :: others).splitOn alphabet.separator =
      [] :: others.splitOn alphabet.separator :=
    splitOnP_append_cons [] others (beq_self_eq_true _)
  refine ⟨(others.splitOn alphabet.separator).filterMap (component alphabet), ?_, ?_⟩
  · rw [components, divided]
    simp [leading]
  · rw [mem_filterMap]
    rintro ⟨segment, _, root⟩
    rw [component] at root
    split at root
    · cases root
    · split at root <;> cases root

/-- A name that is one normal component: not empty, no dots, no separator. -/
structure Ordinary (name : List Symbol) : Prop where
  notEmpty : name ≠ []
  notCurrent : name ≠ [alphabet.dot]
  notParent : name ≠ [alphabet.dot, alphabet.dot]
  undivided : alphabet.separator ∉ name

instance (name : List Symbol) : Decidable (Ordinary alphabet name) :=
  decidable_of_iff (name ≠ [] ∧ name ≠ [alphabet.dot] ∧
      name ≠ [alphabet.dot, alphabet.dot] ∧ alphabet.separator ∉ name)
    ⟨fun ⟨notEmpty, notCurrent, notParent, undivided⟩ =>
      ⟨notEmpty, notCurrent, notParent, undivided⟩,
    fun ⟨notEmpty, notCurrent, notParent, undivided⟩ =>
      ⟨notEmpty, notCurrent, notParent, undivided⟩⟩

/-- A path as the text that stands before the name of a child. -/
def below (base : List Symbol) : List Symbol :=
  if base = [] ∨ base.getLast? = some alphabet.separator then base
  else base ++ [alphabet.separator]

/-- `Path::join`: a path that starts at the root replaces the base. -/
def join (base name : List Symbol) : List Symbol :=
  if name.head? = some alphabet.separator then name
  else below alphabet base ++ name

/-- What is skipped at the end of a path, which is given in reverse. -/
def dropSkipped : List Symbol → List Symbol
  | [] => []
  | symbol :: rest =>
    if symbol = alphabet.separator then dropSkipped rest
    else if symbol = alphabet.dot ∧ rest.head? = some alphabet.separator then dropSkipped rest
    else symbol :: rest

/-- The text before the last component, and the last component. -/
def splitLast (path : List Symbol) : List Symbol × List Symbol :=
  let kept := dropSkipped alphabet path.reverse
  ((kept.dropWhile (· ≠ alphabet.separator)).reverse,
    (kept.takeWhile (· ≠ alphabet.separator)).reverse)

/-- `Path::file_name`. -/
def fileName (path : List Symbol) : Option (List Symbol) :=
  let last := (splitLast alphabet path).2
  if Ordinary alphabet last then some last else none

/-! ## Children -/

section

variable {alphabet} {name : List Symbol}

theorem component_of_ordinary (ordinary : Ordinary alphabet name) :
    component alphabet name = some (.normal name) := by
  have skipped : ¬(name = [] ∨ name = [alphabet.dot]) := by
    rintro (empty | current)
    · exact ordinary.notEmpty empty
    · exact ordinary.notCurrent current
  rw [component, if_neg skipped, if_neg ordinary.notParent]

theorem splitOn_of_undivided (undivided : alphabet.separator ∉ name) :
    name.splitOn alphabet.separator = [name] := by
  apply splitOnP_eq_singleton
  intro symbol member
  simp only [beq_eq_false_iff_ne]
  rintro rfl
  exact undivided member

theorem join_of_ordinary (ordinary : Ordinary alphabet name) :
    join alphabet base name = below alphabet base ++ name := by
  apply if_neg
  intro rooted
  exact ordinary.undivided (mem_of_head? rooted)

/-- The text before a child is empty or ends in a separator. -/
theorem below_ends (alphabet : Alphabet Symbol) (base : List Symbol) :
    below alphabet base = [] ∨
      ∃ front, below alphabet base = front ++ [alphabet.separator] := by
  rw [below]
  split
  · rename_i ends
    cases ends with
    | inl empty => exact .inl empty
    | inr last =>
      obtain ⟨front, shape⟩ := getLast?_eq_some_iff.mp last
      exact .inr ⟨front, shape⟩
  · exact .inr ⟨base, rfl⟩

/-- The components after a separator are added one by one. -/
theorem components_append_separator :
    components alphabet (front ++ alphabet.separator :: rest) =
      components alphabet (front ++ [alphabet.separator]) ++
        (rest.splitOn alphabet.separator).filterMap (component alphabet) := by
  have divided : ∀ last : List Symbol,
      (front ++ alphabet.separator :: last).splitOn alphabet.separator =
        front.splitOn alphabet.separator ++ last.splitOn alphabet.separator :=
    fun last => splitOnP_append_cons front last (beq_self_eq_true _)
  have skipped : component alphabet ([] : List Symbol) = none := if_pos (.inl rfl)
  rw [components, components, divided rest, divided []]
  cases segments : front.splitOn alphabet.separator with
  | nil => exact absurd segments (splitOnP_ne_nil _ _)
  | cons first others => simp [leading, skipped]

/-- A segment after a separator adds its own component. -/
theorem components_append {segment} (undivided : alphabet.separator ∉ segment) :
    components alphabet (front ++ alphabet.separator :: segment) =
      components alphabet (front ++ [alphabet.separator]) ++
        (component alphabet segment).toList := by
  rw [components_append_separator, splitOn_of_undivided undivided]
  cases found : component alphabet segment <;> simp [found]

/-- A separator at the end adds no component. -/
theorem components_separator (nonempty : front ≠ []) :
    components alphabet (front ++ [alphabet.separator]) =
      components alphabet front := by
  have divided : (front ++ [alphabet.separator]).splitOn alphabet.separator =
      front.splitOn alphabet.separator ++ [[]] :=
    splitOnP_append_cons front [] (beq_self_eq_true _)
  have skipped : component alphabet ([] : List Symbol) = none := if_pos (.inl rfl)
  rw [components, components, divided]
  cases segments : front.splitOn alphabet.separator with
  | nil => exact absurd segments (splitOnP_ne_nil _ _)
  | cons first rest => simp [leading, skipped, nonempty]

variable (ordinary : Ordinary alphabet name)
include ordinary

/-- Joining an ordinary name adds exactly that name. -/
theorem components_join :
    components alphabet (join alphabet base name) =
      components alphabet base ++ [.normal name] := by
  have last := component_of_ordinary ordinary
  rw [join_of_ordinary ordinary, below]
  split
  · rename_i ends
    cases ends with
    | inl empty =>
      subst empty
      rw [nil_append, components, components, splitOn_of_undivided ordinary.undivided]
      simp [leading, ordinary.notEmpty, ordinary.notCurrent, last]
    | inr separated =>
      obtain ⟨_, rfl⟩ := getLast?_eq_some_iff.mp separated
      rw [append_assoc, singleton_append, components_append ordinary.undivided, last]
      rfl
  · rename_i unended
    have nonempty : base ≠ [] := fun empty => unended (.inl empty)
    rw [append_assoc, singleton_append,
      components_append ordinary.undivided, components_separator nonempty, last]
    rfl

/-- An ordinary name is not skipped at the end of a path. -/
theorem dropSkipped_of_ordinary :
    dropSkipped alphabet (name.reverse ++ front) = name.reverse ++ front := by
  have divided : alphabet.separator ∉ name.reverse :=
    fun member => ordinary.undivided (mem_reverse.mp member)
  have current : name.reverse ≠ [alphabet.dot] := by
    intro same
    exact ordinary.notCurrent (reverse_eq_iff.mp same)
  cases reversed : name.reverse with
  | nil => exact absurd (reverse_eq_nil_iff.mp reversed) ordinary.notEmpty
  | cons symbol rest =>
    rw [reversed] at divided current
    rw [mem_cons, not_or] at divided
    rw [cons_append, dropSkipped, if_neg (Ne.symm divided.1), if_neg]
    rintro ⟨rfl, separated⟩
    cases rest with
    | nil => exact current rfl
    | cons next others =>
      rw [cons_append, head?_cons, Option.some.injEq] at separated
      exact divided.2 (separated ▸ mem_cons_self)

/-- A child is taken apart where it was joined. -/
theorem splitLast_child :
    splitLast alphabet (below alphabet base ++ name) =
      (below alphabet base, name) := by
  have inside : ∀ symbol ∈ name.reverse, decide (symbol ≠ alphabet.separator) := by
    intro symbol member
    rw [decide_eq_true_eq]
    rintro rfl
    exact ordinary.undivided (mem_reverse.mp member)
  rw [splitLast, reverse_append, dropSkipped_of_ordinary ordinary,
    dropWhile_append_of_pos inside, takeWhile_append_of_pos inside]
  rcases below_ends alphabet base with empty | ⟨front, shape⟩
  · simp [empty]
  · simp [shape]

theorem fileName_join :
    fileName alphabet (join alphabet base name) = some name := by
  rw [join_of_ordinary ordinary, fileName, splitLast_child ordinary]
  exact if_pos ordinary

end

end Path

end Jackin.Foundation
