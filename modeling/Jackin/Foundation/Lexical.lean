import Jackin.Foundation.Path

/-!
# Where paths lead

The steps of a path are followed one by one: a name leads down, two dots lead
up, and a root starts again.  A path that never leads above where it starts
stays inside every directory it is joined to, and these are the only paths
that do.

On a disk a name may be a symbolic link, whose text then takes the place of
the name.  Where no step is a link a path leads where its text says.
-/

namespace Jackin.Foundation.Path

open List

variable {Symbol : Type} [DecidableEq Symbol] (alphabet : Alphabet Symbol)

/-- A place under the root or a starting directory; the deepest name comes first. -/
abbrev Place (Symbol : Type) := List (Component Symbol)

/-- Follow one component. -/
def follow (place : Place Symbol) : Component Symbol → Place Symbol
  | .rootDir => [.rootDir]
  | .curDir => place
  | .normal name => .normal name :: place
  | .parentDir =>
    match place with
    | .normal _ :: rest => rest
    | .rootDir :: _ => place
    | _ => .parentDir :: place

/-- The components of a path that lead somewhere. -/
def steps (path : List Symbol) : List (Component Symbol) :=
  (components alphabet path).filter (· ≠ .curDir)

/-- Where the text of a path leads. -/
def lexical (path : List Symbol) : Place Symbol :=
  (steps alphabet path).foldl follow []

/-- The place is a directory or something below it. -/
def Below (directory place : Place Symbol) : Prop :=
  ∃ names : List (List Symbol), place = names.map .normal ++ directory

/-- What a path leads to is a directory or something below it. -/
def Inside (directory path : List Symbol) : Prop :=
  Below (lexical alphabet directory) (lexical alphabet path)

/-- Components that never lead above the place that is so deep. -/
def staysBelow : Nat → List (Component Symbol) → Bool
  | _, [] => true
  | depth, .normal _ :: rest => staysBelow (depth + 1) rest
  | depth, .curDir :: rest => staysBelow depth rest
  | 0, .parentDir :: _ => false
  | depth + 1, .parentDir :: rest => staysBelow depth rest
  | _, .rootDir :: _ => false

/-- A relative path that never leads above where it starts. -/
def Descends (path : List Symbol) : Prop := staysBelow 0 (steps alphabet path)

instance (path : List Symbol) : Decidable (Descends alphabet path) :=
  inferInstanceAs (Decidable (_ = _))

section

variable {alphabet} {parts : List (Component Symbol)}

omit [DecidableEq Symbol] in
/-- What stays below a place leads to something below it. -/
theorem foldl_follow_of_staysBelow (names : List (List Symbol))
    (place : List (Component Symbol))
    (stays : staysBelow names.length parts) :
    ∃ others : List (List Symbol),
      parts.foldl follow (names.map .normal ++ place) =
        others.map .normal ++ place := by
  induction parts generalizing names with
  | nil => exact ⟨names, rfl⟩
  | cons part rest ih =>
    cases part with
    | rootDir => cases names <;> cases stays
    | curDir => cases names <;> exact ih _ stays
    | normal name => cases names <;> exact ih (name :: _) stays
    | parentDir =>
      cases names with
      | nil => cases stays
      | cons last others => exact ih others stays

omit [DecidableEq Symbol] in
/-- A name that was left behind and is not among the rest does not return. -/
theorem not_mem_foldl_follow (climbs : part ≠ .parentDir)
    (left : part ∉ place)
    (others : part ∉ parts) : part ∉ parts.foldl follow place := by
  induction parts generalizing place with
  | nil => exact left
  | cons head rest ih =>
    rw [mem_cons, not_or] at others
    apply ih _ others.2
    cases head with
    | rootDir => simpa [follow] using others.1
    | curDir => exact left
    | normal name => exact fun member => (mem_cons.mp member).elim others.1 left
    | parentDir =>
      simp only [follow]
      split
      · exact fun member => left (mem_cons_of_mem _ member)
      · exact left
      · exact fun member => (mem_cons.mp member).elim climbs left

omit [DecidableEq Symbol] in
/-- What leads above a directory under the root does not come back to it. -/
theorem not_mem_of_climbing (names : List (List Symbol))
    (others : .normal name ∉ parts)
    (climbs : staysBelow names.length parts = false) :
    .normal name ∉ parts.foldl follow (names.map .normal ++ [.normal name, .rootDir]) := by
  induction parts generalizing names with
  | nil => cases names <;> cases climbs
  | cons part rest ih =>
    rw [mem_cons, not_or] at others
    have root : .normal name ∉ rest.foldl follow [.rootDir] :=
      not_mem_foldl_follow nofun (by simp) others.2
    cases part with
    | rootDir => exact root
    | curDir => cases names <;> exact ih _ others.2 climbs
    | normal other =>
      have deeper : staysBelow (other :: names).length rest = false := by
        cases names <;> exact climbs
      exact ih (other :: names) others.2 deeper
    | parentDir =>
      cases names with
      | nil => exact root
      | cons last names => exact ih names others.2 climbs

theorem filter_component (segments : List (List Symbol)) :
    (segments.filterMap (component alphabet)).filter (· ≠ .curDir) =
      segments.filterMap (component alphabet) := by
  rw [filter_eq_self]
  intro part member
  obtain ⟨segment, _, found⟩ := mem_filterMap.mp member
  rw [decide_eq_true_eq]
  rintro rfl
  rw [component] at found
  split at found
  · cases found
  · split at found <;> cases found

/-- The first segment of a relative path may as well be a later one. -/
theorem steps_of_relative (relative : name.head? ≠ some alphabet.separator) :
    steps alphabet name =
      (name.splitOn alphabet.separator).filterMap (component alphabet) := by
  have started : ∀ rest, name.splitOn alphabet.separator = [] :: rest → name = [] := by
    intro rest segments
    cases name with
    | nil => rfl
    | cons symbol others =>
      have other : (symbol == alphabet.separator) = false := by simpa using relative
      rw [splitOn, splitOnP_cons_eq_if_modifyHead, other] at segments
      cases remaining : others.splitOnP (· == alphabet.separator) with
      | nil => exact absurd remaining (splitOnP_ne_nil _ _)
      | cons first rest => simp [remaining] at segments
  rw [steps, components]
  cases segments : name.splitOn alphabet.separator with
  | nil => rfl
  | cons first rest =>
    rw [filterMap_cons, filter_append, filter_component]
    by_cases empty : first = []
    · subst empty
      simp [leading, component, started rest segments]
    by_cases current : first = [alphabet.dot]
    · simp [leading, component, current]
    · have single : ([first].filterMap (component alphabet)).filter _ = _ :=
        filter_component [first]
      simp only [leading, if_neg empty, if_neg current]
      cases found : component alphabet first with
      | none => rfl
      | some part =>
        simp only [filterMap_cons, found, filterMap_nil] at single
        rw [Option.toList_some, single]
        rfl

/-- A relative path is followed after its base. -/
theorem steps_join (relative : name.head? ≠ some alphabet.separator) :
    steps alphabet (join alphabet base name) =
      steps alphabet base ++ steps alphabet name := by
  have after : ∀ front, steps alphabet (front ++ alphabet.separator :: name) =
        steps alphabet (front ++ [alphabet.separator]) ++ steps alphabet name := by
    intro front
    rw [steps, components_append_separator, filter_append, filter_component,
      steps_of_relative relative]
    rfl
  rw [join, if_neg relative, below]
  split
  · rename_i ends
    cases ends with
    | inl empty =>
      rw [empty]
      rfl
    | inr separated =>
      obtain ⟨_, rfl⟩ := getLast?_eq_some_iff.mp separated
      rw [append_assoc, singleton_append, after]
  · rename_i unended
    have nonempty : base ≠ [] := fun empty => unended (.inl empty)
    rw [append_assoc, singleton_append, after, steps, components_separator nonempty]
    rfl

theorem lexical_join (relative : name.head? ≠ some alphabet.separator) :
    lexical alphabet (join alphabet base name) =
      (steps alphabet name).foldl follow (lexical alphabet base) := by
  rw [lexical, steps_join relative, foldl_append]
  rfl

/-- Only an absolute path starts at the root. -/
theorem relative_of_descends (descends : Descends alphabet name) :
    name.head? ≠ some alphabet.separator := by
  intro absolute
  obtain ⟨_, shape, -⟩ := components_of_absolute alphabet absolute
  rw [Descends, steps, shape] at descends
  cases descends

/-- A path that descends stays inside every directory it is joined to. -/
theorem inside_join (descends : Descends alphabet name) :
    Inside alphabet directory (join alphabet directory name) := by
  obtain ⟨names, leads⟩ := foldl_follow_of_staysBelow [] (lexical alphabet directory) descends
  exact ⟨names, (lexical_join (relative_of_descends descends)).trans leads⟩

omit [DecidableEq Symbol] in
/-- Long enough names are not among some components. -/
theorem exists_fresh (symbol : Symbol) (parts : List (Component Symbol)) :
    ∃ bound, ∀ count, bound ≤ count → .normal (replicate count symbol) ∉ parts := by
  induction parts with
  | nil => exact ⟨0, fun _ _ => not_mem_nil⟩
  | cons part rest ih =>
    obtain ⟨bound, fresh⟩ := ih
    cases part with
    | normal name =>
      refine ⟨bound + name.length + 1, fun count enough member => ?_⟩
      rcases mem_cons.mp member with same | later
      · have length := congrArg length (Component.normal.inj same)
        rw [length_replicate] at length
        omega
      · exact fresh count (by omega) later
    | _ =>
      refine ⟨bound, fun count enough => ?_⟩
      simpa using fresh count enough

/-- A path that does not descend leaves some directory it is joined to. -/
theorem not_inside_of_not_descends (symbol : Symbol)
    (plain : symbol ≠ alphabet.separator)
    (notDot : symbol ≠ alphabet.dot) (climbs : ¬Descends alphabet name) :
    ∃ directory, ¬Inside alphabet directory (join alphabet directory name) := by
  obtain ⟨bound, fresh⟩ := exists_fresh symbol (steps alphabet name)
  let own := replicate (bound + 1) symbol
  have ordinary : Ordinary alphabet own := by
    constructor
    · simp [own]
    · simp [own, replicate_succ, notDot]
    · simp [own, replicate_succ, notDot]
    · simp [own, plain.symm]
  have left := fresh (bound + 1) (by omega)
  have divided : [alphabet.separator].splitOn alphabet.separator = [[], []] :=
    splitOnP_append_cons [] [] (beq_self_eq_true _)
  have root : components alphabet [alphabet.separator] = [.rootDir] := by
    simp [components, divided, leading, component]
  have place : lexical alphabet (join alphabet [alphabet.separator] own) =
      [.normal own, .rootDir] := by
    rw [lexical, steps, components_join ordinary, root]
    rfl
  refine ⟨join alphabet [alphabet.separator] own, ?_⟩
  rintro ⟨names, leads⟩
  have back : .normal own ∈ lexical alphabet
      (join alphabet (join alphabet [alphabet.separator] own) name) := by
    simp [leads, place]
  revert back
  by_cases absolute : name.head? = some alphabet.separator
  · rw [join, if_pos absolute]
    exact not_mem_foldl_follow (by simp) not_mem_nil left
  · rw [lexical_join absolute, place]
    exact not_mem_of_climbing [] left (by simpa [Descends] using climbs)

end

section

variable (link : Place Symbol → Option (List Symbol))

/-- Follow the parts up to the first link, and what is then left to follow. -/
def advance (place : Place Symbol) :
    List (Component Symbol) → Place Symbol × Option (List (Component Symbol))
  | [] => (place, none)
  | .normal name :: rest =>
    match link (.normal name :: place) with
    | none => advance (.normal name :: place) rest
    | some target => (place, some (steps alphabet target ++ rest))
  | part :: rest => advance (follow place part) rest

/-- Follow the parts; every link starts a new walk, of which there are only so many. -/
def resolve : Nat → Place Symbol → List (Component Symbol) → Option (Place Symbol)
  | 0, _, _ => none
  | walks + 1, place, parts =>
    match advance alphabet link place parts with
    | (final, none) => some final
    | (here, some rest) => resolve walks here rest

variable {alphabet link}

/-- Without links the parts lead where they say. -/
theorem foldl_of_advance (unlinked : advance alphabet link place parts = (final, none)) :
    parts.foldl follow place = final := by
  induction parts generalizing place with
  | nil => exact congrArg Prod.fst unlinked
  | cons part rest ih =>
    cases part with
    | normal name =>
      rw [advance] at unlinked
      split at unlinked
      · exact ih unlinked
      · cases unlinked
    | _ => exact ih unlinked

theorem advance_append :
    advance alphabet link place (front ++ back) =
      match advance alphabet link place front with
      | (here, none) => advance alphabet link here back
      | (here, some rest) => (here, some (rest ++ back)) := by
  induction front generalizing place with
  | nil => rfl
  | cons part rest ih =>
    cases part with
    | normal name =>
      rw [cons_append, advance, advance]
      cases link (.normal name :: place) with
      | none => exact ih
      | some target => simp
    | _ => exact ih

/-- Parts without links are followed from where the front leads. -/
theorem resolve_append (reached : resolve alphabet link walks place front = some here)
    (unlinked : advance alphabet link here back = (final, none)) :
    resolve alphabet link walks place (front ++ back) = some final := by
  induction walks generalizing place front with
  | zero => cases reached
  | succ walks ih =>
    unfold resolve at reached ⊢
    rw [advance_append]
    cases walked : advance alphabet link place front with
    | mk stop rest =>
      rw [walked] at reached
      cases rest with
      | none =>
        cases reached
        simp only [unlinked]
      | some rest => exact ih reached

theorem advance_linkless :
    advance alphabet (fun _ => none) place parts =
      (parts.foldl follow place, none) := by
  induction parts generalizing place with
  | nil => rfl
  | cons part rest ih => cases part <;> exact ih

theorem resolve_linkless :
    resolve alphabet (fun _ => none) (walks + 1) place parts =
      some (parts.foldl follow place) := by
  rw [resolve, advance_linkless]

end

end Jackin.Foundation.Path
