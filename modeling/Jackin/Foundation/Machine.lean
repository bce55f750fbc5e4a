import Mathlib

/-!
# Saturating integers, durations and deadlines

Times are kept as signed seconds and as durations.  Signed sums saturate at
the ends of their range, unsigned counters at their maximum, and durations,
which count nanoseconds, at the longest one.  A deadline that may be missing is
raised by taking the later of it and a floor.
-/

namespace Jackin.Foundation.Machine

variable {bound : Int}

def i64Max : Int := 9223372036854775807

def i64Min : Int := -9223372036854775808

def u64Max : Nat := 18446744073709551615

def u32Max : Nat := 4294967295

/-- Saturating sum of signed seconds. -/
def addI64 (left right : Int) : Int := max i64Min (min i64Max (left + right))

/-- The saturating successor of a 64-bit counter. -/
def nextU64 (count : Nat) : Nat := if count < u64Max then count + 1 else count

/-- The saturating successor of a 32-bit counter. -/
def nextU32 (count : Nat) : Nat := if count < u32Max then count + 1 else count

/-- An unsigned number of seconds as a signed one. -/
def toI64 (seconds : Nat) : Int := min (seconds : Int) i64Max

theorem addI64_of_le (nonnegative : 0 ≤ left + right)
    (small : left + right ≤ i64Max) : addI64 left right = left + right := by
  unfold addI64
  unfold i64Min
  omega

theorem lt_nextU64 (below : nextU64 count < u64Max) :
    count < nextU64 count := by
  unfold nextU64 at below ⊢
  split at below <;> simp_all

theorem le_nextU64 : count ≤ nextU64 count := by
  unfold nextU64
  split <;> omega

/-- Nanoseconds in a second. -/
def nanos : Nat := 1000000000

/-- A duration of whole seconds. -/
def ofSecs (seconds : Nat) : Nat := seconds * nanos

/-- The whole seconds of a duration. -/
def asSecs (duration : Nat) : Nat := duration / nanos

/-- The longest duration. -/
def durationMax : Nat := u64Max * nanos + 999999999

/-- Saturating sum of durations. -/
def addDuration (left right : Nat) : Nat := min (left + right) durationMax

theorem le_addDuration {bound left right} (sum : bound ≤ left + right)
    (representable : bound ≤ durationMax) : bound ≤ addDuration left right :=
  le_min sum representable

/-! ## Deadlines -/

/-- The later of a deadline, if there is one, and a floor. -/
def raise (deadline : Option Int) (floor : Int) : Int :=
  match deadline with
  | some present => max present floor
  | none => floor

/-- Raise a deadline to a floor, if there is one. -/
def raiseTo (deadline floor : Option Int) : Option Int :=
  match floor with
  | some bound => some (raise deadline bound)
  | none => deadline

/-- The latest of the deadlines that are set. -/
def latest (deadlines : List (Option Int)) : Option Int :=
  deadlines.foldl raiseTo none

/-- There is a deadline, and it is not before a bound. -/
def AtLeast (bound : Int) (deadline : Option Int) : Prop :=
  ∃ present, deadline = some present ∧ bound ≤ present

theorem AtLeast.raise (atLeast : AtLeast bound deadline) :
    bound ≤ raise deadline floor := by
  obtain ⟨_, rfl, le⟩ := atLeast
  exact le.trans (le_max_left _ _)

theorem floor_le_raise : floor ≤ raise deadline floor := by
  cases deadline with
  | some present => exact le_max_right _ _
  | none => exact le_refl _

/-- Raising a deadline never brings it forward. -/
theorem AtLeast.raiseTo (atLeast : AtLeast bound deadline)
    (floor : Option Int) :
    AtLeast bound (raiseTo deadline floor) := by
  cases floor with
  | some floor => exact ⟨_, rfl, atLeast.raise⟩
  | none => exact atLeast

/-- A raised deadline is not before its floor. -/
theorem AtLeast.raiseTo_floor (atLeast : AtLeast bound floor)
    (deadline : Option Int) :
    AtLeast bound (Machine.raiseTo deadline floor) := by
  obtain ⟨_, rfl, le⟩ := atLeast
  exact ⟨_, rfl, le.trans floor_le_raise⟩

theorem AtLeast.foldl_raiseTo (atLeast : AtLeast bound deadline)
    {deadlines : List (Option Int)} :
    AtLeast bound (deadlines.foldl Machine.raiseTo deadline) := by
  induction deadlines generalizing deadline with
  | nil => exact atLeast
  | cons next rest ih => exact ih (atLeast.raiseTo next)

/-- The latest deadline is not before any of them. -/
theorem AtLeast.latest (atLeast : AtLeast bound deadline)
    (member : deadline ∈ deadlines) :
    AtLeast bound (latest deadlines) := by
  unfold Machine.latest
  generalize (none : Option Int) = initial
  induction deadlines generalizing initial with
  | nil => cases member
  | cons next rest ih =>
    rcases List.mem_cons.mp member with rfl | later
    · exact (atLeast.raiseTo_floor initial).foldl_raiseTo
    · exact ih later (Machine.raiseTo initial next)

end Jackin.Foundation.Machine
