import Mathlib

/-!
# Values written as bytes

A few values have texts of their own, and every other value of a countable
type is written as its number in unary.  No text of a table may begin with
another one or look like a number.  Then every value is read back, and
nothing is read from bytes that lost their end.
-/

namespace Jackin.Foundation

open List Encodable

instance encodableByte : Encodable UInt8 :=
  .ofLeftInverse UInt8.toNat UInt8.ofNat fun _ => UInt8.ofNat_toNat

instance encodableChar : Encodable Char :=
  .ofLeftInverse Char.toNat Char.ofNat Char.ofNat_toNat

instance encodableString : Encodable String :=
  .ofLeftInverse String.toList String.ofList fun _ => String.ofList_toList

namespace Codec

/-- As many zeros, and a one. -/
def unary (number : Nat) : List UInt8 := replicate number 0 ++ [1]

def unary? (bytes : List UInt8) : Option Nat :=
  let number := bytes.length - 1
  if bytes = unary number then some number else none

theorem unary?_unary (number : Nat) : unary? (unary number) = some number := by
  simp [unary?, unary]

/-- No number ends in a zero. -/
theorem unary?_replicate (count : Nat) : unary? (replicate count 0) = none := by
  apply if_neg
  intro same
  have member : 1 ∈ replicate count (0 : UInt8) := by
    rw [same]
    simp [unary]
  exact absurd (eq_of_mem_replicate member) (by decide)

theorem headI_unary (number : Nat) : ¬1 < (unary number).headI := by
  cases number with
  | zero => decide
  | succ number => exact fun foreign => nomatch foreign

theorem unary?_eq_none (foreign : 1 < bytes.headI) : unary? bytes = none := by
  apply if_neg
  intro same
  exact headI_unary _ (same ▸ foreign)

end Codec

/-- The texts of a few values. -/
structure Texts (Value : Type) where
  entries : List (Value × List UInt8)
  /-- No text is empty or starts as a number. -/
  foreign : ∀ entry ∈ entries, 1 < entry.2.headI
  /-- No text begins with another one. -/
  apart : ∀ entry ∈ entries, ∀ other ∈ entries, entry.2 <+: other.2 → entry = other

namespace Texts

variable {Value : Type} [Encodable Value] (texts : Texts Value)

def read (bytes : List UInt8) : Option Value :=
  match texts.entries.find? (·.2 = bytes) with
  | some entry => some entry.1
  | none => (Codec.unary? bytes).bind decode

theorem read_text (member : entry ∈ texts.entries) :
    texts.read entry.2 = some entry.1 := by
  unfold read
  split
  · next other found =>
    have same : other.2 = entry.2 := by simpa using find?_some found
    rw [texts.apart other (mem_of_find?_eq_some found) entry member (same ▸ prefix_rfl)]
  · have missed := find?_eq_none.mp ‹_› entry member
    simp at missed

theorem read_number (unknown : ∀ entry ∈ texts.entries, entry.2 ≠ bytes) :
    texts.read bytes = (Codec.unary? bytes).bind decode := by
  have missed : texts.entries.find? (·.2 = bytes) = none := by simpa using unknown
  rw [read, missed]

variable [DecidableEq Value]

def write (value : Value) : List UInt8 :=
  match texts.entries.find? (·.1 = value) with
  | some entry => entry.2
  | none => Codec.unary (encode value)

theorem read_write (value : Value) :
    texts.read (texts.write value) = some value := by
  unfold write
  split
  · next entry found =>
    have same : entry.1 = value := by simpa using find?_some found
    rw [texts.read_text (mem_of_find?_eq_some found), same]
  · rw [texts.read_number, Codec.unary?_unary]
    · exact encodek value
    · intro entry member same
      exact Codec.headI_unary _ (same ▸ texts.foreign entry member)

theorem read_take (cut : extent < (texts.write value).length) :
    texts.read ((texts.write value).take extent) = none := by
  unfold write at cut ⊢
  split at cut
  · next entry found =>
    have member := mem_of_find?_eq_some found
    rw [texts.read_number]
    · cases extent with
      | zero => rfl
      | succ extent =>
        have foreign := texts.foreign entry member
        rw [Codec.unary?_eq_none]
        · rfl
        · cases text : entry.2 <;> simp_all
    · intro other listed same
      obtain rfl := texts.apart other listed entry member (same ▸ take_prefix extent entry.2)
      have short := congrArg length same
      rw [length_take] at short
      omega
  · have zeros : (Codec.unary (encode value)).take extent = replicate extent 0 := by
      simp only [Codec.unary, length_append, length_replicate, length_singleton] at cut
      rw [Codec.unary, take_append_of_le_length (by simp; omega), take_replicate,
        Nat.min_eq_left (by omega)]
    rw [zeros, texts.read_number, Codec.unary?_replicate]
    · rfl
    · intro entry member same
      have foreign := texts.foreign entry member
      rw [same] at foreign
      cases extent <;> cases foreign

end Texts

end Jackin.Foundation
