import Mathlib

/-!
# Bytes on a wire

Numbers travel in big-endian order and texts in UTF-8.  A value and its bytes
fit together when the reader, given the bytes followed by anything, returns
the value and leaves what follows.  If every frame of a stream is taken off
the front exactly as it was written, then any list of frames is.
-/

namespace Jackin.Foundation.Wire

open List Nat

variable {bytes : List UInt8} {Value Result Frame : Type}
    {encodings : List (List UInt8)}

/-! ## Numbers and texts -/

/-- The low bytes of a number, the most significant first. -/
def bigEndian : Nat → Nat → List UInt8
  | 0, _ => []
  | width + 1, number => UInt8.ofNat (number / 256 ^ width) :: bigEndian width number

def fromBigEndian (bytes : List UInt8) : Nat :=
  bytes.foldl (fun number byte => number * 256 + byte.toNat) 0

@[simp]
theorem length_bigEndian : (bigEndian width number).length = width := by
  induction width with
  | zero => rfl
  | succ width ih => rw [bigEndian, length_cons, ih]

theorem foldl_bigEndian :
    (bigEndian width number).foldl (fun number byte => number * 256 + byte.toNat) start =
      start * 256 ^ width + number % 256 ^ width := by
  induction width generalizing start with
  | zero => simp [bigEndian, mod_one]
  | succ width ih =>
    have digit : (UInt8.ofNat (number / 256 ^ width)).toNat =
        number / 256 ^ width % 256 := UInt8.toNat_ofNat'
    rw [bigEndian, foldl_cons, ih, digit, pow_succ, mod_mul]
    ring

theorem fromBigEndian_bigEndian :
    fromBigEndian (bigEndian width number) = number % 256 ^ width := by
  rw [fromBigEndian, foldl_bigEndian, zero_mul, zero_add]

/-- What stands above the bytes that are kept does not matter. -/
theorem bigEndian_add :
    bigEndian width (high * 256 ^ width + low) = bigEndian width low := by
  induction width generalizing high with
  | zero => rfl
  | succ width ih =>
    have shifted : high * 256 ^ (width + 1) + low = high * 256 * 256 ^ width + low := by ring
    have digit : (high * 256 * 256 ^ width + low) / 256 ^ width =
        high * 256 + low / 256 ^ width := by
      rw [add_comm, add_mul_div_right _ _ (Nat.pow_pos (by decide)), add_comm]
    rw [bigEndian, shifted, ih]
    congr 1
    rw [← UInt8.toNat_inj, UInt8.toNat_ofNat', UInt8.toNat_ofNat']
    omega

/-- All bytes are those of a number. -/
theorem exists_bigEndian :
    ∃ number < 256 ^ bytes.length, bigEndian bytes.length number = bytes := by
  induction bytes with
  | nil => exact ⟨0, one_pos, rfl⟩
  | cons byte rest ih =>
    obtain ⟨number, bounded, digits⟩ := ih
    have small := mul_le_mul_right (256 ^ rest.length) (succ_le_of_lt byte.toNat_lt)
    rw [succ_mul] at small
    refine ⟨byte.toNat * 256 ^ rest.length + number, ?_, ?_⟩
    · rw [length_cons]
      omega
    · rw [length_cons, bigEndian, bigEndian_add, digits,
        add_comm, add_mul_div_right _ _ (Nat.pow_pos (by decide)),
        div_eq_of_lt bounded, zero_add, UInt8.ofNat_toNat]

theorem bigEndian_append_inj (small : first < 256 ^ width)
    (small' : second < 256 ^ width)
    (same : bigEndian width first ++ firstRest = bigEndian width second ++ secondRest) :
    first = second ∧ firstRest = secondRest := by
  obtain ⟨digits, rest⟩ := append_inj same (by simp)
  have number := congrArg fromBigEndian digits
  rw [fromBigEndian_bigEndian, fromBigEndian_bigEndian,
    mod_eq_of_lt small, mod_eq_of_lt small'] at number
  exact ⟨number, rest⟩

/-- Bytes behind their number in eight bytes. -/
def framed (bytes : List UInt8) : List UInt8 := bigEndian 8 bytes.length ++ bytes

/-- A frame tells where it ends. -/
theorem framed_append_inj (small : first.length < 256 ^ 8)
    (small' : second.length < 256 ^ 8)
    (same : framed first ++ firstRest = framed second ++ secondRest) :
    first = second ∧ firstRest = secondRest := by
  obtain ⟨length, rest⟩ := bigEndian_append_inj small small' same
  exact append_inj rest length

/-- The UTF-8 bytes of a text. -/
def utf8 (text : String) : List UInt8 := text.toUTF8.data.toList

/-- The text with these bytes, if they are valid UTF-8. -/
def fromUtf8 (bytes : List UInt8) : Option String :=
  String.fromUTF8? ⟨bytes.toArray⟩

@[simp]
theorem fromUtf8_utf8 : fromUtf8 (utf8 text) = some text := by
  have whole : (⟨(utf8 text).toArray⟩ : ByteArray) = text.toByteArray := by
    apply ByteArray.ext
    simp [utf8]
  rw [fromUtf8, String.fromUTF8?, whole, dif_pos text.isValidUTF8]
  rfl

theorem utf8_of_fromUtf8 (found : fromUtf8 bytes = some text) :
    utf8 text = bytes := by
  rw [fromUtf8, String.fromUTF8?] at found
  split at found
  · cases found
    simp [utf8, String.fromUTF8]
  · cases found

theorem utf8_injective : Function.Injective utf8 := by
  intro first second same
  have read := congrArg fromUtf8 same
  rwa [fromUtf8_utf8, fromUtf8_utf8, Option.some.injEq] at read

@[simp]
theorem utf8_empty : utf8 "" = [] := rfl

@[simp]
theorem utf8_eq_nil : utf8 text = [] ↔ text = "" :=
  ⟨fun empty => utf8_injective (empty.trans utf8_empty.symm), fun empty => empty ▸ utf8_empty⟩

/-! ## Readers -/

/-- Takes a value off the front of a byte string, or refuses. -/
abbrev Reader := StateT (List UInt8) (Except String)

namespace Reader

def refuse {Value : Type}
    (message : String) : Reader Value := fun _ => .error message

/-- Go on only if a condition holds. -/
def ensure (condition : Prop) [Decidable condition]
    (message : String) : Reader Unit :=
  if condition then pure () else refuse message

/-- What is left. -/
def left : Reader (List UInt8) := fun bytes => .ok (bytes, bytes)

/-- Whether nothing is left. -/
def finished : Reader Bool := do
  let bytes ← left
  pure bytes.isEmpty

/-- Read a value from a whole byte string. -/
def decode {Value : Type} (reader : Reader Value)
    (bytes : List UInt8) : Except String Value :=
  (reader.run bytes).map Prod.fst

variable {reader : Reader Value}

theorem decode_of_run (reads : reader.run bytes = .ok (value, [])) :
    reader.decode bytes = .ok value := by
  rw [decode, reads]
  rfl

/-- Once the first value is off the front, the rest reads what is left. -/
theorem run_bind {next : _ → Reader Other}
    (reads : reader.run bytes = .ok (value, rest)) :
    (reader >>= next).run bytes = (next value).run rest := by
  rw [StateT.run_bind, reads]
  rfl

/-- A sequence that reads a value has read both of its parts. -/
theorem run_bind_ok {next}
    (reads : (reader >>= next).run bytes = .ok (result, rest)) :
    ∃ value between, reader.run bytes = .ok (value, between) ∧
      (next value).run between = .ok (result, rest) := by
  rw [StateT.run_bind] at reads
  cases first : reader.run bytes with
  | error message =>
    rw [first] at reads
    cases reads
  | ok answer =>
    rw [first] at reads
    exact ⟨answer.1, answer.2, rfl, reads⟩

/-- A value at the end of the bytes. -/
theorem run_last (reads : ∀ rest, reader.run (bytes ++ rest) = .ok (value, rest)) :
    reader.run bytes = .ok (value, []) := by
  have atEnd := reads []
  rwa [append_nil] at atEnd

@[simp]
theorem run_pure :
    (pure value : Reader Value).run bytes = .ok (value, bytes) := rfl

@[simp]
theorem run_ensure {condition : Prop} [Decidable condition]
    (holds : condition) (message : String) (bytes : List UInt8) :
    (ensure condition message).run bytes = .ok ((), bytes) := by
  rw [ensure, if_pos holds]
  rfl

theorem run_ensure_bind {condition : Prop} [Decidable condition] {next}
    (reads : (ensure condition message >>= next).run bytes = .ok answer) :
    condition ∧ (next ()).run bytes = .ok answer := by
  by_cases holds : condition
  · rw [run_bind (run_ensure holds message bytes)] at reads
    exact ⟨holds, reads⟩
  · rw [ensure, if_neg holds] at reads
    cases reads

@[simp]
theorem run_finished : finished.run bytes = .ok (bytes.isEmpty, bytes) := rfl

end Reader

/-- How the reading of a stream ends. -/
inductive Ending where
  | endOfStream
  | truncated
  | failed (message : String)
  | unfinished

/-- A frame, or nothing if the stream ended within it, and what follows. -/
abbrev FrameReader
    (Frame : Type) := UInt8 → List UInt8 → Except String (Option Frame × List UInt8)

/-- Read frames until the stream ends, for so many frames. -/
def readFrames {Frame : Type}
    (read : FrameReader Frame) : Nat → List UInt8 → List Frame × Ending
  | 0, _ => ([], .unfinished)
  | _ + 1, [] => ([], .endOfStream)
  | turns + 1, tag :: stream =>
    match read tag stream with
    | .error message => ([], .failed message)
    | .ok (none, _) => ([], .truncated)
    | .ok (some frame, rest) =>
      let (frames, ending) := readFrames read turns rest
      (frame :: frames, ending)

/-- Every frame takes at least its tag, so there are no more turns to take. -/
def readAll {Frame : Type} (read : FrameReader Frame)
    (stream : List UInt8) : List Frame × Ending :=
  readFrames read (stream.length + 1) stream

/-- The reader takes a frame off the front of any stream it starts. -/
def Transmits {Frame : Type} (read : FrameReader Frame)
    (encoding : List UInt8) (frame : Frame) : Prop :=
  ∃ tag body, encoding = tag :: body ∧ ∀ rest, read tag (body ++ rest) = .ok (some frame, rest)

variable {read : FrameReader Frame} {frames : List Frame}

section

variable (each : Forall₂ (Transmits read) encodings frames)
include each

theorem readFrames_of_transmits (enough : frames.length < turns) :
    readFrames read turns encodings.flatten = (frames, .endOfStream) := by
  induction each generalizing turns with
  | nil =>
    cases turns with
    | zero => exact absurd enough (not_lt_zero _)
    | succ turns => rfl
  | cons first rest ih =>
    obtain ⟨_, _, rfl, reads⟩ := first
    cases turns with
    | zero => exact absurd enough (not_lt_zero _)
    | succ turns =>
      have later := ih (lt_of_succ_lt_succ enough)
      rw [flatten_cons, cons_append, readFrames]
      simp only [reads, later]

theorem length_le_of_transmits : frames.length ≤ encodings.flatten.length := by
  induction each with
  | nil => exact le_refl _
  | cons first rest ih =>
    obtain ⟨_, _, rfl, _⟩ := first
    rw [flatten_cons, length_append, length_cons, length_cons]
    omega

/-- Frames that are read back one by one are read back as a stream. -/
theorem readAll_of_transmits :
    readAll read encodings.flatten = (frames, .endOfStream) :=
  readFrames_of_transmits each (lt_succ_of_le (length_le_of_transmits each))

end

end Jackin.Foundation.Wire
