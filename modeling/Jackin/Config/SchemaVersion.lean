import Mathlib
import Jackin.Foundation.Result
import Jackin.Foundation.Text

/-!
# Schema versions

Versions are written like those of Kubernetes: a major version, and for
unstable ones the channel and a sequence number in it.  Numerals with leading
zeros are refused, so that a version has one spelling; but the standard library
also reads a sign in front of a numeral.
-/

namespace Jackin.Config.Schema

open Foundation Result Nat List

structure NonZeroU32 where
  number : UInt32
  positive : number ≠ 0
  deriving DecidableEq

inductive Channel where
  | alpha (seq : NonZeroU32)
  | beta (seq : NonZeroU32)
  | stable
  deriving DecidableEq

/-- A version such as `v1alpha2`. -/
structure KubernetesVersion where
  major : NonZeroU32
  channel : Channel
  deriving DecidableEq

/-- The decimal numeral of a number. -/
def NonZeroU32.display (number : NonZeroU32) : List Char :=
  toDigits 10 number.number.toNat

def Channel.display : Channel → List Char
  | .stable => []
  | .alpha seq => "alpha".toList ++ seq.display
  | .beta seq => "beta".toList ++ seq.display

def KubernetesVersion.display (version : KubernetesVersion) : List Char :=
  'v' :: (version.major.display ++ version.channel.display)

/-- Why a text is no version. -/
inductive VersionError where
  | missingV
  | missingMajor
  | leadingZeros (label : String)
  | invalidNumber (label : String) (raw : List Char)
  | zero (label : String)
  | missingSequence (channel : String)
  | unknownForm
  deriving DecidableEq

def parseCanonicalU32 (raw : List Char)
    (label : String) : Except VersionError UInt32 := do
  require (¬(1 < raw.length ∧ raw.head? = some '0')) (.leadingZeros label)
  present (Text.parseU32 raw) (.invalidNumber label raw)

/-- `NonZeroU32::new` -/
def nonZero (number : UInt32)
    (label : String) : Except VersionError NonZeroU32 :=
  if positive : number ≠ 0 then .ok ⟨number, positive⟩ else .error (.zero label)

def parseSequence (channel : String)
    (raw : List Char) : Except VersionError NonZeroU32 := do
  require (raw ≠ []) (.missingSequence channel)
  let number ← parseCanonicalU32 raw (channel ++ " sequence")
  nonZero number (channel ++ " sequence")

def parseChannel (suffix : List Char) : Except VersionError Channel :=
  if suffix = [] then .ok .stable
  else match suffix.dropPrefix? "alpha".toList, suffix.dropPrefix? "beta".toList with
  | some raw, _ => .alpha <$> parseSequence "alpha" raw
  | none, some raw => .beta <$> parseSequence "beta" raw
  | none, none => .error .unknownForm

def parseVersion (version : List Char) : Except VersionError KubernetesVersion := do
  let rest ← present (version.dropPrefix? ['v']) .missingV
  let raw := rest.takeWhile Char.isDigit
  require (raw ≠ []) .missingMajor
  let number ← parseCanonicalU32 raw "major version"
  let major ← nonZero number "major version"
  let channel ← parseChannel (rest.dropWhile Char.isDigit)
  return ⟨major, channel⟩

/-! ## Spellings -/

theorem exists_digitChar {symbol : Char} (digit : symbol.isDigit) :
    ∃ value < 10, symbol = digitChar value := by
  have range : 48 ≤ symbol.toNat ∧ symbol.toNat ≤ 57 := by
    simpa [Char.isDigit, UInt32.le_iff_toNat_le] using digit
  refine ⟨symbol.toNat - 48, by omega, ?_⟩
  rw [← Char.ofNat_toNat symbol]
  generalize symbol.toNat = code at *
  obtain ⟨low, high⟩ := range
  interval_cases code <;> rfl

/-- Digits without leading zeros are the numeral of the number they denote. -/
theorem toDigits_ofDigitChars {raw : List Char} (nonempty : raw ≠ [])
    (all : ∀ digit ∈ raw, digit.isDigit)
    (canonical : ¬(1 < raw.length ∧ raw.head? = some '0')) :
    toDigits 10 (ofDigitChars 10 raw 0) = raw := by
  induction raw using reverseRecOn with
  | nil => exact absurd rfl nonempty
  | append_singleton front last ih =>
    obtain ⟨value, small, rfl⟩ := exists_digitChar (all last (by simp))
    rw [ofDigitChars_append, ofDigitChars_cons_digitChar_of_lt_ten small, ofDigitChars_nil]
    cases front with
    | nil => exact (congrArg (toDigits 10) (by simp)).trans (toDigits_of_lt_base small)
    | cons head tail =>
      have front := ih nofun (fun digit member => all digit (mem_append_left _ member))
        (by grind)
      have positive : 0 < ofDigitChars 10 (head :: tail) 0 := by
        by_contra! zero
        rw [Nat.le_zero.mp zero] at front
        cases front
        exact canonical (by simp)
      rw [← toDigits_append_toDigits (by decide) positive small, front, toDigits_of_lt_base small]

theorem head?_toDigits (positive : 0 < number) :
    (toDigits 10 number).head? ≠ some '0' := by
  induction number using Nat.strong_induction_on with
  | h number ih =>
    by_cases small : number < 10
    · rw [toDigits_of_lt_base small]
      simpa using positive.ne'
    · rw [toDigits_of_base_le (by decide) (by omega), head?_append_of_ne_nil _ toDigits_ne_nil]
      exact ih _ (by omega) (by omega)

theorem isDigit_of_mem (member : symbol ∈ toDigits 10 number) :
    symbol.isDigit :=
  isDigit_of_mem_toDigits (by decide) (by decide) member

theorem parseCanonicalU32_eq_ok (plain : '+' ∉ raw) :
    parseCanonicalU32 raw label = .ok number ↔ raw = toDigits 10 number.toNat := by
  have signless : raw.head? ≠ some '+' := fun sign => plain (mem_of_mem_head? sign)
  simp only [parseCanonicalU32, bind_eq_ok, require_eq_ok, present_eq_ok, exists_const,
    Text.parseU32, if_neg signless]
  constructor
  · rintro ⟨canonical, parsed⟩
    split at parsed
    · rename_i valid
      cases parsed
      rw [UInt32.toNat_ofNat_of_lt' valid.2.2]
      exact (toDigits_ofDigitChars valid.1 (all_eq_true.mp valid.2.1) canonical).symm
    · cases parsed
  · rintro rfl
    refine ⟨?_, ?_⟩
    · rintro ⟨long, zero⟩
      refine head?_toDigits (Nat.pos_of_ne_zero fun none => ?_) zero
      simp [none] at long
    · rw [ofDigitChars_ten_toDigits, if_pos]
      · rw [UInt32.ofNat_toNat]
      · exact ⟨toDigits_ne_nil, all_eq_true.mpr fun _ => isDigit_of_mem, number.toNat_lt⟩

theorem nonZero_eq_ok :
    nonZero number label = .ok value ↔ number = value.number := by
  unfold nonZero
  split
  · rw [Except.ok.injEq, NonZeroU32.mk.injEq]
  · exact iff_of_false nofun fun same => absurd (same ▸ value.positive) ‹_›

theorem parseSequence_eq_ok (plain : '+' ∉ raw) :
    parseSequence channel raw = .ok seq ↔ raw = seq.display := by
  simp only [parseSequence, bind_eq_ok, require_eq_ok, parseCanonicalU32_eq_ok plain, nonZero_eq_ok,
    exists_const, exists_eq_right]
  exact and_iff_right_of_imp fun spelled => spelled ▸ toDigits_ne_nil

theorem dropPrefix?_eq_some {text front rest : List Char} :
    text.dropPrefix? front = some rest ↔ text = front ++ rest := by
  simp [dropPrefix?_eq_some_iff]

theorem parseChannel_eq_ok (plain : '+' ∉ suffix) :
    parseChannel suffix = .ok channel ↔ suffix = channel.display := by
  have read : ∀ {label raw}, suffix = label ++ raw → ∀ channel seq,
      parseSequence channel raw = .ok seq ↔ raw = seq.display := fun found _ _ =>
    parseSequence_eq_ok fun sign => plain (found ▸ mem_append_right _ sign)
  unfold parseChannel
  split
  · rename_i empty
    cases channel <;> simp [empty, Channel.display]
  · split
    · rename_i found
      rw [dropPrefix?_eq_some] at found
      cases channel <;> simp [found, Channel.display, read found]
    · rename_i found
      rw [dropPrefix?_eq_some] at found
      cases channel <;> simp [found, Channel.display, read found]
    · rename_i noAlpha noBeta
      have unlike : ∀ label rest, suffix.dropPrefix? label = none → suffix ≠ label ++ rest :=
        fun label rest absent same => nomatch absent.symm.trans (dropPrefix?_eq_some.mpr same)
      cases channel with
      | alpha seq => exact iff_of_false nofun (unlike _ _ noAlpha)
      | beta seq => exact iff_of_false nofun (unlike _ _ noBeta)
      | stable => exact iff_of_false nofun ‹_›

theorem not_mem_display {version : KubernetesVersion} :
    '+' ∉ version.display := by
  have digits : ∀ number : NonZeroU32, '+' ∉ number.display := fun number member =>
    absurd (isDigit_of_mem member) (by decide)
  obtain ⟨major, _ | _ | _⟩ := version <;>
    simp [KubernetesVersion.display, Channel.display, digits]

/-- The digits in front are those of the major version. -/
theorem display_cut {major : NonZeroU32}
    (other : suffix.takeWhile Char.isDigit = []) :
    rest = major.display ++ suffix ↔ rest.takeWhile Char.isDigit = major.display ∧
      rest.dropWhile Char.isDigit = suffix := by
  constructor
  · rintro rfl
    have all : ∀ symbol ∈ major.display, symbol.isDigit := fun _ => isDigit_of_mem
    rw [takeWhile_append_of_pos all, dropWhile_append_of_pos all, other, append_nil]
    have whole := takeWhile_append_dropWhile (p := Char.isDigit) (l := suffix)
    rw [other] at whole
    exact ⟨rfl, whole⟩
  · rintro ⟨front, back⟩
    rw [← front, ← back, takeWhile_append_dropWhile]

theorem takeWhile_channel (channel : Channel) :
    channel.display.takeWhile Char.isDigit = [] := by
  cases channel <;> simp [Channel.display]

theorem parseVersion_eq_ok (plain : '+' ∉ text) :
    parseVersion text = .ok version ↔ text = version.display := by
  obtain ⟨major, channel⟩ := version
  simp only [parseVersion, bind_eq_ok, require_eq_ok, present_eq_ok, dropPrefix?_eq_some,
    nonZero_eq_ok, pure_eq_ok, exists_const]
  constructor
  · rintro ⟨rest, rfl, _, _, numeral, major, rfl, channel, suffix, ⟨⟩⟩
    have plain : '+' ∉ rest := fun sign => plain (mem_cons_of_mem _ sign)
    rw [parseCanonicalU32_eq_ok (plain ∘ (takeWhile_sublist _).mem)] at numeral
    rw [parseChannel_eq_ok (plain ∘ (dropWhile_sublist _).mem)] at suffix
    exact congrArg _ ((display_cut (takeWhile_channel _)).mpr ⟨numeral, suffix⟩)
  · rintro rfl
    refine ⟨major.display ++ channel.display, rfl, ?_⟩
    obtain ⟨numeral, suffix⟩ := (display_cut (takeWhile_channel channel)).mp rfl
    rw [numeral, suffix]
    simp only [KubernetesVersion.display, mem_cons, mem_append, not_or] at plain
    exact ⟨toDigits_ne_nil, _, (parseCanonicalU32_eq_ok plain.2.1).mpr rfl, major, rfl, channel,
      (parseChannel_eq_ok plain.2.2).mpr rfl, rfl⟩

/-- The text has digits only, with a value that a non-zero word holds. -/
def Digits (text : List Char) : Prop :=
  (∀ symbol ∈ text, symbol.isDigit) ∧ 0 < ofDigitChars 10 text 0 ∧
    ofDigitChars 10 text 0 < UInt32.size

/-- A major version, the name of a channel, a plus sign and digits. -/
def SignedSpelling (text : List Char) : Prop :=
  ∃ major : NonZeroU32, ∃ label ∈ ["alpha", "beta"], ∃ digits, Digits digits ∧
    text = 'v' :: (major.display ++ (label.toList ++ '+' :: digits))

theorem parseCanonicalU32_signed (signed : '+' ∈ raw) :
    parseCanonicalU32 raw label = .ok number ↔
      ∃ digits, raw = '+' :: digits ∧ digits ≠ [] ∧
      (∀ symbol ∈ digits, symbol.isDigit) ∧
        ofDigitChars 10 digits 0 = number.toNat := by
  obtain ⟨head, tail, rfl⟩ := exists_cons_of_ne_nil (ne_nil_of_mem signed)
  simp only [parseCanonicalU32, bind_eq_ok, require_eq_ok, present_eq_ok, exists_const,
    Text.parseU32, head?_cons, Option.some.injEq, tail_cons, cons.injEq]
  by_cases sign : head = '+'
  · subst sign
    simp only [if_true, true_and, exists_eq_left', Option.ite_none_right_eq_some,
      Option.some.injEq, all_eq_true]
    constructor
    · rintro ⟨_, ⟨nonempty, all, small⟩, rfl⟩
      exact ⟨nonempty, all, (UInt32.toNat_ofNat_of_lt' small).symm⟩
    · rintro ⟨nonempty, all, value⟩
      refine ⟨by simp, ⟨nonempty, all, value ▸ number.toNat_lt⟩, ?_⟩
      rw [value, UInt32.ofNat_toNat]
  · refine iff_of_false ?_ ?_
    · rw [if_neg sign, if_neg]
      · rintro ⟨_, ⟨⟩⟩
      · exact fun read => absurd (all_eq_true.mp read.2.1 _ signed) (by decide)
    · rintro ⟨_, same, _⟩
      exact sign same.1

theorem parseSequence_signed (signed : '+' ∈ raw) :
    (∃ seq, parseSequence channel raw = .ok seq) ↔
      ∃ digits, Digits digits ∧ raw = '+' :: digits := by
  simp only [parseSequence, bind_eq_ok, require_eq_ok, parseCanonicalU32_signed signed,
    nonZero_eq_ok, exists_const, exists_eq_right]
  constructor
  · rintro ⟨seq, _, digits, rfl, _, all, value⟩
    refine ⟨digits, ⟨all, ?_, value ▸ seq.number.toNat_lt⟩, rfl⟩
    rw [value]
    exact Nat.pos_of_ne_zero fun zero => seq.positive (UInt32.toNat.inj zero)
  · rintro ⟨digits, ⟨all, positive, small⟩, rfl⟩
    have value := UInt32.toNat_ofNat_of_lt' small
    refine ⟨⟨.ofNat (ofDigitChars 10 digits 0), ?_⟩, cons_ne_nil _ _, digits, rfl, ?_,
      all, value.symm⟩
    · rintro zero
      rw [zero] at value
      exact positive.ne value
    · rintro rfl
      cases positive

theorem parseChannel_signed (signed : '+' ∈ suffix) :
    (∃ channel, parseChannel suffix = .ok channel) ↔
      ∃ label ∈ ["alpha", "beta"], ∃ digits, Digits digits ∧
        suffix = label.toList ++ '+' :: digits := by
  have read (label : String) (raw) (unsigned : '+' ∉ label.toList)
      (found : suffix = label.toList ++ raw) (channel) :
      (∃ seq, parseSequence channel raw = .ok seq) ↔
        ∃ digits, Digits digits ∧ raw = '+' :: digits := by
    rw [found] at signed
    exact parseSequence_signed ((mem_append.mp signed).resolve_left unsigned)
  rw [parseChannel, if_neg (ne_nil_of_mem signed)]
  simp only [mem_cons, not_mem_nil, or_false, exists_eq_or_imp, exists_eq_left]
  split
  · rename_i raw found
    rw [dropPrefix?_eq_some] at found
    simp [found, functorMap_eq_ok, ← read "alpha" raw (by decide) found "alpha"]
  · rename_i raw _ found
    rw [dropPrefix?_eq_some] at found
    simp [found, functorMap_eq_ok, ← read "beta" raw (by decide) found "beta"]
  · rename_i noAlpha noBeta
    refine iff_of_false (by rintro ⟨_, ⟨⟩⟩) ?_
    rintro (⟨digits, _, same⟩ | ⟨digits, _, same⟩)
    · cases noAlpha.symm.trans (dropPrefix?_eq_some.mpr same)
    · cases noBeta.symm.trans (dropPrefix?_eq_some.mpr same)

theorem parseVersion_signed (signed : '+' ∈ text) :
    (∃ version, parseVersion text = .ok version) ↔ SignedSpelling text := by
  have unsigned (rest : List Char) : '+' ∉ rest.takeWhile Char.isDigit := fun sign =>
    absurd (mem_takeWhile_imp sign) (by decide)
  simp only [parseVersion, bind_eq_ok, require_eq_ok, present_eq_ok, dropPrefix?_eq_some,
    nonZero_eq_ok, pure_eq_ok, exists_const]
  constructor
  · rintro ⟨_, rest, rfl, _, _, numeral, major, rfl, channel, suffix, _⟩
    rw [parseCanonicalU32_eq_ok (unsigned rest)] at numeral
    have later : '+' ∈ rest.dropWhile Char.isDigit := by
      have inside : '+' ∈ rest := by simpa using signed
      rw [← takeWhile_append_dropWhile (p := Char.isDigit) (l := rest), mem_append] at inside
      exact inside.resolve_left (unsigned rest)
    obtain ⟨label, known, digits, valid, spelled⟩ := (parseChannel_signed later).mp ⟨_, suffix⟩
    have whole := takeWhile_append_dropWhile (p := Char.isDigit) (l := rest)
    rw [numeral, spelled] at whole
    exact ⟨major, label, known, digits, valid, congrArg (cons 'v') whole.symm⟩
  · rintro ⟨major, label, known, digits, valid, rfl⟩
    obtain ⟨channel, suffix⟩ := (parseChannel_signed (by simp)).mpr
      ⟨label, known, digits, valid, rfl⟩
    have other : (label.toList ++ '+' :: digits).takeWhile Char.isDigit = [] := by
      simp only [mem_cons, not_mem_nil, or_false] at known
      obtain rfl | rfl := known <;> simp
    obtain ⟨numeral, rest⟩ := (display_cut other).mp (Eq.refl (major.display ++ _))
    refine ⟨⟨major, channel⟩, major.display ++ (label.toList ++ '+' :: digits), rfl, ?_⟩
    rw [numeral, rest]
    exact ⟨toDigits_ne_nil, _, (parseCanonicalU32_eq_ok (numeral ▸ unsigned _)).mpr rfl, major,
      rfl, channel, suffix, rfl⟩

/--
A text spells the version it is read as, and no other one, unless it has the
number of its channel with a sign.
-/
theorem version_spelled_once_iff (text : List Char) :
    (∀ version, parseVersion text = .ok version ↔ text = version.display) ↔
      ¬SignedSpelling text := by
  constructor
  · rintro once spelling
    have signed : '+' ∈ text := by
      obtain ⟨_, _, _, _, _, rfl⟩ := spelling
      simp
    obtain ⟨version, read⟩ := (parseVersion_signed signed).mpr spelling
    exact not_mem_display ((once version).mp read ▸ signed)
  · intro unsigned version
    by_cases signed : '+' ∈ text
    · refine iff_of_false (fun read => ?_) fun spelled => not_mem_display (spelled ▸ signed)
      exact unsigned ((parseVersion_signed signed).mp ⟨version, read⟩)
    · exact parseVersion_eq_ok signed

theorem signed_sequence_read :
    parseVersion "v1alpha+1".toList = .ok ⟨⟨1, by decide⟩, .alpha ⟨1, by decide⟩⟩ ∧
      "v1alpha+1".toList ≠
        KubernetesVersion.display ⟨⟨1, by decide⟩, .alpha ⟨1, by decide⟩⟩ := by
  decide

end Jackin.Config.Schema
