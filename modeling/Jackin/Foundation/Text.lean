import Mathlib

/-!
# Blank texts and tokens

Texts are compared, trimmed and cut at white space.  White space is the
Unicode property of that name, which is what trimming and token splitting use.
-/

namespace Jackin.Foundation.Text

open String

variable {Symbol : Type}

/-- The Unicode `White_Space` property. -/
def isWhitespace (character : Char) : Bool :=
  let code := character.toNat
  (0x0009 ≤ code && code ≤ 0x000D) || code == 0x0020 || code == 0x0085 || code == 0x00A0 || code ==
    0x1680 || (0x2000 ≤ code && code ≤ 0x200A) || code == 0x2028 || code == 0x2029 || code == 0x202F
    || code == 0x205F || code == 0x3000

/-- `char::is_control` -/
def isControl (character : Char) : Bool :=
  character.toNat < 0x20 || (0x7F ≤ character.toNat && character.toNat ≤ 0x9F)

/-- `str::parse::<u32>` reads a sign. -/
def parseU32 (raw : List Char) : Option UInt32 :=
  let digits := if raw.head? = some '+' then raw.tail else raw
  let number := Nat.ofDigitChars 10 digits 0
  if digits ≠ [] ∧ digits.all Char.isDigit ∧ number < UInt32.size then some (.ofNat number)
  else none

/-- A text with nothing left after trimming. -/
def isBlank (text : String) : Bool := text.toList.all isWhitespace

/-- The first white-space separated token, or the empty text. -/
def firstToken (text : String) : String :=
  String.ofList
    ((text.toList.dropWhile isWhitespace).takeWhile (fun character => !isWhitespace character))

/-- A non-empty token without white space, path separators or null. -/
def isPathSafe (text : String) : Bool :=
  !isBlank text && !text.toList.any (fun character =>
      isWhitespace character || character == '/' || character == Char.ofNat 0)

/-- A non-empty text of hexadecimal digits. -/
def isHexadecimal (text : String) : Bool :=
  !text.toList.isEmpty && text.toList.all (fun character =>
      character.isDigit || ('a' ≤ character && character ≤ 'f'))

/-- Where two joined texts can be the same although their parts differ. -/
theorem append_cons_eq_append_cons_iff :
    first ++ separator :: rest = second ++ separator :: others ↔
      first = second ∧ rest = others ∨
        (∃ part, first = second ++ separator :: part ∧ others = part ++ separator :: rest) ∨
        ∃ part, second = first ++ separator :: part ∧ rest = part ++ separator :: others := by
  constructor
  · intro same
    rcases List.append_eq_append_iff.mp same with ⟨middle, longer, parts⟩ | ⟨middle, longer, parts⟩
    all_goals
      cases middle <;> simp_all
  · rintro (⟨rfl, rfl⟩ | ⟨part, rfl, rfl⟩ | ⟨part, rfl, rfl⟩) <;> simp

/-- The part after the last separator determines the part before it. -/
theorem append_separator_inj
    (firstFree : separator ∉ firstRest) (secondFree : separator ∉ secondRest)
    (same : first ++ separator :: firstRest = second ++ separator :: secondRest) :
    first = second ∧ firstRest = secondRest := by
  rcases append_cons_eq_append_cons_iff.mp same with
    whole | ⟨part, longer, rfl⟩ | ⟨part, longer, rfl⟩
  · exact whole
  · exact absurd (by simp) secondFree
  · exact absurd (by simp) firstFree

/-- The part before the first separator determines the part after it. -/
theorem separator_append_inj (firstFree : separator ∉ first)
    (secondFree : separator ∉ second)
    (same : first ++ separator :: firstRest = second ++ separator :: secondRest) :
    first = second ∧ firstRest = secondRest := by
  rcases append_cons_eq_append_cons_iff.mp same with whole | ⟨part, rfl, _⟩ | ⟨part, rfl, _⟩
  · exact whole
  · exact absurd (by simp) firstFree
  · exact absurd (by simp) secondFree

/-- Texts with as many bytes in front of one text are the same. -/
theorem append_inj_of_size {first second : String}
    (size : first.utf8ByteSize = second.utf8ByteSize)
    (same : first.toList ++ firstRest = second.toList ++ secondRest) :
    first = second ∧ firstRest = secondRest := by
  have shorter : ∀ {short long : String} {part : List Char},
      short.utf8ByteSize = long.utf8ByteSize →
      long.toList = short.toList ++ part → part = [] := by
    intro short long part size longer
    have joined : long = short ++ ofList part := by
      apply toList_injective
      rw [longer, toList_append, toList_ofList]
    rw [joined, utf8ByteSize_append] at size
    have empty : ofList part = "" := utf8ByteSize_eq_zero_iff.mp (by omega)
    simpa using empty
  rcases List.append_eq_append_iff.mp same with ⟨part, longer, rest⟩ | ⟨part, longer, rest⟩
  · cases shorter size longer
    exact ⟨toList_injective (by simpa using longer.symm), rest⟩
  · cases shorter size.symm longer
    exact ⟨toList_injective (by simpa using longer), rest.symm⟩

/-- A decimal numeral has only digits. -/
theorem not_mem_toString {number : Nat} (other : symbol.isDigit = false) :
    symbol ∉ (toString number).toList := by
  intro member
  have digits : (toString number).toList = Nat.toDigits 10 number := Nat.toList_repr
  rw [digits] at member
  have digit := Nat.isDigit_of_mem_toDigits (by decide) (by decide) member
  rw [other] at digit
  cases digit

end Jackin.Foundation.Text
