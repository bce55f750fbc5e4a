import Jackin.Foundation.Wire

/-!
# Rendered JSON

JSON values and the bytes they are written as without any white space.  The
fields of an object stand in the order in which they are written.  In a text,
quotes, backslashes and control characters are escaped, everything else is
written in UTF-8.
-/

namespace Jackin.Foundation

inductive Json where
  | null
  | bool (value : Bool)
  | number (value : Nat)
  | string (value : String)
  | array (items : List Json)
  | object (fields : List (String × Json))

namespace Json

open Wire

def hexDigit (digit : Nat) : UInt8 :=
  if digit < 10 then UInt8.ofNat (48 + digit) else UInt8.ofNat (87 + digit)

/-- The bytes a character of a text is written as. -/
def escape (character : Char) : List UInt8 :=
  let code := character.toNat
  if code = 0x22 then utf8 "\\\""
  else if code = 0x5C then utf8 "\\\\"
  else if code = 0x08 then utf8 "\\b"
  else if code = 0x09 then utf8 "\\t"
  else if code = 0x0A then utf8 "\\n"
  else if code = 0x0C then utf8 "\\f"
  else if code = 0x0D then utf8 "\\r"
  else if code < 0x20 then utf8 "\\u00" ++ [hexDigit (code / 16), hexDigit (code % 16)]
  else String.utf8EncodeChar character

def renderString (text : String) : List UInt8 :=
  0x22 :: text.toList.flatMap escape ++ [0x22]

/-- A repeated character is written as often. -/
theorem renderString_replicate (plain : escape character = [byte]) :
    renderString (String.ofList (List.replicate count character)) =
      0x22 :: List.replicate count byte ++ [0x22] := by
  have written : (List.replicate count character).flatMap escape =
      List.replicate count byte := by
    induction count with
    | zero => rfl
    | succ count ih =>
      rw [List.replicate_succ, List.flatMap_cons, ih, plain]
      rfl
  rw [renderString, String.toList_ofList, written]

mutual

/-- The bytes of a value. -/
def render : Json → List UInt8
  | .null => utf8 "null"
  | .bool true => utf8 "true"
  | .bool false => utf8 "false"
  | .number value => utf8 (toString value)
  | .string value => renderString value
  | .array [] => utf8 "[]"
  | .array (first :: rest) => utf8 "[" ++ render first ++ renderItems rest ++ utf8 "]"
  | .object [] => utf8 "\x7b\x7d"
  | .object ((name, first) :: rest) =>
    utf8 "\x7b" ++ renderString name ++ utf8 ":" ++ render first ++ renderFields rest ++ utf8 "\x7d"

/-- The items after the first. -/
def renderItems : List Json → List UInt8
  | [] => []
  | item :: rest => utf8 "," ++ render item ++ renderItems rest

/-- The fields after the first. -/
def renderFields : List (String × Json) → List UInt8
  | [] => []
  | (name, value) :: rest =>
    utf8 "," ++ renderString name ++ utf8 ":" ++ render value ++ renderFields rest

end

end Json

end Jackin.Foundation
