import Mathlib
import Jackin.Foundation.Machine
import Jackin.Foundation.Text

/-!
# Terminal input events and escape sequences

A terminal sends bytes; the capsule turns them into events.  This module has
the events, the two keymaps that single bytes are looked up in, and the
classification of the escape sequences that are not passed on as they are.
The table from raw bytes to key chords is a parameter.
-/

namespace Jackin.Terminal

open Foundation

inductive ArrowDir where
  | left
  | right
  | up
  | down
  deriving DecidableEq

/-- A command after the prefix key. -/
inductive PrefixCommand where
  | newTab
  | nextTab
  | prevTab
  | jumpTab (index : Nat)
  | splitTopBottom
  | splitSideBySide
  | moveFocus (direction : ArrowDir)
  | zoomToggle
  | killPane
  | killTab
  | clearPane
  | detach
  | usage
  | palette
  | redraw
  deriving DecidableEq

/-- What the multiplexer is told. -/
inductive InputEvent where
  | data (bytes : List UInt8)
  | mousePress (col row button : Nat)
  | mouseRelease (col row button : Nat)
  | prefixCommand (command : PrefixCommand)
  | openPalette
  | requestExit
  | resizePane (direction : ArrowDir)
  | focusIn
  | focusOut
  deriving DecidableEq

/-- The chords that the keymaps name, and all others. -/
inductive KeyChord where
  | plain (character : Char)
  | ctrl (character : Char)
  | other (code : Nat)
  deriving DecidableEq

/-- `raw_bytes_to_chord` of the terminal library, for one byte. -/
abbrev Keyboard := UInt8 → Option KeyChord

/-- Bindings of chords to actions; the first one that has the chord counts. -/
def dispatch {Action : Type} (bindings : List (List KeyChord × Action))
    (chord : KeyChord) : Option Action :=
  (bindings.find? fun binding => binding.1.contains chord).map Prod.snd

def capsuleGlobalKeymap : List (List KeyChord × InputEvent) :=
  [([.ctrl 'q'], .requestExit)]

def prefixCommandKeymap : List (List KeyChord × PrefixCommand) :=
  [([.plain 'c'], .newTab), ([.plain 'n'], .nextTab),
    ([.plain 'x'], .killPane), ([.plain 'h'], .moveFocus .left),
    ([.plain 'j'], .moveFocus .down), ([.plain 'k'], .moveFocus .up),
    ([.plain 'l'], .moveFocus .right), ([.plain '"'], .splitTopBottom),
    ([.plain '%'], .splitSideBySide), ([.plain 'z'], .zoomToggle),
    ([.plain 'p'], .prevTab), ([.plain '&'], .killTab),
    ([.ctrl 'l'], .clearPane), ([.plain 'd'], .detach),
    ([.plain 'u'], .usage), ([.plain ' ', .plain ':'], .palette),
    ([.plain 'r'], .redraw), ([.plain '0'], .jumpTab 0),
    ([.plain '1'], .jumpTab 1), ([.plain '2'], .jumpTab 2),
    ([.plain '3'], .jumpTab 3), ([.plain '4'], .jumpTab 4),
    ([.plain '5'], .jumpTab 5), ([.plain '6'], .jumpTab 6),
    ([.plain '7'], .jumpTab 7), ([.plain '8'], .jumpTab 8),
    ([.plain '9'], .jumpTab 9)]

variable (keyboard : Keyboard)

variable (sequence : List UInt8) (byte : UInt8)

/-- The event of a byte that is a global shortcut. -/
def globalEvent : Option InputEvent := do
  let chord ← keyboard byte
  dispatch capsuleGlobalKeymap chord

def prefixBinding : Option PrefixCommand := do
  let chord ← keyboard byte
  dispatch prefixCommandKeymap chord

def ascii (text : String) : List UInt8 :=
  text.toList.map fun character => UInt8.ofNat character.toNat

def escape : UInt8 := 0x1b

/-- `str::parse::<u32>` of the text that the bytes are. -/
def parseU32 (bytes : List UInt8) : Option Nat :=
  (Text.parseU32 (bytes.map fun byte => Char.ofNat byte.toNat)).map UInt32.toNat

/-- `splitn(2, ..)`: the part before the first separator and the rest. -/
def splitOnce (separator : UInt8)
    (bytes : List UInt8) : List UInt8 × Option (List UInt8) :=
  match bytes.dropWhile (· ≠ separator) with
  | [] => (bytes, none)
  | _ :: rest => (bytes.takeWhile (· ≠ separator), some rest)

def stripPrefix? (front bytes : List UInt8) : Option (List UInt8) :=
  if front.isPrefixOf bytes then some (bytes.drop front.length) else none

def stripLast? (last : UInt8) (bytes : List UInt8) : Option (List UInt8) :=
  if bytes.getLast? = some last then some bytes.dropLast else none

def parseCsiUKey (rest : List UInt8) : Option (Nat × Option Nat × Option Nat) := do
  let (first, second) := splitOnce 0x3b rest
  let codepoint ← parseU32 first
  match second with
  | none => some (codepoint, none, none)
  | some modifierAndEvent => do
    let (modifierPart, eventPart) := splitOnce 0x3a modifierAndEvent
    let modifier ← parseU32 modifierPart
    some (codepoint, some modifier, eventPart.bind parseU32)

def parseXtermModifyOtherKeys : Option (Nat × Nat) := do
  let body ← stripPrefix? [escape, 0x5b] sequence
  let body ← stripLast? 0x7e body
  match body.splitOn 0x3b with
  | [first, second, third] => do
    let leading ← parseU32 first
    if leading ≠ 27 then none
    else do
      let modifier ← parseU32 second
      let codepoint ← parseU32 third
      some (codepoint, modifier)
  | _ => none

/-! ## Classification -/

/-- What a complete sequence means. -/
inductive CsiClassification where
  | unknown
  | suppress
  | event (event : InputEvent)

def csiUControlByte (codepoint : Nat) (modifier : Option Nat) : Option UInt8 :=
  if codepoint ≤ 0x1f then some (UInt8.ofNat codepoint)
  else do
    let modifier ← modifier
    if (modifier - 1) / 4 % 2 = 0 then none
    else if 0x61 ≤ codepoint ∧ codepoint ≤ 0x7a then some (UInt8.ofNat (codepoint - 0x61 + 1))
    else if 0x41 ≤ codepoint ∧ codepoint ≤ 0x5a then some (UInt8.ofNat (codepoint - 0x41 + 1))
    else if codepoint = 0x5c then some 0x1c
    else if codepoint = 0x5d then some 0x1d
    else if codepoint = 0x5e then some 0x1e
    else if codepoint = 0x5f then some 0x1f
    else none

def dispatchControlByte (control : UInt8)
    (paletteKey : Option UInt8) : Option InputEvent :=
  if some control = paletteKey then some .openPalette
  else globalEvent keyboard control

/-- A control byte that means nothing leaves the sequence unknown. -/
def controlClassification (control : UInt8)
    (paletteKey : Option UInt8) : CsiClassification :=
  match dispatchControlByte keyboard control paletteKey with
  | some event => .event event
  | none => .unknown

/-- Sequences that end in `u`; `none` when the later checks go on. -/
def classifyCsiU (paletteKey : Option UInt8) : Option CsiClassification :=
  match (stripPrefix? [escape, 0x5b] sequence).bind (stripLast? 0x75) with
  | none => none
  | some rest =>
    match parseCsiUKey rest with
    | none => some .unknown
    | some (codepoint, modifier, event) =>
      if event = some 3 then some .suppress
      else if codepoint = 27 ∧ modifier.getD 1 = 1 then some (.event (.data [escape]))
      else if event = none ∨ event = some 1 ∨ event = some 2 then
        (csiUControlByte codepoint modifier).map fun control =>
          controlClassification keyboard control paletteKey
      else none

def arrowDirection : Option ArrowDir :=
  match byte with
  | 0x41 => some .up
  | 0x42 => some .down
  | 0x43 => some .right
  | 0x44 => some .left
  | _ => none

/-- The event number of a key report, by default a press. -/
def eventNumber : Option (List UInt8) → Nat
  | some part => (parseU32 part).getD 1
  | none => 1

/-- Arrow keys with a modifier; `none` when the later checks go on. -/
def classifyArrow : Option CsiClassification := do
  let rest ← stripPrefix? [escape, 0x5b, 0x31, 0x3b] sequence
  let finalByte ← rest.getLast?
  let direction ← arrowDirection finalByte
  let body := rest.dropLast
  let (modifierPart, eventPart) := splitOnce 0x3a body
  let event := eventNumber eventPart
  let modifier := (parseU32 modifierPart).getD 1
  if event = 3 then some .suppress
  else if modifier = 4 then some (.event (.resizePane direction))
  else if modifier = 1 ∧ body.contains 0x3a then some (.event (.data [escape, 0x5b, finalByte]))
  else none

/-- Mouse reports in the SGR encoding. -/
def classifySgrMouse : Option CsiClassification := do
  let rest ← stripPrefix? [escape, 0x5b, 0x3c] sequence
  let finalByte ← rest.getLast?
  if finalByte = 0x4d ∨ finalByte = 0x6d then do
    let params ← (rest.dropLast.splitOn 0x3b).mapM parseU32
    match params with
    | first :: second :: third :: _ =>
      let button := min first 0xff
      let col := min second 0xffff - 1
      let row := min third 0xffff - 1
      if finalByte = 0x4d then some (.event (.mousePress col row button))
      else some (.event (.mouseRelease col row button))
    | _ => none
  else none

def classifyCsi (paletteKey : Option UInt8) : CsiClassification :=
  if sequence = [escape, 0x5b, 0x49] then .event .focusIn
  else if sequence = [escape, 0x5b, 0x4f] then .event .focusOut
  else
    match classifyCsiU keyboard sequence paletteKey with
    | some classification => classification
    | none =>
      if sequence.getLast? = some 0x74 then .suppress
      else
        match parseXtermModifyOtherKeys sequence with
        | some (13, 2) => .event (.data (escape :: ascii "[13;2u"))
        | other =>
          match other.bind fun (codepoint, modifier) =>
              csiUControlByte codepoint (some modifier) with
          | some control => controlClassification keyboard control paletteKey
          | none =>
            match classifyArrow sequence with
            | some classification => classification
            | none => (classifySgrMouse sequence).getD .unknown

def classifyX10Mouse : Option InputEvent :=
  match sequence with
  | [first, second, third, buttonByte, colByte, rowByte] =>
    if [first, second, third] = [escape, 0x5b, 0x4d] ∧ 32 ≤ buttonByte.toNat ∧ 33 ≤ colByte.toNat ∧
        33 ≤ rowByte.toNat then
      let button := buttonByte.toNat - 32
      let col := colByte.toNat - 33
      let row := rowByte.toNat - 33
      if button % 4 = 3 ∧ button / 32 % 2 = 0 then some (.mouseRelease col row 0)
      else some (.mousePress col row button)
    else none
  | _ => none

end Jackin.Terminal
