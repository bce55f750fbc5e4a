import Jackin.Terminal.Sequences

/-!
# The terminal input parser

Between two calls the parser keeps a state, the bytes of an unfinished escape
sequence and whether it is inside a bracketed paste; the data bytes gathered
for the next event are local to one call and are flushed when it ends.

Inside a paste every byte is data, and the paste ends when the gathered data
ends in the end marker.
-/

namespace Jackin.Terminal

/-- Where the parser is in a sequence. -/
inductive State where
  | idle
  | prefixAwait
  | escStart
  | csi
  | x10Mouse
  | osc
  | otherEsc
  | ss3
  deriving DecidableEq

structure InputParser where
  prefixKey : Option UInt8
  paletteKey : Option UInt8
  state : State
  seq : List UInt8
  inPaste : Bool
  deriving DecidableEq

def maxEscSeqLen : Nat := 16 * 1024

def pasteStart : List UInt8 := escape :: ascii "[200~"

def pasteEnd : List UInt8 := escape :: ascii "[201~"

namespace InputParser

/-- A parser before any input. -/
def new (prefixKey paletteKey : Option UInt8) : InputParser where
  prefixKey := prefixKey
  paletteKey := paletteKey
  state := .idle
  seq := []
  inPaste := false

/-- Back to idle, with the sequence taken. -/
def reset (parser : InputParser) : InputParser := { parser with state := .idle, seq := [] }

/-- On to another state, with the sequence so far. -/
def await (parser : InputParser) (state : State)
    (seq : List UInt8) : InputParser :=
  { parser with state, seq }

end InputParser

/-! ## One byte outside a paste -/

/-- What a byte does: first the flush, then what is added. -/
structure Response where
  parser : InputParser
  flushes : Bool
  data : List UInt8
  events : List InputEvent

variable (parser : InputParser)

/-- Only the kept state changes. -/
def quiet : Response where
  parser := parser
  flushes := false
  data := []
  events := []

/-- An event without a flush. -/
def emit (event : InputEvent) : Response where
  parser := parser
  flushes := false
  data := []
  events := [event]

/-- A byte for the program. -/
def gather (byte : UInt8) : Response where
  parser := parser
  flushes := false
  data := [byte]
  events := []

/-- The gathered data ends here. -/
def interrupt (events : List InputEvent) : Response where
  parser := parser
  flushes := true
  data := []
  events := events

/-- A finished sequence is an event, is dropped, or is data. -/
def conclude (seq : List UInt8) : CsiClassification → Response
  | .event event => emit parser.reset event
  | .suppress => quiet parser.reset
  | .unknown => emit parser.reset (.data seq)

variable (keyboard : Keyboard)

variable (parser : InputParser) (byte : UInt8)

def respondIdle : Response :=
  if some byte = parser.paletteKey then interrupt parser [.openPalette]
  else
    match globalEvent keyboard byte with
    | some event => interrupt parser [event]
    | none =>
      if some byte = parser.prefixKey then interrupt { parser with state := .prefixAwait } []
      else if byte = escape then interrupt (parser.await .escStart [byte]) []
      else gather parser byte

def respondPrefixAwait : Response :=
  let next := { parser with state := .idle }
  if some byte = parser.prefixKey then gather next byte
  else
    match prefixBinding keyboard byte with
    | some command => emit next (.prefixCommand command)
    | none => quiet next

def respondEscStart : Response :=
  if some byte = parser.paletteKey then emit parser.reset .openPalette
  else
    let seq := parser.seq ++ [byte]
    match byte with
    | 0x5b => quiet (parser.await .csi seq)
    | 0x5d => quiet (parser.await .osc seq)
    | 0x4f => quiet (parser.await .ss3 seq)
    | 0x50 | 0x5f | 0x58 | 0x5e => quiet (parser.await .otherEsc seq)
    | _ => emit parser.reset (.data seq)

def respondSs3 : Response :=
  let seq := parser.seq ++ [byte]
  conclude parser seq (classifyCsi keyboard seq parser.paletteKey)

def respondCsi : Response :=
  if maxEscSeqLen ≤ parser.seq.length then quiet parser.reset
  else
    let seq := parser.seq ++ [byte]
    if 0x40 ≤ byte ∧ byte ≤ 0x7e then
      if seq = [escape, 0x5b, 0x4d] then quiet (parser.await .x10Mouse seq)
      else if seq = pasteStart then emit { parser.reset with inPaste := true } (.data seq)
      else conclude parser seq (classifyCsi keyboard seq parser.paletteKey)
    else quiet (parser.await .csi seq)

def respondX10Mouse : Response :=
  let seq := parser.seq ++ [byte]
  if seq.length = 6 then
    match classifyX10Mouse seq with
    | some event => emit parser.reset event
    | none => emit parser.reset (.data seq)
  else quiet (parser.await .x10Mouse seq)

/-- A sequence that a bell or an escaped backslash ends. -/
def respondTerminated : Response :=
  if maxEscSeqLen ≤ parser.seq.length then quiet parser.reset
  else
    let seq := parser.seq ++ [byte]
    if byte = 0x07 ∨ (byte = 0x5c ∧ parser.seq.getLast? = some escape) then
      emit parser.reset (.data seq)
    else quiet (parser.await parser.state seq)

def respond : Response :=
  match parser.state with
  | .idle => respondIdle keyboard parser byte
  | .prefixAwait => respondPrefixAwait keyboard parser byte
  | .escStart => respondEscStart parser byte
  | .ss3 => respondSs3 keyboard parser byte
  | .csi => respondCsi keyboard parser byte
  | .x10Mouse => respondX10Mouse parser byte
  | .osc => respondTerminated parser byte
  | .otherEsc => respondTerminated parser byte

/-- A call under way: the kept state, the gathered data and the events. -/
structure Scan where
  parser : InputParser
  data : List UInt8
  events : List InputEvent

def flush (data : List UInt8) (events : List InputEvent) : List InputEvent :=
  if data = [] then events else events ++ [.data data]

def feedPaste (scan : Scan) (byte : UInt8) : Scan :=
  let data := scan.data ++ [byte]
  if pasteEnd <:+ data then
    { parser := { scan.parser with inPaste := false }
      data := []
      events := flush data scan.events }
  else { scan with data }

def feedResponse (scan : Scan) (response : Response) : Scan :=
  if response.flushes then
    { parser := response.parser, data := response.data
      events := flush scan.data scan.events ++ response.events }
  else
    { parser := response.parser, data := scan.data ++ response.data
      events := scan.events ++ response.events }

def feed (scan : Scan) (byte : UInt8) : Scan :=
  if scan.parser.inPaste then feedPaste scan byte
  else feedResponse scan (respond keyboard scan.parser byte)

/-- The call after all its bytes. -/
def scan (bytes : List UInt8) : Scan :=
  bytes.foldl (feed keyboard) { parser, data := [], events := [] }

/-- `InputParser::parse`: the parser afterwards and the events. -/
def parse (bytes : List UInt8) : InputParser × List InputEvent :=
  let reached := scan keyboard parser bytes
  (reached.parser, flush reached.data reached.events)

/-- Adjacent data events as one. -/
def joinData : List InputEvent → List InputEvent
  | [] => []
  | .data bytes :: rest =>
    match joinData rest with
    | .data more :: others => .data (bytes ++ more) :: others
    | joined => .data bytes :: joined
  | event :: rest => event :: joinData rest

end Jackin.Terminal
