import Mathlib
import Jackin.Terminal.Parser

/-!
# Cutting the input

The terminal delivers input in pieces of any size, and every piece is one call
of the parser.  Inside a bracketed paste the end marker is looked for in the
data of the current call only.  So two calls agree with one, whatever the
second call reads, if and only if the first one does not end inside a paste
with a proper part of the end marker.
-/

namespace Jackin.Terminal

open Option List Bool

variable {bytes : List UInt8}

/-! ## What a byte can do -/

/-- What all responses outside a paste have in common. -/
structure Regular (parser : InputParser) (byte : UInt8)
    (response : Response) : Prop where
  gathered : response.data ≠ [] → response.flushes = false ∧ response.parser.state = .idle
  held : parser.state = .idle → response.flushes = false →
    response.parser.state = .idle ∧ response.events = []
  pasted : response.parser.inPaste →
    byte = 0x7e ∧ response.flushes = false ∧ response.data = [] ∧ parser.state ≠ .idle
  solid : ∀ event ∈ response.events, event ≠ .data []

section

variable {parser next : InputParser}

theorem regular_quiet (busy : parser.state ≠ .idle)
    (outside : next.inPaste = false) : Regular parser byte (quiet next) where
  gathered := absurd rfl
  held := fun idle => absurd idle busy
  pasted := fun inside => by
    rw [quiet, outside] at inside
    cases inside
  solid := nofun

theorem regular_emit (busy : parser.state ≠ .idle)
    (outside : next.inPaste = false) (solid : event ≠ .data []) :
    Regular parser byte (emit next event) where
  gathered := absurd rfl
  held := fun idle => absurd idle busy
  pasted := fun inside => by
    rw [emit, outside] at inside
    cases inside
  solid := fun _ member => mem_singleton.mp member ▸ solid

theorem regular_interrupt (outside : next.inPaste = false)
    (solid : ∀ event ∈ events, event ≠ .data []) :
    Regular parser byte (interrupt next events) where
  gathered := absurd rfl
  held := nofun
  pasted := fun inside => by
    rw [interrupt, outside] at inside
    cases inside
  solid := solid

theorem regular_gather (outside : next.inPaste = false)
    (idle : next.state = .idle) : Regular parser byte (gather next byte) where
  gathered := fun _ => ⟨rfl, idle⟩
  held := fun _ _ => ⟨idle, rfl⟩
  pasted := fun inside => by
    rw [gather, outside] at inside
    cases inside
  solid := nofun

theorem solid_append : InputEvent.data (seq ++ [byte]) ≠ .data [] := by
  intro same
  exact append_ne_nil_of_right_ne_nil _ (cons_ne_nil _ _) (InputEvent.data.inj same)

/-! No event carries empty data. -/

theorem globalEvent_eq_some (found : globalEvent keyboard byte = some event) :
    event = .requestExit := by
  simp only [globalEvent, dispatch, bind_eq_bind, bind_eq_some_iff, map_eq_some_iff] at found
  obtain ⟨_, _, _, bound, rfl⟩ := found
  have member := mem_of_find?_eq_some bound
  rw [mem_singleton.mp member]

theorem solid_control {control}
    (classified : controlClassification keyboard control paletteKey = .event event) :
    event ≠ .data [] := by
  rw [controlClassification, dispatchControlByte] at classified
  split at classified
  · rename_i found
    cases classified
    split at found
    · cases found
      exact InputEvent.noConfusion
    · rw [globalEvent_eq_some found]
      exact InputEvent.noConfusion
  · cases classified

theorem solid_csiU (classified : classifyCsiU keyboard seq paletteKey = some (.event event)) :
    event ≠ .data [] := by
  rw [classifyCsiU] at classified
  split at classified
  · cases classified
  · split at classified
    · cases classified
    · split at classified
      · cases classified
      · split at classified
        · cases classified
          exact nofun
        · split at classified
          · obtain ⟨_, _, same⟩ := map_eq_some_iff.mp classified
            exact solid_control same
          · cases classified

theorem solid_arrow (classified : classifyArrow seq = some (.event event)) :
    event ≠ .data [] := by
  simp only [classifyArrow, bind_eq_bind, bind_eq_some_iff] at classified
  obtain ⟨_, _, _, _, _, _, classified⟩ := classified
  split at classified
  · cases classified
  · split at classified
    · cases classified
      exact InputEvent.noConfusion
    · split at classified
      · cases classified
        rintro ⟨⟩
      · cases classified

theorem solid_sgrMouse (classified : classifySgrMouse seq = some (.event event)) :
    event ≠ .data [] := by
  simp only [classifySgrMouse, bind_eq_bind, bind_eq_some_iff] at classified
  obtain ⟨_, _, _, _, classified⟩ := classified
  split at classified
  · obtain ⟨_, _, classified⟩ := bind_eq_some_iff.mp classified
    split at classified
    · split at classified <;>
      · cases classified
        exact InputEvent.noConfusion
    · cases classified
  · cases classified

theorem solid_csi (classified : classifyCsi keyboard seq paletteKey = .event event) :
    event ≠ .data [] := by
  rw [classifyCsi] at classified
  split at classified
  · cases classified
    exact InputEvent.noConfusion
  split at classified
  · cases classified
    exact InputEvent.noConfusion
  split at classified
  · rename_i found
    exact solid_csiU (found.trans (congrArg some classified))
  split at classified
  · cases classified
  split at classified
  · cases classified
    exact nofun
  split at classified
  · exact solid_control classified
  split at classified
  · rename_i found
    exact solid_arrow (found.trans (congrArg some classified))
  · cases found : classifySgrMouse seq with
    | none =>
      rw [found] at classified
      cases classified
    | some classification =>
      rw [found] at classified
      exact solid_sgrMouse (found.trans (congrArg some classified))

theorem solid_x10Mouse (classified : classifyX10Mouse seq = some event) :
    event ≠ .data [] := by
  unfold classifyX10Mouse at classified
  split at classified
  · split at classified
    · dsimp only at classified
      split at classified <;>
      · cases classified
        exact InputEvent.noConfusion
    · cases classified
  · cases classified

/-! Every state responds regularly. -/

theorem regular_conclude (busy : parser.state ≠ .idle)
    (outside : parser.inPaste = false) :
    Regular parser byte
      (conclude parser (seq ++ [byte]) (classifyCsi keyboard (seq ++ [byte]) paletteKey)) := by
  cases classified : classifyCsi keyboard (seq ++ [byte]) paletteKey with
  | unknown => exact regular_emit busy outside solid_append
  | suppress => exact regular_quiet busy outside
  | event found => exact regular_emit busy outside (solid_csi classified)

theorem regular_idle (idle : parser.state = .idle)
    (outside : parser.inPaste = false) :
    Regular parser byte (respondIdle keyboard parser byte) := by
  have solid : ∀ event ∈ [InputEvent.openPalette], event ≠ .data [] := by decide
  rw [respondIdle]
  split
  · exact regular_interrupt outside solid
  split
  · rename_i found
    rw [globalEvent_eq_some found]
    exact regular_interrupt outside (by decide)
  split
  · exact regular_interrupt outside (by simp)
  split
  · exact regular_interrupt outside (by simp)
  · exact regular_gather outside idle

theorem regular_prefixAwait (awaiting : parser.state = .prefixAwait)
    (outside : parser.inPaste = false) :
    Regular parser byte (respondPrefixAwait keyboard parser byte) := by
  have busy : parser.state ≠ .idle := by
    rw [awaiting]
    decide
  rw [respondPrefixAwait]
  split
  · exact regular_gather outside rfl
  split
  · exact regular_emit busy outside (by simp)
  · exact regular_quiet busy outside

section

variable (busy : parser.state ≠ .idle) (outside : parser.inPaste = false)
include busy outside

theorem regular_escStart :
    Regular parser byte (respondEscStart parser byte) := by
  rw [respondEscStart]
  split
  · exact regular_emit busy outside (by simp)
  split
  iterate 7
    · exact regular_quiet busy outside
  · exact regular_emit busy outside solid_append

theorem regular_csi :
    Regular parser byte (respondCsi keyboard parser byte) := by
  rw [respondCsi]
  split
  · exact regular_quiet busy outside
  dsimp only
  split
  · split
    · exact regular_quiet busy outside
    split
    · rename_i started
      -- The paste starts with the tilde that ends its marker.
      have last := congrArg getLast? started
      rw [getLast?_concat] at last
      exact
        { gathered := absurd rfl
          held := fun idle => absurd idle busy
          pasted := fun _ => ⟨some.inj last, rfl, rfl, busy⟩
          solid := fun _ member => mem_singleton.mp member ▸ solid_append }
    · exact regular_conclude busy outside
  · exact regular_quiet busy outside

theorem regular_x10Mouse :
    Regular parser byte (respondX10Mouse parser byte) := by
  rw [respondX10Mouse]
  split
  · split
    · rename_i found
      exact regular_emit busy outside (solid_x10Mouse found)
    · exact regular_emit busy outside solid_append
  · exact regular_quiet busy outside

theorem regular_terminated :
    Regular parser byte (respondTerminated parser byte) := by
  rw [respondTerminated]
  split
  · exact regular_quiet busy outside
  split
  · exact regular_emit busy outside solid_append
  · exact regular_quiet busy outside

end

theorem respond_regular (outside : parser.inPaste = false) :
    Regular parser byte (respond keyboard parser byte) := by
  rw [respond]
  split
  · rename_i idle
    exact regular_idle idle outside
  · rename_i awaiting
    exact regular_prefixAwait awaiting outside
  all_goals
    rename_i state
    have busy : parser.state ≠ .idle := by
      rw [state]
      decide
  · exact regular_escStart busy outside
  · exact regular_conclude busy outside
  · exact regular_csi busy outside
  · exact regular_x10Mouse busy outside
  · exact regular_terminated busy outside
  · exact regular_terminated busy outside

end

/-! ## Tokens -/

/-- A byte of data, or an event of another kind. -/
inductive Token where
  | byte (value : UInt8)
  | event (event : InputEvent)

def eventTokens : InputEvent → List Token
  | .data bytes => bytes.map .byte
  | event => [.event event]

def tokens (events : List InputEvent) : List Token := events.flatMap eventTokens

@[simp]
theorem tokens_nil : tokens [] = [] := rfl

@[simp]
theorem tokens_append :
    tokens (first ++ second) = tokens first ++ tokens second :=
  flatMap_append

@[simp]
theorem tokens_flush :
    tokens (flush data events) = tokens events ++ data.map .byte := by
  rw [flush]
  split
  · rename_i empty
    simp [empty]
  · simp [tokens, eventTokens]

/-- No event carries empty data. -/
def Solid (events : List InputEvent) : Prop := ∀ event ∈ events, event ≠ .data []

theorem solid_flush (solid : Solid events) : Solid (flush data events) := by
  rw [flush]
  split
  · exact solid
  · rename_i nonempty
    intro event member
    rcases mem_append.mp member with old | new
    · exact solid event old
    · rw [mem_singleton.mp new]
      exact fun same => nonempty (InputEvent.data.inj same)

/-- One data event before joined events. -/
def prepend (bytes : List UInt8) : List InputEvent → List InputEvent
  | .data more :: others => .data (bytes ++ more) :: others
  | joined => .data bytes :: joined

/-- Events from tokens, with as few data events as possible. -/
def regroup : List Token → List InputEvent
  | [] => []
  | .byte value :: rest => prepend [value] (regroup rest)
  | .event event :: rest => event :: regroup rest

theorem joinData_data :
    joinData (.data bytes :: rest) = prepend bytes (joinData rest) := by
  rw [joinData]
  cases joinData rest with
  | nil => rfl
  | cons event others => cases event <;> rfl

theorem prepend_prepend :
    prepend first (prepend second events) = prepend (first ++ second) events := by
  cases events with
  | nil => rfl
  | cons event others => cases event <;> simp [prepend]

theorem regroup_bytes (nonempty : bytes ≠ []) :
    regroup (bytes.map .byte ++ rest) = prepend bytes (regroup rest) := by
  induction bytes with
  | nil => exact absurd rfl nonempty
  | cons byte others ih =>
    rw [map_cons, cons_append, regroup]
    cases others with
    | nil => rfl
    | cons next more =>
      rw [ih (cons_ne_nil _ _), prepend_prepend]
      rfl

/-- Joined events are determined by their tokens. -/
theorem joinData_eq_regroup (solid : Solid events) :
    joinData events = regroup (tokens events) := by
  induction events with
  | nil => rfl
  | cons event rest ih =>
    obtain ⟨first, later⟩ := forall_mem_cons.mp solid
    have joined := ih later
    cases event with
    | data bytes =>
      have nonempty : bytes ≠ [] := by
        rintro rfl
        exact first rfl
      rw [joinData_data, joined]
      exact (regroup_bytes nonempty).symm
    | _ => exact congrArg (cons _) joined

/-! ## Calls side by side -/

/-- No proper part of the end marker at the end. -/
def Clean (held : List UInt8) : Prop :=
  ∀ length, 0 < length → length < pasteEnd.length → ¬pasteEnd.take length <:+ held

theorem clean_nil : Clean [] := by
  intro length positive _ ends
  have empty := suffix_nil.mp ends
  cases length with
  | zero => exact absurd positive (Nat.lt_irrefl _)
  | succ length => cases empty

/-- After a clean start the marker is found in the rest or not at all. -/
theorem pasteEnd_suffix_iff (clean : Clean held) (nonempty : more ≠ []) :
    pasteEnd <:+ held ++ more ↔ pasteEnd <:+ more := by
  constructor
  · intro ends
    rcases suffix_or_suffix_of_suffix ends (suffix_append held more) with inside | ⟨front, shape⟩
    · exact inside
    · obtain ⟨before, whole⟩ := ends
      rw [← shape, ← append_assoc] at whole
      have divided := append_cancel_right whole
      have size := congrArg length shape
      rw [length_append] at size
      have longer := length_pos_iff.mpr nonempty
      have part : pasteEnd.take front.length = front := by
        rw [← shape]
        exact take_left
      cases front with
      | nil =>
        rw [← shape]
        exact suffix_refl _
      | cons byte rest =>
        apply absurd (show pasteEnd.take (byte :: rest).length <:+ held from ?_)
        · exact clean _ (Nat.succ_pos _) (by omega)
        · rw [part]
          exact ⟨before, divided⟩
  · exact fun ends => ends.trans (suffix_append held more)

/-- Outside a paste, data is gathered in the idle state only. -/
def Settled (scan : Scan) : Prop :=
  scan.parser.inPaste = false → scan.parser.state ≠ .idle → scan.data = []

/--
One call that went on, next to a second call that started at the cut, after
the events of the first.
-/
structure Parallel (past : List InputEvent) (whole part : Scan) : Prop where
  parser : whole.parser = part.parser
  settled : Settled whole
  held : ∃ held, whole.data = held ++ part.data ∧ (part.parser.inPaste → Clean held)
  output : tokens whole.events ++ whole.data.map .byte =
    tokens past ++ (tokens part.events ++ part.data.map .byte)

theorem feed_settled {scan} (settled : Settled scan) :
    Settled (feed keyboard scan byte) := by
  rw [feed]
  split
  · rename_i inside
    rw [feedPaste]
    split
    · exact fun _ _ => rfl
    · intro outside
      exact absurd (outside.symm.trans inside) false_ne_true
  · rename_i outside
    have regular : Regular scan.parser byte (respond keyboard scan.parser byte) :=
      respond_regular (eq_false_iff.mpr outside)
    generalize respond keyboard scan.parser byte = response at regular
    intro _ busy
    rw [feedResponse] at busy ⊢
    have nothing : response.data = [] := by
      by_contra nonempty
      have idle := (regular.gathered nonempty).2
      split at busy <;> exact busy idle
    split
    · exact nothing
    · rename_i unflushed
      have unflushed := eq_false_iff.mpr unflushed
      rw [if_neg (eq_false_iff.mp unflushed)] at busy
      have nonidle : scan.parser.state ≠ .idle := fun idle => busy (regular.held idle unflushed).1
      simp [settled (eq_false_iff.mpr outside) nonidle, nothing]

section

variable (parallel : Parallel past whole part)
include parallel

/-- A byte inside a paste keeps the two calls side by side. -/
theorem Parallel.feedPaste (inside : part.parser.inPaste) :
    Parallel past (feedPaste whole byte) (feedPaste part byte) := by
  obtain ⟨held, shape, clean⟩ := parallel.held
  have longer : whole.data ++ [byte] = held ++ (part.data ++ [byte]) := by
    rw [shape, append_assoc]
  have found : pasteEnd <:+ whole.data ++ [byte] ↔
      pasteEnd <:+ part.data ++ [byte] := by
    rw [longer]
    exact pasteEnd_suffix_iff (clean inside) (append_ne_nil_of_right_ne_nil _ (cons_ne_nil _ _))
  have output := parallel.output
  by_cases ended : pasteEnd <:+ part.data ++ [byte]
  · rw [Terminal.feedPaste, Terminal.feedPaste, if_pos ended, if_pos (found.mpr ended)]
    constructor
    · rw [parallel.parser]
    · exact fun _ _ => rfl
    · exact ⟨[], rfl, fun _ => clean_nil⟩
    · simpa [← append_assoc] using congrArg (· ++ [Token.byte byte]) output
  · rw [Terminal.feedPaste, Terminal.feedPaste, if_neg ended,
      if_neg (fun ends => ended (found.mp ends))]
    constructor
    · exact parallel.parser
    · intro outside
      rw [parallel.parser, inside] at outside
      cases outside
    · exact ⟨held, longer, clean⟩
    · simpa [← append_assoc] using congrArg (· ++ [Token.byte byte]) output

/-- A byte outside a paste keeps the two calls side by side. -/
theorem Parallel.feedResponse (regular : Regular part.parser byte response)
    (settled : Settled (feedResponse whole response))
    (outside : part.parser.inPaste = false) :
    Parallel past (feedResponse whole response) (feedResponse part response) := by
  obtain ⟨held, shape, _⟩ := parallel.held
  have output := parallel.output
  -- A busy call has gathered nothing, and then neither has the second one.
  have empty : part.parser.state ≠ .idle →
      whole.data = [] ∧ held = [] ∧ part.data = [] := by
    intro busy
    have nothing : whole.data = [] := by
      apply parallel.settled
      · rwa [parallel.parser]
      · rwa [parallel.parser]
    have both := append_eq_nil_iff.mp (shape.symm.trans nothing)
    exact ⟨nothing, both.1, both.2⟩
  cases flushes : response.flushes with
  | true =>
    rw [Terminal.feedResponse, if_pos flushes] at settled ⊢
    rw [Terminal.feedResponse, if_pos flushes]
    constructor
    · rfl
    · exact settled
    · exact ⟨[], rfl, fun _ => clean_nil⟩
    · simp only [tokens_append, tokens_flush, output]
      simp
  | false =>
    have unflushed : ¬response.flushes := by
      rw [flushes]
      decide
    rw [Terminal.feedResponse, if_neg unflushed] at settled ⊢
    rw [Terminal.feedResponse, if_neg unflushed]
    constructor
    · rfl
    · exact settled
    · refine ⟨held, ?_, fun inside => ?_⟩
      · rw [shape, append_assoc]
      · rw [(empty (regular.pasted inside).2.2.2).2.1]
        exact clean_nil
    · by_cases idle : part.parser.state = .idle
      · have silent := (regular.held idle flushes).2
        rw [silent]
        simpa [← append_assoc] using congrArg (· ++ response.data.map Token.byte) output
      · obtain ⟨wholeEmpty, _, partEmpty⟩ := empty idle
        rw [wholeEmpty, partEmpty] at output ⊢
        simp only [map_nil, append_nil] at output
        simp [output]

theorem Parallel.feed :
    Parallel past (feed keyboard whole byte) (feed keyboard part byte) := by
  have settled : Settled (Terminal.feed keyboard whole byte) :=
    feed_settled parallel.settled
  cases paste : part.parser.inPaste with
  | true =>
    have inside : whole.parser.inPaste := by rw [parallel.parser, paste]
    rw [Terminal.feed, Terminal.feed, if_pos inside, if_pos paste]
    exact parallel.feedPaste paste
  | false =>
    have outside : ¬part.parser.inPaste := eq_false_iff.mp paste
    rw [Terminal.feed, parallel.parser, if_neg outside] at settled ⊢
    rw [Terminal.feed, if_neg outside]
    exact parallel.feedResponse (respond_regular paste) settled paste

theorem Parallel.foldl :
    Parallel past (bytes.foldl (Terminal.feed keyboard) whole)
      (bytes.foldl (Terminal.feed keyboard) part) := by
  induction bytes generalizing whole part with
  | nil => exact parallel
  | cons byte rest ih => exact ih parallel.feed

end

/-- The input read so far ends in the data of an open paste. -/
structure Located (read : List UInt8) (scan : Scan) : Prop where
  settled : Settled scan
  solid : Solid scan.events
  paste : scan.parser.inPaste →
    ∃ before, read = before ++ scan.data ∧ (before = [] ∨ before.getLast? = some 0x7e)

theorem Located.feed {read} {scan} (located : Located read scan) :
    Located (read ++ [byte]) (feed keyboard scan byte) := by
  have settled : Settled (Terminal.feed keyboard scan byte) :=
    feed_settled located.settled
  rw [Terminal.feed] at settled ⊢
  split
  · rename_i inside
    rw [if_pos inside] at settled
    obtain ⟨before, shape, first⟩ := located.paste inside
    rw [feedPaste] at settled ⊢
    split
    · rename_i ended
      rw [if_pos ended] at settled
      exact ⟨settled, solid_flush located.solid, nofun⟩
    · rename_i going
      rw [if_neg going] at settled
      refine ⟨settled, located.solid, fun _ => ⟨before, ?_, first⟩⟩
      rw [shape, append_assoc]
  · rename_i outside
    rw [if_neg outside] at settled
    have outside := eq_false_iff.mpr outside
    have regular : Regular scan.parser byte
        (respond keyboard scan.parser byte) := respond_regular outside
    generalize respond keyboard scan.parser byte = response at regular settled ⊢
    refine ⟨settled, ?_, ?_⟩
    · rw [feedResponse]
      split
      · exact forall_mem_append.mpr ⟨solid_flush located.solid, regular.solid⟩
      · exact forall_mem_append.mpr ⟨located.solid, regular.solid⟩
    · intro inside
      have entered : response.parser.inPaste := by
        rw [feedResponse] at inside
        split at inside <;> exact inside
      obtain ⟨tilde, unflushed, nothing, busy⟩ := regular.pasted entered
      have empty := located.settled outside busy
      rw [feedResponse, unflushed]
      refine ⟨read ++ [byte], ?_, .inr ?_⟩
      · simp [empty, nothing]
      · rw [getLast?_concat, tilde]

theorem Located.foldl {read} {scan} (located : Located read scan) :
    Located (read ++ bytes) (bytes.foldl (Terminal.feed keyboard) scan) := by
  induction bytes generalizing read scan with
  | nil =>
    rwa [append_nil]
  | cons byte rest ih =>
    have next : Located (read ++ [byte]) (Terminal.feed keyboard scan byte) :=
      located.feed
    have later := ih next
    rwa [append_assoc] at later

theorem scan_located : Located bytes (scan keyboard parser bytes) := by
  have start : Located []
      { parser, data := [], events := [] } := by
    refine ⟨fun _ _ => rfl, fun _ member => ?_, fun _ => ?_⟩
    · cases member
    · exact ⟨[], rfl, .inl rfl⟩
  exact start.foldl

/-! ## Cuts -/

/-- The events of both calls and the parser after them are those of one. -/
def CutAgrees (keyboard : Keyboard) (parser : InputParser)
    (first second : List UInt8) : Prop :=
  let begun := parse keyboard parser first
  let ended := parse keyboard begun.1 second
  let whole := parse keyboard parser (first ++ second)
  ended.1 = whole.1 ∧ joinData (begun.2 ++ ended.2) = joinData whole.2

/-- The input ends inside a paste, in a proper part of the end marker. -/
def CutsPasteEnd (keyboard : Keyboard) (parser : InputParser)
    (first : List UInt8) : Prop :=
  (parse keyboard parser first).1.inPaste ∧
    ∃ length, 0 < length ∧ length < pasteEnd.length ∧ pasteEnd.take length <:+ first

theorem scan_append :
    scan keyboard parser (first ++ second) =
      second.foldl (feed keyboard) (scan keyboard parser first) :=
  foldl_append

theorem tokens_parse (bytes : List UInt8) :
    tokens (parse keyboard parser bytes).2 =
      tokens (scan keyboard parser bytes).events ++ (scan keyboard parser bytes).data.map .byte :=
  tokens_flush

/-- Away from the end marker both ways of reading agree. -/
theorem cutAgrees_of_not_cut (apart : ¬CutsPasteEnd keyboard parser first)
    {second} : CutAgrees keyboard parser first second := by
  have located : Located first (scan keyboard parser first) := scan_located
  have parallel : Parallel (parse keyboard parser first).2 (scan keyboard parser first)
      { parser := (scan keyboard parser first).parser, data := [], events := [] } := by
    refine ⟨rfl, located.settled, ⟨_, (append_nil _).symm, ?_⟩, ?_⟩
    · intro inside length positive proper ends
      obtain ⟨_, shape, _⟩ := located.paste inside
      have inRead : pasteEnd.take length <:+ first := by
        rw [shape]
        exact ends.trans (suffix_append _ _)
      exact apart ⟨inside, length, positive, proper, inRead⟩
    · simp [parse]
  have reached : Parallel (parse keyboard parser first).2 (scan keyboard parser (first ++ second))
      (scan keyboard (scan keyboard parser first).parser second) := by
    rw [scan_append]
    exact parallel.foldl
  have wholeLocated : Located (first ++ second)
      (scan keyboard parser (first ++ second)) := scan_located
  have partLocated : Located second (scan keyboard (scan keyboard parser first).parser second) :=
    scan_located
  refine ⟨reached.parser.symm, ?_⟩
  have solidWhole : Solid (parse keyboard parser (first ++ second)).2 :=
    solid_flush wholeLocated.solid
  have solidParts : Solid ((parse keyboard parser first).2 ++
      (parse keyboard (parse keyboard parser first).1 second).2) :=
    forall_mem_append.mpr ⟨solid_flush located.solid, solid_flush partLocated.solid⟩
  rw [joinData_eq_regroup solidWhole, joinData_eq_regroup solidParts]
  apply congrArg regroup
  rw [tokens_append, tokens_parse second, tokens_parse (first ++ second)]
  exact reached.output.symm

/-- The rest of a marker that was begun ends the paste. -/
theorem paste_ends {scan} (marker : pasteEnd = front ++ rest)
    (nonempty : rest ≠ []) (inside : scan.parser.inPaste)
    (begun : front <:+ scan.data) :
    (rest.foldl (feed keyboard) scan).parser.inPaste = false := by
  induction rest generalizing scan front with
  | nil => exact absurd rfl nonempty
  | cons byte others ih =>
    obtain ⟨before, shape⟩ := begun
    have longer : scan.data ++ [byte] = before ++ (front ++ [byte]) := by
      rw [← shape, append_assoc]
    rw [foldl_cons, feed, if_pos inside, feedPaste]
    cases others with
    | nil =>
      have ended : pasteEnd <:+ scan.data ++ [byte] := by
        rw [marker, longer]
        exact suffix_append _ _
      rw [if_pos ended]
      rfl
    | cons next more =>
      have going : ¬pasteEnd <:+ scan.data ++ [byte] := by
        intro ended
        -- Only the last byte of the marker is a tilde.
        have member : byte ∈ pasteEnd.dropLast := by
          rw [marker, dropLast_append_of_ne_nil (cons_ne_nil _ _)]
          exact mem_append_right _ mem_cons_self
        obtain ⟨_, whole⟩ := ended
        have last := congrArg getLast? whole
        rw [getLast?_concat, getLast?_append_of_ne_nil _ (by decide : pasteEnd ≠ [])] at last
        have tilde : byte = 0x7e := mem_unique last rfl
        rw [tilde] at member
        exact absurd member (by decide)
      have extended : pasteEnd = (front ++ [byte]) ++ next :: more := by
        rw [marker, append_assoc]
        rfl
      rw [if_neg going]
      refine ih extended (cons_ne_nil _ _) ?_ ?_
      · exact inside
      · rw [longer]
        exact suffix_append _ _

/-- Too few bytes for a marker leave the paste open. -/
theorem paste_goes_on {scan} (inside : scan.parser.inPaste)
    (short : scan.data.length + bytes.length < pasteEnd.length) :
    (bytes.foldl (feed keyboard) scan).parser.inPaste := by
  induction bytes generalizing scan with
  | nil => exact inside
  | cons byte rest ih =>
    rw [length_cons] at short
    have going : ¬pasteEnd <:+ scan.data ++ [byte] := by
      intro ended
      have sizes := ended.length_le
      rw [length_append, length_singleton] at sizes
      omega
    rw [foldl_cons, feed, if_pos inside, feedPaste, if_neg going]
    refine ih ?_ ?_
    · exact inside
    · rw [length_append, length_singleton]
      omega

/-- A marker that was begun was begun inside the paste. -/
theorem begun_in_data {scan} (located : Located first scan)
    (inside : scan.parser.inPaste) {length} (proper : length < pasteEnd.length)
    (ends : pasteEnd.take length <:+ first) :
    pasteEnd.take length <:+ scan.data := by
  obtain ⟨before, shape, start⟩ := located.paste inside
  rw [shape] at ends
  rcases suffix_or_suffix_of_suffix ends
    (suffix_append before scan.data) with within | ⟨front, divided⟩
  · exact within
  · obtain ⟨_, whole⟩ := ends
    rw [← divided, ← append_assoc] at whole
    have rejoined := append_cancel_right whole
    cases front with
    | nil =>
      rw [← divided]
      exact suffix_refl _
    | cons byte rest =>
      rcases start with rfl | tilde
      · exact absurd (append_eq_nil_iff.mp rejoined).2 (cons_ne_nil _ _)
      · rw [← rejoined, getLast?_append_of_ne_nil _ (cons_ne_nil _ _)] at tilde
        have member : (0x7e : UInt8) ∈ pasteEnd.take length := by
          rw [← divided]
          exact mem_append_left _ (mem_of_getLast? tilde)
        have among : (0x7e : UInt8) ∈ pasteEnd.take 5 :=
          take_subset_take_left _ (Nat.le_of_lt_succ proper) member
        exact absurd among (by decide)

theorem not_cutAgrees_of_cut (cut : CutsPasteEnd keyboard parser first) :
    ∃ second, ¬CutAgrees keyboard parser first second := by
  obtain ⟨inside, length, _, proper, ends⟩ := cut
  refine ⟨pasteEnd.drop length, fun agrees => ?_⟩
  have located : Located first (scan keyboard parser first) := scan_located
  have nonempty : pasteEnd.drop length ≠ [] := by
    intro empty
    have sizes := congrArg List.length empty
    rw [length_drop, length_nil] at sizes
    omega
  have closes : (parse keyboard parser (first ++ pasteEnd.drop length)).1.inPaste =
      false := by
    rw [parse, scan_append]
    exact paste_ends (take_append_drop length pasteEnd).symm nonempty
      inside (begun_in_data located inside proper ends)
  have stays : (parse keyboard (parse keyboard parser first).1
      (pasteEnd.drop length)).1.inPaste := by
    refine paste_goes_on ?_ ?_
    · exact inside
    · rw [length_nil, length_drop]
      omega
  rw [agrees.1, closes] at stays
  cases stays

/--
The parser does not depend on a cut, whatever follows it, exactly when the cut
is not inside the end marker of a paste.
-/
theorem cut_agrees_iff (keyboard : Keyboard) (parser : InputParser)
    (first : List UInt8) :
    (∀ second, CutAgrees keyboard parser first second) ↔
      ¬CutsPasteEnd keyboard parser first := by
  constructor
  · intro agrees cut
    obtain ⟨second, differs⟩ := not_cutAgrees_of_cut cut
    exact differs (agrees second)
  · exact cutAgrees_of_not_cut

instance (keyboard : Keyboard) (parser : InputParser)
    (first second : List UInt8) :
    Decidable (CutAgrees keyboard parser first second) :=
  inferInstanceAs (Decidable (_ ∧ _))

/-- A keyboard without shortcuts. -/
def plainKeyboard : Keyboard := fun _ => none

/-- Two pasted letters; the input is cut inside the end marker. -/
theorem cut_paste_end_missed :
    ¬CutAgrees plainKeyboard (InputParser.new none (some 0x1c))
      (pasteStart ++ ascii "hi" ++ pasteEnd.take 3) (pasteEnd.drop 3) := by
  decide +kernel

end Jackin.Terminal
