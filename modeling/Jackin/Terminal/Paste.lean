import Mathlib
import Jackin.Terminal.Parser

/-!
# Bracketed pastes

A paste that is parsed in one call is passed on as it is: its start marker,
and then everything up to and including the first end marker.  The parser
must get to see the start marker, so this is about parsers whose keys are not
its first two bytes.
-/

namespace Jackin.Terminal

open List

variable {keyboard : Keyboard}

/-- The first two bytes of an escape sequence are not keys of their own. -/
structure Unclaimed (keyboard : Keyboard) (parser : InputParser) : Prop where
  noPalette : parser.paletteKey ≠ some escape
  noBracket : parser.paletteKey ≠ some 0x5b
  noPrefix : parser.prefixKey ≠ some escape
  noGlobal : globalEvent keyboard escape = none

theorem feed_pasteStart {scan} (idle : scan.parser.state = .idle)
    (outside : scan.parser.inPaste = false)
    (unclaimed : Unclaimed keyboard scan.parser) :
    pasteStart.foldl (feed keyboard) scan =
      { parser := { scan.parser.reset with inPaste := true }
        data := []
        events := flush scan.data scan.events ++ [.data pasteStart] } := by
  obtain ⟨⟨prefixKey, paletteKey, state, seq, inPaste⟩, data, events⟩ := scan
  obtain ⟨noPalette, noBracket, noPrefix, noGlobal⟩ := unclaimed
  cases idle
  cases outside
  have opens : feed keyboard ⟨⟨prefixKey, paletteKey, .idle, seq, false⟩, data, events⟩ escape =
        ⟨⟨prefixKey, paletteKey, .escStart, [escape], false⟩, [], flush data events⟩ := by
    simp [feed, respond, respondIdle, feedResponse, interrupt,
      InputParser.await, noGlobal, noPalette.symm, noPrefix.symm]
  have brackets : feed keyboard ⟨⟨prefixKey, paletteKey, .escStart, [escape],
      false⟩, [], flush data events⟩ 0x5b =
        ⟨⟨prefixKey, paletteKey, .csi, [escape, 0x5b], false⟩, [], flush data events⟩ := by
    simp [feed, respond, respondEscStart, feedResponse, quiet, InputParser.await, noBracket.symm]
  have split : pasteStart = escape :: 0x5b :: ascii "200~" := by decide
  rw [split, foldl_cons, opens, foldl_cons, brackets]
  simp [ascii, feed, respond, respondCsi, feedResponse, quiet, emit,
    InputParser.await, InputParser.reset, maxEscSeqLen, pasteStart]

/-- Inside a paste the bytes are gathered up to the end marker. -/
theorem feed_body (inside : parser.inPaste)
    (nonempty : body ≠ []) (ends : pasteEnd <:+ data ++ body)
    (first : ∀ front, front <+: body → pasteEnd <:+ data ++ front → front = body) :
    body.foldl (feed keyboard) ⟨parser, data, events⟩ =
      ⟨{ parser with inPaste := false }, [], flush (data ++ body) events⟩ := by
  induction body generalizing data with
  | nil => exact absurd rfl nonempty
  | cons byte rest ih =>
    rw [foldl_cons, feed, if_pos inside, feedPaste]
    cases rest with
    | nil =>
      rw [if_pos ends]
      rfl
    | cons next more =>
      have going : ¬pasteEnd <:+ data ++ [byte] := fun ended =>
        absurd (first [byte] ⟨_, rfl⟩ ended) (by simp)
      rw [if_neg going, append_cons _ _ (next :: more)]
      apply ih (cons_ne_nil _ _)
      · rwa [← append_cons]
      · intro front begins ended
        rw [← append_cons] at ended
        exact (cons.inj (first (byte :: front) ((prefix_cons_inj _).mpr begins) ended)).2

/-- What was emitted before stays in front. -/
theorem parse_events {bytes : List UInt8} :
    let whole := bytes.foldl (feed keyboard) ⟨parser, data, past ++ events⟩
    let part := bytes.foldl (feed keyboard) ⟨parser, data, events⟩
    (whole.parser, flush whole.data whole.events) =
      (part.parser, past ++ flush part.data part.events) := by
  induction bytes generalizing parser data events with
  | nil =>
    simp only [foldl_nil, flush]
    grind
  | cons byte rest ih =>
    have one : feed keyboard ⟨parser, data, past ++ events⟩ byte =
        ⟨(feed keyboard ⟨parser, data, events⟩ byte).parser,
          (feed keyboard ⟨parser, data, events⟩ byte).data,
          past ++ (feed keyboard ⟨parser, data, events⟩ byte).events⟩ := by
      simp only [feed, feedPaste, feedResponse, flush]
      grind
    simp only [foldl_cons, one]
    exact ih

/--
A paste in one call, up to its first end marker, is passed on as it is, and
the rest is parsed from the idle state.
-/
theorem paste_delivered (keyboard : Keyboard) (parser : InputParser)
    (before body rest : List UInt8)
    (idle : (parse keyboard parser before).1.state = .idle)
    (outside : (parse keyboard parser before).1.inPaste = false)
    (unclaimed : Unclaimed keyboard (parse keyboard parser before).1)
    (first : ∀ front, front <+: body ++ pasteEnd → pasteEnd <:+ front → front = body ++ pasteEnd) :
    let begun := parse keyboard parser before
    let later := parse keyboard begun.1.reset rest
    parse keyboard parser (before ++ pasteStart ++ (body ++ pasteEnd) ++ rest) =
      (later.1, begun.2 ++ [.data pasteStart, .data (body ++ pasteEnd)] ++ later.2) := by
  intro begun later
  let past := begun.2 ++ [.data pasteStart, .data (body ++ pasteEnd)]
  have nonempty : body ++ pasteEnd ≠ [] :=
    append_ne_nil_of_right_ne_nil _ (by decide)
  have pasted : (body ++ pasteEnd).foldl (feed keyboard)
      (pasteStart.foldl (feed keyboard) (scan keyboard parser before)) =
        ⟨begun.1.reset, [], past ++ []⟩ := by
    rw [feed_pasteStart idle outside unclaimed]
    refine (@feed_body keyboard _ [] _ _ rfl nonempty (suffix_append _ _) first).trans ?_
    have closed : { begun.1.reset with inPaste := false } = begun.1.reset := by
      rw [← outside]
      rfl
    rw [nil_append, flush, if_neg nonempty]
    exact congrArg₂ (Scan.mk · [] ·) closed (by simp [past, begun, parse])
  have reached : scan keyboard parser (before ++ pasteStart ++ (body ++ pasteEnd) ++ rest) =
        rest.foldl (feed keyboard) ⟨begun.1.reset, [], past ++ []⟩ := by
    rw [← pasted]
    simp only [scan, foldl_append]
  rw [parse, reached]
  exact parse_events

/-- An interrupt, the palette key and a part of the end marker. -/
def roughBody : List UInt8 := [0x03, 0x1c, 0x1b] ++ ascii "[20"

/-- The palette key opens the palette after a paste, and not in it. -/
theorem rough_paste_delivered :
    parse (fun _ => none) (InputParser.new none (some 0x1c))
        (ascii "a" ++ pasteStart ++ (roughBody ++ pasteEnd) ++ [0x1c]) =
      (InputParser.new none (some 0x1c),
        [.data (ascii "a"), .data pasteStart, .data (roughBody ++ pasteEnd), .openPalette]) :=
  paste_delivered (fun _ => none) (InputParser.new none (some 0x1c)) (ascii "a")
    roughBody [0x1c] rfl rfl ⟨by decide, by decide, by decide, rfl⟩
    (by simp only [← mem_inits]; decide)

/-- With a bracket as the palette key, the start of a paste opens it. -/
theorem bracket_key_breaks_paste :
    (parse (fun _ => none) (InputParser.new none (some 0x5b))
      (pasteStart ++ (ascii "hi" ++ pasteEnd))).2 =
        [.openPalette, .data (ascii "200~hi"), .openPalette, .data (ascii "201~")] := by
  decide

end Jackin.Terminal
