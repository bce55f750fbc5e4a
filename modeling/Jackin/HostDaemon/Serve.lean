import Jackin.Foundation.Clients
import Jackin.HostDaemon.Requests

/-!
# Serving the daemon's socket

The daemon takes its clients one at a time: it reads a line, answers it and
writes the answer.  A failure of any of these steps is passed on, so the loop
returns and no later client is served.

A client can make a step fail in three ways: with bytes that are not UTF-8
(also when the limit cuts a character), by closing its end before the answer
is written, and by asking for the status of a daemon whose socket path is not
UTF-8.  A client that neither finishes a line nor ends its stream keeps the
daemon waiting.
-/

namespace Jackin.HostDaemon

open Foundation Clients

/--
When a client closes its end.  Before the answer is complete, the socket
has taken at most so many bytes of it; after the answer, the client may have
ended its own stream before.
-/
inductive Closing where
  | beforeAnswered (taken : Nat)
  | afterAnswered (endsRequest : Bool)
  deriving DecidableEq

/-- Whether the daemon meets the end of the stream. -/
def Closing.ended : Closing → Bool
  | .beforeAnswered _ => true
  | .afterAnswered endsRequest => endsRequest

/-- How much of an answer the socket takes. -/
def Closing.takes (total : Nat) : Closing → Nat
  | .beforeAnswered taken => min taken (total - 1)
  | .afterAnswered _ => total

/-- What a peer sends, and how it ends. -/
structure Connection where
  sent : List UInt8
  closing : Closing

/-- The line of a connection, unless the daemon waits for it. -/
def Connection.line (connection : Connection) : Option (List UInt8) :=
  readLine (maxRequestBytes + 1) connection.sent connection.closing.ended

/-- A text without the white space at its end. -/
def trimEnd (text : String) : String :=
  String.ofList (text.toList.reverse.dropWhile Text.isWhitespace).reverse

inductive ServeOutcome where
  | shutdown

/-- What becomes of a connection. -/
inductive Handled (Report : Type) where
  | waiting
  | failed (message : String)
  | answered (response : DaemonResponse Report)

def disableCoredumps : CoredumpPolicy :=
  .unsupported ("core dump suppression is not wired for this build; " ++
    "attention payloads are scrubbed")

section

variable {World Report : Type} (host : Host World Report)
    (layout : DaemonLayout)
    (buildId : String)

def handleRequestLine (line : String) : StateM (Daemon World) (DaemonResponse Report) :=
  if line = "" then pure (errorResponse "unknown" "empty daemon request")
  else
    match host.parse line with
    | .ok request => handleRequest host layout buildId disableCoredumps request
    | .error error => pure (errorResponse "unknown" s!"invalid daemon request: {error}")

/-- The response to a line of that many bytes. -/
def respond (length : Nat)
    (text : String) : StateM (Daemon World) (DaemonResponse Report) :=
  if maxRequestBytes < length then
    pure (errorResponse "unknown" "daemon request exceeds 16384 byte limit")
  else handleRequestLine host layout buildId (trimEnd text)

/-- The bytes of a response; a path is encoded as a text. -/
def encode (response : DaemonResponse Report) : Except String (List UInt8) :=
  match response.kind with
  | .status status =>
    match Wire.fromUtf8 status.socketPath with
    | some _ => .ok (host.render response)
    | none => .error "path contains invalid UTF-8 characters"
  | _ => .ok (host.render response)

def writeResponse (closing : Closing)
    (response : DaemonResponse Report) : Except String Unit :=
  match encode host response with
  | .error _ => .error "writing daemon response"
  | .ok bytes =>
    let taken := closing.takes (bytes.length + 1)
    if taken < bytes.length then .error "writing daemon response"
    else if taken < bytes.length + 1 then .error "terminating daemon response"
    else .ok ()

variable (connection : Connection)

/-- Answer a request and write the answer. -/
def answer (length : Nat) (text : String)
    (daemon : Daemon World) : Handled Report × Daemon World :=
  let responded := (respond host layout buildId length text).run daemon
  match writeResponse host connection.closing responded.1 with
  | .error message => (.failed message, responded.2)
  | .ok () => (.answered responded.1, responded.2)

def handleStream (daemon : Daemon World) : Handled Report × Daemon World :=
  match connection.line with
  | none => (.waiting, daemon)
  | some bytes =>
    match Wire.fromUtf8 bytes with
    | none => (.failed "reading daemon request", daemon)
    | some text => answer host layout buildId connection bytes.length text daemon

/-- What the loop makes of a handled connection. -/
def proceed (daemon : Daemon World) :
    Handled Report → Turn (Daemon World) (Except String ServeOutcome)
  | .waiting => .waiting
  | .failed message => .over (.error message)
  | .answered response =>
    match response.kind with
    | .shutdown true => .over (.ok .shutdown)
    | _ => .next daemon

def serveConnection (daemon : Daemon World) : Turn (Daemon World) (Except String ServeOutcome) :=
  let (handled, daemon) := handleStream host layout buildId connection daemon
  proceed daemon handled

/-- The failure of a recovery at the start is reported and left. -/
def startupRecovery (world : World) : World :=
  ((host.workflow (.recover ⟨[], []⟩)).run world).2

/-- The daemon from the time its socket is bound. -/
def serveWithWorkflow (world : World) (connections : List Connection) :
    Turn (Daemon World) (Except String ServeOutcome) :=
  serve (serveConnection host layout buildId)
    ⟨fun _ => none, startupRecovery host world⟩ connections

/-- The request a connection carries, if it carries one. -/
def Connection.request : Option DaemonRequest :=
  match connection.line with
  | none => none
  | some bytes =>
    match Wire.fromUtf8 bytes with
    | none => none
    | some text =>
      if maxRequestBytes < bytes.length ∨ trimEnd text = "" then none
      else (host.parse (trimEnd text)).toOption

/-- A request to shut down, for this protocol and build. -/
def SendsShutdown : Prop :=
  ∃ request, connection.request host = some request ∧
    request.protocolVersion = daemonProtocolVersion ∧
    request.buildId = buildId ∧ request.kind = .shutdown

/-- A request for the status that the daemon acts on. -/
def AsksStatus : Prop :=
  ∃ request, connection.request host = some request ∧
    Admitted host buildId request ∧ request.kind = .status

/-- A finished line that is not a text. -/
def Connection.Garbled : Prop :=
  ∃ bytes, connection.line = some bytes ∧ Wire.fromUtf8 bytes = none

/-- The client is gone before its answer is written. -/
def Connection.Leaves : Prop := ∃ taken, connection.closing = .beforeAnswered taken

/-- A connection whose handling fails. -/
def Harmful : Prop :=
  connection.Garbled ∨ connection.Leaves ∨
    (Wire.fromUtf8 layout.socketPath = none ∧ AsksStatus host buildId connection)

variable {host layout buildId} {connection : Connection} {bytes : List UInt8}
    {text : String}

/-- The daemon's own status, as it would answer it. -/
abbrev ownStatus (host : Host World Report) (layout : DaemonLayout)
    (buildId : String) : DaemonStatus :=
  daemonStatus host layout buildId disableCoredumps

section

variable (line : connection.line = some bytes)
    (decoded : Wire.fromUtf8 bytes = some text)
include line decoded

/-- The line of a connection that carries a request goes to the handler. -/
theorem respond_of_request (carried : connection.request host = some request) :
    respond host layout buildId bytes.length text =
      handleRequest host layout buildId disableCoredumps request := by
  rw [Connection.request, line] at carried
  simp only [decoded] at carried
  split at carried
  · cases carried
  · rename_i fits
    obtain ⟨short, nonempty⟩ := not_or.mp fits
    rw [respond, if_neg short, handleRequestLine, if_neg nonempty]
    cases parsed : host.parse (trimEnd text) with
    | error message =>
      rw [parsed] at carried
      cases carried
    | ok found =>
      rw [parsed] at carried
      cases carried
      rfl

/-- Without a request there is only an error to answer. -/
theorem plain_respond (nothing : connection.request host = none) :
    AlwaysPlain (respond host layout buildId bytes.length text) := by
  rw [Connection.request, line] at nothing
  simp only [decoded] at nothing
  rw [respond]
  split
  · exact alwaysPlain_pure trivial
  · rename_i short
    rw [handleRequestLine]
    split
    · exact alwaysPlain_pure trivial
    · rename_i nonempty
      rw [if_neg (not_or.mpr ⟨short, nonempty⟩)] at nothing
      cases parsed : host.parse (trimEnd text) with
      | error message => exact alwaysPlain_pure trivial
      | ok request =>
        rw [parsed] at nothing
        cases nothing

theorem respond_kind :
    let response := ((respond host layout buildId bytes.length text).run daemon).1
    response.kind.Plain ∨ (AsksStatus host buildId connection ∧
        response.kind = .status (ownStatus host layout buildId)) ∨
      (SendsShutdown host buildId connection ∧ response.kind = .shutdown true) := by
  cases carried : connection.request host with
  | none => exact .inl (plain_respond line decoded carried daemon)
  | some request =>
    rw [respond_of_request line decoded carried]
    by_cases admitted : Admitted host buildId request
    · rw [handleRequest_of_admitted host layout buildId _ admitted]
      rcases handleKind_kind host layout buildId disableCoredumps with plain | status | shutdown
      · exact .inl plain
      · exact .inr (.inl ⟨⟨request, carried, admitted, status.1⟩, status.2⟩)
      · exact .inr (.inr
          ⟨⟨request, carried, admitted.version, admitted.build, shutdown.1⟩, shutdown.2⟩)
    · exact .inl (plain_of_not_admitted host layout buildId _ admitted)

theorem respond_status (asks : AsksStatus host buildId connection) :
    ((respond host layout buildId bytes.length text).run daemon).1.kind =
      .status (ownStatus host layout buildId) := by
  obtain ⟨_, carried, admitted, status⟩ := asks
  rw [respond_of_request line decoded carried,
    handleRequest_of_admitted host layout buildId _ admitted, status]
  rfl

end

theorem encode_of_plain (plain : response.kind.Plain) :
    encode host response = .ok (host.render response) := by
  rw [encode]
  split
  · rename_i same
    rw [same] at plain
    exact plain.elim
  · rfl

theorem encode_status (same : response.kind = .status status) :
    (∃ bytes, encode host response = .ok bytes) ↔
      Wire.fromUtf8 status.socketPath ≠ none := by
  rw [encode, same]
  cases path : Wire.fromUtf8 status.socketPath <;> simp [path]

/-- An answer is written when it can be encoded and the client stays. -/
theorem writeResponse_eq_ok_iff :
    writeResponse host connection.closing response = .ok () ↔
      (∃ bytes, encode host response = .ok bytes) ∧ ¬connection.Leaves := by
  rw [writeResponse]
  cases encode host response with
  | error message => simp
  | ok bytes =>
    rw [Connection.Leaves]
    cases connection.closing with
    | beforeAnswered taken =>
      have cut : min taken (bytes.length + 1 - 1) < bytes.length + 1 := by omega
      simp only [Closing.takes, cut]
      split <;> simp
    | afterAnswered endsRequest => simp [Closing.takes]

/-! ## One turn of the loop -/

theorem proceed_of_plain (plain : response.kind.Plain) :
    proceed daemon (.answered response) = .next daemon := by
  rw [proceed]
  split
  · rename_i same
    rw [same] at plain
    exact plain.elim
  · rfl

theorem finishes_of_leaves (leaves : connection.Leaves) :
    ∃ bytes, connection.line = some bytes := by
  obtain ⟨_, closing⟩ := leaves
  rw [Connection.line, closing, readLine]
  simp [Closing.ended]

theorem serveConnection_waiting (waits : connection.line = none) :
    serveConnection host layout buildId connection daemon = .waiting := by
  rw [serveConnection, handleStream, waits]
  rfl

/-- Bytes that are no text end the loop. -/
theorem serveConnection_of_garbled (garbled : connection.Garbled) :
    serveConnection host layout buildId connection daemon =
      .over (.error "reading daemon request") := by
  obtain ⟨_, line, undecoded⟩ := garbled
  rw [serveConnection, handleStream, line]
  simp only [undecoded, proceed]

/-- The turn of a connection with a text, from how its answer is written. -/
theorem serveConnection_of_text (line : connection.line = some bytes)
    (decoded : Wire.fromUtf8 bytes = some text) :
    let responded := (respond host layout buildId bytes.length text).run daemon
    serveConnection host layout buildId connection daemon =
      match writeResponse host connection.closing responded.1 with
      | .error message => .over (.error message)
      | .ok () => proceed responded.2 (.answered responded.1) := by
  rw [serveConnection, handleStream, line]
  simp only [decoded, answer]
  cases writeResponse host connection.closing
    ((respond host layout buildId bytes.length text).run daemon).1 with
  | error message => rfl
  | ok written => rfl

/-- An answer that cannot be written ends the loop. -/
theorem returns_of_unwritten (line : connection.line = some bytes)
    (decoded : Wire.fromUtf8 bytes = some text)
    (unwritten : writeResponse host connection.closing
      ((respond host layout buildId bytes.length text).run daemon).1 ≠ .ok ()) :
    (serveConnection host layout buildId connection daemon).Returns := by
  rw [serveConnection_of_text line decoded]
  split
  · exact returns_over
  · rename_i written
    exact absurd written unwritten

theorem returns_of_harmful (harmful : Harmful host layout buildId connection) :
    (serveConnection host layout buildId connection daemon).Returns := by
  by_cases garbled : connection.Garbled
  · rw [serveConnection_of_garbled garbled]
    exact returns_over
  · have decodes : ∀ bytes, connection.line = some bytes →
        ∃ text, Wire.fromUtf8 bytes = some text := by
      intro bytes line
      exact Option.ne_none_iff_exists'.mp fun undecoded => garbled ⟨bytes, line, undecoded⟩
    rcases harmful with garbled | leaves | ⟨undecoded, asks⟩
    · contradiction
    · obtain ⟨bytes, line⟩ := finishes_of_leaves leaves
      obtain ⟨text, decoded⟩ := decodes bytes line
      refine returns_of_unwritten line decoded ?_
      rw [Ne, writeResponse_eq_ok_iff]
      exact fun written => written.2 leaves
    · obtain ⟨bytes, line, text, decoded⟩ :
          ∃ bytes, connection.line = some bytes ∧ ∃ text, Wire.fromUtf8 bytes = some text := by
        obtain ⟨request, carried, _⟩ := asks
        rw [Connection.request] at carried
        cases line : connection.line with
        | none =>
          rw [line] at carried
          cases carried
        | some bytes => exact ⟨bytes, rfl, decodes bytes line⟩
      refine returns_of_unwritten line decoded ?_
      rw [Ne, writeResponse_eq_ok_iff, encode_status (respond_status line decoded asks)]
      exact fun written => written.1 undecoded

/--
A finished connection that is not harmful is served, and the loop goes
on.
-/
theorem next_of_not_harmful (calm : ¬SendsShutdown host buildId connection)
    (finished : connection.line = some bytes)
    (harmless : ¬Harmful host layout buildId connection) :
    ∃ following, serveConnection host layout buildId connection daemon = .next following := by
  obtain ⟨text, decoded⟩ : ∃ text, Wire.fromUtf8 bytes = some text :=
    Option.ne_none_iff_exists'.mp fun undecoded => harmless (.inl ⟨bytes, finished, undecoded⟩)
  have stays : ¬connection.Leaves := fun leaves => harmless (.inr (.inl leaves))
  let responded := (respond host layout buildId bytes.length text).run daemon
  refine ⟨responded.2, ?_⟩
  rw [serveConnection_of_text finished decoded]
  have kind : responded.1.kind.Plain ∨ _ := respond_kind finished decoded
  rcases kind with plain | ⟨asks, status⟩ | ⟨sends, _⟩
  · rw [writeResponse_eq_ok_iff.mpr ⟨⟨_, encode_of_plain plain⟩, stays⟩]
    exact proceed_of_plain plain
  · have encoded : Wire.fromUtf8 layout.socketPath ≠ none :=
      fun undecoded => harmless (.inr (.inr ⟨undecoded, asks⟩))
    rw [writeResponse_eq_ok_iff.mpr ⟨(encode_status status).mpr encoded, stays⟩]
    rw [proceed, status]
  · exact absurd sends calm

/-- The daemon gets to the end of the line. -/
def Connection.finishes (connection : Connection) : Bool := connection.line.isSome

/--
Without a shutdown, the daemon is still serving after any connections
exactly when none that it gets to is harmful.
-/
theorem daemon_keeps_serving_iff (world : World) {connections : List Connection}
    (calm : ∀ connection ∈ connections, ¬SendsShutdown host buildId connection) :
    ¬(serveWithWorkflow host layout buildId world connections).Returns ↔
      ∀ connection ∈ connections.takeWhile Connection.finishes,
        ¬Harmful host layout buildId connection := by
  have returns :
      (serveWithWorkflow host layout buildId world connections).Returns ↔
        ∃ connection ∈ connections.takeWhile Connection.finishes,
          Harmful host layout buildId connection := by
    refine serve_returns_iff ?_ ?_ ?_ _
    · intro connection _ daemon unfinished
      have waits : connection.line = none :=
        Option.isNone_iff_eq_none.mp (Option.isSome_eq_false_iff.mp unfinished)
      exact serveConnection_waiting waits
    · intro connection _ daemon _ harmful
      exact returns_of_harmful harmful
    · intro connection member daemon finished harmless
      obtain ⟨_, line⟩ := Option.isSome_iff_exists.mp finished
      exact next_of_not_harmful (calm connection member) line harmless
  rw [returns]
  simp

end

/-- A host that knows one request. -/
def sampleHost : Host Unit Unit where
  parse line :=
    if line = "hello" then
      .ok ⟨"1", daemonProtocolVersion, "b1", ⟨1, none, none, none, none, none⟩, .hello⟩
    else .error "expected value"
  render response := Wire.utf8 response.id
  isUuid _ := true
  pid := 7
  attentionEnabled := false
  dispatch _ := pure (.ok ())
  telemetryHealthReport := pure ()
  workflow _ := pure (.error (.storage "unavailable"))
  verifyTestBinding _ _ _ _ _ := pure (.error (.invalid "no plan"))

def sampleLayout : DaemonLayout where socketPath := Wire.utf8 "/run/jackin-daemon.sock"

/-- A client that greets and waits for the answer. -/
def greeter : Connection where
  sent := Wire.utf8 "hello\n"
  closing := .afterAnswered false

/-- A client that sends nothing and stays. -/
def idler : Connection where
  sent := []
  closing := .afterAnswered false

theorem greeter_and_idler_are_served :
    (∀ connection ∈ [greeter, idler], ¬SendsShutdown sampleHost "b1" connection) ∧
      ¬(serveWithWorkflow sampleHost sampleLayout "b1" () [greeter, idler]).Returns := by
  have requests : ∀ connection ∈ [greeter, idler],
      ∀ request, connection.request sampleHost = some request → request.kind = .hello := by
    decide +kernel
  have lines : ∀ connection ∈ [greeter, idler],
      ∀ bytes, connection.line = some bytes → Wire.fromUtf8 bytes ≠ none := by
    decide +kernel
  have calm : ∀ connection ∈ [greeter, idler], ¬SendsShutdown sampleHost "b1" connection := by
    rintro connection member ⟨request, carried, _, _, shutdown⟩
    rw [requests connection member request carried] at shutdown
    cases shutdown
  refine ⟨calm, (daemon_keeps_serving_iff () calm).mpr ?_⟩
  intro connection reached harmful
  have member := List.takeWhile_subset _ reached
  rcases harmful with ⟨bytes, line, undecoded⟩ | ⟨taken, closing⟩ | ⟨undecoded, _⟩
  · exact lines connection member bytes line undecoded
  · have stays : ∀ connection ∈ [greeter, idler], connection.closing = .afterAnswered false := by
      decide
    rw [stays connection member] at closing
    cases closing
  · cases undecoded

/-- A byte that no text has, and a client that does not wait. -/
def garbler : Connection where
  sent := [0xFF, newline]
  closing := .afterAnswered false

def leaver : Connection where
  sent := []
  closing := .beforeAnswered 0

/-- Each of them ends the daemon for every later client. -/
theorem garbler_or_leaver_ends_daemon :
    (∀ connection ∈ [garbler, leaver], ¬SendsShutdown sampleHost "b1" connection) ∧
      serveWithWorkflow sampleHost sampleLayout "b1" () [garbler, greeter] =
        .over (.error "reading daemon request") ∧
      serveWithWorkflow sampleHost sampleLayout "b1" () [leaver, greeter] =
        .over (.error "writing daemon response") := by
  have requests : ∀ connection ∈ [garbler, leaver], connection.request sampleHost = none := by
    decide +kernel
  refine ⟨?_, ?_, ?_⟩
  · rintro connection member ⟨request, carried, _⟩
    rw [requests connection member] at carried
    cases carried
  · have garbled : garbler.Garbled := ⟨[0xFF, newline], by decide +kernel, by decide +kernel⟩
    rw [serveWithWorkflow, serve, serveConnection_of_garbled garbled]
  · rfl

end Jackin.HostDaemon
