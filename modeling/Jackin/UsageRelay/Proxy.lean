import Jackin.Foundation.Clients
import Jackin.UsageRelay.Requests

/-!
# The relay between sessions and the broker

Every accepted peer has a task of its own, which reads one request and hands
it, when it is admitted, to a channel; one writer takes the requests from the
channel and writes them to the tunnel; one reader gives the responses to the
tasks that wait for them.  When the writer or the reader ends, the relay
returns, for all peers.

A request is admitted by the size of the frame it came in.  Written with its
number into a tunnel frame it is longer, and a frame that is too long ends the
writer.  The tunnel takes all that is written to it and delivers well-formed
responses only, so the reader does not end.
-/

namespace Jackin.UsageRelay

open List Foundation Clients Json

/-! ## Responses and frames -/

/-- The errors that the relay answers with itself. -/
inductive UsageCoordinationErrorKind where
  | unavailable
  | unauthorized
  | protocolMismatch

/-- An error, or what the broker answers otherwise. -/
inductive UsageBrokerResponse (Reply : Type) where
  | error (kind : UsageCoordinationErrorKind) (message : String)
  | reply (reply : Reply)

section

variable {Reply : Type}

def unavailableResponse : UsageBrokerResponse Reply :=
  .error .unavailable "usage broker is unavailable"

def protocolResponse : UsageBrokerResponse Reply :=
  .error .protocolMismatch "usage relay protocol mismatch"

def supervisorUnauthorizedResponse : UsageBrokerResponse Reply :=
  .error .unauthorized "usage relay peer is not the Capsule supervisor"

def capabilityUnauthorizedResponse : UsageBrokerResponse Reply :=
  .error .unauthorized "usage account capability is not authorized"

end

/-- A local peer: what it sends, whether its stream ends, and who it is. -/
structure Peer where
  sent : List UInt8
  ended : Bool
  identity : Option PeerIdentity

/-- A decoder of requests. -/
abbrev Decoder := List UInt8 → Option UsageBrokerRequest

/-- The request of a frame, if the frame is valid. -/
def decodeFrame (decode : Decoder)
    (bytes : List UInt8) : Option UsageBrokerRequest :=
  if bytes.length = 0 ∨ usageBrokerMaxFrameBytes < bytes.length ∨
      bytes.getLast? ≠ some newline then none
  else decode bytes.dropLast

/-- What a task reads; nothing as long as it waits. -/
def readFrame (decode : Decoder)
    (peer : Peer) : Option (Option UsageBrokerRequest) :=
  (readLine (usageBrokerMaxFrameBytes + 1) peer.sent peer.ended).map (decodeFrame decode)

def writeFrame (value : Json) : Except String (List UInt8) :=
  let bytes := value.render
  if usageBrokerMaxFrameBytes ≤ bytes.length then .error "usage relay frame is too large"
  else .ok (bytes ++ [newline])

/-! ## The state of the relay -/

/-- What the task of a peer is doing. -/
inductive LocalTask (Reply : Type) where
  | reading
  | sending (request : UsageBrokerRequest)
  | awaiting
  | finished (response : UsageBrokerResponse Reply)

/-- The relay between the local peers and the tunnel. -/
structure Relay (Reply : Type) where
  /-- The tasks of the accepted peers, in the order of acceptance. -/
  tasks : List (LocalTask Reply)
  /-- The channel to the writer. -/
  queue : List UsageRelayTunnelRequest
  /-- Which task waits under which request number. -/
  pending : Nat → Option Nat
  /-- The responses handed to the tasks. -/
  answers : Nat → Option (UsageBrokerResponse Reply)
  /-- What the tunnel has taken. -/
  output : List UInt8
  /-- Why the writer ended. -/
  writer : Option String
  /-- Why the relay returned. -/
  returned : Option String

def Relay.start (Reply : Type) : Relay Reply where
  tasks := []
  queue := []
  pending _ := none
  answers _ := none
  output := []
  writer := none
  returned := none

/-- The number of a task's request: a counter of 64 bits from one. -/
def requestId (task : Nat) : Nat := (task + 1) % 2 ^ 64

/-- The steps the relay can take. -/
inductive Event (Reply : Type) where
  | accept
  | read (task : Nat) (processStartTime : Option Nat)
  | send (task : Nat)
  | write
  | deliver (requestId : Nat) (response : UsageBrokerResponse Reply)
  | receive (task : Nat)
  | expire (task : Nat)
  | finish

variable {tunneled : UsageRelayTunnelRequest} {task : Nat}
    {request : UsageBrokerRequest}
    {peer : Peer}

section

variable {Reply : Type} (decode : Decoder) (supervisor : SupervisorIdentity)
  (authorization : UsageRelayAuthorization) (peers : List Peer)

variable (relay : Relay Reply)

section

variable (task : Nat) (peer : Peer)

def Relay.setTask (next : LocalTask Reply) : Relay Reply :=
  { relay with tasks := relay.tasks.set task next }

def Relay.forget (id : Nat) : Relay Reply :=
  { relay with pending := Function.update relay.pending id none }

/-- What a task does with what it has read. -/
def handleLocal (processStartTime : Option Nat) : Option UsageBrokerRequest → Relay Reply
  | none => relay.setTask task (.finished protocolResponse)
  | some request =>
    if ¬supervisor.isCurrent processStartTime then
      relay.setTask task (.finished supervisorUnauthorizedResponse)
    else if ¬supervisorPeerAllows supervisor peer.identity then
      relay.setTask task (.finished supervisorUnauthorizedResponse)
    else if authorization.authorizes supervisor peer.identity request.operation then
      { relay.setTask task (.sending request) with
        pending := Function.update relay.pending (requestId task) (some task) }
    else relay.setTask task (.finished capabilityUnauthorizedResponse)

/-- Hand a request to the channel, once there is room and if it is open. -/
def sendRequest (request : UsageBrokerRequest) : Relay Reply :=
  if relay.writer.isSome then
    (relay.forget (requestId task)).setTask task (.finished unavailableResponse)
  else if relay.queue.length < tunnelCapacity then
    { relay.setTask task .awaiting with queue := relay.queue ++ [⟨requestId task, request⟩] }
  else relay

/-- The writer takes a request from the channel. -/
def writeRequest : Relay Reply :=
  match relay.writer, relay.queue with
  | none, tunneled :: rest =>
    match writeFrame tunneled.json with
    | .ok bytes => { relay with queue := rest, output := relay.output ++ bytes }
    | .error message => { relay with queue := rest, writer := some message }
  | _, _ => relay

/-- The reader finds the task that waits for a response. -/
def deliverResponse (id : Nat)
    (response : UsageBrokerResponse Reply) : Relay Reply :=
  match relay.pending id with
  | none => relay
  | some task =>
    { relay.forget id with answers := Function.update relay.answers task (some response) }

/-- Give every waiting task the answer that the broker is unavailable. -/
def failPending : Relay Reply :=
  { relay with
    pending := fun _ => none
    answers := fun task =>
      if relay.pending (requestId task) = some task then some unavailableResponse
      else relay.answers task }

/-- One step; a step that is not possible changes nothing. -/
def Relay.step : Event Reply → Relay Reply
  | .accept =>
    if relay.returned.isNone ∧ relay.tasks.length < peers.length then
      { relay with tasks := relay.tasks ++ [.reading] }
    else relay
  | .read task processStartTime =>
    match relay.tasks[task]?, peers[task]? with
    | some .reading, some peer =>
      match readFrame decode peer with
      | none => relay
      | some read => handleLocal supervisor authorization relay task peer processStartTime read
    | _, _ => relay
  | .send task =>
    match relay.tasks[task]? with
    | some (.sending request) => sendRequest relay task request
    | _ => relay
  | .write => writeRequest relay
  | .deliver id response => deliverResponse relay id response
  | .receive task =>
    match relay.tasks[task]?, relay.answers task with
    | some .awaiting, some response => relay.setTask task (.finished response)
    | _, _ => relay
  | .expire task =>
    match relay.tasks[task]? with
    | some .awaiting => (relay.forget (requestId task)).setTask task (.finished unavailableResponse)
    | _ => relay
  | .finish =>
    match relay.returned, relay.writer with
    | none, some message => { failPending relay with returned := some message }
    | _, _ => relay

/-- The relay after a run. -/
def runOnListener (events : List (Event Reply)) : Relay Reply :=
  events.foldl (Relay.step decode supervisor authorization peers) (Relay.start Reply)

/-! ## Requests that fit -/

/-- A request with its number fits into a tunnel frame. -/
def UsageRelayTunnelRequest.Small (tunneled : UsageRelayTunnelRequest) : Prop :=
  tunneled.json.render.length < usageBrokerMaxFrameBytes

/-- A peer's request is passed on while the supervisor is there. -/
structure Admits (request : UsageBrokerRequest) : Prop where
  started : supervisor.startTime.isSome
  allowed : supervisorPeerAllows supervisor peer.identity
  authorized : authorization.authorizes supervisor peer.identity request.operation

/-- If the request of this peer is passed on, it fits. -/
def Fits : Prop :=
  ∀ request, readFrame decode peer = some (some request) →
    Admits supervisor authorization peer request →
      UsageRelayTunnelRequest.Small ⟨requestId task, request⟩

end

theorem writeFrame_of_small (small : tunneled.Small) :
    writeFrame tunneled.json = .ok (tunneled.json.render ++ [newline]) := by
  exact if_neg (Nat.not_le_of_lt small)

theorem writeFrame_of_not_small (large : ¬tunneled.Small) :
    writeFrame tunneled.json = .error "usage relay frame is too large" := by
  exact if_pos (Nat.le_of_not_lt large)

/-- The relay serves and no request in it can end the writer. -/
structure Sound (relay : Relay Reply) : Prop where
  serving : relay.returned = none
  writing : relay.writer = none
  queued : ∀ tunneled ∈ relay.queue, tunneled.Small
  sending : ∀ task request, relay.tasks[task]? = some (.sending request) →
    UsageRelayTunnelRequest.Small ⟨requestId task, request⟩

namespace Sound

variable {decode supervisor authorization peers} {relay : Relay Reply}

theorem start : Sound (Relay.start Reply) where
  serving := rfl
  writing := rfl
  queued _ member := absurd member not_mem_nil
  sending task request found := by simp [Relay.start] at found

section

variable (sound : Sound relay)
include sound

/-- A task may go on to anything but sending. -/
theorem setTask {next} (quiet : ∀ request, next ≠ .sending request) :
    Sound (relay.setTask task next) where
  serving := sound.serving
  writing := sound.writing
  queued := sound.queued
  sending other request found := by
    rw [Relay.setTask, getElem?_set] at found
    split at found
    · split at found
      · exact absurd (Option.some.inj found) (quiet request)
      · cases found
    · exact sound.sending other request found

theorem setSending (small : UsageRelayTunnelRequest.Small ⟨requestId task, request⟩) :
    Sound (relay.setTask task (.sending request)) where
  serving := sound.serving
  writing := sound.writing
  queued := sound.queued
  sending other found same := by
    rw [Relay.setTask, getElem?_set] at same
    split at same
    · rename_i equal
      split at same
      · cases same
        rwa [← equal]
      · cases same
    · exact sound.sending other found same

/-- What waits under which number, and with which answer, is of no concern. -/
theorem register : Sound { relay with pending, answers } where
  serving := sound.serving
  writing := sound.writing
  queued := sound.queued
  sending := sound.sending

theorem handleLocal {read}
    (fits : ∀ request, read = some request →
      Admits supervisor authorization peer request →
        UsageRelayTunnelRequest.Small ⟨requestId task, request⟩) :
    Sound (handleLocal supervisor authorization relay task peer processStartTime read) := by
  cases read with
  | none => exact sound.setTask (by simp)
  | some request =>
    rw [UsageRelay.handleLocal]
    split
    · exact sound.setTask (by simp)
    · rename_i current
      split
      · exact sound.setTask (by simp)
      · rename_i allowed
        split
        · rename_i authorized
          have started : supervisor.startTime.isSome := by
            rw [SupervisorIdentity.isCurrent] at current
            cases started : supervisor.startTime with
            | none => simp [started] at current
            | some time => rfl
          have small := fits request rfl ⟨started, by simpa using allowed, authorized⟩
          exact (sound.setSending small).register
        · exact sound.setTask (by simp)

theorem sendRequest (small : UsageRelayTunnelRequest.Small ⟨requestId task, request⟩) :
    Sound (sendRequest relay task request) := by
  rw [UsageRelay.sendRequest, if_neg (by simp [sound.writing])]
  split
  · have awaits : Sound (relay.setTask task .awaiting) := sound.setTask (by simp)
    exact
      { serving := sound.serving
        writing := sound.writing
        queued := by
          intro tunneled member
          rcases mem_append.mp member with earlier | last
          · exact sound.queued tunneled earlier
          · rwa [mem_singleton.mp last]
        sending := awaits.sending }
  · exact sound

theorem writeRequest : Sound (writeRequest relay) := by
  rw [UsageRelay.writeRequest, sound.writing]
  cases queue : relay.queue with
  | nil => exact sound
  | cons tunneled rest =>
    have small := sound.queued tunneled (queue ▸ mem_cons_self)
    simp only [writeFrame_of_small small]
    exact
      { serving := sound.serving
        writing := rfl
        queued := fun other member => sound.queued other (queue ▸ mem_cons_of_mem _ member)
        sending := sound.sending }

theorem accept : Sound { relay with tasks := relay.tasks ++ [.reading] } where
  serving := sound.serving
  writing := sound.writing
  queued := sound.queued
  sending task request found := by
    rcases Nat.lt_or_ge task relay.tasks.length with earlier | later
    · rw [getElem?_append_left earlier] at found
      exact sound.sending task request found
    · rw [getElem?_append_right later] at found
      have reading : (LocalTask.sending request : LocalTask Reply) =
          .reading :=
        mem_singleton.mp (mem_of_getElem? found)
      cases reading

/-- Every step keeps a relay sound whose peers' requests fit. -/
theorem step
    (fits : ∀ task peer, peers[task]? = some peer →
      Fits decode supervisor authorization task peer) :
    Sound (relay.step decode supervisor authorization peers event) := by
  cases event with
  | accept =>
    rw [Relay.step]
    split
    · exact sound.accept
    · exact sound
  | read task processStartTime =>
    rw [Relay.step]
    split
    · rename_i peer _ found
      split
      · exact sound
      · rename_i read gets
        refine sound.handleLocal ?_
        intro request same
        exact fits task peer found request (same ▸ gets)
    · exact sound
  | send task =>
    rw [Relay.step]
    split
    · rename_i request found
      exact sound.sendRequest (sound.sending task request found)
    · exact sound
  | write => exact sound.writeRequest
  | deliver id response =>
    rw [Relay.step, deliverResponse]
    split
    · exact sound
    · exact sound.register
  | receive task =>
    rw [Relay.step]
    split
    · exact sound.setTask (by simp)
    · exact sound
  | expire task =>
    rw [Relay.step]
    split
    · exact sound.register.setTask (by simp)
    · exact sound
  | finish =>
    rwa [Relay.step, sound.serving, sound.writing]

end

theorem run
    (fits : ∀ task peer, peers[task]? = some peer →
      Fits decode supervisor authorization task peer)
    {events : List (Event Reply)} :
    Sound (runOnListener decode supervisor authorization peers events) := by
  have steps : ∀ relay : Relay Reply, Sound relay →
      Sound (events.foldl (Relay.step decode supervisor authorization peers) relay) := by
    induction events with
    | nil => exact fun relay sound => sound
    | cons event rest ih => exact fun relay sound => ih _ (sound.step fits)
  exact steps _ start

end Sound

section

variable {decode supervisor authorization peers}

/-- The relay that has accepted so many peers and done nothing else. -/
def Relay.accepted (Reply : Type) (count : Nat) : Relay Reply :=
  { Relay.start Reply with tasks := List.replicate count .reading }

theorem accepts {count} (enough : count ≤ peers.length) :
    runOnListener decode supervisor authorization peers
        (replicate count (.accept : Event Reply)) = Relay.accepted Reply count := by
  induction count with
  | zero => rfl
  | succ count ih =>
    have before := ih (Nat.le_of_succ_le enough)
    rw [runOnListener] at before ⊢
    rw [replicate_succ', foldl_append, before, foldl_cons, foldl_nil, Relay.step, if_pos]
    · rw [Relay.accepted, Relay.accepted, replicate_succ']
    · exact ⟨rfl, by simpa [Relay.accepted] using Nat.lt_of_succ_le enough⟩

/-- An admitted request goes on to the channel. -/
theorem step_read {relay : Relay Reply}
    (reading : relay.tasks[task]? = some .reading)
    (found : peers[task]? = some peer)
    (gets : readFrame decode peer = some (some request))
    (admitted : Admits supervisor authorization peer request) :
    relay.step decode supervisor authorization peers (.read task supervisor.startTime) =
      { relay.setTask task (.sending request) with
        pending := Function.update relay.pending (requestId task) (some task) } := by
  have current : supervisor.isCurrent supervisor.startTime := by
    obtain ⟨_, started⟩ := Option.isSome_iff_exists.mp admitted.started
    simp [SupervisorIdentity.isCurrent, started]
  rw [Relay.step, reading, found]
  simp only [gets]
  rw [handleLocal, if_neg (not_not_intro current),
    if_neg (not_not_intro admitted.allowed), if_pos admitted.authorized]

/-- The writer meets a request that does not fit. -/
theorem step_write {relay : Relay Reply} (writing : relay.writer = none)
    (queue : relay.queue = [tunneled]) (large : ¬tunneled.Small) :
    relay.step decode supervisor authorization peers .write =
      { relay with queue := [], writer := some "usage relay frame is too large" } := by
  rw [Relay.step, writeRequest, writing, queue]
  simp only [writeFrame_of_not_small large]

/--
The task of the peer accepted last takes its request all the way to the
writer.
-/
def overflowSchedule (Reply : Type) (task : Nat)
    (processStartTime : Option Nat) : List (Event Reply) :=
  List.replicate (task + 1) .accept ++ [.read task processStartTime, .send task, .write, .finish]

theorem returns_of_not_fits (found : peers[task]? = some peer)
    (large : ¬Fits decode supervisor authorization task peer) :
    (runOnListener decode supervisor authorization peers
      (overflowSchedule Reply task supervisor.startTime)).returned =
        some "usage relay frame is too large" := by
  rw [Fits] at large
  push Not at large
  obtain ⟨request, gets, admitted, tooLarge⟩ := large
  have inside : task + 1 ≤ peers.length := (List.getElem?_eq_some_iff.mp found).1
  have opening : (replicate (task + 1) (.accept : Event Reply)).foldl
      (Relay.step decode supervisor authorization peers)
        (Relay.start Reply) = Relay.accepted Reply (task + 1) :=
    accepts inside
  have reading : (Relay.accepted Reply (task + 1)).tasks[task]? =
      some .reading := by
    simp [Relay.accepted]
  rw [runOnListener, overflowSchedule, foldl_append, opening,
    foldl_cons, step_read reading found gets admitted, foldl_cons]
  have sends : ((Relay.accepted Reply (task + 1)).setTask task
      (.sending request)).tasks[task]? = some (.sending request) := by
    simp [Relay.setTask, Relay.accepted]
  rw [Relay.step, sends]
  simp only [sendRequest]
  rw [if_neg (by simp [Relay.setTask, Relay.accepted, Relay.start]),
    foldl_cons, step_write rfl rfl tooLarge]
  rfl

end

/--
The relay never returns, whatever the schedule, exactly when every request
that it passes on fits into its tunnel frame.
-/
theorem relay_never_returns_iff :
    (∀ events : List (Event Reply),
      (runOnListener decode supervisor authorization peers events).returned = none) ↔
      ∀ task peer, peers[task]? = some peer → Fits decode supervisor authorization task peer := by
  constructor
  · intro serves task peer found
    by_contra large
    have returned : (runOnListener decode supervisor authorization peers
        (overflowSchedule Reply task supervisor.startTime)).returned =
          some "usage relay frame is too large" :=
      returns_of_not_fits found large
    rw [serves] at returned
    cases returned
  · intro fits events
    exact (Sound.run fits).serving

end

/-! ## A frame of exactly the allowed size -/

def sampleCapability : UsageAccountCapability := ⟨"a1", "s1"⟩

/-- A request with a long build name. -/
def longRequest (count : Nat) : UsageBrokerRequest where
  protocolVersion := "v9"
  buildId := String.ofList (List.replicate count 'a')
  operation := .current sampleCapability
  launchCredentialScope := none

def longFront : List UInt8 := Wire.utf8 "\x7b\"protocol_version\":\"v9\",\"build_id\":\""

def longBack : List UInt8 :=
  Wire.utf8 ("\",\"operation\":\x7b\"operation\":\"current\"," ++
    "\"capability\":\x7b\"account_id\":\"a1\",\"surface_id\":\"s1\"" ++
    "\x7d\x7d\x7d")

theorem render_longRequest {count} :
    (longRequest count).json.render =
      longFront ++ (replicate count 97 ++ longBack) := by
  have plain : escape 'a' = [97] := by decide +kernel
  have front : longFront = Wire.utf8 "\x7b" ++ renderString "protocol_version" ++
        Wire.utf8 ":" ++ renderString "v9" ++ Wire.utf8 "," ++
        renderString "build_id" ++ Wire.utf8 ":" ++ [0x22] := by
    decide +kernel
  have back : longBack = [0x22] ++ (Wire.utf8 "," ++ renderString "operation" ++ Wire.utf8 ":" ++
        (UsageBrokerOperation.current sampleCapability).json.render ++ []) ++
        Wire.utf8 "\x7d" := by
    decide +kernel
  rw [front, back]
  simp [UsageBrokerRequest.json, longRequest, scopeField, render,
    renderFields, renderString_replicate plain]

theorem length_longRequest (count : Nat) :
    (longRequest count).json.render.length = count + 126 := by
  have front : longFront.length = 37 := by decide +kernel
  have back : longBack.length = 89 := by decide +kernel
  rw [render_longRequest, length_append, length_append, length_replicate]
  omega

theorem newline_not_mem_longRequest {count} :
    newline ∉ (longRequest count).json.render := by
  have front : newline ∉ longFront := by decide +kernel
  have back : newline ∉ longBack := by decide +kernel
  rw [render_longRequest]
  simp only [mem_append, front, back, mem_replicate, false_or, or_false]
  rintro ⟨_, same⟩
  cases same

/-- The tunnel writes the number and the name of the request around it. -/
theorem length_tunneled (count : Nat) :
    (UsageRelayTunnelRequest.json
      ⟨requestId 0, longRequest count⟩).render.length = count + 126 + 27 := by
  have before : (Wire.utf8 "\x7b" ++ renderString "request_id" ++
      Wire.utf8 ":" ++ Wire.utf8 (toString (requestId 0)) ++
      (Wire.utf8 "," ++ renderString "request" ++ Wire.utf8 ":")).length = 26 := by
    decide +kernel
  have after : (Wire.utf8 "\x7d").length = 1 := by decide +kernel
  have inner := length_longRequest count
  simp only [UsageRelayTunnelRequest.json, render, renderFields,
    length_append, length_nil] at before inner ⊢
  omega

/-- The longest build name whose request is accepted as a frame. -/
def longCount : Nat := usageBrokerMaxFrameBytes - 127

def longPeer : Peer where
  sent := (longRequest longCount).json.render ++ [newline]
  ended := false
  identity := some ⟨some 7, some 9, 1000, 1000⟩

def longDecoder : Decoder := fun bytes =>
  if bytes = (longRequest longCount).json.render then some (longRequest longCount)
  else none

def sampleSupervisor : SupervisorIdentity := ⟨1, some 5⟩

def sampleAuthorization : UsageRelayAuthorization where
  byPeer peer := if peer = (1000, 1000) then some sampleCapability else none
  launchCapabilities := [sampleCapability]

/-- One authorized peer whose frame has the largest size ends the relay. -/
theorem long_request_ends_relay :
    longPeer.sent.length = usageBrokerMaxFrameBytes ∧
      (runOnListener longDecoder sampleSupervisor sampleAuthorization
        [longPeer] (overflowSchedule Unit 0 (some 5))).returned =
          some "usage relay frame is too large" := by
  have size : longPeer.sent.length = usageBrokerMaxFrameBytes := by
    rw [longPeer, length_append, length_longRequest]
    decide
  refine ⟨size, returns_of_not_fits rfl ?_⟩
  intro fits
  have line : readLine (usageBrokerMaxFrameBytes + 1) longPeer.sent false =
      some longPeer.sent :=
    readLine_frame newline_not_mem_longRequest (by rw [length_longRequest]; decide) false
  have gets : readFrame longDecoder longPeer =
      some (some (longRequest longCount)) := by
    have ends : longPeer.sent.getLast? = some newline := getLast?_concat
    have body : longPeer.sent.dropLast = (longRequest longCount).json.render :=
      dropLast_concat
    rw [readFrame, show longPeer.ended = false from rfl, line,
      Option.map_some, decodeFrame, body, longDecoder]
    simp [size, ends, usageBrokerMaxFrameBytes]
  have small := fits _ gets ⟨rfl, by decide, by decide⟩
  rw [UsageRelayTunnelRequest.Small, length_tunneled] at small
  exact absurd small (by decide)

end Jackin.UsageRelay
