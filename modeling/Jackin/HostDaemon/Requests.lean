import Jackin.Foundation.Wire
import Jackin.Workflow.Backend

/-!
# Requests to the host daemon

A client of the daemon's socket sends one request and gets one response.  A
request names the protocol version and the build it was made for; only then
is it looked at.

What the daemon does not compute is given: the coding of messages, the
backend, the verification of a test against its frozen plan, the delivery of
a notification and the telemetry report.  They may change the world the daemon
runs in.
-/

namespace Jackin.HostDaemon

open Foundation Workflow

variable {id : String}

def daemonProtocolVersion : Nat := 2
def maxRequestBytes : Nat := 16 * 1024

/-! ## Messages -/

structure TelemetryContext where
  v : Nat
  traceparent : Option String
  tracestate : Option String
  invocationId : Option String
  sessionId : Option String
  jobId : Option String

inductive AgentState where
  | working
  | blocked
  | done
  | idle
  | unknown
  deriving DecidableEq

structure AttentionPaneStatus where
  sessionId : Nat
  label : String
  agent : Option String
  state : AgentState
  deriving DecidableEq

inductive DaemonRequestKind where
  | hello
  | status
  | telemetryHealth
  | attentionSnapshot (containerName : String) (panes : List AttentionPaneStatus)
  | shutdown
  | workflowStart (planHash : String) (maxRepairTurns : Nat) (idempotencyKey : String)
  | workflowStatus (runId : Option String)
  | workflowList (limit : Nat)
  | workflowDetail (runId : String) (afterSeq : Int) (eventLimit : Nat)
  | workflowPause (runId reason : String) (checkpoint : Bool)
  | workflowResume (runId : String)
  | workflowCancel (runId reason : String)
  | workflowResolve (runId commandId decision observedSessionState : String)
  | workflowRecordSession (session : SessionAttachment) (expectedVersion : Int)
  | workflowRecordCandidate (runId candidate : String) (expectedVersion : Int)
  | workflowRecordCheckpoint (runId : String) (expectedVersion : Int)
      (candidate commit tree sourceManifest localPath backupState : String)
  | workflowRecordTest (runId : String) (expectedVersion : Int)
      (checkProgram checkScript bundleDigest : String)
      (repo : Option String) (scratch : String) (timeoutSecs : Nat)
  | workflowRecordReview (runId : String) (expectedVersion : Int) (reviewFile policyHash : String)
  | workflowRecordBackup (runId : String) (expectedVersion : Int) (remote gitRef : String)
  | workflowAdvance (runId : String) (expectedVersion : Int)
      (actor observation : String) (expectedPolicyHash : Option String)
  | workflowRecordDispatchIntent (runId sessionRef prompt : String) (turn leaseGeneration : Nat)
  | workflowRecover (inventory : InstanceInventory)
  deriving DecidableEq

structure DaemonRequest where
  id : String
  protocolVersion : Nat
  buildId : String
  ctx : TelemetryContext
  kind : DaemonRequestKind

inductive CoredumpPolicy where
  | disabled
  | unsupported (residualRisk : String)

/-- The socket path is a file path: any bytes. -/
structure DaemonStatus where
  protocolVersion : Nat
  buildId : String
  pid : Nat
  socketPath : List UInt8
  coredumpPolicy : CoredumpPolicy
  adaptersEnabled : List String

inductive DaemonResponseKind (Report : Type) where
  | hello (protocolVersion : Nat) (buildId : String) (capabilities : List String)
  | status (status : DaemonStatus)
  | telemetryHealth (report : Report)
  | attentionAccepted (notifications : Nat) (muted : Bool)
  | shutdown (accepted : Bool)
  | workflowRun (summary : RunSummary)
  | workflowRuns (summaries : List RunSummary)
  | workflowRunDetail (detail : RunDetail)
  | workflowRecord (summary : RunSummary)
  | workflowTestRecord (summary : RunSummary) (test : RecordedTest)
  | workflowReviewRecord (summary : RunSummary) (review : RecordedReview)
  | workflowDispatchIntent (summary : RunSummary) (dispatch : RecordedDispatch)
  | workflowRecovery (report : RecoveryReport)
  | error (message code : String)

structure DaemonResponse (Report : Type) where
  id : String
  kind : DaemonResponseKind Report

section

variable {Report : Type}

def codedErrorResponse (id code message : String) : DaemonResponse Report :=
  ⟨id, .error message code⟩

def errorResponse (id message : String) : DaemonResponse Report :=
  codedErrorResponse id "execution_error" message

def workflowErrorCode (error : WorkflowError) : String :=
  match error.kind with
  | .invalid => "invalid_request"
  | .notFound => "not_found"
  | .busy => "busy"
  | .staleVersion => "state_conflict"
  | .staleEpoch => "state_conflict"
  | .blocked => "needs_operator"
  | .storage => "execution_error"

end

/-! ## Surroundings -/

/-- What a workflow operation answers with. -/
def Answer : Operation → Type
  | .startRun .. => RunSummary
  | .runStatus .. => RunSummary
  | .listRuns .. => List RunSummary
  | .runDetail .. => RunDetail
  | .pauseRun .. => RunSummary
  | .resumeRun .. => RunSummary
  | .cancelRun .. => RunSummary
  | .resolveInput .. => RunSummary
  | .recordSession .. => RunSummary
  | .recordCandidate .. => RunSummary
  | .recordCheckpoint .. => RunSummary
  | .recordTest .. => RunSummary × RecordedTest
  | .recordReview .. => RunSummary × RecordedReview
  | .recordBackup .. => RunSummary
  | .advanceRun .. => RunSummary
  | .recordDispatchIntent .. => RunSummary × RecordedDispatch
  | .recover .. => RecoveryReport

/-- A notice that a session wants attention. -/
structure AttentionNotification where
  containerName : String
  sessionId : Nat
  agent : Option String
  label : String
  state : AgentState

/-- What the daemon is given. -/
structure Host (World Report : Type) where
  /-- Decode a request line. -/
  parse : String → Except String DaemonRequest
  /-- The text of a response that can be encoded. -/
  render : DaemonResponse Report → List UInt8
  isUuid : String → Bool
  pid : Nat
  attentionEnabled : Bool
  /-- Show a notification. -/
  dispatch : AttentionNotification → StateM World (Except String Unit)
  telemetryHealthReport : StateM World Report
  workflow : (operation : Operation) → StateM World (Except WorkflowError (Answer operation))
  /-- The bundle files of the plan that froze this test. -/
  verifyTestBinding : (planHash checkProgram checkScript bundleDigest :
    String) → (timeoutSecs : Nat) →
    StateM World (Except WorkflowError (List TestBundleFile))

structure SessionKey where
  containerName : String
  sessionId : Nat
  deriving DecidableEq

/-- What the daemon remembers between requests, and the world. -/
structure Daemon (World : Type) where
  lastSeen : SessionKey → Option AgentState
  world : World

structure DaemonLayout where
  socketPath : List UInt8

section

variable {World Report : Type} (host : Host World Report) {Value : Type}

/-- Run something that only concerns the world. -/
def inWorld (action : StateM World Value) : StateM (Daemon World) Value :=
  fun daemon =>
    let (value, world) := action.run daemon.world
    (value, { daemon with world })

def validProductIds (ctx : TelemetryContext) : Bool :=
  let uuid := fun (value : Option String) => value.all host.isUuid
  let session := ctx.sessionId.all fun value => !value.isEmpty && value.utf8ByteSize ≤ 64
  uuid ctx.invocationId && uuid ctx.jobId && session

/--
Whether the correlation of a request is refused; the span it otherwise
names as its parent is left to telemetry.
-/
def rejectsRequest (ctx : TelemetryContext) : Bool :=
  ctx.v != 1 || !validProductIds host ctx

def isAttentionState (state : AgentState) : Bool :=
  state == .blocked || state == .done

/-- Whether a text names a container. -/
def isContainerId (input : String) : Bool :=
  !input.isEmpty && !input.toList.any fun character =>
      Text.isWhitespace character || character == '/' || character == '\\'

def muted : Bool := !host.attentionEnabled

def notify (notification : AttentionNotification) : StateM World (Except String Unit) :=
  if host.attentionEnabled then host.dispatch notification
  else pure (.ok ())

/-- Remember the state of a session, and answer the one seen before. -/
def remember (key : SessionKey)
    (state : AgentState) : StateM (Daemon World) (Option AgentState) :=
  fun daemon =>
    (daemon.lastSeen key,
      { daemon with lastSeen := Function.update daemon.lastSeen key (some state) })

def ingestEach (containerName : String) :
    List AttentionPaneStatus → Nat → StateM (Daemon World) (Except String Nat)
  | [], sent => pure (.ok sent)
  | pane :: rest, sent => do
    let previous ← remember ⟨containerName, pane.sessionId⟩ pane.state
    if previous = some pane.state ∨ ¬isAttentionState pane.state then
      ingestEach containerName rest sent
    else
      let notified ← inWorld (notify host
        ⟨containerName, pane.sessionId, pane.agent, pane.label, pane.state⟩)
      match notified with
      | .error message => pure (.error message)
      | .ok () => ingestEach containerName rest (sent + if muted host then 0 else 1)

def ingestPanes (containerName : String) (panes : List AttentionPaneStatus) :
    StateM (Daemon World) (Except String Nat) :=
  if isContainerId containerName then ingestEach host containerName panes 0
  else pure (.error "validating attention snapshot container name")

section

variable (id : String)

def attentionResponse (muted : Bool) : Except String Nat → DaemonResponse Report
  | .ok notifications => ⟨id, .attentionAccepted notifications muted⟩
  | .error message => errorResponse id message

/-! ## Workflow requests -/

/-- The response to an answer of the backend. -/
def workflowAnswer (respond : Value → DaemonResponseKind Report) :
    Except WorkflowError Value → DaemonResponse Report
  | .ok value => ⟨id, respond value⟩
  | .error error => codedErrorResponse id (workflowErrorCode error) error.message

def workflowResponse (result : Except WorkflowError RunSummary) : DaemonResponse Report :=
  workflowAnswer id .workflowRun result

def workflowRecordResponse (result : Except WorkflowError RunSummary) : DaemonResponse Report :=
  workflowAnswer id .workflowRecord result

def workflowTestRecordResponse (result : Except WorkflowError (RunSummary × RecordedTest)) :
    DaemonResponse Report :=
  workflowAnswer id (fun (summary, test) => .workflowTestRecord summary test) result

def workflowDispatchResponse (result : Except WorkflowError (RunSummary × RecordedDispatch)) :
    DaemonResponse Report :=
  workflowAnswer id (fun (summary, dispatch) => .workflowDispatchIntent summary dispatch) result

def OperatorDecision.parse (value : String) : Option OperatorDecision :=
  if value = "continue_from_current" then some .continueFromCurrent
  else if value = "submit_new" then some .submitNew
  else if value = "cancel" then some .cancel
  else none

/-- The frozen bundle of the run's plan, if the test is the one it froze. -/
def checkTestBinding (runId checkProgram checkScript bundleDigest : String)
    (timeoutSecs : Nat) :
    StateM World (Except WorkflowError (List TestBundleFile)) := do
  let status : Except WorkflowError RunSummary ← host.workflow (.runStatus (some runId))
  match status with
  | .error error => pure (.error error)
  | .ok summary =>
    host.verifyTestBinding summary.planHash checkProgram checkScript bundleDigest timeoutSecs

def recordTest (runId : String) (expectedVersion : Int)
    (checkProgram checkScript bundleDigest : String) (repo : Option String)
    (scratch : String) (timeoutSecs : Nat) :
    StateM World (Except WorkflowError (RunSummary × RecordedTest)) := do
  let bound ← checkTestBinding host runId checkProgram checkScript bundleDigest timeoutSecs
  match bound with
  | .error error => pure (.error error)
  | .ok bundleFiles =>
    host.workflow (.recordTest runId expectedVersion
      { checkProgram, checkScript, bundleDigest, bundleFiles, repo, scratch, timeoutSecs })

def handleWorkflowRecordRequest : DaemonRequestKind → StateM World (DaemonResponse Report)
  | .workflowRecordSession session expectedVersion => do
    let result ← host.workflow (.recordSession session expectedVersion)
    pure (workflowRecordResponse id result)
  | .workflowRecordCandidate runId candidate expectedVersion => do
    let result ← host.workflow (.recordCandidate runId candidate expectedVersion)
    pure (workflowRecordResponse id result)
  | .workflowRecordCheckpoint runId expectedVersion candidate commit tree
      sourceManifest localPath backupState => do
    let result ← host.workflow (.recordCheckpoint
      ⟨runId, candidate, commit, tree, sourceManifest, localPath,
        backupState, none⟩ expectedVersion)
    pure (workflowRecordResponse id result)
  | .workflowRecordTest runId expectedVersion checkProgram checkScript
      bundleDigest repo scratch timeoutSecs => do
    let result ← recordTest host runId expectedVersion checkProgram
      checkScript bundleDigest repo scratch timeoutSecs
    pure (workflowTestRecordResponse id result)
  | .workflowRecordReview runId expectedVersion reviewFile policyHash => do
    let result ← host.workflow (.recordReview runId expectedVersion reviewFile policyHash)
    pure (workflowAnswer id (fun (answer : RunSummary × RecordedReview) =>
      .workflowReviewRecord answer.1 answer.2) result)
  | .workflowRecordBackup runId expectedVersion remote gitRef => do
    let result ← host.workflow (.recordBackup runId expectedVersion remote gitRef)
    pure (workflowRecordResponse id result)
  | .workflowAdvance runId expectedVersion actor observation expectedPolicyHash => do
    let result ← host.workflow (.advanceRun runId expectedVersion actor
      observation expectedPolicyHash)
    pure (workflowResponse id result)
  | .workflowRecordDispatchIntent runId sessionRef prompt turn leaseGeneration => do
    let result ← host.workflow (.recordDispatchIntent runId sessionRef prompt turn leaseGeneration)
    pure (workflowDispatchResponse id result)
  | _ => pure (codedErrorResponse id "invalid_request" "not a workflow record request")

def resolveInput (id runId commandId decision observedSessionState : String) :
    StateM World (DaemonResponse Report) :=
  match OperatorDecision.parse decision with
  | some parsed => do
    let result ← host.workflow (.resolveInput runId commandId parsed
      "operator" observedSessionState)
    pure (workflowResponse id result)
  | none => pure (codedErrorResponse id "invalid_request"
      s!"unknown operator decision `{decision}`")

def handleWorkflowRequest (kind : DaemonRequestKind) : StateM World (DaemonResponse Report) :=
  match kind with
  | .workflowStart planHash maxRepairTurns idempotencyKey => do
    let result ← host.workflow (.startRun planHash maxRepairTurns idempotencyKey)
    pure (workflowResponse id result)
  | .workflowStatus runId => do
    let result ← host.workflow (.runStatus runId)
    pure (workflowResponse id result)
  | .workflowList limit => do
    let result ← host.workflow (.listRuns limit)
    pure (workflowAnswer id .workflowRuns result)
  | .workflowDetail runId afterSeq eventLimit => do
    let result ← host.workflow (.runDetail runId afterSeq eventLimit)
    pure (workflowAnswer id .workflowRunDetail result)
  | .workflowPause runId reason checkpoint => do
    let result ← host.workflow (.pauseRun runId "operator" reason checkpoint)
    pure (workflowResponse id result)
  | .workflowResume runId => do
    let result ← host.workflow (.resumeRun runId "operator")
    pure (workflowResponse id result)
  | .workflowCancel runId reason => do
    let result ← host.workflow (.cancelRun runId "operator" reason)
    pure (workflowResponse id result)
  | .workflowResolve runId commandId decision observedSessionState =>
    resolveInput host id runId commandId decision observedSessionState
  | .workflowRecover inventory => do
    let result ← host.workflow (.recover inventory)
    pure (workflowAnswer id .workflowRecovery result)
  | .hello | .status | .telemetryHealth | .attentionSnapshot .. | .shutdown =>
    pure (codedErrorResponse id "invalid_request" "not a workflow request")
  | kind => handleWorkflowRecordRequest host id kind

end

variable (layout : DaemonLayout) (buildId : String)
    (coredumpPolicy : CoredumpPolicy)

def daemonStatus : DaemonStatus where
  protocolVersion := daemonProtocolVersion
  buildId := buildId
  pid := host.pid
  socketPath := layout.socketPath
  coredumpPolicy := coredumpPolicy
  adaptersEnabled := if muted host then [] else ["attention"]

/-- The response to a request for this protocol and this build. -/
def handleKind (id : String) : DaemonRequestKind → StateM (Daemon World) (DaemonResponse Report)
  | .hello => pure ⟨id, .hello daemonProtocolVersion buildId []⟩
  | .status => pure ⟨id, .status (daemonStatus host layout buildId coredumpPolicy)⟩
  | .telemetryHealth => do
    let report ← inWorld host.telemetryHealthReport
    pure ⟨id, .telemetryHealth report⟩
  | .attentionSnapshot containerName panes => do
    let ingested ← ingestPanes host containerName panes
    pure (attentionResponse id (muted host) ingested)
  | .shutdown => pure ⟨id, .shutdown true⟩
  | kind => inWorld (handleWorkflowRequest host id kind)

def handleRequest (request : DaemonRequest) : StateM (Daemon World) (DaemonResponse Report) :=
  if rejectsRequest host request.ctx then pure (errorResponse request.id "invalid correlation")
  else if request.protocolVersion ≠ daemonProtocolVersion then
    let version := request.protocolVersion
    pure (errorResponse request.id
      s!"unsupported daemon protocol {version}; expected {daemonProtocolVersion}")
  else if request.buildId ≠ buildId then
    let client := request.buildId
    pure (errorResponse request.id s!"daemon build mismatch: client {client}; daemon {buildId}")
  else handleKind host layout buildId coredumpPolicy request.id request.kind

/-! ## Which requests get which responses -/

/-- A response that neither ends the daemon nor carries its socket path. -/
def DaemonResponseKind.Plain : DaemonResponseKind Report → Prop
  | .status _ => False
  | .shutdown _ => False
  | _ => True

@[simp]
theorem plain_errorResponse :
    (errorResponse id message : DaemonResponse Report).kind.Plain :=
  trivial

theorem plain_attentionResponse {muted} :
    (attentionResponse id muted result : DaemonResponse Report).kind.Plain := by
  cases result <;> trivial

theorem plain_workflowAnswer {respond : Value → DaemonResponseKind Report}
    (plain : ∀ value, (respond value).Plain)
    (result : Except WorkflowError Value) :
    (workflowAnswer id respond result).kind.Plain := by
  cases result with
  | error error => trivial
  | ok value => exact plain value

/-- Whatever state it starts from, the response is plain. -/
def AlwaysPlain {State : Type}
    (action : StateM State (DaemonResponse Report)) : Prop :=
  ∀ state, (action.run state).1.kind.Plain

theorem alwaysPlain_pure {State : Type} (plain : response.kind.Plain) :
    AlwaysPlain (pure response : StateM State (DaemonResponse Report)) :=
  fun _ => plain

theorem alwaysPlain_answer {State : Type} {action : StateM State Value}
    {respond : Value → DaemonResponse Report}
    (plain : ∀ value, (respond value).kind.Plain) :
    AlwaysPlain (action >>= fun value => pure (respond value)) :=
  fun _ => plain _

theorem alwaysPlain_inWorld (plain : AlwaysPlain action) :
    AlwaysPlain (inWorld action) :=
  fun daemon => plain daemon.world

theorem plain_workflowResponse (id : String)
    (result : Except WorkflowError RunSummary) :
    (workflowResponse id result : DaemonResponse Report).kind.Plain :=
  plain_workflowAnswer (fun _ => by trivial) result

theorem alwaysPlain_resolveInput :
    AlwaysPlain (resolveInput host id runId commandId decision observed) := by
  rw [resolveInput]
  cases OperatorDecision.parse decision with
  | none => exact alwaysPlain_pure trivial
  | some parsed => exact alwaysPlain_answer (plain_workflowResponse id)

theorem alwaysPlain_handleWorkflowRecordRequest (id : String)
    (kind : DaemonRequestKind) :
    AlwaysPlain (handleWorkflowRecordRequest host id kind) := by
  cases kind with
  | workflowRecordSession | workflowRecordCandidate
  | workflowRecordCheckpoint | workflowRecordBackup
  | workflowRecordTest | workflowRecordReview
  | workflowRecordDispatchIntent =>
    exact alwaysPlain_answer (plain_workflowAnswer fun answer => by trivial)
  | workflowAdvance => exact alwaysPlain_answer (plain_workflowResponse id)
  | _ => exact alwaysPlain_pure trivial

theorem alwaysPlain_handleWorkflowRequest (id : String) :
    AlwaysPlain (handleWorkflowRequest host id kind) := by
  have recorded := alwaysPlain_handleWorkflowRecordRequest host id kind
  cases kind with
  | hello | status | telemetryHealth | attentionSnapshot | shutdown =>
    exact alwaysPlain_pure trivial
  | workflowList | workflowDetail | workflowRecover =>
    exact alwaysPlain_answer (plain_workflowAnswer fun answer => by trivial)
  | workflowResolve => exact alwaysPlain_resolveInput host
  | workflowStart | workflowStatus | workflowPause | workflowResume
  | workflowCancel => exact alwaysPlain_answer (plain_workflowResponse id)
  | _ => exact recorded

/--
Only a question for the status is answered with one, and only a shutdown
with its acceptance.
-/
theorem handleKind_kind :
    let response := ((handleKind host layout buildId coredumpPolicy id kind).run daemon).1
    response.kind.Plain ∨
      (kind = .status ∧ response.kind = .status (daemonStatus host layout buildId coredumpPolicy)) ∨
      (kind = .shutdown ∧ response.kind = .shutdown true) := by
  cases kind with
  | status => exact .inr (.inl ⟨rfl, rfl⟩)
  | shutdown => exact .inr (.inr ⟨rfl, rfl⟩)
  | hello | telemetryHealth => exact .inl trivial
  | attentionSnapshot containerName panes => exact .inl plain_attentionResponse
  | _ => exact .inl (alwaysPlain_inWorld (alwaysPlain_handleWorkflowRequest host id) daemon)

/-- A request the daemon acts on. -/
structure Admitted (request : DaemonRequest) : Prop where
  correlated : rejectsRequest host request.ctx = false
  version : request.protocolVersion = daemonProtocolVersion
  build : request.buildId = buildId

theorem handleRequest_of_admitted (admitted : Admitted host buildId request) :
    handleRequest host layout buildId coredumpPolicy request =
      handleKind host layout buildId coredumpPolicy request.id request.kind := by
  rw [handleRequest, if_neg (by simp [admitted.correlated]),
    if_neg (not_not_intro admitted.version), if_neg (not_not_intro admitted.build)]

theorem plain_of_not_admitted (refused : ¬Admitted host buildId request) :
    ((handleRequest host layout buildId coredumpPolicy request).run daemon).1.kind.Plain := by
  rw [handleRequest]
  split
  · exact plain_errorResponse
  · split
    · exact plain_errorResponse
    · split
      · exact plain_errorResponse
      · rename_i correlated version build
        exact absurd ⟨Bool.eq_false_of_not_eq_true correlated,
          not_not.mp version, not_not.mp build⟩ refused

end

end Jackin.HostDaemon
