import Jackin.Foundation.Json

/-!
# Requests through the usage relay

Sessions inside the container ask the usage broker on the host through a
relay.  The relay decodes a request, checks that the supervisor is still the
one it was started by, that the peer may speak for itself or is that
supervisor, and that the account capability the request names is the peer's.
What passes is encoded again, with a number, for the tunnel to the host.
-/

namespace Jackin.UsageRelay

open Foundation

def usageBrokerMaxFrameBytes : Nat := 1024 * 1024
def tunnelCapacity : Nat := 128

structure UsageAccountCapability where
  accountId : String
  surfaceId : String
  deriving DecidableEq

inductive UsageBrokerOperation where
  | currentProjection
  | requestRefresh (force : Bool) (observedProjectionId : Option String)
  | joinPublication (projectionId : String) (timeoutMs : Nat)
  | currentProjectionForSurface
  | requestRefreshForSurface (force : Bool) (observedProjectionId : Option String)
  | joinPublicationForSurface (projectionId : String) (timeoutMs : Nat)
  | currentForCapability (capability : UsageAccountCapability)
  | refreshForCapability (capability : UsageAccountCapability)
      (observedGeneration : Nat) (force : Bool)
  | joinForCapability (capability : UsageAccountCapability) (generation timeoutMs : Nat)
  | current (capability : UsageAccountCapability)
  | refresh (capability : UsageAccountCapability) (observedGeneration : Nat) (force : Bool)
  | join (capability : UsageAccountCapability) (generation timeoutMs : Nat)
  | monitor (request : Json)
  | resolveRelayCapabilities (scopeLabel : String) (forwardedSources : Json)

inductive UsageCredentialSourceIdentity where
  | onePassword (reference : String) (account : Option String)
  | hostEnv (name : String)
  | literal

/-- Where a credential came from. -/
structure UsageCredentialSourceProof where
  accountId : String
  surfaceId : String
  key : String
  source : UsageCredentialSourceIdentity
  materialFingerprint : String

/-- The sources are a set; they stand here in its order. -/
structure UsageCredentialScope where
  sources : List UsageCredentialSourceProof

structure UsageBrokerRequest where
  protocolVersion : String
  buildId : String
  operation : UsageBrokerOperation
  launchCredentialScope : Option UsageCredentialScope

/-- A request, with its number in the tunnel. -/
structure UsageRelayTunnelRequest where
  requestId : Nat
  request : UsageBrokerRequest

/-! ## Encoding -/

def optional (value : Option String) : Json :=
  match value with
  | some text => .string text
  | none => .null

section

variable (capability : UsageAccountCapability)

def UsageAccountCapability.json : Json :=
  .object [("account_id", .string capability.accountId),
    ("surface_id", .string capability.surfaceId)]

/-- A variant names itself in a field before its own fields. -/
def operationJson (name : String) (fields : List (String × Json)) : Json :=
  .object (("operation", .string name) :: fields)

def refreshFields (force : Bool)
    (observed : Option String) : List (String × Json) :=
  [("force", .bool force), ("observed_projection_id", optional observed)]

def joinPublicationFields (projectionId : String)
    (timeoutMs : Nat) : List (String × Json) :=
  [("projection_id", .string projectionId), ("timeout_ms", .number timeoutMs)]

def refreshCapabilityFields (observedGeneration : Nat)
    (force : Bool) : List (String × Json) :=
  [("capability", capability.json), ("observed_generation", .number observedGeneration),
    ("force", .bool force)]

def joinCapabilityFields (generation timeoutMs : Nat) : List (String × Json) :=
  [("capability", capability.json), ("generation", .number generation),
    ("timeout_ms", .number timeoutMs)]

end

def UsageBrokerOperation.json : UsageBrokerOperation → Json
  | .currentProjection => operationJson "current_projection" []
  | .requestRefresh force observed => operationJson "request_refresh" (refreshFields force observed)
  | .joinPublication projectionId timeoutMs =>
    operationJson "join_publication" (joinPublicationFields projectionId timeoutMs)
  | .currentProjectionForSurface => operationJson "current_projection_for_surface" []
  | .requestRefreshForSurface force observed =>
    operationJson "request_refresh_for_surface" (refreshFields force observed)
  | .joinPublicationForSurface projectionId timeoutMs =>
    operationJson "join_publication_for_surface" (joinPublicationFields projectionId timeoutMs)
  | .currentForCapability capability =>
    operationJson "current_for_capability" [("capability", capability.json)]
  | .refreshForCapability capability observedGeneration force =>
    operationJson "refresh_for_capability"
      (refreshCapabilityFields capability observedGeneration force)
  | .joinForCapability capability generation timeoutMs =>
    operationJson "join_for_capability" (joinCapabilityFields capability generation timeoutMs)
  | .current capability => operationJson "current" [("capability", capability.json)]
  | .refresh capability observedGeneration force =>
    operationJson "refresh" (refreshCapabilityFields capability observedGeneration force)
  | .join capability generation timeoutMs =>
    operationJson "join" (joinCapabilityFields capability generation timeoutMs)
  | .monitor request => operationJson "monitor" [("request", request)]
  | .resolveRelayCapabilities scopeLabel forwardedSources =>
    operationJson "resolve_relay_capabilities"
      [("scope_label", .string scopeLabel), ("forwarded_sources", forwardedSources)]

def UsageCredentialSourceIdentity.json : UsageCredentialSourceIdentity → Json
  | .onePassword reference account =>
    .object [("kind", .string "one_password"),
      ("reference", .string reference), ("account", optional account)]
  | .hostEnv name => .object [("kind", .string "host_env"), ("name", .string name)]
  | .literal => .object [("kind", .string "literal")]

def UsageCredentialSourceProof.json (proof : UsageCredentialSourceProof) : Json :=
  .object [("account_id", .string proof.accountId),
    ("surface_id", .string proof.surfaceId), ("key", .string proof.key),
    ("source", proof.source.json),
    ("material_fingerprint", .string proof.materialFingerprint)]

def UsageCredentialScope.json (scope : UsageCredentialScope) : Json :=
  .object [("sources", .array (scope.sources.map (·.json)))]

/-- A scope that is not there is not written. -/
def scopeField : Option UsageCredentialScope → List (String × Json)
  | some scope => [("launch_credential_scope", scope.json)]
  | none => []

def UsageBrokerRequest.json (request : UsageBrokerRequest) : Json :=
  .object (("protocol_version", .string request.protocolVersion) ::
    ("build_id", .string request.buildId) ::
    ("operation", request.operation.json) ::
    scopeField request.launchCredentialScope)

def UsageRelayTunnelRequest.json (tunneled : UsageRelayTunnelRequest) : Json :=
  .object [("request_id", .number tunneled.requestId), ("request", tunneled.request.json)]

/-- The process behind a connection. -/
structure PeerIdentity where
  pid : Option Nat
  startTime : Option Nat
  uid : Nat
  gid : Nat

structure SupervisorIdentity where
  pid : Nat
  startTime : Option Nat

namespace SupervisorIdentity

/-- Whether the process now started at that time is still the supervisor. -/
def isCurrent (supervisor : SupervisorIdentity)
    (processStartTime : Option Nat) : Bool :=
  match supervisor.startTime with
  | none => false
  | some startTime => processStartTime == some startTime

/-- Whether a peer is this very supervisor process, as root. -/
def matchesPeer (supervisor : SupervisorIdentity)
    (peer : PeerIdentity) : Bool :=
  peer.uid == 0 && peer.gid == 0 && peer.pid == some supervisor.pid &&
    supervisor.startTime.isSome && peer.startTime == supervisor.startTime

end SupervisorIdentity

def supervisorPeerAllows (supervisor : SupervisorIdentity) : Option PeerIdentity → Bool
  | none => false
  | some peer =>
    if peer.uid = 0 ∨ peer.gid = 0 then supervisor.matchesPeer peer
    else true

/-- Which accounts the peers may ask about. -/
structure UsageRelayAuthorization where
  byPeer : Nat × Nat → Option UsageAccountCapability
  launchCapabilities : List UsageAccountCapability

def operationCapability : UsageBrokerOperation → Option UsageAccountCapability
  | .currentForCapability capability => some capability
  | .refreshForCapability capability _ _ => some capability
  | .joinForCapability capability _ _ => some capability
  | .current capability => some capability
  | .refresh capability _ _ => some capability
  | .join capability _ _ => some capability
  | .currentProjection => none
  | .requestRefresh _ _ => none
  | .joinPublication _ _ => none
  | .currentProjectionForSurface => none
  | .requestRefreshForSurface _ _ => none
  | .joinPublicationForSurface _ _ => none
  | .monitor _ => none
  | .resolveRelayCapabilities _ _ => none

def UsageRelayAuthorization.authorizes (authorization : UsageRelayAuthorization)
    (supervisor : SupervisorIdentity) (peer : Option PeerIdentity)
    (operation : UsageBrokerOperation) : Bool :=
  match operationCapability operation with
  | none => false
  | some capability =>
    match peer with
    | none => false
    | some peer =>
      if supervisor.matchesPeer peer then authorization.launchCapabilities.contains capability
      else authorization.byPeer (peer.uid, peer.gid) == some capability

end Jackin.UsageRelay
