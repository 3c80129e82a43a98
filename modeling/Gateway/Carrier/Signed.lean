import Gateway.Carrier.Delivery

/-! Messages a device signs, and how the Hub verifies them.

Each message is signed over a transcript: a JSON record with a domain of its own, the nonces of
the handshake and what the message says. All verifiers ask the registry, which knows the keys
and the revocations; one of them takes only the key from it. -/
namespace Gateway.Carrier
open Data Device Control Execution Json

/-- Thirty-two bytes drawn for one handshake. -/
abbrev Nonce : Type := KeyBytes

def nonceJson (nonce : Nonce) : Json :=
  .ofBytes nonce.toList

/-- Why a message is not taken. -/
inductive TransportError where
  | unsupportedSchema (got : Nat)
  | hubKeyMismatch | invalidReconciliationReport | invalidHandoffControl | invalidHubSignature
  | handshakeMismatch
  | control (error : TrustError)

/-! ### The handshake -/

def advertisementJson (capabilities : CapabilityAdvertisement) : Json :=
  .object [("backend", .text capabilities.backend),
    ("backend_version", .text capabilities.backendVersion), ("platform", .text capabilities.platform),
    ("capability_schema_version", .ofNat capabilities.capabilitySchemaVersion),
    ("revision", .ofNat capabilities.revision),
    ("supported", .array (capabilities.supported.map fun capability => .text capability.name))]

/-- The Agent opens the handshake with a nonce and what it can do. -/
structure AgentHello where
  schemaVersion : Nat
  deviceId : String
  agentNonce : Nonce
  capabilities : CapabilityAdvertisement

variable (hello : AgentHello)

def AgentHello.json : Json :=
  .object [("schema_version", .ofNat hello.schemaVersion), ("device_id", .text hello.deviceId),
    ("agent_nonce", nonceJson hello.agentNonce),
    ("capabilities", advertisementJson hello.capabilities)]

/-- The Hub answers with a nonce of its own. -/
structure HubChallenge where
  schemaVersion : Nat
  agentNonce : Nonce
  hubNonce : Nonce
  hubPublicKey : KeyBytes
  signature : List UInt8

/-- The Agent closes the handshake with a signature over both nonces. -/
structure AgentProof where
  schemaVersion : Nat
  deviceId : String
  agentNonce : Nonce
  hubNonce : Nonce
  signature : List UInt8

variable (challenge : HubChallenge)

def agentProofBytes : List UInt8 :=
  encode (.object [("domain", .text "cumg-v2-m0-agent-proof"),
    ("schema_version", .ofNat hubAgentSchemaVersion), ("hello", hello.json),
    ("hub_nonce", nonceJson challenge.hubNonce),
    ("hub_public_key", nonceJson challenge.hubPublicKey)])

/-- The members every later transcript begins with. -/
def sessionMembers (domain deviceId : String) (hello : AgentHello) (challenge : HubChallenge) :
    List (String × Json) :=
  [("domain", .text domain), ("schema_version", .ofNat hubAgentSchemaVersion),
    ("device_id", .text deviceId), ("agent_nonce", nonceJson hello.agentNonce),
    ("hub_nonce", nonceJson challenge.hubNonce)]

/-! ### Messages within a session -/

/-- A sign of life within a session. -/
structure AgentHeartbeat where
  schemaVersion : Nat
  deviceId : String
  deviceGeneration : Nat
  sequence : Nat
  signature : List UInt8

def agentHeartbeatBytes (heartbeat : AgentHeartbeat) : List UInt8 :=
  encode (.object (sessionMembers "cumg-v2-m1-agent-heartbeat" heartbeat.deviceId hello
    challenge ++ [("device_generation", .ofNat heartbeat.deviceGeneration),
      ("sequence", .ofNat heartbeat.sequence)]))

/-- Whether the backend of a context has ended its session. -/
structure RemoteBackendSessionEnded where
  schemaVersion : Nat
  deviceId : String
  deviceGeneration : Nat
  contextId : String
  ended : Bool
  signature : List UInt8

def remoteBackendSessionEndedBytes (ack : RemoteBackendSessionEnded) : List UInt8 :=
  encode (.object (sessionMembers "cumg-v2-m1-backend-session-ended" ack.deviceId hello
    challenge ++ [("device_generation", .ofNat ack.deviceGeneration),
      ("context_id", .text ack.contextId), ("ended", .bool ack.ended)]))

inductive CancellationDisposition where
  | cancelledBeforeExecution | cancellationRequested | indeterminateAfterPropagation
  | alreadyTerminal

def CancellationDisposition.name : CancellationDisposition → String
  | .cancelledBeforeExecution => "cancelled_before_execution"
  | .cancellationRequested => "cancellation_requested"
  | .indeterminateAfterPropagation => "indeterminate_after_propagation"
  | .alreadyTerminal => "already_terminal"

/-- What came of a request to cancel. -/
structure RemoteCancellationAck where
  schemaVersion : Nat
  deviceId : String
  deviceGeneration : Nat
  operationId : String
  disposition : CancellationDisposition
  signature : List UInt8

def remoteCancellationAckBytes (ack : RemoteCancellationAck) : List UInt8 :=
  encode (.object (sessionMembers "cumg-v2-m0-remote-cancellation-ack" ack.deviceId hello
    challenge ++ [("device_generation", .ofNat ack.deviceGeneration),
      ("operation_id", .text ack.operationId), ("disposition", .text ack.disposition.name)]))

inductive RemoteIndeterminateCause where
  | backendTimedOut

def RemoteIndeterminateCause.name : RemoteIndeterminateCause → String
  | .backendTimedOut => "backend_timed_out"

/-- The Agent cannot tell how an operation ended. -/
structure RemoteIndeterminateAck where
  schemaVersion : Nat
  deviceId : String
  deviceGeneration : Nat
  operationId : String
  cause : RemoteIndeterminateCause
  signature : List UInt8

def remoteIndeterminateAckBytes (ack : RemoteIndeterminateAck) : List UInt8 :=
  encode (.object (sessionMembers "cumg-v2-m1-remote-indeterminate-ack-v1" ack.deviceId
    hello challenge ++ [("device_generation", .ofNat ack.deviceGeneration),
      ("operation_id", .text ack.operationId), ("cause", .text ack.cause.name)]))

def remoteReconciliationReportBytes (remote : RemoteReconciliationReport) : List UInt8 :=
  encode (.object (sessionMembers "cumg-v2-m1-reconciliation-report-v1" remote.deviceId
    hello challenge ++ [("reporting_generation", .ofNat remote.reportingGeneration),
      ("terminal_evidence", .array (remote.terminalEvidence.map terminalEvidenceJson))]))

def remoteResultBytes (remote : RemoteResult) : List UInt8 :=
  encode (.object (sessionMembers "cumg-v2-m0-remote-result" hello.deviceId hello challenge
    ++ [("result", remote.result.json)]))

/-! ### Handoff responses -/

inductive HandoffInterventionStatus where
  | awaitingHuman | humanActive | verifying | readyToResume

def HandoffInterventionStatus.name : HandoffInterventionStatus → String
  | .awaitingHuman => "awaiting_human"
  | .humanActive => "human_active"
  | .verifying => "verifying"
  | .readyToResume => "ready_to_resume"

inductive HandoffExecutionAuthority where
  | human
  | none

def HandoffExecutionAuthority.name : HandoffExecutionAuthority → String
  | .human => "human"
  | .none => "none"

inductive HandoffSurfaceKind where
  | native
  | webrtc

def HandoffSurfaceKind.name : HandoffSurfaceKind → String
  | .native => "native"
  | .webrtc => "webrtc"

structure HandoffActiveStatus where
  interventionId : String
  status : HandoffInterventionStatus
  epoch : Nat
  authority : HandoffExecutionAuthority

def HandoffActiveStatus.json (active : HandoffActiveStatus) : Json :=
  .object [("intervention_id", .text active.interventionId), ("status", .text active.status.name),
    ("epoch", .ofNat active.epoch), ("authority", .text active.authority.name)]

/-- Whether work may go on while a person has taken over. -/
inductive RemoteHandoffAdmissionDecision where
  | allow
  | deny
  | verification (interventionId : String) (epoch : Nat)

def RemoteHandoffAdmissionDecision.json : RemoteHandoffAdmissionDecision → Json
  | .allow => .tagged "decision" "allow" []
  | .deny => .tagged "decision" "deny" []
  | .verification interventionId epoch =>
    .tagged "decision" "verification" [("intervention_id", .text interventionId),
      ("epoch", .ofNat epoch)]

inductive RemoteHandoffErrorCode where
  | unsupported | unavailable | rejected | protocol | sessionFenceMismatch | invalidRequest

def RemoteHandoffErrorCode.name : RemoteHandoffErrorCode → String
  | .unsupported => "unsupported"
  | .unavailable => "unavailable"
  | .rejected => "rejected"
  | .protocol => "protocol"
  | .sessionFenceMismatch => "session_fence_mismatch"
  | .invalidRequest => "invalid_request"

structure RemoteHandoffStatus where
  active : Option HandoffActiveStatus
  recoveryRequired : Bool
  recoveryStatus : Option HandoffInterventionStatus
  recoveryEpoch : Option Nat
  recoveryExpired : Bool
  resumeRequested : Bool
  faulted : Bool
  humanSurface : Option HandoffSurfaceKind

def RemoteHandoffStatus.json (status : RemoteHandoffStatus) : Json :=
  .object [("active", .ofOption HandoffActiveStatus.json status.active),
    ("recovery_required", .bool status.recoveryRequired),
    ("recovery_status", .ofOption (fun recovery => .text recovery.name) status.recoveryStatus),
    ("recovery_epoch", .ofOption ofNat status.recoveryEpoch),
    ("recovery_expired", .bool status.recoveryExpired),
    ("resume_requested", .bool status.resumeRequested), ("faulted", .bool status.faulted),
    ("human_surface", .ofOption (fun surface => .text surface.name) status.humanSurface)]

inductive RemoteHandoffResponseKind where
  | admission (decision : RemoteHandoffAdmissionDecision)
  | status (status : RemoteHandoffStatus)
  | operator (status : RemoteHandoffStatus) (locator : Option String)
  | rejected (code : RemoteHandoffErrorCode)

def RemoteHandoffResponseKind.json : RemoteHandoffResponseKind → Json
  | .admission decision => .tagged "type" "admission" [("decision", decision.json)]
  | .status reported => .tagged "type" "status" [("status", reported.json)]
  | .operator reported locator =>
    .tagged "type" "operator" [("status", reported.json), ("locator", .ofOption text locator)]
  | .rejected code => .tagged "type" "rejected" [("code", .text code.name)]

structure RemoteHandoffResponse where
  schemaVersion : Nat
  deviceId : String
  deviceGeneration : Nat
  requestId : String
  response : RemoteHandoffResponseKind
  signature : List UInt8

def remoteHandoffResponseBytes (remote : RemoteHandoffResponse) : List UInt8 :=
  encode (.object (sessionMembers "cumg-v2-handoff-response-v1" remote.deviceId hello
    challenge ++ [("device_generation", .ofNat remote.deviceGeneration),
      ("request_id", .text remote.requestId), ("response", remote.response.json)]))

/-! ### Verification -/

def validateSchema (got : Nat) : Except TransportError Unit :=
  if got = hubAgentSchemaVersion then .ok () else .error (.unsupportedSchema got)

def maxHandoffControlBytes : Nat := 4 * 1024

def validateHandoffPayload (payload : Json) : Except TransportError Unit :=
  if payload.size > maxHandoffControlBytes then .error .invalidHandoffControl else .ok ()

def validateHandoffRequestId (value : String) : Except TransportError Unit :=
  if value.isEmpty ∨ value.utf8ByteSize > 128 ∨
      ¬value.toList.all (fun c => c.isAlphanum || c = '-' || c = '_') then
    .error .invalidHandoffControl
  else .ok ()

section Verifiers
variable {scheme : SignatureScheme} (registry : DeviceRegistry scheme) (hello : AgentHello)
  (challenge : HubChallenge)

/-- The registry's own verdict, as an error of the transport. -/
def verifySigned (transcript signature : List UInt8) : Except TransportError Unit :=
  (registry.verifyDeviceSignature hello.deviceId transcript signature).mapError .control

/-- A message that names its device, and nothing else to check before its signature. -/
def verifyNamed (schemaVersion : Nat) (deviceId : String) (transcript signature : List UInt8) :
    Except TransportError Unit := do
  validateSchema schemaVersion
  if deviceId ≠ hello.deviceId then throw .handshakeMismatch
  verifySigned registry hello transcript signature

def verifyAgentProof (proof : AgentProof) : Except TransportError Unit := do
  validateSchema proof.schemaVersion
  if proof.deviceId ≠ hello.deviceId ∨ proof.agentNonce ≠ hello.agentNonce ∨
      proof.hubNonce ≠ challenge.hubNonce then
    throw .handshakeMismatch
  verifySigned registry hello (agentProofBytes hello challenge) proof.signature

def verifyAgentHeartbeat (heartbeat : AgentHeartbeat) : Except TransportError Unit :=
  verifyNamed registry hello heartbeat.schemaVersion heartbeat.deviceId
    (agentHeartbeatBytes hello challenge heartbeat) heartbeat.signature

def verifyRemoteBackendSessionEnded (ack : RemoteBackendSessionEnded) : Except TransportError Unit :=
  verifyNamed registry hello ack.schemaVersion ack.deviceId
    (remoteBackendSessionEndedBytes hello challenge ack) ack.signature

def verifyRemoteCancellationAck (ack : RemoteCancellationAck) : Except TransportError Unit :=
  verifyNamed registry hello ack.schemaVersion ack.deviceId
    (remoteCancellationAckBytes hello challenge ack) ack.signature

def verifyRemoteIndeterminateAck (ack : RemoteIndeterminateAck) : Except TransportError Unit :=
  verifyNamed registry hello ack.schemaVersion ack.deviceId
    (remoteIndeterminateAckBytes hello challenge ack) ack.signature

/-- A result names no device beside the one it was sent by. -/
def verifyRemoteResult (remote : RemoteResult) : Except TransportError Unit := do
  validateSchema remote.schemaVersion
  verifySigned registry hello (remoteResultBytes hello challenge remote) remote.signature

def verifyRemoteReconciliationReport (remote : RemoteReconciliationReport) :
    Except TransportError Unit := do
  validateSchema remote.schemaVersion
  if remote.deviceId ≠ hello.deviceId ∨ remote.reportingGeneration = 0 ∨
      remote.terminalEvidence.length > maxAgentTerminalEvidenceEntries ∨
      remote.terminalEvidence.any (fun evidence => !evidence.isValid) then
    throw .invalidReconciliationReport
  verifySigned registry hello (remoteReconciliationReportBytes hello challenge remote)
    remote.signature

/-- The signature is verified under the device's key, and revocation is not asked. -/
def verifyRemoteHandoffResponse (remote : RemoteHandoffResponse) : Except TransportError Unit := do
  validateSchema remote.schemaVersion
  validateHandoffRequestId remote.requestId
  validateHandoffPayload remote.response.json
  if remote.deviceId ≠ hello.deviceId ∨ remote.deviceGeneration = 0 then throw .handshakeMismatch
  if remote.signature.length ≠ 64 then throw .invalidHubSignature
  let key ← (registry.deviceVerifier hello.deviceId).mapError .control
  if ¬key.verify (remoteHandoffResponseBytes hello challenge remote) remote.signature then
    throw (.control .invalidDeviceSignature)

end Verifiers

end Gateway.Carrier
