import Gateway.Data.JsonLength
import Gateway.Device.Capability
import Gateway.Execution.Operation

/-! The records of the authoritative ledger and the checks each must pass.

Every record that is kept across a restart has a check of its own shape here;
what the records must say about each other is the ledger's business. -/
namespace Gateway.Execution
open Data Device

def executionSafetySchemaVersion : Nat := 15
def maxResolutionEvidenceBytes : Nat := 1024
def maxRecoveryArchiveEntries : Nat := 8
def maxRecoveryArchiveBytes : Nat := 256 * 1024
def maxAuditCorrelationIdBytes : Nat := 128
def maxDispatchFenceBytes : Nat := 128
def maxReconciliationDeviceIdBytes : Nat := 128
def maxReconciliationOperationIdBytes : Nat := 128
def maxAutoResolutionRecords : Nat := 64
def maxRetirementReasonBytes : Nat := 1024
def maxRetirementRecords : Nat := 64
def maxRecoveryTargetTextBytes : Nat := 512
def maxSemanticConstraintRuleIdBytes : Nat := 64
def semanticConstraintSnapshotDigestBytes : Nat := 64
def maxSemanticConstraintKindBytes : Nat := 64
def operationEvidenceEnvelopeSchemaVersion : Nat := 1

def requestFingerprintAlgorithm : String := "hmac-sha256:cumg-v2-shell-process-v1"
def textInputFingerprintAlgorithm : String := "hmac-sha256:cumg-v2-text-input-v1"
def pointerClickFingerprintAlgorithm : String := "hmac-sha256:cumg-v2-pointer-click-v1"

/-! ### Owners, reasons and evidence -/

/-- The client an operation belongs to. -/
structure OperationOwner where
  issuer : String
  subject : String
  deriving DecidableEq

inductive IndeterminateReason where
  | cancellationUnproven | backendTimedOut | backendOutcomeUnproven | connectionLost
  | hubRestartAfterDispatch | agentRestartAfterDispatch | resultDeliveryLost
  deriving DecidableEq

/-- What shows that an operation ended as it did. -/
inductive ExecutionEvidence where
  | verifiedAgentResult | verifiedRemoteError | provenProcessTermination | cancelledBeforeDispatch
  | operatorResolution | recoveryReadInterrupted | hubEncodeFailedBeforeEnqueue
  | hubOutboundClosedBeforeEnqueue
  deriving DecidableEq

/-- The Hub itself proves that the Agent never saw the command. -/
def ExecutionEvidence.isPreEnqueue : ExecutionEvidence → Bool
  | .hubEncodeFailedBeforeEnqueue | .hubOutboundClosedBeforeEnqueue => true
  | _ => false

/-- How and when an operation ended. -/
structure ExecutionReceipt where
  schemaVersion : Nat
  operation : OperationRef
  owner : OperationOwner
  capability : DeviceCapability
  terminalState : HubOperationState
  evidence : ExecutionEvidence
  finalizedAtMs : Nat
  deriving DecidableEq

/-- Who can still settle an operation whose end is not known. -/
inductive ReconciliationStatus where
  | autoReconciling | autoResolved | operatorRequired | unrecoverableEvidenceGap
  deriving DecidableEq

/-- Terminal states an Agent's report can prove. -/
def authoritativeAgentTerminalPair : HubOperationState → ExecutionEvidence → Bool
  | .completed, .verifiedAgentResult => true
  | .failed, .verifiedRemoteError => true
  | .failed, .provenProcessTermination => true
  | .cancelled, .provenProcessTermination => true
  | _, _ => false

/-- The terminal state the Hub can prove for work it never enqueued. -/
def authoritativeHubPreEnqueueNonDeliveryPair (terminalState : HubOperationState)
    (evidence : ExecutionEvidence) : Bool :=
  terminalState = .cancelled && evidence.isPreEnqueue

theorem isTerminal_of_authoritativeAgentTerminalPair {s : HubOperationState} {e : ExecutionEvidence}
    (h : authoritativeAgentTerminalPair s e = true) : s.isTerminal = true := by
  cases s <;> cases e <;> first | rfl | cases h

/-! ### Dispatch bindings and terminal evidence -/

/-- The grant an operation was sent under, and the capabilities it was sent to. -/
structure OperationDispatchBinding where
  capabilityRevision : Nat
  grantId : String
  deriving DecidableEq

/-- Letters, digits and `_ - . :`. -/
def isFenceChar (c : Char) : Bool :=
  c.isAlphanum || c = '_' || c = '-' || c = '.' || c = ':'

def OperationDispatchBinding.isValid (binding : OperationDispatchBinding) : Bool :=
  binding.capabilityRevision ≠ 0 && !binding.grantId.isEmpty &&
    binding.grantId.utf8ByteSize ≤ maxDispatchFenceBytes && binding.grantId.toList.all isFenceChar

/-- An operation whose names are bounded and whose generation is real. -/
def OperationRef.isBounded (operation : OperationRef) : Bool :=
  !isBlank operation.deviceId &&
    operation.deviceId.utf8ByteSize ≤ maxReconciliationDeviceIdBytes &&
    operation.deviceGeneration > 0 && !isBlank operation.operationId &&
    operation.operationId.utf8ByteSize ≤ maxReconciliationOperationIdBytes

/-- The end of an operation, as the Agent recorded it. -/
structure AgentTerminalEvidence where
  operation : OperationRef
  capabilityRevision : Nat
  capability : DeviceCapability
  dispatchGrantId : String
  terminalState : HubOperationState
  evidence : ExecutionEvidence
  deriving DecidableEq

def AgentTerminalEvidence.dispatchBinding (terminal : AgentTerminalEvidence) :
    OperationDispatchBinding :=
  ⟨terminal.capabilityRevision, terminal.dispatchGrantId⟩

def AgentTerminalEvidence.isValid (terminal : AgentTerminalEvidence) : Bool :=
  terminal.dispatchBinding.isValid && terminal.operation.isBounded &&
    authoritativeAgentTerminalPair terminal.terminalState terminal.evidence

/-- An operation that was settled without an operator. -/
structure AutoResolutionRecord where
  operation : OperationRef
  capability : DeviceCapability
  terminalState : HubOperationState
  evidence : ExecutionEvidence
  dispatchBinding : OperationDispatchBinding
  resolvedAtMs : Nat

def AutoResolutionRecord.isValid (record : AutoResolutionRecord) : Bool :=
  record.operation.isBounded && record.dispatchBinding.isValid &&
    (authoritativeAgentTerminalPair record.terminalState record.evidence ||
      authoritativeHubPreEnqueueNonDeliveryPair record.terminalState record.evidence)

/-- Only a lost delivery of bound work can be settled by the Agent later. -/
def defaultReconciliationStatus (reason : Option IndeterminateReason)
    (dispatchBinding : Option OperationDispatchBinding) : ReconciliationStatus :=
  if dispatchBinding.isSome &&
      (reason = some .connectionLost || reason = some .hubRestartAfterDispatch ||
        reason = some .resultDeliveryLost) then .autoReconciling
  else .operatorRequired

def validReconciliationState (state : HubOperationState) (status : Option ReconciliationStatus)
    (dispatchBinding : Option OperationDispatchBinding) : Bool :=
  match state, status with
  | .indeterminate, none => true
  | .indeterminate, some .autoReconciling => dispatchBinding.isSome
  | .indeterminate, some .operatorRequired => true
  | .indeterminate, some .unrecoverableEvidenceGap => true
  | .completed, some .autoResolved | .failed, some .autoResolved
  | .cancelled, some .autoResolved => dispatchBinding.isSome
  | .completed, none | .failed, none | .cancelled, none => true
  | _, _ => false

/-- The operation that keeps a device from further work, and since when. -/
structure DesktopQuarantine where
  deviceId : String
  operationId : String
  deviceGeneration : Nat
  owner : OperationOwner
  reason : IndeterminateReason
  sinceMs : Nat
  deriving DecidableEq

/-! ### Admission metadata -/

structure OperationAuditMetadata where
  workflowId : Option String
  workflowStepId : Option String
  clientCorrelationId : Option String
  deriving DecidableEq

namespace OperationAuditMetadata

def empty : OperationAuditMetadata := ⟨none, none, none⟩

def isEmpty (audit : OperationAuditMetadata) : Bool :=
  audit.workflowId.isNone && audit.workflowStepId.isNone && audit.clientCorrelationId.isNone

def validAuditCorrelationId (value : String) : Bool :=
  !value.isEmpty && value.utf8ByteSize ≤ maxAuditCorrelationIdBytes && value.toList.all isFenceChar

def isValid (audit : OperationAuditMetadata) : Bool :=
  audit.workflowId.all validAuditCorrelationId && audit.workflowStepId.all validAuditCorrelationId &&
    audit.clientCorrelationId.all validAuditCorrelationId

end OperationAuditMetadata

structure OperationRequestFingerprint where
  algorithm : String
  keyId : String
  value : String
  deriving DecidableEq

/-- Exactly `n` lower-case hexadecimal digits; each is one byte. -/
def isHexOfLength (n : Nat) (text : String) : Bool :=
  text.utf8ByteSize = n &&
    text.toList.all fun c => c.isDigit || (97 ≤ c.toNat && c.toNat ≤ 102)

def OperationRequestFingerprint.isValid (fingerprint : OperationRequestFingerprint) : Bool :=
  (fingerprint.algorithm = requestFingerprintAlgorithm ||
      fingerprint.algorithm = textInputFingerprintAlgorithm ||
      fingerprint.algorithm = pointerClickFingerprintAlgorithm) &&
    isHexOfLength 16 fingerprint.keyId && isHexOfLength 64 fingerprint.value

inductive TextInputTargetEvidence where
  | unspecified
  | desktop
  | window (processId : Nat) (windowId : Option Nat)
  | windowPoint (processId windowId : Nat)
  | element (processId windowId : Nat)
  deriving DecidableEq

/-- Evidence of a text input; the only kind of envelope there is. -/
structure OperationEvidenceEnvelope where
  schemaVersion : Nat
  fingerprint : Option OperationRequestFingerprint
  payloadBytes : Nat
  payloadChars : Nat
  lineCount : Nat
  endsWithNewline : Bool
  separateSubmitRequested : Bool
  target : TextInputTargetEvidence
  delivery : Option InputDeliveryMode
  delayMs : Option Nat
  deriving DecidableEq

def OperationEvidenceEnvelope.isValid (envelope : OperationEvidenceEnvelope)
    (capability : DeviceCapability) : Bool :=
  envelope.schemaVersion = operationEvidenceEnvelopeSchemaVersion && capability = .typeText &&
    envelope.fingerprint.all (fun fingerprint =>
      fingerprint.algorithm = textInputFingerprintAlgorithm && fingerprint.isValid) &&
    envelope.payloadBytes ≠ 0 && envelope.payloadChars ≠ 0 && envelope.lineCount ≠ 0 &&
    !envelope.separateSubmitRequested

inductive OperationRecoveryTarget where
  | applicationLaunch (identifier name : Option String)
  | applicationProcess (processId : Nat) (application : String)
  deriving DecidableEq

def validRecoveryTargetText (value : String) : Bool :=
  !isBlank value && value.utf8ByteSize ≤ maxRecoveryTargetTextBytes

variable (capability : DeviceCapability)

def OperationRecoveryTarget.isValid : OperationRecoveryTarget → Bool
  | .applicationLaunch identifier name =>
    capability = .launchApplication && (identifier.isSome || name.isSome) &&
      identifier.all validRecoveryTargetText && name.all validRecoveryTargetText
  | .applicationProcess processId application =>
    capability = .terminateApplication && processId ≠ 0 && validRecoveryTargetText application

def recoveryTargetRequired : Bool :=
  capability = .launchApplication || capability = .terminateApplication

structure SemanticConstraintAdmissionEvidence where
  revision : Nat
  snapshotDigest : String
  kind : String
  ruleId : String
  deriving DecidableEq

namespace SemanticConstraintAdmissionEvidence

def isValid (constraint : SemanticConstraintAdmissionEvidence) : Bool :=
  constraint.revision ≠ 0 &&
    constraint.snapshotDigest.utf8ByteSize = semanticConstraintSnapshotDigestBytes &&
    constraint.snapshotDigest.toList.all (fun c =>
      c.isDigit || (97 ≤ c.toNat && c.toNat ≤ 102) || (65 ≤ c.toNat && c.toNat ≤ 70)) &&
    !constraint.kind.isEmpty && constraint.kind.utf8ByteSize ≤ maxSemanticConstraintKindBytes &&
    !constraint.ruleId.isEmpty && constraint.ruleId.utf8ByteSize ≤ maxSemanticConstraintRuleIdBytes &&
    constraint.kind.toList.all (fun c => c.isLower || c.isDigit || c = '_' || c = '-') &&
    constraint.ruleId.toList.all (fun c => c.isAlphanum || c = '_' || c = '-' || c = '.')

def isValidFor (constraint : SemanticConstraintAdmissionEvidence) (capability : DeviceCapability) :
    Bool :=
  constraint.isValid &&
    ((constraint.kind = "type_text_max_utf8_bytes" && capability = .typeText) ||
      (constraint.kind = "browser_navigate_requested_origins" && capability = .browserNavigate))

end SemanticConstraintAdmissionEvidence

structure OperationAdmissionMetadata where
  audit : OperationAuditMetadata
  requestFingerprint : Option OperationRequestFingerprint
  evidenceEnvelope : Option OperationEvidenceEnvelope
  recoveryTarget : Option OperationRecoveryTarget
  semanticConstraint : Option SemanticConstraintAdmissionEvidence

def OperationAdmissionMetadata.empty : OperationAdmissionMetadata :=
  ⟨.empty, none, none, none, none⟩

def OperationAdmissionMetadata.isValid (metadata : OperationAdmissionMetadata)
    (capability : DeviceCapability) : Bool :=
  metadata.audit.isValid && metadata.requestFingerprint.all (·.isValid) &&
    metadata.evidenceEnvelope.all (·.isValid capability) &&
    !(recoveryTargetRequired capability && metadata.recoveryTarget.isNone) &&
    metadata.recoveryTarget.all (·.isValid capability) &&
    metadata.semanticConstraint.all (·.isValidFor capability)

/-! ### Retirement and resumption -/

inductive RetirementOutcome where
  | unknown
  deriving DecidableEq

inductive RetirementPolicy where
  | transientUiInteractionV1
  | acknowledgedUnknownPointerClickV1
  deriving DecidableEq

inductive RetirementDisposition where
  | retired
  | currentStateAccepted
  deriving DecidableEq

inductive RetirementAuthority where
  | localMaintenanceOperator
  | localUserPresence
  deriving DecidableEq

def offlineRetirementPolicyForCapability : DeviceCapability → Option RetirementPolicy
  | .scroll | .movePointer => some .transientUiInteractionV1
  | _ => none

def currentStateAcceptancePolicyForCapability : DeviceCapability → Option RetirementPolicy
  | .scroll | .movePointer => some .transientUiInteractionV1
  | .pointerClick => some .acknowledgedUnknownPointerClickV1
  | _ => none

/-- The policy a disposition applies to a capability. -/
def RetirementDisposition.policyFor (disposition : RetirementDisposition)
    (capability : DeviceCapability) : Option RetirementPolicy :=
  match disposition with
  | .retired => offlineRetirementPolicyForCapability capability
  | .currentStateAccepted => currentStateAcceptancePolicyForCapability capability

/-- Whose authority a disposition needs. -/
def RetirementDisposition.authority : RetirementDisposition → RetirementAuthority
  | .retired => .localMaintenanceOperator
  | .currentStateAccepted => .localUserPresence

/-- An operation of unknown end that an operator has set aside. -/
structure RetirementRecord where
  operation : OperationRef
  capability : DeviceCapability
  outcome : RetirementOutcome
  indeterminateReason : IndeterminateReason
  priorReconciliationStatus : ReconciliationStatus
  policy : RetirementPolicy
  disposition : RetirementDisposition
  authority : RetirementAuthority
  reason : String
  authorizedDeviceGeneration : Nat
  retiredAtMs : Nat
  replayed : Bool
  deriving DecidableEq

/-- Statuses that leave the outcome to a human. -/
def ReconciliationStatus.isUnrecovered : ReconciliationStatus → Bool
  | .operatorRequired | .unrecoverableEvidenceGap => true
  | _ => false

def validReason (reason : String) : Bool :=
  !isBlank reason && reason.utf8ByteSize ≤ maxRetirementReasonBytes

def RetirementRecord.isValid (record : RetirementRecord) : Bool :=
  record.operation.isBounded && record.outcome = .unknown &&
    record.priorReconciliationStatus.isUnrecovered &&
    record.disposition.policyFor record.capability = some record.policy &&
    record.authority = record.disposition.authority && validReason record.reason &&
    record.authorizedDeviceGeneration > record.operation.deviceGeneration && !record.replayed

/-- A device is not to be changed again until an operator says so. -/
structure MutationResumeBarrier where
  deviceId : String
  sourceOperationId : String
  sourceDeviceGeneration : Nat
  acceptedGeneration : Nat
  policy : RetirementPolicy
  createdAtMs : Nat
  deriving DecidableEq

def MutationResumeBarrier.isValid (barrier : MutationResumeBarrier) : Bool :=
  !isBlank barrier.deviceId && barrier.deviceId.utf8ByteSize ≤ maxReconciliationDeviceIdBytes &&
    !isBlank barrier.sourceOperationId &&
    barrier.sourceOperationId.utf8ByteSize ≤ maxReconciliationOperationIdBytes &&
    barrier.sourceDeviceGeneration > 0 &&
    barrier.acceptedGeneration > barrier.sourceDeviceGeneration &&
    barrier.policy = .acknowledgedUnknownPointerClickV1 && barrier.createdAtMs > 0

/-- An operator has said so. -/
structure MutationResumeRecord where
  deviceId : String
  sourceOperationId : String
  acceptedGeneration : Nat
  resumedGeneration : Nat
  policy : RetirementPolicy
  authority : RetirementAuthority
  reason : String
  resumedAtMs : Nat
  deriving DecidableEq

def MutationResumeRecord.isValid (record : MutationResumeRecord) : Bool :=
  !isBlank record.deviceId && record.deviceId.utf8ByteSize ≤ maxReconciliationDeviceIdBytes &&
    !isBlank record.sourceOperationId &&
    record.sourceOperationId.utf8ByteSize ≤ maxReconciliationOperationIdBytes &&
    record.acceptedGeneration > 0 && record.resumedGeneration > record.acceptedGeneration &&
    record.policy = .acknowledgedUnknownPointerClickV1 && record.authority = .localUserPresence &&
    validReason record.reason && record.resumedAtMs > 0

structure ResolutionRecord where
  operationId : String
  deviceId : String
  deviceGeneration : Nat
  resolver : OperationOwner
  decision : IndeterminateResolution
  evidence : String
  resolvedAtMs : Nat

/-! ### Results kept for recovery -/

/-- What a client can still be told of an operation that has ended. -/
inductive RecoverableOperationResult where
  | process (output : ProcessOutput)
  | shell (output : ProcessOutput)
  | error (code : DeviceErrorCode)
  | effectfulStatus
  deriving DecidableEq

def processOutputMatchesState (output : ProcessOutput) (state : HubOperationState) : Bool :=
  if output.cancelled && output.timedOut then false
  else if output.cancelled then state = .cancelled
  else if output.timedOut then state = .failed
  else state = .completed

/-- Direct process or shell work. -/
def runsProcess : Bool :=
  capability = .executeProcess || capability = .shell

def RecoverableOperationResult.isValidFor
    (state : HubOperationState) : RecoverableOperationResult → Bool
  | .process output => capability = .executeProcess && processOutputMatchesState output state
  | .shell output => capability = .shell && processOutputMatchesState output state
  | .error _ => runsProcess capability && state = .failed
  | .effectfulStatus =>
    !runsProcess capability && capability.capabilityClass ≠ .observe && state.isTerminal

/-- A result that is kept when the record of its operation is dropped. -/
structure ArchivedOperationRecovery where
  operation : OperationRef
  owner : OperationOwner
  capability : DeviceCapability
  state : HubOperationState
  receipt : ExecutionReceipt
  result : RecoverableOperationResult
  semanticConstraint : Option SemanticConstraintAdmissionEvidence

def ArchivedOperationRecovery.isValid (archived : ArchivedOperationRecovery) : Bool :=
  archived.state.isTerminal && archived.result.isValidFor archived.capability archived.state &&
    archived.receipt.operation = archived.operation && archived.receipt.owner = archived.owner &&
    archived.receipt.capability = archived.capability &&
    archived.receipt.terminalState = archived.state &&
    archived.semanticConstraint.all (·.isValidFor archived.capability)

/-! ### Operations -/

/-- Reads that gather evidence go around the quarantine of their device. -/
inductive OperationExecutionLane where
  | normal
  | recoveryEvidenceRead
  deriving DecidableEq

/-- One operation of the authoritative ledger. Its durable form has the same fields. -/
structure SafetyOperation where
  operation : OperationRef
  owner : OperationOwner
  capability : DeviceCapability
  executionLane : OperationExecutionLane
  state : HubOperationState
  preparedAtMs : Nat
  dispatchedAtMs : Option Nat
  indeterminateReason : Option IndeterminateReason
  receipt : Option ExecutionReceipt
  recoverableResult : Option RecoverableOperationResult
  audit : OperationAuditMetadata
  requestFingerprint : Option OperationRequestFingerprint
  evidenceEnvelope : Option OperationEvidenceEnvelope
  recoveryTargetRequired : Bool
  recoveryTarget : Option OperationRecoveryTarget
  semanticConstraint : Option SemanticConstraintAdmissionEvidence
  dispatchBinding : Option OperationDispatchBinding
  reconciliationStatus : Option ReconciliationStatus

/-- The receipt that settles an operation. -/
def SafetyOperation.receiptFor (record : SafetyOperation) (terminalState : HubOperationState)
    (evidence : ExecutionEvidence) (nowMs : Nat) : ExecutionReceipt where
  schemaVersion := executionSafetySchemaVersion
  operation := record.operation
  owner := record.owner
  capability := record.capability
  terminalState := terminalState
  evidence := evidence
  finalizedAtMs := nowMs

/-! ### Encoded lengths -/

section Encoding
open Json

/-- The state's name on the wire. -/
def HubOperationState.name : HubOperationState → String
  | .queued => "Queued"
  | .activeNotDispatched => "ActiveNotDispatched"
  | .dispatched => "Dispatched"
  | .cancelRequested => "CancelRequested"
  | .completed => "Completed"
  | .failed => "Failed"
  | .cancelled => "Cancelled"
  | .indeterminate => "Indeterminate"

def ExecutionEvidence.name : ExecutionEvidence → String
  | .verifiedAgentResult => "verified_agent_result"
  | .verifiedRemoteError => "verified_remote_error"
  | .provenProcessTermination => "proven_process_termination"
  | .cancelledBeforeDispatch => "cancelled_before_dispatch"
  | .operatorResolution => "operator_resolution"
  | .recoveryReadInterrupted => "recovery_read_interrupted"
  | .hubEncodeFailedBeforeEnqueue => "hub_encode_failed_before_enqueue"
  | .hubOutboundClosedBeforeEnqueue => "hub_outbound_closed_before_enqueue"

def OperationRef.jsonLength (operation : OperationRef) : Nat :=
  bracketed [member "device_id" (stringLength operation.deviceId),
    member "device_generation" (natLength operation.deviceGeneration),
    member "operation_id" (stringLength operation.operationId)]

def OperationOwner.jsonLength (owner : OperationOwner) : Nat :=
  bracketed [member "issuer" (stringLength owner.issuer),
    member "subject" (stringLength owner.subject)]

def ExecutionReceipt.jsonLength (receipt : ExecutionReceipt) : Nat :=
  bracketed [member "schema_version" (natLength receipt.schemaVersion),
    member "operation" receipt.operation.jsonLength, member "owner" receipt.owner.jsonLength,
    member "capability" (stringLength receipt.capability.name),
    member "terminal_state" (stringLength receipt.terminalState.name),
    member "evidence" (stringLength receipt.evidence.name),
    member "finalized_at_ms" (natLength receipt.finalizedAtMs)]

def processOutputJsonLength (output : ProcessOutput) : Nat :=
  bracketed [member "exit_code" (optionLength intLength output.exitCode),
    member "stdout" (stringLength output.stdout), member "stderr" (stringLength output.stderr),
    member "stdout_truncated" (boolLength output.stdoutTruncated),
    member "stderr_truncated" (boolLength output.stderrTruncated),
    member "timed_out" (boolLength output.timedOut),
    member "cancelled" (boolLength output.cancelled),
    member "duration_ms" (natLength output.durationMs)]

def RecoverableOperationResult.jsonLength : RecoverableOperationResult → Nat
  | .process output =>
    bracketed [member "type" (stringLength "process"), member "output" (processOutputJsonLength output)]
  | .shell output =>
    bracketed [member "type" (stringLength "shell"), member "output" (processOutputJsonLength output)]
  | .error code =>
    bracketed [member "type" (stringLength "error"), member "code" (stringLength code.safeCode)]
  | .effectfulStatus => bracketed [member "type" (stringLength "effectful_status")]

def SemanticConstraintAdmissionEvidence.jsonLength
    (constraint : SemanticConstraintAdmissionEvidence) : Nat :=
  bracketed [member "revision" (natLength constraint.revision),
    member "snapshot_digest" (stringLength constraint.snapshotDigest),
    member "kind" (stringLength constraint.kind), member "rule_id" (stringLength constraint.ruleId)]

/-- The bytes of an archived result in JSON. -/
def ArchivedOperationRecovery.encodedLen (archived : ArchivedOperationRecovery) : Nat :=
  bracketed ([member "operation" archived.operation.jsonLength,
      member "owner" archived.owner.jsonLength,
      member "capability" (stringLength archived.capability.name),
      member "state" (stringLength archived.state.name),
      member "receipt" archived.receipt.jsonLength, member "result" archived.result.jsonLength] ++
    optionalMember "semantic_constraint" SemanticConstraintAdmissionEvidence.jsonLength
      archived.semanticConstraint)

end Encoding

end Gateway.Execution
