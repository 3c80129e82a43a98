import Gateway.Execution.Restart

/-! What the ledger shows of itself.

Every read-only view of the authoritative ledger, beside its durable form. None of
them looks into the admission ledger's queues. -/
namespace Gateway.Execution
open Data Device

inductive RetirementCapacityStatus where
  | normal | warning | critical | exhausted

structure RetirementCapacity where
  used : Nat
  limit : Nat
  detailedHistoryUsed : Nat
  detailedHistoryLimit : Nat
  status : RetirementCapacityStatus

structure OperationRecoverySnapshot where
  operation : OperationRef
  capability : DeviceCapability
  state : HubOperationState
  indeterminateReason : Option IndeterminateReason
  receipt : Option ExecutionReceipt
  result : Option RecoverableOperationResult

structure QuarantineInspectionSnapshot where
  operation : OperationRef
  capability : DeviceCapability
  audit : OperationAuditMetadata
  requestFingerprint : Option OperationRequestFingerprint
  evidenceEnvelope : Option OperationEvidenceEnvelope
  recoveryTarget : Option OperationRecoveryTarget
  semanticConstraint : Option SemanticConstraintAdmissionEvidence
  preparedAtMs : Nat
  dispatchedAtMs : Option Nat
  indeterminateAtMs : Nat
  indeterminateReason : IndeterminateReason
  evidence : Option ExecutionEvidence
  reconciliationStatus : ReconciliationStatus
  dispatchBindingPresent : Bool
  deriving DecidableEq

namespace AuthoritativeOperationController

variable (s : AuthoritativeOperationController)

def mutationResumeBarrier (deviceId : String) : Option MutationResumeBarrier :=
  s.mutationResumeBarriers[deviceId]?

def retirementCapacityUsed : Nat :=
  s.admission.retiredIndeterminate.size

def retirementCapacityLimit : Nat := maxRetiredOperationTombstones

/-- Multiplication that stops at the largest machine word. -/
def saturatingMul (a b : Nat) : Nat :=
  min (a * b) (2 ^ 64 - 1)

def retirementCapacity : RetirementCapacity :=
  let used := s.retirementCapacityUsed
  let limit := retirementCapacityLimit
  { used := used
    limit := limit
    detailedHistoryUsed := s.retirements.length
    detailedHistoryLimit := maxRetirementRecords
    status :=
      if used ≥ limit then .exhausted
      else if saturatingMul used 100 ≥ saturatingMul limit 90 then .critical
      else if saturatingMul used 100 ≥ saturatingMul limit 75 then .warning
      else .normal }

def owner (operationId : String) : Option OperationOwner :=
  s.operations[operationId]?.map SafetyOperation.owner

def receipt (operationId : String) : Option ExecutionReceipt :=
  s.operations[operationId]?.bind SafetyOperation.receipt

/-- An unknown id and another owner's id are told alike. -/
def recoveryForOwner (operationId : String)
    (owner : OperationOwner) : Except ExecutionError OperationRecoverySnapshot :=
  match s.operations[operationId]?.filter fun record => record.owner = owner with
  | some record =>
    .ok ⟨record.operation, record.capability, record.state, record.indeterminateReason,
      record.receipt, record.recoverableResult⟩
  | none =>
    match s.recoveryArchive[operationId]?.filter fun archived => archived.owner = owner with
    | none => .error .unknownOperation
    | some archived =>
      .ok ⟨archived.operation, archived.capability, archived.state, none, some archived.receipt,
        some archived.result⟩

def quarantine (deviceId : String) : Option DesktopQuarantine :=
  s.quarantines[deviceId]?

/-- One quarantine with what its operation says, if they agree. -/
def quarantineInspection (quarantine : DesktopQuarantine) :
    Except ExecutionError QuarantineInspectionSnapshot :=
  match s.operations[quarantine.operationId]? with
  | none => .error .invalidSnapshot
  | some record =>
    if record.state ≠ .indeterminate ∨ record.operation.deviceId ≠ quarantine.deviceId ∨
        record.operation.deviceGeneration ≠ quarantine.deviceGeneration ∨
        record.owner ≠ quarantine.owner ∨ record.indeterminateReason ≠ some quarantine.reason then
      .error .invalidSnapshot
    else
      .ok {
        operation := record.operation
        capability := record.capability
        audit := record.audit
        requestFingerprint := record.requestFingerprint
        evidenceEnvelope := record.evidenceEnvelope
        recoveryTarget := record.recoveryTarget
        semanticConstraint := record.semanticConstraint
        preparedAtMs := record.preparedAtMs
        dispatchedAtMs := record.dispatchedAtMs
        indeterminateAtMs := quarantine.sinceMs
        indeterminateReason := quarantine.reason
        evidence := record.receipt.map ExecutionReceipt.evidence
        reconciliationStatus := record.reconciliationStatus.getD .operatorRequired
        dispatchBindingPresent := record.dispatchBinding.isSome }

def quarantineInspections : Except ExecutionError (List QuarantineInspectionSnapshot) :=
  (sortBy DesktopQuarantine.deviceId s.quarantines.values).mapM s.quarantineInspection

/-- Every view of the second ledger is that of the first. -/
structure ShowsSame (s s' : AuthoritativeOperationController) : Prop where
  snapshot : s'.snapshotForRestart = s.snapshotForRestart
  isRecoveryEvidenceRead : ∀ id, s'.isRecoveryEvidenceRead id = s.isRecoveryEvidenceRead id
  mutationResumeBarrier : ∀ d, s'.mutationResumeBarrier d = s.mutationResumeBarrier d
  mutationResumes : s'.mutationResumes = s.mutationResumes
  retirementCapacityUsed : s'.retirementCapacityUsed = s.retirementCapacityUsed
  retirementCapacity : s'.retirementCapacity = s.retirementCapacity
  state : ∀ id, s'.state id = s.state id
  hasUnsettledWork : ∀ d, s'.hasUnsettledWork d = s.hasUnsettledWork d
  owner : ∀ id, s'.owner id = s.owner id
  receipt : ∀ id, s'.receipt id = s.receipt id
  recoveryForOwner : ∀ id owner, s'.recoveryForOwner id owner = s.recoveryForOwner id owner
  quarantine : ∀ d, s'.quarantine d = s.quarantine d
  quarantineInspections : s'.quarantineInspections = s.quarantineInspections
  resolutions : s'.resolutions = s.resolutions
  autoResolutions : s'.autoResolutions = s.autoResolutions
  retirements : s'.retirements = s.retirements

theorem ShowsSame.refl : s.ShowsSame s := by
  constructor <;> intros <;> rfl

/-- The queues of the admission ledger are shown nowhere. -/
theorem showsSame_queues (queues : Table (List OperationRef)) :
    s.ShowsSame {s with admission := {s.admission with queuedByDevice := queues}} := by
  constructor <;> intros <;> rfl

end AuthoritativeOperationController

end Gateway.Execution
