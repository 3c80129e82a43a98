import Gateway.Execution.Controller

/-! The durable form of the authoritative ledger and reading it back.

The writer settles in the snapshot what a restart settles: undispatched work
becomes cancelled, a dispatched recovery read is abandoned, and any other
dispatched work becomes ambiguous and quarantines its device. The reader trusts
none of it: it checks every record, and every statement one record makes about
another, before it returns a ledger. -/
namespace Gateway.Execution
open Data Device SafetyOperation MutationResumeBarrier Table

def recoveryTargetExecutionSafetySchemaVersion : Nat := 14
def mutationResumeExecutionSafetySchemaVersion : Nat := 13
def semanticConstraintExecutionSafetySchemaVersion : Nat := 12
def replayTombstoneExecutionSafetySchemaVersion : Nat := 11
def currentStateAcceptanceExecutionSafetySchemaVersion : Nat := 10
def effectfulRecoveryExecutionSafetySchemaVersion : Nat := 9
def recoveryEvidenceReadExecutionSafetySchemaVersion : Nat := 8
def evidenceEnvelopeExecutionSafetySchemaVersion : Nat := 7
def partialInputExecutionSafetySchemaVersion : Nat := 6
def retirementExecutionSafetySchemaVersion : Nat := 5
def reconciliationExecutionSafetySchemaVersion : Nat := 4
def auditExecutionSafetySchemaVersion : Nat := 3
def legacyExecutionSafetySchemaVersion : Nat := 1

structure AuthoritativeSafetySnapshot where
  schemaVersion : Nat
  admission : HubAdmissionSnapshot
  operations : List SafetyOperation
  recoveries : List ArchivedOperationRecovery
  quarantines : List DesktopQuarantine
  resolutions : List ResolutionRecord
  autoResolutions : List AutoResolutionRecord
  retirements : List RetirementRecord
  mutationResumeBarriers : List MutationResumeBarrier
  mutationResumes : List MutationResumeRecord

/-! ### Writing -/

variable (record : SafetyOperation)

/-- When an operation last changed hands before the Hub stopped. -/
def SafetyOperation.lastSeenMs : Nat :=
  record.dispatchedAtMs.getD record.preparedAtMs

/-- Work a restart makes ambiguous. -/
def SafetyOperation.isLostByRestart : Bool :=
  record.state.isInFlight && record.executionLane ≠ .recoveryEvidenceRead

/-- The record a restart leaves behind. -/
def SafetyOperation.afterRestart : SafetyOperation :=
  match record.state with
  | .queued | .activeNotDispatched =>
    {record with
      state := .cancelled
      receipt := some (record.receiptFor .cancelled .cancelledBeforeDispatch record.preparedAtMs)
      recoverableResult := none}
  | .dispatched | .cancelRequested =>
    if record.executionLane = .recoveryEvidenceRead then
      {record with
        state := .failed
        indeterminateReason := none
        receipt := some (record.receiptFor .failed .recoveryReadInterrupted record.lastSeenMs)
        recoverableResult := none}
    else
      {record with
        state := .indeterminate
        indeterminateReason := some .hubRestartAfterDispatch
        receipt := none
        recoverableResult := none
        reconciliationStatus := some (record.reconciliationStatus.getD
          (defaultReconciliationStatus (some .hubRestartAfterDispatch) record.dispatchBinding))}
  | .indeterminate =>
    {record with
      reconciliationStatus := some (record.reconciliationStatus.getD
        (defaultReconciliationStatus record.indeterminateReason record.dispatchBinding))}
  | .completed | .failed | .cancelled => record

/-- Resumes in the order they happened. -/
def sortResumes (resumes : List MutationResumeRecord) : List MutationResumeRecord :=
  resumes.insertionSort fun a b =>
    a.resumedAtMs < b.resumedAtMs ∨
      a.resumedAtMs = b.resumedAtMs ∧ a.sourceOperationId ≤ b.sourceOperationId

namespace AuthoritativeOperationController

/-- The quarantines a restart leaves: those there were, and one for each lost operation. -/
def quarantinesAfterRestart (s : AuthoritativeOperationController) : Table DesktopQuarantine :=
  s.operations.values.foldl (fun quarantines record =>
    if record.isLostByRestart then
      quarantines.insert record.operation.deviceId
        (quarantineFor record .hubRestartAfterDispatch record.lastSeenMs)
    else quarantines) s.quarantines

/-- The durable form; `none` is the admission ledger's panic. -/
def snapshotForRestart (s : AuthoritativeOperationController) : Option AuthoritativeSafetySnapshot :=
  s.admission.snapshotForRestart.map fun admission => {
    schemaVersion := executionSafetySchemaVersion
    admission := admission
    operations := sortBy (fun record => record.operation.operationId)
      (s.operations.values.map afterRestart)
    recoveries := sortBy (fun archived => archived.operation.operationId) s.recoveryArchive.values
    quarantines := sortBy DesktopQuarantine.deviceId s.quarantinesAfterRestart.values
    resolutions := s.resolutions
    autoResolutions := s.autoResolutions
    retirements := s.retirements
    mutationResumeBarriers := sortBy deviceId s.mutationResumeBarriers.values
    mutationResumes := sortResumes s.mutationResumes}

end AuthoritativeOperationController

/-! ### What a snapshot holds -/

namespace AuthoritativeSafetySnapshot

variable (snapshot : AuthoritativeSafetySnapshot)

/-- Some operation carries audit labels or a request fingerprint. -/
def holdsAudit : Bool :=
  snapshot.operations.any fun record => !record.audit.isEmpty || record.requestFingerprint.isSome

def holdsReconciliation : Bool :=
  (snapshot.operations.any fun record =>
    record.dispatchBinding.isSome || record.reconciliationStatus.isSome) ||
    !snapshot.autoResolutions.isEmpty

def holdsRetirement : Bool :=
  !snapshot.retirements.isEmpty || !snapshot.admission.retiredIndeterminateOperationIds.isEmpty

def holdsTombstones : Bool :=
  !snapshot.admission.retiredIndeterminateTombstones.isEmpty

def holdsSemanticConstraint : Bool :=
  (snapshot.operations.any fun record => record.semanticConstraint.isSome) ||
    snapshot.recoveries.any fun archived => archived.semanticConstraint.isSome

def holdsRecoveryTarget : Bool :=
  snapshot.operations.any fun record =>
    record.recoveryTargetRequired || record.recoveryTarget.isSome

def holdsPreEnqueueNonDelivery : Bool :=
  (snapshot.operations.any fun record =>
    record.receipt.any fun receipt => receipt.evidence.isPreEnqueue) ||
    snapshot.autoResolutions.any fun record => record.evidence.isPreEnqueue

def holdsMutationResume : Bool :=
  !snapshot.mutationResumeBarriers.isEmpty || !snapshot.mutationResumes.isEmpty ||
    (snapshot.retirements.any fun record => record.policy = .acknowledgedUnknownPointerClickV1) ||
    snapshot.operations.any fun record =>
      record.requestFingerprint.any fun fingerprint =>
        fingerprint.algorithm = pointerClickFingerprintAlgorithm

def holdsPartialInput : Bool :=
  snapshot.resolutions.any fun resolution =>
    resolution.decision = .confirmedEffectAppliedUncommitted

def holdsEvidenceEnvelope : Bool :=
  snapshot.operations.any fun record => record.evidenceEnvelope.isSome

def holdsRecoveryEvidenceRead : Bool :=
  snapshot.operations.any fun record =>
    record.executionLane = .recoveryEvidenceRead ||
      record.receipt.any fun receipt => receipt.evidence = .recoveryReadInterrupted

def holdsCurrentStateAcceptance : Bool :=
  snapshot.retirements.any fun record =>
    record.disposition = .currentStateAccepted || record.authority = .localUserPresence

def holdsEffectfulRecovery : Bool :=
  (snapshot.operations.any fun record => record.recoverableResult = some .effectfulStatus) ||
    snapshot.recoveries.any fun archived => archived.result = .effectfulStatus

def holdsRecoverableResult : Bool :=
  !snapshot.recoveries.isEmpty || snapshot.operations.any fun record => record.recoverableResult.isSome

/-! ### Reading -/

/-- The version is known and nothing in the snapshot is newer than it. -/
def versionAdmits : Bool :=
  let version := snapshot.schemaVersion
  (legacyExecutionSafetySchemaVersion ≤ version && version ≤ executionSafetySchemaVersion) &&
  !(version < auditExecutionSafetySchemaVersion && snapshot.holdsAudit) &&
  !(version < reconciliationExecutionSafetySchemaVersion && snapshot.holdsReconciliation) &&
  !(version < retirementExecutionSafetySchemaVersion && snapshot.holdsRetirement) &&
  !(version < replayTombstoneExecutionSafetySchemaVersion && snapshot.holdsTombstones) &&
  !(version ≥ replayTombstoneExecutionSafetySchemaVersion &&
      !snapshot.admission.retiredIndeterminateOperationIds.isEmpty) &&
  !(version < semanticConstraintExecutionSafetySchemaVersion && snapshot.holdsSemanticConstraint) &&
  !(version < recoveryTargetExecutionSafetySchemaVersion && snapshot.holdsRecoveryTarget) &&
  !(version < executionSafetySchemaVersion && snapshot.holdsPreEnqueueNonDelivery) &&
  !(version < mutationResumeExecutionSafetySchemaVersion && snapshot.holdsMutationResume) &&
  !(version < partialInputExecutionSafetySchemaVersion && snapshot.holdsPartialInput) &&
  !(version < evidenceEnvelopeExecutionSafetySchemaVersion && snapshot.holdsEvidenceEnvelope) &&
  !(version < recoveryEvidenceReadExecutionSafetySchemaVersion &&
      snapshot.holdsRecoveryEvidenceRead) &&
  !(version < currentStateAcceptanceExecutionSafetySchemaVersion &&
      snapshot.holdsCurrentStateAcceptance) &&
  !(version < effectfulRecoveryExecutionSafetySchemaVersion && snapshot.holdsEffectfulRecovery) &&
  !(version = legacyExecutionSafetySchemaVersion && snapshot.holdsRecoverableResult)

end AuthoritativeSafetySnapshot

/-- A receipt's evidence fits the record it settles. -/
def SafetyOperation.receiptFits (receipt : ExecutionReceipt) : Bool :=
  !(receipt.evidence = .recoveryReadInterrupted &&
      (record.executionLane ≠ .recoveryEvidenceRead || record.state ≠ .failed)) &&
    !(receipt.evidence.isPreEnqueue &&
      (record.executionLane ≠ .normal || record.state ≠ .cancelled ||
        record.reconciliationStatus ≠ some .autoResolved || record.dispatchBinding.isNone))

/-- One operation read back on its own. -/
def SafetyOperation.isRestorable : Bool :=
  !record.state.isUnsettled &&
  record.recoverableResult.all (fun result =>
    record.receipt.isSome && result.isValidFor record.capability record.state) &&
  !(record.state = .indeterminate && record.recoverableResult.isSome) &&
  record.audit.isValid && record.requestFingerprint.all (·.isValid) &&
  record.evidenceEnvelope.all (·.isValid record.capability) &&
  !(record.recoveryTargetRequired && record.recoveryTarget.isNone) &&
  !(record.recoveryTarget.isSome && !record.recoveryTargetRequired) &&
  record.recoveryTarget.all (·.isValid record.capability) &&
  record.semanticConstraint.all (·.isValidFor record.capability) &&
  record.dispatchBinding.all (·.isValid) &&
  validReconciliationState record.state record.reconciliationStatus record.dispatchBinding &&
  !(record.executionLane = .recoveryEvidenceRead &&
    (!record.capability.isRecoveryEvidenceReadOnly || record.state = .indeterminate ||
      record.dispatchBinding.isSome || record.reconciliationStatus.isSome)) &&
  record.receipt.all record.receiptFits

/-- The retirement that a barrier was raised by. -/
def RetirementRecord.raised (retirement : RetirementRecord) (barrier : MutationResumeBarrier) : Bool :=
  retirement.operation.operationId = barrier.sourceOperationId &&
    retirement.operation.deviceId = barrier.deviceId &&
    retirement.operation.deviceGeneration = barrier.sourceDeviceGeneration &&
    retirement.authorizedDeviceGeneration = barrier.acceptedGeneration &&
    retirement.policy = barrier.policy && retirement.disposition = .currentStateAccepted &&
    retirement.authority = .localUserPresence

/-- The retirement whose barrier a resume lifted. -/
def RetirementRecord.precedes (retirement : RetirementRecord) (resume : MutationResumeRecord) : Bool :=
  retirement.operation.operationId = resume.sourceOperationId &&
    retirement.operation.deviceId = resume.deviceId &&
    retirement.authorizedDeviceGeneration = resume.acceptedGeneration &&
    retirement.policy = resume.policy && retirement.disposition = .currentStateAccepted &&
    retirement.authority = .localUserPresence

/-- An automatic settlement and the operation it settled say the same. -/
def AutoResolutionRecord.settles (history : AutoResolutionRecord) (record : SafetyOperation) : Bool :=
  record.reconciliationStatus = some .autoResolved && record.operation = history.operation &&
    record.capability = history.capability && record.state = history.terminalState &&
    record.receipt.map ExecutionReceipt.evidence = some history.evidence &&
    record.dispatchBinding = some history.dispatchBinding

namespace AuthoritativeSafetySnapshot

variable (snapshot : AuthoritativeSafetySnapshot) (operations : Table SafetyOperation)

/-- A retirement agrees with its operation and with every other history. -/
def retirementFits (quarantines : Table DesktopQuarantine) (retirement : RetirementRecord) : Bool :=
  let operationId := retirement.operation.operationId
  retirement.isValid &&
  !(snapshot.resolutions.any fun resolution => resolution.operationId = operationId) &&
  !(snapshot.autoResolutions.any fun resolution => resolution.operation.operationId = operationId) &&
  operations[operationId]?.any fun record =>
    record.state = .indeterminate && record.operation = retirement.operation &&
    record.capability = retirement.capability &&
    record.indeterminateReason = some retirement.indeterminateReason &&
    record.reconciliationStatus.getD .operatorRequired = retirement.priorReconciliationStatus &&
    record.receipt.isNone && record.recoverableResult.isNone &&
    !(quarantines.values.any fun quarantine => quarantine.operationId = operationId)

/-- An ambiguous operation is retired or quarantines its device, and not both. -/
def ambiguityFits (retired : Names) (quarantines : Table DesktopQuarantine)
    (record : SafetyOperation) : Bool :=
  record.state ≠ .indeterminate ||
    (decide (record.operation.operationId ∈ retired) !=
      quarantines[record.operation.deviceId]?.any fun quarantine =>
        quarantine.operationId = record.operation.operationId &&
          quarantine.deviceGeneration = record.operation.deviceGeneration)

/-- A quarantine agrees with the operation that caused it. -/
def quarantineFits (quarantine : DesktopQuarantine) : Bool :=
  operations[quarantine.operationId]?.any fun record =>
    record.state = .indeterminate && record.operation.deviceId = quarantine.deviceId &&
      record.operation.deviceGeneration = quarantine.deviceGeneration &&
      record.owner = quarantine.owner

/-- The two ledgers name the same operations in the same states. -/
def mirrors (admission : HubAdmissionController) (operations : Table SafetyOperation) : Bool :=
  admission.snapshotOperations.length = operations.size &&
    admission.snapshotOperations.all fun admitted =>
      operations[admitted.operation.operationId]?.any fun safe =>
        safe.operation = admitted.operation && safe.state = admitted.state

/-- Retirements, barriers and resumes account for each other. -/
def retirementsFit (retired : Names)
    (operations : Table SafetyOperation) (quarantines : Table DesktopQuarantine) : Bool :=
  let retirementIds := snapshot.retirements.map fun retirement => retirement.operation.operationId
  snapshot.retirements.all (snapshot.retirementFits operations quarantines) &&
  decide retirementIds.Nodup &&
  retirementIds.all (fun operationId => decide (operationId ∈ retired)) &&
  !(snapshot.schemaVersion < semanticConstraintExecutionSafetySchemaVersion &&
    retired ≠ Std.ExtTreeSet.ofList retirementIds) &&
  (operations.values.all (ambiguityFits retired quarantines)) &&
  snapshot.retirements.length ≤ maxRetirementRecords &&
  snapshot.mutationResumes.length ≤ maxRetirementRecords

/-- A barrier was raised by a retirement and its device is not quarantined. -/
def barrierFits (quarantines : Table DesktopQuarantine) (barrier : MutationResumeBarrier) : Bool :=
  barrier.isValid && snapshot.retirements.any (·.raised barrier) &&
    barrier.deviceId ∉ quarantines

/-- Resumes follow retirements, and no pointer click is left without barrier or resume. -/
def resumesFit : Bool :=
  let barrierSources := snapshot.mutationResumeBarriers.map sourceOperationId
  let resumeSources := snapshot.mutationResumes.map MutationResumeRecord.sourceOperationId
  decide barrierSources.Nodup && decide resumeSources.Nodup &&
  snapshot.mutationResumes.all (fun resume =>
    resume.isValid && snapshot.retirements.any (·.precedes resume) &&
      resume.sourceOperationId ∉ barrierSources) &&
  snapshot.retirements.all (fun retirement =>
    retirement.policy ≠ .acknowledgedUnknownPointerClickV1 ||
      decide (retirement.operation.operationId ∈ barrierSources) ||
      decide (retirement.operation.operationId ∈ resumeSources))

/-- The automatic settlements and the operations they settled account for each other. -/
def autoResolutionsFit : Bool :=
  snapshot.autoResolutions.length ≤ maxAutoResolutionRecords &&
  snapshot.autoResolutions.all AutoResolutionRecord.isValid &&
  decide (snapshot.autoResolutions.map fun record => record.operation.operationId).Nodup &&
  operations.values.all (fun record =>
    record.reconciliationStatus ≠ some .autoResolved ||
      (snapshot.autoResolutions.find? fun history =>
        history.operation.operationId = record.operation.operationId).any (·.settles record)) &&
  snapshot.autoResolutions.all fun history =>
    operations[history.operation.operationId]?.all history.settles

end AuthoritativeSafetySnapshot

namespace AuthoritativeOperationController

/-- The archive is within its bounds. -/
def archiveFits (archive : Table ArchivedOperationRecovery) : Bool :=
  archive.size ≤ maxRecoveryArchiveEntries &&
    recoveryArchiveEncodedBytes archive ≤ maxRecoveryArchiveBytes

/-- The ledger a snapshot's records make, once the admission ledger is back; `none` when
any check fails. Every failure is the same `InvalidSnapshot`. -/
def restoreLedger (admission : HubAdmissionController) (snapshot : AuthoritativeSafetySnapshot) :
    Option AuthoritativeOperationController := do
  let operations ← collect (fun record : SafetyOperation => record.operation.operationId)
    isRestorable snapshot.operations ∅
  guard (AuthoritativeSafetySnapshot.mirrors admission operations)
  let recoveryArchive ← collect
    (fun archived : ArchivedOperationRecovery => archived.operation.operationId)
    (fun archived => archived.isValid && archived.operation.operationId ∉ operations)
    snapshot.recoveries ∅
  guard (archiveFits recoveryArchive)
  let quarantines ← collect DesktopQuarantine.deviceId
    (AuthoritativeSafetySnapshot.quarantineFits operations) snapshot.quarantines ∅
  guard (snapshot.retirementsFit admission.retiredIndeterminate operations quarantines)
  let mutationResumeBarriers ← collect deviceId
    (snapshot.barrierFits quarantines) snapshot.mutationResumeBarriers ∅
  guard snapshot.resumesFit
  guard (snapshot.autoResolutionsFit operations)
  some ⟨admission, operations, recoveryArchive, quarantines, snapshot.resolutions,
    snapshot.autoResolutions, snapshot.retirements, mutationResumeBarriers,
    snapshot.mutationResumes⟩

def restoreAfterRestart (limits : AdmissionLimits) (snapshot : AuthoritativeSafetySnapshot) :
    Except ExecutionError AuthoritativeOperationController :=
  if ¬snapshot.versionAdmits then .error .invalidSnapshot
  else match HubAdmissionController.restoreAfterRestart limits snapshot.admission with
    | .error e => .error e
    | .ok admission =>
      match restoreLedger admission snapshot with
      | none => .error .invalidSnapshot
      | some s => .ok s

end AuthoritativeOperationController

end Gateway.Execution
