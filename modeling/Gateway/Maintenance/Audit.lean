import Gateway.Agent.Persistence
import Gateway.Maintenance.Recovery

/-! The offline audit of a quarantined operation.

The audit reads the latest checkpoints of the Hub and of the Agent and says whether the Agent
still holds evidence that would settle the operation. It compares the lists of the checkpoints on
its own, in a long row of exits. What it calls sufficient is what the ledger accepts. -/
namespace Gateway.Maintenance
open Data Device Control Execution Agent DeviceRegistry Hub Table
open Result AuthoritativeOperationController

inductive ReconciliationEvidenceSource where
  | available
  | unavailable

inductive AgentTerminalMarkerStatus where
  | present | absent | unavailable

inductive AgentTerminalEvidenceStatus where
  | exactAuthoritative | presentUnverifiable | absent | unavailable | mismatch

inductive BackendExecutionReceiptStatus where
  | exactAuthoritative | absent | unavailable | mismatch
  deriving DecidableEq

inductive ReconciliationEvidenceAuthority where
  | authoritativeBackendReceipt | authoritativeTerminalEvidence | authoritativeHubProtocol
  | legacyNonAuthoritativeMarker | observationalCorrelationOnly | missing | stateMismatch

inductive ReconciliationEvidenceStatus where
  | sufficient | insufficient | unrecoverable | mismatch
  deriving DecidableEq

inductive ReconciliationResolutionReadiness where
  | confirmedCompletedSupported | confirmedNotExecutedSupported
  | alreadyResolvedConfirmedNotExecuted | authoritativeTerminalSettlementSupported
  | insufficientEvidenceKeepQuarantine | unrecoverableEvidenceGap | stateMismatchFailClosed

inductive ReconciliationSupportedDecision where
  | confirmedCompleted
  | confirmedNotExecuted

inductive ReconciliationRecommendedAction where
  | authorizedRecoverySupported | awaitAuthoritativeSelfReconciliation | noRecoveryRequired
  | keepQuarantine

inductive ReconciliationAuditReason where
  | authoritativeTerminalEvidenceAvailable | authoritativeBackendReceiptAvailable
  | authoritativeHubNonDeliveryProofAvailable | backendReceiptMismatch
  | backendReceiptTargetMismatch | legacyAgentTerminalMarkerOnly | observationalCorrelationOnly
  | missingExactDispatchBinding | noTerminalHubReceipt | agentEvidenceSourceUnavailable
  | agentTerminalEvidenceMissing | deviceMismatch | generationMismatch | capabilityMismatch
  | dispatchBindingMismatch | duplicateAgentTerminalEvidence | legacyHubExecutionSchema
  | hubReconciliationStateMismatch

structure ReconciliationReadinessAudit where
  operationId : String
  hubExecutionSchemaVersion : Nat
  deviceId : String
  deviceGeneration : Nat
  capability : String
  dispatchRecorded : Bool
  dispatchBindingPresent : Bool
  hubTerminalEvidence : String
  hubReconciliationStatus : String
  agentEvidenceSource : ReconciliationEvidenceSource
  agentDeviceMatch : Option Bool
  agentReplayGeneration : Option Nat
  agentTerminalMarker : AgentTerminalMarkerStatus
  agentTerminalMarkerAuthoritative : Bool
  agentTerminalEvidence : AgentTerminalEvidenceStatus
  backendExecutionReceipt : BackendExecutionReceiptStatus
  backendReceiptProvider : Option String
  backendReceiptProviderVersion : Option String
  backendReceiptContractSchemaVersion : Option Nat
  backendReceiptSequence : Option Nat
  backendReceiptTargetBound : Option Bool
  authoritativeTerminalState : Option String
  authoritativeEvidenceClass : Option String
  evidenceAuthority : ReconciliationEvidenceAuthority
  evidenceStatus : ReconciliationEvidenceStatus
  resolutionReadiness : ReconciliationResolutionReadiness
  supportedDecisions : List ReconciliationSupportedDecision
  manualAuditRequired : Bool
  recommendedAction : ReconciliationRecommendedAction
  reasons : List ReconciliationAuditReason
  replayOldOperation : Bool

/-- Why a checkpoint could not be loaded; an I/O error says whether something was not found. -/
structure LoadError where
  error : Persistence.PersistenceError
  notFound : Bool
  deriving DecidableEq

inductive AuditError where
  | load (error : LoadError)
  | persistence (error : Hub.RestoreError)
  | execution (error : ExecutionError)
  | auditOperationNotQuarantined
  deriving DecidableEq

def reconciliationEvidenceSourceUnavailable (error : LoadError) : Bool :=
  error.error = .noCheckpoint || (error.error = .io && error.notFound)

def reconciliationStatusName : ReconciliationStatus → String
  | .autoReconciling => "auto_reconciling"
  | .autoResolved => "auto_resolved"
  | .operatorRequired => "operator_required"
  | .unrecoverableEvidenceGap => "unrecoverable_evidence_gap"

def hubOperationStateName : HubOperationState → String
  | .queued => "queued"
  | .activeNotDispatched => "active_not_dispatched"
  | .dispatched => "dispatched"
  | .cancelRequested => "cancel_requested"
  | .completed => "completed"
  | .failed => "failed"
  | .cancelled => "cancelled"
  | .indeterminate => "indeterminate"

theorem hubOperationStateName_injective : Function.Injective hubOperationStateName := by
  intro a b same
  cases a <;> cases b <;> first | rfl | exact absurd same (by decide)

theorem evidenceName_injective : Function.Injective ExecutionEvidence.name := by
  intro a b same
  cases a <;> cases b <;> first | rfl | exact absurd same (by decide)

namespace ReconciliationReadinessAudit

variable (report : ReconciliationReadinessAudit)

def because (reason : ReconciliationAuditReason) : ReconciliationReadinessAudit :=
  {report with reasons := report.reasons ++ [reason]}

def failClosed : ReconciliationReadinessAudit :=
  {report with
    evidenceAuthority := .stateMismatch
    evidenceStatus := .mismatch
    resolutionReadiness := .stateMismatchFailClosed
    supportedDecisions := []
    manualAuditRequired := true
    recommendedAction := .keepQuarantine}

/-- The report on an operation that the Hub itself has proved undelivered. -/
def ofNonDelivery (schemaVersion : Nat) (resolution : AutoResolutionRecord) :
    ReconciliationReadinessAudit where
  operationId := resolution.operation.operationId
  hubExecutionSchemaVersion := schemaVersion
  deviceId := resolution.operation.deviceId
  deviceGeneration := resolution.operation.deviceGeneration
  capability := resolution.capability.name
  dispatchRecorded := true
  dispatchBindingPresent := true
  hubTerminalEvidence := resolution.evidence.name
  hubReconciliationStatus := "auto_resolved"
  agentEvidenceSource := .unavailable
  agentDeviceMatch := none
  agentReplayGeneration := none
  agentTerminalMarker := .unavailable
  agentTerminalMarkerAuthoritative := false
  agentTerminalEvidence := .unavailable
  backendExecutionReceipt := .unavailable
  backendReceiptProvider := none
  backendReceiptProviderVersion := none
  backendReceiptContractSchemaVersion := none
  backendReceiptSequence := none
  backendReceiptTargetBound := none
  authoritativeTerminalState := some "cancelled"
  authoritativeEvidenceClass := some resolution.evidence.name
  evidenceAuthority := .authoritativeHubProtocol
  evidenceStatus := .sufficient
  resolutionReadiness := .alreadyResolvedConfirmedNotExecuted
  supportedDecisions := []
  manualAuditRequired := false
  recommendedAction := .noRecoveryRequired
  reasons := [.authoritativeHubNonDeliveryProofAvailable]
  replayOldOperation := false

/-- The report on a quarantined operation before the Agent's checkpoint is looked at. -/
def ofQuarantine (schemaVersion : Nat) (inspection : QuarantineInspectionSnapshot)
    (binding : Option OperationDispatchBinding) : ReconciliationReadinessAudit where
  operationId := inspection.operation.operationId
  hubExecutionSchemaVersion := schemaVersion
  deviceId := inspection.operation.deviceId
  deviceGeneration := inspection.operation.deviceGeneration
  capability := inspection.capability.name
  dispatchRecorded := inspection.dispatchedAtMs.isSome
  dispatchBindingPresent := binding.isSome
  hubTerminalEvidence := "none"
  hubReconciliationStatus := reconciliationStatusName inspection.reconciliationStatus
  agentEvidenceSource := .unavailable
  agentDeviceMatch := none
  agentReplayGeneration := none
  agentTerminalMarker := .unavailable
  agentTerminalMarkerAuthoritative := false
  agentTerminalEvidence := .unavailable
  backendExecutionReceipt := .unavailable
  backendReceiptProvider := none
  backendReceiptProviderVersion := none
  backendReceiptContractSchemaVersion := none
  backendReceiptSequence := none
  backendReceiptTargetBound := none
  authoritativeTerminalState := none
  authoritativeEvidenceClass := none
  evidenceAuthority := .missing
  evidenceStatus := .insufficient
  resolutionReadiness := .insufficientEvidenceKeepQuarantine
  supportedDecisions := []
  manualAuditRequired := true
  recommendedAction := .keepQuarantine
  reasons := [.noTerminalHubReceipt] ++
    (if schemaVersion < reconciliationExecutionSafetySchemaVersion then [.legacyHubExecutionSchema]
      else []) ++
    if binding.isNone then [.missingExactDispatchBinding] else []
  replayOldOperation := false

/-- The report once the Agent's evidence stands up to every comparison. -/
def settledBy (terminal : AgentTerminalEvidence) : ReconciliationReadinessAudit :=
  let receipted : Bool := report.backendExecutionReceipt = .exactAuthoritative
  let report := if receipted then report.because .authoritativeBackendReceiptAvailable else report
  let report := {report.because .authoritativeTerminalEvidenceAvailable with
    agentTerminalEvidence := .exactAuthoritative
    evidenceAuthority :=
      if receipted then .authoritativeBackendReceipt else .authoritativeTerminalEvidence
    evidenceStatus := .sufficient
    authoritativeTerminalState := some (hubOperationStateName terminal.terminalState)
    authoritativeEvidenceClass := some terminal.evidence.name
    manualAuditRequired := false}
  if terminal.terminalState = .completed ∧ terminal.evidence = .verifiedAgentResult then
    {report with
      resolutionReadiness := .confirmedCompletedSupported
      supportedDecisions := report.supportedDecisions ++ [.confirmedCompleted]
      recommendedAction := .authorizedRecoverySupported}
  else
    {report with
      resolutionReadiness := .authoritativeTerminalSettlementSupported
      recommendedAction := .awaitAuthoritativeSelfReconciliation}

end ReconciliationReadinessAudit

/-! ### The looks -/

/-- A report to go on with, or one that is returned at once. -/
abbrev Look : Type :=
  Except ReconciliationReadinessAudit ReconciliationReadinessAudit

section Looks
variable (inspection : QuarantineInspectionSnapshot) (record : SafetyOperation)

def receiptTargetMatches : Option BackendReceiptTargetBinding → Option OperationRecoveryTarget → Bool
  | some receiptTarget, some recoveryTarget => receiptTarget.matchesRecoveryTarget recoveryTarget
  | none, none => true
  | _, _ => false

/-- The backend's receipt of the operation, if there is one. -/
def lookAtReceipt (matchingReceipt : Option BackendExecutionReceipt)
    (report : ReconciliationReadinessAudit) : Look :=
  match matchingReceipt with
  | none => .ok {report with backendExecutionReceipt := .absent}
  | some receipt =>
    let report := {report with
      backendReceiptProvider := some receipt.backend
      backendReceiptProviderVersion := some receipt.backendVersion
      backendReceiptContractSchemaVersion := some receipt.providerContractSchemaVersion
      backendReceiptSequence := some receipt.sequence}
    let mismatch (report : ReconciliationReadinessAudit) (reason : ReconciliationAuditReason) :=
      ({report with backendExecutionReceipt := .mismatch}.because reason).failClosed
    match record.dispatchBinding with
    | none => .error (mismatch report .backendReceiptMismatch)
    | some binding =>
      if receipt.operation ≠ inspection.operation ∨ receipt.capability ≠ inspection.capability ∨
          receipt.dispatchBinding ≠ binding then .error (mismatch report .backendReceiptMismatch)
      else
        let targetMatch := receiptTargetMatches receipt.targetBinding record.recoveryTarget
        let report := {report with backendReceiptTargetBound := some targetMatch}
        if ¬targetMatch then .error (mismatch report .backendReceiptTargetMismatch)
        else .ok {report with backendExecutionReceipt := .exactAuthoritative}

/-- The replay gate's mark of the operation. -/
def lookAtMarker (agent : AgentPersistentState) (markerPresent : Bool)
    (report : ReconciliationReadinessAudit) : Look :=
  let report := {report with agentTerminalMarker := if markerPresent then .present else .absent}
  if markerPresent ∧ agent.execution.replayGeneration ≠ some inspection.operation.deviceGeneration then
    .error (report.because .generationMismatch).failClosed
  else .ok report

/-- The only evidence the Agent has of the operation. -/
def lookAtTerminal (agent : AgentPersistentState) (matchingReceipt : Option BackendExecutionReceipt)
    (markerPresent : Bool) (terminal : AgentTerminalEvidence)
    (report : ReconciliationReadinessAudit) : ReconciliationReadinessAudit :=
  let mismatch (reason : ReconciliationAuditReason) :=
    ({report with agentTerminalEvidence := .mismatch}.because reason).failClosed
  if terminal.operation.deviceId ≠ agent.deviceId ∨
      terminal.operation.deviceId ≠ inspection.operation.deviceId then mismatch .deviceMismatch
  else if terminal.operation.deviceGeneration ≠ inspection.operation.deviceGeneration then
    mismatch .generationMismatch
  else if terminal.capability ≠ inspection.capability then mismatch .capabilityMismatch
  else match record.dispatchBinding with
    | none => {report with
        agentTerminalEvidence := .presentUnverifiable
        evidenceAuthority := if markerPresent then .legacyNonAuthoritativeMarker else .missing
        evidenceStatus := .insufficient
        resolutionReadiness := .insufficientEvidenceKeepQuarantine
        recommendedAction := .keepQuarantine}
    | some binding =>
      if terminal.dispatchBinding ≠ binding then mismatch .dispatchBindingMismatch
      else if inspection.reconciliationStatus ≠ .autoReconciling then
        ({report with agentTerminalEvidence := .presentUnverifiable}.because
          .hubReconciliationStateMismatch).failClosed
      else if matchingReceipt.any fun receipt => receipt.asTerminalEvidence ≠ terminal then
        ({report with backendExecutionReceipt := .mismatch}.because .backendReceiptMismatch).failClosed
      else report.settledBy terminal

/-- Traces of the operation that prove nothing. -/
def lookAtTraces (markerPresent : Bool) (report : ReconciliationReadinessAudit) :
    ReconciliationReadinessAudit :=
  if markerPresent then
    {report.because .legacyAgentTerminalMarkerOnly with
      evidenceAuthority := .legacyNonAuthoritativeMarker}
  else if inspection.requestFingerprint.isSome || inspection.evidenceEnvelope.isSome then
    {report.because .observationalCorrelationOnly with
      evidenceAuthority := .observationalCorrelationOnly}
  else report

/-- What is left to say when the Agent has no evidence. -/
def withoutTerminal (markerPresent : Bool) (report : ReconciliationReadinessAudit) :
    ReconciliationReadinessAudit :=
  let report := lookAtTraces inspection markerPresent
    ({report with agentTerminalEvidence := .absent}.because .agentTerminalEvidenceMissing)
  if inspection.reconciliationStatus = .unrecoverableEvidenceGap then
    {report with
      evidenceStatus := .unrecoverable
      resolutionReadiness := .unrecoverableEvidenceGap}
  else report

/-- The Agent's checkpoint, looked at from one end to the other. -/
def lookAtAgent (agent : AgentPersistentState) (operationId : String)
    (report : ReconciliationReadinessAudit) : ReconciliationReadinessAudit :=
  let report := {report with
    agentEvidenceSource := .available
    agentDeviceMatch := some (agent.deviceId = inspection.operation.deviceId)
    agentReplayGeneration := agent.execution.replayGeneration}
  if agent.deviceId ≠ inspection.operation.deviceId then (report.because .deviceMismatch).failClosed
  else
    let matchingReceipt := agent.backendExecutionReceipts.find? fun candidate =>
      candidate.operation.operationId = operationId
    let markerPresent := agent.execution.terminalOperationIds.any (· = operationId)
    match lookAtReceipt inspection record matchingReceipt report >>=
        lookAtMarker inspection agent markerPresent with
    | .error report => report
    | .ok report =>
      match agent.terminalEvidence.filter fun candidate =>
          candidate.operation.operationId = operationId with
      | [] => withoutTerminal inspection markerPresent report
      | [terminal] =>
        lookAtTerminal inspection record agent matchingReceipt markerPresent terminal report
      | _ => ({report with agentTerminalEvidence := .mismatch}.because
          .duplicateAgentTerminalEvidence).failClosed

end Looks

/-- The audit of one operation, given what loading the two latest checkpoints gave. -/
def auditReconciliationReadOnly (scheme : SignatureScheme)
    (hub : Except LoadError Persistence.HubPersistentState)
    (agent : Except LoadError AgentPersistentState) (operationId : String) :
    Except AuditError ReconciliationReadinessAudit := do
  let hubState ← hub.mapError .load
  let (_, execution) ← (restore scheme offlineLimits hubState).mapError .persistence
  let inspections ← execution.quarantineInspections.mapError .execution
  match inspections.find? fun inspection => inspection.operation.operationId = operationId with
  | none =>
    match (execution.autoResolutions.find? fun resolution =>
        resolution.operation.operationId = operationId).filter fun resolution =>
          authoritativeHubPreEnqueueNonDeliveryPair resolution.terminalState resolution.evidence with
    | none => throw .auditOperationNotQuarantined
    | some resolution => return .ofNonDelivery hubState.execution.schemaVersion resolution
  | some inspection =>
    match hubState.execution.operations.find? fun record =>
        record.operation.operationId = operationId with
    | none => throw (.execution .invalidSnapshot)
    | some record =>
      let report := .ofQuarantine hubState.execution.schemaVersion inspection record.dispatchBinding
      match agent with
      | .error error =>
        if reconciliationEvidenceSourceUnavailable error then
          return {report.because .agentEvidenceSourceUnavailable with
            evidenceStatus := .unrecoverable
            resolutionReadiness := .unrecoverableEvidenceGap}
        else throw (.load error)
      | .ok agentState =>
        let _ ← (agentState.restoreWithRuntimeSafety scheme).mapError .persistence
        return lookAtAgent inspection record agentState operationId report

/-! ### What the looks can say -/

/-- A report that settles nothing: nothing is supported, and the quarantine is kept. -/
structure ReconciliationReadinessAudit.Undecided (report : ReconciliationReadinessAudit) : Prop where
  unsettled : report.evidenceStatus ≠ .sufficient
  unsupported : report.supportedDecisions = []
  keeps : report.recommendedAction = .keepQuarantine

def Look.Undecided : Look → Prop
  | .ok report => report.Undecided
  | .error report => report.Undecided

section Looks
variable {inspection : QuarantineInspectionSnapshot} {record : SafetyOperation}
  {agent : AgentPersistentState} {report : ReconciliationReadinessAudit}
  {terminal : AgentTerminalEvidence} {operationId : String}

theorem failClosed_undecided (report : ReconciliationReadinessAudit) : report.failClosed.Undecided :=
  ⟨fun sufficient => (by cases sufficient), rfl, rfl⟩

theorem lookAtReceipt_undecided (h : report.Undecided)
    (matchingReceipt : Option BackendExecutionReceipt) :
    Look.Undecided (lookAtReceipt inspection record matchingReceipt report) := by
  cases matchingReceipt with
  | none => exact ⟨h.unsettled, h.unsupported, h.keeps⟩
  | some receipt =>
    unfold lookAtReceipt
    dsimp only
    split
    · exact failClosed_undecided _
    · split
      · exact failClosed_undecided _
      · split
        · exact failClosed_undecided _
        · exact ⟨h.unsettled, h.unsupported, h.keeps⟩

theorem lookAtMarker_undecided (h : report.Undecided) (markerPresent : Bool) :
    Look.Undecided (lookAtMarker inspection agent markerPresent report) := by
  unfold lookAtMarker
  dsimp only
  split
  · exact failClosed_undecided _
  · exact ⟨h.unsettled, h.unsupported, h.keeps⟩

theorem lookAtTraces_undecided (h : report.Undecided) (markerPresent : Bool) :
    (lookAtTraces inspection markerPresent report).Undecided := by
  unfold lookAtTraces
  split
  · exact ⟨h.unsettled, h.unsupported, h.keeps⟩
  · split
    · exact ⟨h.unsettled, h.unsupported, h.keeps⟩
    · exact h

theorem withoutTerminal_undecided (h : report.Undecided) (markerPresent : Bool) :
    (withoutTerminal inspection markerPresent report).Undecided := by
  have absent : ({report with agentTerminalEvidence := .absent}.because
      .agentTerminalEvidenceMissing).Undecided := ⟨h.unsettled, h.unsupported, h.keeps⟩
  have traced : (lookAtTraces inspection markerPresent _).Undecided :=
    lookAtTraces_undecided absent markerPresent
  unfold withoutTerminal
  split
  · exact ⟨fun sufficient => (by cases sufficient), traced.unsupported, traced.keeps⟩
  · exact traced

/-- Evidence of the operation that was compared with all the Hub has of it. -/
structure Corroborated (inspection : QuarantineInspectionSnapshot) (record : SafetyOperation)
    (terminal : AgentTerminalEvidence) : Prop where
  deviceId : terminal.operation.deviceId = inspection.operation.deviceId
  deviceGeneration : terminal.operation.deviceGeneration = inspection.operation.deviceGeneration
  capability : terminal.capability = inspection.capability
  bound : record.dispatchBinding = some terminal.dispatchBinding
  waiting : inspection.reconciliationStatus = .autoReconciling

theorem lookAtTerminal_cases (h : report.Undecided)
    (matchingReceipt : Option BackendExecutionReceipt) (markerPresent : Bool) :
    (lookAtTerminal inspection record agent matchingReceipt markerPresent terminal report).Undecided ∨
      Corroborated inspection record terminal ∧
        lookAtTerminal inspection record agent matchingReceipt markerPresent terminal report =
          report.settledBy terminal := by
  unfold lookAtTerminal
  split
  · exact .inl (failClosed_undecided _)
  next device =>
  split
  · exact .inl (failClosed_undecided _)
  next generation =>
  split
  · exact .inl (failClosed_undecided _)
  next capability =>
  split
  · exact .inl ⟨fun sufficient => (by cases sufficient), h.unsupported, rfl⟩
  next binding bound =>
  split
  · exact .inl (failClosed_undecided _)
  next same =>
  split
  · exact .inl (failClosed_undecided _)
  next waiting =>
  split
  · exact .inl (failClosed_undecided _)
  simp only [not_or, not_not] at device generation capability same waiting
  exact .inr ⟨⟨device.2, generation, capability, bound.trans (congrArg some same.symm), waiting⟩, rfl⟩

/-- A checkpoint of the Agent settles nothing, or it holds a single piece of evidence of the
operation, and that one is corroborated. -/
theorem lookAtAgent_cases (h : report.Undecided) :
    (lookAtAgent inspection record agent operationId report).Undecided ∨
      ∃ (terminal : AgentTerminalEvidence) (report' : ReconciliationReadinessAudit),
        (agent.terminalEvidence.filter fun candidate =>
          candidate.operation.operationId = operationId) = [terminal] ∧
        Corroborated inspection record terminal ∧ report'.Undecided ∧
        lookAtAgent inspection record agent operationId report = report'.settledBy terminal := by
  unfold lookAtAgent
  dsimp only
  set begun : ReconciliationReadinessAudit := {report with
    agentEvidenceSource := .available
    agentDeviceMatch := some (agent.deviceId = inspection.operation.deviceId)
    agentReplayGeneration := agent.execution.replayGeneration}
  have undecided : begun.Undecided := ⟨h.unsettled, h.unsupported, h.keeps⟩
  split
  · exact .inl (failClosed_undecided _)
  set matchingReceipt := agent.backendExecutionReceipts.find? fun candidate =>
    candidate.operation.operationId = operationId
  set markerPresent := agent.execution.terminalOperationIds.any (· = operationId)
  have looked : Look.Undecided (lookAtReceipt inspection record matchingReceipt begun >>=
      lookAtMarker inspection agent markerPresent) := by
    have first : Look.Undecided (lookAtReceipt inspection record matchingReceipt begun) :=
      lookAtReceipt_undecided undecided matchingReceipt
    cases result : lookAtReceipt inspection record matchingReceipt begun with
    | error closed =>
      rw [result] at first
      exact first
    | ok onward =>
      rw [result] at first
      exact lookAtMarker_undecided first markerPresent
  split
  · next result =>
    rw [result] at looked
    exact .inl looked
  next onward result =>
  rw [result] at looked
  split
  · exact .inl (withoutTerminal_undecided looked markerPresent)
  · next terminal only =>
    exact (lookAtTerminal_cases looked matchingReceipt markerPresent).imp_right fun ⟨facts, is⟩ =>
      ⟨terminal, onward, only, facts, looked, is⟩
  · exact .inl (failClosed_undecided _)

theorem settledBy_sufficient (report : ReconciliationReadinessAudit)
    (terminal : AgentTerminalEvidence) :
    (report.settledBy terminal).evidenceStatus = .sufficient ∧
      (report.settledBy terminal).authoritativeTerminalState =
        some (hubOperationStateName terminal.terminalState) ∧
      (report.settledBy terminal).authoritativeEvidenceClass = some terminal.evidence.name := by
  unfold ReconciliationReadinessAudit.settledBy
  split <;> exact ⟨rfl, rfl, rfl⟩

theorem settledBy_supported (report : ReconciliationReadinessAudit)
    (terminal : AgentTerminalEvidence) :
    (report.settledBy terminal).supportedDecisions =
      report.supportedDecisions ++
        if terminal.terminalState = .completed ∧ terminal.evidence = .verifiedAgentResult then
          [.confirmedCompleted]
        else [] := by
  have same : (if (report.backendExecutionReceipt = .exactAuthoritative : Bool) then
      report.because .authoritativeBackendReceiptAvailable else report).supportedDecisions =
        report.supportedDecisions := by
    split <;> rfl
  unfold ReconciliationReadinessAudit.settledBy
  split
  · exact congrArg (· ++ [_]) same
  · rw [List.append_nil]
    exact same

end Looks

/-! ### Sufficient evidence -/

section Sufficient
variable {scheme : SignatureScheme} {limits : AdmissionLimits} {hub : Persistence.HubPersistentState}
  {registry : DeviceRegistry scheme} {s : AuthoritativeOperationController} {operationId : String}

/-- A Hub's state is restored with the ledger that its snapshot reads as. -/
theorem reads_of_restore (restored : restore scheme limits hub = .ok (registry, s)) :
    AuthoritativeOperationController.Reads limits hub.execution s := by
  obtain ⟨_, -, restored⟩ := bind_eq_ok.mp restored
  obtain ⟨_, -, restored⟩ := bind_eq_ok.mp restored
  obtain ⟨_, -, restored⟩ := bind_eq_ok.mp restored
  obtain ⟨execution, read, restored⟩ := bind_eq_ok.mp restored
  obtain ⟨-, same⟩ := guard_eq_ok.mp restored
  cases same
  exact (restoreAfterRestart_eq_ok.mp (mapError_eq_ok.mp read)).2

variable {q : DesktopQuarantine} {inspections : List QuarantineInspectionSnapshot}

section
variable (reads : AuthoritativeOperationController.Reads limits hub.execution s)
include reads

/-- A quarantine of the snapshot is the quarantine of its device in the ledger. -/
theorem quarantine_of_listed (listed : q ∈ hub.execution.quarantines) :
    s.quarantines[q.deviceId]? = some q :=
  (get_collected reads.quarantines).mpr ⟨listed, rfl⟩

/-- What is shown of a quarantine is what its operation's record says. -/
theorem record_of_shown (inspected : s.quarantineInspections = .ok inspections)
    {inspection : QuarantineInspectionSnapshot} (shown : inspection ∈ inspections) :
    ∃ q r, q ∈ hub.execution.quarantines ∧ s.operations[q.operationId]? = some r ∧
      inspection.operation = r.operation ∧ inspection.capability = r.capability ∧
      inspection.reconciliationStatus = r.reconciliationStatus.getD .operatorRequired := by
  obtain ⟨q, listed, is⟩ := (of_mapM_eq_ok inspected).2.2 inspection shown
  rw [mem_sortBy, (values_collected reads.quarantines).mem_iff] at listed
  unfold quarantineInspection at is
  split at is
  · cases is
  · next r found =>
    obtain ⟨-, is⟩ := guard_eq_ok.mp is
    cases is
    exact ⟨q, r, listed, found, rfl, rfl, rfl⟩

/-- Every quarantine is shown under the name of its operation. -/
theorem shown_of_quarantined (inspected : s.quarantineInspections = .ok inspections)
    (listed : q ∈ hub.execution.quarantines) :
    ∃ inspection ∈ inspections, inspection.operation.operationId = q.operationId := by
  have given := (of_mapM_eq_ok inspected).2.1
  have among : q ∈ sortBy DesktopQuarantine.deviceId s.quarantines.values := by
    rw [mem_sortBy, (values_collected reads.quarantines).mem_iff]
    exact listed
  obtain ⟨inspection, is⟩ := given q among
  refine ⟨inspection, ?_, ?_⟩
  · have all := (mapM_eq_ok given).symm.trans inspected
    cases all
    exact List.mem_filterMap.mpr ⟨q, among, by rw [is]; rfl⟩
  · unfold quarantineInspection at is
    split at is
    · cases is
    · next r found =>
      obtain ⟨-, same⟩ := guard_eq_ok.mp is
      cases same
      exact (reads.mem_operations.mp found).2

end

/-- The report on a quarantined operation settles nothing, or says what the Agent's only evidence
of the operation says, which is corroborated by the record of the ledger. -/
theorem audit_cases (restored : restore scheme limits hub = .ok (registry, s)) {d : String}
    (held : s.quarantines[d]? = some q) (named : q.operationId = operationId)
    {agent : Except LoadError AgentPersistentState} {report : ReconciliationReadinessAudit}
    (audited : auditReconciliationReadOnly scheme (.ok hub) agent operationId = .ok report) :
    report.Undecided ∨
      ∃ (agentState : AgentPersistentState) (terminal : AgentTerminalEvidence)
        (inspection : QuarantineInspectionSnapshot) (q : DesktopQuarantine) (r : SafetyOperation)
        (report' : ReconciliationReadinessAudit),
        agent = .ok agentState ∧ terminal.isValid = true ∧
        (agentState.terminalEvidence.filter fun candidate =>
          candidate.operation.operationId = operationId) = [terminal] ∧
        q ∈ hub.execution.quarantines ∧ q.operationId = operationId ∧
        s.operations[operationId]? = some r ∧ inspection.operation = r.operation ∧
        inspection.capability = r.capability ∧
        inspection.reconciliationStatus = r.reconciliationStatus.getD .operatorRequired ∧
        Corroborated inspection r terminal ∧ report'.Undecided ∧
        report = report'.settledBy terminal := by
  have reads := reads_of_restore restored
  obtain ⟨listed, -⟩ := (get_collected reads.quarantines).mp held
  obtain ⟨_, same, audited⟩ := bind_eq_ok.mp audited
  cases same
  obtain ⟨⟨_, execution⟩, again, audited⟩ := bind_eq_ok.mp audited
  have reads' := reads_of_restore (mapError_eq_ok.mp again)
  obtain ⟨inspections, inspected, audited⟩ := bind_eq_ok.mp audited
  rw [mapError_eq_ok] at inspected
  split at audited
  · next absent =>
    obtain ⟨inspection, shown, is⟩ := shown_of_quarantined reads' inspected listed
    have missed := List.find?_eq_none.mp absent inspection shown
    rw [is, named] at missed
    exact absurd (decide_eq_true rfl) missed
  next inspection found =>
  obtain ⟨q', r, listed', recorded, operation, capability, status⟩ :=
    record_of_shown reads' inspected (List.mem_of_find?_eq_some found)
  have is : inspection.operation.operationId = operationId := by
    simpa using List.find?_some found
  have named' : q'.operationId = operationId := by
    rw [← (reads'.mem_operations.mp recorded).2, ← operation, is]
  rw [named'] at recorded
  obtain ⟨among, filed⟩ := reads'.mem_operations.mp recorded
  split at audited
  · cases audited
  next record picked =>
  have same : record = r := by
    have also := reads'.mem_operations.mpr
      ⟨List.mem_of_find?_eq_some picked, by simpa using List.find?_some picked⟩
    rw [recorded, Option.some.injEq] at also
    exact also.symm
  subst same
  have begun : (ReconciliationReadinessAudit.ofQuarantine hub.execution.schemaVersion inspection
      record.dispatchBinding).Undecided := ⟨fun sufficient => (by cases sufficient), rfl, rfl⟩
  cases agent with
  | error error =>
    simp only at audited
    split at audited
    · cases audited
      exact .inl ⟨fun sufficient => (by cases sufficient), rfl, rfl⟩
    · cases audited
  | ok agentState =>
    obtain ⟨_, read, is⟩ := bind_eq_ok.mp audited
    rw [mapError_eq_ok] at read
    cases is
    refine (lookAtAgent_cases begun).imp_right fun ⟨terminal, report', only, facts, undecided, eq⟩ => ?_
    have mem : terminal ∈ agentState.terminalEvidence :=
      List.mem_of_mem_filter (only ▸ List.mem_singleton_self terminal)
    exact ⟨agentState, terminal, inspection, q', record, report', rfl,
      AgentPersistentState.valid_of_restored read mem, only, listed', named',
      reads.mem_operations.mpr ⟨among, filed⟩, operation, capability, status, facts, undecided, eq⟩

/-- Sufficient evidence is the Agent's only evidence of the operation. The report names its state and
its class and no others, and it settles the operation in just these. Completion is supported only
then, if it is the state. Any other report supports nothing and keeps the quarantine. -/
theorem audit_agrees_with_ledger (restored : restore scheme limits hub = .ok (registry, s))
    {d : String} {q : DesktopQuarantine} (held : s.quarantines[d]? = some q)
    (named : q.operationId = operationId) {agent : Except LoadError AgentPersistentState}
    {report : ReconciliationReadinessAudit}
    (audited : auditReconciliationReadOnly scheme (.ok hub) agent operationId = .ok report) :
    (report.evidenceStatus = .sufficient →
      ∃ (agentState : AgentPersistentState) (terminal : AgentTerminalEvidence),
        agent = .ok agentState ∧
        (agentState.terminalEvidence.filter fun candidate =>
          candidate.operation.operationId = operationId) = [terminal] ∧
        (∀ state, report.authoritativeTerminalState = some (hubOperationStateName state) ↔
          terminal.terminalState = state) ∧
        (∀ evidence, report.authoritativeEvidenceClass = some evidence.name ↔
          terminal.evidence = evidence) ∧
        (.confirmedCompleted ∈ report.supportedDecisions → terminal.terminalState = .completed) ∧
        ∀ order nowMs, ∃ receipt s' r,
          s.reconcileAuthoritativeTerminal order terminal nowMs = .ok ((.idle, receipt), s') ∧
          receipt.terminalState = terminal.terminalState ∧ receipt.evidence = terminal.evidence ∧
          s'.operations[operationId]? = some r ∧ r.state = terminal.terminalState ∧
          r.receipt = some receipt) ∧
    (.confirmedCompleted ∈ report.supportedDecisions → report.evidenceStatus = .sufficient ∧
      report.authoritativeTerminalState = some "completed") ∧
    (report.evidenceStatus ≠ .sufficient →
      report.supportedDecisions = [] ∧ report.recommendedAction = .keepQuarantine) := by
  rcases audit_cases restored held named audited with undecided |
    ⟨agentState, terminal, inspection, q', r, report', loaded, valid, only, listed, named', found,
      operation, capability, status, facts, undecided, rfl⟩
  · refine ⟨fun sufficient => absurd sufficient undecided.unsettled, fun supported => ?_,
      fun _ => ⟨undecided.unsupported, undecided.keeps⟩⟩
    rw [undecided.unsupported] at supported
    cases supported
  · have reads := reads_of_restore restored
    obtain ⟨sufficient, state, evidence⟩ := settledBy_sufficient report' terminal
    have completes (supported : .confirmedCompleted ∈ (report'.settledBy terminal).supportedDecisions) :
        terminal.terminalState = .completed := by
      rw [settledBy_supported, undecided.unsupported] at supported
      split at supported
      · next completed => exact completed.1
      · cases supported
    refine ⟨fun _ => ⟨agentState, terminal, loaded, only, fun other => ?_, fun other => ?_, completes,
      fun order nowMs => ?_⟩, fun supported => ⟨sufficient, ?_⟩, fun other => absurd sufficient other⟩
    · rw [state, Option.some.injEq, hubOperationStateName_injective.eq_iff]
    · rw [evidence, Option.some.injEq, evidenceName_injective.eq_iff]
    · have waiting : r.reconciliationStatus = some .autoReconciling := by
        have known := status.symm.trans facts.waiting
        cases is : r.reconciliationStatus with
        | none =>
          rw [is] at known
          cases known
        | some status =>
          rw [is] at known
          exact congrArg some known
      have same : r.operation = terminal.operation := by
        have its : terminal.operation.operationId = operationId := by
          have mem : terminal ∈ agentState.terminalEvidence.filter fun candidate =>
              candidate.operation.operationId = operationId := only ▸ List.mem_singleton_self terminal
          simpa using (List.mem_filter.mp mem).2
        have device := facts.deviceId
        have generation := facts.deviceGeneration
        rw [operation] at device generation
        have id := (reads.mem_operations.mp found).2
        generalize terminal.operation = there at its device generation
        generalize r.operation = here at device generation id
        cases here
        cases there
        simp only at its device generation id
        rw [device, generation, its, id]
      rw [← named'] at found
      obtain ⟨s', accepted, settled⟩ := reads.reconciles (quarantine_of_listed reads listed) found valid
        waiting same (capability.symm.trans facts.capability.symm) facts.bound order nowMs
      rw [named'] at settled
      exact ⟨_, s', _, accepted, rfl, rfl, settled, rfl, rfl⟩
    · rw [state, completes supported]
      rfl

end Sufficient

/-- The evidence that a scroll was done. -/
def scrolled : AgentTerminalEvidence :=
  ⟨⟨"desk", 1, "x"⟩, 1, .scroll, "grant-1", .completed, .verifiedAgentResult⟩

/-- A Hub that waits for the evidence of a scroll whose connection was lost. -/
def hubAwaitingScroll : Persistence.HubPersistentState where
  schemaVersion := Persistence.hubM1StateSchemaVersion
  registry := ⟨deviceRegistrySnapshotSchemaVersion, [], []⟩
  execution := {AuthoritativeOperationController.lostScroll .connectionLost with
    operations := (AuthoritativeOperationController.lostScroll .connectionLost).operations.map fun r =>
      {r with
        indeterminateReason := some .connectionLost
        dispatchBinding := some scrolled.dispatchBinding
        reconciliationStatus := some .autoReconciling}}
  durableFence := none

/-- The Agent that did it. -/
def agentAfterScroll : AgentPersistentState where
  schemaVersion := m1StateSchemaVersion
  deviceId := "desk"
  trustedHubPublicKey := Vector.replicate 32 0
  trustedHubEpoch := 1
  grantLedger := ⟨grantLedgerSnapshotSchemaVersion, [Vector.replicate 32 0], [], []⟩
  execution := ⟨some 1, ["x"]⟩
  terminalEvidence := [scrolled]
  backendExecutionReceipts := []
  managedJobFailClosed := false

theorem audit_agrees_with_ledger_scroll : ∃ registry s report,
    restore anyKey ⟨1, 1⟩ hubAwaitingScroll = .ok (registry, s) ∧
    auditReconciliationReadOnly anyKey (.ok hubAwaitingScroll) (.ok agentAfterScroll)
      "x" = .ok report ∧ report.evidenceStatus = .sufficient ∧
    ∃ receipt s', s.reconcileAuthoritativeTerminal .given scrolled 5 = .ok ((.idle, receipt), s') := by
  obtain ⟨⟨registry, s⟩, restored⟩ := Result.exists_of_isOk
    (x := restore anyKey ⟨1, 1⟩ hubAwaitingScroll) (by decide +kernel)
  have shown : (auditReconciliationReadOnly anyKey (.ok hubAwaitingScroll)
      (.ok agentAfterScroll) "x").map (·.evidenceStatus) = .ok .sufficient := by decide +kernel
  obtain ⟨report, audited, sufficient⟩ := Result.map_eq_ok.mp shown
  have held : s.quarantines["desk"]? =
      some ⟨"desk", "x", 1, AuthoritativeOperationController.alice, .connectionLost, 1⟩ :=
    quarantine_of_listed (reads_of_restore restored) (List.mem_singleton_self _)
  obtain ⟨agentState, terminal, loaded, only, -, -, -, settles⟩ :=
    (audit_agrees_with_ledger restored held rfl audited).1 sufficient
  cases loaded
  cases only
  obtain ⟨receipt, s', -, accepted, -⟩ := settles .given 5
  exact ⟨registry, s, report, restored, audited, sufficient, receipt, s', accepted⟩

end Gateway.Maintenance
