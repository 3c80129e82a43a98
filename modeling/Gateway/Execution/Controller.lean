import Gateway.Execution.Admission
import Gateway.Execution.Records

/-! The authoritative ledger of state-changing work.

Over the admission ledger's bounded queues it keeps who owns an operation, what
evidence settled it, and which devices are quarantined by an operation whose
effect nobody can prove. As in the admission ledger, a transition that fails
before it changes anything returns `Except` around its result; the four that can
fail half-way return the ledger beside their answer. -/
namespace Gateway.Execution
open Data Device

/-! ### What happens to one record -/

namespace SafetyOperation

variable (r : SafetyOperation)

/-- The command is about to be sent. -/
def dispatch (dispatchBinding : Option OperationDispatchBinding) (nowMs : Nat) : SafetyOperation :=
  {r with
    state := .dispatched
    dispatchedAtMs := some nowMs
    dispatchBinding := dispatchBinding
    reconciliationStatus := none}

/-- Cancelled before anything was sent. -/
def cancelBeforeDispatch (nowMs : Nat) : SafetyOperation :=
  {r with
    state := .cancelled
    receipt := some (r.receiptFor .cancelled .cancelledBeforeDispatch nowMs)}

/-- Settled by the Agent's own answer. -/
def finalize (terminalState : HubOperationState)
    (evidence : ExecutionEvidence) (nowMs : Nat) : SafetyOperation :=
  {r with
    state := terminalState
    indeterminateReason := none
    receipt := some (r.receiptFor terminalState evidence nowMs)}

/-- Settled by the Hub's proof that nothing was enqueued. -/
def neverEnqueued (evidence : ExecutionEvidence) (nowMs : Nat) : SafetyOperation :=
  {r with
    state := .cancelled
    indeterminateReason := none
    reconciliationStatus := some .autoResolved
    recoverableResult := none
    receipt := some (r.receiptFor .cancelled evidence nowMs)}

/-- A recovery read that will not be answered. -/
def interruptRead (nowMs : Nat) : SafetyOperation :=
  {r with
    state := .failed
    indeterminateReason := none
    recoverableResult := none
    reconciliationStatus := none
    receipt := some (r.receiptFor .failed .recoveryReadInterrupted nowMs)}

/-- Nobody can prove what happened. -/
def becomeAmbiguous (reason : IndeterminateReason) : SafetyOperation :=
  {r with
    state := .indeterminate
    indeterminateReason := some reason
    receipt := none
    recoverableResult := none
    reconciliationStatus := some (defaultReconciliationStatus (some reason) r.dispatchBinding)}

/-- Settled after all by the Agent's durable evidence. -/
def reconcile (terminal : AgentTerminalEvidence) (nowMs : Nat) : SafetyOperation :=
  {r with
    state := terminal.terminalState
    indeterminateReason := none
    reconciliationStatus := some .autoResolved
    receipt := some (r.receiptFor terminal.terminalState terminal.evidence nowMs)
    recoverableResult := none}

/-- Settled by an operator's finding. -/
def resolve (terminalState : HubOperationState) (nowMs : Nat) : SafetyOperation :=
  {r with
    state := terminalState
    indeterminateReason := none
    reconciliationStatus := none
    receipt := some (r.receiptFor terminalState .operatorResolution nowMs)}

end SafetyOperation

structure AuthoritativeOperationController where
  admission : HubAdmissionController
  operations : Table SafetyOperation
  recoveryArchive : Table ArchivedOperationRecovery
  quarantines : Table DesktopQuarantine
  resolutions : List ResolutionRecord
  autoResolutions : List AutoResolutionRecord
  retirements : List RetirementRecord
  mutationResumeBarriers : Table MutationResumeBarrier
  mutationResumes : List MutationResumeRecord

namespace AuthoritativeOperationController

/-- The ledger with nothing in it, under limits already validated. -/
def empty (limits : AdmissionLimits) : AuthoritativeOperationController :=
  ⟨.empty limits, ∅, ∅, ∅, [], [], [], ∅, []⟩

def new (limits : AdmissionLimits) : Except ExecutionError AuthoritativeOperationController :=
  limits.validate.map empty

variable (s : AuthoritativeOperationController) (operationId : String)

def state : Option HubOperationState :=
  s.operations[operationId]?.map SafetyOperation.state

/-- Work of the device that has not reached a settled or quarantined state. -/
def hasUnsettledWork (deviceId : String) : Bool :=
  s.operations.values.any fun record =>
    record.operation.deviceId = deviceId && record.state.isUnsettled

/-- The operation, if the caller owns it and names its generation. -/
def checked (owner : OperationOwner)
    (deviceGeneration : Nat) : Except ExecutionError SafetyOperation :=
  match s.operations[operationId]? with
  | none => .error .unknownOperation
  | some record =>
    if record.owner ≠ owner ∨ record.operation.deviceGeneration ≠ deviceGeneration then
      .error .ownershipFenceMismatch
    else .ok record

/-- Record that the admission ledger promoted an operation. -/
def activateNext (operations : Table SafetyOperation) : CompletionDecision → Table SafetyOperation
  | .idle => operations
  | .startNext operation =>
    match operations[operation.operationId]? with
    | none => operations
    | some record =>
      operations.insert operation.operationId {record with state := .activeNotDispatched}

/-! ### Admission and dispatch -/

/-- The state an admission decision puts an operation in. -/
def admittedState : AdmissionDecision → HubOperationState
  | .startNow _ => .activeNotDispatched
  | .queued _ => .queued

/-- A newly admitted operation. -/
def preparedRecord (operation : OperationRef) (owner : OperationOwner) (capability : DeviceCapability)
    (lane : OperationExecutionLane) (state : HubOperationState)
    (metadata : OperationAdmissionMetadata) (nowMs : Nat) : SafetyOperation where
  operation := operation
  owner := owner
  capability := capability
  executionLane := lane
  state := state
  preparedAtMs := nowMs
  dispatchedAtMs := none
  indeterminateReason := none
  receipt := none
  recoverableResult := none
  audit := metadata.audit
  requestFingerprint := metadata.requestFingerprint
  evidenceEnvelope := metadata.evidenceEnvelope
  recoveryTargetRequired := recoveryTargetRequired capability
  recoveryTarget := metadata.recoveryTarget
  semanticConstraint := metadata.semanticConstraint
  dispatchBinding := none
  reconciliationStatus := none

/-- The barrier that holds back a capability that can change the device. -/
def blockingBarrier (deviceId : String)
    (capability : DeviceCapability) : Option MutationResumeBarrier :=
  if capability.capabilityClass = .observe then none else s.mutationResumeBarriers[deviceId]?

def prepareWithMetadata (operation : OperationRef)
    (owner : OperationOwner) (capability : DeviceCapability) (metadata : OperationAdmissionMetadata)
    (nowMs : Nat) : Except ExecutionError AdmissionDecision × AuthoritativeOperationController :=
  let admitted (lane : OperationExecutionLane) (decision : AdmissionDecision)
      (admission : HubAdmissionController) : AuthoritativeOperationController :=
    {s with
      admission := admission
      operations := s.operations.insert operation.operationId
        (preparedRecord operation owner capability lane (admittedState decision) metadata nowMs)}
  if operation.operationId ∈ s.operations ∨ operation.operationId ∈ s.recoveryArchive ∨
      s.retirements.any (fun retirement => retirement.operation.operationId = operation.operationId) then
    (.error .operationReplay, s)
  else if ¬metadata.isValid capability then (.error .invalidOperation, s)
  else match s.blockingBarrier operation.deviceId capability with
    | some barrier => (.error (.mutationResumeRequired barrier.sourceOperationId), s)
    | none =>
      match s.quarantines[operation.deviceId]? with
      | some quarantine =>
        if ¬capability.isRecoveryEvidenceReadOnly then
          (.error (.deviceIndeterminate quarantine.operationId), s)
        else match s.admission.admitRecoveryReadOnly operation with
          | .error e => (.error e, s)
          | .ok (decision, admission) =>
            (.ok decision, admitted .recoveryEvidenceRead decision admission)
      | none =>
        match s.admission.admitOperation operation with
        | (.error e, admission) => (.error e, {s with admission := admission})
        | (.ok decision, admission) => (.ok decision, admitted .normal decision admission)

def markDispatchedWithBinding (owner : OperationOwner) (deviceGeneration : Nat)
    (dispatchBinding : Option OperationDispatchBinding) (nowMs : Nat) :
    Except ExecutionError (Unit × AuthoritativeOperationController) := do
  if ¬dispatchBinding.all (·.isValid) then .error .invalidOperation
  else
    let record ← s.checked operationId owner deviceGeneration
    if record.state ≠ .activeNotDispatched then .error .invalidTransition
    else
      let admission ← s.admission.markDispatched operationId
      .ok ((), {s with
        admission := admission
        operations := s.operations.insert operationId (record.dispatch dispatchBinding nowMs)})

/-! ### Settlement -/

variable (order : IterationOrder)

def requestCancel (s : AuthoritativeOperationController)
    (operationId : String) (owner : OperationOwner) (deviceGeneration nowMs : Nat) :
    Except ExecutionError (CancellationDecision × AuthoritativeOperationController) := do
  let record ← s.checked operationId owner deviceGeneration
  let (decision, admission) ← s.admission.cancel order operationId
  match decision with
  | .cancelledBeforeDispatch next =>
    let cancelled := s.operations.insert operationId (record.cancelBeforeDispatch nowMs)
    .ok (decision, {s with admission := admission, operations := activateNext cancelled next})
  | .sendCancellation _ =>
    .ok (decision, {s with
      admission := admission
      operations := s.operations.insert operationId {record with state := .cancelRequested}})
  | .alreadyTerminal _ => .ok (decision, {s with admission := admission})

def finalize (s : AuthoritativeOperationController) (operationId : String)
    (owner : OperationOwner) (deviceGeneration : Nat) (terminalState : HubOperationState)
    (evidence : ExecutionEvidence) (nowMs : Nat) :
    Except ExecutionError ((CompletionDecision × ExecutionReceipt) × AuthoritativeOperationController) :=
  do
  let record ← s.checked operationId owner deviceGeneration
  if ¬record.state.isInFlight ∨ ¬authoritativeAgentTerminalPair terminalState evidence then
    .error .invalidTransition
  else
    let (next, admission) ← s.admission.finalizeTerminal order operationId terminalState
    let settled := s.operations.insert operationId (record.finalize terminalState evidence nowMs)
    .ok ((next, record.receiptFor terminalState evidence nowMs),
      {s with admission := admission, operations := activateNext settled next})

/-- Append to the history, dropping the oldest entries beyond its bound. -/
def pushAutoResolution (history : List AutoResolutionRecord) (record : AutoResolutionRecord) :
    List AutoResolutionRecord :=
  let history := history ++ [record]
  history.drop (history.length - maxAutoResolutionRecords)

/-- The receipt of the same non-delivery settled earlier. -/
def settledNonDelivery (record : SafetyOperation) (evidence : ExecutionEvidence) :
    Option ExecutionReceipt :=
  if record.state = .cancelled ∧ record.reconciliationStatus = some .autoResolved then
    record.receipt.filter fun receipt => receipt.evidence = evidence
  else none

def resolveHubPreEnqueueNonDelivery (s : AuthoritativeOperationController)
    (operationId : String) (owner : OperationOwner) (deviceGeneration : Nat)
    (dispatchBinding : OperationDispatchBinding) (evidence : ExecutionEvidence) (nowMs : Nat) :
    Except ExecutionError ((CompletionDecision × ExecutionReceipt) × AuthoritativeOperationController) :=
  do
  if ¬authoritativeHubPreEnqueueNonDeliveryPair .cancelled evidence then .error .invalidOperation
  else
    let record ← s.checked operationId owner deviceGeneration
    if record.executionLane ≠ .normal ∨ record.dispatchBinding ≠ some dispatchBinding then
      .error .ownershipFenceMismatch
    else match settledNonDelivery record evidence with
      | some receipt => .ok ((.idle, receipt), s)
      | none =>
        if record.state ≠ .dispatched ∨ record.reconciliationStatus.isSome ∨
            record.operation.deviceId ∈ s.quarantines then .error .invalidTransition
        else
          let (next, admission) ← s.admission.finalizeTerminal order operationId .cancelled
          let settled := s.operations.insert operationId (record.neverEnqueued evidence nowMs)
          .ok ((next, record.receiptFor .cancelled evidence nowMs), {s with
            admission := admission
            operations := activateNext settled next
            autoResolutions := pushAutoResolution s.autoResolutions
              ⟨record.operation, record.capability, .cancelled, evidence, dispatchBinding, nowMs⟩})

/-! ### Lost and ambiguous work -/

def isRecoveryEvidenceRead : Bool :=
  s.operations[operationId]?.any fun record => record.executionLane = .recoveryEvidenceRead

def markRecoveryReadInterrupted (s : AuthoritativeOperationController)
    (operationId : String) (nowMs : Nat) :
    Except ExecutionError ((CompletionDecision × ExecutionReceipt) × AuthoritativeOperationController) :=
  match s.operations[operationId]? with
  | none => .error .unknownOperation
  | some record =>
    if record.executionLane ≠ .recoveryEvidenceRead ∨ ¬record.state.isInFlight then
      .error .invalidTransition
    else do
      let (next, admission) ← s.admission.failRecoveryReadOnly order operationId
      let settled := s.operations.insert operationId (record.interruptRead nowMs)
      .ok ((next, record.receiptFor .failed .recoveryReadInterrupted nowMs),
        {s with admission := admission, operations := activateNext settled next})

/-- Cancel one waiting operation of a device that has become ambiguous. -/
def cancelQueued (nowMs : Nat) (s : AuthoritativeOperationController)
    (queuedId : String) : Except ExecutionError Unit × AuthoritativeOperationController :=
  match s.admission.cancel order queuedId with
  | .error e => (.error e, s)
  | .ok (.cancelledBeforeDispatch _, admission) =>
    match s.operations[queuedId]? with
    | none => (.error .unknownOperation, {s with admission := admission})
    | some queued =>
      (.ok (), {s with
        admission := admission
        operations := s.operations.insert queuedId (queued.cancelBeforeDispatch nowMs)})
  | .ok (_, admission) => (.error .invalidTransition, {s with admission := admission})

def cancelEachQueued (order : IterationOrder) (nowMs : Nat) :
    List String → AuthoritativeOperationController →
      Except ExecutionError Unit × AuthoritativeOperationController
  | [], s => (.ok (), s)
  | queuedId :: rest, s =>
    match s.cancelQueued order nowMs queuedId with
    | (.error e, s') => (.error e, s')
    | (.ok (), s') => cancelEachQueued order nowMs rest s'

/-- The other operations waiting for a device. -/
def queuedIds (deviceId operationId : String) : List String :=
  (s.operations.toList.filter fun entry =>
    entry.1 ≠ operationId && entry.2.operation.deviceId = deviceId && entry.2.state = .queued).map
      Prod.fst

/-- The quarantine an operation puts its device under. -/
def quarantineFor (record : SafetyOperation) (reason : IndeterminateReason) (sinceMs : Nat) :
    DesktopQuarantine :=
  ⟨record.operation.deviceId, record.operation.operationId, record.operation.deviceGeneration,
    record.owner, reason, sinceMs⟩

def markIndeterminateInternal (s : AuthoritativeOperationController)
    (operationId : String) (reason : IndeterminateReason) (nowMs : Nat) :
    Except ExecutionError CompletionDecision × AuthoritativeOperationController :=
  match s.operations[operationId]? with
  | none => (.error .unknownOperation, s)
  | some target =>
    if target.executionLane ≠ .normal ∨ ¬target.state.isInFlight then (.error .invalidTransition, s)
    else if s.quarantines[target.operation.deviceId]?.any
        (fun existing => existing.operationId ≠ operationId) then (.error .invalidTransition, s)
    else match s.admission.markIndeterminate operationId with
      | .error e => (.error e, s)
      | .ok (next, admission) =>
        -- Work queued behind the ambiguity was admitted before it was known.
        match cancelEachQueued order nowMs
            (order.arrange (s.queuedIds target.operation.deviceId operationId))
            {s with admission := admission} with
        | (.error e, s') => (.error e, s')
        | (.ok (), s') =>
          match s'.operations[operationId]? with
          | none => (.error .unknownOperation, s')
          | some record =>
            (.ok next, {s' with
              operations := s'.operations.insert operationId (record.becomeAmbiguous reason)
              quarantines := s'.quarantines.insert target.operation.deviceId
                (quarantineFor record reason nowMs)})

def markIndeterminate (s : AuthoritativeOperationController)
    (operationId : String) (owner : OperationOwner) (deviceGeneration : Nat)
    (reason : IndeterminateReason) (nowMs : Nat) :
    Except ExecutionError CompletionDecision × AuthoritativeOperationController :=
  match s.checked operationId owner deviceGeneration with
  | .error e => (.error e, s)
  | .ok _ => s.markIndeterminateInternal order operationId reason nowMs

def markConnectionLost (s : AuthoritativeOperationController) (operationId : String) (nowMs : Nat) :
    Except ExecutionError CompletionDecision × AuthoritativeOperationController :=
  if s.isRecoveryEvidenceRead operationId then
    match s.markRecoveryReadInterrupted order operationId nowMs with
    | .error e => (.error e, s)
    | .ok ((next, _), s') => (.ok next, s')
  else s.markIndeterminateInternal order operationId .connectionLost nowMs

/-! ### Settling what was ambiguous -/

def markReconciliationEvidenceGap :
    Except ExecutionError (Unit × AuthoritativeOperationController) :=
  match s.operations[operationId]? with
  | none => .error .unknownOperation
  | some record =>
    if record.state ≠ .indeterminate ∨ record.reconciliationStatus ≠ some .autoReconciling then
      .error .invalidTransition
    else
      .ok ((), {s with
        operations := s.operations.insert operationId
          {record with reconciliationStatus := some .unrecoverableEvidenceGap}})

def markReconciliationOperatorRequired : Except ExecutionError (Unit × AuthoritativeOperationController) :=
  match s.operations[operationId]? with
  | none => .error .unknownOperation
  | some record =>
    if record.state ≠ .indeterminate then .error .invalidTransition
    else
      .ok ((), {s with
        operations := s.operations.insert operationId
          {record with reconciliationStatus := some .operatorRequired}})

def reconcileAuthoritativeTerminal (s : AuthoritativeOperationController)
    (terminal : AgentTerminalEvidence) (nowMs : Nat) :
    Except ExecutionError ((CompletionDecision × ExecutionReceipt) × AuthoritativeOperationController) :=
  if ¬terminal.isValid then .error .invalidOperation
  else match s.operations[terminal.operation.operationId]? with
    | none => .error .unknownOperation
    | some record =>
      if record.state ≠ .indeterminate ∨ record.reconciliationStatus ≠ some .autoReconciling ∨
          record.operation ≠ terminal.operation ∨ record.capability ≠ terminal.capability ∨
          record.dispatchBinding ≠ some terminal.dispatchBinding then .error .ownershipFenceMismatch
      else match s.quarantines[record.operation.deviceId]? with
        | none => .error .invalidTransition
        | some quarantine =>
          if quarantine.operationId ≠ terminal.operation.operationId ∨
              quarantine.deviceGeneration ≠ terminal.operation.deviceGeneration then
            .error .ownershipFenceMismatch
          else do
            let (next, admission) ← s.admission.reconcileIndeterminateTerminal order
              terminal.operation.operationId terminal.terminalState
            let settled := s.operations.insert terminal.operation.operationId
              (record.reconcile terminal nowMs)
            .ok ((next, record.receiptFor terminal.terminalState terminal.evidence nowMs), {s with
              admission := admission
              operations := activateNext settled next
              quarantines := s.quarantines.erase record.operation.deviceId
              autoResolutions := pushAutoResolution s.autoResolutions
                ⟨record.operation, record.capability, terminal.terminalState, terminal.evidence,
                  terminal.dispatchBinding, nowMs⟩})

def resolveIndeterminate (s : AuthoritativeOperationController)
    (operationId : String) (resolver : OperationOwner) (decision : IndeterminateResolution)
    (evidence : String) (nowMs : Nat) :
    Except ExecutionError ((CompletionDecision × ExecutionReceipt) × AuthoritativeOperationController) :=
  if isBlank evidence ∨ evidence.utf8ByteSize > maxResolutionEvidenceBytes then
    .error .invalidOperation
  else match s.operations[operationId]? with
    | none => .error .unknownOperation
    | some record =>
      if record.state ≠ .indeterminate then .error .invalidTransition
      else match s.quarantines[record.operation.deviceId]? with
        | none => .error .invalidTransition
        | some quarantine =>
          if quarantine.operationId ≠ operationId ∨
              quarantine.deviceGeneration ≠ record.operation.deviceGeneration then
            .error .invalidTransition
          else if decision = .confirmedEffectAppliedUncommitted ∧
              ¬(record.capability = .typeText ∨ record.capability = .browserType) then
            .error .invalidTransition
          else do
            let (next, admission) ← s.admission.resolveIndeterminate order operationId decision
            let terminal := HubAdmissionController.resolvedState decision
            let settled := s.operations.insert operationId (record.resolve terminal nowMs)
            .ok ((next, record.receiptFor terminal .operatorResolution nowMs), {s with
              admission := admission
              operations := activateNext settled next
              quarantines := s.quarantines.erase record.operation.deviceId
              resolutions := s.resolutions ++
                [⟨operationId, record.operation.deviceId, record.operation.deviceGeneration, resolver,
                  decision, evidence, nowMs⟩]})

/-! ### Retirement -/

/-- What a retirement asks for. -/
structure RetirementTransition where
  disposition : RetirementDisposition
  authority : RetirementAuthority
  requestedPolicy : RetirementPolicy
  reason : String
  authorizedDeviceGeneration : Nat
  nowMs : Nat

/-- The audit record of a retirement that passes every check. -/
def retirementFor (transition : RetirementTransition) : Except ExecutionError RetirementRecord :=
  if ¬validReason transition.reason then .error .invalidOperation
  else if s.retirements.any (fun retirement => retirement.operation.operationId = operationId) then
    .error .invalidTransition
  else match s.operations[operationId]? with
    | none => .error .unknownOperation
    | some record =>
      if record.state ≠ .indeterminate ∨ record.dispatchedAtMs.isNone ∨ record.receipt.isSome ∨
          record.recoverableResult.isSome ∨
          transition.authorizedDeviceGeneration ≤ record.operation.deviceGeneration then
        .error .invalidTransition
      else
        let prior := record.reconciliationStatus.getD .operatorRequired
        if ¬prior.isUnrecovered then .error .invalidTransition
        else match transition.disposition.policyFor record.capability with
          | none => .error .invalidTransition
          | some policy =>
            if policy ≠ transition.requestedPolicy then .error .invalidTransition
            else match record.indeterminateReason, s.quarantines[record.operation.deviceId]? with
              | some indeterminateReason, some quarantine =>
                let retirement : RetirementRecord := {
                  operation := record.operation
                  capability := record.capability
                  outcome := .unknown
                  indeterminateReason := indeterminateReason
                  priorReconciliationStatus := prior
                  policy := policy
                  disposition := transition.disposition
                  authority := transition.authority
                  reason := transition.reason
                  authorizedDeviceGeneration := transition.authorizedDeviceGeneration
                  retiredAtMs := transition.nowMs
                  replayed := false}
                if quarantine.operationId ≠ operationId ∨
                    quarantine.deviceGeneration ≠ record.operation.deviceGeneration ∨
                    quarantine.reason ≠ indeterminateReason then .error .invalidTransition
                else if ¬retirement.isValid then .error .invalidTransition
                else .ok retirement
              | _, _ => .error .invalidTransition

/-- A retirement whose source holds an active barrier must stay detailed. -/
def holdsBarrier (retirement : RetirementRecord) : Bool :=
  s.mutationResumeBarriers.values.any fun barrier =>
    barrier.sourceOperationId = retirement.operation.operationId

/-- The resume that answers a retired pointer click. -/
def isResumeOf (retired : RetirementRecord) (resume : MutationResumeRecord) : Bool :=
  resume.sourceOperationId = retired.operation.operationId &&
    resume.deviceId = retired.operation.deviceId &&
    resume.acceptedGeneration = retired.authorizedDeviceGeneration && resume.policy = retired.policy

/-- Compact one retirement out of the detailed history. -/
def rotateOldest : Except ExecutionError Unit × AuthoritativeOperationController :=
  match leastBy RetirementRecord.retiredAtMs (fun retirement => retirement.operation.operationId)
      (s.retirements.filter fun retirement => !s.holdsBarrier retirement) with
  | none => (.error .invalidTransition, s)
  | some retired =>
    -- The oldest one is the first of its equals, so erasing by value erases it.
    let s := {s with retirements := s.retirements.erase retired}
    if retired.policy = .acknowledgedUnknownPointerClickV1 ∧
        ¬s.mutationResumes.any (isResumeOf retired) then (.error .invalidTransition, s)
    else
      let s := {s with
        mutationResumes :=
          if retired.policy = RetirementPolicy.acknowledgedUnknownPointerClickV1 then
            s.mutationResumes.eraseP (isResumeOf retired)
          else s.mutationResumes}
      match s.admission.compactRetiredIndeterminateDetail retired.operation.operationId with
      | .error e => (.error e, s)
      | .ok admission =>
        let s := {s with admission := admission}
        if retired.operation.operationId ∈ s.operations then
          (.ok (), {s with operations := s.operations.erase retired.operation.operationId})
        else (.error .invalidTransition, s)

/-- Compact until the detailed history is within its bound. Each round drops one
entry, so as many rounds as there are entries are enough. -/
def rotateRetirementHistory : Nat → AuthoritativeOperationController →
    Except ExecutionError Unit × AuthoritativeOperationController
  | 0, s => (.ok (), s)
  | rounds + 1, s =>
    if s.retirements.length ≤ maxRetirementRecords then (.ok (), s)
    else match s.rotateOldest with
      | (.error e, s') => (.error e, s')
      | (.ok (), s') => rotateRetirementHistory rounds s'

/-- Record the cancellation of each queued operation the admission ledger dropped. -/
def cancelDropped (nowMs : Nat) : List OperationRef → Table SafetyOperation →
    Except ExecutionError Unit × Table SafetyOperation
  | [], operations => (.ok (), operations)
  | queued :: rest, operations =>
    match operations[queued.operationId]? with
    | none => (.error .invalidTransition, operations)
    | some record =>
      if record.state ≠ .queued then (.error .invalidTransition, operations)
      else cancelDropped nowMs rest
        (operations.insert queued.operationId (record.cancelBeforeDispatch nowMs))

/-- The barrier an accepted pointer click raises. -/
def barrierFor (retirement : RetirementRecord) (nowMs : Nat) : MutationResumeBarrier :=
  ⟨retirement.operation.deviceId, retirement.operation.operationId,
    retirement.operation.deviceGeneration, retirement.authorizedDeviceGeneration, retirement.policy,
    nowMs⟩

/-- Release the device; an accepted pointer click leaves a barrier behind. -/
def releaseRetired (s : AuthoritativeOperationController)
    (operationId : String) (retirement : RetirementRecord) (nowMs : Nat) :
    Except ExecutionError CompletionDecision × AuthoritativeOperationController :=
  if retirement.disposition = .currentStateAccepted ∧
      retirement.policy = .acknowledgedUnknownPointerClickV1 then
    if retirement.operation.deviceId ∈ s.mutationResumeBarriers then (.error .invalidTransition, s)
    else match s.admission.retireIndeterminateAndCancelQueued operationId with
      | .error e => (.error e, s)
      | .ok (cancelled, admission) =>
        match cancelDropped nowMs cancelled s.operations with
        | (.error e, operations) => (.error e, {s with admission := admission, operations := operations})
        | (.ok (), operations) =>
          (.ok .idle, {s with
            admission := admission
            operations := operations
            mutationResumeBarriers := s.mutationResumeBarriers.insert retirement.operation.deviceId
              (barrierFor retirement nowMs)})
  else match s.admission.retireIndeterminate order operationId with
    | .error e => (.error e, s)
    | .ok (next, admission) => (.ok next, {s with admission := admission})

def retireIndeterminateWithDisposition (s : AuthoritativeOperationController) (operationId : String)
    (transition : RetirementTransition) :
    Except ExecutionError (CompletionDecision × RetirementRecord) × AuthoritativeOperationController :=
  match s.retirementFor operationId transition with
  | .error e => (.error e, s)
  | .ok retirement =>
    match s.releaseRetired order operationId retirement transition.nowMs with
    | (.error e, s') => (.error e, s')
    | (.ok next, s') =>
      let s' := {s' with
        quarantines := s'.quarantines.erase retirement.operation.deviceId
        retirements := s'.retirements ++ [retirement]}
      match rotateRetirementHistory s'.retirements.length s' with
      | (.error e, s') => (.error e, s')
      | (.ok (), s') =>
        (.ok (next, retirement), {s' with operations := activateNext s'.operations next})

def retireIndeterminate (s : AuthoritativeOperationController)
    (operationId : String) (authority : RetirementAuthority) (requestedPolicy : RetirementPolicy)
    (reason : String) (authorizedDeviceGeneration nowMs : Nat) :
    Except ExecutionError (CompletionDecision × RetirementRecord) × AuthoritativeOperationController :=
  if authority ≠ .localMaintenanceOperator then (.error .invalidTransition, s)
  else s.retireIndeterminateWithDisposition order operationId
    ⟨.retired, authority, requestedPolicy, reason, authorizedDeviceGeneration, nowMs⟩

def acceptCurrentState (s : AuthoritativeOperationController)
    (operationId : String) (requestedPolicy : RetirementPolicy) (reason : String)
    (authorizedDeviceGeneration nowMs : Nat) :
    Except ExecutionError (CompletionDecision × RetirementRecord) × AuthoritativeOperationController :=
  s.retireIndeterminateWithDisposition order operationId
    ⟨.currentStateAccepted, .localUserPresence, requestedPolicy, reason, authorizedDeviceGeneration,
      nowMs⟩

def resumeMutations (deviceId sourceOperationId : String)
    (authority : RetirementAuthority) (authorizedDeviceGeneration : Nat) (reason : String)
    (nowMs : Nat) :
    Except ExecutionError (MutationResumeRecord × AuthoritativeOperationController) :=
  if authority ≠ .localUserPresence ∨ ¬validReason reason then .error .invalidOperation
  else match s.mutationResumeBarriers[deviceId]? with
    | none => .error .invalidTransition
    | some barrier =>
      let record : MutationResumeRecord :=
        ⟨barrier.deviceId, barrier.sourceOperationId, barrier.acceptedGeneration,
          authorizedDeviceGeneration, barrier.policy, authority, reason, nowMs⟩
      if barrier.sourceOperationId ≠ sourceOperationId ∨
          authorizedDeviceGeneration ≤ barrier.acceptedGeneration then .error .invalidTransition
      else if ¬record.isValid ∨ s.mutationResumes.length ≥ maxRetirementRecords then
        .error .invalidTransition
      else
        .ok (record, {s with
          mutationResumeBarriers := s.mutationResumeBarriers.erase deviceId
          mutationResumes := s.mutationResumes ++ [record]})

/-! ### Recovery results and pruning -/

def attachRecoverableResult
    (owner : OperationOwner) (deviceGeneration : Nat) (result : RecoverableOperationResult) :
    Except ExecutionError (Unit × AuthoritativeOperationController) := do
  let record ← s.checked operationId owner deviceGeneration
  if record.receipt.isNone ∨ ¬result.isValidFor record.capability record.state ∨
      result.jsonLength > maxRecoveryArchiveBytes ∨ record.recoverableResult.isSome then
    .error .invalidTransition
  else
    .ok ((), {s with
      operations := s.operations.insert operationId {record with recoverableResult := some result}})

/-- A settled operation of the device from before the current generation. -/
def isPrunable (deviceId : String) (currentGeneration : Nat) (record : SafetyOperation) : Bool :=
  record.operation.deviceId = deviceId && record.operation.deviceGeneration < currentGeneration &&
    record.state.isTerminal

/-- The archive entry of a settled operation with a result. -/
def archivedFor (record : SafetyOperation) : Except ExecutionError ArchivedOperationRecovery :=
  match record.receipt, record.recoverableResult with
  | some receipt, some result =>
    .ok ⟨record.operation, record.owner, record.capability, record.state, receipt, result,
      record.semanticConstraint⟩
  | _, _ => .error .invalidTransition

/-- Add each entry to the archive, stopping at the first invalid one. -/
def archiveEach : List ArchivedOperationRecovery → Table ArchivedOperationRecovery →
    Except ExecutionError Unit × Table ArchivedOperationRecovery
  | [], archive => (.ok (), archive)
  | archived :: rest, archive =>
    if ¬archived.isValid then (.error .invalidTransition, archive)
    else archiveEach rest (archive.insert archived.operation.operationId archived)

/-- Encoded size of the whole archive. -/
def recoveryArchiveEncodedBytes (archive : Table ArchivedOperationRecovery) : Nat :=
  (archive.values.map ArchivedOperationRecovery.encodedLen).sum

/-- Drop the oldest entries until the archive is within its bounds. Each round drops
one entry, so as many rounds as there are entries are enough. -/
def boundRecoveryArchive : Nat → Table ArchivedOperationRecovery → Table ArchivedOperationRecovery
  | 0, archive => archive
  | rounds + 1, archive =>
    if archive.size ≤ maxRecoveryArchiveEntries ∧
        recoveryArchiveEncodedBytes archive ≤ maxRecoveryArchiveBytes then archive
    else match leastBy (fun archived => archived.receipt.finalizedAtMs)
        (fun archived => archived.operation.operationId) archive.values with
      | none => archive
      | some oldest => boundRecoveryArchive rounds (archive.erase oldest.operation.operationId)

def pruneTerminalBeforeGeneration (deviceId : String)
    (currentGeneration : Nat) : Except ExecutionError Nat × AuthoritativeOperationController :=
  if isBlank deviceId ∨ currentGeneration = 0 then (.error .invalidOperation, s)
  else
    let settled := s.operations.values.filter fun record =>
      isPrunable deviceId currentGeneration record && record.recoverableResult.isSome
    match settled.mapM archivedFor with
    | .error e => (.error e, s)
    | .ok toArchive =>
      match archiveEach toArchive s.recoveryArchive with
      | (.error e, archive) => (.error e, {s with recoveryArchive := archive})
      | (.ok (), archive) =>
        let s := {s with recoveryArchive := boundRecoveryArchive archive.size archive}
        match s.admission.pruneTerminalBeforeGeneration deviceId currentGeneration with
        | .error e => (.error e, s)
        | .ok (removed, admission) =>
          (.ok removed, {s with
            admission := admission
            operations := s.operations.filter fun _ record =>
              !isPrunable deviceId currentGeneration record})

end AuthoritativeOperationController

end Gateway.Execution
