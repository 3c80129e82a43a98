import Gateway.Data.Machine
import Gateway.Execution.Restart

/-! The authoritative ledger as a machine.

One event is one call of a public operation with its arguments, the clock reading
it was made at and the order in which the process's hash maps hand out their keys
during it; `restart` is a snapshot followed by reading it back. A state is
reachable when some run of events leads to it from an empty ledger. -/
namespace Gateway.Execution
open Data Device

/-- A call of one public operation. -/
inductive LedgerEvent where
  | prepareWithMetadata (operation : OperationRef) (owner : OperationOwner)
      (capability : DeviceCapability) (metadata : OperationAdmissionMetadata) (nowMs : Nat)
  | markDispatchedWithBinding (operationId : String) (owner : OperationOwner)
      (deviceGeneration : Nat) (dispatchBinding : Option OperationDispatchBinding) (nowMs : Nat)
  | requestCancel (order : IterationOrder) (operationId : String) (owner : OperationOwner)
      (deviceGeneration nowMs : Nat)
  | finalize (order : IterationOrder) (operationId : String) (owner : OperationOwner)
      (deviceGeneration : Nat) (terminalState : HubOperationState) (evidence : ExecutionEvidence)
      (nowMs : Nat)
  | resolveHubPreEnqueueNonDelivery (order : IterationOrder) (operationId : String)
      (owner : OperationOwner) (deviceGeneration : Nat) (dispatchBinding : OperationDispatchBinding)
      (evidence : ExecutionEvidence) (nowMs : Nat)
  | markIndeterminate (order : IterationOrder) (operationId : String) (owner : OperationOwner)
      (deviceGeneration : Nat) (reason : IndeterminateReason) (nowMs : Nat)
  | markRecoveryReadInterrupted (order : IterationOrder) (operationId : String) (nowMs : Nat)
  | markConnectionLost (order : IterationOrder) (operationId : String) (nowMs : Nat)
  | markReconciliationEvidenceGap (operationId : String)
  | markReconciliationOperatorRequired (operationId : String)
  | reconcileAuthoritativeTerminal (order : IterationOrder) (terminal : AgentTerminalEvidence)
      (nowMs : Nat)
  | resolveIndeterminate (order : IterationOrder) (operationId : String) (resolver : OperationOwner)
      (decision : IndeterminateResolution) (evidence : String) (nowMs : Nat)
  | retireIndeterminate (order : IterationOrder) (operationId : String)
      (authority : RetirementAuthority) (requestedPolicy : RetirementPolicy) (reason : String)
      (authorizedDeviceGeneration nowMs : Nat)
  | acceptCurrentState (order : IterationOrder) (operationId : String)
      (requestedPolicy : RetirementPolicy) (reason : String)
      (authorizedDeviceGeneration nowMs : Nat)
  | resumeMutations (deviceId sourceOperationId : String) (authority : RetirementAuthority)
      (authorizedDeviceGeneration : Nat) (reason : String) (nowMs : Nat)
  | attachRecoverableResult (operationId : String) (owner : OperationOwner) (deviceGeneration : Nat)
      (result : RecoverableOperationResult)
  | pruneTerminalBeforeGeneration (deviceId : String) (currentGeneration : Nat)
  | restart (limits : AdmissionLimits)

/-- What a successful call answers. -/
inductive LedgerResponse where
  | done
  | admitted (decision : AdmissionDecision)
  | cancellation (decision : CancellationDecision)
  | completion (next : CompletionDecision)
  | settled (next : CompletionDecision) (receipt : ExecutionReceipt)
  | retired (next : CompletionDecision) (record : RetirementRecord)
  | resumed (record : MutationResumeRecord)
  | pruned (count : Nat)
  deriving DecidableEq

namespace AuthoritativeOperationController

/-- A call that changes nothing when it fails. -/
def attempt {α : Type} (s : AuthoritativeOperationController) (answer : α → LedgerResponse) :
    Except ExecutionError (α × AuthoritativeOperationController) →
      Except ExecutionError LedgerResponse × AuthoritativeOperationController
  | .error e => (.error e, s)
  | .ok (a, s') => (.ok (answer a), s')

/-- A call that returns the ledger beside its answer. -/
def answered {α : Type} (answer : α → LedgerResponse)
    (outcome : Except ExecutionError α × AuthoritativeOperationController) :
    Except ExecutionError LedgerResponse × AuthoritativeOperationController :=
  (outcome.1.map answer, outcome.2)

variable (s : AuthoritativeOperationController)

/-- Snapshot the ledger and read it back. A ledger that cannot be read back stays. -/
def restart (limits : AdmissionLimits) :
    Except ExecutionError LedgerResponse × AuthoritativeOperationController :=
  match s.snapshotForRestart with
  | none => (.error .invalidSnapshot, s)
  | some snapshot =>
    match restoreAfterRestart limits snapshot with
    | .error e => (.error e, s)
    | .ok s' => (.ok .done, s')

/-- One call. -/
def step : LedgerEvent → Except ExecutionError LedgerResponse × AuthoritativeOperationController
  | .prepareWithMetadata operation owner capability metadata nowMs =>
    answered .admitted (s.prepareWithMetadata operation owner capability metadata nowMs)
  | .markDispatchedWithBinding operationId owner deviceGeneration dispatchBinding nowMs =>
    s.attempt (fun _ => .done)
      (s.markDispatchedWithBinding operationId owner deviceGeneration dispatchBinding nowMs)
  | .requestCancel order operationId owner deviceGeneration nowMs =>
    s.attempt .cancellation (s.requestCancel order operationId owner deviceGeneration nowMs)
  | .finalize order operationId owner deviceGeneration terminalState evidence nowMs =>
    s.attempt (fun answer => .settled answer.1 answer.2)
      (s.finalize order operationId owner deviceGeneration terminalState evidence nowMs)
  | .resolveHubPreEnqueueNonDelivery order operationId owner deviceGeneration dispatchBinding
      evidence nowMs =>
    s.attempt (fun answer => .settled answer.1 answer.2)
      (s.resolveHubPreEnqueueNonDelivery order operationId owner deviceGeneration dispatchBinding
        evidence nowMs)
  | .markIndeterminate order operationId owner deviceGeneration reason nowMs =>
    answered .completion
      (s.markIndeterminate order operationId owner deviceGeneration reason nowMs)
  | .markRecoveryReadInterrupted order operationId nowMs =>
    s.attempt (fun answer => .settled answer.1 answer.2)
      (s.markRecoveryReadInterrupted order operationId nowMs)
  | .markConnectionLost order operationId nowMs =>
    answered .completion (s.markConnectionLost order operationId nowMs)
  | .markReconciliationEvidenceGap operationId =>
    s.attempt (fun _ => .done) (s.markReconciliationEvidenceGap operationId)
  | .markReconciliationOperatorRequired operationId =>
    s.attempt (fun _ => .done) (s.markReconciliationOperatorRequired operationId)
  | .reconcileAuthoritativeTerminal order terminal nowMs =>
    s.attempt (fun answer => .settled answer.1 answer.2)
      (s.reconcileAuthoritativeTerminal order terminal nowMs)
  | .resolveIndeterminate order operationId resolver decision evidence nowMs =>
    s.attempt (fun answer => .settled answer.1 answer.2)
      (s.resolveIndeterminate order operationId resolver decision evidence nowMs)
  | .retireIndeterminate order operationId authority requestedPolicy reason
      authorizedDeviceGeneration nowMs =>
    answered (fun answer => .retired answer.1 answer.2)
      (s.retireIndeterminate order operationId authority requestedPolicy reason
        authorizedDeviceGeneration nowMs)
  | .acceptCurrentState order operationId requestedPolicy reason authorizedDeviceGeneration nowMs =>
    answered (fun answer => .retired answer.1 answer.2)
      (s.acceptCurrentState order operationId requestedPolicy reason authorizedDeviceGeneration nowMs)
  | .resumeMutations deviceId sourceOperationId authority authorizedDeviceGeneration reason nowMs =>
    s.attempt .resumed
      (s.resumeMutations deviceId sourceOperationId authority authorizedDeviceGeneration reason nowMs)
  | .attachRecoverableResult operationId owner deviceGeneration result =>
    s.attempt (fun _ => .done) (s.attachRecoverableResult operationId owner deviceGeneration result)
  | .pruneTerminalBeforeGeneration deviceId currentGeneration =>
    answered .pruned (s.pruneTerminalBeforeGeneration deviceId currentGeneration)
  | .restart limits => s.restart limits

/-- The ledger after one call. -/
def next (event : LedgerEvent) : AuthoritativeOperationController :=
  (s.step event).2

/-- The call admits a denied id to the recovery lane: its device is quarantined, its
capability only reads, and the ledger no longer has the record. -/
def Readmits : LedgerEvent → Prop
  | .prepareWithMetadata operation _ capability _ _ =>
    s.quarantines[operation.deviceId]? ≠ none ∧ capability.isRecoveryEvidenceReadOnly = true ∧
      operation.operationId ∈ s.admission.retiredIndeterminate ∧
      operation.operationId ∉ s.operations
  | _ => False

/-- A ledger some run of calls leads to. -/
def Reachable : Prop :=
  ∃ (limits : AdmissionLimits) (initial : AuthoritativeOperationController)
    (events : List LedgerEvent), new limits = .ok initial ∧ Machine.run next initial events = s

end AuthoritativeOperationController

end Gateway.Execution
