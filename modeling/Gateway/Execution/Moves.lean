import Gateway.Execution.Coherence
import Gateway.Execution.Ledger
import Mathlib.Logic.Relation

/-! Every transition as a sequence of moves.

A `Move` changes one record in both ledgers together, or forgets settled ones,
and says what else it does to the histories kept aside. The operations of the
ledger touch the two tables at different moments; here each one is shown to be,
on a coherent ledger, a sequence of moves. Whatever every move keeps, every
operation keeps. -/
namespace Gateway.Execution
open Data Device

/-- The histories beside the two ledgers. -/
structure Aside where
  recoveryArchive : Table ArchivedOperationRecovery
  resolutions : List ResolutionRecord
  autoResolutions : List AutoResolutionRecord
  retirements : List RetirementRecord
  mutationResumeBarriers : Table MutationResumeBarrier
  mutationResumes : List MutationResumeRecord

namespace AuthoritativeOperationController

variable (s : AuthoritativeOperationController)

def aside : Aside :=
  ⟨s.recoveryArchive, s.resolutions, s.autoResolutions, s.retirements, s.mutationResumeBarriers,
    s.mutationResumes⟩

/-- The automatic settlement of a record. -/
def autoResolutionOf (r : SafetyOperation) (terminalState : HubOperationState)
    (evidence : ExecutionEvidence) (binding : OperationDispatchBinding) (nowMs : Nat) :
    AutoResolutionRecord :=
  ⟨r.operation, r.capability, terminalState, evidence, binding, nowMs⟩

/-- An id the admission checks let through. -/
structure Admissible (s : AuthoritativeOperationController) (operation : OperationRef)
    (capability : DeviceCapability) (metadata : OperationAdmissionMetadata) : Prop where
  named : isBlank operation.operationId = false
  placed : isBlank operation.deviceId = false
  unarchived : s.recoveryArchive[operation.operationId]? = none
  unlisted : ∀ retirement ∈ s.retirements, retirement.operation.operationId ≠ operation.operationId
  valid : metadata.isValid capability = true
  unbarred : capability.capabilityClass = .observe ∨
    s.mutationResumeBarriers[operation.deviceId]? = none

/-- No operation of this id was settled automatically before. -/
def Unfiled (id : String) : Prop :=
  ∀ resolution ∈ s.autoResolutions, resolution.operation.operationId ≠ id

/-- A recovery read is sent without binding, other work only where no barrier is up. -/
def Sendable (r : SafetyOperation) (binding : Option OperationDispatchBinding) : Prop :=
  (r.executionLane = .recoveryEvidenceRead → binding = none) ∧
    (r.executionLane = .normal → s.mutationResumeBarriers[r.operation.deviceId]? = none)

/-- A full history of automatic settlements drops an entry whose record is gone. -/
def Spare : Prop :=
  ∀ oldest ∈ s.autoResolutions.head?, maxAutoResolutionRecords ≤ s.autoResolutions.length →
    s.operations[oldest.operation.operationId]? = none

/-- No operator settled an operation of this id before. -/
def Unresolved (id : String) : Prop :=
  ∀ resolution ∈ s.resolutions, resolution.operationId ≠ id

/-- A detailed retirement of this id already says that an operator is required. -/
def AsRetired (id : String) : Prop :=
  ∀ retirement ∈ s.retirements, retirement.operation.operationId = id →
    retirement.priorReconciliationStatus = .operatorRequired

end AuthoritativeOperationController

/-- What is known of the moves of one call. -/
structure Care where
  /-- Each keeps to what a ledger needs to be read back. -/
  legible : Prop
  /-- Each files an automatic settlement once and beside the record it settles. -/
  filing : Prop
  /-- None takes over work that was retired as something else. -/
  freezing : Prop
  /-- One of them may retire an operation. -/
  retires : Prop
  /-- One of them may attach a result to this operation. -/
  attaches : String → Prop
  /-- One of them may forget what this device settled before this generation. -/
  prunes : String → Nat → Prop
  /-- One of them may lift the barrier of this device. -/
  resumes : String → Prop

/-- Every move is made with all care. -/
structure Care.Whole (care : Care) : Prop where
  legible : care.legible
  filing : care.filing
  freezing : care.freezing

/-- Nothing is known. -/
def Care.none : Care :=
  ⟨False, False, False, True, fun _ => True, fun _ _ => True, fun _ => True⟩

/-- All care is taken, and otherwise nothing is known. -/
def Care.whole : Care :=
  {Care.none with legible := True, filing := True, freezing := True}

namespace AuthoritativeOperationController

/-- One move of the ledger. -/
inductive Move (care : Care) (s s' : AuthoritativeOperationController) : Prop where
  /-- A queue entry is made or dropped empty. -/
  | touch (same : Forget s s' fun _ => false) (aside : s'.aside = s.aside)
  | start (operation : OperationRef) (owner : OperationOwner) (capability : DeviceCapability)
      (lane : OperationExecutionLane) (metadata : OperationAdmissionMetadata) (nowMs : Nat)
      (admissible : s.Admissible operation capability metadata)
      (fresh : care.legible → operation.operationId ∉ s.admission.retiredIndeterminate)
      (unfiled : care.filing → s.Unfiled operation.operationId)
      (moved : Start s s' operation.operationId
        (preparedRecord operation owner capability lane .activeNotDispatched metadata nowMs))
      (aside : s'.aside = s.aside)
  | enqueue (operation : OperationRef) (owner : OperationOwner) (capability : DeviceCapability)
      (metadata : OperationAdmissionMetadata) (nowMs : Nat)
      (admissible : s.Admissible operation capability metadata)
      (fresh : care.legible → operation.operationId ∉ s.admission.retiredIndeterminate)
      (unfiled : care.filing → s.Unfiled operation.operationId)
      (moved : Enqueue s s' operation.operationId
        (preparedRecord operation owner capability .normal .queued metadata nowMs))
      (aside : s'.aside = s.aside)
  | promote (id : String) (r : SafetyOperation) (moved : Promote s s' id r {r with state := .activeNotDispatched})
      (aside : s'.aside = s.aside)
  | dispatch (id : String) (r : SafetyOperation) (binding : Option OperationDispatchBinding)
      (nowMs : Nat) (ready : r.state = .activeNotDispatched)
      (valid : binding.all (·.isValid) = true) (sendable : care.legible → s.Sendable r binding)
      (moved : Restate s s' id r (r.dispatch binding nowMs)) (aside : s'.aside = s.aside)
  | requestCancel (id : String) (r : SafetyOperation) (sent : r.state.isInFlight = true)
      (moved : Restate s s' id r {r with state := .cancelRequested}) (aside : s'.aside = s.aside)
  | cancelWaiting (id : String) (r : SafetyOperation) (nowMs : Nat)
      (moved : Dequeue s s' id r (r.cancelBeforeDispatch nowMs)) (aside : s'.aside = s.aside)
  | cancelUndispatched (id : String) (r : SafetyOperation) (nowMs : Nat)
      (ready : r.state = .activeNotDispatched)
      (moved : Vacate s s' id r (r.cancelBeforeDispatch nowMs)) (aside : s'.aside = s.aside)
  | finalize (id : String) (r : SafetyOperation) (terminalState : HubOperationState)
      (evidence : ExecutionEvidence) (nowMs : Nat) (sent : r.state.isInFlight = true)
      (pair : authoritativeAgentTerminalPair terminalState evidence = true)
      (moved : Vacate s s' id r (r.finalize terminalState evidence nowMs))
      (aside : s'.aside = s.aside)
  | neverEnqueued (id : String) (r : SafetyOperation) (binding : OperationDispatchBinding)
      (evidence : ExecutionEvidence) (nowMs : Nat) (sent : r.state = .dispatched)
      (normal : r.executionLane = .normal) (bound : r.dispatchBinding = some binding)
      (proof : evidence.isPreEnqueue = true)
      (bounded : care.legible → r.operation.isBounded = true) (spare : care.filing → s.Spare)
      (moved : Vacate s s' id r (r.neverEnqueued evidence nowMs))
      (aside : s'.aside = {s.aside with
        autoResolutions := pushAutoResolution s.autoResolutions
          (autoResolutionOf r .cancelled evidence binding nowMs)})
  | interruptRead (id : String) (r : SafetyOperation) (nowMs : Nat)
      (sent : r.state.isInFlight = true) (read : r.executionLane = .recoveryEvidenceRead)
      (moved : Vacate s s' id r (r.interruptRead nowMs)) (aside : s'.aside = s.aside)
  | quarantine (id : String) (r : SafetyOperation) (reason : IndeterminateReason) (nowMs : Nat)
      (sent : r.state.isInFlight = true)
      (moved : Quarantine s s' id r (r.becomeAmbiguous reason) (quarantineFor r reason nowMs))
      (aside : s'.aside = s.aside)
  | evidenceGap (id : String) (r : SafetyOperation) (ambiguous : r.state = .indeterminate)
      (waiting : r.reconciliationStatus = some .autoReconciling)
      (moved : Restate s s' id r {r with reconciliationStatus := some .unrecoverableEvidenceGap})
      (aside : s'.aside = s.aside)
  | operatorRequired (id : String) (r : SafetyOperation) (ambiguous : r.state = .indeterminate)
      (asRetired : care.freezing → s.AsRetired id)
      (moved : Restate s s' id r {r with reconciliationStatus := some .operatorRequired})
      (aside : s'.aside = s.aside)
  | reconcile (r : SafetyOperation) (terminal : AgentTerminalEvidence) (nowMs : Nat)
      (ambiguous : r.state = .indeterminate)
      (waiting : r.reconciliationStatus = some .autoReconciling)
      (valid : terminal.isValid = true) (operation : r.operation = terminal.operation)
      (bound : r.dispatchBinding = some terminal.dispatchBinding)
      (spare : care.filing → s.Spare)
      (moved : Unblock s s' terminal.operation.operationId r (r.reconcile terminal nowMs))
      (aside : s'.aside = {s.aside with
        autoResolutions := pushAutoResolution s.autoResolutions
          (autoResolutionOf r terminal.terminalState terminal.evidence terminal.dispatchBinding nowMs)})
  | resolve (id : String) (r : SafetyOperation) (resolution : ResolutionRecord)
      (ambiguous : r.state = .indeterminate) (names : resolution.operationId = id)
      (moved : Unblock s s' id r
        (r.resolve (HubAdmissionController.resolvedState resolution.decision) resolution.resolvedAtMs))
      (aside : s'.aside = {s.aside with resolutions := s.resolutions ++ [resolution]})
  | retire (id : String) (r : SafetyOperation) (retirement : RetirementRecord)
      (transition : RetirementTransition) (allowed : care.retires)
      (unresolved : care.legible → s.Unresolved id ∧ 0 < transition.nowMs)
      (checked : s.retirementFor id transition = .ok retirement)
      (unbarred : retirement.policy = .acknowledgedUnknownPointerClickV1 →
        s.mutationResumeBarriers[retirement.operation.deviceId]? = none)
      (room : s.admission.retiredIndeterminate.size < maxRetiredOperationTombstones)
      (moved : Retire s s' id r)
      (aside : s'.aside = {s.aside with
        retirements := s.retirements ++ [retirement]
        mutationResumeBarriers :=
          if retirement.policy = .acknowledgedUnknownPointerClickV1 then
            s.mutationResumeBarriers.insert retirement.operation.deviceId
              (barrierFor retirement transition.nowMs)
          else s.mutationResumeBarriers})
  | rotate (retired : RetirementRecord) (listed : retired ∈ s.retirements)
      (unheld : s.holdsBarrier retired = false)
      (answered : retired.policy = .acknowledgedUnknownPointerClickV1 →
        s.mutationResumes.any (isResumeOf retired) = true)
      (moved : Forget s s' fun a => a = retired.operation.operationId)
      (aside : s'.aside = {s.aside with
        retirements := s.retirements.erase retired
        mutationResumes :=
          if retired.policy = .acknowledgedUnknownPointerClickV1 then
            s.mutationResumes.eraseP (isResumeOf retired)
          else s.mutationResumes})
  | resume (deviceId : String) (barrier : MutationResumeBarrier) (record : MutationResumeRecord)
      (raised : s.mutationResumeBarriers[deviceId]? = some barrier)
      (source : record.sourceOperationId = barrier.sourceOperationId)
      (device : record.deviceId = barrier.deviceId)
      (accepted : record.acceptedGeneration = barrier.acceptedGeneration)
      (policy : record.policy = barrier.policy) (valid : record.isValid = true)
      (room : s.mutationResumes.length < maxRetirementRecords) (allowed : care.resumes deviceId)
      (same : Forget s s' fun _ => false)
      (aside : s'.aside = {s.aside with
        mutationResumeBarriers := s.mutationResumeBarriers.erase deviceId
        mutationResumes := s.mutationResumes ++ [record]})
  | attach (id : String) (r : SafetyOperation) (result : RecoverableOperationResult)
      (settled : r.receipt.isSome = true) (valid : result.isValidFor r.capability r.state = true)
      (allowed : care.attaches id)
      (moved : Restate s s' id r {r with recoverableResult := some result})
      (aside : s'.aside = s.aside)
  | prune (deviceId : String) (currentGeneration : Nat) (archive : Table ArchivedOperationRecovery)
      (archived : archiveEach
        ((s.operations.values.filter fun record =>
          isPrunable deviceId currentGeneration record && record.recoverableResult.isSome).filterMap
            fun record => (archivedFor record).toOption) s.recoveryArchive = (.ok (), archive))
      (allowed : care.prunes deviceId currentGeneration)
      (moved : Forget s s' fun a =>
        s.operations[a]?.any (isPrunable deviceId currentGeneration))
      (aside : s'.aside = {s.aside with recoveryArchive := boundRecoveryArchive archive.size archive})

/-- A move keeps the two ledgers coherent. -/
theorem Coherent.move {care : Care} {s s' : AuthoritativeOperationController} (h : s.Coherent)
    (m : Move care s s') : s'.Coherent := by
  cases m with
  | touch same _ => exact h.forget same
  | start _ _ _ _ _ _ _ _ _ moved _ => exact h.start moved
  | enqueue _ _ _ _ _ _ _ _ moved _ => exact h.enqueue moved
  | promote _ _ moved _ => exact h.promote moved
  | dispatch _ _ _ _ _ _ _ moved _ => exact h.restate moved
  | requestCancel _ _ _ moved _ => exact h.restate moved
  | cancelWaiting _ _ _ moved _ => exact h.dequeue moved
  | cancelUndispatched _ _ _ _ moved _ => exact h.vacate moved
  | finalize _ _ _ _ _ _ _ moved _ => exact h.vacate moved
  | neverEnqueued _ _ _ _ _ _ _ _ _ _ _ moved _ => exact h.vacate moved
  | interruptRead _ _ _ _ _ moved _ => exact h.vacate moved
  | quarantine _ _ _ _ _ moved _ => exact h.quarantine moved
  | evidenceGap _ _ _ _ moved _ => exact h.restate moved
  | operatorRequired _ _ _ _ moved _ => exact h.restate moved
  | reconcile _ _ _ _ _ _ _ _ _ moved _ => exact h.unblock moved
  | resolve _ _ _ _ _ moved _ => exact h.unblock moved
  | retire _ _ _ _ _ _ _ _ _ moved _ => exact h.retire moved
  | rotate _ _ _ _ moved _ => exact h.forget moved
  | resume _ _ _ _ _ _ _ _ _ _ _ same _ => exact h.forget same
  | attach _ _ _ _ _ _ moved _ => exact h.restate moved
  | prune _ _ _ _ _ moved _ => exact h.forget moved

end AuthoritativeOperationController

end Gateway.Execution
