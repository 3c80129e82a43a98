import Gateway.Execution.Availability

/-! The recovery an operator is told of.

The report on quarantines is made from the Hub's latest checkpoint. It advertises the
retirement of an operation, or the acceptance of the current state, from what it shows of
the operation and from the registry's generation alone, while the ledger checks the whole
record it would keep. -/
namespace Gateway.Maintenance
open Data Device Execution AuthoritativeOperationController

inductive PersistenceError where
  | execution (error : ExecutionError)
  | invalidState

inductive MaintenanceError where
  | persistence (error : PersistenceError)
  | execution (error : ExecutionError)

/-! ### Checkpoints of the Hub -/

/-- A checkpoint of the Hub: each registered device with its generation, and the ledger. -/
structure HubPersistentState where
  registry : Table Nat
  execution : AuthoritativeSafetySnapshot

namespace HubPersistentState

def capture (registry : Table Nat) (execution : AuthoritativeOperationController) :
    Option HubPersistentState :=
  execution.snapshotForRestart.map (HubPersistentState.mk registry)

/-- A retirement was authorized in a later generation than its operation's, which the
registry has reached. -/
def authorizes (registry : Table Nat) (retirement : RetirementRecord) : Bool :=
  registry[retirement.operation.deviceId]?.any fun generation =>
    retirement.authorizedDeviceGeneration ≤ generation &&
      retirement.operation.deviceGeneration < retirement.authorizedDeviceGeneration

def restore (state : HubPersistentState) (limits : AdmissionLimits) :
    Except PersistenceError (Table Nat × AuthoritativeOperationController) :=
  match restoreAfterRestart limits state.execution with
  | .error e => .error (.execution e)
  | .ok execution =>
    if ¬execution.retirements.all (authorizes state.registry) then .error .invalidState
    else .ok (state.registry, execution)

end HubPersistentState

/-! ### The report -/

inductive RecoveryEligibility where
  | ineligiblePolicy | awaitReconciliation | ineligibleMissingDispatchRecord
  | requiresNewerGeneration | eligible
  deriving DecidableEq

/-- Whether a disposition with this policy would be granted, as the report sees it. -/
def recoveryEligibility (policy : Option RetirementPolicy)
    (inspection : QuarantineInspectionSnapshot) (currentDeviceGeneration : Option Nat) :
    RecoveryEligibility :=
  if policy.isNone then .ineligiblePolicy
  else if ¬inspection.reconciliationStatus.isUnrecovered then .awaitReconciliation
  else if inspection.dispatchedAtMs.isNone then .ineligibleMissingDispatchRecord
  else if currentDeviceGeneration.all (· ≤ inspection.operation.deviceGeneration) then
    .requiresNewerGeneration
  else .eligible

def retirementPolicyForCapability (capability : DeviceCapability) : Option RetirementPolicy :=
  offlineRetirementPolicyForCapability capability

inductive RecommendedAction where
  | retireWithLocalMaintenanceAuthorization | acceptCurrentStateWithLocalUserPresence
  | keepQuarantine

structure OperationEvidenceInspection where
  schemaVersion : Nat
  kind : String
  fingerprintPresent : Bool
  payloadBytes : Nat
  payloadChars : Nat
  lineCount : Nat
  endsWithNewline : Bool
  separateSubmitRequested : Bool
  targetKind : String
  targetProcessId : Option Nat
  targetWindowId : Option Nat
  delivery : Option InputDeliveryMode
  delayMs : Option Nat

def textInputTarget : TextInputTargetEvidence → String × Option Nat × Option Nat
  | .unspecified => ("unspecified", none, none)
  | .desktop => ("desktop", none, none)
  | .window processId windowId => ("window", some processId, windowId)
  | .windowPoint processId windowId => ("window_point", some processId, some windowId)
  | .element processId windowId => ("element", some processId, some windowId)

def operationEvidenceInspection (envelope : OperationEvidenceEnvelope) :
    OperationEvidenceInspection :=
  let (targetKind, targetProcessId, targetWindowId) := textInputTarget envelope.target
  { schemaVersion := envelope.schemaVersion
    kind := "text_input"
    fingerprintPresent := envelope.fingerprint.isSome
    payloadBytes := envelope.payloadBytes
    payloadChars := envelope.payloadChars
    lineCount := envelope.lineCount
    endsWithNewline := envelope.endsWithNewline
    separateSubmitRequested := envelope.separateSubmitRequested
    targetKind := targetKind
    targetProcessId := targetProcessId
    targetWindowId := targetWindowId
    delivery := envelope.delivery
    delayMs := envelope.delayMs }

/-- One quarantine as it is told. What is a text of one of these fields alone is left out. -/
structure QuarantineInspection where
  blockingOperationId : String
  deviceId : String
  deviceGeneration : Nat
  currentDeviceGeneration : Option Nat
  capability : DeviceCapability
  audit : OperationAuditMetadata
  requestFingerprintPresent : Bool
  evidenceEnvelope : Option OperationEvidenceInspection
  recoveryTarget : Option OperationRecoveryTarget
  dispatchBindingPresent : Bool
  dispatchRecorded : Bool
  preparedAtMs : Nat
  dispatchedAtMs : Option Nat
  indeterminateAtMs : Nat
  indeterminateReason : IndeterminateReason
  evidence : Option ExecutionEvidence
  reconciliationStatus : ReconciliationStatus
  manualAuditRequired : Bool
  retrySafe : Bool
  retirementEligibility : RecoveryEligibility
  retirementPolicy : Option RetirementPolicy
  currentStateAcceptanceEligibility : RecoveryEligibility
  currentStateAcceptancePolicy : Option RetirementPolicy
  currentStateAcceptanceAuthority : Option RetirementAuthority
  recommendedAction : RecommendedAction

/-- What is told of one quarantine. -/
def quarantineInspectionOf (registry : Table Nat) (inspection : QuarantineInspectionSnapshot) :
    QuarantineInspection :=
  let currentDeviceGeneration := registry[inspection.operation.deviceId]?
  let retirementPolicy := retirementPolicyForCapability inspection.capability
  let retirement := recoveryEligibility retirementPolicy inspection currentDeviceGeneration
  let currentStatePolicy := currentStateAcceptancePolicyForCapability inspection.capability
  let acceptance := recoveryEligibility currentStatePolicy inspection currentDeviceGeneration
  { blockingOperationId := inspection.operation.operationId
    deviceId := inspection.operation.deviceId
    deviceGeneration := inspection.operation.deviceGeneration
    currentDeviceGeneration := currentDeviceGeneration
    capability := inspection.capability
    audit := inspection.audit
    requestFingerprintPresent := inspection.requestFingerprint.isSome ||
      (inspection.evidenceEnvelope.bind OperationEvidenceEnvelope.fingerprint).isSome
    evidenceEnvelope := inspection.evidenceEnvelope.map operationEvidenceInspection
    recoveryTarget := inspection.recoveryTarget
    dispatchBindingPresent := inspection.dispatchBindingPresent
    dispatchRecorded := inspection.dispatchedAtMs.isSome
    preparedAtMs := inspection.preparedAtMs
    dispatchedAtMs := inspection.dispatchedAtMs
    indeterminateAtMs := inspection.indeterminateAtMs
    indeterminateReason := inspection.indeterminateReason
    evidence := inspection.evidence
    reconciliationStatus := inspection.reconciliationStatus
    manualAuditRequired := inspection.reconciliationStatus.isUnrecovered
    retrySafe := false
    retirementEligibility := retirement
    retirementPolicy := retirementPolicy
    currentStateAcceptanceEligibility := acceptance
    currentStateAcceptancePolicy := currentStatePolicy
    currentStateAcceptanceAuthority := currentStatePolicy.map fun _ => .localUserPresence
    recommendedAction :=
      if retirement = .eligible then .retireWithLocalMaintenanceAuthorization
      else if acceptance = .eligible then .acceptCurrentStateWithLocalUserPresence
      else .keepQuarantine }

structure QuarantineInspectionReport where
  quarantines : List QuarantineInspection
  autoResolved : List AutoResolutionRecord

/-- The limits every offline reader of the ledger restores it with. -/
def offlineLimits : AdmissionLimits := ⟨1, 1⟩

/-- The report on the quarantines of a device, or of all devices. -/
def inspectQuarantinesReadOnly (state : HubPersistentState) (deviceId : Option String) :
    Except MaintenanceError QuarantineInspectionReport :=
  match state.restore offlineLimits with
  | .error e => .error (.persistence e)
  | .ok (_, execution) =>
    match execution.quarantineInspections with
    | .error e => .error (.execution e)
    | .ok inspections =>
      .ok {
        quarantines := (inspections.filter fun inspection =>
          deviceId.all (inspection.operation.deviceId = ·)).map (quarantineInspectionOf state.registry)
        autoResolved := execution.autoResolutions.filter fun resolution =>
          deviceId.all (resolution.operation.deviceId = ·) }

/-! ### Advertised and available -/

/-- The report offers a disposition with a policy. -/
def QuarantineInspection.Advertises (entry : QuarantineInspection) (policy : RetirementPolicy) :
    RetirementDisposition → Prop
  | .retired => entry.retirementEligibility = .eligible ∧ entry.retirementPolicy = some policy
  | .currentStateAccepted =>
    entry.currentStateAcceptanceEligibility = .eligible ∧
      entry.currentStateAcceptancePolicy = some policy

/-- The ledger grants an operation a disposition with a policy, in the generation the registry
has for its device. -/
def Grants (s : AuthoritativeOperationController) (registry : Table Nat) (order : IterationOrder)
    (operationId deviceId : String) (policy : RetirementPolicy) (reason : String) (nowMs : Nat)
    (disposition : RetirementDisposition) : Prop :=
  ∃ generation, registry[deviceId]? = some generation ∧ ∃ answer,
    match disposition with
    | .retired => (s.retireIndeterminate order operationId .localMaintenanceOperator policy reason
        generation nowMs).1 = .ok answer
    | .currentStateAccepted =>
      (s.acceptCurrentState order operationId policy reason generation nowMs).1 = .ok answer

theorem recoveryEligibility_eq_eligible {policy : Option RetirementPolicy}
    {inspection : QuarantineInspectionSnapshot} {current : Option Nat} :
    recoveryEligibility policy inspection current = .eligible ↔
      policy.isSome = true ∧ inspection.reconciliationStatus.isUnrecovered = true ∧
      inspection.dispatchedAtMs.isSome = true ∧ ∃ generation, current = some generation ∧
        inspection.operation.deviceGeneration < generation := by
  unfold recoveryEligibility
  cases policy with
  | none => simp
  | some p =>
    cases inspection.dispatchedAtMs with
    | none => cases inspection.reconciliationStatus.isUnrecovered <;> simp
    | some at_ =>
      cases inspection.reconciliationStatus.isUnrecovered with
      | false => simp
      | true => cases current <;> simp

/-- The report offers what the operation's record and the registry allow. -/
theorem advertises_iff (registry : Table Nat) (inspection : QuarantineInspectionSnapshot)
    (policy : RetirementPolicy) (disposition : RetirementDisposition) :
    (quarantineInspectionOf registry inspection).Advertises policy disposition ↔
      disposition.policyFor inspection.capability = some policy ∧
      inspection.reconciliationStatus.isUnrecovered = true ∧
      inspection.dispatchedAtMs.isSome = true ∧
      ∃ generation, registry[inspection.operation.deviceId]? = some generation ∧
        inspection.operation.deviceGeneration < generation := by
  have eligible : ∀ applied : Option RetirementPolicy,
      recoveryEligibility applied inspection registry[inspection.operation.deviceId]? = .eligible ∧
        applied = some policy ↔ applied = some policy ∧
          inspection.reconciliationStatus.isUnrecovered = true ∧
          inspection.dispatchedAtMs.isSome = true ∧
          ∃ generation, registry[inspection.operation.deviceId]? = some generation ∧
            inspection.operation.deviceGeneration < generation := by
    intro applied
    rw [recoveryEligibility_eq_eligible]
    constructor
    · rintro ⟨⟨_, rest⟩, same⟩
      exact ⟨same, rest⟩
    · rintro ⟨same, rest⟩
      exact ⟨⟨by rw [same]; rfl, rest⟩, same⟩
  cases disposition with
  | retired => exact eligible _
  | currentStateAccepted => exact eligible _

section Restored
variable {s : AuthoritativeOperationController} {registry registry' : Table Nat}
  {state : HubPersistentState} {limits : AdmissionLimits}

/-- The ledger grants what the operation's record and the registry allow, if the names of the
operation are bounded. -/
theorem grants_iff (h : s.Tended) (few : s.FewDevices)
    (room : s.admission.retiredIndeterminate.size < maxRetiredOperationTombstones) {d : String}
    {q : DesktopQuarantine} (held : s.quarantines[d]? = some q)
    (unbarred : s.mutationResumeBarriers[d]? = none) {r : SafetyOperation}
    (found : s.operations[q.operationId]? = some r) (order : IterationOrder)
    (policy : RetirementPolicy) {reason : String} (why : validReason reason = true) (nowMs : Nat)
    (disposition : RetirementDisposition) :
    Grants s registry order q.operationId d policy reason nowMs disposition ↔
      ∃ generation, registry[d]? = some generation ∧
        AuthoritativeOperationController.MayRetire
          ⟨disposition, disposition.authority, policy, reason, generation, nowMs⟩ r := by
  refine exists_congr fun generation => and_congr_right fun _ => ?_
  refine Iff.trans ?_ (h.retires_iff few room held unbarred found order why rfl)
  cases disposition with
  | retired =>
    rfl
  | currentStateAccepted => rfl

theorem restore_eq_ok (restored : state.restore limits = .ok (registry, s)) :
    registry = state.registry ∧ restoreAfterRestart limits state.execution = .ok s := by
  unfold HubPersistentState.restore at restored
  split at restored
  · cases restored
  · next read =>
    obtain ⟨-, same⟩ := Result.guard_eq_ok.mp restored
    cases same
    exact ⟨rfl, read⟩

/-- A checkpoint that is read at all leads to the one ledger it can. -/
theorem restored_of_capture (h : s.Tended)
    (reads : (HubPersistentState.capture registry s).any
      (fun state => (state.restore limits).isOk) = true) :
    ∃ state s', HubPersistentState.capture registry s = some state ∧
      state.restore limits = .ok (registry, s') ∧ s' = s.restarted limits := by
  obtain ⟨state, captured, ok⟩ := (Option.any_eq_true _ _).mp reads
  obtain ⟨⟨registry', s'⟩, restored⟩ := Result.exists_of_isOk ok
  obtain ⟨rfl, read⟩ := restore_eq_ok restored
  obtain ⟨snapshot, taken, rfl⟩ := Option.map_eq_some_iff.mp captured
  exact ⟨_, s', captured, restored, h.orderly.restore_eq taken read⟩

theorem inspect_of_restored (restored : state.restore offlineLimits = .ok (registry, s))
    {inspections : List QuarantineInspectionSnapshot}
    (inspected : s.quarantineInspections = .ok inspections) (deviceId : Option String) :
    inspectQuarantinesReadOnly state deviceId = .ok {
      quarantines := (inspections.filter fun inspection =>
        deviceId.all (inspection.operation.deviceId = ·)).map (quarantineInspectionOf state.registry)
      autoResolved := s.autoResolutions.filter fun resolution =>
        deviceId.all (resolution.operation.deviceId = ·) } := by
  unfold inspectQuarantinesReadOnly
  rw [restored]
  dsimp only
  split
  · next failed =>
    rw [inspected] at failed
    cases failed
  · next shown ok =>
    rw [inspected] at ok
    cases ok
    rfl

/-- A ledger that was read has no barrier on a quarantined device. -/
theorem unbarred_of_restored {snapshot : AuthoritativeSafetySnapshot}
    (restored : restoreAfterRestart limits snapshot = .ok s)
    {d : String} {q : DesktopQuarantine} (held : s.quarantines[d]? = some q) :
    s.mutationResumeBarriers[d]? = none := by
  obtain ⟨-, reads⟩ := restoreAfterRestart_eq_ok.mp restored
  rw [Option.eq_none_iff_forall_ne_some]
  intro barrier up
  obtain ⟨mem, here⟩ := (Table.get_collected reads.barriers).mp up
  have fits := (Table.of_collect reads.barriers).1 barrier mem
  simp only [AuthoritativeSafetySnapshot.barrierFits, Bool.and_eq_true, decide_eq_true_eq, here] at fits
  exact fits.2 (Std.ExtTreeMap.mem_iff_isSome_getElem?.mpr (by rw [held]; rfl))

end Restored

/-- What the report says of an operation is what the ledger does, as far as its names are
bounded. -/
def QuarantineInspection.Holds (entry : QuarantineInspection) (registry : Table Nat)
    (s : AuthoritativeOperationController) : Prop :=
  ∃ q r, s.quarantines[entry.deviceId]? = some q ∧ q.operationId = entry.blockingOperationId ∧
    s.operations[entry.blockingOperationId]? = some r ∧
    ∀ disposition policy reason nowMs order, validReason reason = true → 0 < nowMs →
      (Grants s registry order entry.blockingOperationId entry.deviceId policy reason nowMs
          disposition ↔
        entry.Advertises policy disposition ∧ r.operation.isBounded = true)

/-- An entry made of a quarantine holds. -/
theorem holds_of_shown {s : AuthoritativeOperationController} (h : s.Tended) (few : s.FewDevices)
    (room : s.admission.retiredIndeterminate.size < maxRetiredOperationTombstones) {d : String}
    {q : DesktopQuarantine} (held : s.quarantines[d]? = some q)
    (unbarred : s.mutationResumeBarriers[d]? = none) {r : SafetyOperation}
    (found : s.operations[q.operationId]? = some r) (device : r.operation.deviceId = d)
    {shown : QuarantineInspectionSnapshot} (operation : shown.operation = r.operation)
    (capability : shown.capability = r.capability)
    (dispatched : shown.dispatchedAtMs = r.dispatchedAtMs)
    (status : shown.reconciliationStatus = r.reconciliationStatus.getD .operatorRequired)
    (registry : Table Nat) : (quarantineInspectionOf registry shown).Holds registry s := by
  have named : shown.operation.operationId = q.operationId := by
    rw [operation, h.orderly.coherent.keyed _ r found]
  have here : shown.operation.deviceId = d := by
    rw [operation, device]
  refine ⟨q, r, ?_, named.symm, ?_, ?_⟩
  · exact (congrArg (s.quarantines[·]?) here).trans held
  · exact (congrArg (s.operations[·]?) named).trans found
  intro disposition policy reason nowMs order why _
  show Grants s registry order shown.operation.operationId shown.operation.deviceId policy reason
    nowMs disposition ↔ _
  rw [named, here, grants_iff h few room held unbarred found order policy why nowMs disposition,
    advertises_iff, operation, capability, dispatched, status, device]
  constructor
  · rintro ⟨generation, current, may⟩
    exact ⟨⟨may.policy, may.unrecovered, may.dispatched, generation, current, may.newer⟩, may.bounded⟩
  · rintro ⟨⟨applies, unrecovered, dispatched, generation, current, newer⟩, bounded⟩
    exact ⟨generation, current, applies, unrecovered, dispatched, newer, bounded⟩

/-- The ledger restored from a checkpoint of a reachable Hub is reported on. Every quarantine
has its entry. What an entry offers is granted, and nothing else is, exactly as far as the
names of the operation are bounded. Every barrier can be lifted, before and after. -/
theorem advertised_iff_granted {s s' : AuthoritativeOperationController}
    {registry registry' : Table Nat} {state : HubPersistentState}
    (reachable : s.ReachableWithFewDevices)
    (room : s.admission.retiredIndeterminate.size < maxRetiredOperationTombstones)
    (captured : HubPersistentState.capture registry s = some state)
    (restored : state.restore offlineLimits = .ok (registry', s')) (deviceId : Option String) :
    (∃ report, inspectQuarantinesReadOnly state deviceId = .ok report ∧
      (∀ d q, s'.quarantines[d]? = some q → deviceId.all (d = ·) = true →
        ∃ entry ∈ report.quarantines, entry.deviceId = d ∧
          entry.blockingOperationId = q.operationId) ∧
      ∀ entry ∈ report.quarantines, entry.Holds registry s') ∧
    ∀ t, t = s ∨ t = s' → ∀ d barrier, t.mutationResumeBarriers[d]? = some barrier →
      ∀ generation reason nowMs, barrier.acceptedGeneration < generation →
        validReason reason = true → 0 < nowMs →
          ∃ answer, t.resumeMutations d barrier.sourceOperationId .localUserPresence generation
            reason nowMs = .ok answer := by
  obtain ⟨rfl, read⟩ := restore_eq_ok restored
  obtain ⟨snapshot, taken, rfl⟩ := Option.map_eq_some_iff.mp captured
  have tended := reachable.tended
  have same := tended.orderly.restore_eq taken read
  have tended' : s'.Tended := same ▸ tended.restarted _
  have few' : s'.FewDevices := same ▸ reachable.few.restarted _
  have room' : s'.admission.retiredIndeterminate.size < maxRetiredOperationTombstones := by
    rw [same]
    exact room
  have shows : ∀ d q, s'.quarantines[d]? = some q → ∃ shown,
      s'.quarantineInspection q = .ok shown ∧ shown.operation.deviceId = d ∧
      shown.operation.operationId = q.operationId ∧
      (quarantineInspectionOf registry shown).Holds registry s' := by
    intro d q held
    obtain ⟨r, found, -, device, -⟩ := tended'.orderly.quarantined_record held
    obtain ⟨shown, ok, operation, capability, dispatched, status⟩ :=
      tended'.quarantineInspection_ok held found
    refine ⟨shown, ok, by rw [operation, device], ?_, ?_⟩
    · rw [operation, tended'.orderly.coherent.keyed _ r found]
    · exact holds_of_shown tended' few' room' held (unbarred_of_restored read held) found device
        operation capability dispatched status registry
  obtain ⟨inspections, inspected, listed⟩ := tended'.quarantineInspections_ok
  refine ⟨⟨_, inspect_of_restored restored inspected deviceId, ?_, ?_⟩, ?_⟩
  · intro d q held selected
    obtain ⟨shown, ok, device, named, -⟩ := shows d q held
    refine ⟨_, List.mem_map_of_mem (List.mem_filter.mpr ⟨(listed shown).mpr ⟨d, q, held, ok⟩, ?_⟩),
      device, named⟩
    rw [device]
    exact selected
  · intro entry mem
    obtain ⟨shown, filtered, rfl⟩ := List.mem_map.mp mem
    obtain ⟨d, q, held, ok⟩ := (listed shown).mp (List.mem_filter.mp filtered).1
    obtain ⟨shown', ok', -, -, holds⟩ := shows d q held
    rw [ok] at ok'
    cases ok'
    exact holds
  · intro t either d barrier up generation reason nowMs newer why clock
    have tended_t : t.Tended := either.elim (fun eq => eq ▸ tended) fun eq => eq ▸ tended'
    exact tended_t.resume_ok up newer why clock

/-- `desk` has come back since its first generation. -/
def rejoined : Table Nat :=
  (∅ : Table Nat).insert "desk" 2

/-- A scroll of `desk` is sent and lost. -/
def lostScroll (id : String) : AuthoritativeOperationController :=
  Machine.run AuthoritativeOperationController.next (empty ⟨1, 1⟩)
    (sent "desk" id .scroll ++ [lost id])

/-- A name of 43 characters and 129 bytes. -/
def longName : String :=
  "机机机机机机机机机机机机机机机机机机机机机机机机机机机机机机机机机机机机机机机机机机机"

/-- The retirement of the lost scroll is offered, and granted. -/
theorem advertised_iff_granted_lostScroll : ∃ (state : HubPersistentState)
    (s' : AuthoritativeOperationController) (report : QuarantineInspectionReport),
    HubPersistentState.capture rejoined (lostScroll "x") = some state ∧
    state.restore offlineLimits = .ok (rejoined, s') ∧
    inspectQuarantinesReadOnly state none = .ok report ∧
    ∃ entry ∈ report.quarantines, entry.blockingOperationId = "x" ∧ entry.Holds rejoined s' := by
  have reachable : (lostScroll "x").ReachableWithFewDevices :=
    ⟨⟨1, 1⟩, _, _, rfl, by decide +kernel, rfl, by decide +kernel⟩
  obtain ⟨state, s', captured, restored, same⟩ :=
    restored_of_capture reachable.tended
      (show (HubPersistentState.capture rejoined _).any
        (fun state => (state.restore offlineLimits).isOk) = true by decide +kernel)
  obtain ⟨⟨report, reported, complete, holds⟩, -⟩ :=
    advertised_iff_granted reachable (by decide +kernel) captured restored none
  have quarantined : ((lostScroll "x").restarted offlineLimits).quarantines["desk"]?.any
      (fun q => q.operationId = "x") = true := by
    decide +kernel
  rw [← same] at quarantined
  obtain ⟨q, held, named⟩ := (Option.any_eq_true _ _).mp quarantined
  obtain ⟨entry, mem, -, blocking⟩ := complete "desk" q held rfl
  exact ⟨state, s', report, captured, restored, reported, entry, mem,
    blocking.trans (of_decide_eq_true named), holds entry mem⟩

set_option maxRecDepth 100000 in
/-- The retirement of a scroll with a long name is offered, and refused. -/
theorem offered_refused_longName : ∃ (state : HubPersistentState)
    (s' : AuthoritativeOperationController) (report : QuarantineInspectionReport),
    (lostScroll longName).ReachableWithFewDevices ∧
    HubPersistentState.capture rejoined (lostScroll longName) = some state ∧
    state.restore offlineLimits = .ok (rejoined, s') ∧
    inspectQuarantinesReadOnly state none = .ok report ∧
    ∃ entry ∈ report.quarantines, entry.blockingOperationId = longName ∧ entry.deviceId = "desk" ∧
      entry.Advertises .transientUiInteractionV1 .retired ∧
      ¬Grants s' rejoined .given longName "desk" .transientUiInteractionV1 "seen" 1 .retired := by
  have reachable : (lostScroll longName).ReachableWithFewDevices :=
    ⟨⟨1, 1⟩, _, _, rfl, by decide +kernel, rfl, by decide +kernel⟩
  obtain ⟨state, s', captured, restored, same⟩ :=
    restored_of_capture reachable.tended
      (show (HubPersistentState.capture rejoined _).any
        (fun state => (state.restore offlineLimits).isOk) = true by decide +kernel)
  have offered : ((HubPersistentState.capture rejoined (lostScroll longName)).any fun state =>
      (inspectQuarantinesReadOnly state none).toOption.any fun report =>
        report.quarantines.any fun entry =>
          entry.blockingOperationId = longName ∧ entry.deviceId = "desk" ∧
            entry.retirementEligibility = .eligible ∧
            entry.retirementPolicy = some .transientUiInteractionV1) = true := by
    decide +kernel
  have refused : (((lostScroll longName).restarted offlineLimits).retireIndeterminate .given longName
      .localMaintenanceOperator .transientUiInteractionV1 "seen" 2 1).1 =
        .error .invalidTransition := by
    decide +kernel
  rw [captured, Option.any_some] at offered
  obtain ⟨report, reported, listed⟩ := (Option.any_eq_true _ _).mp offered
  obtain ⟨entry, mem, told⟩ := List.any_eq_true.mp listed
  obtain ⟨named, device, eligible, policy⟩ := of_decide_eq_true told
  refine ⟨state, s', report, reachable, captured, restored, ?_, entry, mem, named, device,
    ⟨eligible, policy⟩, ?_⟩
  · cases made : inspectQuarantinesReadOnly state none with
    | error e =>
      rw [made] at reported
      cases reported
    | ok told =>
      rw [made] at reported
      cases reported
      rfl
  · rintro ⟨generation, current, answer, granted⟩
    rw [show rejoined["desk"]? = some 2 by decide +kernel, Option.some.injEq] at current
    subst current
    rw [same, refused] at granted
    cases granted

end Gateway.Maintenance
