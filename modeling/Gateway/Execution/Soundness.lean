import Gateway.Execution.Retirement

/-! What every record of the ledger says.

A record keeps the labels it was admitted with; while it is unsettled it carries
no outcome, once settled it carries the receipt that settled it, and while
ambiguous it carries the reason and a status. Each move keeps its record sound,
and a sound settled record can be archived. -/
namespace Gateway.Execution
open Data Device HubOperationState SafetyOperation Table

namespace SafetyOperation

/-- The metadata a record was admitted with. -/
def metadata (r : SafetyOperation) : OperationAdmissionMetadata :=
  ⟨r.audit, r.requestFingerprint, r.evidenceEnvelope, r.recoveryTarget, r.semanticConstraint⟩

/-- A receipt that settles a record. -/
structure SettledBy (r : SafetyOperation) (receipt : ExecutionReceipt) : Prop where
  carried : r.receipt = some receipt
  operation : receipt.operation = r.operation
  owner : receipt.owner = r.owner
  capability : receipt.capability = r.capability
  terminalState : receipt.terminalState = r.state
  fits : r.receiptFits receipt = true
  status : r.reconciliationStatus = none ∨
    r.reconciliationStatus = some .autoResolved ∧ r.dispatchBinding.isSome = true
  result : r.recoverableResult.all (·.isValidFor r.capability r.state) = true

/-- Work nobody can account for. -/
structure Unaccounted (r : SafetyOperation) : Prop where
  receipt : r.receipt = none
  result : r.recoverableResult = none
  reason : r.indeterminateReason.isSome = true
  sent : r.dispatchedAtMs.isSome = true
  status : ∃ status, r.reconciliationStatus = some status ∧
    (status.isUnrecovered = true ∨ status = .autoReconciling ∧ r.dispatchBinding.isSome = true)

structure Sound (r : SafetyOperation) : Prop where
  labelled : r.metadata.isValid r.capability = true
  target : r.recoveryTargetRequired = Execution.recoveryTargetRequired r.capability
  bound : r.dispatchBinding.all (·.isValid) = true
  sent : r.state.isInFlight = true → r.dispatchedAtMs.isSome = true
  pending : r.state.isUnsettled = true →
    r.receipt = none ∧ r.recoverableResult = none ∧ r.reconciliationStatus = none
  settled : r.state.phase = .settled → ∃ receipt, r.SettledBy receipt
  ambiguous : r.state.phase = .ambiguous → r.Unaccounted

variable {r r' : SafetyOperation}

/-- What a record is admitted with and keeps. -/
def labels (r : SafetyOperation) : OperationAdmissionMetadata × DeviceCapability × Bool :=
  (r.metadata, r.capability, r.recoveryTargetRequired)

theorem Sound.of_pending (h : r.Sound) (same : r'.labels = r.labels)
    (bound : r'.dispatchBinding.all (·.isValid) = true) (state : r'.state.isUnsettled = true)
    (sent : r'.state.isInFlight = true → r'.dispatchedAtMs.isSome = true)
    (clean : r'.receipt = none ∧ r'.recoverableResult = none ∧ r'.reconciliationStatus = none) :
    r'.Sound := by
  simp only [labels, Prod.mk.injEq] at same
  obtain ⟨metadata, capability, target⟩ := same
  have phase := (isUnsettled_iff _).mp state
  exact {
    labelled := by rw [metadata, capability]; exact h.labelled
    target := by rw [target, capability]; exact h.target
    bound := bound
    sent := sent
    pending := fun _ => clean
    settled := fun settled => by simp [settled] at phase
    ambiguous := fun ambiguous => by simp [ambiguous] at phase}

theorem Sound.of_settled (h : r.Sound) (same : r'.labels = r.labels)
    (bound : r'.dispatchBinding = r.dispatchBinding) (phase : r'.state.phase = .settled)
    {receipt : ExecutionReceipt} (settled : r'.SettledBy receipt) : r'.Sound := by
  simp only [labels, Prod.mk.injEq] at same
  obtain ⟨metadata, capability, target⟩ := same
  exact {
    labelled := by rw [metadata, capability]; exact h.labelled
    target := by rw [target, capability]; exact h.target
    bound := by rw [bound]; exact h.bound
    sent := fun sent => by simp [phase_of_isInFlight sent] at phase
    pending := fun pending => by
      rw [not_unsettled_of_phase phase (by decide) (by decide)] at pending
      cases pending
    settled := fun _ => ⟨receipt, settled⟩
    ambiguous := fun ambiguous => by simp [ambiguous] at phase}

theorem Sound.of_ambiguous (h : r.Sound) (same : r'.labels = r.labels)
    (bound : r'.dispatchBinding = r.dispatchBinding) (phase : r'.state.phase = .ambiguous)
    (unaccounted : r'.Unaccounted) : r'.Sound := by
  simp only [labels, Prod.mk.injEq] at same
  obtain ⟨metadata, capability, target⟩ := same
  exact {
    labelled := by rw [metadata, capability]; exact h.labelled
    target := by rw [target, capability]; exact h.target
    bound := by rw [bound]; exact h.bound
    sent := fun sent => by simp [phase_of_isInFlight sent] at phase
    pending := fun pending => by
      rw [not_unsettled_of_phase phase (by decide) (by decide)] at pending
      cases pending
    settled := fun settled => by simp [settled] at phase
    ambiguous := fun _ => unaccounted}

/-! ### The transformations of a record -/

variable {state : HubOperationState} {evidence : ExecutionEvidence}

theorem sound_preparedRecord (operation : OperationRef) (owner : OperationOwner)
    (lane : OperationExecutionLane) {capability : DeviceCapability}
    {metadata : OperationAdmissionMetadata} (nowMs : Nat)
    (valid : metadata.isValid capability = true)
    (state_eq : state = .activeNotDispatched ∨ state = .queued) :
    (AuthoritativeOperationController.preparedRecord operation owner capability lane state metadata
      nowMs).Sound := by
  constructor
  case labelled => exact valid
  case target => rfl
  case bound => rfl
  case pending => exact fun _ => ⟨rfl, rfl, rfl⟩
  all_goals
    intro absurd_state
    rcases state_eq with rfl | rfl <;> cases absurd_state

theorem Sound.activate (h : r.Sound) (waited : r.state.phase = .waiting) :
    {r with state := .activeNotDispatched}.Sound :=
  h.of_pending rfl h.bound rfl (fun sent => by cases sent)
    (h.pending ((isUnsettled_iff _).mpr (.inl waited)))

theorem Sound.dispatch (h : r.Sound) {binding : Option OperationDispatchBinding} (nowMs : Nat)
    (valid : binding.all (·.isValid) = true) (ready : r.state = .activeNotDispatched) :
    (r.dispatch binding nowMs).Sound := by
  have clean := h.pending (by rw [ready]; rfl)
  exact h.of_pending rfl valid rfl (fun _ => rfl) ⟨clean.1, clean.2.1, rfl⟩

theorem isUnsettled_of_isInFlight (sent : state.isInFlight = true) : state.isUnsettled = true :=
  (isUnsettled_iff _).mpr (.inr (phase_of_isInFlight sent))

theorem Sound.requestCancel (h : r.Sound) (sent : r.state.isInFlight = true) :
    {r with state := .cancelRequested}.Sound :=
  h.of_pending rfl h.bound rfl (fun _ => h.sent sent) (h.pending (isUnsettled_of_isInFlight sent))

/-- Evidence that any record may be settled with. -/
theorem receiptFits_of_plain {receipt : ExecutionReceipt}
    (read : receipt.evidence ≠ .recoveryReadInterrupted)
    (sent : receipt.evidence.isPreEnqueue = false) : r.receiptFits receipt = true := by
  simp [receiptFits, read, sent]

theorem Sound.cancelBeforeDispatch (h : r.Sound) (nowMs : Nat) (pending : r.state.isUnsettled = true) :
    (r.cancelBeforeDispatch nowMs).Sound := by
  obtain ⟨-, result, status⟩ := h.pending pending
  exact h.of_settled rfl rfl rfl {
    carried := rfl
    operation := rfl
    owner := rfl
    capability := rfl
    terminalState := rfl
    fits := receiptFits_of_plain (by simp [receiptFor]) rfl
    status := .inl status
    result := by
      show r.recoverableResult.all _ = true
      rw [result]
      rfl}

/-- The Agent's evidence is never the Hub's own. -/
theorem plain_of_pair (pair : authoritativeAgentTerminalPair state evidence = true) :
    evidence ≠ .recoveryReadInterrupted ∧ evidence.isPreEnqueue = false := by
  cases state <;> cases evidence <;> cases pair <;> decide

theorem Sound.finalize (h : r.Sound) (nowMs : Nat) (sent : r.state.isInFlight = true)
    (pair : authoritativeAgentTerminalPair state evidence = true) :
    (r.finalize state evidence nowMs).Sound := by
  obtain ⟨-, result, status⟩ := h.pending (isUnsettled_of_isInFlight sent)
  obtain ⟨read, enqueued⟩ := plain_of_pair pair
  exact h.of_settled rfl rfl
    ((isTerminal_iff _).mp (isTerminal_of_authoritativeAgentTerminalPair pair)) {
      carried := rfl
      operation := rfl
      owner := rfl
      capability := rfl
      terminalState := rfl
      fits := receiptFits_of_plain read enqueued
      status := .inl status
      result := by
        show r.recoverableResult.all _ = true
        rw [result]
        rfl}

theorem Sound.neverEnqueued (h : r.Sound) {binding : OperationDispatchBinding} (nowMs : Nat)
    (normal : r.executionLane = .normal) (bound : r.dispatchBinding = some binding)
    (proof : evidence.isPreEnqueue = true) : (r.neverEnqueued evidence nowMs).Sound := by
  have read : evidence ≠ .recoveryReadInterrupted := by
    rintro rfl
    cases proof
  exact h.of_settled rfl rfl rfl {
    carried := rfl
    operation := rfl
    owner := rfl
    capability := rfl
    terminalState := rfl
    fits := by simp [receiptFits, SafetyOperation.neverEnqueued, receiptFor, read, normal, bound]
    status := .inr ⟨rfl, by simp [SafetyOperation.neverEnqueued, bound]⟩
    result := rfl}

theorem Sound.interruptRead (h : r.Sound) (nowMs : Nat)
    (read : r.executionLane = .recoveryEvidenceRead) : (r.interruptRead nowMs).Sound :=
  h.of_settled rfl rfl rfl {
    carried := rfl
    operation := rfl
    owner := rfl
    capability := rfl
    terminalState := rfl
    fits := by
      simp [receiptFits, SafetyOperation.interruptRead, receiptFor, read, ExecutionEvidence.isPreEnqueue]
    status := .inl rfl
    result := rfl}

/-- Work is only left to the Agent when its dispatch is on record. -/
theorem defaultReconciliationStatus_cases (reason : Option IndeterminateReason)
    (binding : Option OperationDispatchBinding) :
    (defaultReconciliationStatus reason binding).isUnrecovered = true ∨
      defaultReconciliationStatus reason binding = .autoReconciling ∧ binding.isSome = true := by
  unfold defaultReconciliationStatus
  split
  · next known =>
    simp only [Bool.and_eq_true] at known
    exact .inr ⟨rfl, known.1⟩
  · exact .inl rfl

theorem Sound.becomeAmbiguous (h : r.Sound) (reason : IndeterminateReason)
    (sent : r.state.isInFlight = true) : (r.becomeAmbiguous reason).Sound :=
  h.of_ambiguous rfl rfl rfl {
    receipt := rfl
    result := rfl
    reason := rfl
    sent := h.sent sent
    status := ⟨_, rfl, defaultReconciliationStatus_cases (some reason) r.dispatchBinding⟩}

/-- An ambiguous record left to a human. -/
theorem Sound.unrecovered (h : r.Sound) (ambiguous : r.state = .indeterminate)
    {status : ReconciliationStatus} (unrecovered : status.isUnrecovered = true) :
    {r with reconciliationStatus := some status}.Sound := by
  have phase : r.state.phase = .ambiguous := by rw [ambiguous]; rfl
  have was := h.ambiguous phase
  exact h.of_ambiguous rfl rfl phase {was with status := ⟨status, rfl, .inl unrecovered⟩}

theorem Sound.reconcile (h : r.Sound) {terminal : AgentTerminalEvidence} (nowMs : Nat)
    (valid : terminal.isValid = true) (bound : r.dispatchBinding = some terminal.dispatchBinding) :
    (r.reconcile terminal nowMs).Sound := by
  simp only [AgentTerminalEvidence.isValid, Bool.and_eq_true] at valid
  obtain ⟨read, enqueued⟩ := plain_of_pair valid.2
  exact h.of_settled rfl rfl
    ((isTerminal_iff _).mp (isTerminal_of_authoritativeAgentTerminalPair valid.2)) {
      carried := rfl
      operation := rfl
      owner := rfl
      capability := rfl
      terminalState := rfl
      fits := receiptFits_of_plain read enqueued
      status := .inr ⟨rfl, by simp [SafetyOperation.reconcile, bound]⟩
      result := rfl}

theorem Sound.resolve (h : r.Sound) (decision : IndeterminateResolution) (nowMs : Nat)
    (ambiguous : r.state = .indeterminate) :
    (r.resolve (HubAdmissionController.resolvedState decision) nowMs).Sound := by
  have was := h.ambiguous (by rw [ambiguous]; rfl)
  exact h.of_settled rfl rfl (by cases decision <;> rfl) {
    carried := rfl
    operation := rfl
    owner := rfl
    capability := rfl
    terminalState := rfl
    fits := receiptFits_of_plain (by simp [receiptFor]) rfl
    status := .inl rfl
    result := by
      show r.recoverableResult.all _ = true
      rw [was.result]
      rfl}

/-- A receipt marks a settled record. -/
theorem Sound.settled_of_receipt (h : r.Sound) (receipt : r.receipt.isSome = true) :
    r.state.phase = .settled := by
  cases phase : r.state.phase with
  | settled => rfl
  | ambiguous => simp [(h.ambiguous phase).receipt] at receipt
  | waiting =>
    simp [(h.pending ((isUnsettled_iff _).mpr (.inl phase))).1] at receipt
  | running =>
    simp [(h.pending ((isUnsettled_iff _).mpr (.inr phase))).1] at receipt

theorem Sound.attach (h : r.Sound) {result : RecoverableOperationResult}
    (receipt : r.receipt.isSome = true) (valid : result.isValidFor r.capability r.state = true) :
    {r with recoverableResult := some result}.Sound := by
  have phase := h.settled_of_receipt receipt
  obtain ⟨receipt, settled⟩ := h.settled phase
  exact h.of_settled rfl rfl phase {settled with result := valid}

end SafetyOperation

namespace AuthoritativeOperationController
variable {care : Care} {s s' : AuthoritativeOperationController} {id : String}
  {r r' : SafetyOperation}

/-! ### All records -/

/-- Every record is sound. -/
def RecordsSound (s : AuthoritativeOperationController) : Prop :=
  ∀ (id : String) (r : SafetyOperation), s.operations[id]? = some r → r.Sound

theorem recordsSound_empty (limits : AdmissionLimits) : (empty limits).RecordsSound := by
  intro id r found
  simp [empty] at found

theorem RecordsSound.change (h : s.RecordsSound) (m : Change s s' id r') (sound : r'.Sound) :
    s'.RecordsSound := by
  intro a x found
  rw [m.operations, get_insert] at found
  split at found
  · exact Option.some.inj found ▸ sound
  · exact h a x found

theorem RecordsSound.forget (h : s.RecordsSound) {gone : String → Bool} (m : Forget s s' gone) :
    s'.RecordsSound := by
  intro a x found
  rw [m.operations] at found
  split at found
  · cases found
  · exact h a x found

/-- Every move keeps the records sound. -/
theorem RecordsSound.move (h : s.RecordsSound) (m : Move care s s') : s'.RecordsSound := by
  cases m with
  | touch same _ => exact h.forget same
  | start _ _ _ _ _ _ admissible _ _ moved _ =>
    exact h.change moved.toChange
      (sound_preparedRecord _ _ _ _ admissible.valid (.inl rfl))
  | enqueue _ _ _ _ _ admissible _ _ moved _ =>
    exact h.change moved.toChange
      (sound_preparedRecord _ _ _ _ admissible.valid (.inr rfl))
  | promote _ _ moved _ => exact h.change moved.toChange ((h _ _ moved.old).activate moved.waited)
  | dispatch _ _ _ nowMs ready valid _ moved _ =>
    exact h.change moved.toChange ((h _ _ moved.old).dispatch nowMs valid ready)
  | requestCancel _ _ sent moved _ =>
    exact h.change moved.toChange ((h _ _ moved.old).requestCancel sent)
  | cancelWaiting _ _ nowMs moved _ =>
    exact h.change moved.toChange ((h _ _ moved.old).cancelBeforeDispatch nowMs
      ((isUnsettled_iff _).mpr (.inl moved.waited)))
  | cancelUndispatched _ _ nowMs _ moved _ =>
    exact h.change moved.toChange ((h _ _ moved.old).cancelBeforeDispatch nowMs
      ((isUnsettled_iff _).mpr (.inr moved.running)))
  | finalize _ _ _ _ nowMs sent pair moved _ =>
    exact h.change moved.toChange ((h _ _ moved.old).finalize nowMs sent pair)
  | neverEnqueued _ _ _ _ nowMs _ normal bound proof _ _ moved _ =>
    exact h.change moved.toChange ((h _ _ moved.old).neverEnqueued nowMs normal bound proof)
  | interruptRead _ _ nowMs _ read moved _ =>
    exact h.change moved.toChange ((h _ _ moved.old).interruptRead nowMs read)
  | quarantine _ _ reason _ sent moved _ =>
    exact h.change moved.toChange ((h _ _ moved.old).becomeAmbiguous reason sent)
  | evidenceGap _ _ ambiguous _ moved _ =>
    exact h.change moved.toChange ((h _ _ moved.old).unrecovered ambiguous rfl)
  | operatorRequired _ _ ambiguous _ moved _ =>
    exact h.change moved.toChange ((h _ _ moved.old).unrecovered ambiguous rfl)
  | reconcile _ _ nowMs _ _ valid _ bound _ moved _ =>
    exact h.change moved.toChange ((h _ _ moved.old).reconcile nowMs valid bound)
  | resolve _ _ resolution ambiguous _ moved _ =>
    exact h.change moved.toChange
      ((h _ _ moved.old).resolve resolution.decision resolution.resolvedAtMs ambiguous)
  | retire _ _ _ _ _ _ _ _ _ moved _ =>
    intro a x found
    rw [moved.operations] at found
    exact h a x found
  | rotate _ _ _ _ moved _ => exact h.forget moved
  | resume _ _ _ _ _ _ _ _ _ _ _ same _ => exact h.forget same
  | attach _ _ _ settled valid _ moved _ =>
    exact h.change moved.toChange ((h _ _ moved.old).attach settled valid)
  | prune _ _ _ _ _ moved _ => exact h.forget moved

theorem RecordsSound.moves (h : s.RecordsSound) (m : Moves care s s') : s'.RecordsSound :=
  m.invariant RecordsSound.move h

/-! ### Pruning -/

/-- A sound settled record with a result has a valid archive entry. -/
theorem archivedFor_valid (sound : r.Sound) (result : r.recoverableResult.isSome = true)
    (terminal : r.state.isTerminal = true) :
    ∃ archived, archivedFor r = .ok archived ∧ archived.isValid = true ∧
      archived.operation = r.operation := by
  obtain ⟨receipt, settled⟩ := sound.settled ((isTerminal_iff _).mp terminal)
  obtain ⟨value, carried⟩ := Option.isSome_iff_exists.mp result
  have valid := settled.result
  have labelled := sound.labelled
  simp only [OperationAdmissionMetadata.isValid, metadata, Bool.and_eq_true] at labelled
  rw [carried, Option.all_some] at valid
  refine ⟨⟨r.operation, r.owner, r.capability, r.state, receipt, value, r.semanticConstraint⟩,
    by simp only [archivedFor, settled.carried, carried], ?_, rfl⟩
  simp [ArchivedOperationRecovery.isValid, terminal, valid, settled.operation, settled.owner,
    settled.capability, settled.terminalState, labelled.2]

/-- Valid entries are all archived. -/
theorem archiveEach_ok (entries : List ArchivedOperationRecovery)
    (valid : ∀ archived ∈ entries, archived.isValid = true) (archive : Table ArchivedOperationRecovery) :
    archiveEach entries archive = (.ok (), entries.foldl
      (fun archive archived => archive.insert archived.operation.operationId archived) archive) := by
  induction entries generalizing archive with
  | nil => rfl
  | cons archived rest ih =>
    rw [archiveEach, if_neg (not_not.mpr (valid archived List.mem_cons_self)),
      ih fun x mem => valid x (List.mem_cons_of_mem _ mem)]
    rfl

theorem isTerminal_of_isPrunable {deviceId : String} {currentGeneration : Nat}
    (prunable : isPrunable deviceId currentGeneration r = true) : r.state.isTerminal = true := by
  simp only [isPrunable, Bool.and_eq_true] at prunable
  exact prunable.2

/-- Old settled records leave both ledgers together. -/
theorem Coherent.forget_pruned (h : s.Coherent) (deviceId : String) (currentGeneration : Nat)
    {removed : Nat} {admission : HubAdmissionController}
    (pruned : s.admission.pruneTerminalBeforeGeneration deviceId currentGeneration =
      .ok (removed, admission)) (archive : Table ArchivedOperationRecovery) :
    Forget s {s with
      recoveryArchive := archive
      admission := admission
      operations := s.operations.filter fun _ record => !isPrunable deviceId currentGeneration record}
      fun a => s.operations[a]?.any (isPrunable deviceId currentGeneration) := by
  obtain ⟨-, pruned⟩ := Result.guard_eq_ok.mp pruned
  cases pruned
  have seen : ∀ a : String, s.admission.operations[a]?.any
      (HubAdmissionController.isPrunable deviceId currentGeneration) =
        s.operations[a]?.any (isPrunable deviceId currentGeneration) := by
    intro a
    rw [h.mirrored, Option.any_map]
    rfl
  constructor
  case operations =>
    intro a
    rw [Std.ExtTreeMap.getElem?_filter']
    cases s.operations[a]? with
    | none => simp
    | some x => cases old : isPrunable deviceId currentGeneration x <;> simp [old]
  case admitted =>
    intro a
    rw [Std.ExtTreeMap.getElem?_filter', ← seen]
    cases s.admission.operations[a]? with
    | none => simp
    | some x => cases old : HubAdmissionController.isPrunable deviceId currentGeneration x <;> simp [old]
  case idle =>
    intro a x old found
    rw [found] at old
    exact .inl ((isTerminal_iff _).mp (isTerminal_of_isPrunable old))
  case recovery =>
    intro a
    rw [mem_names_filter, decide_eq_true_eq, not_mem_iff_get,
      Std.ExtTreeMap.getElem?_filter', ← seen]
    cases s.admission.operations[a]? with
    | none => simp
    | some x => cases old : HubAdmissionController.isPrunable deviceId currentGeneration x <;> simp [old]
  all_goals first | rfl | exact fun _ => rfl

/-- Pruning changes nothing, or is a move. -/
theorem Coherent.prune_cases (h : s.Coherent) (sound : s.RecordsSound) (deviceId : String)
    (currentGeneration : Nat) (allowed : care.prunes deviceId currentGeneration) :
    (∃ e, s.pruneTerminalBeforeGeneration deviceId currentGeneration = (.error e, s)) ∨
      ∃ removed s', s.pruneTerminalBeforeGeneration deviceId currentGeneration = (.ok removed, s') ∧
        Move care s s' := by
  unfold pruneTerminalBeforeGeneration
  split
  · exact .inl ⟨_, rfl⟩
  · next named =>
    right
    set settled := s.operations.values.filter fun record =>
      isPrunable deviceId currentGeneration record && record.recoverableResult.isSome with settled_eq
    have archivable : ∀ record ∈ settled, ∃ archived, archivedFor record = .ok archived ∧
        archived.isValid = true := by
      intro record mem
      rw [List.mem_filter, Bool.and_eq_true, mem_values] at mem
      obtain ⟨⟨a, found⟩, prunable, result⟩ := mem
      obtain ⟨archived, eq, valid, -⟩ := archivedFor_valid (sound a record found) result
        (isTerminal_of_isPrunable prunable)
      exact ⟨archived, eq, valid⟩
    have each := archiveEach_ok (settled.filterMap fun record => (archivedFor record).toOption)
      (by
        intro archived mem
        obtain ⟨record, mem, eq⟩ := List.mem_filterMap.mp mem
        obtain ⟨archived', eq', valid⟩ := archivable record mem
        rw [eq', Except.toOption, Option.some.injEq] at eq
        exact eq ▸ valid) s.recoveryArchive
    have mapped := Result.mapM_eq_ok fun record mem =>
      (archivable record mem).imp fun _ both => both.1
    simp only [mapped, each]
    cases pruned : s.admission.pruneTerminalBeforeGeneration deviceId currentGeneration with
    | error e =>
      unfold HubAdmissionController.pruneTerminalBeforeGeneration at pruned
      rw [if_neg named] at pruned
      cases pruned
    | ok answer =>
      exact ⟨answer.1, _, rfl, .prune deviceId currentGeneration _ each allowed
        (h.forget_pruned deviceId currentGeneration pruned _) rfl⟩

end AuthoritativeOperationController

end Gateway.Execution
