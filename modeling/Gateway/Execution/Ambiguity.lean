import Gateway.Execution.Transitions

/-! Becoming ambiguous and ceasing to be.

The admission ledger marks the operation first and the queued work of the device
is cancelled after it; since the two touch different records, the result is the
same as cancelling first and quarantining then, and each of those is a move. -/
namespace Gateway.Execution
open Data Device Result HubAdmissionController HubOperationState SafetyOperation Table

namespace AuthoritativeOperationController
variable {care : Care} {s s' : AuthoritativeOperationController} {id : String}
  {r r' : SafetyOperation}

/-! ### Annotations -/

/-- An annotation of an ambiguous record, which the admission ledger does not see. -/
theorem Coherent.annotate (h : s.Coherent) (old : s.operations[id]? = some r)
    (same : r'.admitted = r.admitted) (lane : r'.executionLane = r.executionLane)
    (capability : r'.capability = r.capability) (owner : r'.owner = r.owner) :
    Restate s {s with operations := s.operations.insert id r'} id r r' := by
  have operation : r'.operation = r.operation := congrArg HubOperation.operation same
  have phase : r'.state.phase = r.state.phase := congrArg (fun op => op.state.phase) same
  rw [← h.restated_unseen old same]
  exact restate_restated _ old phase operation lane capability owner

variable {answer : Unit} {order : IterationOrder} {next : CompletionDecision}
  {admission : HubAdmissionController}

theorem Coherent.evidenceGap_moves (h : s.Coherent)
    (ok : s.markReconciliationEvidenceGap id = .ok (answer, s')) : Moves care s s' := by
  unfold markReconciliationEvidenceGap at ok
  split at ok
  · cases ok
  · next record old =>
    obtain ⟨found, ok⟩ := guard_eq_ok.mp ok
    rw [not_or, not_not, not_not] at found
    cases ok
    exact Move.moves (.evidenceGap id record found.1 found.2 (h.annotate old rfl rfl rfl rfl) rfl)

theorem Coherent.operatorRequired_moves (h : s.Coherent)
    (asRetired : care.freezing → s.AsRetired id)
    (ok : s.markReconciliationOperatorRequired id = .ok (answer, s')) : Moves care s s' := by
  unfold markReconciliationOperatorRequired at ok
  split at ok
  · cases ok
  · next record old =>
    obtain ⟨found, ok⟩ := guard_eq_ok.mp ok
    rw [not_not] at found
    cases ok
    exact Move.moves (.operatorRequired id record found asRetired (h.annotate old rfl rfl rfl rfl) rfl)

theorem Coherent.attach_moves (h : s.Coherent) {owner : OperationOwner} {deviceGeneration : Nat}
    {result : RecoverableOperationResult} (allowed : care.attaches id)
    (ok : s.attachRecoverableResult id owner deviceGeneration result = .ok (answer, s')) :
    Moves care s s' := by
  simp only [attachRecoverableResult, bind_eq_ok, guard_eq_ok] at ok
  obtain ⟨record, checked, accepted, ok⟩ := ok
  obtain ⟨old, -, -⟩ := get_of_checked checked
  simp only [not_or, Option.isNone_iff_eq_none, ← Option.isSome_iff_ne_none, not_not] at accepted
  cases ok
  exact Move.moves (.attach id record result accepted.1 accepted.2.1 allowed
    (h.annotate old rfl rfl rfl rfl) rfl)

/-- Settle the record that blocks a device and free the device, in both ledgers. -/
def unblocked (s : AuthoritativeOperationController) (id : String) (r' : SafetyOperation) :
    AuthoritativeOperationController :=
  {s with
    admission := {s.admission with
      operations := s.admission.operations.insert id r'.admitted
      blockedByIndeterminate := s.admission.blockedByIndeterminate.erase r'.operation.deviceId}
    operations := s.operations.insert id r'
    quarantines := s.quarantines.erase r'.operation.deviceId}

theorem unblock_unblocked (r' : SafetyOperation) (old : s.operations[id]? = some r)
    (ambiguous : r.state = .indeterminate) (settled : r'.state.phase = .settled)
    (blocking : s.admission.blockedByIndeterminate[r.operation.deviceId]? = some id)
    (operation : r'.operation = r.operation) (lane : r'.executionLane = r.executionLane)
    (capability : r'.capability = r.capability) (owner : r'.owner = r.owner) :
    Unblock s (s.unblocked id r') id r r' where
  operations := rfl
  admitted := rfl
  retired := rfl
  limits := rfl
  old := old
  operation := operation
  lane := lane
  capability := capability
  owner := owner
  ambiguous := by rw [ambiguous]; rfl
  settled := settled
  blocking := blocking
  active := rfl
  blocked := by rw [unblocked, operation]
  queues := fun _ => rfl
  recovery := rfl
  quarantines := by rw [unblocked, operation]

/-- A device freed in the authoritative ledger, then the promotion the admission ledger made. -/
theorem Coherent.freed_moves (h : s.Coherent) {s₁ : AuthoritativeOperationController}
    (first : Move care s s₁) (r r' : SafetyOperation) (operation : r'.operation = r.operation)
    (same : s₁.admission = (s.unblocked id r').admission)
    (freed : s.admission.unblock order id r.admitted r'.state = (next, admission)) :
    Moves care s {s₁ with admission := admission, operations := activateNext s₁.operations next} := by
  have second := (h.move first).promoted_moves care order r.operation.deviceId
  have unblock_eq : s.admission.unblock order id r.admitted r'.state =
      s₁.admission.promote order r.operation.deviceId := by
    simp only [same, HubAdmissionController.unblock, HubAdmissionController.setState, unblocked,
      admitted, operation]
  rw [unblock_eq] at freed
  rw [promoted, freed] at second
  exact first.moves.trans second

/-- The record of the operation that blocks a device. -/
theorem Coherent.blocking_of (h : s.Coherent) (old : s.operations[id]? = some r) {op : HubOperation}
    (found : s.admission.blockingOperation id = .ok op) :
    op = r.admitted ∧ s.admission.blockedByIndeterminate[r.operation.deviceId]? = some id := by
  unfold blockingOperation at found
  rw [h.mirrored, old] at found
  simp only [Option.map_some, guard_eq_ok, not_not] at found
  obtain ⟨-, blocking, found⟩ := found
  cases found
  exact ⟨rfl, blocking⟩

theorem Coherent.reconcile_moves (h : s.Coherent) {terminal : AgentTerminalEvidence} {nowMs : Nat}
    {answer : CompletionDecision × ExecutionReceipt}
    (spare : care.filing → ∀ r, s.operations[terminal.operation.operationId]? = some r →
      r.state = .indeterminate → s.Spare)
    (ok : s.reconcileAuthoritativeTerminal order terminal nowMs = .ok (answer, s')) :
    Moves care s s' := by
  obtain ⟨valid, ok⟩ := guard_eq_ok.mp ok
  rw [not_not] at valid
  split at ok
  · cases ok
  · next record old =>
    obtain ⟨found, ok⟩ := guard_eq_ok.mp ok
    simp only [not_or, not_not] at found
    obtain ⟨ambiguous, waiting, operation, capability, bound⟩ := found
    split at ok
    · cases ok
    · next quarantine held =>
      simp only [guard_eq_ok, bind_eq_ok,
        reconcileIndeterminateTerminal] at ok
      obtain ⟨-, ⟨next, admission⟩, ⟨-, freed⟩, ok⟩ := ok
      split at freed
      · cases freed
      · next op found =>
        obtain ⟨rfl, blocking⟩ := h.blocking_of old found
        cases ok
        have pair : authoritativeAgentTerminalPair terminal.terminalState terminal.evidence = true := by
          simp only [AgentTerminalEvidence.isValid, Bool.and_eq_true] at valid
          exact valid.2
        have moved := unblock_unblocked (record.reconcile terminal nowMs) old ambiguous
          ((isTerminal_iff _).mp (isTerminal_of_authoritativeAgentTerminalPair pair))
          blocking rfl rfl rfl rfl
        have first : Move care s {s.unblocked terminal.operation.operationId
            (record.reconcile terminal nowMs) with
            autoResolutions := pushAutoResolution s.autoResolutions
              (autoResolutionOf record terminal.terminalState terminal.evidence
                terminal.dispatchBinding nowMs)} :=
          .reconcile record terminal nowMs ambiguous waiting valid operation bound
            (fun filing => spare filing record old ambiguous) {moved with} rfl
        exact h.freed_moves first record (record.reconcile terminal nowMs) rfl rfl
          (Except.ok.inj freed)

theorem Coherent.resolve_moves (h : s.Coherent) {resolver : OperationOwner}
    {decision : IndeterminateResolution} {evidence : String} {nowMs : Nat}
    {answer : CompletionDecision × ExecutionReceipt}
    (ok : s.resolveIndeterminate order id resolver decision evidence nowMs = .ok (answer, s')) :
    Moves care s s' := by
  obtain ⟨-, ok⟩ := guard_eq_ok.mp ok
  split at ok
  · cases ok
  · next record old =>
    obtain ⟨ambiguous, ok⟩ := guard_eq_ok.mp ok
    rw [not_not] at ambiguous
    split at ok
    · cases ok
    · next quarantine held =>
      simp only [guard_eq_ok, bind_eq_ok, HubAdmissionController.resolveIndeterminate] at ok
      obtain ⟨-, -, ⟨next, admission⟩, freed, ok⟩ := ok
      split at freed
      · cases freed
      · next op found =>
        obtain ⟨rfl, blocking⟩ := h.blocking_of old found
        cases ok
        have settled : (HubAdmissionController.resolvedState decision).phase = .settled := by
          cases decision <;> rfl
        have moved := unblock_unblocked
          (record.resolve (HubAdmissionController.resolvedState decision) nowMs) old ambiguous settled
          blocking rfl rfl rfl rfl
        have first : Move care s {s.unblocked id
            (record.resolve (HubAdmissionController.resolvedState decision) nowMs) with
            resolutions := s.resolutions ++ [⟨id, record.operation.deviceId,
              record.operation.deviceGeneration, resolver, decision, evidence, nowMs⟩]} :=
          .resolve id record ⟨id, record.operation.deviceId, record.operation.deviceGeneration,
            resolver, decision, evidence, nowMs⟩ ambiguous rfl {moved with} rfl
        exact h.freed_moves first record
          (record.resolve (HubAdmissionController.resolvedState decision) nowMs) rfl rfl
          (Except.ok.inj freed)

/-! ### Becoming ambiguous -/

/-- What the admission ledger does to make `operation` block its device. -/
def blockedBy (operation : OperationRef) (id : String) (c : HubAdmissionController) :
    HubAdmissionController :=
  {c with
    operations := c.operations.insert id ⟨operation, .indeterminate⟩
    activeByDevice := c.activeByDevice.erase operation.deviceId
    blockedByIndeterminate := c.blockedByIndeterminate.insert operation.deviceId id}

theorem blockedBy_removeQueued (operation : OperationRef) (id deviceId queuedId : String)
    (c : HubAdmissionController) :
    (blockedBy operation id c).removeQueued deviceId queuedId =
      blockedBy operation id (c.removeQueued deviceId queuedId) := by
  simp only [removeQueued, blockedBy]
  split <;> rfl

theorem blockedBy_setState {operation : OperationRef} {queuedId : String} (other : queuedId ≠ id)
    (op : HubOperation) (state : HubOperationState) (c : HubAdmissionController) :
    (blockedBy operation id c).setState queuedId op state =
      blockedBy operation id (c.setState queuedId op state) := by
  simp only [HubAdmissionController.setState, blockedBy, insert_comm (Ne.symm other)]

/-- Cancelling a waiting operation behind the one that became ambiguous. -/
theorem Coherent.cancelQueued_eq (h : s.Coherent) (operation : OperationRef) {queuedId : String}
    {x : SafetyOperation} (other : queuedId ≠ id) (found : s.operations[queuedId]? = some x)
    (waited : x.state = .queued) (order : IterationOrder) (nowMs : Nat) :
    cancelQueued order nowMs {s with admission := blockedBy operation id s.admission} queuedId =
      (.ok (), {s.dequeued queuedId x (x.cancelBeforeDispatch nowMs) with
        admission := blockedBy operation id
          (s.dequeued queuedId x (x.cancelBeforeDispatch nowMs)).admission}) := by
  have seen : (blockedBy operation id s.admission).operations[queuedId]? = some x.admitted := by
    rw [blockedBy, get_insert_of_ne (Ne.symm other), h.mirrored, found]
    rfl
  simp only [cancelQueued, cancel, seen, admitted, waited,
    found, blockedBy_removeQueued, blockedBy_setState other]
  rfl

/-- All the waiting operations of the device are cancelled, one move each. -/
theorem Coherent.cancelEachQueued_eq (h : s.Coherent) (care : Care) (operation : OperationRef)
    (order : IterationOrder) (nowMs : Nat) (ids : List String) (once : ids.Nodup)
    (waiting : ∀ queuedId ∈ ids, queuedId ≠ id ∧
      ∃ x, s.operations[queuedId]? = some x ∧ x.state = .queued) :
    ∃ t, cancelEachQueued order nowMs ids {s with admission := blockedBy operation id s.admission} =
        (.ok (), {t with admission := blockedBy operation id t.admission}) ∧
      Moves care s t ∧ t.quarantines = s.quarantines ∧
      (∀ a : String, a ∉ ids → t.operations[a]? = s.operations[a]?) ∧
      ∀ a ∈ ids, ∃ x, t.operations[a]? = some x ∧ x.state.phase = .settled := by
  induction ids generalizing s with
  | nil => exact ⟨s, rfl, .refl s, rfl, fun _ _ => rfl, fun a mem => by cases mem⟩
  | cons queuedId rest ih =>
    obtain ⟨other, x, found, waited⟩ := waiting queuedId List.mem_cons_self
    rw [List.nodup_cons] at once
    have moved := h.dequeue_dequeued (x.cancelBeforeDispatch nowMs) found (by rw [waited]; rfl)
      rfl rfl rfl rfl rfl
    have first : Move care s (s.dequeued queuedId x (x.cancelBeforeDispatch nowMs)) :=
      .cancelWaiting queuedId x nowMs moved rfl
    have get_other : ∀ a : String, a ≠ queuedId →
        (s.dequeued queuedId x (x.cancelBeforeDispatch nowMs)).operations[a]? =
          s.operations[a]? := fun a ne => get_insert_of_ne (Ne.symm ne)
    obtain ⟨t, cancelled, moves, quarantines, kept, settled⟩ := ih (h.move first) once.2 (by
      intro a mem
      have ne : a ≠ queuedId := fun eq => once.1 (eq ▸ mem)
      rw [get_other a ne]
      exact waiting a (List.mem_cons_of_mem _ mem))
    refine ⟨t, ?_, first.moves.trans moves, quarantines, ?_, ?_⟩
    · rw [cancelEachQueued, h.cancelQueued_eq operation other found waited order nowMs]
      exact cancelled
    · intro a absent
      rw [List.mem_cons, not_or] at absent
      rw [kept a absent.2, get_other a absent.1]
    · intro a mem
      rcases List.mem_cons.mp mem with rfl | later
      · refine ⟨x.cancelBeforeDispatch nowMs, ?_, rfl⟩
        rw [kept a once.1]
        exact get_insert_self _ _ _
      · exact settled a later

/-- The waiting operations of a device other than `id`. -/
theorem mem_queuedIds {deviceId a : String} : a ∈ s.queuedIds deviceId id ↔
    a ≠ id ∧ ∃ x, s.operations[a]? = some x ∧ x.operation.deviceId = deviceId ∧ x.state = .queued := by
  simp only [queuedIds, List.mem_map, List.mem_filter, Std.ExtTreeMap.mem_toList_iff_getElem?_eq_some,
    Bool.and_eq_true, decide_eq_true_eq, Prod.exists]
  constructor
  · rintro ⟨k, x, ⟨found, ⟨ne, device⟩, waited⟩, rfl⟩
    exact ⟨ne, x, found, device, waited⟩
  · rintro ⟨ne, x, found, device, waited⟩
    exact ⟨a, x, ⟨found, ⟨ne, device⟩, waited⟩, rfl⟩

theorem nodup_queuedIds (s : AuthoritativeOperationController) (deviceId id : String) :
    (s.queuedIds deviceId id).Nodup := by
  have keys : (s.operations.toList.map Prod.fst).Nodup := by
    rw [Std.ExtTreeMap.map_fst_toList_eq_keys]
    exact Std.ExtTreeMap.nodup_keys
  exact keys.sublist (List.Sublist.map _ List.filter_sublist)

/-- A running ordinary operation blocks its device in both ledgers. -/
theorem quarantine_blockedBy {t : AuthoritativeOperationController}
    (reason : IndeterminateReason) (nowMs : Nat) (old : t.operations[id]? = some r)
    (key : r.operation.operationId = id) (running : r.state.phase = .running)
    (normal : r.executionLane = .normal)
    (cleared : ∀ (a : String) (x : SafetyOperation), t.operations[a]? = some x →
      x.operation.deviceId = r.operation.deviceId → x.state.phase ≠ .waiting) :
    Quarantine t {t with
      admission := blockedBy r.operation id t.admission
      operations := t.operations.insert id (r.becomeAmbiguous reason)
      quarantines := t.quarantines.insert r.operation.deviceId (quarantineFor r reason nowMs)}
      id r (r.becomeAmbiguous reason) (quarantineFor r reason nowMs) where
  operations := rfl
  admitted := rfl
  retired := rfl
  limits := rfl
  old := old
  operation := rfl
  lane := rfl
  capability := rfl
  owner := rfl
  running := running
  normal := normal
  ambiguous := rfl
  cleared := cleared
  names := key
  active := rfl
  blocked := rfl
  queues := fun _ => rfl
  recovery := rfl
  quarantines := rfl

/-- The admission ledger sees the same record, so it does what `blockedBy` says. -/
theorem Coherent.marked_eq (h : s.Coherent) (old : s.operations[id]? = some r)
    (marked : s.admission.markIndeterminate id = .ok (next, admission)) :
    next = .idle ∧ admission = blockedBy r.operation id s.admission := by
  have seen : s.admission.operations[id]? = some r.admitted := by
    rw [h.mirrored, old]
    rfl
  simp only [HubAdmissionController.markIndeterminate, seen, guard_eq_ok] at marked
  obtain ⟨-, -, marked⟩ := marked
  cases marked
  exact ⟨rfl, rfl⟩

/-- The operation passes every check that is made before anything changes. -/
structure Markable (s : AuthoritativeOperationController) (id : String) (target : SafetyOperation)
    (next : CompletionDecision) (admission : HubAdmissionController) : Prop where
  old : s.operations[id]? = some target
  normal : target.executionLane = .normal
  inFlight : target.state.isInFlight = true
  unclaimed : ¬(s.quarantines[target.operation.deviceId]?.any
    fun existing => existing.operationId ≠ id) = true
  marked : s.admission.markIndeterminate id = .ok (next, admission)

/-- Without the checks nothing changes. -/
theorem markIndeterminate_of_unmarkable (order : IterationOrder) (reason : IndeterminateReason)
    (nowMs : Nat) (refused : ∀ target next admission, ¬s.Markable id target next admission) :
    ∃ e, s.markIndeterminateInternal order id reason nowMs = (.error e, s) := by
  unfold markIndeterminateInternal
  split
  · exact ⟨_, rfl⟩
  · next target old =>
    split
    · exact ⟨_, rfl⟩
    · next sent =>
      rw [not_or, not_not, not_not] at sent
      split
      · exact ⟨_, rfl⟩
      · next unclaimed =>
        split
        · exact ⟨_, rfl⟩
        · next next admission marked =>
          exact absurd ⟨old, sent.1, sent.2, unclaimed, marked⟩ (refused target next admission)

/-- With them it becomes ambiguous by moves. -/
theorem Coherent.markIndeterminate_of_markable (h : s.Coherent) (care : Care)
    (order : IterationOrder) (reason : IndeterminateReason) (nowMs : Nat) {target : SafetyOperation}
    (markable : s.Markable id target next admission) :
    ∃ s', s.markIndeterminateInternal order id reason nowMs = (.ok .idle, s') ∧ Moves care s s' ∧
      s'.quarantines =
        s.quarantines.insert target.operation.deviceId (quarantineFor target reason nowMs) := by
  obtain ⟨old, normal, inFlight, unclaimed, marked⟩ := markable
  have running := phase_of_isInFlight inFlight
  obtain ⟨rfl, rfl⟩ := h.marked_eq old marked
  set ids := order.arrange (s.queuedIds target.operation.deviceId id)
  have ids_perm : ids.Perm (s.queuedIds target.operation.deviceId id) := order.perm _
  obtain ⟨t, cancelled, moves, quarantines, kept, settled⟩ :=
    h.cancelEachQueued_eq care target.operation order nowMs ids
      (ids_perm.nodup_iff.mpr (nodup_queuedIds s _ _)) (by
        intro a mem
        obtain ⟨ne, x, found, -, waited⟩ := mem_queuedIds.mp (ids_perm.mem_iff.mp mem)
        exact ⟨ne, x, found, waited⟩)
  have absent : id ∉ ids := fun mem => (mem_queuedIds.mp (ids_perm.mem_iff.mp mem)).1 rfl
  have still : t.operations[id]? = some target := by rw [kept id absent, old]
  have cleared : ∀ (a : String) (x : SafetyOperation), t.operations[a]? = some x →
      x.operation.deviceId = target.operation.deviceId → x.state.phase ≠ .waiting := by
    intro a x found device waited
    by_cases mem : a ∈ ids
    · obtain ⟨y, found', settled⟩ := settled a mem
      rw [found', Option.some.injEq] at found
      rw [← found, settled] at waited
      cases waited
    · rw [kept a mem] at found
      have ne : a ≠ id := by
        intro same
        rw [same, old, Option.some.injEq] at found
        rw [← found, running] at waited
        cases waited
      exact mem (ids_perm.mem_iff.mpr (mem_queuedIds.mpr
        ⟨ne, x, found, device, (eq_queued_iff _).mpr waited⟩))
  have last := quarantine_blockedBy reason nowMs still (h.keyed id target old) running normal
    cleared
  have sent : ¬(target.executionLane ≠ .normal ∨ ¬target.state.isInFlight = true) := by
    simp [normal, inFlight]
  unfold markIndeterminateInternal
  simp only [old, if_neg sent, if_neg unclaimed, marked]
  rw [cancelled]
  simp only [still]
  exact ⟨_, rfl, moves.trans (Move.moves (.quarantine id target reason nowMs inFlight last rfl)),
    by rw [quarantines]⟩

/-- Becoming ambiguous either fails without a change or succeeds by moves. -/
theorem Coherent.markIndeterminate_cases (h : s.Coherent) (care : Care) (order : IterationOrder)
    (id : String) (reason : IndeterminateReason) (nowMs : Nat) :
    (∃ e, s.markIndeterminateInternal order id reason nowMs = (.error e, s)) ∨
      ∃ s' target, s.markIndeterminateInternal order id reason nowMs = (.ok .idle, s') ∧
        Moves care s s' ∧ s.operations[id]? = some target ∧ target.executionLane = .normal ∧
        target.state.isInFlight = true ∧ s'.quarantines =
          s.quarantines.insert target.operation.deviceId (quarantineFor target reason nowMs) := by
  by_cases accepted : ∃ target next admission, s.Markable id target next admission
  · obtain ⟨target, next, admission, markable⟩ := accepted
    obtain ⟨s', marked, moves, quarantines⟩ :=
      h.markIndeterminate_of_markable care order reason nowMs markable
    exact .inr ⟨s', target, marked, moves, markable.old, markable.normal, markable.inFlight, quarantines⟩
  · exact .inl (markIndeterminate_of_unmarkable order reason nowMs fun target next admission markable =>
      accepted ⟨target, next, admission, markable⟩)

end AuthoritativeOperationController

end Gateway.Execution
