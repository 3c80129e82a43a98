import Gateway.Execution.Moves

/-! The ledger's operations, move by move.

On a coherent ledger each operation that succeeds is one or two moves, and the
ones that can fail half-way never do so between two tables. -/
namespace Gateway.Execution
open Data Device HubAdmissionController Result SafetyOperation HubOperationState Table

namespace AuthoritativeOperationController
variable {care : Care} {s s' : AuthoritativeOperationController} {id : String}
  {r r' : SafetyOperation}

/-- A sequence of moves. -/
def Moves (care : Care) :
    AuthoritativeOperationController → AuthoritativeOperationController → Prop :=
  Relation.ReflTransGen (Move care)

theorem Move.moves (m : Move care s s') : Moves care s s' := Relation.ReflTransGen.single m

variable {s₁ : AuthoritativeOperationController} {owner : OperationOwner}
  {deviceGeneration nowMs : Nat} {order : IterationOrder} {admission : HubAdmissionController}
  {evidence : ExecutionEvidence} {answer : CompletionDecision × ExecutionReceipt}
  {operation : OperationRef} {capability : DeviceCapability} {metadata : OperationAdmissionMetadata}

theorem Moves.trans {s₂ s₃ : AuthoritativeOperationController} (first : Moves care s₁ s₂)
    (second : Moves care s₂ s₃) : Moves care s₁ s₃ :=
  Relation.ReflTransGen.trans first second

theorem Moves.refl (s : AuthoritativeOperationController) : Moves care s s :=
  Relation.ReflTransGen.refl

/-- What every move keeps, every sequence of moves keeps. -/
theorem Moves.invariant {Inv : AuthoritativeOperationController → Prop}
    (step : ∀ {s s'}, Inv s → Move care s s' → Inv s') (m : Moves care s s') (h : Inv s) : Inv s' := by
  induction m with
  | refl => exact h
  | tail _ last ih => exact step ih last

theorem Coherent.moves (h : s.Coherent) (m : Moves care s s') : s'.Coherent :=
  m.invariant Coherent.move h

/-! ### Shared pieces -/

/-- The record the caller was allowed to name. -/
theorem get_of_checked (h : s.checked id owner deviceGeneration = .ok r) :
    s.operations[id]? = some r ∧ r.owner = owner ∧ r.operation.deviceGeneration = deviceGeneration := by
  unfold checked at h
  split at h
  · cases h
  · next record found =>
    split at h
    · cases h
    · next fence =>
      cases h
      rw [not_or, not_not, not_not] at fence
      exact ⟨found, fence⟩

/-- Hand a free slot to whoever is waiting, in both ledgers. -/
def promoted (s : AuthoritativeOperationController) (order : IterationOrder) (deviceId : String) :
    AuthoritativeOperationController :=
  {s with
    admission := (s.admission.promote order deviceId).2
    operations := activateNext s.operations (s.admission.promote order deviceId).1}

theorem Coherent.promoted_moves (h : s.Coherent) (care : Care) (order : IterationOrder)
    (deviceId : String) :
    Moves care s (s.promoted order deviceId) := by
  apply Move.moves
  rcases s.admission.promote_cases order deviceId with
    ⟨queues, found, same⟩ | ⟨queues, device, head, rest, found, queue, free, -, room, after⟩
  · refine .touch ?_ rfl
    constructor <;> simp [promoted, found, activateNext, same]
  · -- The head of a queue is a waiting record of that device.
    have waits : s.waitingOf head.operationId = some head ∧ head.deviceId = device :=
      (h.waiting device head).mp (by simp [queue])
    obtain ⟨waits, rfl⟩ := waits
    rw [waitingOf, Option.bind_eq_some_iff] at waits
    obtain ⟨x, old, hx⟩ := waits
    obtain ⟨waited, rfl⟩ : x.state.phase = .waiting ∧ x.operation = head := by
      unfold SafetyOperation.waits at hx
      split at hx
      · next waited => exact ⟨waited, Option.some.inj hx⟩
      · cases hx
    have queues_eq : ∀ d : String, queues[d]?.getD [] = (s.admission.queueOf d).erase x.operation := by
      intro d
      rw [after d]
      split
      · next device => rw [← device, queue, List.erase_cons_head]
      · next device =>
        rw [List.erase_of_not_mem]
        exact fun mem => device ((h.waiting d x.operation).mp mem).2
    have admission_eq : (s.promoted order deviceId).admission =
        (s.admission.withQueues queues).start x.operation := by
      rw [promoted, found]
    exact .promote x.operation.operationId x {
      operations := by rw [promoted, found]; simp [activateNext, old]
      admitted := by rw [admission_eq]; rfl
      retired := by rw [admission_eq]; rfl
      limits := by rw [admission_eq]; rfl
      old := old
      operation := rfl
      lane := rfl
      capability := rfl
      owner := rfl
      waited := waited
      running := rfl
      free := free
      available := room
      active := by rw [admission_eq]; rfl
      blocked := by rw [admission_eq]; rfl
      queues := by rw [admission_eq]; exact queues_eq
      recovery := by rw [admission_eq]; rfl
      quarantines := rfl} rfl

/-- Settle a running record and free its slot, in both ledgers. -/
def vacated (s : AuthoritativeOperationController) (id : String) (r' : SafetyOperation) :
    AuthoritativeOperationController :=
  {s with
    admission := {s.admission with
      operations := s.admission.operations.insert id r'.admitted
      activeByDevice := s.admission.activeByDevice.erase r'.operation.deviceId
      recoveryReadOnlyOperations := s.admission.recoveryReadOnlyOperations.erase id}
    operations := s.operations.insert id r'}

theorem vacate_vacated (r' : SafetyOperation) (old : s.operations[id]? = some r) (running : r.state.phase = .running)
    (settled : r'.state.phase = .settled) (operation : r'.operation = r.operation)
    (lane : r'.executionLane = r.executionLane) (capability : r'.capability = r.capability)
    (owner : r'.owner = r.owner) :
    Vacate s (s.vacated id r') id r r' where
  operations := rfl
  admitted := rfl
  retired := rfl
  limits := rfl
  old := old
  operation := operation
  lane := lane
  capability := capability
  owner := owner
  running := running
  settled := settled
  active := by rw [vacated, operation]
  blocked := rfl
  queues := fun _ => rfl
  recovery := rfl
  quarantines := rfl

/-- The admission ledger's settlement is the joint one followed by a promotion. -/
theorem settle_eq (s : AuthoritativeOperationController) (id : String) (order : IterationOrder)
    (r r' : SafetyOperation) (operation : r'.operation = r.operation) :
    s.admission.settle order id r.admitted r'.state =
      (s.vacated id r').admission.promote order r.operation.deviceId := by
  simp only [settle, setState, vacated, admitted, operation]

/-- A settlement in the authoritative ledger, then the promotion the admission ledger made. -/
theorem Coherent.settlement_moves (h : s.Coherent) (first : Move care s s₁) (r r' : SafetyOperation)
    (operation : r'.operation = r.operation) (same : s₁.admission = (s.vacated id r').admission)
    {next : CompletionDecision}
    (settled : s.admission.settle order id r.admitted r'.state = (next, admission)) :
    Moves care s {s₁ with admission := admission, operations := activateNext s₁.operations next} := by
  have second := (h.move first).promoted_moves care order r.operation.deviceId
  rw [settle_eq s id order r r' operation, ← same] at settled
  rw [promoted, settled] at second
  exact first.moves.trans second

/-! ### Settlement -/

/-- A settlement by the Agent's answer. -/
theorem Coherent.finalize_moves (h : s.Coherent) {terminalState : HubOperationState}
    (ok : s.finalize order id owner deviceGeneration terminalState evidence nowMs =
      .ok (answer, s')) : Moves care s s' := by
  simp only [finalize, bind_eq_ok, guard_eq_ok, finalizeTerminal] at ok
  obtain ⟨record, checked, accepted, ⟨next, admission⟩, settled, ok⟩ := ok
  rw [not_or, not_not, not_not] at accepted
  obtain ⟨old, -, -⟩ := get_of_checked checked
  obtain ⟨-, settled⟩ := settled
  rw [h.mirrored, old] at settled
  obtain ⟨-, settled⟩ := guard_eq_ok.mp settled
  cases ok
  have running := phase_of_isInFlight accepted.1
  have terminal := (isTerminal_iff _).mp
    (isTerminal_of_authoritativeAgentTerminalPair accepted.2)
  have first : Move care s (s.vacated id (record.finalize terminalState evidence nowMs)) :=
    .finalize id record terminalState evidence nowMs accepted.1 accepted.2
      (vacate_vacated _ old running terminal rfl rfl rfl rfl) rfl
  exact h.settlement_moves first record (record.finalize terminalState evidence nowMs) rfl rfl
    (Except.ok.inj settled)

/-- A settlement by the proof that nothing was enqueued; a repeated one changes nothing. -/
theorem Coherent.neverEnqueued_moves (h : s.Coherent) {binding : OperationDispatchBinding}
    (bounded : care.legible → ∀ r, s.operations[id]? = some r → r.state = .dispatched →
      r.operation.isBounded = true)
    (spare : care.filing → ∀ r, s.operations[id]? = some r → r.state = .dispatched → s.Spare)
    (ok : s.resolveHubPreEnqueueNonDelivery order id owner deviceGeneration binding evidence nowMs =
      .ok (answer, s')) : Moves care s s' := by
  simp only [resolveHubPreEnqueueNonDelivery, bind_eq_ok, guard_eq_ok] at ok
  obtain ⟨pair, record, checked, fence, ok⟩ := ok
  obtain ⟨old, -, -⟩ := get_of_checked checked
  rw [not_or, not_not, not_not] at fence
  split at ok
  · cases ok
    exact .refl s
  · simp only [bind_eq_ok, guard_eq_ok, finalizeTerminal] at ok
    obtain ⟨ready, ⟨next, admission⟩, ⟨-, settled⟩, ok⟩ := ok
    rw [not_or, not_or, not_not] at ready
    rw [h.mirrored, old] at settled
    obtain ⟨-, settled⟩ := guard_eq_ok.mp settled
    cases ok
    have proof : evidence.isPreEnqueue = true := by
      simpa [authoritativeHubPreEnqueueNonDeliveryPair] using pair
    have running : record.state.phase = .running := by rw [ready.1]; rfl
    have moved : Vacate s (s.vacated id (record.neverEnqueued evidence nowMs)) id record _ :=
      vacate_vacated _ old running rfl rfl rfl rfl rfl
    have first : Move care s {s.vacated id (record.neverEnqueued evidence nowMs) with
        autoResolutions := pushAutoResolution s.autoResolutions
          (autoResolutionOf record .cancelled evidence binding nowMs)} :=
      .neverEnqueued id record binding evidence nowMs ready.1 fence.1 fence.2 proof
        (fun legible => bounded legible record old ready.1)
        (fun filing => spare filing record old ready.1) {moved with} rfl
    exact h.settlement_moves first record (record.neverEnqueued evidence nowMs) rfl rfl
      (Except.ok.inj settled)

/-- A recovery read given up. -/
theorem Coherent.interruptRead_moves (h : s.Coherent)
    (ok : s.markRecoveryReadInterrupted order id nowMs = .ok (answer, s')) : Moves care s s' := by
  unfold markRecoveryReadInterrupted at ok
  split at ok
  · cases ok
  · next record old =>
    simp only [bind_eq_ok, guard_eq_ok, failRecoveryReadOnly] at ok
    obtain ⟨sent, ⟨next, admission⟩, ⟨-, settled⟩, ok⟩ := ok
    rw [not_or, not_not, not_not] at sent
    rw [h.mirrored, old] at settled
    obtain ⟨-, settled⟩ := guard_eq_ok.mp settled
    cases ok
    have running := phase_of_isInFlight sent.2
    have first : Move care s (s.vacated id (record.interruptRead nowMs)) :=
      .interruptRead id record nowMs sent.2 sent.1 (vacate_vacated _ old running rfl rfl rfl rfl rfl) rfl
    exact h.settlement_moves first record (record.interruptRead nowMs) rfl rfl
      (Except.ok.inj settled)

/-- Change a record within its phase, in both ledgers. -/
def restated (s : AuthoritativeOperationController) (id : String) (r' : SafetyOperation) :
    AuthoritativeOperationController :=
  {s with
    admission := {s.admission with operations := s.admission.operations.insert id r'.admitted}
    operations := s.operations.insert id r'}

theorem restate_restated (r' : SafetyOperation) (old : s.operations[id]? = some r)
    (phase : r'.state.phase = r.state.phase) (operation : r'.operation = r.operation)
    (lane : r'.executionLane = r.executionLane) (capability : r'.capability = r.capability)
    (owner : r'.owner = r.owner) :
    Restate s (s.restated id r') id r r' where
  operations := rfl
  admitted := rfl
  retired := rfl
  limits := rfl
  old := old
  operation := operation
  lane := lane
  capability := capability
  owner := owner
  phase := phase
  active := rfl
  blocked := rfl
  queues := fun _ => rfl
  recovery := rfl
  quarantines := rfl

/-- A change the admission ledger does not see. -/
theorem Coherent.restated_unseen (h : s.Coherent) (old : s.operations[id]? = some r)
    (same : r'.admitted = r.admitted) :
    s.restated id r' = {s with operations := s.operations.insert id r'} := by
  have seen : s.admission.operations[id]? = some r'.admitted := by
    rw [h.mirrored, old, same]
    rfl
  rw [restated, insert_of_get seen]

theorem Coherent.dispatch_moves (h : s.Coherent) {binding : Option OperationDispatchBinding}
    {answer : Unit}
    (sendable : care.legible → ∀ r, s.operations[id]? = some r → r.state = .activeNotDispatched →
      s.Sendable r binding)
    (ok : s.markDispatchedWithBinding id owner deviceGeneration binding nowMs = .ok (answer, s')) :
    Moves care s s' := by
  simp only [markDispatchedWithBinding, bind_eq_ok, guard_eq_ok, not_not, markDispatched] at ok
  obtain ⟨valid, record, checked, ready, admission, sent, ok⟩ := ok
  obtain ⟨old, -, -⟩ := get_of_checked checked
  rw [h.mirrored, old] at sent
  obtain ⟨-, sent⟩ := guard_eq_ok.mp sent
  cases sent
  cases ok
  have moved : Restate s (s.restated id (record.dispatch binding nowMs)) id record _ :=
    restate_restated _ old (by rw [ready]; rfl) rfl rfl rfl rfl
  exact Move.moves (.dispatch id record binding nowMs ready valid
    (fun legible => sendable legible record old ready) moved rfl)

/-- Taking an operation out of its queue leaves every other queue alone. -/
theorem removeQueued_eq (c : HubAdmissionController) (deviceId operationId : String) :
    ∃ queues, c.removeQueued deviceId operationId = c.withQueues queues ∧
      ∀ d : String, queues[d]?.getD [] =
        if deviceId = d then (c.queueOf d).eraseP (fun waiting => waiting.operationId = operationId)
        else c.queueOf d := by
  unfold removeQueued
  split
  · next missing =>
    refine ⟨c.queuedByDevice, rfl, fun d => ?_⟩
    split
    · next same =>
      rw [← same, queueOf, missing]
      rfl
    · rfl
  · next queue found =>
    refine ⟨_, rfl, fun d => ?_⟩
    have queue_eq : c.queueOf deviceId = queue := by
      rw [queueOf, found, Option.getD_some]
    by_cases emptied : (queue.eraseP fun waiting => waiting.operationId = operationId).isEmpty
    · rw [if_pos emptied, c.queueOf_erase]
      rw [List.isEmpty_iff] at emptied
      split
      · next same => rw [← same, queue_eq, emptied]
      · rfl
    · rw [if_neg emptied, c.queueOf_insert]
      split
      · next same => rw [← same, queue_eq]
      · rfl

/-- Taking a waiting operation out by its id takes out that operation. -/
theorem Coherent.eraseP_queue (h : s.Coherent) (old : s.operations[id]? = some r) (d : String) :
    (s.admission.queueOf d).eraseP (fun waiting => waiting.operationId = id) =
      (s.admission.queueOf d).erase r.operation := by
  rw [List.erase_eq_eraseP']
  -- Within a queue, the id decides the operation.
  have same : ∀ op ∈ s.admission.queueOf d,
      decide (op.operationId = id) = (op == r.operation) := by
    intro op mem
    rw [Bool.eq_iff_iff, decide_eq_true_eq, beq_iff_eq]
    constructor
    · intro eq
      have waits := ((h.waiting d op).mp mem).1
      rw [eq, waitingOf_of_get old, SafetyOperation.waits] at waits
      split at waits
      · exact (Option.some.inj waits).symm
      · cases waits
    · intro eq
      rw [eq, h.keyed id r old]
  generalize s.admission.queueOf d = queue at same
  induction queue with
  | nil => rfl
  | cons head rest ih =>
    rw [List.eraseP_cons, List.eraseP_cons, same head List.mem_cons_self,
      ih fun op mem => same op (List.mem_cons_of_mem _ mem)]

/-- Settle a waiting record and take it out of its queue, in both ledgers. -/
def dequeued (s : AuthoritativeOperationController) (id : String) (r r' : SafetyOperation) :
    AuthoritativeOperationController :=
  {s with
    admission :=
      (s.admission.removeQueued r.operation.deviceId id).setState id r.admitted r'.state
    operations := s.operations.insert id r'}

theorem Coherent.dequeue_dequeued (h : s.Coherent) (r' : SafetyOperation) (old : s.operations[id]? = some r)
    (waited : r.state.phase = .waiting) (settled : r'.state.phase = .settled)
    (operation : r'.operation = r.operation) (lane : r'.executionLane = r.executionLane)
    (capability : r'.capability = r.capability) (owner : r'.owner = r.owner) :
    Dequeue s (s.dequeued id r r') id r r' := by
  obtain ⟨queues, removed, after⟩ := removeQueued_eq s.admission r.operation.deviceId id
  have admission_eq : (s.dequeued id r r').admission =
      (s.admission.withQueues queues).setState id r.admitted r'.state := by
    rw [dequeued, removed]
  exact {
    operations := rfl
    admitted := by
      rw [admission_eq, admitted, admitted, operation]
      rfl
    retired := by rw [admission_eq]; rfl
    limits := by rw [admission_eq]; rfl
    old := old
    operation := operation
    lane := lane
    capability := capability
    owner := owner
    waited := waited
    settled := settled
    active := by rw [admission_eq]; rfl
    blocked := by rw [admission_eq]; rfl
    queues := by
      intro d
      rw [admission_eq]
      refine (after d).trans ?_
      split
      · exact h.eraseP_queue old d
      · next device =>
        rw [List.erase_of_not_mem]
        exact fun mem => device ((h.waiting d r.operation).mp mem).2
    recovery := by rw [admission_eq]; rfl
    quarantines := rfl}

theorem Coherent.requestCancel_moves (h : s.Coherent) {answer : CancellationDecision}
    (ok : s.requestCancel order id owner deviceGeneration nowMs = .ok (answer, s')) :
    Moves care s s' := by
  simp only [requestCancel, bind_eq_ok, cancel] at ok
  obtain ⟨record, checked, ⟨decision, admission⟩, cancelled, ok⟩ := ok
  obtain ⟨old, -, -⟩ := get_of_checked checked
  rw [h.mirrored, old] at cancelled
  simp only [Option.map_some] at cancelled
  split at cancelled
  · next waited =>
    have waited : record.state = .queued := waited
    cases cancelled
    cases ok
    have moved := h.dequeue_dequeued (record.cancelBeforeDispatch nowMs) old (by rw [waited]; rfl)
      rfl rfl rfl rfl rfl
    exact Move.moves (.cancelWaiting id record nowMs moved rfl)
  · next ready =>
    have ready : record.state = .activeNotDispatched := ready
    cases cancelled
    cases ok
    have first : Move care s (s.vacated id (record.cancelBeforeDispatch nowMs)) :=
      .cancelUndispatched id record nowMs ready
        (vacate_vacated _ old (by rw [ready]; rfl) rfl rfl rfl rfl rfl) rfl
    exact h.settlement_moves first record (record.cancelBeforeDispatch nowMs) rfl rfl rfl
  · next sent =>
    have sent : record.state = .dispatched := sent
    cases cancelled
    cases ok
    have moved : Restate s (s.restated id {record with state := .cancelRequested}) id record _ :=
      restate_restated _ old (by rw [sent]; rfl) rfl rfl rfl rfl
    exact Move.moves (.requestCancel id record (by rw [sent]; rfl) moved rfl)
  · next sent =>
    have sent : record.state = .cancelRequested := sent
    cases cancelled
    cases ok
    have moved : Restate s (s.restated id {record with state := .cancelRequested}) id record _ :=
      restate_restated _ old (by rw [sent]) rfl rfl rfl rfl
    rw [h.restated_unseen old (by rw [admitted, admitted, sent])] at moved
    exact Move.moves (.requestCancel id record (by rw [sent]; rfl) moved rfl)
  · cases cancelled
    cases ok
    exact .refl s

/-! ### Admission -/

/-- What every admission checks first. -/
theorem admissible_of_checks
    (named : ¬(isBlank operation.operationId = true ∨ isBlank operation.deviceId = true))
    (unseen : ¬(operation.operationId ∈ s.operations ∨ operation.operationId ∈ s.recoveryArchive ∨
      s.retirements.any
        (fun retirement => retirement.operation.operationId = operation.operationId) = true))
    (valid : metadata.isValid capability = true)
    (unbarred : s.blockingBarrier operation.deviceId capability = none) :
    s.operations[operation.operationId]? = none ∧ s.Admissible operation capability metadata := by
  simp only [not_or, Bool.not_eq_true] at named
  simp only [not_or, not_mem_iff_get, List.any_eq_true, not_exists, not_and,
    decide_eq_true_eq] at unseen
  refine ⟨unseen.1, named.1, named.2, unseen.2.1, unseen.2.2, valid, ?_⟩
  unfold blockingBarrier at unbarred
  split at unbarred
  · next observes => exact .inl observes
  · exact .inr unbarred

theorem admitOperation_moves (owner : OperationOwner) (nowMs : Nat)
    (new : s.operations[operation.operationId]? = none)
    (unfiled : care.filing → s.Unfiled operation.operationId)
    (unquarantined : s.quarantines[operation.deviceId]? = none)
    (admissible : isBlank operation.operationId = false → isBlank operation.deviceId = false →
      s.Admissible operation capability metadata) :
    (∀ e admission, s.admission.admitOperation operation = (.error e, admission) →
      Moves care s {s with admission := admission}) ∧
    ∀ decision admission, s.admission.admitOperation operation = (.ok decision, admission) →
      Moves care s {s with
        admission := admission
        operations := s.operations.insert operation.operationId
          (preparedRecord operation owner capability .normal (admittedState decision) metadata
            nowMs)} := by
  unfold admitOperation
  split
  · exact ⟨fun e admission eq => by cases eq; exact .refl s, fun _ _ eq => by cases eq⟩
  · next named =>
    simp only [not_or, Bool.not_eq_true] at named
    split
    · exact ⟨fun e admission eq => by cases eq; exact .refl s, fun _ _ eq => by cases eq⟩
    · next fresh =>
      rw [not_or] at fresh
      split
      · exact ⟨fun e admission eq => by cases eq; exact .refl s, fun _ _ eq => by cases eq⟩
      · split
        · next free =>
          refine ⟨fun _ _ eq => (by cases eq), fun decision admission eq => ?_⟩
          cases eq
          refine Move.moves (.start operation owner capability .normal metadata nowMs
            (admissible named.1 named.2) (fun _ => fresh.2) unfiled ?_ rfl)
          exact {
            operations := rfl
            admitted := rfl
            retired := rfl
            limits := rfl
            new := new
            key := rfl
            running := rfl
            free := not_mem_iff_get.mp free.1
            available := free.2
            active := rfl
            blocked := rfl
            queues := fun _ => rfl
            recovery := fun a => by simp [preparedRecord, start]
            quarantines := rfl
            normal := fun _ => ⟨unquarantined, fresh.2⟩
            reads := fun lane => by cases lane}
        · split
          · refine ⟨fun e admission eq => ?_, fun _ _ eq => by cases eq⟩
            cases eq
            refine Move.moves (.touch ?_ rfl)
            constructor <;> try simp
            intro d
            exact (s.admission.queueOf_insert operation.deviceId d _).trans (by
              split
              · next same => rw [same]
              · rfl)
          · next room =>
            refine ⟨fun _ _ eq => (by cases eq), fun decision admission eq => ?_⟩
            cases eq
            refine Move.moves (.enqueue operation owner capability metadata nowMs
              (admissible named.1 named.2) (fun _ => fresh.2) unfiled ?_ rfl)
            exact {
              operations := rfl
              admitted := rfl
              retired := rfl
              limits := rfl
              new := new
              key := rfl
              waits := rfl
              normal := rfl
              unquarantined := unquarantined
              fresh := fresh.2
              roomLeft := Nat.lt_of_not_le room
              active := rfl
              blocked := rfl
              queues := fun d => (s.admission.queueOf_insert operation.deviceId d _).trans (by
                by_cases same : operation.deviceId = d
                · subst same
                  simp [preparedRecord]
                · simp [preparedRecord, same])
              recovery := rfl
              quarantines := rfl}

theorem admitRecoveryReadOnly_moves (owner : OperationOwner) (nowMs : Nat)
    (new : s.operations[operation.operationId]? = none)
    (fresh : care.legible → operation.operationId ∉ s.admission.retiredIndeterminate)
    (unfiled : care.filing → s.Unfiled operation.operationId)
    (reads : capability.isRecoveryEvidenceReadOnly = true)
    (admissible : isBlank operation.operationId = false → isBlank operation.deviceId = false →
      s.Admissible operation capability metadata) {decision : AdmissionDecision}
    (ok : s.admission.admitRecoveryReadOnly operation = .ok (decision, admission)) :
    Moves care s {s with
      admission := admission
      operations := s.operations.insert operation.operationId
        (preparedRecord operation owner capability .recoveryEvidenceRead (admittedState decision)
          metadata nowMs)} := by
  unfold admitRecoveryReadOnly at ok
  simp only [guard_eq_ok] at ok
  obtain ⟨named, -, -, free, ok⟩ := ok
  simp only [not_or, Bool.not_eq_true] at named
  rw [not_or, not_mem_iff_get, Nat.not_le] at free
  cases ok
  refine Move.moves (.start operation owner capability .recoveryEvidenceRead metadata nowMs
    (admissible named.1 named.2) fresh unfiled ?_ rfl)
  exact {
    operations := rfl
    admitted := rfl
    retired := rfl
    limits := rfl
    new := new
    key := rfl
    running := rfl
    free := free.1
    available := free.2
    active := rfl
    blocked := rfl
    queues := fun _ => rfl
    recovery := fun a => by
      simp [preparedRecord, start, or_comm]
    quarantines := rfl
    normal := fun lane => by cases lane
    reads := fun _ => reads}

theorem prepare_moves (s : AuthoritativeOperationController) (operation : OperationRef) (owner : OperationOwner)
    (capability : DeviceCapability) (metadata : OperationAdmissionMetadata) (nowMs : Nat)
    (unfiled : care.filing → operation.operationId ∉ s.operations → s.Unfiled operation.operationId)
    (unreplayed : care.legible →
      ¬s.Readmits (.prepareWithMetadata operation owner capability metadata nowMs)) :
    Moves care s (s.prepareWithMetadata operation owner capability metadata nowMs).2 := by
  unfold prepareWithMetadata
  split
  · exact .refl s
  · next unseen =>
    split
    · exact .refl s
    · next valid =>
      rw [not_not] at valid
      split
      · exact .refl s
      · next unbarred =>
        have new : s.operations[operation.operationId]? = none :=
          not_mem_iff_get.mp fun mem => unseen (.inl mem)
        have admissible : isBlank operation.operationId = false → isBlank operation.deviceId = false →
            s.Admissible operation capability metadata := fun named placed =>
          (admissible_of_checks (by simp [named, placed]) unseen valid unbarred).2
        have unrecorded : operation.operationId ∉ s.operations := fun mem => unseen (.inl mem)
        split
        · next held =>
          split
          · exact .refl s
          · next reads =>
            rw [not_not] at reads
            split
            · exact .refl s
            · next decision admission ok =>
              refine admitRecoveryReadOnly_moves owner nowMs new (fun legible denied => ?_)
                (fun filing => unfiled filing unrecorded) reads admissible ok
              exact unreplayed legible ⟨by simp [held], reads, denied, unrecorded⟩
        · next unquarantined =>
          have cases := admitOperation_moves owner nowMs new
            (fun filing => unfiled filing unrecorded) unquarantined admissible
          split
          · next e admission refused => exact cases.1 e admission refused
          · next decision admission ok => exact cases.2 decision admission ok

end AuthoritativeOperationController

end Gateway.Execution
