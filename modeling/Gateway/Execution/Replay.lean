import Gateway.Execution.Agreement

/-! Retired ids stay denied.

The set of retired ids only grows: no call takes an id out of it, and a restart
writes it down as tombstones and reads it back whole. Admission consults it in
the ordinary lane; the recovery lane does not, so an id whose detailed record has
been compacted can be admitted again as a recovery read. -/
namespace Gateway.Execution
open Data Device Result HubAdmissionController Machine

namespace HubAdmissionController
variable {c c' : HubAdmissionController}

theorem promote_retired (order : IterationOrder) (deviceId : String) (c : HubAdmissionController) :
    (c.promote order deviceId).2.retiredIndeterminate = c.retiredIndeterminate := by
  rcases c.promote_cases order deviceId with ⟨queues, found, -⟩ | ⟨queues, device, head, rest, found, -⟩
  · rw [found]
    rfl
  · rw [found]
    rfl

theorem settle_retired (order : IterationOrder) (id : String) (op : HubOperation)
    (settled : HubOperationState) (c : HubAdmissionController) :
    (c.settle order id op settled).2.retiredIndeterminate = c.retiredIndeterminate :=
  promote_retired ..

theorem unblock_retired (order : IterationOrder) (id : String) (op : HubOperation)
    (settled : HubOperationState) (c : HubAdmissionController) :
    (c.unblock order id op settled).2.retiredIndeterminate = c.retiredIndeterminate :=
  promote_retired ..

theorem removeQueued_retired (c : HubAdmissionController) (deviceId id : String) :
    (c.removeQueued deviceId id).retiredIndeterminate = c.retiredIndeterminate := by
  unfold removeQueued
  split <;> rfl

theorem admitOperation_retired (c : HubAdmissionController) (operation : OperationRef) :
    (c.admitOperation operation).2.retiredIndeterminate = c.retiredIndeterminate := by
  unfold admitOperation
  repeat' split
  all_goals rfl

theorem admitRecoveryReadOnly_retired {operation : OperationRef} {decision : AdmissionDecision}
    (ok : c.admitRecoveryReadOnly operation = .ok (decision, c')) :
    c'.retiredIndeterminate = c.retiredIndeterminate := by
  simp only [admitRecoveryReadOnly, guard_eq_ok] at ok
  obtain ⟨-, -, -, -, ok⟩ := ok
  cases ok
  rfl

variable {id : String} {order : IterationOrder} {terminal : HubOperationState}
  {next : CompletionDecision}

theorem markDispatched_retired (ok : c.markDispatched id = .ok c') :
    c'.retiredIndeterminate = c.retiredIndeterminate := by
  unfold markDispatched at ok
  split at ok
  · cases ok
  · obtain ⟨-, ok⟩ := guard_eq_ok.mp ok
    cases ok
    rfl

theorem cancel_retired {decision : CancellationDecision}
    (ok : c.cancel order id = .ok (decision, c')) :
    c'.retiredIndeterminate = c.retiredIndeterminate := by
  unfold cancel at ok
  split at ok
  · cases ok
  split at ok <;> cases ok
  · exact removeQueued_retired ..
  · exact settle_retired ..
  all_goals rfl

theorem finalizeTerminal_retired (ok : c.finalizeTerminal order id terminal = .ok (next, c')) :
    c'.retiredIndeterminate = c.retiredIndeterminate := by
  obtain ⟨-, ok⟩ := guard_eq_ok.mp ok
  split at ok
  · cases ok
  · next op _ =>
    obtain ⟨-, ok⟩ := guard_eq_ok.mp ok
    have settled := settle_retired order id op terminal c
    rw [Except.ok.inj ok] at settled
    exact settled

theorem failRecoveryReadOnly_retired (ok : c.failRecoveryReadOnly order id = .ok (next, c')) :
    c'.retiredIndeterminate = c.retiredIndeterminate := by
  obtain ⟨-, ok⟩ := guard_eq_ok.mp ok
  split at ok
  · cases ok
  · next op _ =>
    obtain ⟨-, ok⟩ := guard_eq_ok.mp ok
    have settled := settle_retired order id op .failed c
    rw [Except.ok.inj ok] at settled
    exact settled

theorem markIndeterminate_retired (ok : c.markIndeterminate id = .ok (next, c')) :
    c'.retiredIndeterminate = c.retiredIndeterminate := by
  obtain ⟨-, ok⟩ := guard_eq_ok.mp ok
  split at ok
  · cases ok
  · obtain ⟨-, ok⟩ := guard_eq_ok.mp ok
    cases ok
    rfl

theorem resolveIndeterminate_retired {resolution : IndeterminateResolution}
    (ok : c.resolveIndeterminate order id resolution = .ok (next, c')) :
    c'.retiredIndeterminate = c.retiredIndeterminate := by
  unfold resolveIndeterminate at ok
  split at ok
  · cases ok
  · next op _ =>
    have freed := unblock_retired order id op (resolvedState resolution) c
    rw [Except.ok.inj ok] at freed
    exact freed

theorem reconcileIndeterminateTerminal_retired
    (ok : c.reconcileIndeterminateTerminal order id terminal = .ok (next, c')) :
    c'.retiredIndeterminate = c.retiredIndeterminate := by
  obtain ⟨-, ok⟩ := guard_eq_ok.mp ok
  split at ok
  · cases ok
  · next op _ =>
    have freed := unblock_retired order id op terminal c
    rw [Except.ok.inj ok] at freed
    exact freed

theorem retireIndeterminate_retired (ok : c.retireIndeterminate order id = .ok (next, c')) :
    c'.retiredIndeterminate = c.retiredIndeterminate.insert id := by
  unfold retireIndeterminate at ok
  split at ok
  · cases ok
  · next op _ =>
    have freed := promote_retired order op.operation.deviceId (c.retire id op)
    rw [Except.ok.inj ok] at freed
    exact freed

theorem retireIndeterminateAndCancelQueued_retired {queued : List OperationRef}
    (ok : c.retireIndeterminateAndCancelQueued id = .ok (queued, c')) :
    c'.retiredIndeterminate = c.retiredIndeterminate.insert id := by
  unfold retireIndeterminateAndCancelQueued at ok
  split at ok
  · cases ok
  simp only [guard_eq_ok] at ok
  obtain ⟨-, ok⟩ := ok
  cases ok
  rfl

theorem compactRetiredIndeterminateDetail_retired
    (ok : c.compactRetiredIndeterminateDetail id = .ok c') :
    c'.retiredIndeterminate = c.retiredIndeterminate := by
  obtain ⟨-, ok⟩ := guard_eq_ok.mp ok
  split at ok
  · cases ok
  · obtain ⟨-, ok⟩ := guard_eq_ok.mp ok
    cases ok
    rfl

theorem pruneTerminalBeforeGeneration_retired {deviceId : String} {currentGeneration removed : Nat}
    (ok : c.pruneTerminalBeforeGeneration deviceId currentGeneration = .ok (removed, c')) :
    c'.retiredIndeterminate = c.retiredIndeterminate := by
  obtain ⟨-, ok⟩ := guard_eq_ok.mp ok
  cases ok
  rfl

/-- The retired ids survive a restart whole. -/
theorem restoreAfterRestart_retired {limits : AdmissionLimits} {snapshot : HubAdmissionSnapshot}
    (taken : c.snapshotForRestart = some snapshot)
    (ok : restoreAfterRestart limits snapshot = .ok c') :
    c'.retiredIndeterminate = c.retiredIndeterminate := by
  unfold restoreAfterRestart at ok
  rw [restoreRetired_eq taken] at ok
  by_cases full : c.retiredIndeterminate.size > maxRetiredOperationTombstones
  · simp only [if_pos full] at ok
    cases ok
  · simp only [if_neg full] at ok
    split at ok
    · cases ok
    split at ok
    · cases ok
    · obtain ⟨-, ok⟩ := guard_eq_ok.mp ok
      cases ok
      rfl

end HubAdmissionController

namespace AuthoritativeOperationController
variable {s s' : AuthoritativeOperationController} {id : String}

/-! ### The retired ids along a run -/

theorem rotateOldest_retired (s : AuthoritativeOperationController) :
    s.rotateOldest.2.admission.retiredIndeterminate = s.admission.retiredIndeterminate := by
  unfold rotateOldest
  split
  · rfl
  dsimp only
  split
  · rfl
  split
  · rfl
  · next compacted =>
    have same := compactRetiredIndeterminateDetail_retired compacted
    split <;> exact same

theorem rotateRetirementHistory_retired (rounds : Nat) (s : AuthoritativeOperationController) :
    (rotateRetirementHistory rounds s).2.admission.retiredIndeterminate =
      s.admission.retiredIndeterminate :=
  rotateRetirementHistory_keeps (f := fun s => s.admission.retiredIndeterminate) rotateOldest_retired rounds s

variable (order : IterationOrder)

theorem cancelQueued_retired (nowMs : Nat)
    (s : AuthoritativeOperationController) (queuedId : String) :
    (s.cancelQueued order nowMs queuedId).2.admission.retiredIndeterminate =
      s.admission.retiredIndeterminate := by
  unfold cancelQueued
  split
  · rfl
  · next cancelled =>
    have same := cancel_retired cancelled
    split <;> exact same
  · next cancelled => exact cancel_retired cancelled

theorem cancelEachQueued_retired (nowMs : Nat) (ids : List String)
    (s : AuthoritativeOperationController) :
    (cancelEachQueued order nowMs ids s).2.admission.retiredIndeterminate =
      s.admission.retiredIndeterminate := by
  induction ids generalizing s with
  | nil => rfl
  | cons queuedId rest ih =>
    have one := cancelQueued_retired order nowMs s queuedId
    rw [cancelEachQueued]
    split
    · next e s' eq => rwa [eq] at one
    · next s' eq => rw [ih s', ← one, eq]

theorem markIndeterminateInternal_retired
    (s : AuthoritativeOperationController) (id : String) (reason : IndeterminateReason) (nowMs : Nat) :
    (s.markIndeterminateInternal order id reason nowMs).2.admission.retiredIndeterminate =
      s.admission.retiredIndeterminate := by
  unfold markIndeterminateInternal
  split
  · rfl
  split
  · rfl
  split
  · rfl
  split
  · rfl
  · next target _ _ _ _ next admission marked =>
    have first := markIndeterminate_retired marked
    have each := cancelEachQueued_retired order nowMs
      (order.arrange (s.queuedIds target.operation.deviceId id)) {s with admission := admission}
    split
    · next e s' eq => rw [eq] at each; exact each.trans first
    · next s' eq =>
      rw [eq] at each
      split <;> exact each.trans first

/-- A later ledger denies every id an earlier one does. -/
def StillDenies (s s' : AuthoritativeOperationController) : Prop :=
  ∀ id : String, id ∈ s.admission.retiredIndeterminate → id ∈ s'.admission.retiredIndeterminate

theorem stillDenies_of_eq
    (same : s'.admission.retiredIndeterminate = s.admission.retiredIndeterminate) :
    s.StillDenies s' := fun _ mem => same ▸ mem

theorem stillDenies_of_insert
    (added : s'.admission.retiredIndeterminate = s.admission.retiredIndeterminate.insert id) :
    s.StillDenies s' := fun _ mem => added ▸ Std.ExtTreeSet.mem_insert.mpr (.inr mem)

/-- A release adds its id to the denied ones, or fails and keeps them. -/
theorem releaseRetired_retired (s : AuthoritativeOperationController)
    (id : String) (retirement : RetirementRecord) (nowMs : Nat) :
    (s.releaseRetired order id retirement nowMs).2.admission.retiredIndeterminate =
        s.admission.retiredIndeterminate.insert id ∨
      (s.releaseRetired order id retirement nowMs).2.admission.retiredIndeterminate =
          s.admission.retiredIndeterminate ∧
        ∃ e, (s.releaseRetired order id retirement nowMs).1 = .error e := by
  unfold releaseRetired
  split
  · split
    · exact .inr ⟨rfl, _, rfl⟩
    · split
      · exact .inr ⟨rfl, _, rfl⟩
      · next released =>
        left
        have added := retireIndeterminateAndCancelQueued_retired released
        split <;> exact added
  · split
    · exact .inr ⟨rfl, _, rfl⟩
    · next released => exact .inl (retireIndeterminate_retired released)

/-- A retirement denies its id for good, and takes none off the list. -/
theorem retire_retired (s : AuthoritativeOperationController) (id : String)
    (transition : RetirementTransition) :
    s.StillDenies (s.retireIndeterminateWithDisposition order id transition).2 ∧
      ∀ answer, (s.retireIndeterminateWithDisposition order id transition).1 = .ok answer →
        id ∈ (s.retireIndeterminateWithDisposition order id transition).2.admission.retiredIndeterminate := by
  unfold retireIndeterminateWithDisposition
  split
  · exact ⟨fun _ mem => mem, fun _ ok => by cases ok⟩
  · next retirement _ =>
    have release := releaseRetired_retired order s id retirement transition.nowMs
    split
    · next e s' eq =>
      rw [eq] at release
      refine ⟨?_, fun _ ok => by cases ok⟩
      rcases release with added | ⟨same, -⟩
      · exact stillDenies_of_insert added
      · exact stillDenies_of_eq same
    · next next s' eq =>
      rw [eq] at release
      have added := release.resolve_right fun ⟨_, e, failed⟩ => by cases failed
      have rotated := rotateRetirementHistory_retired (s'.retirements ++ [retirement]).length
        {s' with
          quarantines := s'.quarantines.erase retirement.operation.deviceId
          retirements := s'.retirements ++ [retirement]}
      dsimp only
      split
      · next e s'' eq =>
        rw [eq] at rotated
        exact ⟨stillDenies_of_insert (rotated.trans added), fun _ ok => by cases ok⟩
      · next s'' eq =>
        rw [eq] at rotated
        refine ⟨stillDenies_of_insert (rotated.trans added), fun _ _ => ?_⟩
        rw [show s''.admission.retiredIndeterminate = _ from rotated.trans added]
        exact Std.ExtTreeSet.mem_insert_self

/-- Neither a quarantine nor a denied id changes. -/
structure Leaves (s s' : AuthoritativeOperationController) : Prop where
  quarantines : s'.quarantines = s.quarantines
  retired : s'.admission.retiredIndeterminate = s.admission.retiredIndeterminate

theorem prepareWithMetadata_leaves (s : AuthoritativeOperationController) (operation : OperationRef)
    (owner : OperationOwner) (capability : DeviceCapability) (metadata : OperationAdmissionMetadata)
    (nowMs : Nat) :
    s.Leaves (s.prepareWithMetadata operation owner capability metadata nowMs).2 := by
  unfold prepareWithMetadata
  have normal := s.admission.admitOperation_retired operation
  repeat' split
  all_goals refine ⟨rfl, ?_⟩
  all_goals first
    | rfl
    | (next admitted => exact admitRecoveryReadOnly_retired admitted)
    | (next admitted => rw [admitted] at normal; exact normal)

theorem attempt_leaves {α : Type} {answer : α → LedgerResponse}
    {outcome : Except ExecutionError (α × AuthoritativeOperationController)}
    (ok : ∀ {a s'}, outcome = .ok (a, s') → s.Leaves s') :
    s.Leaves (s.attempt answer outcome).2 := by
  cases result : outcome with
  | error e => exact ⟨rfl, rfl⟩
  | ok pair => exact ok result

theorem attempt_stillDenies {α : Type} {answer : α → LedgerResponse}
    {outcome : Except ExecutionError (α × AuthoritativeOperationController)}
    (ok : ∀ {a s'}, outcome = .ok (a, s') →
      s'.admission.retiredIndeterminate = s.admission.retiredIndeterminate) :
    s.StillDenies (s.attempt answer outcome).2 := by
  cases result : outcome with
  | error e => exact fun _ mem => mem
  | ok pair => exact stillDenies_of_eq (ok result)

theorem interruptRead_leaves {order : IterationOrder} {nowMs : Nat}
    {answer : CompletionDecision × ExecutionReceipt}
    (ok : s.markRecoveryReadInterrupted order id nowMs = .ok (answer, s')) : s.Leaves s' := by
  unfold markRecoveryReadInterrupted at ok
  split at ok
  · cases ok
  simp only [guard_eq_ok, bind_eq_ok] at ok
  obtain ⟨-, ⟨next, admission⟩, failed, ok⟩ := ok
  cases ok
  exact ⟨rfl, failRecoveryReadOnly_retired failed⟩

/-- Calls that never touch a quarantine. -/
def LeavesQuarantines : LedgerEvent → Bool
  | .markIndeterminate .. | .markConnectionLost .. | .reconcileAuthoritativeTerminal ..
  | .resolveIndeterminate .. | .retireIndeterminate .. | .acceptCurrentState .. | .restart .. => false
  | _ => true

theorem next_leaves {event : LedgerEvent} (leaves : LeavesQuarantines event = true) :
    s.Leaves (s.next event) := by
  unfold next
  cases event with
  | prepareWithMetadata => exact prepareWithMetadata_leaves ..
  | markDispatchedWithBinding =>
    refine attempt_leaves fun ok => ?_
    simp only [markDispatchedWithBinding, guard_eq_ok, bind_eq_ok] at ok
    obtain ⟨-, record, -, -, admission, marked, ok⟩ := ok
    cases ok
    exact ⟨rfl, markDispatched_retired marked⟩
  | requestCancel =>
    refine attempt_leaves fun ok => ?_
    simp only [requestCancel, bind_eq_ok] at ok
    obtain ⟨record, -, ⟨decision, admission⟩, cancelled, ok⟩ := ok
    have same := cancel_retired cancelled
    cases decision <;> cases ok <;> exact ⟨rfl, same⟩
  | finalize =>
    refine attempt_leaves fun ok => ?_
    simp only [finalize, guard_eq_ok, bind_eq_ok] at ok
    obtain ⟨record, -, -, ⟨next, admission⟩, settled, ok⟩ := ok
    cases ok
    exact ⟨rfl, finalizeTerminal_retired settled⟩
  | resolveHubPreEnqueueNonDelivery =>
    refine attempt_leaves fun ok => ?_
    simp only [resolveHubPreEnqueueNonDelivery, guard_eq_ok, bind_eq_ok] at ok
    obtain ⟨-, record, -, -, ok⟩ := ok
    split at ok
    · cases ok
      exact ⟨rfl, rfl⟩
    · simp only [guard_eq_ok, bind_eq_ok] at ok
      obtain ⟨-, ⟨next, admission⟩, settled, ok⟩ := ok
      cases ok
      exact ⟨rfl, finalizeTerminal_retired settled⟩
  | markRecoveryReadInterrupted => exact attempt_leaves interruptRead_leaves
  | markReconciliationEvidenceGap =>
    refine attempt_leaves fun ok => ?_
    unfold markReconciliationEvidenceGap at ok
    split at ok
    · cases ok
    · obtain ⟨-, ok⟩ := guard_eq_ok.mp ok
      cases ok
      exact ⟨rfl, rfl⟩
  | markReconciliationOperatorRequired =>
    refine attempt_leaves fun ok => ?_
    unfold markReconciliationOperatorRequired at ok
    split at ok
    · cases ok
    · obtain ⟨-, ok⟩ := guard_eq_ok.mp ok
      cases ok
      exact ⟨rfl, rfl⟩
  | resumeMutations =>
    refine attempt_leaves fun ok => ?_
    obtain ⟨-, ok⟩ := guard_eq_ok.mp ok
    split at ok
    · cases ok
    simp only [guard_eq_ok] at ok
    obtain ⟨-, -, ok⟩ := ok
    cases ok
    exact ⟨rfl, rfl⟩
  | attachRecoverableResult =>
    refine attempt_leaves fun ok => ?_
    simp only [attachRecoverableResult, guard_eq_ok, bind_eq_ok] at ok
    obtain ⟨record, -, -, ok⟩ := ok
    cases ok
    exact ⟨rfl, rfl⟩
  | pruneTerminalBeforeGeneration =>
    simp only [step, pruneTerminalBeforeGeneration]
    repeat' split
    all_goals refine ⟨rfl, ?_⟩
    all_goals first
      | rfl
      | (next pruned => exact pruneTerminalBeforeGeneration_retired pruned)
  | _ => cases leaves

theorem restore_retired {limits : AdmissionLimits} {snapshot : AuthoritativeSafetySnapshot}
    (taken : s.snapshotForRestart = some snapshot)
    (restored : restoreAfterRestart limits snapshot = .ok s') :
    s'.admission.retiredIndeterminate = s.admission.retiredIndeterminate := by
  simp only [snapshotForRestart, Option.map_eq_some_iff] at taken
  obtain ⟨admission, taken, rfl⟩ := taken
  obtain ⟨-, restored⟩ := guard_eq_ok.mp restored
  split at restored
  · cases restored
  · next admission' admitted =>
    split at restored
    · cases restored
    · next ledger read =>
      cases restored
      simp only [restoreLedger, Option.bind_eq_bind, Option.bind_eq_some_iff] at read
      obtain ⟨_, -, -, -, _, -, -, -, _, -, -, -, _, -, -, -, -, -, read⟩ := read
      cases read
      exact restoreAfterRestart_retired taken admitted

/-- No call takes an id off the denied ones. -/
theorem next_stillDenies (s : AuthoritativeOperationController) (event : LedgerEvent) :
    s.StillDenies (s.next event) := by
  cases event with
  | markIndeterminate =>
    simp only [next, step, markIndeterminate]
    split
    · exact fun _ mem => mem
    · exact stillDenies_of_eq (markIndeterminateInternal_retired ..)
  | markConnectionLost =>
    simp only [next, step, markConnectionLost]
    split
    · split
      · exact fun _ mem => mem
      · next interrupted => exact stillDenies_of_eq (interruptRead_leaves interrupted).retired
    · exact stillDenies_of_eq (markIndeterminateInternal_retired ..)
  | reconcileAuthoritativeTerminal =>
    refine attempt_stillDenies fun ok => ?_
    obtain ⟨-, ok⟩ := guard_eq_ok.mp ok
    split at ok
    · cases ok
    obtain ⟨-, ok⟩ := guard_eq_ok.mp ok
    split at ok
    · cases ok
    simp only [guard_eq_ok, bind_eq_ok] at ok
    obtain ⟨-, ⟨next, admission⟩, settled, ok⟩ := ok
    cases ok
    exact reconcileIndeterminateTerminal_retired settled
  | resolveIndeterminate =>
    refine attempt_stillDenies fun ok => ?_
    obtain ⟨-, ok⟩ := guard_eq_ok.mp ok
    split at ok
    · cases ok
    obtain ⟨-, ok⟩ := guard_eq_ok.mp ok
    split at ok
    · cases ok
    simp only [guard_eq_ok, bind_eq_ok] at ok
    obtain ⟨-, -, ⟨next, admission⟩, settled, ok⟩ := ok
    cases ok
    exact resolveIndeterminate_retired settled
  | retireIndeterminate =>
    simp only [next, step, retireIndeterminate]
    split
    · exact fun _ mem => mem
    · exact (retire_retired ..).1
  | acceptCurrentState => exact (retire_retired ..).1
  | restart limits =>
    simp only [next, step, restart]
    split
    · exact fun _ mem => mem
    · next snapshot taken =>
      split
      · exact fun _ mem => mem
      · next restored => exact stillDenies_of_eq (restore_retired taken restored)
  | _ => exact stillDenies_of_eq (next_leaves rfl).retired

theorem run_stillDenies (s : AuthoritativeOperationController) (events : List LedgerEvent) :
    s.StillDenies (run next s events) := by
  induction events generalizing s with
  | nil => exact fun _ mem => mem
  | cons event rest ih => exact fun a mem => ih (s.next event) a (next_stillDenies s event a mem)

variable {response : LedgerResponse}

theorem answered_ok {α : Type} {answer : α → LedgerResponse}
    {outcome : Except ExecutionError α × AuthoritativeOperationController}
    (ok : (answered answer outcome).1 = .ok response) : ∃ a, outcome.1 = .ok a := by
  obtain ⟨result, after⟩ := outcome
  cases result with
  | error e => cases ok
  | ok a => exact ⟨a, rfl⟩

/-- The id of a successful retirement is denied. -/
theorem denied_of_retirement {event : LedgerEvent} {transition : RetirementTransition}
    (asks : event.retirement = some (id, transition)) (ok : (s.step event).1 = .ok response) :
    id ∈ (s.next event).admission.retiredIndeterminate := by
  cases event with
  | retireIndeterminate _ _ authority =>
    have trusted : authority = .localMaintenanceOperator := by
      by_contra untrusted
      rw [LedgerEvent.retirement, if_neg untrusted] at asks
      cases asks
    subst trusted
    cases asks
    obtain ⟨answer, retired⟩ := answered_ok ok
    exact (retire_retired ..).2 answer retired
  | acceptCurrentState =>
    cases asks
    obtain ⟨answer, retired⟩ := answered_ok ok
    exact (retire_retired ..).2 answer retired
  | _ => cases asks

/-! ### Admission of a denied id -/

/-- A denied id is only admitted to the recovery lane. -/
theorem readmits_of_ok {operation : OperationRef} {owner : OperationOwner}
    {capability : DeviceCapability} {metadata : OperationAdmissionMetadata} {nowMs : Nat}
    (denied : operation.operationId ∈ s.admission.retiredIndeterminate)
    (ok : (s.step (.prepareWithMetadata operation owner capability metadata nowMs)).1 = .ok response) :
    s.Readmits (.prepareWithMetadata operation owner capability metadata nowMs) := by
  simp only [step, prepareWithMetadata] at ok
  split at ok
  · cases ok
  · next fresh =>
    rw [not_or] at fresh
    split at ok
    · cases ok
    split at ok
    · cases ok
    split at ok
    · next held =>
      split at ok
      · cases ok
      · next reads => exact ⟨by simp [held], not_not.mp reads, denied, fresh.1⟩
    · -- The ordinary lane refuses a retired id.
      have refused : ∃ e c, s.admission.admitOperation operation = (.error e, c) := by
        unfold HubAdmissionController.admitOperation
        split
        · exact ⟨_, _, rfl⟩
        · rw [if_pos (.inr denied)]
          exact ⟨_, _, rfl⟩
      obtain ⟨e, c, refused⟩ := refused
      rw [refused] at ok
      cases ok

/-- Once an operation is retired or accepted, no later call prepares its id again, unless
that call readmits it to the recovery lane. -/
theorem replay_denied (initial : AuthoritativeOperationController)
    (before after : List LedgerEvent) (event : LedgerEvent) {id : String}
    {transition : RetirementTransition} {response : LedgerResponse}
    (asks : event.retirement = some (id, transition))
    (ok : ((run next initial before).step event).1 = .ok response)
    {operation : OperationRef} {owner : OperationOwner} {capability : DeviceCapability}
    {metadata : OperationAdmissionMetadata} {nowMs : Nat} (replayed : operation.operationId = id)
    (barred : ¬(run next initial (before ++ event :: after)).Readmits
      (.prepareWithMetadata operation owner capability metadata nowMs)) :
    ∃ e, ((run next initial (before ++ event :: after)).step
      (.prepareWithMetadata operation owner capability metadata nowMs)).1 = .error e := by
  have denied : operation.operationId ∈
      (run next initial (before ++ event :: after)).admission.retiredIndeterminate := by
    rw [run_append, replayed]
    exact run_stillDenies _ after id (denied_of_retirement asks ok)
  cases outcome : ((run next initial (before ++ event :: after)).step
      (.prepareWithMetadata operation owner capability metadata nowMs)).1 with
  | error e => exact ⟨e, rfl⟩
  | ok answer => exact absurd (readmits_of_ok denied outcome) barred

/-- A retired scroll is not prepared again, before or after a restart. -/
theorem replay_denied_retired_scroll :
    ∃ e, ((run next (empty ⟨1, 1⟩) ((sent "desk" "x" .scroll ++ [lost "x"]) ++
      retired "x" :: [.restart ⟨1, 1⟩])).step
        (.prepareWithMetadata ⟨"lamp", 1, "x"⟩ alice .readFile .empty 1)).1 = .error e :=
  replay_denied (empty ⟨1, 1⟩) (sent "desk" "x" .scroll ++ [lost "x"]) [.restart ⟨1, 1⟩]
    (retired "x") rfl (show _ = Except.ok _ from rfl) rfl
    (fun readmits => absurd readmits.1 (by decide +kernel))

/-- Sixty-five scrolls of `desk` are lost and retired, and one more is lost. -/
def retiredInTurn : List LedgerEvent :=
  (List.range 65).flatMap fun n => sent "desk" (letter n) .scroll ++ [lost (letter n), retired (letter n)]

set_option maxRecDepth 100000 in
/-- The first retired id is prepared again, as a recovery read of its quarantined device. -/
theorem retiredInTurn_replays : ∃ initial before after, new ⟨1, 1⟩ = .ok initial ∧
    (((run next initial before).step (retired (letter 0))).1.isOk = true ∧
      ((run next initial (before ++ retired (letter 0) :: after)).step
        (.prepareWithMetadata ⟨"desk", 1, letter 0⟩ alice .readFile .empty 1)).1.isOk = true) := by
  refine ⟨empty ⟨1, 1⟩, sent "desk" (letter 0) .scroll ++ [lost (letter 0)],
    retiredInTurn.drop 4 ++ sent "desk" "x" .scroll ++ [lost "x"], rfl, by decide +kernel, ?_⟩
  decide +kernel

end AuthoritativeOperationController

end Gateway.Execution
