import Gateway.Execution.Restoration

/-! Whole runs of the ledger.

Every call leaves an orderly ledger orderly, with one exception: a retirement
whose rotation fails after the admission ledger has promoted another operation. -/
namespace Gateway.Execution
open Data Device

/-- The retirement an event asks for. -/
def LedgerEvent.retirement :
    LedgerEvent → Option (String × AuthoritativeOperationController.RetirementTransition)
  | .retireIndeterminate _ operationId authority requestedPolicy reason authorizedDeviceGeneration
      nowMs =>
    if authority = .localMaintenanceOperator then
      some (operationId, ⟨.retired, authority, requestedPolicy, reason, authorizedDeviceGeneration,
        nowMs⟩)
    else none
  | .acceptCurrentState _ operationId requestedPolicy reason authorizedDeviceGeneration nowMs =>
    some (operationId, ⟨.currentStateAccepted, .localUserPresence, requestedPolicy, reason,
      authorizedDeviceGeneration, nowMs⟩)
  | _ => none

/-- What an event may do is known of its moves. -/
structure LedgerEvent.Allowed (care : Care) (event : LedgerEvent) : Prop where
  retires : event.retirement ≠ none → care.retires
  attaches : ∀ id owner deviceGeneration result,
    event = .attachRecoverableResult id owner deviceGeneration result → care.attaches id
  prunes : ∀ deviceId currentGeneration,
    event = .pruneTerminalBeforeGeneration deviceId currentGeneration →
      care.prunes deviceId currentGeneration
  resumes : ∀ deviceId sourceOperationId authority authorizedDeviceGeneration reason nowMs,
    event = .resumeMutations deviceId sourceOperationId authority authorizedDeviceGeneration reason
      nowMs → care.resumes deviceId

theorem LedgerEvent.allowed_none (event : LedgerEvent) : event.Allowed .none := by
  constructor <;> intros <;> trivial

theorem LedgerEvent.allowed_whole (event : LedgerEvent) : event.Allowed .whole := by
  constructor <;> intros <;> trivial

namespace AuthoritativeOperationController
variable {care : Care} {s s' : AuthoritativeOperationController}

/-- The event is no retirement that overfills the history. -/
def Fits (s : AuthoritativeOperationController) (event : LedgerEvent) : Prop :=
  ∀ id transition, event.retirement = some (id, transition) → ¬s.Overfull id transition

/-- The call keeps to what a ledger needs to be read back. -/
def Legible (s : AuthoritativeOperationController) (event : LedgerEvent) : Prop :=
  (∀ id transition retirement, event.retirement = some (id, transition) →
    s.retirementFor id transition = .ok retirement → s.Unresolved id ∧ 0 < transition.nowMs) ∧
  match event with
  | .prepareWithMetadata operation _ _ _ _ =>
    ¬s.Readmits event ∧ (operation.operationId ∉ s.operations →
      ∀ resolution ∈ s.autoResolutions, resolution.operation.operationId ≠ operation.operationId)
  | .markDispatchedWithBinding id _ _ binding _ =>
    ∀ r, s.operations[id]? = some r → r.state = .activeNotDispatched → s.Sendable r binding
  | .resolveHubPreEnqueueNonDelivery _ id _ _ _ _ _ =>
    ∀ r, s.operations[id]? = some r → r.state = .dispatched →
      r.operation.isBounded = true ∧ s.Spare
  | .markReconciliationOperatorRequired id => s.AsRetired id
  | .reconcileAuthoritativeTerminal _ terminal _ =>
    ∀ r, s.operations[terminal.operation.operationId]? = some r → r.state = .indeterminate → s.Spare
  | _ => True

/-- The call files no automatic settlement twice: it admits no id that was settled
automatically under a record since forgotten, and a full history drops only the
settlement of such a record. -/
def FilesOnce (s : AuthoritativeOperationController) : LedgerEvent → Prop
  | .prepareWithMetadata operation _ _ _ _ =>
    operation.operationId ∉ s.operations → s.Unfiled operation.operationId
  | .resolveHubPreEnqueueNonDelivery _ id _ _ _ _ _ =>
    ∀ r, s.operations[id]? = some r → r.state = .dispatched → s.Spare
  | .reconcileAuthoritativeTerminal _ terminal _ =>
    ∀ r, s.operations[terminal.operation.operationId]? = some r → r.state = .indeterminate → s.Spare
  | _ => True

/-- The call hands no retired operation to an operator that was retired as something else. -/
def LeavesRetired (s : AuthoritativeOperationController) : LedgerEvent → Prop
  | .markReconciliationOperatorRequired id => s.AsRetired id
  | _ => True

/-- The call is as careful as is known of its moves. -/
structure Careful (care : Care) (s : AuthoritativeOperationController) (event : LedgerEvent) : Prop where
  legible : care.legible → s.Legible event
  filing : care.filing → s.FilesOnce event
  freezing : care.freezing → s.LeavesRetired event

theorem careful_none (s : AuthoritativeOperationController) (event : LedgerEvent) :
    Careful .none s event :=
  ⟨False.elim, False.elim, False.elim⟩

theorem Legible.careful {event : LedgerEvent} (h : s.Legible event) : Careful care s event := by
  obtain ⟨-, rest⟩ := id h
  refine ⟨fun _ => h, fun _ => ?_, fun _ => ?_⟩
  · cases event with
    | prepareWithMetadata => exact rest.2
    | resolveHubPreEnqueueNonDelivery => exact fun r found sent => (rest r found sent).2
    | reconcileAuthoritativeTerminal => exact rest
    | _ => trivial
  · cases event with
    | markReconciliationOperatorRequired => exact rest
    | _ => trivial

theorem attempt_moves {α : Type} {answer : α → LedgerResponse}
    {outcome : Except ExecutionError (α × AuthoritativeOperationController)}
    (ok : ∀ {a s'}, outcome = .ok (a, s') → Moves care s s') : Moves care s (s.attempt answer outcome).2 := by
  cases result : outcome with
  | error e => exact .refl s
  | ok pair => exact ok result

theorem Orderly.retirement_moves (h : s.Orderly) {event : LedgerEvent} {id : String}
    {transition : RetirementTransition} (asks : event.retirement = some (id, transition))
    (fits : s.Fits event) (order : IterationOrder) (allowed : care.retires)
    (careful : Careful care s event) :
    Moves care s (s.retireIndeterminateWithDisposition order id transition).2 := by
  rcases h.coherent.retire_cases care h.accounted order transition (fits id transition asks) allowed
    fun legible retirement ok => (careful.legible legible).1 id transition retirement asks ok with
    ⟨e, failed⟩ | ⟨retirement, next, -, -, eq, moves⟩
  · rw [failed]
    exact .refl s
  · rw [eq]
    exact moves

/-- A restart leads to the one ledger it can, or changes nothing. -/
theorem Orderly.restart_cases (h : s.Orderly) (limits : AdmissionLimits) :
    s.next (.restart limits) = s.restarted limits ∨ s.next (.restart limits) = s := by
  simp only [AuthoritativeOperationController.next, step, restart]
  split
  · exact .inr rfl
  · next snapshot taken =>
    split
    · exact .inr rfl
    · next s' restored => exact .inl (h.restore_eq taken restored)

/-- A call is a restart or a sequence of moves. -/
theorem Orderly.next_cases (h : s.Orderly) (care : Care) (event : LedgerEvent) (fits : s.Fits event)
    (careful : Careful care s event) (allowed : event.Allowed care) :
    (∃ limits, event = .restart limits ∧ s.next event = s.restarted limits) ∨
      Moves care s (s.next event) := by
  cases event with
  | prepareWithMetadata operation owner capability metadata nowMs =>
    exact .inr (prepare_moves s operation owner capability metadata nowMs
      careful.filing fun legible => (careful.legible legible).2.1)
  | markDispatchedWithBinding =>
    exact .inr (attempt_moves (h.coherent.dispatch_moves fun legible => (careful.legible legible).2))
  | requestCancel => exact .inr (attempt_moves h.coherent.requestCancel_moves)
  | finalize => exact .inr (attempt_moves h.coherent.finalize_moves)
  | resolveHubPreEnqueueNonDelivery =>
    exact .inr (attempt_moves (h.coherent.neverEnqueued_moves
      (fun legible r found sent => ((careful.legible legible).2 r found sent).1) careful.filing))
  | markIndeterminate order id owner generation reason nowMs =>
    right
    simp only [AuthoritativeOperationController.next, step, markIndeterminate]
    split
    · exact .refl s
    · rcases h.coherent.markIndeterminate_cases care order id reason nowMs with
        ⟨e, failed⟩ | ⟨s', target, marked, moves, -⟩
      · rw [failed]
        exact .refl s
      · rw [marked]
        exact moves
  | markRecoveryReadInterrupted => exact .inr (attempt_moves h.coherent.interruptRead_moves)
  | markConnectionLost order id nowMs =>
    right
    simp only [AuthoritativeOperationController.next, step, markConnectionLost]
    split
    · split
      · exact .refl s
      · next interrupted => exact h.coherent.interruptRead_moves interrupted
    · rcases h.coherent.markIndeterminate_cases care order id .connectionLost nowMs with
        ⟨e, failed⟩ | ⟨s', target, marked, moves, -⟩
      · rw [failed]
        exact .refl s
      · rw [marked]
        exact moves
  | markReconciliationEvidenceGap => exact .inr (attempt_moves h.coherent.evidenceGap_moves)
  | markReconciliationOperatorRequired =>
    exact .inr (attempt_moves (h.coherent.operatorRequired_moves careful.freezing))
  | reconcileAuthoritativeTerminal =>
    exact .inr (attempt_moves (h.coherent.reconcile_moves careful.filing))
  | resolveIndeterminate => exact .inr (attempt_moves h.coherent.resolve_moves)
  | retireIndeterminate order id authority policy reason generation nowMs =>
    right
    simp only [AuthoritativeOperationController.next, step, retireIndeterminate]
    split
    · exact .refl s
    · next local_operator =>
      obtain rfl := not_not.mp local_operator
      exact h.retirement_moves rfl fits order (allowed.retires nofun) careful
  | acceptCurrentState order id policy reason generation nowMs =>
    exact .inr (h.retirement_moves rfl fits order (allowed.retires nofun) careful)
  | resumeMutations =>
    exact .inr (attempt_moves (resume_moves (allowed.resumes _ _ _ _ _ _ rfl)))
  | attachRecoverableResult =>
    exact .inr (attempt_moves (h.coherent.attach_moves (allowed.attaches _ _ _ _ rfl)))
  | pruneTerminalBeforeGeneration deviceId generation =>
    right
    simp only [AuthoritativeOperationController.next, step]
    rcases h.coherent.prune_cases h.sound deviceId generation (allowed.prunes _ _ rfl) with
      ⟨e, failed⟩ | ⟨removed, s', pruned, moved⟩
    · rw [failed]
      exact .refl s
    · rw [pruned]
      exact moved.moves
  | restart limits =>
    rcases h.restart_cases limits with eq | eq
    · exact .inl ⟨limits, rfl, eq⟩
    · exact .inr (eq.symm ▸ .refl s)

theorem Orderly.next (h : s.Orderly) (event : LedgerEvent) (fits : s.Fits event) :
    (s.next event).Orderly := by
  rcases h.next_cases .none event fits (careful_none s event) event.allowed_none with ⟨limits, -, eq⟩ | moves
  · rw [eq]
    exact h.restarted limits
  · exact h.moves moves

theorem new_eq_ok {limits : AdmissionLimits} {initial : AuthoritativeOperationController}
    (h : new limits = .ok initial) : initial = empty limits := by
  unfold new AdmissionLimits.validate at h
  split at h
  · cases h
  · exact (Except.ok.inj h).symm

/-- Every ledger a run of fitting calls leads to is orderly. -/
theorem orderly_run (limits : AdmissionLimits) {events : List LedgerEvent}
    (fits : Machine.Meets AuthoritativeOperationController.next Fits (empty limits) events) :
    (Machine.run AuthoritativeOperationController.next (empty limits) events).Orderly :=
  Machine.run_invariant (fun _ event h fits => h.next event fits) (orderly_empty limits) fits

end AuthoritativeOperationController

end Gateway.Execution
