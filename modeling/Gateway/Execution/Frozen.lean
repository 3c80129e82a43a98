import Gateway.Execution.Lag
import Gateway.Execution.Survival

/-! Retired records stay as they were retired.

A retired record is still ambiguous, so whatever is guarded by that state alone
still applies to it. One call does: handing it to an operator overwrites the
status its retirement keeps. Along every run without such a call a retired record
does not change until the history forgets it. -/
namespace Gateway.Execution
open Data Device Machine

namespace AuthoritativeOperationController
variable {s s' : AuthoritativeOperationController} {retirement : RetirementRecord}
  {r r' : SafetyOperation}

/-- The record is as its retirement found it. -/
structure FrozenAs (retirement : RetirementRecord) (r : SafetyOperation) : Prop where
  operation : r.operation = retirement.operation
  state : r.state = .indeterminate
  receipt : r.receipt = none
  result : r.recoverableResult = none
  reason : r.indeterminateReason = some retirement.indeterminateReason
  status : r.reconciliationStatus.getD .operatorRequired = retirement.priorReconciliationStatus

/-- Every retired record is as its retirement found it. -/
def RetiredFrozen (s : AuthoritativeOperationController) : Prop :=
  ∀ retirement ∈ s.retirements, ∃ r,
    s.operations[retirement.operation.operationId]? = some r ∧ FrozenAs retirement r

/-- Nothing a retirement freezes differs. -/
structure SameFrozen (r r' : SafetyOperation) : Prop where
  state : r'.state = r.state
  receipt : r'.receipt = r.receipt
  result : r'.recoverableResult = r.recoverableResult
  reason : r'.indeterminateReason = r.indeterminateReason
  status : r'.reconciliationStatus = r.reconciliationStatus

/-- A retired record does not lag: it waits for nothing. Its status is written out. -/
theorem Sustains.frozenAs (h : s.Sustains Frozen) (mem : retirement ∈ s.retirements) :
    ∃ r, s.operations[retirement.operation.operationId]? = some r ∧ FrozenAs retirement r ∧
      r.reconciliationStatus = some retirement.priorReconciliationStatus := by
  obtain ⟨records, lags, orderly, frozen⟩ := h
  obtain ⟨r, retained⟩ := frozen retirement mem
  obtain ⟨x, found, same, ambiguous, -⟩ := orderly.accounted.kept retirement mem
  obtain rfl : x = r := Option.some.inj (found.symm.trans retained.found)
  have state : x.state = .indeterminate := (HubOperationState.eq_indeterminate_iff _).mpr ambiguous
  have unaccounted := (orderly.sound _ x found).ambiguous ambiguous
  obtain ⟨status, told, -⟩ := unaccounted.status
  have prior := retained.prior
  refine ⟨x, lags.get_right found (by rw [state]; decide),
    ⟨same, state, unaccounted.receipt, unaccounted.result, retained.reason, prior⟩, ?_⟩
  rw [told, Option.getD_some] at prior
  rw [told, prior]

theorem Sustains.retiredFrozen (h : s.Sustains Frozen) : s.RetiredFrozen := by
  intro retirement mem
  obtain ⟨r, found, frozen, -⟩ := h.frozenAs mem
  exact ⟨r, found, frozen⟩

/-- Two ledgers that list one retirement have the same frozen record for it. -/
theorem Sustains.sameFrozen (h : s.Sustains Frozen) (h' : s'.Sustains Frozen)
    (mem : retirement ∈ s.retirements) (mem' : retirement ∈ s'.retirements)
    (found : s.operations[retirement.operation.operationId]? = some r) :
    ∃ r', s'.operations[retirement.operation.operationId]? = some r' ∧ SameFrozen r r' := by
  obtain ⟨x, here, frozen, status⟩ := h.frozenAs mem
  obtain ⟨r', there, frozen', status'⟩ := h'.frozenAs mem'
  obtain rfl : x = r := Option.some.inj (here.symm.trans found)
  refine ⟨r', there, ?_⟩
  constructor
  · rw [frozen'.state, frozen.state]
  · rw [frozen'.receipt, frozen.receipt]
  · rw [frozen'.result, frozen.result]
  · rw [frozen'.reason, frozen.reason]
  · rw [status', status]

def freezing : Care := {Care.none with freezing := True}

theorem LeavesRetired.careful {event : LedgerEvent} (h : s.LeavesRetired event)
    (records : Table SafetyOperation) : Careful freezing (s.caughtUp records) event :=
  ⟨False.elim, False.elim, fun _ => h.caughtUp⟩

theorem Sustains.next_frozen (h : s.Sustains Frozen) {event : LedgerEvent}
    (leaves : s.LeavesRetired event) : (s.next event).Sustains Frozen :=
  h.next (show event.Allowed freezing from {event.allowed_none with}) (fun _ => leaves.careful _)
    (fun orderly frozen m => frozen.move orderly trivial m)
    (fun limits orderly frozen => frozen.restarted orderly limits)

/-- Along every run that hands no retired record to an operator as something else, retired
records are frozen, and no further such call changes one whose retirement it keeps. -/
theorem retiredFrozen_of_leavesRetired {limits : AdmissionLimits}
    {initial : AuthoritativeOperationController} (created : new limits = .ok initial)
    {events : List LedgerEvent} (leaves : Machine.Meets next LeavesRetired initial events) :
    let s := run next initial events
    s.RetiredFrozen ∧ ∀ event, s.LeavesRetired event → ∀ retirement ∈ s.retirements,
      retirement ∈ (s.next event).retirements → ∀ r,
        s.operations[retirement.operation.operationId]? = some r →
          ∃ r', (s.next event).operations[retirement.operation.operationId]? = some r' ∧
            SameFrozen r r' := by
  rw [new_eq_ok created] at leaves ⊢
  have start : (empty limits).Sustains Frozen :=
    ⟨_, .refl _, orderly_empty limits, frozen_empty limits⟩
  have frozen := run_invariant (fun _ _ h leaves => h.next_frozen leaves) start leaves
  exact ⟨frozen.retiredFrozen, fun event leaves retirement mem kept r found =>
    frozen.sameFrozen (frozen.next_frozen leaves) mem kept found⟩

/-! ### A frozen record, and one that thaws -/

/-- A scroll sent under a binding, its connection lost and its evidence with it, then retired. -/
def retiredGap : List LedgerEvent :=
  [.prepareWithMetadata ⟨"desk", 1, "x"⟩ alice .scroll .empty 1,
    .markDispatchedWithBinding "x" alice 1 (some ⟨1, "grant"⟩) 1,
    .markConnectionLost .given "x" 1, .markReconciliationEvidenceGap "x", retired "x"]

/-- A retired scroll is frozen. -/
theorem retiredFrozen_retiredGap : (run next (empty ⟨1, 1⟩) retiredGap).RetiredFrozen :=
  (retiredFrozen_of_leavesRetired (show new ⟨1, 1⟩ = _ from rfl)
    (show Machine.Meets next LeavesRetired (empty ⟨1, 1⟩) retiredGap from
      ⟨trivial, trivial, trivial, trivial, trivial, trivial⟩)).1

/-- A stale report hands the retired scroll to an operator, and its record no longer says what
the retirement does. -/
theorem retiredGap_thaws : ∃ initial, new ⟨1, 1⟩ = .ok initial ∧
    ¬(run next initial
      (retiredGap ++ [.markReconciliationOperatorRequired "x"])).RetiredFrozen := by
  refine ⟨empty ⟨1, 1⟩, rfl, fun frozen => ?_⟩
  have thawed : (run next (empty ⟨1, 1⟩)
      (retiredGap ++ [.markReconciliationOperatorRequired "x"])).retirements.all (fun retirement =>
        ((run next (empty ⟨1, 1⟩) (retiredGap ++
          [.markReconciliationOperatorRequired "x"])).operations[retirement.operation.operationId]?.all
            fun r => r.reconciliationStatus.getD .operatorRequired ≠
              retirement.priorReconciliationStatus)) = true ∧
      (run next (empty ⟨1, 1⟩)
        (retiredGap ++ [.markReconciliationOperatorRequired "x"])).retirements ≠ [] := by
    decide +kernel
  obtain ⟨differs, some⟩ := thawed
  obtain ⟨retirement, mem⟩ := List.exists_mem_of_ne_nil _ some
  obtain ⟨r, found, same⟩ := frozen retirement mem
  have apart := List.all_eq_true.mp differs retirement mem
  rw [found, Option.all_some, decide_eq_true_eq] at apart
  exact apart same.status

end AuthoritativeOperationController

end Gateway.Execution
