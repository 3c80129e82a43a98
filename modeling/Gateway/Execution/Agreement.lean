import Gateway.Execution.Runs

/-! The two ledgers say the same along every run.

What `Coherent` says through indexes is spelled out here record by record, and a
run is exhibited that breaks it: sixty-five barriers fill the retirement history,
so the rotation behind the next retirement fails after its promotion. -/
namespace Gateway.Execution
open Data Device HubOperationState SafetyOperation Machine

namespace AuthoritativeOperationController

/-- The admission ledger's maps and sets, as functions of the authoritative records. -/
structure LedgersAgree (s : AuthoritativeOperationController) : Prop where
  operations : ∀ id : String, s.admission.operations[id]? =
    s.operations[id]?.map fun r => ⟨r.operation, r.state⟩
  active : ∀ d id : String, s.admission.activeByDevice[d]? = some id ↔
    ∃ r, s.operations[id]? = some r ∧ r.operation.deviceId = d ∧
      (r.state = .activeNotDispatched ∨ r.state = .dispatched ∨ r.state = .cancelRequested)
  queued : ∀ (d : String) (op : OperationRef), op ∈ s.admission.queueOf d ↔
    ∃ r, s.operations[op.operationId]? = some r ∧ r.operation = op ∧ op.deviceId = d ∧
      r.state = .queued
  queuedOnce : ∀ d : String, (s.admission.queueOf d).Nodup
  blocked : ∀ d id : String, s.admission.blockedByIndeterminate[d]? = some id ↔
    ∃ q, s.quarantines[d]? = some q ∧ q.operationId = id
  quarantined : ∀ d id : String, (∃ q, s.quarantines[d]? = some q ∧ q.operationId = id) ↔
    ∃ r, s.operations[id]? = some r ∧ r.operation.deviceId = d ∧ r.state = .indeterminate ∧
      id ∉ s.admission.retiredIndeterminate
  recovery : ∀ id : String, id ∈ s.admission.recoveryReadOnlyOperations ↔
    ∃ r, s.operations[id]? = some r ∧ r.executionLane = .recoveryEvidenceRead ∧
      (r.state = .queued ∨ r.state = .activeNotDispatched ∨ r.state = .dispatched ∨
        r.state = .cancelRequested)
  capacity : s.admission.activeCount ≤ s.admission.limits.maxGlobalActive
  room : ∀ d : String, (s.admission.queueOf d).length ≤ s.admission.limits.maxQueuedPerDevice

variable {s : AuthoritativeOperationController}

theorem slotOf_eq_some {id d : String} : s.slotOf id = some d ↔
    ∃ r, s.operations[id]? = some r ∧ r.operation.deviceId = d ∧
      (r.state = .activeNotDispatched ∨ r.state = .dispatched ∨ r.state = .cancelRequested) := by
  rw [slotOf, Option.bind_eq_some_iff]
  refine exists_congr fun r => and_congr_right fun _ => ?_
  cases state : r.state <;> simp [slot, state, phase]

theorem waitingOf_eq_some {op : OperationRef} : s.waitingOf op.operationId = some op ↔
    ∃ r, s.operations[op.operationId]? = some r ∧ r.operation = op ∧ r.state = .queued := by
  rw [waitingOf, Option.bind_eq_some_iff]
  refine exists_congr fun r => and_congr_right fun _ => ?_
  cases state : r.state <;> simp [waits, state, phase]

theorem blockOf_eq_some {id d : String} : s.blockOf id = some d ↔
    ∃ r, s.operations[id]? = some r ∧ r.operation.deviceId = d ∧ r.state = .indeterminate ∧
      id ∉ s.admission.retiredIndeterminate := by
  rw [blockOf, Option.bind_eq_some_iff]
  refine exists_congr fun r => and_congr_right fun _ => ?_
  cases state : r.state <;> simp [blocks, state, phase, and_comm]

theorem readsOf_eq_true {id : String} : s.readsOf id = true ↔
    ∃ r, s.operations[id]? = some r ∧ r.executionLane = .recoveryEvidenceRead ∧
      (r.state = .queued ∨ r.state = .activeNotDispatched ∨ r.state = .dispatched ∨
        r.state = .cancelRequested) := by
  rw [readsOf, Option.any_eq_true]
  refine exists_congr fun r => and_congr_right fun _ => ?_
  cases state : r.state <;>
    simp [reads, state, isUnsettled]

/-- The indexes of a coherent ledger, read back. -/
theorem Coherent.ledgersAgree (h : s.Coherent) : s.LedgersAgree where
  operations := h.mirrored
  active d id := by rw [h.active d id, slotOf_eq_some]
  queued d op := by
    rw [h.waiting d op, waitingOf_eq_some]
    constructor
    · rintro ⟨⟨r, found, same, waited⟩, device⟩
      exact ⟨r, found, same, device, waited⟩
    · rintro ⟨r, found, same, device, waited⟩
      exact ⟨⟨r, found, same, waited⟩, device⟩
  queuedOnce := h.waitingOnce
  blocked d id := by rw [h.quarantined, Option.map_eq_some_iff]
  quarantined d id := by
    rw [← Option.map_eq_some_iff, ← h.quarantined, h.blocked d id, blockOf_eq_some]
  recovery id := by rw [h.recovery, readsOf_eq_true]
  capacity := h.capacity
  room := h.room

/-- Along every run in which no retirement overfills the history, the ledgers agree. -/
theorem ledgersAgree_of_fits {limits : AdmissionLimits} {initial : AuthoritativeOperationController}
    (created : new limits = .ok initial) {events : List LedgerEvent}
    (fits : Machine.Meets next Fits initial events) :
    (run next initial events).LedgersAgree := by
  rw [new_eq_ok created] at fits ⊢
  exact (orderly_run limits fits).coherent.ledgersAgree

/-! ### A run that breaks the agreement -/

def alice : OperationOwner := ⟨"issuer", "alice"⟩

/-- A one-letter name for each number. -/
def letter (n : Nat) : String :=
  String.singleton (Char.ofNat (48 + n))

/-- An operation of generation one is sent and its outcome stays unproven. -/
def sent (deviceId id : String) (capability : DeviceCapability) : List LedgerEvent :=
  [.prepareWithMetadata ⟨deviceId, 1, id⟩ alice capability .empty 1,
    .markDispatchedWithBinding id alice 1 none 1]

def lost (id : String) : LedgerEvent :=
  .markIndeterminate .given id alice 1 .backendOutcomeUnproven 1

/-- A lost pointer click on a device of its own is accepted as it is. -/
def acceptedClick (n : Nat) : List LedgerEvent :=
  sent (letter n) (letter n) .pointerClick ++ [lost (letter n),
    .acceptCurrentState .given (letter n) .acknowledgedUnknownPointerClickV1 "seen" 2 1]

/-- A lost scroll is retired by the maintenance operator. -/
def retired (id : String) : LedgerEvent :=
  .retireIndeterminate .given id .localMaintenanceOperator .transientUiInteractionV1 "seen" 2 1

/-- Sixty-five accepted clicks, then a scroll lost and retired while `y` waits elsewhere. -/
def crowdedOut : List LedgerEvent :=
  (List.range 65).flatMap acceptedClick ++ sent "desk" "x" .scroll ++
    [.prepareWithMetadata ⟨"lamp", 1, "y"⟩ alice .scroll .empty 1, lost "x", retired "x"]

theorem fits_of_few (s : AuthoritativeOperationController) (event : LedgerEvent)
    (few : s.mutationResumeBarriers.size ≤ maxRetirementRecords) : s.Fits event := by
  rintro id transition - ⟨retirement, -, -, -, crowds⟩
  exact absurd few (Nat.not_le.mpr crowds)

/-- A retired scroll leaves the ledgers in agreement. -/
theorem ledgersAgree_retired_scroll :
    (run next (empty ⟨1, 1⟩) (sent "desk" "x" .scroll ++ [lost "x", retired "x"])).LedgersAgree :=
  ledgersAgree_of_fits (show new ⟨1, 1⟩ = _ from rfl)
    ⟨fits_of_few _ _ (by decide), fits_of_few _ _ (by decide), fits_of_few _ _ (by decide +kernel),
      fits_of_few _ _ (by decide +kernel), trivial⟩

set_option maxRecDepth 100000 in
/-- The last retirement promotes `y` in the admission ledger only. -/
theorem crowdedOut_drifts : ∃ initial, new ⟨1, 1⟩ = .ok initial ∧
    ¬(run next initial crowdedOut).LedgersAgree := by
  refine ⟨empty ⟨1, 1⟩, rfl, fun agree => ?_⟩
  have apart : (run next (empty ⟨1, 1⟩) crowdedOut).admission.operations["y"]? ≠
      (run next (empty ⟨1, 1⟩) crowdedOut).operations["y"]?.map
        fun r => ⟨r.operation, r.state⟩ := by
    decide +kernel
  exact apart (agree.operations "y")

end AuthoritativeOperationController

end Gateway.Execution
