import Gateway.Execution.Lag
import Gateway.Execution.Survival

/-! The history of automatic settlements.

Along every run in which no settlement is filed twice or dropped too early, each
record settled automatically is told by exactly one entry of the history. A run
is exhibited that files an id twice, under a record that was pruned in between. -/
namespace Gateway.Execution
open Data Device Machine

namespace AuthoritativeOperationController
variable {s : AuthoritativeOperationController}

/-- The entry says of the record what the record says of itself. -/
structure Tells (history : AutoResolutionRecord) (r : SafetyOperation) : Prop where
  operation : history.operation = r.operation
  capability : history.capability = r.capability
  terminalState : history.terminalState = r.state
  evidence : r.receipt.map ExecutionReceipt.evidence = some history.evidence
  dispatchBinding : r.dispatchBinding = some history.dispatchBinding

/-- What restoring demands of the automatic settlements. -/
structure AutoCoherent (s : AuthoritativeOperationController) : Prop where
  told : ∀ (id : String) (r : SafetyOperation), s.operations[id]? = some r →
    r.reconciliationStatus = some .autoResolved →
      ∃! history, history ∈ s.autoResolutions ∧ Tells history r
  few : s.autoResolutions.length ≤ maxAutoResolutionRecords
  once : (s.autoResolutions.map fun history => history.operation.operationId).Nodup

theorem tells_of_settles {history : AutoResolutionRecord} {r : SafetyOperation}
    (settles : history.settles r = true) : Tells history r := by
  obtain ⟨-, operation, capability, state, evidence, binding⟩ := settles_iff.mp settles
  exact ⟨operation.symm, capability.symm, state.symm, evidence, binding⟩

/-- Two entries about one record are one entry. -/
theorem AutoFiled.unique (h : s.AutoFiled) {r : SafetyOperation} {x y : AutoResolutionRecord}
    (hx : x ∈ s.autoResolutions) (hy : y ∈ s.autoResolutions) (tellsX : Tells x r)
    (tellsY : Tells y r) : x = y :=
  List.inj_on_of_nodup_map h.once hx hy (by rw [tellsX.operation, tellsY.operation])

/-- A ledger that lags overlooks no automatic settlement: what lags is not settled. -/
theorem Sustains.autoCoherent (h : s.Sustains AutoFiled) : s.AutoCoherent := by
  obtain ⟨records, lags, orderly, filed⟩ := h
  refine ⟨fun id r found resolved => ?_, filed.few, filed.once⟩
  have here : (s.caughtUp records).operations[id]? = some r := by
    rcases lags.get_cases found with same | ⟨-, promoted⟩
    · exact same
    · have pending := (orderly.sound id r.promote promoted).pending rfl
      rw [show r.reconciliationStatus = none from pending.2.2] at resolved
      cases resolved
  obtain ⟨history, mem, settles⟩ := filed.told id r here resolved
  refine ⟨history, ⟨mem, tells_of_settles settles⟩, fun other told => ?_⟩
  exact filed.unique told.1 mem told.2 (tells_of_settles settles)

/-- Along every run that files each settlement once, the history tells every automatic
settlement, whether retirements overfill theirs or not. -/
theorem autoCoherent_of_filesOnce {limits : AdmissionLimits}
    {initial : AuthoritativeOperationController} (created : new limits = .ok initial)
    {events : List LedgerEvent} (filesOnce : Machine.Meets next FilesOnce initial events) :
    (run next initial events).AutoCoherent := by
  rw [new_eq_ok created] at filesOnce ⊢
  refine (sustains_run {Care.none with filing := True} (fun event => {event.allowed_none with}) (fun lags once => ?_)
    (autoFiled_empty limits) (fun orderly filed m => filed.move orderly trivial m)
    (fun limits orderly filed => filed.restarted orderly limits) filesOnce).autoCoherent
  exact ⟨False.elim, fun _ => once.caughtUp lags, False.elim⟩

/-! ### Filing an id once, and twice -/

/-- A click of `desk` is sent and found never to have left the Hub. -/
def undelivered (generation : Nat) : List LedgerEvent :=
  [.prepareWithMetadata ⟨"desk", generation, "x"⟩ alice .pointerClick .empty 1,
    .markDispatchedWithBinding "x" alice generation (some ⟨1, "grant"⟩) 1,
    .resolveHubPreEnqueueNonDelivery .given "x" alice generation ⟨1, "grant"⟩
      .hubOutboundClosedBeforeEnqueue 1]

theorem spare_of_few (few : s.autoResolutions.length < maxAutoResolutionRecords) : s.Spare :=
  fun _ _ full => absurd full (Nat.not_le.mpr few)

/-- A click settled before it was sent is told once. -/
theorem autoCoherent_undelivered :
    (run next (empty ⟨1, 1⟩) (undelivered 1)).AutoCoherent :=
  autoCoherent_of_filesOnce (show new ⟨1, 1⟩ = _ from rfl)
    ⟨fun _ _ mem => absurd mem List.not_mem_nil, trivial,
      fun _ _ _ => spare_of_few (by decide), trivial⟩

/-- The record of `x` is pruned when `desk` reconnects, and `x` is used again. -/
def undeliveredTwice : List LedgerEvent :=
  undelivered 1 ++ .pruneTerminalBeforeGeneration "desk" 2 :: undelivered 2

/-- The history then has two entries for one id. -/
theorem undeliveredTwice_refiles : ∃ initial, new ⟨1, 1⟩ = .ok initial ∧
    ¬(run next initial undeliveredTwice).AutoCoherent := by
  refine ⟨empty ⟨1, 1⟩, rfl, fun coherent => ?_⟩
  have twice : ((run next (empty ⟨1, 1⟩) undeliveredTwice).autoResolutions.map
      fun history => history.operation.operationId) = ["x", "x"] := by
    decide +kernel
  have once := coherent.once
  rw [twice] at once
  exact absurd once (by decide)

end AuthoritativeOperationController

end Gateway.Execution
