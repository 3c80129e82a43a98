import Gateway.Execution.AutoResolution
import Gateway.Execution.Rewriting

/-! Settled records and the evidence that settled them.

A record is settled exactly when it carries a receipt, the receipt is about the
record, and its evidence is of a kind that proves the state. A settled record then
changes only by the result attached to it, and goes only when its generation is
pruned. Both hold in every reachable ledger, drifted ones included. -/
namespace Gateway.Execution
open Data Device HubOperationState SafetyOperation Machine

namespace SafetyOperation
variable {r r' : SafetyOperation}

/-- The evidence proves that the record ended in the state. -/
def Proves (r : SafetyOperation) : HubOperationState → ExecutionEvidence → Prop
  | .completed, .verifiedAgentResult => True
  | .completed, .operatorResolution => True
  | .cancelled, .operatorResolution => True
  | .failed, .verifiedRemoteError => True
  | .failed, .provenProcessTermination => True
  | .cancelled, .provenProcessTermination => True
  | .failed, .recoveryReadInterrupted => r.executionLane = .recoveryEvidenceRead
  | .cancelled, .cancelledBeforeDispatch => r.dispatchedAtMs = none
  | .cancelled, .hubEncodeFailedBeforeEnqueue =>
    r.dispatchBinding.isSome = true ∧ r.reconciliationStatus = some .autoResolved
  | .cancelled, .hubOutboundClosedBeforeEnqueue =>
    r.dispatchBinding.isSome = true ∧ r.reconciliationStatus = some .autoResolved
  | _, _ => False

/-- A receipt proves how the record ended, and nothing was sent that is not known to be. -/
structure Evidenced (r : SafetyOperation) : Prop where
  unsent : r.state = .queued ∨ r.state = .activeNotDispatched → r.dispatchedAtMs = none
  proven : ∀ receipt, r.receipt = some receipt → r.Proves r.state receipt.evidence

/-- A record without receipt. -/
theorem Evidenced.of_bare (bare : r.receipt = none)
    (unsent : r.state = .queued ∨ r.state = .activeNotDispatched → r.dispatchedAtMs = none) :
    r.Evidenced := by
  refine ⟨unsent, fun receipt carried => ?_⟩
  rw [bare] at carried
  cases carried

theorem Evidenced.of_settled {receipt : ExecutionReceipt} (carried : r.receipt = some receipt)
    (settled : r.state.phase = .settled) (proves : r.Proves r.state receipt.evidence) :
    r.Evidenced := by
  refine ⟨fun unsent => ?_, fun other told => ?_⟩
  · rcases unsent with state | state <;> simp [state, phase] at settled
  · rw [carried, Option.some.injEq] at told
    exact told ▸ proves

theorem proves_of_pair {state : HubOperationState} {evidence : ExecutionEvidence}
    (pair : authoritativeAgentTerminalPair state evidence = true) : r.Proves state evidence := by
  cases state <;> cases evidence <;> trivial

theorem evidenced_cancelBeforeDispatch (unsent : r.dispatchedAtMs = none) (nowMs : Nat) :
    (r.cancelBeforeDispatch nowMs).Evidenced :=
  .of_settled rfl rfl unsent

theorem evidenced_neverEnqueued {binding : OperationDispatchBinding} {evidence : ExecutionEvidence}
    (bound : r.dispatchBinding = some binding) (proof : evidence.isPreEnqueue = true) (nowMs : Nat) :
    (r.neverEnqueued evidence nowMs).Evidenced := by
  have bound' : (r.neverEnqueued evidence nowMs).dispatchBinding.isSome = true := by
    show r.dispatchBinding.isSome = true
    rw [bound]
    rfl
  refine .of_settled rfl rfl ?_
  cases evidence <;> first | exact ⟨bound', rfl⟩ | cases proof

theorem evidenced_resolve (decision : IndeterminateResolution) (nowMs : Nat) :
    (r.resolve (HubAdmissionController.resolvedState decision) nowMs).Evidenced := by
  cases decision <;> exact .of_settled rfl rfl trivial

/-- A restart cancels what was not sent and abandons the reads that were. -/
theorem Evidenced.afterRestart (h : r.Evidenced) (sound : r.Sound) : r.afterRestart.Evidenced := by
  by_cases sent : r.state.isInFlight = true
  · cases lane : r.executionLane with
    | normal =>
      rw [sound.afterRestart_of_lost (isLostByRestart_iff.mpr ⟨sent, lane⟩)]
      exact .of_bare rfl fun unsent => by rcases unsent with state | state <;> cases state
    | recoveryEvidenceRead =>
      rw [afterRestart_of_read sent lane]
      exact .of_settled rfl rfl lane
  · by_cases unsent : r.state = .queued ∨ r.state = .activeNotDispatched
    · rw [afterRestart_of_unsent unsent]
      exact .of_settled rfl rfl (h.unsent unsent)
    · have done : r.state.isUnsettled = false := by
        cases state : r.state <;> simp_all [isInFlight, isUnsettled]
      rw [sound.afterRestart_eq done]
      exact h

end SafetyOperation

namespace AuthoritativeOperationController
variable {care : Care} {s s' : AuthoritativeOperationController} {id : String}
  {r r' : SafetyOperation}

/-- Every way to rewrite a record leaves a receipt only for what it proves. -/
theorem Rewritten.evidenced (how : Rewritten care id r r') (sound : r.Sound) (h : r.Evidenced) :
    r'.Evidenced := by
  have bare : r.state.isUnsettled = true → r.receipt = none := fun pending => (sound.pending pending).1
  cases how with
  | promote waited =>
    exact .of_bare (bare (by rw [waited]; rfl)) fun _ => h.unsent (.inl waited)
  | dispatch binding nowMs ready =>
    exact .of_bare (bare (by rw [ready]; rfl)) fun unsent => by rcases unsent with state | state <;> cases state
  | requestCancel sent =>
    exact .of_bare (bare (isUnsettled_of_isInFlight sent)) fun unsent => by
      rcases unsent with state | state <;> cases state
  | cancel nowMs unsent => exact evidenced_cancelBeforeDispatch (h.unsent unsent) nowMs
  | finalize terminalState evidence nowMs sent pair =>
    exact .of_settled rfl (phase_of_pair pair) (proves_of_pair pair)
  | neverEnqueued binding evidence nowMs sent bound proof =>
    exact evidenced_neverEnqueued bound proof nowMs
  | interruptRead nowMs sent read => exact .of_settled rfl rfl read
  | lose reason sent =>
    exact .of_bare rfl fun unsent => by rcases unsent with state | state <;> cases state
  | restatus status ambiguous =>
    have unaccounted := sound.ambiguous (by rw [ambiguous]; rfl)
    exact .of_bare unaccounted.receipt h.unsent
  | reconcile terminal nowMs ambiguous valid =>
    simp only [AgentTerminalEvidence.isValid, Bool.and_eq_true] at valid
    exact .of_settled rfl (phase_of_pair valid.2) (proves_of_pair valid.2)
  | resolve decision nowMs ambiguous => exact evidenced_resolve decision nowMs
  | attach result settled allowed => exact ⟨h.unsent, h.proven⟩

/-- Every receipt of the ledger proves how its record ended. -/
def RecordsEvidenced (s : AuthoritativeOperationController) : Prop :=
  ∀ (id : String) (r : SafetyOperation), s.operations[id]? = some r → r.Evidenced

theorem recordsEvidenced_empty (limits : AdmissionLimits) : (empty limits).RecordsEvidenced := by
  intro id r found
  simp [empty] at found

theorem RecordsEvidenced.move (h : s.RecordsEvidenced) (orderly : s.Orderly) (m : Move care s s') :
    s'.RecordsEvidenced := by
  refine m.records_keep orderly.accounted h (fun _ _ _ _ _ _ _ _ => .of_bare rfl fun _ => rfl) ?_
  intro id r r' found evidenced how
  exact how.evidenced (orderly.sound id r found) evidenced

theorem RecordsEvidenced.restarted (h : s.RecordsEvidenced) (orderly : s.Orderly)
    (limits : AdmissionLimits) : (s.restarted limits).RecordsEvidenced := by
  intro id r' found
  rw [get_restarted, Option.map_eq_some_iff] at found
  obtain ⟨r, old, rfl⟩ := found
  exact (h id r old).afterRestart (orderly.sound id r old)

/-! ### Reachable ledgers -/

/-- What a record says of its end. -/
structure EvidenceSound (r : SafetyOperation) : Prop where
  settled : r.state.isTerminal = true ↔ r.receipt.isSome = true
  receipt : ∀ receipt, r.receipt = some receipt → receipt.operation = r.operation ∧
    receipt.owner = r.owner ∧ receipt.capability = r.capability ∧ receipt.terminalState = r.state ∧
    r.Proves r.state receipt.evidence

/-- A settled record is kept, given a result, or pruned with its generation. -/
def SettledFate (s : AuthoritativeOperationController) (event : LedgerEvent) (id : String)
    (r : SafetyOperation) : Prop :=
  (s.next event).operations[id]? = some r ∨
    (∃ owner generation result, event = .attachRecoverableResult id owner generation result ∧
      (s.next event).operations[id]? = some {r with recoverableResult := some result}) ∨
    ∃ deviceId generation, event = .pruneTerminalBeforeGeneration deviceId generation ∧
      isPrunable deviceId generation r = true ∧ (s.next event).operations[id]? = none

theorem Sustains.evidenceSound (h : s.Sustains RecordsEvidenced) (found : s.operations[id]? = some r) :
    EvidenceSound r := by
  obtain ⟨records, lags, orderly, evidenced⟩ := h
  rcases lags.get_cases found with same | ⟨queued, promoted⟩
  · have sound := orderly.sound id r same
    constructor
    · rw [isTerminal_iff]
      refine ⟨fun settled => ?_, sound.settled_of_receipt⟩
      obtain ⟨receipt, by_⟩ := sound.settled settled
      rw [by_.carried]
      rfl
    · intro receipt carried
      have settled := sound.settled_of_receipt (by rw [carried]; rfl)
      obtain ⟨other, by_⟩ := sound.settled settled
      obtain rfl : other = receipt := Option.some.inj (by_.carried.symm.trans carried)
      exact ⟨by_.operation, by_.owner, by_.capability, by_.terminalState,
        (evidenced id r same).proven other carried⟩
  · -- A record that lags waits, so it has no receipt.
    have bare : r.receipt = none := ((orderly.sound id r.promote promoted).pending rfl).1
    constructor
    · rw [queued, bare]
      exact ⟨nofun, nofun⟩
    · intro receipt carried
      rw [bare] at carried
      cases carried

/-- Attaching a result touches one record. -/
theorem settledFate_attach (owner : OperationOwner) (generation : Nat)
    (result : RecoverableOperationResult) (a : String) (found : s.operations[id]? = some r) :
    s.SettledFate (.attachRecoverableResult a owner generation result) id r := by
  unfold SettledFate
  simp only [AuthoritativeOperationController.next, step]
  cases outcome : s.attachRecoverableResult a owner generation result with
  | error e => exact .inl found
  | ok pair =>
    simp only [attachRecoverableResult, Result.bind_eq_ok, Result.guard_eq_ok] at outcome
    obtain ⟨x, checked, -, ok⟩ := outcome
    obtain ⟨old, -⟩ := checked_eq_ok.mp checked
    cases ok
    simp only [attempt]
    by_cases here : a = id
    · subst here
      rw [found, Option.some.injEq] at old
      subst old
      exact .inr (.inl ⟨owner, generation, result, rfl, Table.get_insert_self ..⟩)
    · exact .inl (by rw [Table.get_insert_of_ne here, found])

/-- Pruning forgets what it says and changes nothing else. -/
theorem settledFate_prune (deviceId : String) (generation : Nat) (found : s.operations[id]? = some r) :
    s.SettledFate (.pruneTerminalBeforeGeneration deviceId generation) id r := by
  unfold SettledFate
  simp only [AuthoritativeOperationController.next, step, answered, pruneTerminalBeforeGeneration]
  split
  · exact .inl found
  split
  · exact .inl found
  split
  · exact .inl found
  split
  · exact .inl found
  simp only [Std.ExtTreeMap.getElem?_filter', found, Option.filter_some]
  cases prunable : isPrunable deviceId generation r with
  | false => exact .inl rfl
  | true => exact .inr (.inr ⟨deviceId, generation, rfl, prunable, rfl⟩)

/-- No other call touches a settled record. -/
theorem Sustains.settled_kept {P : AuthoritativeOperationController → Prop} (h : s.Sustains P)
    {event : LedgerEvent} (found : s.operations[id]? = some r) (settled : r.state.phase = .settled)
    (bare : ∀ id owner generation result, event ≠ .attachRecoverableResult id owner generation result)
    (retained : ∀ deviceId generation, event ≠ .pruneTerminalBeforeGeneration deviceId generation) :
    (s.next event).operations[id]? = some r := by
  obtain ⟨records, lags, orderly, -⟩ := h
  have allowed : event.Allowed {Care.none with attaches := fun _ => False, prunes := fun _ _ => False} :=
    {event.allowed_none with
      attaches := fun id owner generation result eq => bare id owner generation result eq
      prunes := fun deviceId generation eq => retained deviceId generation eq}
  obtain ⟨records', lags', cases⟩ := orderly.next_lags lags _ event
    ⟨False.elim, False.elim, False.elim⟩ allowed
  have here : (s.caughtUp records).operations[id]? = some r :=
    lags.get found fun queued => by rw [queued] at settled; cases settled
  have kept : ((s.next event).caughtUp records').operations[id]? = some r := by
    rcases cases with ⟨limits, eq⟩ | moves
    · rw [eq, get_restarted, here, Option.map_some, (orderly.sound id r here).afterRestart_eq
        (not_unsettled_of_phase settled (by decide) (by decide))]
    · exact orderly.moves_keep (P := fun t => t.operations[id]? = some r) here
        (fun orderly found m => m.settled_kept orderly.accounted found settled not_false fun _ _ => not_false) moves
  exact lags'.get_right kept fun ready => by rw [ready] at settled; cases settled

/-- In every reachable ledger each record is settled by evidence that proves it, and no call
changes a settled record but to attach a result or to prune it. -/
theorem evidenceSound_of_reachable (reachable : s.Reachable) :
    (∀ (id : String) (r : SafetyOperation), s.operations[id]? = some r → EvidenceSound r) ∧
      ∀ (event : LedgerEvent) (id : String) (r : SafetyOperation), s.operations[id]? = some r →
        r.state.isTerminal = true → s.SettledFate event id r := by
  have sustained : s.Sustains RecordsEvidenced :=
    reachable.sustains recordsEvidenced_empty (fun orderly h m => h.move orderly m)
      fun limits orderly h => h.restarted orderly limits
  refine ⟨fun id r found => sustained.evidenceSound found, fun event id r found terminal => ?_⟩
  have settled := (isTerminal_iff _).mp terminal
  by_cases attaches : ∃ a owner generation result,
      event = .attachRecoverableResult a owner generation result
  · obtain ⟨a, owner, generation, result, rfl⟩ := attaches
    exact settledFate_attach owner generation result a found
  by_cases prunes : ∃ deviceId generation, event = .pruneTerminalBeforeGeneration deviceId generation
  · obtain ⟨deviceId, generation, rfl⟩ := prunes
    exact settledFate_prune deviceId generation found
  refine .inl (sustained.settled_kept found settled ?_ ?_)
  · exact fun a owner generation result eq => attaches ⟨a, owner, generation, result, eq⟩
  · exact fun deviceId generation eq => prunes ⟨deviceId, generation, eq⟩

/-- A click settled before it was sent is settled by evidence, and stays so over a restart. -/
theorem evidenceSound_undelivered : ∃ r,
    (run next (empty ⟨1, 1⟩) (undelivered 1)).operations["x"]? = some r ∧
      EvidenceSound r ∧
      (run next (empty ⟨1, 1⟩) (undelivered 1)).SettledFate (.restart ⟨1, 1⟩) "x" r := by
  have reachable : (run next (empty ⟨1, 1⟩) (undelivered 1)).Reachable :=
    ⟨⟨1, 1⟩, empty ⟨1, 1⟩, undelivered 1, rfl, rfl⟩
  have settled : ((run next (empty ⟨1, 1⟩) (undelivered 1)).operations["x"]?.any
      fun r => r.state.isTerminal) = true := by
    decide +kernel
  rw [Option.any_eq_true] at settled
  obtain ⟨r, found, terminal⟩ := settled
  have sound := evidenceSound_of_reachable reachable
  exact ⟨r, found, sound.1 "x" r found, sound.2 (.restart ⟨1, 1⟩) "x" r found terminal⟩

end AuthoritativeOperationController

end Gateway.Execution
