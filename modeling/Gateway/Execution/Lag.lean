import Gateway.Execution.Runs

/-! A ledger that lags behind its admission ledger.

A retirement whose rotation fails has promoted an operation in the admission
ledger only. From then on the two ledgers disagree about that operation, and so
about nothing else: the authoritative ledger is the one it would be had it caught
up, save that some promoted records still wait in it. Every call keeps it so.
What every move keeps is then kept by every call, whether the history overflows
or not. -/
namespace Gateway.Execution
open Data Device SafetyOperation Result HubOperationState Table LedgerEvent Machine

/-- The record once its promotion is seen. -/
def SafetyOperation.promote (r : SafetyOperation) : SafetyOperation :=
  {r with state := .activeNotDispatched}

/-- The records of `old` are those of `new`, save that some promotions are not seen yet. -/
def Lags (old new : Table SafetyOperation) : Prop :=
  ∀ id : String, old[id]? = new[id]? ∨
    ∃ r, old[id]? = some r ∧ r.state = .queued ∧ new[id]? = some r.promote

namespace Lags
variable {old new : Table SafetyOperation} {id : String} {r : SafetyOperation}

theorem refl (operations : Table SafetyOperation) : Lags operations operations := fun _ => .inl rfl

section
variable (h : Lags old new)
include h

/-- A record that does not wait is up to date. -/
theorem get (found : old[id]? = some r) (state : r.state ≠ .queued) : new[id]? = some r := by
  rcases h id with same | ⟨x, waits, queued, -⟩
  · rw [← same, found]
  · rw [found, Option.some.injEq] at waits
    exact absurd (waits ▸ queued) state

/-- A record that is not freshly promoted is as it was. -/
theorem get_right (found : new[id]? = some r) (state : r.state ≠ .activeNotDispatched) :
    old[id]? = some r := by
  rcases h id with same | ⟨x, -, -, promoted⟩
  · rw [same, found]
  · rw [found, Option.some.injEq] at promoted
    exact absurd (congrArg SafetyOperation.state promoted) state

/-- A record is there, if perhaps behind. -/
theorem get_cases (found : old[id]? = some r) :
    new[id]? = some r ∨ r.state = .queued ∧ new[id]? = some r.promote := by
  rcases h id with same | ⟨x, waits, queued, promoted⟩
  · exact .inl (by rw [← same, found])
  · rw [found, Option.some.injEq] at waits
    subst waits
    exact .inr ⟨queued, promoted⟩

theorem get_none (missing : old[id]? = none) : new[id]? = none := by
  rcases h id with same | ⟨x, waits, -⟩
  · rw [← same, missing]
  · rw [missing] at waits
    cases waits

theorem mem : id ∈ new ↔ id ∈ old := by
  rw [mem_iff_get, mem_iff_get]
  constructor
  · rintro ⟨r, found⟩
    by_contra missing
    rw [h.get_none (Option.eq_none_iff_forall_not_mem.mpr fun x mem => missing ⟨x, mem⟩)] at found
    cases found
  · rintro ⟨r, found⟩
    rcases h.get_cases found with same | ⟨-, promoted⟩
    · exact ⟨r, same⟩
    · exact ⟨_, promoted⟩

/-- A view that does not tell a promoted record from a waiting one. -/
theorem view {W : Type} {f : SafetyOperation → W}
    (blind : ∀ r : SafetyOperation, r.state = .queued → f r.promote = f r) (id : String) :
    old[id]?.map f = new[id]?.map f := by
  rcases h id with same | ⟨r, waits, queued, promoted⟩
  · rw [same]
  · rw [waits, promoted, Option.map_some, Option.map_some, blind r queued]

theorem insert (id : String) (r : SafetyOperation) : Lags (old.insert id r) (new.insert id r) := by
  intro a
  rw [get_insert, get_insert]
  split
  · exact .inl rfl
  · exact h a

theorem erase (id : String) : Lags (old.erase id) (new.erase id) := by
  intro a
  rw [get_erase, get_erase]
  split
  · exact .inl rfl
  · exact h a

theorem filter {keep : SafetyOperation → Bool}
    (blind : ∀ r : SafetyOperation, r.state = .queued → keep r.promote = keep r) :
    Lags (old.filter fun _ r => keep r) (new.filter fun _ r => keep r) := by
  intro a
  rw [Std.ExtTreeMap.getElem?_filter', Std.ExtTreeMap.getElem?_filter']
  rcases h a with same | ⟨r, waits, queued, promoted⟩
  · exact .inl (by rw [same])
  · rw [waits, promoted, Option.filter_some, Option.filter_some, blind r queued]
    split
    · exact .inr ⟨r, rfl, queued, rfl⟩
    · exact .inl rfl

/-- Records that no promotion hides are listed alike. -/
theorem filter_values (keep : SafetyOperation → Bool)
    (neither : ∀ r : SafetyOperation, r.state = .queued → keep r.promote = false ∧ keep r = false) :
    new.values.filter keep = old.values.filter keep := by
  have same := filterMap_values (Option.guard fun r => keep r) (h.view (by
    intro r queued
    simp [Option.guard, neither r queued]))
  rw [List.filterMap_eq_filter] at same
  exact same.symm

end

open AuthoritativeOperationController

theorem activateNext (h : Lags old new) (next : CompletionDecision) :
    Lags (activateNext old next) (activateNext new next) := by
  unfold AuthoritativeOperationController.activateNext
  cases next with
  | idle => exact h
  | startNext operation =>
    dsimp only
    cases found : old[operation.operationId]? with
    | none => rw [h.get_none found]; exact h
    | some r =>
      rcases h.get_cases found with same | ⟨-, promoted⟩
      · rw [same]
        exact h.insert _ _
      · rw [promoted]
        exact h.insert _ _

/-- A promotion that only the caught-up records see. -/
theorem activateNext_right (h : Lags old new) {next : CompletionDecision}
    (waiting : ∀ operation r, next = .startNext operation → new[operation.operationId]? = some r →
      r.state = .queued) : Lags old (AuthoritativeOperationController.activateNext new next) := by
  unfold AuthoritativeOperationController.activateNext
  cases next with
  | idle => exact h
  | startNext operation =>
    dsimp only
    cases found : new[operation.operationId]? with
    | none => exact h
    | some r =>
      have queued := waiting operation r rfl found
      intro a
      rw [get_insert]
      split
      · next here =>
        subst here
        rcases h operation.operationId with same | ⟨x, -, -, promoted⟩
        · exact .inr ⟨r, by rw [same, found], queued, rfl⟩
        · rw [found, Option.some.injEq] at promoted
          rw [promoted] at queued
          cases queued
      · exact h a

end Lags

namespace AuthoritativeOperationController
variable {care : Care} {s s' : AuthoritativeOperationController} {id : String} {r : SafetyOperation}
  {records : Table SafetyOperation}

/-- The ledger with its records brought up to date. -/
def caughtUp (s : AuthoritativeOperationController) (records : Table SafetyOperation) :
    AuthoritativeOperationController :=
  {s with operations := records}

theorem caughtUp_operations : (s.caughtUp records).operations = records := rfl

theorem caughtUp_admission : (s.caughtUp records).admission = s.admission := rfl

theorem caughtUp_retirements : (s.caughtUp records).retirements = s.retirements := rfl

/-! ### Calls that change nothing when they fail -/

/-- What succeeds on a ledger that lags succeeds on the ledger caught up, with the same answer. -/
def Lifts {α : Type}
    (outcome outcome' : Except ExecutionError (α × AuthoritativeOperationController)) : Prop :=
  ∀ answer s', outcome = .ok (answer, s') →
    ∃ records', Lags s'.operations records' ∧ outcome' = .ok (answer, s'.caughtUp records')

theorem checked_eq_ok {owner : OperationOwner} {deviceGeneration : Nat} :
    s.checked id owner deviceGeneration = .ok r ↔
      s.operations[id]? = some r ∧ r.owner = owner ∧ r.operation.deviceGeneration = deviceGeneration := by
  constructor
  · exact get_of_checked
  · rintro ⟨found, same, fence⟩
    rw [checked, found]
    exact if_neg (by simp [same, fence])

/-- Whoever may name a record that does not wait may name it in the ledger caught up. -/
theorem checked_caughtUp (lags : Lags s.operations records) {owner : OperationOwner}
    {deviceGeneration : Nat} (ok : s.checked id owner deviceGeneration = .ok r)
    (state : r.state ≠ .queued) : (s.caughtUp records).checked id owner deviceGeneration = .ok r := by
  obtain ⟨found, fence⟩ := checked_eq_ok.mp ok
  exact checked_eq_ok.mpr ⟨lags.get found state, fence⟩

theorem not_queued_of_isInFlight {state : HubOperationState} (sent : state.isInFlight = true) :
    state ≠ .queued := by
  rintro rfl
  cases sent

section Lifts
variable {order : IterationOrder} {owner : OperationOwner} {deviceGeneration nowMs : Nat}
  {evidence : ExecutionEvidence} (lags : Lags s.operations records)
include lags

theorem lifts_dispatch {binding : Option OperationDispatchBinding} :
    Lifts (s.markDispatchedWithBinding id owner deviceGeneration binding nowMs)
      ((s.caughtUp records).markDispatchedWithBinding id owner deviceGeneration binding nowMs) := by
  intro answer s' ok
  simp only [markDispatchedWithBinding, bind_eq_ok, guard_eq_ok] at ok ⊢
  obtain ⟨valid, r, checked, ready, admission, sent, ok⟩ := ok
  rw [not_not] at ready
  cases ok
  exact ⟨_, lags.insert id _, valid, r, checked_caughtUp lags checked (by rw [ready]; decide),
    not_not.mpr ready, admission, sent, rfl⟩

theorem lifts_finalize {terminalState : HubOperationState} :
    Lifts (s.finalize order id owner deviceGeneration terminalState evidence nowMs)
      ((s.caughtUp records).finalize order id owner deviceGeneration terminalState evidence nowMs) := by
  intro answer s' ok
  simp only [finalize, bind_eq_ok, guard_eq_ok] at ok ⊢
  obtain ⟨r, checked, accepted, ⟨next, admission⟩, settled, ok⟩ := ok
  have sent : r.state.isInFlight = true := by
    rw [not_or, not_not] at accepted
    exact accepted.1
  cases ok
  exact ⟨_, (lags.insert id _).activateNext next, r,
    checked_caughtUp lags checked (not_queued_of_isInFlight sent), accepted, (next, admission), settled,
    rfl⟩

/-- A promoted record that still waits is cancelled as either. -/
theorem lifts_requestCancel (h : (s.caughtUp records).Coherent) :
    Lifts (s.requestCancel order id owner deviceGeneration nowMs)
      ((s.caughtUp records).requestCancel order id owner deviceGeneration nowMs) := by
  intro answer s' ok
  simp only [requestCancel, bind_eq_ok] at ok ⊢
  obtain ⟨r, checked, ⟨decision, admission⟩, cancelled, ok⟩ := ok
  obtain ⟨found, fence⟩ := checked_eq_ok.mp checked
  rcases lags.get_cases found with same | ⟨-, promoted⟩
  · have checked' : (s.caughtUp records).checked id owner deviceGeneration = .ok r :=
      checked_eq_ok.mpr ⟨same, fence⟩
    cases decision <;> cases ok
    · exact ⟨_, (lags.insert id _).activateNext _, r, checked', (_, admission), cancelled, rfl⟩
    · exact ⟨_, lags.insert id _, r, checked', (_, admission), cancelled, rfl⟩
    · exact ⟨_, lags, r, checked', (_, admission), cancelled, rfl⟩
  · have checked' : (s.caughtUp records).checked id owner deviceGeneration = .ok r.promote :=
      checked_eq_ok.mpr ⟨promoted, fence⟩
    -- The admission ledger has it in a slot, so it frees the slot and sends nothing.
    have seen : s.admission.operations[id]? = some r.promote.admitted := by
      have mirrored := h.mirrored id
      rw [show (s.caughtUp records).operations[id]? = some r.promote from promoted] at mirrored
      exact mirrored
    have unsent := cancelled
    simp only [HubAdmissionController.cancel, seen, admitted,
      promote, Except.ok.injEq, Prod.mk.injEq] at unsent
    obtain ⟨rfl, -⟩ := unsent
    cases ok
    exact ⟨_, (lags.insert id (r.cancelBeforeDispatch nowMs)).activateNext _, r.promote, checked',
      (_, admission), cancelled, rfl⟩

theorem lifts_neverEnqueued {binding : OperationDispatchBinding} :
    Lifts (s.resolveHubPreEnqueueNonDelivery order id owner deviceGeneration binding evidence nowMs)
      ((s.caughtUp records).resolveHubPreEnqueueNonDelivery order id owner deviceGeneration binding
        evidence nowMs) := by
  intro answer s' ok
  simp only [resolveHubPreEnqueueNonDelivery, bind_eq_ok, guard_eq_ok] at ok ⊢
  obtain ⟨pair, r, checked, fence, ok⟩ := ok
  cases settled : settledNonDelivery r evidence with
  | some receipt =>
    have cancelled : r.state = .cancelled := by
      unfold settledNonDelivery at settled
      split at settled
      · next known => exact known.1
      · cases settled
    rw [settled] at ok
    cases ok
    refine ⟨records, lags, pair, r, checked_caughtUp lags checked (by rw [cancelled]; decide), fence, ?_⟩
    simp only [settled]
  | none =>
    rw [settled] at ok
    simp only [bind_eq_ok, guard_eq_ok] at ok
    obtain ⟨ready, ⟨next, admission⟩, freed, ok⟩ := ok
    have sent : r.state = .dispatched := by
      rw [not_or, not_not] at ready
      exact ready.1
    cases ok
    refine ⟨_, (lags.insert id (r.neverEnqueued evidence nowMs)).activateNext next, pair, r,
      checked_caughtUp lags checked (by rw [sent]; decide), fence, ?_⟩
    simp only [settled, bind_eq_ok, guard_eq_ok]
    exact ⟨ready, (next, admission), freed, rfl⟩

theorem lifts_interruptRead :
    Lifts (s.markRecoveryReadInterrupted order id nowMs)
      ((s.caughtUp records).markRecoveryReadInterrupted order id nowMs) := by
  intro answer s' ok
  unfold markRecoveryReadInterrupted at ok
  split at ok
  · cases ok
  · next r found =>
    simp only [bind_eq_ok, guard_eq_ok] at ok
    obtain ⟨accepted, ⟨next, admission⟩, freed, ok⟩ := ok
    have sent : r.state.isInFlight = true := by
      rw [not_or, not_not, not_not] at accepted
      exact accepted.2
    cases ok
    refine ⟨_, (lags.insert id (r.interruptRead nowMs)).activateNext next, ?_⟩
    rw [markRecoveryReadInterrupted, show (s.caughtUp records).operations[id]? = some r from
      lags.get found (not_queued_of_isInFlight sent)]
    simp only [bind_eq_ok, guard_eq_ok]
    exact ⟨accepted, (next, admission), freed, rfl⟩

theorem lifts_evidenceGap :
    Lifts (s.markReconciliationEvidenceGap id)
      ((s.caughtUp records).markReconciliationEvidenceGap id) := by
  intro answer s' ok
  unfold markReconciliationEvidenceGap at ok
  split at ok
  · cases ok
  · next r found =>
    obtain ⟨accepted, ok⟩ := guard_eq_ok.mp ok
    have ambiguous : r.state = .indeterminate := by
      rw [not_or, not_not] at accepted
      exact accepted.1
    cases ok
    refine ⟨_, lags.insert id _, ?_⟩
    rw [markReconciliationEvidenceGap, show (s.caughtUp records).operations[id]? = some r from
      lags.get found (by rw [ambiguous]; decide)]
    exact guard_eq_ok.mpr ⟨accepted, rfl⟩

theorem lifts_operatorRequired :
    Lifts (s.markReconciliationOperatorRequired id)
      ((s.caughtUp records).markReconciliationOperatorRequired id) := by
  intro answer s' ok
  unfold markReconciliationOperatorRequired at ok
  split at ok
  · cases ok
  · next r found =>
    obtain ⟨ambiguous, ok⟩ := guard_eq_ok.mp ok
    cases ok
    refine ⟨_, lags.insert id _, ?_⟩
    rw [markReconciliationOperatorRequired, show (s.caughtUp records).operations[id]? = some r from
      lags.get found (by rw [not_not.mp ambiguous]; decide)]
    exact guard_eq_ok.mpr ⟨ambiguous, rfl⟩

theorem lifts_reconcile {terminal : AgentTerminalEvidence} :
    Lifts (s.reconcileAuthoritativeTerminal order terminal nowMs)
      ((s.caughtUp records).reconcileAuthoritativeTerminal order terminal nowMs) := by
  intro answer s' ok
  obtain ⟨valid, ok⟩ := guard_eq_ok.mp ok
  split at ok
  · cases ok
  · next r found =>
    obtain ⟨accepted, ok⟩ := guard_eq_ok.mp ok
    have ambiguous : r.state = .indeterminate := by
      rw [not_or, not_not] at accepted
      exact accepted.1
    split at ok
    · cases ok
    · next quarantine held =>
      simp only [guard_eq_ok, bind_eq_ok] at ok
      obtain ⟨fence, ⟨next, admission⟩, freed, ok⟩ := ok
      cases ok
      refine ⟨_, (lags.insert _ (r.reconcile terminal nowMs)).activateNext next, ?_⟩
      rw [reconcileAuthoritativeTerminal, if_neg valid,
        show (s.caughtUp records).operations[terminal.operation.operationId]? = some r from
          lags.get found (by rw [ambiguous]; decide)]
      simp only [if_neg accepted, show (s.caughtUp records).quarantines[r.operation.deviceId]? =
        some quarantine from held, guard_eq_ok, bind_eq_ok]
      exact ⟨fence, (next, admission), freed, rfl⟩

theorem lifts_resolve {decision : IndeterminateResolution} {evidence : String} :
    Lifts (s.resolveIndeterminate order id owner decision evidence nowMs)
      ((s.caughtUp records).resolveIndeterminate order id owner decision evidence nowMs) := by
  intro answer s' ok
  obtain ⟨valid, ok⟩ := guard_eq_ok.mp ok
  split at ok
  · cases ok
  · next r found =>
    obtain ⟨ambiguous, ok⟩ := guard_eq_ok.mp ok
    split at ok
    · cases ok
    · next quarantine held =>
      simp only [guard_eq_ok, bind_eq_ok] at ok
      obtain ⟨fence, input, ⟨next, admission⟩, freed, ok⟩ := ok
      cases ok
      refine ⟨_, (lags.insert id (r.resolve _ nowMs)).activateNext next, ?_⟩
      rw [resolveIndeterminate, if_neg valid, show (s.caughtUp records).operations[id]? = some r from
        lags.get found (by rw [not_not.mp ambiguous]; decide)]
      simp only [if_neg ambiguous, show (s.caughtUp records).quarantines[r.operation.deviceId]? =
        some quarantine from held, guard_eq_ok, bind_eq_ok]
      exact ⟨fence, input, (next, admission), freed, rfl⟩

/-- A result is attached to settled work, and that is up to date. -/
theorem lifts_attach (sound : (s.caughtUp records).RecordsSound) {result : RecoverableOperationResult} :
    Lifts (s.attachRecoverableResult id owner deviceGeneration result)
      ((s.caughtUp records).attachRecoverableResult id owner deviceGeneration result) := by
  intro answer s' ok
  simp only [attachRecoverableResult, bind_eq_ok, guard_eq_ok] at ok ⊢
  obtain ⟨r, checked, accepted, ok⟩ := ok
  have settled : r.state ≠ .queued := by
    intro queued
    obtain ⟨found, -⟩ := checked_eq_ok.mp checked
    refine accepted (.inl (Option.isNone_iff_eq_none.mpr ?_))
    rcases lags.get_cases found with same | ⟨-, promoted⟩
    · exact ((sound id r same).pending (by rw [queued]; rfl)).1
    · exact ((sound id r.promote promoted).pending rfl).1
  cases ok
  exact ⟨_, lags.insert id _, r, checked_caughtUp lags checked settled, accepted, rfl⟩

theorem lifts_resume {deviceId reason : String} {authority : RetirementAuthority} :
    Lifts (s.resumeMutations deviceId id authority deviceGeneration reason nowMs)
      ((s.caughtUp records).resumeMutations deviceId id authority deviceGeneration reason nowMs) := by
  intro answer s' ok
  obtain ⟨authorized, ok⟩ := guard_eq_ok.mp ok
  split at ok
  · cases ok
  · next barrier up =>
    simp only [guard_eq_ok] at ok
    obtain ⟨source, accepted, ok⟩ := ok
    cases ok
    refine ⟨records, lags, ?_⟩
    rw [resumeMutations, if_neg authorized,
      show (s.caughtUp records).mutationResumeBarriers[deviceId]? = some barrier from up]
    simp only [guard_eq_ok]
    exact ⟨source, accepted, rfl⟩

end Lifts

/-! ### Calls that return the ledger beside their answer -/

/-- The outcomes answer alike, and the second leaves the ledger of the first caught up. -/
def Matches {α : Type}
    (outcome outcome' : Except ExecutionError α × AuthoritativeOperationController) : Prop :=
  ∃ records, Lags outcome.2.operations records ∧ outcome' = (outcome.1, outcome.2.caughtUp records)

theorem matches_same {α : Type} (lags : Lags s.operations records) (answer : Except ExecutionError α) :
    Matches (answer, s) (answer, s.caughtUp records) :=
  ⟨records, lags, rfl⟩

theorem matches_prepare (lags : Lags s.operations records) {operation : OperationRef}
    {owner : OperationOwner} {capability : DeviceCapability} {metadata : OperationAdmissionMetadata}
    {nowMs : Nat} :
    Matches (s.prepareWithMetadata operation owner capability metadata nowMs)
      ((s.caughtUp records).prepareWithMetadata operation owner capability metadata nowMs) := by
  unfold prepareWithMetadata
  simp only [caughtUp_operations, lags.mem,
    show (s.caughtUp records).recoveryArchive = s.recoveryArchive from rfl,
    caughtUp_retirements,
    show (s.caughtUp records).quarantines = s.quarantines from rfl,
    caughtUp_admission,
    show (s.caughtUp records).blockingBarrier = s.blockingBarrier from rfl]
  split
  · exact matches_same lags _
  split
  · exact matches_same lags _
  split
  · exact matches_same lags _
  split
  · split
    · exact matches_same lags _
    · split
      · exact matches_same lags _
      · exact ⟨_, lags.insert _ _, rfl⟩
  · split
    · exact ⟨_, lags, rfl⟩
    · exact ⟨_, lags.insert _ _, rfl⟩

/-- Pruning looks at settled records only, and those are up to date. -/
theorem matches_prune (lags : Lags s.operations records) (deviceId : String) (currentGeneration : Nat) :
    Matches (s.pruneTerminalBeforeGeneration deviceId currentGeneration)
      ((s.caughtUp records).pruneTerminalBeforeGeneration deviceId currentGeneration) := by
  have unsettled : ∀ r : SafetyOperation, r.state = .queued →
      isPrunable deviceId currentGeneration r.promote = false ∧
        isPrunable deviceId currentGeneration r = false := by
    intro r queued
    simp [isPrunable, promote, queued, isTerminal]
  have settled := lags.filter_values (fun record =>
    isPrunable deviceId currentGeneration record && record.recoverableResult.isSome) (by
      intro r queued
      simp [unsettled r queued])
  unfold pruneTerminalBeforeGeneration
  simp only [caughtUp_operations, settled,
    show (s.caughtUp records).recoveryArchive = s.recoveryArchive from rfl,
    caughtUp_admission]
  split
  · exact matches_same lags _
  split
  · exact matches_same lags _
  split
  · exact ⟨_, lags, rfl⟩
  · split
    · exact ⟨_, lags, rfl⟩
    · refine ⟨_, lags.filter (fun r queued => ?_), rfl⟩
      rw [(unsettled r queued).1, (unsettled r queued).2]

/-- On the device of work that was sent nothing promoted is overlooked. -/
theorem queuedIds_caughtUp (h : (s.caughtUp records).Coherent) (lags : Lags s.operations records)
    {target : SafetyOperation} (found : s.operations[id]? = some target)
    (sent : target.state.isInFlight = true) :
    (s.caughtUp records).queuedIds target.operation.deviceId id =
      s.queuedIds target.operation.deviceId id := by
  have here : (s.caughtUp records).operations[id]? = some target :=
    lags.get found (not_queued_of_isInFlight sent)
  have elsewhere : ∀ (a : String) (r : SafetyOperation), s.operations[a]? = some r →
      r.state = .queued → records[a]? = some r.promote →
        r.operation.deviceId ≠ target.operation.deviceId := by
    intro a r waits queued promoted same
    have running : r.promote.state.phase = .running := rfl
    obtain rfl := h.running_unique (show (s.caughtUp records).operations[a]? = _ from promoted) here
      running (phase_of_isInFlight sent) same
    rw [waits, Option.some.injEq] at found
    exact not_queued_of_isInFlight sent (found ▸ queued)
  let waits (r : SafetyOperation) : Bool :=
    r.operation.deviceId = target.operation.deviceId && r.state = .queued
  have same : ∀ a : String, s.operations[a]?.map waits = records[a]?.map waits := by
    intro a
    rcases lags a with same | ⟨r, found, queued, promoted⟩
    · rw [same]
    · have other := elsewhere a r found queued promoted
      rw [found, promoted, Option.map_some, Option.map_some]
      simp only [waits, promote, decide_eq_false other, Bool.false_and]
  have picked := filterMap_toList waits same fun a waiting =>
    if a ≠ id && waiting then some a else none
  have listed : ∀ entries : List (String × SafetyOperation),
      (entries.filter fun entry => entry.1 ≠ id &&
        entry.2.operation.deviceId = target.operation.deviceId && entry.2.state = .queued).map Prod.fst =
        entries.filterMap fun entry => if entry.1 ≠ id && waits entry.2 then some entry.1 else none := by
    intro entries
    rw [← List.filterMap_eq_filter, List.map_filterMap]
    congr
    funext entry
    simp only [waits, ← Bool.and_assoc, Option.guard]
    split <;> rfl
  rw [queuedIds, queuedIds, listed, listed]
  exact picked.symm

theorem matches_cancelQueued (lags : Lags s.operations records) (order : IterationOrder) (nowMs : Nat)
    (queuedId : String) :
    Matches (s.cancelQueued order nowMs queuedId)
      ((s.caughtUp records).cancelQueued order nowMs queuedId) := by
  unfold cancelQueued
  simp only [caughtUp_admission, caughtUp_operations]
  split
  · exact matches_same lags _
  · cases found : s.operations[queuedId]? with
    | none =>
      rw [lags.get_none found]
      exact ⟨_, lags, rfl⟩
    | some r =>
      rcases lags.get_cases found with same | ⟨-, promoted⟩
      · rw [same]
        exact ⟨_, lags.insert _ _, rfl⟩
      · rw [promoted]
        exact ⟨_, lags.insert _ (r.cancelBeforeDispatch nowMs), rfl⟩
  · exact ⟨_, lags, rfl⟩

theorem matches_cancelEachQueued (order : IterationOrder) (nowMs : Nat) (queued : List String)
    (lags : Lags s.operations records) :
    Matches (cancelEachQueued order nowMs queued s)
      (cancelEachQueued order nowMs queued (s.caughtUp records)) := by
  induction queued generalizing s records with
  | nil => exact matches_same lags _
  | cons queuedId rest ih =>
    have first := matches_cancelQueued lags order nowMs queuedId
    rw [cancelEachQueued, cancelEachQueued]
    obtain ⟨records', lags', eq⟩ := first
    rw [eq]
    generalize s.cancelQueued order nowMs queuedId = outcome at lags'
    obtain ⟨answer, t⟩ := outcome
    cases answer with
    | error e => exact matches_same lags' _
    | ok _ => exact ih lags'

/-- The end of marking an operation: its own record, once those waiting behind it are cancelled. -/
def markTarget (id deviceId : String) (reason : IndeterminateReason) (nowMs : Nat)
    (next : CompletionDecision) : Except ExecutionError Unit × AuthoritativeOperationController →
      Except ExecutionError CompletionDecision × AuthoritativeOperationController
  | (.error e, s') => (.error e, s')
  | (.ok (), s') =>
    match s'.operations[id]? with
    | none => (.error .unknownOperation, s')
    | some record =>
      (.ok next, {s' with
        operations := s'.operations.insert id (record.becomeAmbiguous reason)
        quarantines := s'.quarantines.insert deviceId (quarantineFor record reason nowMs)})

theorem matches_markTarget (id deviceId : String) (reason : IndeterminateReason) (nowMs : Nat)
    (next : CompletionDecision)
    {outcome outcome' : Except ExecutionError Unit × AuthoritativeOperationController}
    (same : Matches outcome outcome') :
    Matches (markTarget id deviceId reason nowMs next outcome)
      (markTarget id deviceId reason nowMs next outcome') := by
  obtain ⟨records, lags, rfl⟩ := same
  obtain ⟨answer, t⟩ := outcome
  cases answer with
  | error e => exact matches_same lags _
  | ok _ =>
    simp only [markTarget, show (t.caughtUp records).operations = records from rfl]
    cases found : t.operations[id]? with
    | none =>
      rw [lags.get_none found]
      exact matches_same lags _
    | some r =>
      rcases lags.get_cases found with same | ⟨-, promoted⟩
      · rw [same]
        exact ⟨_, lags.insert _ _, rfl⟩
      · rw [promoted]
        exact ⟨_, lags.insert _ (r.becomeAmbiguous reason), rfl⟩

theorem matches_markIndeterminate (h : (s.caughtUp records).Coherent) (lags : Lags s.operations records)
    (order : IterationOrder) (reason : IndeterminateReason) (nowMs : Nat) :
    Matches (s.markIndeterminateInternal order id reason nowMs)
      ((s.caughtUp records).markIndeterminateInternal order id reason nowMs) := by
  unfold markIndeterminateInternal
  simp only [caughtUp_admission,
    caughtUp_operations,
    show (s.caughtUp records).quarantines = s.quarantines from rfl]
  cases found : s.operations[id]? with
  | none =>
    rw [lags.get_none found]
    exact matches_same lags _
  | some target =>
    by_cases sent : target.state.isInFlight = true
    · rw [lags.get found (not_queued_of_isInFlight sent)]
      dsimp only
      split
      · exact matches_same lags _
      split
      · exact matches_same lags _
      cases s.admission.markIndeterminate id with
      | error e => exact matches_same lags _
      | ok marked =>
        rw [queuedIds_caughtUp h lags found sent]
        exact matches_markTarget id target.operation.deviceId reason nowMs marked.1
          (matches_cancelEachQueued (s := {s with admission := marked.2}) order nowMs _ lags)
    · have refused : target.executionLane ≠ .normal ∨ ¬target.state.isInFlight = true := .inr sent
      dsimp only
      rw [if_pos refused]
      rcases lags.get_cases found with same | ⟨-, promoted⟩
      · rw [same]
        dsimp only
        rw [if_pos refused]
        exact matches_same lags _
      · rw [promoted]
        dsimp only
        rw [if_pos (.inr nofun)]
        exact matches_same lags _

/-! ### Retirement -/

theorem matches_rotateOldest (lags : Lags s.operations records) :
    Matches s.rotateOldest (s.caughtUp records).rotateOldest := by
  unfold rotateOldest
  simp only [caughtUp_retirements,
    show (s.caughtUp records).holdsBarrier = s.holdsBarrier from rfl,
    show (s.caughtUp records).mutationResumes = s.mutationResumes from rfl,
    caughtUp_admission,
    caughtUp_operations, lags.mem]
  split
  · exact matches_same lags _
  split
  · exact ⟨_, lags, rfl⟩
  · split
    · exact ⟨_, lags, rfl⟩
    · split
      · exact ⟨_, lags.erase _, rfl⟩
      · exact ⟨_, lags, rfl⟩

theorem matches_rotate (rounds : Nat) (lags : Lags s.operations records) :
    Matches (rotateRetirementHistory rounds s) (rotateRetirementHistory rounds (s.caughtUp records)) := by
  induction rounds generalizing s records with
  | zero => exact matches_same lags _
  | succ rounds ih =>
    rw [rotateRetirementHistory, rotateRetirementHistory]
    by_cases within : s.retirements.length ≤ maxRetirementRecords
    · rw [if_pos within, if_pos (show (s.caughtUp records).retirements.length ≤ _ from within)]
      exact matches_same lags _
    · rw [if_neg within, if_neg (show ¬(s.caughtUp records).retirements.length ≤ _ from within)]
      obtain ⟨records', lags', eq⟩ := matches_rotateOldest lags
      rw [eq]
      generalize s.rotateOldest = outcome at lags'
      obtain ⟨answer, t⟩ := outcome
      cases answer with
      | error e => exact matches_same lags' _
      | ok _ => exact ih lags'

/-- A rotation only forgets records. -/
theorem get_of_rotateOldest (found : s.rotateOldest.2.operations[id]? = some r) :
    s.operations[id]? = some r := by
  unfold rotateOldest at found
  split at found
  · exact found
  · dsimp only at found
    repeat' split at found
    all_goals try exact found
    all_goals
      rw [get_erase] at found
      split at found
      · cases found
      · exact found

theorem get_of_rotate (rounds : Nat)
    (found : (rotateRetirementHistory rounds s).2.operations[id]? = some r) :
    s.operations[id]? = some r := by
  induction rounds generalizing s with
  | zero => exact found
  | succ rounds ih =>
    rw [rotateRetirementHistory] at found
    split at found
    · exact found
    · have first : ∀ {id r}, s.rotateOldest.2.operations[id]? = some r → s.operations[id]? = some r :=
        get_of_rotateOldest
      generalize s.rotateOldest = outcome at found first
      obtain ⟨answer, t⟩ := outcome
      cases answer with
      | error e => exact first found
      | ok _ => exact first (ih found)

variable {transition : RetirementTransition} {retirement : RetirementRecord}
  {t : AuthoritativeOperationController}

theorem retirementFor_caughtUp (lags : Lags s.operations records) :
    (s.caughtUp records).retirementFor id transition = .ok retirement ↔
      s.retirementFor id transition = .ok retirement := by
  have same : records[id]? = s.operations[id]? →
      (s.caughtUp records).retirementFor id transition = s.retirementFor id transition := by
    intro here
    simp only [retirementFor, caughtUp, here]
  constructor
  · intro ok
    obtain ⟨r, retirable⟩ := retirable_of_ok ok
    have old : records[id]? = some r := retirable.old
    rw [← same (by rw [old, lags.get_right old (by rw [retirable.ambiguous]; decide)])]
    exact ok
  · intro ok
    obtain ⟨r, retirable⟩ := retirable_of_ok ok
    rw [same (by rw [retirable.old, lags.get retirable.old (by rw [retirable.ambiguous]; decide)])]
    exact ok

/-- Nothing waits for the device a retirement releases, so no record changes. -/
theorem releaseRetired_caughtUp (h : (s.caughtUp records).Coherent)
    (ok : (s.caughtUp records).retirementFor id transition = .ok retirement)
    (order : IterationOrder) (nowMs : Nat) :
    (s.releaseRetired order id retirement nowMs).2.operations = s.operations ∧
      (s.releaseRetired order id retirement nowMs).2.retirements = s.retirements ∧
      (s.caughtUp records).releaseRetired order id retirement nowMs =
        ((s.releaseRetired order id retirement nowMs).1,
          (s.releaseRetired order id retirement nowMs).2.caughtUp records) := by
  obtain ⟨r, retirable⟩ := retirable_of_ok ok
  obtain ⟨q, held, -⟩ := retirable.quarantined
  unfold releaseRetired
  simp only [show (s.caughtUp records).mutationResumeBarriers = s.mutationResumeBarriers from rfl,
    caughtUp_admission]
  split
  · split
    · exact ⟨rfl, rfl, rfl⟩
    · cases freed : s.admission.retireIndeterminateAndCancelQueued id with
      | error e => exact ⟨rfl, rfl, rfl⟩
      | ok pair =>
        have none_waits : pair.1 = [] := by
          have eq := h.retirableOperation_eq retirable
          rw [caughtUp_admission] at eq
          rw [HubAdmissionController.retireIndeterminateAndCancelQueued, eq] at freed
          split at freed
          · cases freed
          · next op found =>
            split at found
            · cases found
            cases found
            obtain ⟨-, freed⟩ := guard_eq_ok.mp freed
            cases freed
            exact h.queueOf_of_quarantined held
        obtain ⟨cancelled, admission⟩ := pair
        subst none_waits
        exact ⟨rfl, rfl, rfl⟩
  · split
    · exact ⟨rfl, rfl, rfl⟩
    · exact ⟨rfl, rfl, rfl⟩

/-- A ledger is its records and the rest of it. -/
theorem eq_of_caughtUp {records' : Table SafetyOperation} (operations : t.operations = s.operations)
    (rest : t.caughtUp records' = s.caughtUp records) : t = s := by
  calc t = (t.caughtUp records').caughtUp t.operations := rfl
    _ = (s.caughtUp records).caughtUp s.operations := by rw [rest, operations]
    _ = s := rfl

/-- What the admission ledger promotes waits in a coherent ledger. -/
theorem Coherent.waits_of_promoted (h : s.Coherent) {order : IterationOrder} {deviceId : String}
    {operation : OperationRef} (promoted : (s.admission.promote order deviceId).1 = .startNext operation)
    (found : s.operations[operation.operationId]? = some r) : r.state = .queued := by
  rcases s.admission.promote_cases order deviceId with
    ⟨queues, eq, -⟩ | ⟨queues, device, head, rest, eq, queue, -⟩
  · rw [eq] at promoted
    cases promoted
  · rw [eq] at promoted
    cases promoted
    have waits := ((h.waiting device operation).mp (by simp [queue])).1
    rw [waitingOf_of_get found, SafetyOperation.waits] at waits
    split at waits
    · next waited => exact (eq_queued_iff _).mpr waited
    · cases waits

/-- The ledger a release leaves, before the retirement is recorded and before the promotion. -/
theorem Coherent.released_cases (h : s.Coherent) (accounted : s.Accounted)
    (ok : s.retirementFor id transition = .ok retirement) (releasable : s.Releasable retirement)
    (order : IterationOrder) :
    ∃ next t, s.releaseRetired order id retirement transition.nowMs = (.ok next, t) ∧
      t.operations = s.operations ∧
      (s.handedOn order id retirement transition.nowMs) = activated {t with
        quarantines := t.quarantines.erase retirement.operation.deviceId
        retirements := t.retirements ++ [retirement]} next ∧
      (∀ operation r, next = .startNext operation → s.operations[operation.operationId]? = some r →
        r.state = .queued) ∧
      ∀ listed ∈ t.retirements ++ [retirement], Unpromoted next listed.operation.operationId := by
  obtain ⟨x, checked⟩ := retirable_of_ok ok
  by_cases click : retirement.policy = .acknowledgedUnknownPointerClickV1
  · refine ⟨_, _, h.releaseRetired_click checked releasable click order transition.nowMs, rfl, ?_,
      fun _ _ promoted => (by cases promoted), fun _ _ _ promoted => (by cases promoted)⟩
    rw [handedOn, if_pos click]
    rfl
  · have eq := h.releaseRetired_transient checked releasable click order transition.nowMs
    have first : Move .none s _ := h.released_move ok releasable trivial False.elim
    refine ⟨_, _, eq, rfl, ?_, fun operation r promoted found => ?_, fun x mem => ?_⟩
    · rw [handedOn, promoted]
      simp only [activated, released, if_neg click, checked.operation]
    · exact (h.move first).waits_of_promoted promoted found
    · exact (h.move first).unpromoted ((accounted.move h first).kept x mem) order _

/-- A retirement that is not let through changes nothing. -/
theorem retire_unreleasable (h : (s.caughtUp records).Coherent) (lags : Lags s.operations records)
    (order : IterationOrder) (transition : RetirementTransition)
    (refused : ∀ retirement, (s.caughtUp records).retirementFor id transition = .ok retirement →
      ¬(s.caughtUp records).Releasable retirement) :
    ∃ e, s.retireIndeterminateWithDisposition order id transition = (.error e, s) := by
  unfold retireIndeterminateWithDisposition
  cases ok : s.retirementFor id transition with
  | error e => exact ⟨e, rfl⟩
  | ok retirement =>
    have ok' := (retirementFor_caughtUp lags).mpr ok
    obtain ⟨x, checked⟩ := retirable_of_ok ok'
    obtain ⟨e, failed⟩ := h.releaseRetired_error checked (refused retirement ok') order transition.nowMs
    obtain ⟨operations, -, same⟩ := releaseRetired_caughtUp h ok' order transition.nowMs
    rw [failed] at same
    dsimp only
    generalize s.releaseRetired order id retirement transition.nowMs = outcome at operations same ⊢
    obtain ⟨answer, t⟩ := outcome
    obtain ⟨rfl, rest⟩ := Prod.mk.injEq .. ▸ same
    obtain rfl : t = s := eq_of_caughtUp operations rest.symm
    exact ⟨e, rfl⟩

/-- A retirement that is let through hands the device on and rotates the history, as it would had
the ledger caught up. -/
theorem retire_releasable (h : (s.caughtUp records).Orderly) (lags : Lags s.operations records)
    (order : IterationOrder)
    (ok : (s.caughtUp records).retirementFor id transition = .ok retirement)
    (releasable : (s.caughtUp records).Releasable retirement) :
    let outcome := s.retireIndeterminateWithDisposition order id transition
    let rotation := rotateRetirementHistory (s.retirements.length + 1)
      ((s.caughtUp records).handedOn order id retirement transition.nowMs)
    ∃ next records', Lags outcome.2.operations records' ∧
      outcome.1 = rotation.1.map (fun _ => (next, retirement)) ∧
      outcome.2.caughtUp records' = rotation.2 := by
  unfold retireIndeterminateWithDisposition
  rw [(retirementFor_caughtUp lags).mp ok]
  obtain ⟨next, t, released, same, handed, waiting, unpromoted⟩ :=
    h.coherent.released_cases h.accounted ok releasable order
  obtain ⟨operations, retirements, eq₁⟩ :=
    releaseRetired_caughtUp h.coherent ok order transition.nowMs
  rw [released] at eq₁
  dsimp only
  generalize s.releaseRetired order id retirement transition.nowMs = outcome at eq₁ operations retirements ⊢
  obtain ⟨answer, s₁⟩ := outcome
  obtain ⟨rfl, rfl⟩ := Prod.mk.injEq .. ▸ eq₁
  dsimp only at operations retirements same ⊢
  set s₂ : AuthoritativeOperationController := {s₁ with
    quarantines := s₁.quarantines.erase retirement.operation.deviceId
    retirements := s₁.retirements ++ [retirement]} with s₂_eq
  have handed' : (s.caughtUp records).handedOn order id retirement transition.nowMs =
    (s₂.caughtUp records).activated next := handed
  have lags₂ : Lags s₂.operations records := by
    rw [show s₂.operations = s.operations from operations]
    exact lags
  have length : (s₁.retirements ++ [retirement]).length = s.retirements.length + 1 := by
    rw [List.length_append, List.length_singleton, retirements]
  rw [handed', rotateRetirementHistory_activated next _ unpromoted, length]
  obtain ⟨records₃, lags₃, eq₃⟩ := matches_rotate (s := s₂) (s.retirements.length + 1) lags₂
  have waiting₃ : ∀ operation r, next = .startNext operation →
      records₃[operation.operationId]? = some r → r.state = .queued := by
    intro operation r promoted found
    have old := get_of_rotate (s := s₂.caughtUp records) (r := r) (s.retirements.length + 1)
      (by rw [eq₃]; exact found)
    exact waiting operation r promoted old
  rw [eq₃]
  generalize rotateRetirementHistory (s.retirements.length + 1) s₂ = rotation at lags₃
  obtain ⟨answer, s₃⟩ := rotation
  refine ⟨next, activateNext records₃ next, ?_⟩
  cases answer with
  | error e => exact ⟨lags₃.activateNext_right waiting₃, rfl, rfl⟩
  | ok _ => exact ⟨lags₃.activateNext next, rfl, rfl⟩

/-- A retirement, failed or not, is a sequence of moves of the ledger caught up. -/
theorem retire_lags (h : (s.caughtUp records).Orderly) (lags : Lags s.operations records)
    (order : IterationOrder) (transition : RetirementTransition) (allowed : care.retires)
    (unresolved : care.legible → ∀ retirement,
      (s.caughtUp records).retirementFor id transition = .ok retirement →
        (s.caughtUp records).Unresolved id ∧ 0 < transition.nowMs) :
    ∃ records', Lags (s.retireIndeterminateWithDisposition order id transition).2.operations records' ∧
      Moves care (s.caughtUp records)
        ((s.retireIndeterminateWithDisposition order id transition).2.caughtUp records') := by
  by_cases accepted : ∃ retirement, (s.caughtUp records).retirementFor id transition = .ok retirement ∧
      (s.caughtUp records).Releasable retirement
  · obtain ⟨retirement, ok, releasable⟩ := accepted
    obtain ⟨next, records', lags', -, eq⟩ := retire_releasable h lags order ok releasable
    refine ⟨records', lags', ?_⟩
    rw [eq]
    have moves := h.coherent.handedOn_moves ok releasable order allowed
      fun legible => unresolved legible retirement ok
    exact moves.trans ((h.coherent.moves moves).rotate_moves (h.accounted.moves h.coherent moves) _)
  · obtain ⟨e, failed⟩ := retire_unreleasable h.coherent lags order transition
      fun retirement ok releasable => accepted ⟨retirement, ok, releasable⟩
    rw [failed]
    exact ⟨records, lags, .refl _⟩

/-! ### Restart -/

/-- A restart cancels what waits and what was promoted alike. -/
theorem snapshotForRestart_caughtUp (lags : Lags s.operations records) :
    (s.caughtUp records).snapshotForRestart = s.snapshotForRestart := by
  have settled : records.values.map afterRestart = s.operations.values.map afterRestart := by
    have same := filterMap_values (fun r : SafetyOperation => some r.afterRestart)
      (lags.view fun r queued => by simp only [afterRestart, promote, queued, receiptFor])
    simpa only [List.filterMap_eq_map'] using same.symm
  have lost : (s.caughtUp records).quarantinesAfterRestart = s.quarantinesAfterRestart := by
    have same := lags.filter_values isLostByRestart fun r queued => by
      simp [isLostByRestart, promote, queued, isInFlight]
    unfold quarantinesAfterRestart
    rw [← List.foldl_filter, ← List.foldl_filter, caughtUp_operations, same]
    rfl
  unfold snapshotForRestart
  rw [lost, caughtUp_operations, settled]
  rfl

/-! ### Every call -/

theorem Spare.caughtUp (h : s.Spare) (lags : Lags s.operations records) : (s.caughtUp records).Spare :=
  fun oldest first full => lags.get_none (h oldest first full)

theorem FilesOnce.caughtUp {event : LedgerEvent} (h : s.FilesOnce event)
    (lags : Lags s.operations records) : (s.caughtUp records).FilesOnce event := by
  cases event with
  | prepareWithMetadata => exact fun new => h fun old => new (lags.mem.mpr old)
  | resolveHubPreEnqueueNonDelivery =>
    intro r found sent
    exact Spare.caughtUp (h r (lags.get_right found (by rw [sent]; decide)) sent) lags
  | reconcileAuthoritativeTerminal =>
    intro r found ambiguous
    exact Spare.caughtUp (h r (lags.get_right found (by rw [ambiguous]; decide)) ambiguous) lags
  | _ => trivial

theorem LeavesRetired.caughtUp {event : LedgerEvent} (h : s.LeavesRetired event) :
    (s.caughtUp records).LeavesRetired event := by
  cases event with
  | markReconciliationOperatorRequired => exact h
  | _ => trivial

/-- What a call does to a ledger that lags: it changes nothing, or it leaves behind what it would
leave behind had the ledger caught up. -/
def Tracks (s s' t : AuthoritativeOperationController) : Prop :=
  s' = s ∨ ∃ records, Lags s'.operations records ∧ t = s'.caughtUp records

theorem Lifts.tracks {α : Type} {answer : α → LedgerResponse}
    {outcome outcome' : Except ExecutionError (α × AuthoritativeOperationController)}
    (lifts : Lifts outcome outcome') :
    Tracks s (s.attempt answer outcome).2 (t.attempt answer outcome').2 := by
  cases result : outcome with
  | error e => exact .inl rfl
  | ok pair =>
    obtain ⟨records', lags, eq⟩ := lifts pair.1 pair.2 result
    exact .inr ⟨records', lags, by rw [eq]; rfl⟩

theorem Matches.tracks {α : Type} {outcome outcome' : Except ExecutionError α × AuthoritativeOperationController}
    (same : Matches outcome outcome') : Tracks s outcome.2 outcome'.2 := by
  obtain ⟨records', lags, rfl⟩ := same
  exact .inr ⟨records', lags, rfl⟩

/-- Every call but a retirement and a restart does to a ledger that lags what it does to the ledger
caught up. -/
theorem Orderly.next_tracks (h : (s.caughtUp records).Orderly) (lags : Lags s.operations records)
    (event : LedgerEvent) (spares : event.retirement = none) (runs : ∀ limits, event ≠ .restart limits) :
    Tracks s (s.next event) ((s.caughtUp records).next event) := by
  cases event with
  | prepareWithMetadata => exact (matches_prepare lags).tracks
  | markDispatchedWithBinding => exact (lifts_dispatch lags).tracks
  | requestCancel => exact (lifts_requestCancel lags h.coherent).tracks
  | finalize => exact (lifts_finalize lags).tracks
  | resolveHubPreEnqueueNonDelivery => exact (lifts_neverEnqueued lags).tracks
  | markIndeterminate order id owner generation reason nowMs =>
    simp only [AuthoritativeOperationController.next, step, markIndeterminate]
    cases checked : s.checked id owner generation with
    | error e => exact .inl rfl
    | ok r =>
      obtain ⟨found, fence⟩ := checked_eq_ok.mp checked
      have checked' : ∃ r', (s.caughtUp records).checked id owner generation = .ok r' := by
        rcases lags.get_cases found with same | ⟨-, promoted⟩
        · exact ⟨r, checked_eq_ok.mpr ⟨same, fence⟩⟩
        · exact ⟨r.promote, checked_eq_ok.mpr ⟨promoted, fence⟩⟩
      obtain ⟨r', checked'⟩ := checked'
      rw [checked']
      exact (matches_markIndeterminate h.coherent lags order reason nowMs).tracks
  | markRecoveryReadInterrupted => exact (lifts_interruptRead lags).tracks
  | markConnectionLost order id nowMs =>
    have lane : (s.caughtUp records).isRecoveryEvidenceRead id = s.isRecoveryEvidenceRead id := by
      have same := lags.view (f := executionLane) (fun _ _ => rfl) id
      rw [isRecoveryEvidenceRead, isRecoveryEvidenceRead, caughtUp_operations]
      generalize s.operations[id]? = old at same ⊢
      generalize records[id]? = new at same ⊢
      cases old <;> cases new <;> simp_all
    simp only [AuthoritativeOperationController.next, step, markConnectionLost, lane]
    split
    · have lifts : Lifts (s.markRecoveryReadInterrupted order id nowMs) _ :=
        lifts_interruptRead lags
      cases result : s.markRecoveryReadInterrupted order id nowMs with
      | error e => exact .inl rfl
      | ok pair =>
        obtain ⟨records', lags', eq⟩ := lifts pair.1 pair.2 result
        rw [eq]
        exact .inr ⟨records', lags', rfl⟩
    · exact (matches_markIndeterminate h.coherent lags order .connectionLost nowMs).tracks
  | markReconciliationEvidenceGap => exact (lifts_evidenceGap lags).tracks
  | markReconciliationOperatorRequired => exact (lifts_operatorRequired lags).tracks
  | reconcileAuthoritativeTerminal => exact (lifts_reconcile lags).tracks
  | resolveIndeterminate => exact (lifts_resolve lags).tracks
  | retireIndeterminate order id authority policy reason generation nowMs =>
    simp only [AuthoritativeOperationController.next, step, retireIndeterminate]
    split
    · exact .inl rfl
    · next local_operator =>
      obtain rfl := not_not.mp local_operator
      cases spares
  | acceptCurrentState order id policy reason generation nowMs => cases spares
  | resumeMutations => exact (lifts_resume lags).tracks
  | attachRecoverableResult => exact (lifts_attach lags h.sound).tracks
  | pruneTerminalBeforeGeneration => exact (matches_prune lags _ _).tracks
  | restart limits => exact absurd rfl (runs limits)

/-- A call to a ledger that lags is a restart or a sequence of moves of the ledger caught up. -/
theorem Orderly.next_lags (h : (s.caughtUp records).Orderly) (lags : Lags s.operations records)
    (care : Care) (event : LedgerEvent) (careful : Careful care (s.caughtUp records) event)
    (allowed : event.Allowed care) :
    ∃ records', Lags (s.next event).operations records' ∧
      ((∃ limits, (s.next event).caughtUp records' = (s.caughtUp records).restarted limits) ∨
        Moves care (s.caughtUp records) ((s.next event).caughtUp records')) := by
  cases asks : event.retirement with
  | some asked =>
    obtain ⟨id, transition⟩ := asked
    have permitted : care.retires := allowed.retires (by rw [asks]; nofun)
    have unresolved : care.legible → ∀ retirement,
        (s.caughtUp records).retirementFor id transition = .ok retirement →
          (s.caughtUp records).Unresolved id ∧ 0 < transition.nowMs :=
      fun legible retirement ok => (careful.legible legible).1 id transition retirement asks ok
    cases event with
    | retireIndeterminate order id' authority policy reason generation nowMs =>
      rw [retirement] at asks
      split at asks
      · next local_operator =>
        cases asks
        obtain rfl := local_operator
        obtain ⟨records', lags', moves⟩ := retire_lags h lags order _ permitted unresolved
        exact ⟨records', lags', .inr moves⟩
      · cases asks
    | acceptCurrentState order =>
      cases asks
      obtain ⟨records', lags', moves⟩ := retire_lags h lags order _ permitted unresolved
      exact ⟨records', lags', .inr moves⟩
    | _ => cases asks
  | none =>
    by_cases restarts : ∃ limits, event = .restart limits
    · obtain ⟨limits, rfl⟩ := restarts
      simp only [AuthoritativeOperationController.next, step, restart]
      rw [← snapshotForRestart_caughtUp lags]
      split
      · exact ⟨records, lags, .inr (.refl _)⟩
      · next snapshot taken =>
        split
        · exact ⟨records, lags, .inr (.refl _)⟩
        · next s' restored =>
          exact ⟨s'.operations, .refl _, .inl ⟨limits, h.restore_eq taken restored⟩⟩
    · rcases h.next_tracks lags event asks fun limits eq => restarts ⟨limits, eq⟩ with
        same | ⟨records', lags', eq⟩
      · exact ⟨records, by rwa [same], .inr (same.symm ▸ .refl _)⟩
      · refine ⟨records', lags', ?_⟩
        rw [← eq]
        rcases h.next_cases care event (fun id transition some => by rw [asks] at some; cases some) careful
          allowed with ⟨limits, -, eq⟩ | moves
        · exact .inl ⟨limits, eq⟩
        · exact .inr moves

/-- What every move of an orderly ledger keeps, a sequence of moves keeps. -/
theorem Orderly.moves_keep {P : AuthoritativeOperationController → Prop} (h : s.Orderly) (holds : P s)
    (moved : ∀ {s s'}, s.Orderly → P s → Move care s s' → P s') (m : Moves care s s') : P s' := by
  induction m with
  | refl => exact holds
  | tail first last ih => exact moved (h.moves first) ih last

/-- What the ledger has once it has caught up. -/
def Sustains (P : AuthoritativeOperationController → Prop) (s : AuthoritativeOperationController) : Prop :=
  ∃ records, Lags s.operations records ∧ (s.caughtUp records).Orderly ∧ P (s.caughtUp records)

section Runs
variable {P : AuthoritativeOperationController → Prop}
  {ok : AuthoritativeOperationController → LedgerEvent → Prop}

theorem Sustains.next (h : s.Sustains P) {event : LedgerEvent} (allowed : event.Allowed care)
    (careful : ∀ {records}, Lags s.operations records → Careful care (s.caughtUp records) event)
    (moved : ∀ {s s'}, s.Orderly → P s → Move care s s' → P s')
    (restarted : ∀ {s} limits, s.Orderly → P s → P (s.restarted limits)) :
    (s.next event).Sustains P := by
  obtain ⟨records, lags, orderly, holds⟩ := h
  obtain ⟨records', lags', cases⟩ := orderly.next_lags lags care event (careful lags) allowed
  refine ⟨records', lags', ?_⟩
  rcases cases with ⟨limits, eq⟩ | moves
  · rw [eq]
    exact ⟨orderly.restarted limits, restarted limits orderly holds⟩
  · exact ⟨orderly.moves moves, orderly.moves_keep holds moved moves⟩

/-- What every move and every restart of an orderly ledger keeps is kept by every run, whether
the history overflows or not. -/
theorem sustains_run {limits : AdmissionLimits} (care : Care)
    (allowed : ∀ event : LedgerEvent, event.Allowed care)
    (careful : ∀ {s records event}, Lags s.operations records → ok s event →
      Careful care (s.caughtUp records) event)
    (initial : P (empty limits))
    (moved : ∀ {s s'}, s.Orderly → P s → Move care s s' → P s')
    (restarted : ∀ {s} limits, s.Orderly → P s → P (s.restarted limits)) {events : List LedgerEvent}
    (meets : Machine.Meets AuthoritativeOperationController.next ok (empty limits) events) :
    (run AuthoritativeOperationController.next (empty limits) events).Sustains P :=
  run_invariant (fun _ event h allows => h.next (allowed event) (careful · allows) moved restarted)
    ⟨_, .refl _, orderly_empty limits, initial⟩ meets

/-- The same for every reachable ledger. -/
theorem Reachable.sustains (h : s.Reachable)
    (initial : ∀ limits, P (empty limits))
    (moved : ∀ {s s'}, s.Orderly → P s → Move .none s s' → P s')
    (restarted : ∀ {s} limits, s.Orderly → P s → P (s.restarted limits)) : s.Sustains P := by
  obtain ⟨limits, start, events, created, rfl⟩ := h
  rw [new_eq_ok created]
  have meets : Machine.Meets AuthoritativeOperationController.next (fun _ _ => True) (empty limits)
      events := meets_of_forall (fun _ _ => trivial) events
  exact sustains_run .none allowed_none (fun {_ _ event} _ _ => careful_none _ event)
    (initial limits) moved restarted meets

end Runs

end AuthoritativeOperationController

end Gateway.Execution
