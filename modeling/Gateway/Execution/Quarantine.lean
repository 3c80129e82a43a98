import Gateway.Execution.Replay

/-! Who may lift a quarantine.

A quarantined device admits recovery reads only, and its quarantine stays until
an operator resolves it, the Agent's own evidence settles it, or a retirement
releases it. The one exception is a retirement whose rotation fails: it has
lifted the quarantine and still answers with an error. -/
namespace Gateway.Execution
open Data Device Result Machine Table

namespace AuthoritativeOperationController
variable {s s' : AuthoritativeOperationController} {id : String} {r : SafetyOperation}

/-! ### What each call does to the quarantines -/

theorem rotateOldest_quarantines (s : AuthoritativeOperationController) :
    s.rotateOldest.2.quarantines = s.quarantines := by
  unfold rotateOldest
  dsimp only
  repeat' split
  all_goals rfl

theorem rotateRetirementHistory_quarantines (rounds : Nat) (s : AuthoritativeOperationController) :
    (rotateRetirementHistory rounds s).2.quarantines = s.quarantines :=
  rotateRetirementHistory_keeps rotateOldest_quarantines rounds s

variable {event : LedgerEvent} {transition : RetirementTransition} {d : String}
  {q : DesktopQuarantine}

/-! ### Retirements with room for their history -/

/-- The retirement is let through and leaves more barriers up than the history may hold. -/
def Overflows (s : AuthoritativeOperationController) (id : String)
    (transition : RetirementTransition) : Prop :=
  ∃ retirement, s.retirementFor id transition = .ok retirement ∧ s.Releasable retirement ∧
    maxRetirementRecords < s.mutationResumeBarriers.size +
      if retirement.policy = .acknowledgedUnknownPointerClickV1 then 1 else 0

/-- The event is no retirement that overflows the history. -/
def Roomy (s : AuthoritativeOperationController) (event : LedgerEvent) : Prop :=
  ∀ id transition, event.retirement = some (id, transition) → ¬s.Overflows id transition

theorem Roomy.fits (roomy : s.Roomy event) : s.Fits event := by
  rintro id transition asks ⟨retirement, ok, releasable, transient, crowds⟩
  refine roomy id transition asks ⟨retirement, ok, releasable, ?_⟩
  rwa [if_neg transient]

/-- With room, the rotation after a retirement succeeds and leaves a short history. -/
theorem Orderly.rotate_of_roomy (h : s.Orderly) (asks : event.retirement = some (id, transition))
    (roomy : s.Roomy event) {retirement : RetirementRecord}
    (ok : s.retirementFor id transition = .ok retirement) (releasable : s.Releasable retirement)
    (order : IterationOrder) :
    let rotation := rotateRetirementHistory (s.retirements.length + 1)
      (s.handedOn order id retirement transition.nowMs)
    rotation.1 = .ok () ∧ rotation.2.retirements.length ≤ maxRetirementRecords := by
  refine h.coherent.rotate_handedOn h.accounted ok releasable order ?_
  have few := Nat.not_lt.mp fun crowds => roomy id transition asks ⟨retirement, ok, releasable, crowds⟩
  by_cases click : retirement.policy = .acknowledgedUnknownPointerClickV1
  · simp only [released, if_pos click] at few ⊢
    exact (Std.ExtTreeMap.size_insert_le).trans few
  · simpa only [released, if_neg click, Nat.add_zero] using few

/-- With room, a retirement succeeds and lifts its own device's quarantine, or nothing changes. -/
theorem Orderly.retire_cases (h : s.Orderly) (asks : event.retirement = some (id, transition))
    (roomy : s.Roomy event) (order : IterationOrder) :
    (∃ e, s.retireIndeterminateWithDisposition order id transition = (.error e, s)) ∨
      ∃ answer s' r retirement, Retirable s id transition r retirement ∧
        s.retireIndeterminateWithDisposition order id transition = (.ok answer, s') ∧
        s'.quarantines = s.quarantines.erase r.operation.deviceId := by
  rcases h.coherent.retire_cases .none h.accounted order transition (roomy.fits id transition asks)
      trivial False.elim with
    failed | ⟨retirement, next, ok, releasable, eq, -⟩
  · exact .inl failed
  · right
    obtain ⟨r, checked⟩ := retirable_of_ok ok
    obtain ⟨rotates, -⟩ := h.rotate_of_roomy asks roomy ok releasable order
    refine ⟨(next, retirement), (rotateRetirementHistory (s.retirements.length + 1)
      (s.handedOn order id retirement transition.nowMs)).2, r, retirement, checked, ?_, ?_⟩
    · rw [eq, rotates]
      rfl
    · rw [rotateRetirementHistory_quarantines, handedOn, ← checked.operation]
      split <;> rfl

/-! ### Lifting a quarantine -/

/-- The calls that may lift the quarantine of operation `id`. -/
inductive Clearance (s : AuthoritativeOperationController) (id : String) : LedgerEvent → Prop where
  | resolved (order : IterationOrder) (resolver : OperationOwner) (decision : IndeterminateResolution)
      (evidence : String) (nowMs : Nat) :
      Clearance s id (.resolveIndeterminate order id resolver decision evidence nowMs)
  | reconciled (order : IterationOrder) (terminal : AgentTerminalEvidence) (nowMs : Nat)
      (r : SafetyOperation) (found : s.operations[id]? = some r)
      (operation : r.operation = terminal.operation) (capability : r.capability = terminal.capability)
      (binding : r.dispatchBinding = some ⟨terminal.capabilityRevision, terminal.dispatchGrantId⟩)
      (waiting : r.reconciliationStatus = some .autoReconciling) :
      Clearance s id (.reconcileAuthoritativeTerminal order terminal nowMs)
  | retired (event : LedgerEvent) (transition : RetirementTransition) (r : SafetyOperation)
      (asks : event.retirement = some (id, transition)) (found : s.operations[id]? = some r)
      (eligible : transition.disposition.policyFor r.capability = some transition.requestedPolicy)
      (newer : r.operation.deviceGeneration < transition.authorizedDeviceGeneration) :
      Clearance s id event

/-- A quarantine that one call leaves alone, or lifts with clearance. -/
def Upheld (s : AuthoritativeOperationController) (event : LedgerEvent) (d : String)
    (q : DesktopQuarantine) : Prop :=
  (s.next event).quarantines[d]? = some q ∨
    (s.next event).quarantines[d]? = none ∧ (∃ response, (s.step event).1 = .ok response) ∧
      s.Clearance q.operationId event

/-- The quarantine of one device is erased. -/
theorem upheld_of_erase (device : String) (held : s.quarantines[d]? = some q)
    (erased : (s.next event).quarantines = s.quarantines.erase device)
    (answered : ∃ response, (s.step event).1 = .ok response)
    (cleared : device = d → s.Clearance q.operationId event) : s.Upheld event d q := by
  rw [Upheld, erased, get_erase]
  split
  · next same => exact .inr ⟨rfl, answered, cleared same⟩
  · exact .inl held

theorem Orderly.upheld_of_retirement (h : s.Orderly)
    (asks : event.retirement = some (id, transition)) (roomy : s.Roomy event)
    (order : IterationOrder)
    (calls : s.step event = answered (fun answer => .retired answer.1 answer.2)
      (s.retireIndeterminateWithDisposition order id transition))
    (held : s.quarantines[d]? = some q) : s.Upheld event d q := by
  rcases h.retire_cases asks roomy order with
    ⟨e, failed⟩ | ⟨answer, s', r, retirement, checked, ok, erased⟩
  · left
    rw [AuthoritativeOperationController.next, calls, failed]
    exact held
  · refine upheld_of_erase r.operation.deviceId held ?_ ?_ ?_
    · rw [AuthoritativeOperationController.next, calls, ok]
      exact erased
    · rw [calls, ok]
      exact ⟨_, rfl⟩
    · rintro rfl
      obtain ⟨q', held', names, -⟩ := checked.quarantined
      rw [held, Option.some.injEq] at held'
      rw [held', names]
      exact .retired event transition r asks checked.old checked.eligible checked.newer

/-- Work that becomes ambiguous was running on a device that was not quarantined. -/
theorem Coherent.upheld_of_mark (h : s.Coherent) (order : IterationOrder) (id : String)
    (reason : IndeterminateReason) (nowMs : Nat) (held : s.quarantines[d]? = some q) :
    (s.markIndeterminateInternal order id reason nowMs).2.quarantines[d]? = some q := by
  rcases h.markIndeterminate_cases .none order id reason nowMs with
    ⟨e, failed⟩ | ⟨s', target, marked, -, found, normal, inFlight, inserted⟩
  · rw [failed]
    exact held
  · rw [marked, inserted, get_insert_of_ne, held]
    rintro rfl
    have free := h.fenced id target found normal (SafetyOperation.isUnsettled_of_isInFlight inFlight)
    rw [held] at free
    cases free

theorem upheld_of_reconcile (order : IterationOrder) (terminal : AgentTerminalEvidence)
    (nowMs : Nat) (held : s.quarantines[d]? = some q) :
    s.Upheld (.reconcileAuthoritativeTerminal order terminal nowMs) d q := by
  cases result : s.reconcileAuthoritativeTerminal order terminal nowMs with
  | error e =>
    left
    simp only [AuthoritativeOperationController.next, step, result]
    exact held
  | ok pair =>
    have ok := result
    obtain ⟨-, ok⟩ := guard_eq_ok.mp ok
    split at ok
    · cases ok
    · next record old =>
      obtain ⟨found, ok⟩ := guard_eq_ok.mp ok
      simp only [not_or, not_not] at found
      obtain ⟨-, waiting, operation, capability, binding⟩ := found
      split at ok
      · cases ok
      · next quarantine named =>
        simp only [guard_eq_ok, bind_eq_ok, not_or, not_not] at ok
        obtain ⟨⟨names, -⟩, ⟨next, admission⟩, -, ok⟩ := ok
        refine upheld_of_erase record.operation.deviceId held ?_ ?_ ?_
        · simp only [AuthoritativeOperationController.next, step, result]
          cases ok
          rfl
        · simp only [step, result]
          exact ⟨_, rfl⟩
        · rintro rfl
          rw [held, Option.some.injEq] at named
          rw [named, names]
          exact .reconciled order terminal nowMs record old operation capability binding waiting

theorem upheld_of_resolve (order : IterationOrder) (id : String) (resolver : OperationOwner)
    (decision : IndeterminateResolution) (evidence : String) (nowMs : Nat)
    (held : s.quarantines[d]? = some q) :
    s.Upheld (.resolveIndeterminate order id resolver decision evidence nowMs) d q := by
  cases result : s.resolveIndeterminate order id resolver decision evidence nowMs with
  | error e =>
    left
    simp only [AuthoritativeOperationController.next, step, result]
    exact held
  | ok pair =>
    have ok := result
    obtain ⟨-, ok⟩ := guard_eq_ok.mp ok
    split at ok
    · cases ok
    · next record old =>
      obtain ⟨-, ok⟩ := guard_eq_ok.mp ok
      split at ok
      · cases ok
      · next quarantine named =>
        simp only [guard_eq_ok, bind_eq_ok, not_or, not_not] at ok
        obtain ⟨⟨names, -⟩, -, ⟨next, admission⟩, -, ok⟩ := ok
        refine upheld_of_erase record.operation.deviceId held ?_ ?_ ?_
        · simp only [AuthoritativeOperationController.next, step, result]
          cases ok
          rfl
        · simp only [step, result]
          exact ⟨_, rfl⟩
        · rintro rfl
          rw [held, Option.some.injEq] at named
          rw [named, names]
          exact .resolved order resolver decision evidence nowMs

/-- Every call upholds every quarantine. -/
theorem Orderly.upheld (h : s.Orderly) (event : LedgerEvent) (roomy : s.Roomy event)
    (held : s.quarantines[d]? = some q) : s.Upheld event d q := by
  by_cases leaves : LeavesQuarantines event = true
  · left
    rw [(next_leaves leaves).quarantines]
    exact held
  · cases event with
    | markIndeterminate order id owner generation reason nowMs =>
      left
      simp only [AuthoritativeOperationController.next, step, markIndeterminate]
      split
      · exact held
      · exact h.coherent.upheld_of_mark order id reason nowMs held
    | markConnectionLost order id nowMs =>
      left
      simp only [AuthoritativeOperationController.next, step, answered, markConnectionLost]
      split
      · split
        · exact held
        · next interrupted =>
          rw [(interruptRead_leaves interrupted).quarantines]
          exact held
      · exact h.coherent.upheld_of_mark order id .connectionLost nowMs held
    | reconcileAuthoritativeTerminal order terminal nowMs =>
      exact upheld_of_reconcile order terminal nowMs held
    | resolveIndeterminate order id resolver decision evidence nowMs =>
      exact upheld_of_resolve order id resolver decision evidence nowMs held
    | retireIndeterminate order id authority policy reason generation nowMs =>
      by_cases allowed : authority = .localMaintenanceOperator
      · subst allowed
        exact h.upheld_of_retirement rfl roomy order rfl held
      · left
        simp only [AuthoritativeOperationController.next, step, retireIndeterminate,
          if_pos allowed]
        exact held
    | acceptCurrentState order id policy reason generation nowMs =>
      exact h.upheld_of_retirement rfl roomy order rfl held
    | restart limits =>
      left
      rcases h.restart_cases limits with eq | eq
      · rw [eq]
        exact (quarantined_of_not_lost (h.coherent.not_lost_of_quarantined held)).trans held
      · rw [eq]
        exact held
    | _ => exact absurd rfl leaves

/-! ### Safety along runs -/

/-- What a ledger and one call applied to it must respect while a device is quarantined. -/
structure QuarantineSafe (s : AuthoritativeOperationController) (event : LedgerEvent) : Prop where
  /-- No ordinary operation of the device is unsettled. -/
  fenced : ∀ (d : String) (q : DesktopQuarantine), s.quarantines[d]? = some q →
    ∀ (id : String) (r : SafetyOperation), s.operations[id]? = some r → r.operation.deviceId = d →
      r.executionLane = .normal → r.state ≠ .queued ∧ r.state ≠ .activeNotDispatched ∧
        r.state ≠ .dispatched ∧ r.state ≠ .cancelRequested
  /-- Only recovery reads are admitted. -/
  admits : ∀ (operation : OperationRef) (owner : OperationOwner) (capability : DeviceCapability)
    (metadata : OperationAdmissionMetadata) (nowMs : Nat) (response : LedgerResponse),
    event = .prepareWithMetadata operation owner capability metadata nowMs →
    s.quarantines[operation.deviceId]? ≠ none → (s.step event).1 = .ok response →
      capability.isRecoveryEvidenceReadOnly = true ∧
        ∃ r, (s.next event).operations[operation.operationId]? = some r ∧
          r.executionLane = .recoveryEvidenceRead
  /-- The quarantine goes with a successful call that has clearance. -/
  lifted : ∀ (d : String) (q : DesktopQuarantine), s.quarantines[d]? = some q →
    (s.next event).quarantines[d]? = none →
      (∃ response, (s.step event).1 = .ok response) ∧ s.Clearance q.operationId event
  /-- No other operation's quarantine takes its place. -/
  kept : ∀ (d : String) (q q' : DesktopQuarantine), s.quarantines[d]? = some q →
    (s.next event).quarantines[d]? = some q' → q'.operationId = q.operationId

/-- A quarantined device admits recovery reads only. -/
theorem prepare_of_quarantined {operation : OperationRef} {owner : OperationOwner}
    {capability : DeviceCapability} {metadata : OperationAdmissionMetadata} {nowMs : Nat}
    {decision : AdmissionDecision} (held : s.quarantines[operation.deviceId]? ≠ none)
    (ok : (s.prepareWithMetadata operation owner capability metadata nowMs).1 = .ok decision) :
    capability.isRecoveryEvidenceReadOnly = true ∧
      ∃ r, (s.prepareWithMetadata operation owner capability metadata nowMs).2.operations[
          operation.operationId]? = some r ∧ r.executionLane = .recoveryEvidenceRead := by
  obtain ⟨quarantine, held⟩ := Option.ne_none_iff_exists'.mp held
  unfold prepareWithMetadata at ok ⊢
  simp only [held] at ok ⊢
  split at ok
  · cases ok
  · next fresh =>
    split at ok
    · cases ok
    · next valid =>
      rw [if_neg fresh, if_neg valid]
      split at ok
      · cases ok
      · next unbarred =>
        split at ok
        · cases ok
        · next allowed =>
          rw [if_neg allowed]
          split at ok
          · cases ok
          · exact ⟨not_not.mp allowed, _, get_insert_self _ _ _, rfl⟩

/-- Along every run in which no retirement overflows the history, quarantines are safe. -/
theorem quarantineSafe_of_roomy {limits : AdmissionLimits}
    {initial : AuthoritativeOperationController} (created : new limits = .ok initial)
    {events : List LedgerEvent} (roomy : Machine.Meets next Roomy initial events)
    {event : LedgerEvent} (last : (run next initial events).Roomy event) :
    (run next initial events).QuarantineSafe event := by
  rw [new_eq_ok created] at roomy last ⊢
  have h := orderly_run limits (roomy.mono fun _ _ => Roomy.fits)
  constructor
  case fenced =>
    intro d q held id r found device normal
    have settled : r.state.isUnsettled = false := by
      rw [Bool.eq_false_iff]
      intro pending
      have free := h.coherent.fenced id r found normal pending
      rw [device, held] at free
      cases free
    cases state : r.state <;> rw [state] at settled <;> cases settled <;> decide
  case admits =>
    rintro operation owner capability metadata nowMs response rfl held ok
    simp only [step, answered] at ok
    cases decided : ((run next (empty limits) events).prepareWithMetadata operation owner
        capability metadata nowMs).1 with
    | error e =>
      rw [decided] at ok
      cases ok
    | ok decision => exact prepare_of_quarantined held decided
  case lifted =>
    intro d q held gone
    rcases h.upheld event last held with stays | ⟨-, cleared⟩
    · rw [stays] at gone
      cases gone
    · exact cleared
  case kept =>
    intro d q q' held held'
    rcases h.upheld event last held with stays | ⟨gone, -⟩
    · rw [stays, Option.some.injEq] at held'
      rw [held']
    · rw [gone] at held'
      cases held'

theorem roomy_of_few (s : AuthoritativeOperationController) (event : LedgerEvent)
    (few : s.mutationResumeBarriers.size < maxRetirementRecords) : s.Roomy event := by
  rintro id transition - ⟨retirement, -, -, crowds⟩
  split at crowds <;> omega

/-- A lost scroll keeps its device quarantined until it is retired. -/
theorem quarantineSafe_retired_scroll :
    (run next (empty ⟨1, 1⟩) (sent "desk" "x" .scroll ++ [lost "x"])).QuarantineSafe
      (retired "x") := by
  have roomy : Machine.Meets next Roomy (empty ⟨1, 1⟩) (sent "desk" "x" .scroll ++ [lost "x"]) :=
    ⟨roomy_of_few _ _ (by decide), roomy_of_few _ _ (by decide),
      roomy_of_few _ _ (by decide +kernel), trivial⟩
  exact quarantineSafe_of_roomy (show new ⟨1, 1⟩ = _ from rfl) roomy
    (roomy_of_few _ _ (by decide +kernel))

/-- Sixty-four accepted clicks and one more that is lost. -/
def crowded : List LedgerEvent :=
  (List.range 64).flatMap acceptedClick ++ sent "desk" "x" .pointerClick ++ [lost "x"]

/-- The lost click is accepted as it is. -/
def acceptedLast : LedgerEvent :=
  .acceptCurrentState .given "x" .acknowledgedUnknownPointerClickV1 "seen" 2 1

set_option maxRecDepth 100000 in
/-- The sixty-fifth acceptance answers with an error and has lifted the quarantine. -/
theorem crowded_lifts_by_error : ∃ initial, new ⟨1, 1⟩ = .ok initial ∧
    ¬(run next initial crowded).QuarantineSafe acceptedLast := by
  refine ⟨empty ⟨1, 1⟩, rfl, fun safe => ?_⟩
  have lifted : ((run next (empty ⟨1, 1⟩) crowded).quarantines["desk"]?.isSome = true ∧
      ((run next (empty ⟨1, 1⟩) crowded).next acceptedLast).quarantines["desk"]? = none) ∧
      ((run next (empty ⟨1, 1⟩) crowded).step acceptedLast).1.toOption = none := by
    decide +kernel
  obtain ⟨⟨before, after⟩, failed⟩ := lifted
  obtain ⟨q, held⟩ := Option.isSome_iff_exists.mp before
  obtain ⟨⟨response, ok⟩, -⟩ := safe.lifted "desk" q held after
  rw [ok] at failed
  cases failed

end AuthoritativeOperationController

end Gateway.Execution
