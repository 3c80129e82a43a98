import Gateway.Device.Command
import Gateway.Execution.Survival

/-! Every ledger a careful run reaches survives a restart.

The Hub's own discipline (a running clock, a binding exactly for commands that can
change something) is not enough: eight calls it may make leave a ledger whose
snapshot is refused. Without them, the snapshot of every ledger a run reaches is
read back, with unsettled work settled and everything else as it was. -/
namespace Gateway.Execution
open Data Device SafetyOperation Machine

/-- The clock reading of a call. -/
def LedgerEvent.clock : LedgerEvent → Option Nat
  | .prepareWithMetadata _ _ _ _ nowMs => some nowMs
  | .markDispatchedWithBinding _ _ _ _ nowMs => some nowMs
  | .requestCancel _ _ _ _ nowMs => some nowMs
  | .finalize _ _ _ _ _ _ nowMs => some nowMs
  | .resolveHubPreEnqueueNonDelivery _ _ _ _ _ _ nowMs => some nowMs
  | .markIndeterminate _ _ _ _ _ nowMs => some nowMs
  | .markRecoveryReadInterrupted _ _ nowMs => some nowMs
  | .markConnectionLost _ _ nowMs => some nowMs
  | .markReconciliationEvidenceGap _ => none
  | .markReconciliationOperatorRequired _ => none
  | .reconcileAuthoritativeTerminal _ _ nowMs => some nowMs
  | .resolveIndeterminate _ _ _ _ _ nowMs => some nowMs
  | .retireIndeterminate _ _ _ _ _ _ nowMs => some nowMs
  | .acceptCurrentState _ _ _ _ _ nowMs => some nowMs
  | .resumeMutations _ _ _ _ _ nowMs => some nowMs
  | .attachRecoverableResult _ _ _ _ => none
  | .pruneTerminalBeforeGeneration _ _ => none
  | .restart _ => none

namespace AuthoritativeOperationController
variable {care : Care} {s s' : AuthoritativeOperationController} {id : String} {r : SafetyOperation}

/-- The call as the Hub makes it: its clock runs, and an operation is sent with a valid
binding exactly when the command sent for it is not read-only. -/
def HubCall (s : AuthoritativeOperationController) (event : LedgerEvent) : Prop :=
  event.clock.all (0 < ·) = true ∧
  match event with
  | .markDispatchedWithBinding id _ _ binding _ =>
    binding.all (·.isValid) = true ∧ ∀ r, s.operations[id]? = some r →
      ∃ command : DeviceCommand, command.capability = r.capability ∧
        (binding.isSome = true ↔ command.isReadOnly = false)
  | _ => True

/-- The call is none of those whose ledger a restart refuses. -/
def Endures (s : AuthoritativeOperationController) (event : LedgerEvent) : Prop :=
  s.Roomy event ∧
  (∀ id transition retirement, event.retirement = some (id, transition) →
    s.retirementFor id transition = .ok retirement → s.Unresolved id) ∧
  match event with
  | .prepareWithMetadata operation _ _ _ _ =>
    ¬s.Readmits event ∧ (operation.operationId ∉ s.operations →
      ∀ resolution ∈ s.autoResolutions, resolution.operation.operationId ≠ operation.operationId)
  | .markDispatchedWithBinding id _ _ _ _ =>
    ∀ r, s.operations[id]? = some r → r.state = .activeNotDispatched → r.executionLane = .normal →
      s.mutationResumeBarriers[r.operation.deviceId]? = none
  | .resolveHubPreEnqueueNonDelivery _ id _ _ _ _ _ =>
    ∀ r, s.operations[id]? = some r → r.state = .dispatched →
      r.operation.isBounded = true ∧ s.Spare
  | .markReconciliationOperatorRequired id => s.AsRetired id
  | .reconcileAuthoritativeTerminal _ terminal _ =>
    ∀ r, s.operations[terminal.operation.operationId]? = some r → r.state = .indeterminate → s.Spare
  | _ => True

/-- A recovery read only ever sends read-only commands. -/
theorem Coherent.unbound_read (h : s.Coherent) (found : s.operations[id]? = some r)
    (lane : r.executionLane = .recoveryEvidenceRead) {binding : Option OperationDispatchBinding}
    {command : DeviceCommand} (sends : command.capability = r.capability)
    (bound : binding.isSome = true ↔ command.isReadOnly = false) : binding = none := by
  have observes := (h.reading id r found lane).1
  rw [← sends] at observes
  rw [command.isReadOnly_of_isRecoveryEvidenceReadOnly observes] at bound
  cases binding with
  | none => rfl
  | some b => cases bound.mp rfl

theorem Coherent.legible (h : s.Coherent) {event : LedgerEvent} (hub : s.HubCall event)
    (endures : s.Endures event) : s.Legible event := by
  obtain ⟨clock, sends⟩ := hub
  obtain ⟨-, unresolved, endures⟩ := endures
  refine ⟨fun id transition retirement asks ok => ⟨unresolved id transition retirement asks ok, ?_⟩, ?_⟩
  · cases event with
    | retireIndeterminate order operationId authority policy reason generation nowMs =>
      rw [LedgerEvent.retirement] at asks
      split at asks
      · cases asks
        simpa [LedgerEvent.clock] using clock
      · cases asks
    | acceptCurrentState =>
      cases asks
      simpa [LedgerEvent.clock] using clock
    | _ => cases asks
  · cases event with
    | markDispatchedWithBinding =>
      intro r found ready
      obtain ⟨command, capability, bound⟩ := sends.2 r found
      exact ⟨fun lane => h.unbound_read found lane capability bound, endures r found ready⟩
    | prepareWithMetadata => exact endures
    | resolveHubPreEnqueueNonDelivery => exact endures
    | markReconciliationOperatorRequired => exact endures
    | reconcileAuthoritativeTerminal => exact endures
    | _ => trivial

/-! ### Runs -/

/-- A readable ledger with a short history of retirements. -/
structure Restorable (s : AuthoritativeOperationController) : Prop where
  readable : s.Readable
  few : s.retirements.length ≤ maxRetirementRecords

/-- Without a retirement the history does not grow. -/
theorem Move.retirements_length_le (m : Move care s s') (none : ¬care.retires) :
    s'.retirements.length ≤ s.retirements.length := by
  have same : ∀ {a : Aside}, s'.aside = a → a.retirements = s.retirements →
      s'.retirements.length ≤ s.retirements.length := by
    intro a eq listed
    have retirements : s'.retirements = a.retirements := congrArg Aside.retirements eq
    rw [retirements, listed]
  cases m with
  | retire _ _ _ _ allowed => exact absurd allowed none
  | rotate retired _ _ _ _ aside =>
    have retirements : s'.retirements = s.retirements.erase retired := congrArg Aside.retirements aside
    rw [retirements]
    exact List.length_erase_le
  | _ =>
    rename_i aside
    exact same aside rfl

theorem Moves.retirements_length_le (m : Moves care s s') (none : ¬care.retires) :
    s'.retirements.length ≤ s.retirements.length := by
  induction m with
  | refl => exact le_rfl
  | tail _ last ih => exact (last.retirements_length_le none).trans ih

/-- With room, the history stays short after a retirement. -/
theorem Orderly.few_of_retirement (h : s.Orderly) (few : s.retirements.length ≤ maxRetirementRecords)
    {event : LedgerEvent} {transition : RetirementTransition}
    (asks : event.retirement = some (id, transition)) (roomy : s.Roomy event) (order : IterationOrder) :
    (s.retireIndeterminateWithDisposition order id transition).2.retirements.length ≤
      maxRetirementRecords := by
  rcases h.coherent.retire_cases .none h.accounted order transition (roomy.fits id transition asks)
      trivial False.elim with ⟨e, failed⟩ | ⟨retirement, next, ok, releasable, eq, -⟩
  · rw [failed]
    exact few
  · rw [eq]
    exact (h.rotate_of_roomy asks roomy ok releasable order).2

/-- With room, the history stays short. -/
theorem Orderly.short_next (h : s.Orderly) (short : s.retirements.length ≤ maxRetirementRecords)
    (event : LedgerEvent) (roomy : s.Roomy event) :
    (s.next event).retirements.length ≤ maxRetirementRecords := by
  by_cases asks : event.retirement = none
  · rcases h.next_cases {Care.none with retires := False} event roomy.fits
        ⟨False.elim, False.elim, False.elim⟩
        {event.allowed_none with retires := fun some => absurd asks some} with ⟨limits, -, eq⟩ | moves
    · rw [eq]
      exact short
    · exact (moves.retirements_length_le id).trans short
  · cases event with
    | retireIndeterminate order operationId authority policy reason generation nowMs =>
      simp only [AuthoritativeOperationController.next, step, retireIndeterminate]
      split
      · exact short
      · next local_operator =>
        obtain rfl := not_not.mp local_operator
        exact h.few_of_retirement short rfl roomy order
    | acceptCurrentState order operationId policy reason generation nowMs =>
      exact h.few_of_retirement short rfl roomy order
    | _ => exact absurd rfl asks

theorem Restorable.next (h : s.Restorable) (event : LedgerEvent) (hub : s.HubCall event)
    (endures : s.Endures event) : (s.next event).Restorable := by
  have legible := h.readable.orderly.coherent.legible hub endures
  refine ⟨?_, h.readable.orderly.short_next h.few event endures.1⟩
  rcases h.readable.orderly.next_cases .whole event endures.1.fits legible.careful
      event.allowed_whole with ⟨limits, -, eq⟩ | moves
  · rw [eq]
    exact h.readable.restarted limits
  · exact h.readable.moves ⟨trivial, trivial, trivial⟩ moves

/-! ### What a restart leaves -/

/-- What a restart settles and what it leaves as it was. -/
structure RestartedAs (s s' : AuthoritativeOperationController) : Prop where
  settled : ∀ (id : String) (r : SafetyOperation), s'.operations[id]? = some r →
    r.state ≠ .queued ∧ r.state ≠ .activeNotDispatched ∧ r.state ≠ .dispatched ∧
      r.state ≠ .cancelRequested
  lost : ∀ (id : String) (r : SafetyOperation), s.operations[id]? = some r →
    r.executionLane = .normal → r.state = .dispatched ∨ r.state = .cancelRequested →
      (∃ r', s'.operations[id]? = some r' ∧ r'.state = .indeterminate) ∧
        ∃ q, s'.quarantines[r.operation.deviceId]? = some q ∧ q.operationId = id
  abandoned : ∀ (id : String) (r : SafetyOperation), s.operations[id]? = some r →
    r.executionLane = .recoveryEvidenceRead → r.state = .dispatched ∨ r.state = .cancelRequested →
      ∃ r', s'.operations[id]? = some r' ∧ r'.state = .failed ∧
        r'.receipt.map ExecutionReceipt.evidence = some .recoveryReadInterrupted
  cancelled : ∀ (id : String) (r : SafetyOperation), s.operations[id]? = some r →
    r.state = .queued ∨ r.state = .activeNotDispatched →
      ∃ r', s'.operations[id]? = some r' ∧ r'.state = .cancelled ∧ r'.receipt.isSome = true
  kept : ∀ (id : String) (r : SafetyOperation), s.operations[id]? = some r →
    r.state.isUnsettled = false → s'.operations[id]? = some r
  known : ∀ id : String, s.operations[id]? = none → s'.operations[id]? = none
  quarantines : ∀ (d : String) (q : DesktopQuarantine), s.quarantines[d]? = some q →
    s'.quarantines[d]? = some q
  tombstones : s'.admission.retiredIndeterminate = s.admission.retiredIndeterminate
  retirements : s'.retirements = s.retirements
  barriers : s'.mutationResumeBarriers = s.mutationResumeBarriers
  resumes : s'.mutationResumes.Perm s.mutationResumes
  resolutions : s'.resolutions = s.resolutions
  autoResolutions : s'.autoResolutions = s.autoResolutions
  archive : s'.recoveryArchive = s.recoveryArchive

theorem Orderly.restartedAs (h : s.Orderly) (limits : AdmissionLimits) :
    s.RestartedAs (s.restarted limits) := by
  have after : ∀ {id : String} {r : SafetyOperation}, s.operations[id]? = some r →
      (s.restarted limits).operations[id]? = some r.afterRestart := by
    intro id r found
    rw [get_restarted, found, Option.map_some]
  have inFlight : ∀ {r : SafetyOperation}, r.state = .dispatched ∨ r.state = .cancelRequested →
      r.state.isInFlight = true := by
    intro r sent
    rcases sent with state | state <;> rw [state] <;> rfl
  constructor
  case settled =>
    intro id r found
    have done := done_restarted s limits id r found
    cases state : r.state <;> rw [state] at done <;> cases done <;> decide
  case lost =>
    intro id r found lane sent
    have lost := isLostByRestart_iff.mpr ⟨inFlight sent, lane⟩
    refine ⟨⟨_, after found, ?_⟩, _, h.coherent.quarantined_of_lost found lost, ?_⟩
    · rw [(h.sound id r found).afterRestart_of_lost lost]
    · exact h.coherent.keyed id r found
  case abandoned =>
    intro id r found lane sent
    refine ⟨_, after found, ?_⟩
    rw [afterRestart_of_read (inFlight sent) lane]
    exact ⟨rfl, rfl⟩
  case cancelled =>
    intro id r found unsent
    refine ⟨_, after found, ?_⟩
    rw [afterRestart_of_unsent unsent]
    exact ⟨rfl, rfl⟩
  case kept =>
    intro id r found done
    rw [after found, (h.sound id r found).afterRestart_eq done]
  case known =>
    intro id gone
    rw [get_restarted, gone, Option.map_none]
  case quarantines =>
    intro d q held
    rw [← held]
    exact quarantined_of_not_lost (h.coherent.not_lost_of_quarantined held)
  case resumes => exact sortResumes_perm _
  all_goals rfl

/-- The ledger's snapshot is read back, as the ledger the restart should leave. -/
def Survives (s : AuthoritativeOperationController) (limits : AdmissionLimits) : Prop :=
  ∃ snapshot s', s.snapshotForRestart = some snapshot ∧
    restoreAfterRestart limits snapshot = .ok s' ∧ s.RestartedAs s'

/-- Every ledger reached by calls of the Hub that endure survives a restart. -/
theorem survives_of_endures {limits limits' : AdmissionLimits}
    {initial : AuthoritativeOperationController} (created : new limits = .ok initial)
    {events : List LedgerEvent} (hub : Machine.Meets next HubCall initial events)
    (endures : Machine.Meets next Endures initial events)
    (valid : limits'.validate = .ok limits') :
    (run next initial events).Survives limits' := by
  have both : Machine.Meets next (fun s event => s.HubCall event ∧ s.Endures event) initial events :=
    hub.and endures
  have restorable : (run next initial events).Restorable := by
    have start : (empty limits).Restorable := ⟨readable_empty limits, Nat.zero_le _⟩
    have step : ∀ (s : AuthoritativeOperationController) (event : LedgerEvent), s.Restorable →
        s.HubCall event ∧ s.Endures event → (s.next event).Restorable :=
      fun s event h both => h.next event both.1 both.2
    rw [new_eq_ok created] at both ⊢
    exact run_invariant step start both
  obtain ⟨snapshot, taken, restored⟩ := restorable.readable.restore restorable.few valid
  exact ⟨snapshot, _, taken, restored, restorable.readable.orderly.restartedAs limits'⟩

/-- A click is in flight. -/
def clickInFlight : List LedgerEvent :=
  [.prepareWithMetadata ⟨"desk", 1, "x"⟩ alice .pointerClick .empty 1,
    .markDispatchedWithBinding "x" alice 1 (some ⟨1, "grant"⟩) 1]

/-- What the Hub sends under an id has the capability it was admitted with. -/
theorem sends_of_all {command : DeviceCommand}
    (same : s.operations[id]?.all (fun r => command.capability = r.capability) = true)
    (r : SafetyOperation) (found : s.operations[id]? = some r) :
    command.capability = r.capability := by
  simpa [found] using same

/-- A ledger with a click in flight survives a restart. -/
theorem clickInFlight_survives :
    (run next (empty ⟨1, 1⟩) clickInFlight).Survives ⟨1, 1⟩ := by
  have hub : Machine.Meets next HubCall (empty ⟨1, 1⟩) clickInFlight :=
    ⟨⟨rfl, trivial⟩, ⟨rfl, rfl, fun r found => ⟨.pointerClick, sends_of_all (by decide) r found,
      by decide⟩⟩, trivial⟩
  have endures : Machine.Meets next Endures (empty ⟨1, 1⟩) clickInFlight :=
    ⟨⟨roomy_of_few _ _ (by decide), fun _ _ _ asks => (by cases asks),
        fun readmits => readmits.1 (by decide), fun _ _ mem => absurd mem List.not_mem_nil⟩,
      ⟨roomy_of_few _ _ (by decide), fun _ _ _ asks => (by cases asks),
        fun r _ _ _ => Table.get_of_size_zero (by decide) _⟩, trivial⟩
  exact survives_of_endures (show new ⟨1, 1⟩ = _ from rfl) hub endures rfl

/-- A click of `desk` is lost and accepted as it is, and a screenshot of `desk` is sent. -/
def shotBehindBarrier : List LedgerEvent :=
  [.prepareWithMetadata ⟨"desk", 1, "x"⟩ alice .pointerClick .empty 1,
    .markDispatchedWithBinding "x" alice 1 (some ⟨1, "grant"⟩) 1, lost "x",
    .acceptCurrentState .given "x" .acknowledgedUnknownPointerClickV1 "seen" 2 1,
    .prepareWithMetadata ⟨"desk", 2, "y"⟩ alice .screenshot .empty 1,
    .markDispatchedWithBinding "y" alice 2 none 1]

/-- The restart would quarantine `desk` beside its barrier, and its snapshot is refused. -/
theorem shotBehindBarrier_refused : ∃ initial, new ⟨1, 1⟩ = .ok initial ∧
    Machine.Meets next HubCall initial shotBehindBarrier ∧
      ¬(run next initial shotBehindBarrier).Survives ⟨1, 1⟩ := by
  refine ⟨empty ⟨1, 1⟩, rfl, ⟨⟨rfl, trivial⟩, ⟨rfl, rfl, fun r found => ⟨.pointerClick, ?_, by decide⟩⟩,
    ⟨rfl, trivial⟩, ⟨rfl, trivial⟩, ⟨rfl, trivial⟩, ⟨rfl, rfl, fun r found => ⟨.screenshot, ?_, by decide⟩⟩,
    trivial⟩, ?_⟩
  · exact sends_of_all (by decide) r found
  · exact sends_of_all (by decide +kernel) r found
  · rintro ⟨snapshot, s', taken, restored, -⟩
    have refused : ((run next (empty ⟨1, 1⟩) shotBehindBarrier).snapshotForRestart.any
        fun snapshot => (restoreAfterRestart ⟨1, 1⟩ snapshot).isOk) = false := by decide +kernel
    rw [taken, Option.any_some, restored] at refused
    cases refused

end AuthoritativeOperationController

end Gateway.Execution
