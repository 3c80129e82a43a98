import Gateway.Execution.Rewriting
import Gateway.Execution.Lag
import Gateway.Execution.Survival

/-! The barrier an accepted pointer click leaves behind.

From the acceptance until a person at the device resumes it, nothing that could
change the device is admitted or under way there. A barrier goes up where the
device is quarantined, so only recovery reads are under way, and comes down only
by a resume; each accepted click is answered by its barrier or by its resume. -/
namespace Gateway.Execution
open Data Device Machine HubOperationState

namespace AuthoritativeOperationController
variable {care : Care} {s s' : AuthoritativeOperationController} {id : String}
  {r r' : SafetyOperation}

/-! ### The fence -/

/-- Behind a barrier only what observes is under way. -/
def Fenced (s : AuthoritativeOperationController) : Prop :=
  ∀ (id : String) (r : SafetyOperation), s.operations[id]? = some r → r.state.isUnsettled = true →
    r.capability.capabilityClass = .observe ∨
      s.mutationResumeBarriers[r.operation.deviceId]? = none

/-- A record under way was under way before, with the same capability on the same device. -/
theorem Rewritten.unsettled (how : Rewritten care id r r') (pending : r'.state.isUnsettled = true) :
    r.state.isUnsettled = true ∧ r'.capability = r.capability ∧ r'.operation = r.operation := by
  have unsettled : ∀ {state : HubOperationState}, state.phase = .settled → state.isUnsettled ≠ true :=
    fun settled => by
      rw [not_unsettled_of_phase settled (by decide) (by decide)]
      decide
  cases how with
  | promote waited => exact ⟨by rw [waited]; rfl, rfl, rfl⟩
  | dispatch _ _ ready => exact ⟨by rw [ready]; rfl, rfl, rfl⟩
  | requestCancel sent => exact ⟨SafetyOperation.isUnsettled_of_isInFlight sent, rfl, rfl⟩
  | restatus => exact ⟨pending, rfl, rfl⟩
  | attach => exact ⟨pending, rfl, rfl⟩
  | cancel => cases pending
  | neverEnqueued => cases pending
  | interruptRead => cases pending
  | lose => cases pending
  | finalize _ _ _ _ pair => exact absurd pending (unsettled (phase_of_pair pair))
  | reconcile _ _ _ valid =>
    simp only [AgentTerminalEvidence.isValid, Bool.and_eq_true] at valid
    exact absurd pending (unsettled (phase_of_pair valid.2))
  | resolve decision => cases decision <;> cases pending

/-- A record under way was so before on the same device, or was admitted past the barrier. -/
theorem Fate.unsettled (fate : Fate care s s' id) (found : s'.operations[id]? = some r')
    (pending : r'.state.isUnsettled = true) :
    (∃ r, s.operations[id]? = some r ∧ r.state.isUnsettled = true ∧ r'.capability = r.capability ∧
      r'.operation = r.operation) ∨ r'.capability.capabilityClass = .observe ∨
        s.mutationResumeBarriers[r'.operation.deviceId]? = none := by
  cases fate with
  | kept same => exact .inl ⟨r', same ▸ found, pending, rfl, rfl⟩
  | admitted _ _ _ _ _ _ _ _ admissible _ here =>
    rw [found, Option.some.injEq] at here
    rw [here]
    exact .inr admissible.unbarred
  | rewritten r x old here how =>
    rw [found, Option.some.injEq] at here
    subst here
    exact .inl ⟨r, old, how.unsettled pending⟩
  | forgotten _ _ gone _ =>
    rw [found] at gone
    cases gone

/-- On a quarantined device only recovery reads are under way, and they observe. -/
theorem Coherent.observes_of_quarantined (h : s.Coherent) (found : s.operations[id]? = some r)
    (pending : r.state.isUnsettled = true) (held : s.quarantines[r.operation.deviceId]? ≠ none) :
    r.capability.capabilityClass = .observe := by
  cases lane : r.executionLane with
  | normal => exact absurd (h.fenced id r found lane pending) held
  | recoveryEvidenceRead =>
    exact DeviceCapability.observes_of_isRecoveryEvidenceReadOnly (h.reading id r found lane).1

/-- What stands around the barriers of a ledger. -/
structure Guarded (s : AuthoritativeOperationController) : Prop where
  fenced : s.Fenced
  resumed : s.Resumed
  vetted : ∀ retirement ∈ s.retirements, retirement.isValid = true

theorem guarded_empty (limits : AdmissionLimits) : (empty limits).Guarded where
  fenced := by
    intro id r found
    simp [empty] at found
  resumed := resumed_empty limits
  vetted := by
    intro retirement mem
    simp [empty] at mem

theorem Fenced.move (h : s.Fenced) (orderly : s.Orderly) (m : Move care s s') : s'.Fenced := by
  intro id r' found pending
  rcases m.barrier_fate r'.operation.deviceId with same | ⟨-, held, operations⟩ | ⟨-, lifted⟩
  · rw [same]
    rcases (m.fate orderly.accounted id).unsettled found pending with
      ⟨r, old, before, capability, operation⟩ | admitted
    · rw [capability, operation]
      exact h id r old before
    · exact admitted
  · rw [operations] at found
    exact .inl (orderly.coherent.observes_of_quarantined found pending held)
  · exact .inr lifted

theorem Guarded.move (h : s.Guarded) (orderly : s.Orderly) (m : Move care s s') : s'.Guarded where
  fenced := h.fenced.move orderly m
  resumed := h.resumed.move orderly m
  vetted retirement mem := (m.retirement_fate mem).elim (h.vetted retirement) fun valid => valid

theorem Guarded.restarted (h : s.Guarded) (limits : AdmissionLimits) : (s.restarted limits).Guarded where
  fenced := by
    intro id r found pending
    rw [done_restarted s limits id r found] at pending
    cases pending
  resumed := h.resumed.restarted limits
  vetted := h.vetted

theorem Reachable.guarded (h : s.Reachable) : s.Sustains Guarded :=
  h.sustains guarded_empty (fun orderly guarded m => guarded.move orderly m)
    fun limits _ guarded => guarded.restarted limits

theorem Reachable.next (h : s.Reachable) (event : LedgerEvent) : (s.next event).Reachable := by
  obtain ⟨limits, initial, events, created, rfl⟩ := h
  refine ⟨limits, initial, events ++ [event], created, ?_⟩
  rw [run_append]
  rfl

/-! ### Raising and lifting -/

/-- The call resumes the device. -/
def Resumes (s : AuthoritativeOperationController) (deviceId : String) (event : LedgerEvent) : Prop :=
  ∃ sourceOperationId authority authorizedDeviceGeneration reason nowMs answer,
    event = .resumeMutations deviceId sourceOperationId authority authorizedDeviceGeneration reason
      nowMs ∧
    s.resumeMutations deviceId sourceOperationId authority authorizedDeviceGeneration reason nowMs =
      .ok answer

/-- Nothing that could change the device is under way there or can be admitted. -/
structure MutationsFenced (s : AuthoritativeOperationController) (deviceId : String) : Prop where
  idle : ∀ (id : String) (r : SafetyOperation), s.operations[id]? = some r →
    r.operation.deviceId = deviceId → r.capability.capabilityClass ≠ .observe →
      r.state ≠ .queued ∧ r.state ≠ .activeNotDispatched ∧ r.state ≠ .dispatched ∧
        r.state ≠ .cancelRequested
  refused : ∀ (operation : OperationRef) (owner : OperationOwner) (capability : DeviceCapability)
    (metadata : OperationAdmissionMetadata) (nowMs : Nat), operation.deviceId = deviceId →
      capability.capabilityClass ≠ .observe →
        ∃ e, s.prepareWithMetadata operation owner capability metadata nowMs = (.error e, s)

variable {deviceId : String} {retirement : RetirementRecord}

theorem Sustains.mutationsFenced (h : s.Sustains Guarded)
    (up : s.mutationResumeBarriers[deviceId]? ≠ none) : s.MutationsFenced deviceId := by
  obtain ⟨records, lags, orderly, guarded⟩ := h
  constructor
  · intro id r found device acts
    have settled : r.state.isUnsettled ≠ true := by
      intro pending
      -- A record that lags is under way on the same device, promoted.
      have here : ∃ x, records[id]? = some x ∧ x.state.isUnsettled = true ∧
          x.capability = r.capability ∧ x.operation = r.operation := by
        rcases lags.get_cases found with same | ⟨-, promoted⟩
        · exact ⟨r, same, pending, rfl, rfl⟩
        · exact ⟨r.promote, promoted, rfl, rfl, rfl⟩
      obtain ⟨x, found, pending, capability, operation⟩ := here
      rcases guarded.fenced id x found pending with observes | free
      · exact acts (capability ▸ observes)
      · rw [operation, device] at free
        exact up free
    cases state : r.state <;> simp_all [isUnsettled]
  · intro operation owner capability metadata nowMs device acts
    have barrier : s.blockingBarrier operation.deviceId capability ≠ none := by
      rw [blockingBarrier, if_neg acts, device]
      exact up
    unfold prepareWithMetadata
    split
    · exact ⟨_, rfl⟩
    · split
      · exact ⟨_, rfl⟩
      · split
        · exact ⟨_, rfl⟩
        · next free => exact absurd free barrier

/-- Only a resume of the device lifts its barrier. -/
theorem Sustains.barrier_kept {P : AuthoritativeOperationController → Prop} (h : s.Sustains P)
    {event : LedgerEvent} (unresumed : ¬s.Resumes deviceId event)
    (up : s.mutationResumeBarriers[deviceId]? ≠ none) :
    (s.next event).mutationResumeBarriers[deviceId]? ≠ none := by
  by_cases asks : ∃ sourceId authority generation reason nowMs,
      event = .resumeMutations deviceId sourceId authority generation reason nowMs
  · obtain ⟨sourceId, authority, generation, reason, nowMs, rfl⟩ := asks
    simp only [AuthoritativeOperationController.next, step]
    cases outcome : s.resumeMutations deviceId sourceId authority generation reason nowMs with
    | error e => exact up
    | ok answer =>
      exact absurd ⟨sourceId, authority, generation, reason, nowMs, answer, rfl, outcome⟩ unresumed
  · obtain ⟨records, lags, orderly, -⟩ := h
    have allowed : event.Allowed {Care.none with resumes := fun d => d ≠ deviceId} :=
      {event.allowed_none with
        resumes := fun d sourceId authority generation reason nowMs eq same =>
          asks ⟨sourceId, authority, generation, reason, nowMs, same ▸ eq⟩}
    obtain ⟨records', -, cases⟩ := orderly.next_lags lags _ event
      ⟨False.elim, False.elim, False.elim⟩ allowed
    have kept : ((s.next event).caughtUp records').mutationResumeBarriers[deviceId]? ≠ none := by
      rcases cases with ⟨limits, eq⟩ | moves
      · rw [eq]
        exact up
      · refine orderly.moves_keep (P := fun t => t.mutationResumeBarriers[deviceId]? ≠ none) up
          (fun _ up m => ?_) moves
        rcases m.barrier_fate deviceId with same | ⟨free, -⟩ | ⟨resumed, -⟩
        · rwa [same]
        · exact absurd free up
        · exact absurd rfl resumed
    exact kept

theorem rotateOldest_barriers (s : AuthoritativeOperationController) :
    s.rotateOldest.2.mutationResumeBarriers = s.mutationResumeBarriers := by
  unfold rotateOldest
  dsimp only
  repeat' split
  all_goals rfl

/-- An accepted pointer click raises the barrier of its device. -/
theorem accept_raises {order : IterationOrder} {reason : String} {generation nowMs : Nat}
    {answer : CompletionDecision × RetirementRecord}
    (accepted : s.acceptCurrentState order id .acknowledgedUnknownPointerClickV1 reason generation
      nowMs = (.ok answer, s')) (found : s.operations[id]? = some r) :
    s'.mutationResumeBarriers[r.operation.deviceId]? ≠ none := by
  unfold acceptCurrentState retireIndeterminateWithDisposition at accepted
  split at accepted
  · cases accepted
  · next retirement checked =>
    obtain ⟨x, retirable⟩ := retirable_of_ok checked
    obtain rfl : x = r := Option.some.inj (retirable.old.symm.trans found)
    have click : retirement.disposition = .currentStateAccepted ∧
        retirement.policy = .acknowledgedUnknownPointerClickV1 :=
      ⟨retirable.disposition, retirable.policy⟩
    have raised : ∀ {next t}, s.releaseRetired order id retirement nowMs = (.ok next, t) →
        t.mutationResumeBarriers[x.operation.deviceId]? ≠ none := by
      intro next t released
      unfold releaseRetired at released
      rw [if_pos click] at released
      split at released
      · cases released
      split at released
      · cases released
      split at released
      · cases released
      · cases released
        rw [retirable.operation, Table.get_insert_self]
        exact Option.some_ne_none _
    split at accepted
    · cases accepted
    · next next t released =>
      dsimp only at accepted
      have kept := rotateRetirementHistory_keeps rotateOldest_barriers
        (t.retirements ++ [retirement]).length {t with
          quarantines := t.quarantines.erase retirement.operation.deviceId
          retirements := t.retirements ++ [retirement]}
      split at accepted
      · cases accepted
      · next u rotated =>
        cases accepted
        rw [rotated] at kept
        dsimp only at kept ⊢
        rw [kept]
        exact raised released

/-- A resume answers the barrier of its own source, by a person at the device, anew. -/
theorem resumes_only {sourceOperationId reason : String} {authority : RetirementAuthority}
    {generation nowMs : Nat} {answer : MutationResumeRecord × AuthoritativeOperationController}
    (ok : s.resumeMutations deviceId sourceOperationId authority generation reason nowMs = .ok answer) :
    ∃ barrier, s.mutationResumeBarriers[deviceId]? = some barrier ∧
      barrier.sourceOperationId = sourceOperationId ∧ authority = .localUserPresence ∧
        barrier.acceptedGeneration < generation := by
  obtain ⟨authorized, ok⟩ := Result.guard_eq_ok.mp ok
  split at ok
  · cases ok
  · next barrier up =>
    simp only [Result.guard_eq_ok] at ok
    obtain ⟨source, -, -⟩ := ok
    rw [not_or, not_not] at authorized source
    exact ⟨barrier, up, source.1, authorized.1, Nat.lt_of_not_le source.2⟩

/-- A barrier of the retired operation is up. -/
def BarrierUp (s : AuthoritativeOperationController) (retirement : RetirementRecord) : Prop :=
  ∃ (d : String) (barrier : MutationResumeBarrier), s.mutationResumeBarriers[d]? = some barrier ∧
    barrier.sourceOperationId = retirement.operation.operationId

/-- A resume of the retired operation is recorded. -/
def ResumeRecorded (s : AuthoritativeOperationController) (retirement : RetirementRecord) : Prop :=
  ∃ resume ∈ s.mutationResumes, resume.sourceOperationId = retirement.operation.operationId

/-- A pointer click is retired under one policy. -/
theorem policy_of_click (valid : retirement.isValid = true)
    (click : retirement.capability = .pointerClick) :
    retirement.policy = .acknowledgedUnknownPointerClickV1 := by
  simp only [RetirementRecord.isValid, Bool.and_eq_true, decide_eq_true_eq] at valid
  obtain ⟨⟨⟨⟨⟨-, eligible⟩, -⟩, -⟩, -⟩, -⟩ := valid
  rw [click] at eligible
  cases disposition : retirement.disposition with
  | retired => rw [disposition] at eligible; cases eligible
  | currentStateAccepted => rw [disposition] at eligible; exact (Option.some.inj eligible).symm

/-- A retired pointer click is answered by its barrier or by its resume, and not by both. -/
theorem Sustains.answered_once (h : s.Sustains Guarded) (mem : retirement ∈ s.retirements)
    (click : retirement.capability = .pointerClick) :
    Xor (s.BarrierUp retirement) (s.ResumeRecorded retirement) := by
  obtain ⟨records, -, orderly, guarded⟩ := h
  have never : ¬(s.BarrierUp retirement ∧ s.ResumeRecorded retirement) := by
    intro both
    obtain ⟨⟨d, barrier, up, source⟩, resume, listed, same⟩ := both
    exact guarded.resumed.lifted resume listed d barrier up (source.trans same.symm)
  have policy := policy_of_click (guarded.vetted retirement mem) click
  rcases orderly.accounted.answered retirement mem policy with held | answered
  · have up : s.BarrierUp retirement := holdsBarrier_iff.mp held
    exact .inl ⟨up, fun resumed => never ⟨up, resumed⟩⟩
  · obtain ⟨resume, listed, answers⟩ := List.any_eq_true.mp answered
    have resumed : s.ResumeRecorded retirement := ⟨resume, listed, (isResumeOf_iff.mp answers).1⟩
    exact .inr ⟨resumed, fun up => never ⟨up, resumed⟩⟩

/-- From the acceptance of a pointer click until its device is resumed, over restarts, the device
is fenced; only the right resume lifts the barrier; and each accepted click still listed is answered
once. -/
theorem mutations_fenced_until_resumed (reachable : s.Reachable) :
    (∀ (order : IterationOrder) (id reason : String) (generation nowMs : Nat)
      (answer : CompletionDecision × RetirementRecord) (s₁ : AuthoritativeOperationController)
      (r : SafetyOperation) (events : List LedgerEvent),
      s.acceptCurrentState order id .acknowledgedUnknownPointerClickV1 reason generation nowMs =
        (.ok answer, s₁) → s.operations[id]? = some r →
      Machine.Meets next (fun t event => ¬t.Resumes r.operation.deviceId event) s₁ events →
        (run next s₁ events).MutationsFenced r.operation.deviceId) ∧
    (∀ (deviceId sourceOperationId : String) (authority : RetirementAuthority) (generation : Nat)
      (reason : String) (nowMs : Nat) (answer : MutationResumeRecord × AuthoritativeOperationController),
      s.resumeMutations deviceId sourceOperationId authority generation reason nowMs = .ok answer →
        ∃ barrier, s.mutationResumeBarriers[deviceId]? = some barrier ∧
          barrier.sourceOperationId = sourceOperationId ∧ authority = .localUserPresence ∧
            barrier.acceptedGeneration < generation) ∧
    ∀ retirement ∈ s.retirements, retirement.capability = .pointerClick →
      Xor (s.BarrierUp retirement) (s.ResumeRecorded retirement) := by
  refine ⟨?_, fun _ _ _ _ _ _ _ ok => resumes_only ok,
    fun retirement mem click => reachable.guarded.answered_once mem click⟩
  intro order id reason generation nowMs answer s₁ r events accepted found unresumed
  have next_eq : s₁ = s.next (.acceptCurrentState order id .acknowledgedUnknownPointerClickV1 reason
      generation nowMs) := by
    simp only [AuthoritativeOperationController.next, step, answered, accepted]
  have step : ∀ (t : AuthoritativeOperationController) (event : LedgerEvent),
      t.Reachable ∧ t.mutationResumeBarriers[r.operation.deviceId]? ≠ none →
      ¬t.Resumes r.operation.deviceId event → (t.next event).Reachable ∧
        (t.next event).mutationResumeBarriers[r.operation.deviceId]? ≠ none :=
    fun t event h unresumed => ⟨h.1.next event, h.1.guarded.barrier_kept unresumed h.2⟩
  have kept := run_invariant step
    ⟨next_eq ▸ reachable.next _, accept_raises accepted found⟩ unresumed
  exact kept.1.guarded.mutationsFenced kept.2

/-- A click of `desk` is sent and lost. -/
def lostClick : List LedgerEvent :=
  sent "desk" "x" .pointerClick ++ [lost "x"]

/-- A lost click is accepted, and then `desk` is fenced while a screenshot of it is prepared. -/
theorem mutations_fenced_lostClick : ∃ answer s₁,
    (run next (empty ⟨1, 1⟩) lostClick).acceptCurrentState .given "x"
      .acknowledgedUnknownPointerClickV1 "seen" 2 1 = (.ok answer, s₁) ∧
    (run next s₁ [.prepareWithMetadata ⟨"desk", 2, "y"⟩ alice .screenshot .empty 1]).MutationsFenced
      "desk" := by
  have accepts : ((run next (empty ⟨1, 1⟩) lostClick).acceptCurrentState .given "x"
      .acknowledgedUnknownPointerClickV1 "seen" 2 1).1.isOk = true ∧
      (run next (empty ⟨1, 1⟩) lostClick).operations["x"]?.any
        (fun r => r.operation.deviceId = "desk") = true := by
    decide +kernel
  obtain ⟨ok, placed⟩ := accepts
  obtain ⟨r, found, device⟩ := (Option.any_eq_true _ _).mp placed
  rw [decide_eq_true_eq] at device
  cases outcome : (run next (empty ⟨1, 1⟩) lostClick).acceptCurrentState .given "x"
      .acknowledgedUnknownPointerClickV1 "seen" 2 1 with
  | mk result s₁ =>
    rw [outcome] at ok
    cases result with
    | error e => cases ok
    | ok answer =>
      refine ⟨answer, s₁, rfl, ?_⟩
      have fenced := (mutations_fenced_until_resumed
        ⟨⟨1, 1⟩, empty ⟨1, 1⟩, lostClick, rfl, rfl⟩).1 _ _ _ _ _ _ _ r
        [.prepareWithMetadata ⟨"desk", 2, "y"⟩ alice .screenshot .empty 1] outcome found
        ⟨fun resumes => (by obtain ⟨_, _, _, _, _, _, same, -⟩ := resumes; cases same), trivial⟩
      rwa [device] at fenced

end AuthoritativeOperationController

end Gateway.Execution
