import Gateway.Execution.Inspection
import Gateway.Execution.Lag
import Gateway.Execution.Quarantine

/-! Calls that fail.

Most calls check before they change anything. Four change the admission ledger
first: admitting work may leave an empty queue behind, marking work ambiguous and
pruning cannot fail that late in a coherent ledger, and a retirement can, exactly
when more barriers are up than the history may hold. -/
namespace Gateway.Execution
open Data Device Machine MutationResumeBarrier Table LedgerEvent

/-- A refused admission changes the queues at most. -/
theorem HubAdmissionController.queues_of_refused (c : HubAdmissionController) {operation : OperationRef}
    {e : ExecutionError} {c' : HubAdmissionController} (refused : c.admitOperation operation = (.error e, c')) :
    ∃ queues, c' = {c with queuedByDevice := queues} := by
  unfold admitOperation at refused
  repeat' split at refused
  all_goals first | cases refused; exact ⟨_, rfl⟩ | cases refused

namespace AuthoritativeOperationController
variable {s s' : AuthoritativeOperationController} {id : String} {records : Table SafetyOperation}

/-! ### Rotation -/

/-- Every barrier keeps the retirement that raised it in the history. -/
theorem Accounted.barriers_le (h : s.Accounted) :
    s.mutationResumeBarriers.size ≤ s.retirements.length := by
  have once : (s.mutationResumeBarriers.values.map sourceOperationId).Nodup :=
    nodup_values_map fun up up' same => h.barrier_unique up up' same
  have listed : ∀ a ∈ s.mutationResumeBarriers.values.map sourceOperationId,
      a ∈ s.retirements.map fun retirement => retirement.operation.operationId := by
    intro a mem
    obtain ⟨barrier, up, rfl⟩ := List.mem_map.mp mem
    obtain ⟨d, up⟩ := mem_values.mp up
    obtain ⟨-, retirement, listed, raised⟩ := h.raised d barrier up
    exact List.mem_map.mpr ⟨retirement, listed, (raised_iff.mp raised).1⟩
  have le := (List.subperm_of_subset once listed).length_le
  rwa [List.length_map, List.length_map, length_values] at le

/-- With more barriers than the history may hold, the rotation fails. -/
theorem Coherent.rotate_error (h : s.Coherent) (accounted : s.Accounted) (rounds : Nat)
    (enough : s.retirements.length ≤ rounds)
    (crowds : maxRetirementRecords < s.mutationResumeBarriers.size) :
    ∃ e, (rotateRetirementHistory rounds s).1 = .error e := by
  induction rounds generalizing s with
  | zero =>
    have held := accounted.barriers_le
    omega
  | succ rounds ih =>
    rw [rotateRetirementHistory, if_neg (by have held := accounted.barriers_le; omega)]
    rcases h.rotateOldest_cases .none accounted with ⟨failed, -⟩ | ⟨retired, listed, -, rotated, moved⟩
    · rw [failed]
      exact ⟨_, rfl⟩
    · rw [rotated]
      refine ih (h.move moved) (accounted.move h moved) ?_ crowds
      have one := List.length_erase_of_mem listed
      rw [AuthoritativeOperationController.rotated]
      simp only [one]
      omega

/-! ### Retirements -/

variable {retirement : RetirementRecord} {transition : RetirementTransition} {e : ExecutionError}

theorem releasable_caughtUp :
    (s.caughtUp records).Releasable retirement ↔ s.Releasable retirement :=
  ⟨fun h => ⟨h.room, h.unbarred⟩, fun h => ⟨h.room, h.unbarred⟩⟩

/-- The barriers up once a retirement is let through. -/
theorem size_released (releasable : s.Releasable retirement) (nowMs : Nat) :
    (s.released id retirement nowMs).mutationResumeBarriers.size = s.mutationResumeBarriers.size +
      if retirement.policy = .acknowledgedUnknownPointerClickV1 then 1 else 0 := by
  by_cases click : retirement.policy = .acknowledgedUnknownPointerClickV1
  · have free := not_mem_iff_get.mpr (releasable.unbarred click)
    simp only [released, if_pos click, Std.ExtTreeMap.size_insert]
    exact if_neg fun mem => free (Std.ExtTreeMap.contains_iff_mem.mp mem)
  · simp only [released, if_neg click, Nat.add_zero]

/-- With room, a failed retirement changes nothing. -/
theorem retire_failed (h : (s.caughtUp records).Orderly) (lags : Lags s.operations records)
    {order : IterationOrder} (roomy : ¬s.Overflows id transition)
    (failed : (s.retireIndeterminateWithDisposition order id transition).1 = .error e) :
    (s.retireIndeterminateWithDisposition order id transition).2 = s := by
  by_cases accepted : ∃ retirement, (s.caughtUp records).retirementFor id transition = .ok retirement ∧
      (s.caughtUp records).Releasable retirement
  · obtain ⟨retirement, ok, releasable⟩ := accepted
    obtain ⟨next, records', -, answer, -⟩ := retire_releasable h lags order ok releasable
    have few : ((s.caughtUp records).released id retirement transition.nowMs).mutationResumeBarriers.size ≤
        maxRetirementRecords := by
      rw [size_released releasable]
      exact Nat.not_lt.mp fun crowds => roomy
        ⟨retirement, (retirementFor_caughtUp lags).mp ok, releasable_caughtUp.mp releasable, crowds⟩
    have rotates := (h.coherent.rotate_handedOn h.accounted ok releasable order few).1
    rw [failed, show s.retirements = (s.caughtUp records).retirements from rfl, rotates] at answer
    cases answer
  · obtain ⟨e', unchanged⟩ := retire_unreleasable h.coherent lags order transition
      fun retirement ok releasable => accepted ⟨retirement, ok, releasable⟩
    rw [unchanged]

/-- Without room, a retirement fails and lifts its quarantine all the same. -/
theorem retire_overflows (h : (s.caughtUp records).Orderly) (lags : Lags s.operations records)
    (order : IterationOrder) (crowds : s.Overflows id transition) :
    (∃ e, (s.retireIndeterminateWithDisposition order id transition).1 = .error e) ∧
      ∃ d : String, s.quarantines[d]? ≠ none ∧
        (s.retireIndeterminateWithDisposition order id transition).2.quarantines[d]? = none := by
  obtain ⟨retirement, ok, releasable, crowds⟩ := crowds
  have ok' := (retirementFor_caughtUp lags).mpr ok
  have releasable' : (s.caughtUp records).Releasable retirement := releasable_caughtUp.mpr releasable
  obtain ⟨r, checked⟩ := retirable_of_ok ok
  obtain ⟨q, held, -⟩ := checked.quarantined
  obtain ⟨next, records', -, answer, after⟩ := retire_releasable h lags order ok' releasable'
  have moves : Moves .none _ _ := h.coherent.handedOn_moves ok' releasable' order trivial False.elim
  have same : ((s.caughtUp records).handedOn order id retirement transition.nowMs).retirements =
      s.retirements ++ [retirement] ∧
      ((s.caughtUp records).handedOn order id retirement transition.nowMs).mutationResumeBarriers =
        ((s.caughtUp records).released id retirement transition.nowMs).mutationResumeBarriers ∧
      ((s.caughtUp records).handedOn order id retirement transition.nowMs).quarantines =
        s.quarantines.erase retirement.operation.deviceId := by
    unfold handedOn
    split <;> exact ⟨rfl, rfl, rfl⟩
  obtain ⟨e, fails⟩ := (h.coherent.moves moves).rotate_error (h.accounted.moves h.coherent moves)
    (s.retirements.length + 1) (by rw [same.1, List.length_append, List.length_singleton])
    (by rw [same.2.1, size_released releasable']; exact crowds)
  refine ⟨⟨e, by rw [answer, fails]; rfl⟩, r.operation.deviceId, by rw [held]; exact Option.some_ne_none q, ?_⟩
  have lifted := congrArg AuthoritativeOperationController.quarantines after
  rw [rotateRetirementHistory_quarantines, same.2.2, checked.operation] at lifted
  rw [show (s.retireIndeterminateWithDisposition order id transition).2.quarantines = _ from lifted,
    get_erase, if_pos rfl]

/-! ### The other calls -/

/-- A call whose own failure changes nothing. -/
theorem attempt_failed {α : Type} {answer : α → LedgerResponse}
    {outcome : Except ExecutionError (α × AuthoritativeOperationController)}
    (failed : (s.attempt answer outcome).1 = .error e) : (s.attempt answer outcome).2 = s := by
  cases outcome with
  | error _ => rfl
  | ok pair => cases failed

theorem answered_error {α : Type} {answer : α → LedgerResponse}
    {outcome : Except ExecutionError α × AuthoritativeOperationController}
    (failed : (answered answer outcome).1 = .error e) : outcome.1 = .error e := by
  obtain ⟨result, t⟩ := outcome
  cases result with
  | error e' => exact congrArg Except.error (Except.error.inj failed)
  | ok a => cases failed

/-- Admission that fails leaves at most an empty queue behind. -/
theorem prepare_failed {operation : OperationRef} {owner : OperationOwner}
    {capability : DeviceCapability} {metadata : OperationAdmissionMetadata} {nowMs : Nat}
    (failed : (s.prepareWithMetadata operation owner capability metadata nowMs).1 = .error e) :
    s.ShowsSame (s.prepareWithMetadata operation owner capability metadata nowMs).2 := by
  revert failed
  unfold prepareWithMetadata
  split
  · exact fun _ => .refl s
  · split
    · exact fun _ => .refl s
    · split
      · exact fun _ => .refl s
      · split
        · split
          · exact fun _ => .refl s
          · split
            · exact fun _ => .refl s
            · exact fun failed => by cases failed
        · split
          · next e' admission refused =>
            obtain ⟨queues, rfl⟩ := s.admission.queues_of_refused refused
            exact fun _ => showsSame_queues s queues
          · exact fun failed => by cases failed

/-- Work that cannot be marked changes nothing. -/
theorem mark_failed (h : (s.caughtUp records).Coherent) (lags : Lags s.operations records)
    {order : IterationOrder} {reason : IndeterminateReason} {nowMs : Nat}
    (failed : (s.markIndeterminateInternal order id reason nowMs).1 = .error e) :
    (s.markIndeterminateInternal order id reason nowMs).2 = s := by
  by_cases accepted : ∃ target next admission, s.Markable id target next admission
  · obtain ⟨target, next, admission, markable⟩ := accepted
    have markable' : (s.caughtUp records).Markable id target next admission :=
      {markable with old := lags.get markable.old (not_queued_of_isInFlight markable.inFlight)}
    obtain ⟨s', marked, -, -⟩ := h.markIndeterminate_of_markable .none order reason nowMs markable'
    have matched : Matches (s.markIndeterminateInternal order id reason nowMs) _ :=
      matches_markIndeterminate h lags order reason nowMs
    obtain ⟨records', -, same⟩ := matched
    rw [marked] at same
    have answer := congrArg Prod.fst same
    rw [failed] at answer
    cases answer
  · obtain ⟨e', unchanged⟩ := markIndeterminate_of_unmarkable order reason nowMs
      fun target next admission markable => accepted ⟨target, next, admission, markable⟩
    rw [unchanged]

/-- Pruning that fails changes nothing. -/
theorem prune_failed (h : (s.caughtUp records).Orderly) (lags : Lags s.operations records)
    {deviceId : String} {generation : Nat}
    (failed : (s.pruneTerminalBeforeGeneration deviceId generation).1 = .error e) :
    (s.pruneTerminalBeforeGeneration deviceId generation).2 = s := by
  have operations : (s.pruneTerminalBeforeGeneration deviceId generation).2.operations = s.operations := by
    revert failed
    unfold pruneTerminalBeforeGeneration
    dsimp only
    repeat' split
    all_goals first | exact fun _ => rfl | exact fun failed => by cases failed
  obtain ⟨records', -, same⟩ := matches_prune lags deviceId generation
  rw [failed] at same
  rcases h.coherent.prune_cases h.sound deviceId generation
      (show Care.none.prunes deviceId generation from trivial) with
    ⟨e', unchanged⟩ | ⟨removed, t, pruned, -⟩
  · rw [unchanged, Prod.mk.injEq] at same
    exact eq_of_caughtUp operations same.2.symm
  · rw [pruned, Prod.mk.injEq] at same
    cases same.1

/-- What a call that asks for a retirement does. -/
theorem step_of_retirement (s : AuthoritativeOperationController) {event : LedgerEvent}
    (asks : event.retirement = some (id, transition)) :
    ∃ order, s.step event = answered (fun answer => .retired answer.1 answer.2)
      (s.retireIndeterminateWithDisposition order id transition) := by
  cases event with
  | retireIndeterminate order id' authority policy reason generation nowMs =>
    rw [retirement] at asks
    split at asks
    · next maintains =>
      cases asks
      exact ⟨order, by simp only [step, retireIndeterminate, maintains, ne_eq, not_true, if_false]⟩
    · cases asks
  | acceptCurrentState order =>
    cases asks
    exact ⟨order, rfl⟩
  | _ => cases asks

/-- A failed call other than a retirement shows nothing anywhere. -/
theorem step_failed (h : (s.caughtUp records).Orderly) (lags : Lags s.operations records)
    {event : LedgerEvent} (spares : event.retirement = none) (failed : (s.step event).1 = .error e) :
    s.ShowsSame (s.step event).2 := by
  have same : (s.step event).2 = s → s.ShowsSame (s.step event).2 := fun eq => by
    rw [eq]
    exact .refl s
  cases event with
  | prepareWithMetadata => exact prepare_failed (answered_error failed)
  | markIndeterminate order id owner generation reason nowMs =>
    refine same ?_
    have failed' := answered_error failed
    rw [step]
    simp only [markIndeterminate] at failed' ⊢
    cases checked : s.checked id owner generation with
    | error e' => rfl
    | ok r =>
      rw [checked] at failed'
      exact mark_failed h.coherent lags failed'
  | markConnectionLost order id nowMs =>
    refine same ?_
    have failed' := answered_error failed
    rw [step]
    simp only [markConnectionLost] at failed' ⊢
    split at failed'
    · next read =>
      rw [if_pos read]
      cases interrupted : s.markRecoveryReadInterrupted order id nowMs with
      | error e' => rfl
      | ok pair =>
        rw [interrupted] at failed'
        cases failed'
    · next read =>
      rw [if_neg read]
      exact mark_failed h.coherent lags failed'
  | pruneTerminalBeforeGeneration => exact same (prune_failed h lags (answered_error failed))
  | retireIndeterminate order id authority policy reason generation nowMs =>
    refine same ?_
    by_cases maintains : authority = .localMaintenanceOperator
    · rw [retirement, if_pos maintains] at spares
      cases spares
    · simp only [step, answered, retireIndeterminate, if_pos maintains]
  | acceptCurrentState => cases spares
  | restart limits =>
    refine same ?_
    simp only [step, restart] at failed ⊢
    split at failed
    · rfl
    · split at failed
      · rfl
      · cases failed
  | _ => exact same (attempt_failed failed)

/-- In a reachable ledger a failed call shows nothing anywhere, exactly if it is no retirement that
overflows the history. -/
theorem failed_showsSame_iff (reachable : s.Reachable) (event : LedgerEvent) :
    (∀ e, (s.step event).1 = .error e → s.ShowsSame (s.step event).2) ↔ s.Roomy event := by
  obtain ⟨records, lags, orderly, -⟩ :=
    reachable.sustains (P := fun _ => True) (fun _ => trivial) (fun _ _ _ => trivial) fun _ _ _ => trivial
  cases asks : event.retirement with
  | none =>
    refine ⟨fun _ id transition some => ?_, fun _ e failed => step_failed orderly lags asks failed⟩
    rw [asks] at some
    cases some
  | some asked =>
    obtain ⟨id, transition⟩ := asked
    obtain ⟨order, calls⟩ := step_of_retirement s asks
    constructor
    · intro unchanged id' transition' some crowds
      rw [asks] at some
      cases some
      obtain ⟨⟨e, failed⟩, d, held, lifted⟩ := retire_overflows orderly lags order crowds
      rw [calls, answered, failed] at unchanged
      have shown := (unchanged e rfl).quarantine d
      exact held (shown.symm.trans lifted)
    · intro roomy e failed
      rw [calls] at failed ⊢
      rw [answered, retire_failed orderly lags (roomy id transition asks) (answered_error failed)]
      exact .refl s

/-- One scroll of `desk` is under way and one waits. -/
def busy : List LedgerEvent :=
  sent "desk" "x" .scroll ++ [.prepareWithMetadata ⟨"desk", 1, "y"⟩ alice .scroll .empty 1]

/-- A third one is refused, and nothing shows it. -/
theorem failed_showsSame_busy : ∃ e,
    ((run next (empty ⟨1, 1⟩) busy).step
      (.prepareWithMetadata ⟨"desk", 1, "z"⟩ alice .scroll .empty 1)).1 = .error e ∧
    (run next (empty ⟨1, 1⟩) busy).ShowsSame ((run next (empty ⟨1, 1⟩) busy).step
      (.prepareWithMetadata ⟨"desk", 1, "z"⟩ alice .scroll .empty 1)).2 := by
  have reachable : (run next (empty ⟨1, 1⟩) busy).Reachable :=
    ⟨⟨1, 1⟩, empty ⟨1, 1⟩, busy, rfl, rfl⟩
  have refused : ((run next (empty ⟨1, 1⟩) busy).step
      (.prepareWithMetadata ⟨"desk", 1, "z"⟩ alice .scroll .empty 1)).1 =
        .error .backpressureRejected := by
    decide +kernel
  exact ⟨_, refused, (failed_showsSame_iff reachable _).mpr
    (roomy_of_few _ _ (by decide +kernel)) _ refused⟩

set_option maxRecDepth 100000 in
/-- The sixty-fifth accepted click fails, and its quarantine is gone. -/
theorem crowded_shows_failure : ∃ initial e, new ⟨1, 1⟩ = .ok initial ∧
    ((run next initial crowded).step acceptedLast).1 = .error e ∧
    ¬(run next initial crowded).ShowsSame
      ((run next initial crowded).step acceptedLast).2 := by
  have lifted :
      ((run next (empty ⟨1, 1⟩) crowded).step acceptedLast).1 = .error .invalidTransition ∧
      ((run next (empty ⟨1, 1⟩) crowded).step acceptedLast).2.quarantine "desk" ≠
        (run next (empty ⟨1, 1⟩) crowded).quarantine "desk" := by
    decide +kernel
  exact ⟨empty ⟨1, 1⟩, _, rfl, lifted.1, fun same => lifted.2 (same.quarantine "desk")⟩

end AuthoritativeOperationController

end Gateway.Execution
