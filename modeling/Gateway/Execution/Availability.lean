import Gateway.Execution.Acceptance
import Gateway.Execution.Barrier
import Gateway.Execution.Checkpoint
import Mathlib.Data.List.Dedup

/-! When a recovery call goes through.

A Hub with fewer devices than the history of retirements has entries never overfills it
(`Tended`): each barrier is up on a device of its own, so the rotation always finds an entry
to drop. What is left of the checks of a retirement is what the operation itself says
(`Tended.retires_iff`), and a barrier can always be lifted (`Tended.resume_ok`). -/
namespace Gateway.Execution
open Data Device Table MutationResumeRecord

namespace AuthoritativeOperationController
variable {care : Care} {s s' : AuthoritativeOperationController} {id : String} {r : SafetyOperation}

/-! ### Devices -/

/-- The devices whose operations are on record. -/
def devices (s : AuthoritativeOperationController) : List String :=
  (s.operations.values.map fun r => r.operation.deviceId).dedup

/-- There are fewer devices than the history of retirements has entries. -/
def FewDevices (s : AuthoritativeOperationController) : Prop :=
  s.devices.length < maxRetirementRecords

instance (s : AuthoritativeOperationController) : Decidable s.FewDevices :=
  inferInstanceAs (Decidable (_ < _))

/-- A device has one barrier at most, and its operation is on record. -/
theorem Accounted.barriers_le_devices (h : s.Accounted) :
    s.mutationResumeBarriers.size ≤ s.devices.length := by
  have once : (s.mutationResumeBarriers.values.map MutationResumeBarrier.deviceId).Nodup :=
    nodup_values_map fun {a b x y} up up' same => by
      rw [← (h.raised a x up).1, ← (h.raised b y up').1, same]
  have known : ∀ d ∈ s.mutationResumeBarriers.values.map MutationResumeBarrier.deviceId,
      d ∈ s.devices := by
    intro d mem
    obtain ⟨barrier, up, rfl⟩ := List.mem_map.mp mem
    obtain ⟨d, up⟩ := mem_values.mp up
    obtain ⟨-, retirement, listed, raised⟩ := h.raised d barrier up
    obtain ⟨r, found, same, -⟩ := h.kept retirement listed
    rw [devices, List.mem_dedup]
    refine List.mem_map.mpr ⟨r, mem_values.mpr ⟨_, found⟩, ?_⟩
    rw [same, (raised_iff.mp raised).2.1]
  have le := (List.subperm_of_subset once known).length_le
  rwa [List.length_map, length_values] at le

/-! ### What is kept while devices are few -/

/-- Quarantines give the reason of their operation, and barriers are raised by clicks. -/
structure Explained (s : AuthoritativeOperationController) : Prop where
  reason : ∀ (d : String) (q : DesktopQuarantine), s.quarantines[d]? = some q →
    ∃ r, s.operations[q.operationId]? = some r ∧ r.indeterminateReason = some q.reason
  click : ∀ (d : String) (barrier : MutationResumeBarrier),
    s.mutationResumeBarriers[d]? = some barrier →
      barrier.policy = .acknowledgedUnknownPointerClickV1

theorem explained_empty (limits : AdmissionLimits) : (empty limits).Explained := by
  constructor <;> simp [empty]

theorem Explained.move (h : s.Explained) (orderly : s.Orderly) (m : Move care s s') :
    s'.Explained := by
  refine ⟨fun d q held => ?_, fun d barrier up => ?_⟩
  · rcases m.quarantine_fate held with old | explained
    · obtain ⟨r, found, reason⟩ := h.reason d q old
      obtain ⟨x, was, ambiguous, -⟩ := orderly.quarantined_record old
      rw [found, Option.some.injEq] at was
      subst was
      obtain ⟨r', here, still, -⟩ := (orderly.moves m.moves).quarantined_record held
      refine ⟨r', here, ?_⟩
      cases m.fate orderly.accounted q.operationId with
      | kept same =>
        rw [same, found, Option.some.injEq] at here
        rw [← here, reason]
      | admitted _ _ _ _ _ _ _ new =>
        rw [found] at new
        cases new
      | rewritten x y before after how =>
        rw [found, Option.some.injEq] at before
        rw [here, Option.some.injEq] at after
        subst before after
        rw [how.reason_kept ambiguous still, reason]
      | forgotten _ _ gone =>
        rw [here] at gone
        cases gone
    · exact explained
  · cases m.aside_fate with
    | kept _ barriers _ => exact h.click d barrier (barriers ▸ up)
    | rotated _ _ _ barriers => exact h.click d barrier (barriers ▸ up)
    | retired _ _ retirement transition _ _ _ _ barriers _ =>
      rw [barriers] at up
      split at up
      · next click =>
        rw [get_insert] at up
        split at up
        · cases up
          exact click
        · exact h.click d barrier up
      · exact h.click d barrier up
    | resumed _ _ _ barriers =>
      rw [barriers, get_erase] at up
      split at up
      · cases up
      · exact h.click d barrier up

theorem Explained.moves (h : s.Explained) (orderly : s.Orderly) (m : Moves care s s') :
    s'.Explained :=
  orderly.moves_keep h (fun orderly h m => h.move orderly m) m

theorem Explained.restarted (h : s.Explained) (orderly : s.Orderly) (limits : AdmissionLimits) :
    (s.restarted limits).Explained := by
  refine ⟨fun d q held => ?_, h.click⟩
  have after : ∀ {id : String} {r : SafetyOperation}, s.operations[id]? = some r →
      (s.restarted limits).operations[id]? = some r.afterRestart := by
    intro id r found
    rw [get_restarted, found, Option.map_some]
  by_cases some_lost : ∃ (b : String) (x : SafetyOperation), s.operations[b]? = some x ∧
      x.isLostByRestart = true ∧ x.operation.deviceId = d
  · obtain ⟨b, x, found, lost, rfl⟩ := some_lost
    have eq := orderly.coherent.quarantined_of_lost found lost
    rw [show s.quarantinesAfterRestart[x.operation.deviceId]? = some q from held,
      Option.some.injEq] at eq
    subst eq
    refine ⟨x.afterRestart, ?_, ?_⟩
    · rw [quarantineFor, orderly.coherent.keyed b x found, after found]
    · rw [(orderly.sound b x found).afterRestart_of_lost lost]
      rfl
  · have same := quarantined_of_not_lost (s := s) (d := d) fun b x found lost device =>
      some_lost ⟨b, x, found, lost, device⟩
    rw [show s.quarantinesAfterRestart[d]? = some q from held] at same
    obtain ⟨r, found, reason⟩ := h.reason d q same.symm
    obtain ⟨x, was, ambiguous, -⟩ := orderly.quarantined_record same.symm
    rw [found, Option.some.injEq] at was
    subst was
    refine ⟨r.afterRestart, after found, ?_⟩
    rw [(orderly.sound _ r found).afterRestart_eq (by rw [ambiguous]; rfl), reason]

/-- A ledger as it is while devices are few. -/
structure Tended (s : AuthoritativeOperationController) : Prop where
  orderly : s.Orderly
  guarded : s.Guarded
  explained : s.Explained
  short : s.retirements.length ≤ maxRetirementRecords

theorem tended_empty (limits : AdmissionLimits) : (empty limits).Tended :=
  ⟨orderly_empty limits, guarded_empty limits, explained_empty limits, Nat.zero_le _⟩

theorem Tended.roomy (h : s.Tended) (few : s.FewDevices) (event : LedgerEvent) : s.Roomy event :=
  roomy_of_few s event (h.orderly.accounted.barriers_le_devices.trans_lt few)

theorem Tended.restarted (h : s.Tended) (limits : AdmissionLimits) : (s.restarted limits).Tended :=
  ⟨h.orderly.restarted limits, h.guarded.restarted limits, h.explained.restarted h.orderly limits,
    h.short⟩

theorem Tended.next (h : s.Tended) (event : LedgerEvent) (few : s.FewDevices) :
    (s.next event).Tended := by
  have roomy := h.roomy few event
  have short := h.orderly.short_next h.short event roomy
  rcases h.orderly.next_cases .none event roomy.fits (careful_none s event) event.allowed_none with
    ⟨limits, -, eq⟩ | moves
  · rw [eq]
    exact h.restarted limits
  · exact ⟨h.orderly.moves moves,
      h.orderly.moves_keep h.guarded (fun orderly guarded m => guarded.move orderly m) moves,
      h.explained.moves h.orderly moves, short⟩

/-- A ledger that some run leads to, with few devices all along. The Hub forgets no device. -/
def ReachableWithFewDevices (s : AuthoritativeOperationController) : Prop :=
  ∃ (limits : AdmissionLimits) (initial : AuthoritativeOperationController)
    (events : List LedgerEvent), new limits = .ok initial ∧
      Machine.Meets AuthoritativeOperationController.next (fun s _ => s.FewDevices) initial events ∧
      Machine.run AuthoritativeOperationController.next initial events = s ∧ s.FewDevices

theorem ReachableWithFewDevices.few (h : s.ReachableWithFewDevices) : s.FewDevices := by
  obtain ⟨_, _, _, _, _, _, few⟩ := h
  exact few

theorem ReachableWithFewDevices.tended (h : s.ReachableWithFewDevices) : s.Tended := by
  obtain ⟨limits, initial, events, created, few, rfl, -⟩ := h
  rw [new_eq_ok created] at few ⊢
  exact Machine.run_invariant (fun _ event tended few => tended.next event few) (tended_empty limits) few

/-- A restart brings no device. -/
theorem FewDevices.restarted (few : s.FewDevices) (limits : AdmissionLimits) :
    (s.restarted limits).FewDevices := by
  have known : ∀ d ∈ (s.restarted limits).devices, d ∈ s.devices := by
    intro d mem
    rw [devices, List.mem_dedup] at mem ⊢
    obtain ⟨r', listed, rfl⟩ := List.mem_map.mp mem
    obtain ⟨id, found⟩ := mem_values.mp listed
    rw [get_restarted, Option.map_eq_some_iff] at found
    obtain ⟨r, found, rfl⟩ := found
    rw [SafetyOperation.afterRestart_operation]
    exact List.mem_map.mpr ⟨r, mem_values.mpr ⟨id, found⟩, rfl⟩
  exact (List.subperm_of_subset (List.nodup_dedup _) known).length_le.trans_lt few

variable {d : String} {q : DesktopQuarantine} {transition : RetirementTransition}
  {barrier : MutationResumeBarrier}

/-- Every quarantine can be shown, with what its operation says. -/
theorem Tended.quarantineInspection_ok (h : s.Tended) (held : s.quarantines[d]? = some q)
    (found : s.operations[q.operationId]? = some r) :
    ∃ shown, s.quarantineInspection q = .ok shown ∧ shown.operation = r.operation ∧
      shown.capability = r.capability ∧ shown.dispatchedAtMs = r.dispatchedAtMs ∧
      shown.reconciliationStatus = r.reconciliationStatus.getD .operatorRequired := by
  obtain ⟨x, was, ambiguous, device, generation, owner, -⟩ := h.orderly.quarantined_record held
  rw [found, Option.some.injEq] at was
  subst was
  obtain ⟨x, was, reason⟩ := h.explained.reason d q held
  rw [found, Option.some.injEq] at was
  subst was
  have here := (h.orderly.filed.quarantine d q held).1
  simp only [quarantineInspection, found, ambiguous, device, here, generation, owner, reason, ne_eq,
    or_self]
  exact ⟨_, rfl, rfl, rfl, rfl, rfl⟩

/-- The inspections are those of the quarantines. -/
theorem Tended.quarantineInspections_ok (h : s.Tended) :
    ∃ inspections, s.quarantineInspections = .ok inspections ∧ ∀ shown, shown ∈ inspections ↔
      ∃ (d : String) (q : DesktopQuarantine), s.quarantines[d]? = some q ∧
        s.quarantineInspection q = .ok shown := by
  have each : ∀ q ∈ sortBy DesktopQuarantine.deviceId s.quarantines.values,
      ∃ shown, s.quarantineInspection q = .ok shown := by
    intro q mem
    obtain ⟨d, held⟩ := mem_values.mp (mem_sortBy.mp mem)
    obtain ⟨r, found, -⟩ := h.orderly.quarantined_record held
    obtain ⟨shown, ok, -⟩ := h.quarantineInspection_ok held found
    exact ⟨shown, ok⟩
  refine ⟨_, Result.mapM_eq_ok each, fun shown => ?_⟩
  rw [List.mem_filterMap]
  constructor
  · rintro ⟨q, mem, given⟩
    obtain ⟨d, held⟩ := mem_values.mp (mem_sortBy.mp mem)
    obtain ⟨_, ok⟩ := each q mem
    rw [ok] at given
    cases given
    exact ⟨d, q, held, ok⟩
  · rintro ⟨d, q, held, ok⟩
    refine ⟨q, mem_sortBy.mpr (mem_values.mpr ⟨d, held⟩), ?_⟩
    rw [ok]
    rfl

/-! ### Retirements -/

/-- In an orderly ledger with few barriers a retirement goes through once it has passed its
checks and is let through by the admission ledger. -/
theorem Orderly.retire_ok_iff (h : s.Orderly) (few : s.mutationResumeBarriers.size < maxRetirementRecords)
    (order : IterationOrder) (transition : RetirementTransition) :
    (∃ answer, (s.retireIndeterminateWithDisposition order id transition).1 = .ok answer) ↔
      ∃ retirement, s.retirementFor id transition = .ok retirement ∧ s.Releasable retirement := by
  have fits : ¬s.Overfull id transition := fun ⟨_, _, _, _, crowds⟩ =>
    absurd few (Nat.not_lt.mpr (Nat.le_of_lt crowds))
  constructor
  · rintro ⟨answer, done⟩
    rcases h.coherent.retire_cases .none h.accounted order transition fits trivial False.elim with
      ⟨e, failed⟩ | ⟨retirement, next, ok, releasable, -⟩
    · rw [failed] at done
      cases done
    · exact ⟨retirement, ok, releasable⟩
  · rintro ⟨retirement, ok, releasable⟩
    have rotates := h.coherent.rotate_handedOn h.accounted ok releasable order (by
      simp only [released]
      split
      · exact Std.ExtTreeMap.size_insert_le.trans few
      · exact Nat.le_of_lt few)
    obtain ⟨next, eq⟩ := h.coherent.retire_eq h.accounted ok releasable order (.inr rotates.1)
    refine ⟨(next, retirement), ?_⟩
    rw [eq, rotates.1]
    rfl

/-- What a quarantined operation has to say for itself to be retired. -/
structure MayRetire (transition : RetirementTransition) (r : SafetyOperation) : Prop where
  policy : transition.disposition.policyFor r.capability = some transition.requestedPolicy
  unrecovered : (r.reconciliationStatus.getD .operatorRequired).isUnrecovered = true
  dispatched : r.dispatchedAtMs.isSome = true
  newer : r.operation.deviceGeneration < transition.authorizedDeviceGeneration
  bounded : r.operation.isBounded = true

/-- A quarantined operation passes the checks of a retirement exactly by what it says. -/
theorem Tended.retirementFor_ok_iff (h : s.Tended) (held : s.quarantines[d]? = some q)
    (found : s.operations[q.operationId]? = some r) (why : validReason transition.reason = true)
    (authority : transition.authority = transition.disposition.authority) :
    (∃ retirement, s.retirementFor q.operationId transition = .ok retirement) ↔
      MayRetire transition r := by
  obtain ⟨x, was, ambiguous, device, generation, -, open_⟩ := h.orderly.quarantined_record held
  rw [found, Option.some.injEq] at was
  subst was
  obtain ⟨x, was, reason⟩ := h.explained.reason d q held
  rw [found, Option.some.injEq] at was
  subst was
  have sound := h.orderly.sound _ r found
  have unaccounted := sound.ambiguous (by rw [ambiguous]; rfl)
  have unlisted : ¬s.retirements.any
      (fun retirement => retirement.operation.operationId = q.operationId) = true := by
    intro listed
    obtain ⟨retirement, mem, same⟩ := List.any_eq_true.mp listed
    obtain ⟨_, -, -, -, denied⟩ := h.orderly.accounted.kept retirement mem
    rw [of_decide_eq_true same] at denied
    exact open_ denied
  constructor
  · rintro ⟨retirement, ok⟩
    obtain ⟨x, checked⟩ := retirable_of_ok ok
    have same := checked.old
    rw [found, Option.some.injEq] at same
    subst same
    have valid := checked.valid
    simp only [RetirementRecord.isValid, Bool.and_eq_true, checked.operation, checked.prior] at valid
    exact ⟨checked.eligible, valid.1.1.1.1.1.2, checked.dispatched, checked.newer, valid.1.1.1.1.1.1.1⟩
  · intro may
    have shape : ¬(r.state ≠ .indeterminate ∨ r.dispatchedAtMs.isNone ∨ r.receipt.isSome ∨
        r.recoverableResult.isSome ∨
        transition.authorizedDeviceGeneration ≤ r.operation.deviceGeneration) := by
      simp only [ambiguous, Option.isNone_eq_false_iff.mpr may.dispatched, unaccounted.receipt,
        unaccounted.result, Option.isSome_none, Bool.false_eq_true, ne_eq, not_true, false_or]
      exact Nat.not_le.mpr may.newer
    let retirement : RetirementRecord := {
      operation := r.operation
      capability := r.capability
      outcome := .unknown
      indeterminateReason := q.reason
      priorReconciliationStatus := r.reconciliationStatus.getD .operatorRequired
      policy := transition.requestedPolicy
      disposition := transition.disposition
      authority := transition.authority
      reason := transition.reason
      authorizedDeviceGeneration := transition.authorizedDeviceGeneration
      retiredAtMs := transition.nowMs
      replayed := false}
    have valid : retirement.isValid = true := by
      simp only [RetirementRecord.isValid, retirement, may.bounded, may.unrecovered, may.policy,
        authority, why, may.newer, decide_true, Bool.not_false, Bool.and_self]
    refine ⟨retirement, ?_⟩
    unfold retirementFor
    simp only [why, unlisted, found]
    rw [if_neg shape]
    simp only [may.unrecovered, may.policy, ne_eq, reason, device, held,
      generation]
    exact if_neg (not_not.mpr valid)

/-- With few devices and a tombstone left, a quarantined operation of a device without a barrier
is retired exactly by what it says. -/
theorem Tended.retires_iff (h : s.Tended) (few : s.FewDevices)
    (room : s.admission.retiredIndeterminate.size < maxRetiredOperationTombstones)
    (held : s.quarantines[d]? = some q) (unbarred : s.mutationResumeBarriers[d]? = none)
    (found : s.operations[q.operationId]? = some r) (order : IterationOrder)
    (why : validReason transition.reason = true)
    (authority : transition.authority = transition.disposition.authority) :
    (∃ answer, (s.retireIndeterminateWithDisposition order q.operationId transition).1 = .ok answer) ↔
      MayRetire transition r := by
  rw [h.orderly.retire_ok_iff (h.orderly.accounted.barriers_le_devices.trans_lt few),
    ← h.retirementFor_ok_iff held found why authority]
  refine exists_congr fun retirement => and_iff_left_of_imp fun ok => ⟨room, fun _ => ?_⟩
  obtain ⟨x, checked⟩ := retirable_of_ok ok
  obtain ⟨y, was, -, device, -⟩ := h.orderly.quarantined_record held
  rw [checked.old, Option.some.injEq] at was
  rw [checked.operation, was, device]
  exact unbarred

/-! ### Resumes -/

/-- Barriers and resumes name retirements, no two of them the same. -/
theorem Tended.resumes_lt (h : s.Tended) (up : s.mutationResumeBarriers[d]? = some barrier) :
    s.mutationResumes.length < maxRetirementRecords := by
  have once : (barrier.sourceOperationId ::
      s.mutationResumes.map sourceOperationId).Nodup := by
    refine List.nodup_cons.mpr ⟨fun listed => ?_, h.guarded.resumed.once⟩
    obtain ⟨resume, mem, same⟩ := List.mem_map.mp listed
    exact h.guarded.resumed.lifted resume mem d barrier up same.symm
  have listed : ∀ a ∈ barrier.sourceOperationId ::
      s.mutationResumes.map sourceOperationId,
      a ∈ s.retirements.map fun retirement => retirement.operation.operationId := by
    rw [List.forall_mem_cons]
    constructor
    · obtain ⟨-, retirement, mem, raised⟩ := h.orderly.accounted.raised d barrier up
      exact List.mem_map.mpr ⟨retirement, mem, (raised_iff.mp raised).1⟩
    · intro a mem
      obtain ⟨resume, listed, rfl⟩ := List.mem_map.mp mem
      obtain ⟨retirement, mem, precedes⟩ := h.guarded.resumed.preceded resume listed
      exact List.mem_map.mpr ⟨retirement, mem, (precedes_iff.mp precedes).1⟩
  have le := (List.subperm_of_subset once listed).length_le
  rw [List.length_cons, List.length_map, List.length_map] at le
  exact le.trans h.short

/-- A barrier can be lifted by a person at the device in any later generation. -/
theorem Tended.resume_ok (h : s.Tended) (up : s.mutationResumeBarriers[d]? = some barrier)
    {generation nowMs : Nat} {reason : String} (newer : barrier.acceptedGeneration < generation)
    (why : validReason reason = true) (clock : 0 < nowMs) :
    ∃ answer, s.resumeMutations d barrier.sourceOperationId .localUserPresence generation reason
      nowMs = .ok answer := by
  obtain ⟨device, retirement, mem, raised⟩ := h.orderly.accounted.raised d barrier up
  obtain ⟨source, device', -, accepted, -⟩ := raised_iff.mp raised
  have valid := h.guarded.vetted retirement mem
  simp only [RetirementRecord.isValid, OperationRef.isBounded, Bool.and_eq_true, decide_eq_true_eq]
    at valid
  obtain ⟨⟨⟨⟨⟨⟨⟨⟨⟨⟨⟨nonblank, short⟩, -⟩, named⟩, brief⟩, -⟩, -⟩, -⟩, -⟩, -⟩, later⟩, -⟩ := valid
  rw [device'] at nonblank short
  rw [source] at named brief
  rw [accepted] at later
  let record : MutationResumeRecord :=
    ⟨barrier.deviceId, barrier.sourceOperationId, barrier.acceptedGeneration, generation,
      barrier.policy, .localUserPresence, reason, nowMs⟩
  have valid : record.isValid = true := by
    simp only [record, isValid, Bool.and_eq_true, decide_eq_true_eq,
      h.explained.click d barrier up, why, and_true]
    exact ⟨⟨⟨⟨⟨⟨nonblank, short⟩, named⟩, brief⟩, Nat.zero_lt_of_lt later⟩, newer⟩, clock⟩
  unfold resumeMutations
  rw [if_neg (by simp [why]), up]
  dsimp only
  rw [if_neg (by simp [newer]), if_neg (not_or.mpr ⟨not_not.mpr valid, (h.resumes_lt up).not_ge⟩)]
  exact ⟨_, rfl⟩

end AuthoritativeOperationController

end Gateway.Execution
