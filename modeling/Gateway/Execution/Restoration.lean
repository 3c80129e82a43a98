import Gateway.Execution.Filing

/-! Reading back one's own snapshot.

On an orderly ledger there is only one ledger its snapshot can be read back as:
`restarted`. Whether the reader accepts the snapshot is another question; here it
is shown that what it returns is this ledger, and that it is orderly again. -/
namespace Gateway.Execution
open Data Device SafetyOperation Table
open ReplayDenyTombstone HubOperationState SafetyOperation HubAdmissionController

/-! ### The admission ledger -/

namespace HubAdmissionController
variable {c : HubAdmissionController}

/-- Tombstones are read back as the ids they were made from. -/
theorem tombstones_decode {ids : List String} {tombstones : List ReplayDenyTombstone}
    (made : ids.mapM (fun id => (fromOperationId id).toOption) = some tombstones) :
    (∀ tombstone ∈ tombstones, ∃ id, tombstone.operationId = .ok id) ∧
      tombstones.filterMap (fun tombstone => tombstone.operationId.toOption) = ids ∧
      tombstones.length = ids.length := by
  induction ids generalizing tombstones with
  | nil =>
    cases made
    exact ⟨fun _ mem => (by cases mem), rfl, rfl⟩
  | cons id rest ih =>
    simp only [List.mapM_cons, Option.bind_eq_bind, Option.bind_eq_some_iff] at made
    obtain ⟨tombstone, one, others, more, eq⟩ := made
    cases eq
    have decoded : tombstone.operationId = .ok id := by
      cases origin : fromOperationId id with
      | error e => simp [origin, Except.toOption] at one
      | ok t =>
        simp only [origin, Except.toOption, Option.some.injEq] at one
        exact one ▸ operationId_fromOperationId origin
    obtain ⟨all, back, length⟩ := ih more
    refine ⟨?_, ?_, by rw [List.length_cons, List.length_cons, length]⟩
    · intro t mem
      rcases List.mem_cons.mp mem with rfl | later
      · exact ⟨id, decoded⟩
      · exact all t later
    · rw [List.filterMap_cons_some (b := id) (by rw [decoded]; rfl), back]

/-- The retired ids of a snapshot, read back. -/
theorem restoreRetired_eq {snapshot : HubAdmissionSnapshot} (taken : c.snapshotForRestart = some snapshot) :
    restoreRetired snapshot =
      if c.retiredIndeterminate.size > maxRetiredOperationTombstones then .error .invalidSnapshot
      else .ok c.retiredIndeterminate := by
  simp only [snapshotForRestart, Option.map_eq_some_iff] at taken
  obtain ⟨tombstones, made, rfl⟩ := taken
  obtain ⟨all, back, length⟩ := tombstones_decode made
  set sorted := sortBy encodedId tombstones
  have perm : sorted.Perm tombstones := sortBy_perm _ _
  have decoded := Result.mapM_eq_ok fun t mem => all t (perm.mem_iff.mp mem)
  have decoded_perm : (sorted.filterMap fun t => t.operationId.toOption).Perm
      c.retiredIndeterminate.toList := back ▸ perm.filterMap _
  have length_sorted : sorted.length = c.retiredIndeterminate.size := by
    rw [perm.length_eq, length, Std.ExtTreeSet.length_toList]
  simp only [restoreRetired, not_true_eq_false, false_and, if_false,
    List.isEmpty_iff]
  by_cases none_retired : sorted = []
  · have empty : c.retiredIndeterminate = ∅ := by
      rw [← Std.ExtTreeSet.toList_eq_nil_iff, ← List.length_eq_zero_iff,
        Std.ExtTreeSet.length_toList, ← length_sorted, none_retired]
      rfl
    simp [none_retired, empty]
  · rw [if_pos none_retired, length_sorted]
    split
    · rfl
    · rw [decoded]
      simp only [ofList_names decoded_perm]
      rw [if_neg (by rw [decoded_perm.length_eq]; simp)]

end HubAdmissionController

/-! ### The ledger after a restart -/

namespace SafetyOperation
variable {r : SafetyOperation}

@[simp]
theorem afterRestart_operation (r : SafetyOperation) : r.afterRestart.operation = r.operation := by
  unfold afterRestart
  repeat' split
  all_goals rfl

@[simp]
theorem afterRestart_owner (r : SafetyOperation) : r.afterRestart.owner = r.owner := by
  unfold afterRestart
  repeat' split
  all_goals rfl

@[simp]
theorem afterRestart_lane (r : SafetyOperation) : r.afterRestart.executionLane = r.executionLane := by
  unfold afterRestart
  repeat' split
  all_goals rfl

@[simp]
theorem afterRestart_capability (r : SafetyOperation) : r.afterRestart.capability = r.capability := by
  unfold afterRestart
  repeat' split
  all_goals rfl

/-- A restart leaves nothing unsettled: what was not sent is settled, what was sent is
ambiguous unless it was a recovery read. -/
theorem afterRestart_phase (r : SafetyOperation) : r.afterRestart.state.phase =
    if r.state.phase = .ambiguous ∨ r.isLostByRestart = true then .ambiguous else .settled := by
  cases state : r.state <;> cases lane : r.executionLane <;>
    simp [afterRestart, state, lane, isLostByRestart, HubOperationState.phase, isInFlight]

/-- Work that is lost was running in the ordinary lane. -/
theorem isLostByRestart_iff : r.isLostByRestart = true ↔
    r.state.isInFlight = true ∧ r.executionLane = .normal := by
  cases lane : r.executionLane <;> simp [isLostByRestart, lane]

/-- A record that says what it waits for is written as it is. -/
theorem afterRestart_of_done (done : r.state.isUnsettled = false)
    (stated : r.state = .indeterminate → r.reconciliationStatus ≠ none) : r.afterRestart = r := by
  cases state : r.state with
  | indeterminate =>
    obtain ⟨status, eq⟩ := Option.ne_none_iff_exists'.mp (stated state)
    simp only [afterRestart, state, eq, Option.getD_some]
    rw [← state, ← eq]
  | completed => simp only [afterRestart, state]
  | failed => simp only [afterRestart, state]
  | cancelled => simp only [afterRestart, state]
  | queued => rw [state] at done; cases done
  | activeNotDispatched => rw [state] at done; cases done
  | dispatched => rw [state] at done; cases done
  | cancelRequested => rw [state] at done; cases done

/-- A record that is already settled or ambiguous is written as it is. -/
theorem Sound.afterRestart_eq (h : r.Sound) (done : r.state.isUnsettled = false) :
    r.afterRestart = r := by
  refine afterRestart_of_done done fun ambiguous => ?_
  obtain ⟨status, eq, -⟩ := (h.ambiguous (by rw [ambiguous]; rfl)).status
  rw [eq]
  exact Option.some_ne_none status

/-- Unsent work is cancelled. -/
theorem afterRestart_of_unsent (unsent : r.state = .queued ∨ r.state = .activeNotDispatched) :
    r.afterRestart = {r with
      state := .cancelled
      receipt := some (r.receiptFor .cancelled .cancelledBeforeDispatch r.preparedAtMs)
      recoverableResult := none} := by
  rcases unsent with state | state <;> simp [afterRestart, state]

/-- A recovery read that was sent is abandoned. -/
theorem afterRestart_of_read (sent : r.state.isInFlight = true)
    (read : r.executionLane = .recoveryEvidenceRead) :
    r.afterRestart = {r with
      state := .failed
      indeterminateReason := none
      receipt := some (r.receiptFor .failed .recoveryReadInterrupted r.lastSeenMs)
      recoverableResult := none} := by
  cases state : r.state <;> rw [state] at sent <;> cases sent <;>
    simp [afterRestart, state, read]

/-- Other work that was sent is ambiguous. -/
theorem Sound.afterRestart_of_lost (h : r.Sound) (lost : r.isLostByRestart = true) :
    r.afterRestart = {r with
      state := .indeterminate
      indeterminateReason := some .hubRestartAfterDispatch
      receipt := none
      recoverableResult := none
      reconciliationStatus := some
        (defaultReconciliationStatus (some .hubRestartAfterDispatch) r.dispatchBinding)} := by
  obtain ⟨sent, normal⟩ := isLostByRestart_iff.mp lost
  obtain ⟨-, -, status⟩ := h.pending (isUnsettled_of_isInFlight sent)
  cases state : r.state <;> rw [state] at sent <;> cases sent <;>
    simp [afterRestart, state, normal, status]

theorem Sound.afterRestart (h : r.Sound) : r.afterRestart.Sound := by
  by_cases pending : r.state.isUnsettled = true
  · obtain ⟨-, -, status⟩ := h.pending pending
    by_cases sent : r.state.isInFlight = true
    · cases lane : r.executionLane with
      | normal =>
        rw [h.afterRestart_of_lost (isLostByRestart_iff.mpr ⟨sent, lane⟩)]
        exact h.of_ambiguous rfl rfl rfl {
          receipt := rfl
          result := rfl
          reason := rfl
          sent := h.sent sent
          status := ⟨_, rfl, defaultReconciliationStatus_cases _ _⟩}
      | recoveryEvidenceRead =>
        rw [afterRestart_of_read sent lane]
        exact h.of_settled rfl rfl rfl {
          carried := rfl
          operation := rfl
          owner := rfl
          capability := rfl
          terminalState := rfl
          fits := by simp [receiptFits, receiptFor, lane, ExecutionEvidence.isPreEnqueue]
          status := .inl status
          result := rfl}
    · have unsent : r.state = .queued ∨ r.state = .activeNotDispatched := by
        cases state : r.state <;> simp_all [isInFlight, isUnsettled]
      rw [afterRestart_of_unsent unsent]
      exact h.of_settled rfl rfl rfl {
        carried := rfl
        operation := rfl
        owner := rfl
        capability := rfl
        terminalState := rfl
        fits := receiptFits_of_plain (by simp [receiptFor]) rfl
        status := .inl status
        result := rfl}
  · rw [h.afterRestart_eq (Bool.eq_false_iff.mpr pending)]
    exact h

end SafetyOperation

namespace AuthoritativeOperationController
variable {care : Care} {s s' : AuthoritativeOperationController} {id : String}
  {r r' : SafetyOperation}

/-- The ledger a restart leads to, when its snapshot can be read back. -/
def restarted (s : AuthoritativeOperationController) (limits : AdmissionLimits) :
    AuthoritativeOperationController where
  admission := {HubAdmissionController.empty limits with
    operations := s.operations.map fun _ record => record.afterRestart.admitted
    blockedByIndeterminate := s.quarantinesAfterRestart.map fun _ quarantine => quarantine.operationId
    retiredIndeterminate := s.admission.retiredIndeterminate}
  operations := s.operations.map fun _ record => record.afterRestart
  recoveryArchive := s.recoveryArchive
  quarantines := s.quarantinesAfterRestart
  resolutions := s.resolutions
  autoResolutions := s.autoResolutions
  retirements := s.retirements
  mutationResumeBarriers := s.mutationResumeBarriers
  mutationResumes := sortResumes s.mutationResumes

theorem get_restarted (s : AuthoritativeOperationController) (limits : AdmissionLimits) (a : String) :
    (s.restarted limits).operations[a]? = s.operations[a]?.map afterRestart := by
  rw [restarted, Std.ExtTreeMap.getElem?_map]

/-- Each lost operation quarantines its device. -/
theorem Coherent.quarantined_of_lost (h : s.Coherent) (found : s.operations[id]? = some r)
    (lost : r.isLostByRestart = true) : s.quarantinesAfterRestart[r.operation.deviceId]? =
      some (quarantineFor r .hubRestartAfterDispatch r.lastSeenMs) := by
  have running : ∀ {x : SafetyOperation}, x.isLostByRestart = true → x.state.phase = .running :=
    fun lost => phase_of_isInFlight (isLostByRestart_iff.mp lost).1
  refine get_foldl_of_mem (fun r : SafetyOperation => r.operation.deviceId)
    (mem_values.mpr ⟨id, found⟩) lost ?_ _
  intro x mem lost' device
  obtain ⟨a, found'⟩ := mem_values.mp mem
  have same := h.running_unique found' found (running lost') (running lost) device
  rw [same, found] at found'
  exact (Option.some.inj found').symm

/-- Other devices keep their quarantine. -/
theorem quarantined_of_not_lost {d : String} (none_lost : ∀ (a : String) (x : SafetyOperation),
    s.operations[a]? = some x → x.isLostByRestart = true → x.operation.deviceId ≠ d) :
    s.quarantinesAfterRestart[d]? = s.quarantines[d]? := by
  refine get_foldl_of_ne (fun x mem => ?_) _
  obtain ⟨a, found⟩ := mem_values.mp mem
  exact none_lost a x found

/-- A quarantined device has lost nothing more. -/
theorem Coherent.not_lost_of_quarantined (h : s.Coherent) {d : String} {q : DesktopQuarantine}
    (held : s.quarantines[d]? = some q) (a : String) (x : SafetyOperation)
    (found : s.operations[a]? = some x) (lost : x.isLostByRestart = true) :
    x.operation.deviceId ≠ d := by
  rintro rfl
  obtain ⟨sent, normal⟩ := isLostByRestart_iff.mp lost
  have free := h.fenced a x found normal (isUnsettled_of_isInFlight sent)
  rw [held] at free
  cases free

/-- What a restart leaves unsettled: nothing. -/
theorem phase_restarted {limits : AdmissionLimits} {a : String} {x : SafetyOperation}
    (found : (s.restarted limits).operations[a]? = some x) :
    ∃ r, s.operations[a]? = some r ∧ x = r.afterRestart ∧
      x.state.phase ≠ .waiting ∧ x.state.phase ≠ .running := by
  rw [get_restarted, Option.map_eq_some_iff] at found
  obtain ⟨r, found, rfl⟩ := found
  refine ⟨r, found, rfl, ?_⟩
  rw [afterRestart_phase]
  split <;> decide

/-- A device is blocked after a restart by the operation that quarantines it. -/
theorem Coherent.blocked_restarted (h : s.Coherent) (limits : AdmissionLimits) :
    Inverse (s.restarted limits).admission.blockedByIndeterminate (s.restarted limits).blockOf := by
  intro d a
  have get_blocked : (s.restarted limits).admission.blockedByIndeterminate[d]? =
      s.quarantinesAfterRestart[d]?.map DesktopQuarantine.operationId := by
    rw [restarted, Std.ExtTreeMap.getElem?_map]
  have block_eq : (s.restarted limits).blockOf a = some d ↔ ∃ r, s.operations[a]? = some r ∧
      (r.state.phase = .ambiguous ∨ r.isLostByRestart = true) ∧
      a ∉ s.admission.retiredIndeterminate ∧ r.operation.deviceId = d := by
    rw [blockOf, get_restarted]
    cases found : s.operations[a]? with
    | none => simp
    | some r =>
      simp only [Option.map_some, Option.bind_some, SafetyOperation.blocks,
        afterRestart_phase]
      by_cases lost : r.state.phase = .ambiguous ∨ r.isLostByRestart = true <;>
        simp [lost, restarted]
  rw [get_blocked, block_eq]
  constructor
  · intro blocking
    obtain ⟨q, held, names⟩ := Option.map_eq_some_iff.mp blocking
    by_cases some_lost : ∃ (b : String) (x : SafetyOperation), s.operations[b]? = some x ∧
        x.isLostByRestart = true ∧ x.operation.deviceId = d
    · obtain ⟨b, x, found, lost, rfl⟩ := some_lost
      rw [h.quarantined_of_lost found lost, Option.some.injEq] at held
      subst held
      obtain rfl : b = a := by rw [← names, quarantineFor, h.keyed b x found]
      obtain ⟨sent, normal⟩ := isLostByRestart_iff.mp lost
      refine ⟨x, found, .inr lost, fun retired => h.not_denied found ?_ retired normal, rfl⟩
      rw [phase_of_isInFlight sent]
      decide
    · rw [quarantined_of_not_lost fun b x found lost device => some_lost ⟨b, x, found, lost, device⟩]
        at held
      have blocked : s.admission.blockedByIndeterminate[d]? = some a := by
        rw [h.quarantined, held, Option.map_some, names]
      have block := (h.blocked d a).mp blocked
      rw [blockOf, Option.bind_eq_some_iff] at block
      obtain ⟨x, found, block⟩ := block
      unfold SafetyOperation.blocks at block
      split at block
      · next both => exact ⟨x, found, .inl both.1, both.2, Option.some.inj block⟩
      · cases block
  · rintro ⟨r, found, ambiguous | lost, fresh, rfl⟩
    · have blocked : s.admission.blockedByIndeterminate[r.operation.deviceId]? = some a := by
        rw [h.blocked _ a, blockOf_of_get found, SafetyOperation.blocks, if_pos ⟨ambiguous, fresh⟩]
      rw [h.quarantined, Option.map_eq_some_iff] at blocked
      obtain ⟨q, held, names⟩ := blocked
      rw [quarantined_of_not_lost (h.not_lost_of_quarantined held), held, Option.map_some, names]
    · rw [h.quarantined_of_lost found lost, Option.map_some, quarantineFor, h.keyed a r found]

/-- The two ledgers agree after a restart. -/
theorem Coherent.restarted (h : s.Coherent) (limits : AdmissionLimits) :
    (s.restarted limits).Coherent := by
  constructor
  case keyed =>
    intro a x found
    obtain ⟨r, old, rfl, -⟩ := phase_restarted found
    rw [afterRestart_operation, h.keyed a r old]
  case mirrored =>
    intro a
    rw [get_restarted, AuthoritativeOperationController.restarted, Std.ExtTreeMap.getElem?_map,
      Option.map_map]
    rfl
  case active =>
    intro d a
    have none_runs : (s.restarted limits).slotOf a = none := by
      rw [slotOf]
      cases found : (s.restarted limits).operations[a]? with
      | none => rfl
      | some x =>
        obtain ⟨r, -, -, -, idle⟩ := phase_restarted found
        exact slot_of_not_running idle
    rw [none_runs]
    simp [AuthoritativeOperationController.restarted, HubAdmissionController.empty]
  case blocked => exact h.blocked_restarted limits
  case quarantined =>
    intro d
    rw [AuthoritativeOperationController.restarted, Std.ExtTreeMap.getElem?_map]
  case waiting =>
    intro d op
    have none_waits : (s.restarted limits).waitingOf op.operationId = none := by
      rw [waitingOf]
      cases found : (s.restarted limits).operations[op.operationId]? with
      | none => rfl
      | some x =>
        obtain ⟨r, -, -, idle, -⟩ := phase_restarted found
        exact waits_of_not_waiting idle
    rw [none_waits]
    simp [AuthoritativeOperationController.restarted, HubAdmissionController.empty, queueOf]
  case waitingOnce =>
    simp [AuthoritativeOperationController.restarted, HubAdmissionController.empty, queueOf]
  case recovery =>
    intro a
    have none_reads : (s.restarted limits).readsOf a = false := by
      rw [readsOf]
      cases found : (s.restarted limits).operations[a]? with
      | none => rfl
      | some x =>
        obtain ⟨r, -, -, waiting, running⟩ := phase_restarted found
        exact reads_of_settled (not_unsettled_of_phase rfl waiting running)
    rw [none_reads]
    simp [AuthoritativeOperationController.restarted, HubAdmissionController.empty]
  case capacity => exact Nat.zero_le _
  case room =>
    simp [AuthoritativeOperationController.restarted, HubAdmissionController.empty, queueOf]
  case fenced =>
    intro a x found _ pending
    obtain ⟨r, -, -, waiting, running⟩ := phase_restarted found
    rw [not_unsettled_of_phase rfl waiting running] at pending
    cases pending
  case reading =>
    intro a x found lane
    obtain ⟨r, old, rfl, waiting, -⟩ := phase_restarted found
    rw [afterRestart_lane] at lane
    obtain ⟨allowed, -, unambiguous⟩ := h.reading a r old lane
    refine ⟨by rwa [afterRestart_capability], waiting, ?_⟩
    rw [afterRestart_phase, if_neg]
    · decide
    · rintro (ambiguous | lost)
      · exact unambiguous ambiguous
      · rw [(isLostByRestart_iff.mp lost).2] at lane
        cases lane
  case denied =>
    intro a x found retired lane
    obtain ⟨r, old, rfl, -⟩ := phase_restarted found
    rw [afterRestart_lane] at lane
    rw [afterRestart_phase, if_pos (.inl (h.denied a r old retired lane))]

theorem sortResumes_perm (resumes : List MutationResumeRecord) : (sortResumes resumes).Perm resumes :=
  List.perm_insertionSort _ _

theorem Accounted.restarted (h : s.Accounted) (limits : AdmissionLimits) :
    (s.restarted limits).Accounted := by
  constructor
  case once => exact h.once
  case kept =>
    intro retirement mem
    obtain ⟨r, found, same, ambiguous, retired⟩ := h.kept retirement mem
    refine ⟨r.afterRestart, ?_, by rw [afterRestart_operation, same], ?_, retired⟩
    · rw [get_restarted, found, Option.map_some]
    · rw [afterRestart_phase, if_pos (.inl ambiguous)]
  case answered =>
    intro retirement mem click
    rcases h.answered retirement mem click with held | resumed
    · exact .inl held
    · right
      rw [List.any_eq_true] at resumed ⊢
      obtain ⟨resume, mem, answers⟩ := resumed
      exact ⟨resume, (sortResumes_perm _).mem_iff.mpr mem, answers⟩
  case raised => exact h.raised

theorem RecordsSound.restarted (h : s.RecordsSound) (limits : AdmissionLimits) :
    (s.restarted limits).RecordsSound := by
  intro a x found
  obtain ⟨r, old, rfl, -⟩ := phase_restarted found
  exact (h a r old).afterRestart

theorem Filed.restarted (h : s.Filed) (coherent : s.Coherent) (limits : AdmissionLimits) :
    (s.restarted limits).Filed := by
  have tells : ∀ {d : String} {q : DesktopQuarantine}, s.TellsOf d q →
      (s.restarted limits).TellsOf d q := by
    rintro d q ⟨device, r, found, same⟩
    refine ⟨device, r.afterRestart, by rw [get_restarted, found, Option.map_some], ?_⟩
    rwa [afterRestart_operation, afterRestart_owner]
  refine ⟨?_, ?_, h.bounded⟩
  · intro d q held
    by_cases some_lost : ∃ (b : String) (x : SafetyOperation), s.operations[b]? = some x ∧
        x.isLostByRestart = true ∧ x.operation.deviceId = d
    · obtain ⟨b, x, found, lost, rfl⟩ := some_lost
      have eq := coherent.quarantined_of_lost found lost
      rw [show s.quarantinesAfterRestart[x.operation.deviceId]? = some q from held,
        Option.some.injEq] at eq
      subst eq
      refine tells ⟨rfl, x, ?_, rfl, rfl, rfl⟩
      rw [quarantineFor, coherent.keyed b x found, found]
    · have same := quarantined_of_not_lost (s := s) (d := d) fun b x found lost device =>
        some_lost ⟨b, x, found, lost, device⟩
      rw [show s.quarantinesAfterRestart[d]? = some q from held] at same
      exact tells (h.quarantine d q same.symm)
  · intro a entry found
    obtain ⟨names, valid, gone⟩ := h.archived a entry found
    exact ⟨names, valid, by rw [get_restarted, gone, Option.map_none]⟩

/-! ### Reading the admission ledger back -/

section
variable (h : s.Coherent)
include h

theorem Coherent.admission_operations :
    s.admission.operations = s.operations.map fun _ r => r.admitted :=
  ext_get fun a => by rw [h.mirrored, Std.ExtTreeMap.getElem?_map]

/-- The admission ledger settles a record in its snapshot as the authoritative one does. -/
theorem Coherent.stateAfterRestart_eq (found : s.operations[id]? = some r) : stateAfterRestart
      (decide (r.operation.operationId ∈ s.admission.recoveryReadOnlyOperations)) r.state =
        r.afterRestart.state := by
  have read : r.operation.operationId ∈ s.admission.recoveryReadOnlyOperations ↔ r.reads = true := by
    rw [h.keyed id r found, h.recovery, readsOf_of_get found]
  simp only [read, reads]
  cases state : r.state <;> cases lane : r.executionLane <;>
    simp [stateAfterRestart, afterRestart, state, lane, isUnsettled]

theorem Coherent.snapshotOperations_perm : s.admission.snapshotOperations.Perm
      (s.operations.values.map fun r => r.afterRestart.admitted) := by
  refine (sortBy_perm _ _).trans (List.Perm.of_eq ?_)
  rw [h.admission_operations, values_map, List.map_map]
  apply List.map_congr_left
  intro r mem
  obtain ⟨a, found⟩ := mem_values.mp mem
  simp only [admitted, afterRestart_operation]
  exact congrArg (HubOperation.mk r.operation) (h.stateAfterRestart_eq found)

theorem Coherent.mem_snapshotOperations {op : HubOperation} : op ∈ s.admission.snapshotOperations ↔
      ∃ (a : String) (r : SafetyOperation), s.operations[a]? = some r ∧ r.afterRestart.admitted = op := by
  rw [h.snapshotOperations_perm.mem_iff, List.mem_map]
  constructor
  · rintro ⟨r, mem, eq⟩
    obtain ⟨a, found⟩ := mem_values.mp mem
    exact ⟨a, r, found, eq⟩
  · rintro ⟨a, r, found, eq⟩
    exact ⟨r, mem_values.mpr ⟨a, found⟩, eq⟩

/-- The ambiguous operations of a snapshot that are not retired block their devices. -/
theorem Coherent.mem_blocking (limits : AdmissionLimits) {op : HubOperation} :
    op ∈ s.admission.snapshotOperations.filter (fun op => op.state = .indeterminate &&
        op.operation.operationId ∉ s.admission.retiredIndeterminate) ↔
      (s.restarted limits).blockOf op.operation.operationId = some op.operation.deviceId ∧
        op ∈ s.admission.snapshotOperations := by
  rw [List.mem_filter, and_comm, and_congr_left_iff]
  intro mem
  obtain ⟨a, r, found, rfl⟩ := h.mem_snapshotOperations.mp mem
  have key : r.afterRestart.admitted.operation.operationId = a := by
    simp only [admitted, afterRestart_operation, h.keyed a r found]
  have after : (s.restarted limits).operations[a]? = some r.afterRestart := by
    rw [get_restarted, found, Option.map_some]
  have retired : (s.restarted limits).admission.retiredIndeterminate =
      s.admission.retiredIndeterminate := rfl
  rw [key, blockOf_of_get after, SafetyOperation.blocks]
  simp only [Bool.and_eq_true, decide_eq_true_eq, eq_indeterminate_iff]
  split
  · next both => exact iff_of_true both rfl
  · next either => exact iff_of_false either (by simp)

/-- The operations of a snapshot and the devices they block, read back. -/
theorem Coherent.restoreOperations_eq (limits : AdmissionLimits) :
    restoreOperations s.admission.retiredIndeterminate s.admission.snapshotOperations =
      some ((s.restarted limits).admission.operations,
        (s.restarted limits).admission.blockedByIndeterminate) := by
  have key : ∀ {a : String} {r : SafetyOperation}, s.operations[a]? = some r →
      r.afterRestart.admitted.operation.operationId = a := by
    intro a r found
    rw [admitted, afterRestart_operation, h.keyed a r found]
  have operations : collect (fun op : HubOperation => op.operation.operationId)
      (fun op => !op.state.isUnsettled) s.admission.snapshotOperations ∅ =
        some (s.restarted limits).admission.operations := by
    refine collect_values (f := fun r : SafetyOperation => r.afterRestart.admitted)
      (fun a r found => key found) h.snapshotOperations_perm ?_
    intro a r _
    have settled : r.afterRestart.state.isUnsettled = false := by
      rw [Bool.eq_false_iff, ne_eq, isUnsettled_iff, afterRestart_phase]
      split <;> decide
    simp [admitted, settled]
  set blocking := s.admission.snapshotOperations.filter fun op => op.state = .indeterminate &&
    op.operation.operationId ∉ s.admission.retiredIndeterminate with blocking_eq
  -- Two operations blocking one device would both be filed under it in the index.
  have once : s.admission.snapshotOperations.Nodup := by
    have ids : (s.admission.snapshotOperations.map fun op => op.operation.operationId).Nodup := by
      rw [(h.snapshotOperations_perm.map _).nodup_iff, List.map_map]
      refine nodup_values_map fun found found' same => ?_
      rw [← key found, ← key found']
      exact same
    exact ids.of_map _
  have distinct : (blocking.map fun op => op.operation.deviceId).Nodup := by
    refine (once.filter _).map_on fun op mem op' mem' device => ?_
    obtain ⟨blocks, listed⟩ := (h.mem_blocking limits).mp mem
    obtain ⟨blocks', listed'⟩ := (h.mem_blocking limits).mp mem'
    rw [← device] at blocks'
    have same := (h.blocked_restarted limits).injective blocks blocks'
    obtain ⟨a, r, found, rfl⟩ := h.mem_snapshotOperations.mp listed
    obtain ⟨a', r', found', rfl⟩ := h.mem_snapshotOperations.mp listed'
    rw [key found, key found'] at same
    rw [same, found', Option.some.injEq] at found
    rw [found]
  obtain ⟨u, collected, get⟩ := collect_of_accepted
    (fun op : HubOperation => op.operation.deviceId) (fun _ => true) (fun _ _ => rfl) distinct ∅ (fun _ _ => by simp)
  have blocked : (u.map fun _ op => op.operation.operationId) =
      (s.restarted limits).admission.blockedByIndeterminate := by
    apply ext_get
    intro d
    apply Option.ext
    intro a
    rw [(h.blocked_restarted limits) d a, Std.ExtTreeMap.getElem?_map, get d,
      Std.ExtTreeMap.getElem?_empty, Option.or_none, Option.map_eq_some_iff]
    constructor
    · rintro ⟨op, hit, rfl⟩
      have device := List.find?_some hit
      rw [decide_eq_true_eq] at device
      rw [← device]
      exact ((h.mem_blocking limits).mp (List.mem_of_find?_eq_some hit)).1
    · intro block
      have block' := block
      rw [blockOf, Option.bind_eq_some_iff] at block'
      obtain ⟨x, found, blocks⟩ := block'
      obtain ⟨r, old, rfl, -⟩ := phase_restarted found
      have device : r.afterRestart.admitted.operation.deviceId = d := by
        unfold SafetyOperation.blocks at blocks
        split at blocks
        · exact Option.some.inj blocks
        · cases blocks
      have mem : r.afterRestart.admitted ∈ blocking := by
        refine (h.mem_blocking limits).mpr ⟨?_, h.mem_snapshotOperations.mpr ⟨a, r, old, rfl⟩⟩
        rw [key old, device, block]
      cases hit : blocking.find? fun op => op.operation.deviceId = d with
      | none =>
        rw [List.find?_eq_none] at hit
        exact absurd (decide_eq_true device) (hit _ mem)
      | some op =>
        refine ⟨op, rfl, ?_⟩
        have same := List.find?_some hit
        rw [decide_eq_true_eq] at same
        have blocks' := ((h.mem_blocking limits).mp (List.mem_of_find?_eq_some hit)).1
        rw [same] at blocks'
        exact (h.blocked_restarted limits).injective blocks' block
  simp only [restoreOperations, operations, Option.bind_eq_bind,
    Option.bind_some, ← blocking_eq, collected, blocked]

/-- The admission ledger of a snapshot, read back. -/
theorem Coherent.restoreAdmission_eq {snapshot : HubAdmissionSnapshot}
    (taken : s.admission.snapshotForRestart = some snapshot) (limits : AdmissionLimits) :
    HubAdmissionController.restoreAfterRestart limits snapshot =
      if s.admission.retiredIndeterminate.size > maxRetiredOperationTombstones then
        .error .invalidSnapshot
      else match limits.validate with
        | .error e => .error e
        | .ok _ =>
          if s.admission.retiredIndeterminate.toList.any fun operationId =>
              (s.restarted limits).admission.operations[operationId]?.any fun op =>
                op.state ≠ .indeterminate then .error .invalidSnapshot
          else .ok (s.restarted limits).admission := by
  have retired := restoreRetired_eq taken
  have operations : snapshot.operations = s.admission.snapshotOperations := by
    simp only [HubAdmissionController.snapshotForRestart, Option.map_eq_some_iff] at taken
    obtain ⟨_, -, rfl⟩ := taken
    rfl
  unfold HubAdmissionController.restoreAfterRestart
  rw [retired]
  by_cases full : s.admission.retiredIndeterminate.size > maxRetiredOperationTombstones
  · simp only [if_pos full]
  · simp only [if_neg full, HubAdmissionController.new]
    cases validated : limits.validate with
    | error e => rfl
    | ok limits' =>
      obtain rfl : limits = limits' := by
        unfold AdmissionLimits.validate at validated
        split at validated <;> cases validated
        rfl
      simp only [Except.map, operations, h.restoreOperations_eq limits]
      split <;> rfl

end

/-- A ledger whose parts all agree. -/
structure Orderly (s : AuthoritativeOperationController) : Prop where
  coherent : s.Coherent
  sound : s.RecordsSound
  accounted : s.Accounted
  filed : s.Filed

theorem orderly_empty (limits : AdmissionLimits) : (empty limits).Orderly :=
  ⟨coherent_empty limits, recordsSound_empty limits, accounted_empty limits, filed_empty limits⟩

theorem Orderly.moves (h : s.Orderly) (m : Moves care s s') : s'.Orderly :=
  ⟨h.coherent.moves m, h.sound.moves m, h.accounted.moves h.coherent m, h.filed.moves h.coherent m⟩

theorem Orderly.restarted (h : s.Orderly) (limits : AdmissionLimits) :
    (s.restarted limits).Orderly :=
  ⟨h.coherent.restarted limits, h.sound.restarted limits, h.accounted.restarted limits,
    h.filed.restarted h.coherent limits⟩

theorem map_values_id {V : Type} (t : Table V) : (t.map fun _ v => v) = t :=
  ext_get fun a => by rw [Std.ExtTreeMap.getElem?_map, Option.map_id']

/-- A table written in the order of its own key and read back. -/
theorem eq_of_collect_sorted {V : Type} {key : V → String} {accept : V → Bool} {t u : Table V}
    (keyed : ∀ (k : String) (v : V), t[k]? = some v → key v = k)
    (collected : collect key accept (sortBy key t.values) ∅ = some u) : u = t := by
  have perm : (sortBy key t.values).Perm (t.values.map id) := by
    rw [List.map_id]
    exact sortBy_perm _ _
  rw [(eq_of_collect_values (f := id) keyed perm collected).1]
  exact map_values_id t

/-- The only ledger a snapshot can be read back as. -/
theorem Orderly.restore_eq (h : s.Orderly) {limits : AdmissionLimits}
    {snapshot : AuthoritativeSafetySnapshot} (taken : s.snapshotForRestart = some snapshot)
    (restored : restoreAfterRestart limits snapshot = .ok s') : s' = s.restarted limits := by
  simp only [snapshotForRestart, Option.map_eq_some_iff] at taken
  obtain ⟨admission, taken, rfl⟩ := taken
  obtain ⟨-, restored⟩ := Result.guard_eq_ok.mp restored
  split at restored
  · cases restored
  · next admission' admitted =>
    split at restored
    · cases restored
    · next ledger read =>
      cases restored
      have admission_eq : admission' = (s.restarted limits).admission := by
        rw [h.coherent.restoreAdmission_eq taken] at admitted
        split at admitted
        · cases admitted
        split at admitted
        · cases admitted
        · split at admitted
          · cases admitted
          · exact (Except.ok.inj admitted).symm
      simp only [restoreLedger, Option.bind_eq_bind, Option.bind_eq_some_iff] at read
      obtain ⟨operations, operations_eq, -, -, archive, archive_eq, -, -, quarantines,
        quarantines_eq, -, -, barriers, barriers_eq, -, -, -, -, read⟩ := read
      have operations_perm := sortBy_perm (fun record : SafetyOperation => record.operation.operationId)
        (s.operations.values.map afterRestart)
      obtain ⟨rfl, -⟩ := eq_of_collect_values (f := afterRestart)
        (fun a r found => by
          rw [afterRestart_operation]
          exact h.coherent.keyed a r found) operations_perm operations_eq
      obtain rfl := eq_of_collect_sorted (fun a entry found => (h.filed.archived a entry found).1)
        archive_eq
      obtain rfl := eq_of_collect_sorted (fun d q held =>
        ((h.filed.restarted h.coherent limits).quarantine d q held).1) quarantines_eq
      obtain rfl := eq_of_collect_sorted (fun d b up => (h.accounted.raised d b up).1) barriers_eq
      cases read
      rw [admission_eq]
      rfl

end AuthoritativeOperationController

end Gateway.Execution
