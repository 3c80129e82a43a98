import Gateway.Execution.Inspection
import Gateway.Execution.Survival

/-! What the reader of snapshots accepts.

A snapshot here is any value at all, whoever wrote it. `Reads` lists what an accepted
snapshot has shown of itself. Every list that becomes a table is read the same in any
order (`Reads.again`), so a ledger that was read can be written and read once more; what
the reader does not compare is what a later call can stumble over. -/
namespace Gateway.Execution
open Data Device HubAdmissionController ReplayDenyTombstone AuthoritativeSafetySnapshot Table
  MutationResumeBarrier
open AuthoritativeSafetySnapshot Result SafetyOperation ReplayDenyTombstone

/-! ### The admission ledger -/

namespace HubAdmissionController
variable {c : HubAdmissionController} {limits : AdmissionLimits} {snapshot : HubAdmissionSnapshot}

/-- The retired ids that are read can all be written, and there is room for them. -/
theorem of_restoreRetired {retired : Names} (read : restoreRetired snapshot = .ok retired) :
    retired.size ≤ maxRetiredOperationTombstones ∧ ∀ id ∈ retired, isRetirableId id = true := by
  obtain ⟨-, read⟩ := guard_eq_ok.mp read
  split at read
  · obtain ⟨few, read⟩ := guard_eq_ok.mp read
    split at read
    · cases read
    · next decoded eq =>
      obtain ⟨distinct, same⟩ := guard_eq_ok.mp read
      cases same
      obtain ⟨length, -, made⟩ := of_mapM_eq_ok eq
      refine ⟨by rw [not_not.mp distinct, length]; exact Nat.not_lt.mp few, fun id mem => ?_⟩
      rw [Std.ExtTreeSet.mem_ofList, List.contains_iff_mem] at mem
      obtain ⟨tombstone, -, named⟩ := made id mem
      exact isRetirableId_operationId named
  · obtain ⟨few, read⟩ := guard_eq_ok.mp read
    obtain ⟨fine, same⟩ := guard_eq_ok.mp read
    cases same
    obtain ⟨distinct, fine⟩ := not_or.mp fine
    refine ⟨by rw [not_not.mp distinct]; exact Nat.not_lt.mp few, fun id mem => ?_⟩
    simp only [List.any_eq_true, Std.ExtTreeSet.mem_toList, Bool.or_eq_true, decide_eq_true_eq,
      not_exists, not_and, not_or] at fine
    obtain ⟨named, short⟩ := fine id mem
    simp only [isRetirableId, named, Bool.not_false, Bool.true_and, decide_eq_true_eq]
    exact Nat.not_lt.mp short

/-- Tombstones that name one operation twice are refused. -/
theorem restoreRetired_of_repeated {i j : Nat} {first second : ReplayDenyTombstone} {id : String}
    (apart : i ≠ j) (one : snapshot.retiredIndeterminateTombstones[i]? = some first)
    (other : snapshot.retiredIndeterminateTombstones[j]? = some second)
    (named : first.operationId = .ok id) (again : second.operationId = .ok id) :
    restoreRetired snapshot = .error .invalidSnapshot := by
  have listed : ¬snapshot.retiredIndeterminateTombstones.isEmpty = true := by
    rw [List.isEmpty_iff]
    intro empty
    rw [empty] at one
    cases one
  unfold restoreRetired
  split
  · rfl
  split
  · rfl
  split
  · next e refused =>
    obtain ⟨t, -, failed⟩ := of_mapM_eq_error refused
    rw [eq_invalidSnapshot_of_error failed]
  · next decoded read =>
    -- the two ids stand at different places of the list that was read
    obtain ⟨a, at_i, eq⟩ := get_of_mapM read one
    obtain ⟨b, at_j, eq'⟩ := get_of_mapM read other
    rw [named, Except.ok.injEq] at eq
    rw [again, Except.ok.injEq] at eq'
    subst eq eq'
    refine if_pos fun size => apart ?_
    have within : i < decoded.length := (List.getElem?_eq_some_iff.mp at_i).1
    exact (List.getElem?_inj within (nodup_of_size size)).mp (at_i.trans at_j.symm)

/-- Persisted operations are read the same in any order. -/
theorem restoreOperations_of_perm {retired : Names} {persisted persisted' : List HubOperation}
    {read : Table HubOperation × Table String} (perm : persisted'.Perm persisted)
    (h : restoreOperations retired persisted = some read) :
    restoreOperations retired persisted' = some read := by
  simp only [restoreOperations, Option.bind_eq_bind, Option.bind_eq_some_iff] at h ⊢
  obtain ⟨operations, filed, blocking, blocks, eq⟩ := h
  exact ⟨operations, collect_of_perm perm filed, blocking,
    collect_of_perm (perm.filter _) blocks, eq⟩

/-- What a durable admission ledger has shown of itself when it is read. -/
theorem restoreAfterRestart_eq_ok : restoreAfterRestart limits snapshot = .ok c ↔
    ∃ fresh, new limits = .ok fresh ∧ restoreRetired snapshot = .ok c.retiredIndeterminate ∧
      restoreOperations c.retiredIndeterminate snapshot.operations =
        some (c.operations, c.blockedByIndeterminate) ∧
      (c.retiredIndeterminate.toList.any fun operationId =>
        c.operations[operationId]?.any fun op => op.state ≠ .indeterminate) = false ∧
      c = {fresh with
        operations := c.operations
        blockedByIndeterminate := c.blockedByIndeterminate
        retiredIndeterminate := c.retiredIndeterminate} := by
  unfold restoreAfterRestart
  constructor
  · intro read
    split at read
    · cases read
    · next retired retired_eq =>
      split at read
      · cases read
      · next fresh valid =>
        split at read
        · cases read
        · next operations blocked operations_eq =>
          obtain ⟨known, same⟩ := guard_eq_ok.mp read
          cases same
          exact ⟨fresh, valid, retired_eq, operations_eq, Bool.eq_false_iff.mpr known, rfl⟩
  · rintro ⟨fresh, valid, retired_eq, operations_eq, known, same⟩
    simp only [retired_eq, valid, operations_eq, known]
    rw [if_neg Bool.false_ne_true, ← same]

/-- What is settled or ambiguous is written as it is. -/
theorem stateAfterRestart_of_settled {state : HubOperationState} (done : state.isUnsettled = false)
    (read : Bool) : stateAfterRestart read state = state := by
  cases state <;> first | rfl | cases done

/-- The operations of a ledger that was read are written as they were. -/
theorem snapshotOperations_perm (read : restoreAfterRestart limits snapshot = .ok c) :
    c.snapshotOperations.Perm snapshot.operations := by
  obtain ⟨fresh, -, -, operations_eq, -⟩ := restoreAfterRestart_eq_ok.mp read
  simp only [restoreOperations, Option.bind_eq_bind, Option.bind_eq_some_iff, Option.some.injEq,
    Prod.mk.injEq] at operations_eq
  obtain ⟨operations, filed, _, -, rfl, -⟩ := operations_eq
  have settled : ∀ op ∈ c.operations.values, op.state.isUnsettled = false := by
    intro op mem
    have accepted := (of_collect filed).1 op ((values_collected filed).mem_iff.mp mem)
    simpa using accepted
  refine (sortBy_perm _ _).trans ?_
  rw [List.map_congr_left (g := id) fun op mem => by
    rw [stateAfterRestart_of_settled (settled op mem)]
    rfl]
  rw [List.map_id]
  exact values_collected filed

/-- An admission ledger that was read is written and read back as it is. -/
theorem restore_again (read : restoreAfterRestart limits snapshot = .ok c)
    {written : HubAdmissionSnapshot} (taken : c.snapshotForRestart = some written) :
    restoreAfterRestart limits written = .ok c := by
  obtain ⟨fresh, valid, retired, operations, known, same⟩ := restoreAfterRestart_eq_ok.mp read
  refine restoreAfterRestart_eq_ok.mpr ⟨fresh, valid, ?_, ?_, known, same⟩
  · rw [restoreRetired_eq taken, if_neg (Nat.not_lt.mpr (of_restoreRetired retired).1)]
  · rw [(of_snapshotForRestart taken).1]
    exact restoreOperations_of_perm (snapshotOperations_perm read) operations

/-- Tombstones are a lossless code: exactly the ids that may be retired have one, it is read back
as the id it was made from, every id that can be read back has one, and a list that names an id
twice is refused. -/
theorem tombstones_lossless (limits : AdmissionLimits) :
    (∀ id, (∃ tombstone, fromOperationId id = .ok tombstone) ↔
      isBlank id = false ∧ id.utf8ByteSize ≤ maxRetiredOperationIdBytes) ∧
    (∀ id tombstone, fromOperationId id = .ok tombstone →
      tombstone.operationId = .ok id) ∧
    (∀ id id' tombstone, fromOperationId id = .ok tombstone →
      fromOperationId id' = .ok tombstone → id = id') ∧
    (∀ (tombstone : ReplayDenyTombstone) (id : String), tombstone.operationId = .ok id →
      ∃ tombstone', fromOperationId id = .ok tombstone') ∧
    ∀ (snapshot : HubAdmissionSnapshot) (i j : Nat) (first second : ReplayDenyTombstone) (id : String),
      i ≠ j → snapshot.retiredIndeterminateTombstones[i]? = some first →
      snapshot.retiredIndeterminateTombstones[j]? = some second →
      first.operationId = .ok id → second.operationId = .ok id →
      restoreAfterRestart limits snapshot = .error .invalidSnapshot := by
  refine ⟨exists_fromOperationId_iff, ?_, ?_, ?_, ?_⟩
  · intro id tombstone made
    exact operationId_fromOperationId made
  · intro id id' tombstone made made'
    exact fromOperationId_injective made made'
  · intro tombstone id read
    exact exists_fromOperationId (isRetirableId_operationId read)
  · intro snapshot i j first second id apart one other named again
    rw [restoreAfterRestart, restoreRetired_of_repeated apart one other named again]

/-- A ledger that was read has no queues. -/
theorem queues_of_read (read : restoreAfterRestart limits snapshot = .ok c) :
    c.queuedByDevice = ∅ := by
  obtain ⟨fresh, valid, -, -, -, same⟩ := restoreAfterRestart_eq_ok.mp read
  obtain ⟨_, -, rfl⟩ := map_eq_ok.mp valid
  rw [same]
  rfl

theorem startFirst_of_no_queues (empty : c.queuedByDevice = ∅) (devices : List String) :
    startFirst devices c = (none, c) := by
  induction devices with
  | nil => rfl
  | cons deviceId rest ih =>
    have popped : c.popQueued deviceId = (none, c) := by
      rw [popQueued, empty]
      rfl
    rw [startFirst]
    split
    · exact ih
    · rw [popped]
      exact ih

/-- Where nothing waits, nothing is started. -/
theorem promote_of_no_queues (empty : c.queuedByDevice = ∅) (order : IterationOrder)
    (deviceId : String) : c.promote order deviceId = (.idle, c) := by
  have none_started : c.startNextForAvailableCapacity order (some deviceId) = (none, c) := by
    rw [startNextForAvailableCapacity]
    split
    · rfl
    · rw [startFirst_of_no_queues empty]
      exact startFirst_of_no_queues empty _
  rw [promote, none_started]

theorem unblock_of_no_queues (empty : c.queuedByDevice = ∅) (order : IterationOrder)
    (operationId : String) (op : HubOperation) (settled : HubOperationState) :
    c.unblock order operationId op settled = (.idle, {c.setState operationId op settled with
      blockedByIndeterminate := c.blockedByIndeterminate.erase op.operation.deviceId}) := by
  have still : ({c.setState operationId op settled with
      blockedByIndeterminate := c.blockedByIndeterminate.erase op.operation.deviceId} :
        HubAdmissionController).queuedByDevice = ∅ := empty
  exact promote_of_no_queues still order op.operation.deviceId

end HubAdmissionController

/-- The receipt is of the operation as it was settled. -/
structure SafetyOperation.Attested (record : SafetyOperation) (receipt : ExecutionReceipt) : Prop where
  operation : receipt.operation = record.operation
  owner : receipt.owner = record.owner
  capability : receipt.capability = record.capability
  terminalState : receipt.terminalState = record.state

/-- An operation read back is settled or ambiguous; one with a result is settled, and has a
receipt. -/
theorem SafetyOperation.of_isRestorable {r : SafetyOperation} (h : r.isRestorable = true) :
    r.state.isUnsettled = false ∧
      (∀ result, r.recoverableResult = some result →
        r.state ≠ .indeterminate ∧ r.receipt.isSome = true ∧
          result.isValidFor r.capability r.state = true) ∧
      r.semanticConstraint.all (·.isValidFor r.capability) = true := by
  simp only [isRestorable, Bool.and_eq_true, Bool.not_eq_true'] at h
  refine ⟨by simp only [h], fun result carried => ?_, by simp only [h]⟩
  simp only [carried, Option.all_some, Bool.and_eq_true, Option.isSome_some, Bool.and_true,
    decide_eq_false_iff_not] at h
  exact ⟨h.1.1.1.1.1.1.1.1.1.1.1.2, by simp only [h], by simp only [h]⟩

namespace AuthoritativeOperationController
variable {s : AuthoritativeOperationController} {limits : AdmissionLimits}
  {snapshot : AuthoritativeSafetySnapshot} {id : String} {r : SafetyOperation}

/-! ### An accepted snapshot -/

/-- What a snapshot has shown of itself when it is read back as a ledger. -/
structure Reads (limits : AdmissionLimits) (snapshot : AuthoritativeSafetySnapshot)
    (s : AuthoritativeOperationController) : Prop where
  admission : HubAdmissionController.restoreAfterRestart limits snapshot.admission = .ok s.admission
  operations : collect (fun record : SafetyOperation => record.operation.operationId)
    SafetyOperation.isRestorable snapshot.operations ∅ = some s.operations
  mirrors : AuthoritativeSafetySnapshot.mirrors s.admission s.operations = true
  archive : collect (fun archived : ArchivedOperationRecovery => archived.operation.operationId)
    (fun archived => archived.isValid && archived.operation.operationId ∉ s.operations)
    snapshot.recoveries ∅ = some s.recoveryArchive
  archiveFits : archiveFits s.recoveryArchive = true
  quarantines : collect DesktopQuarantine.deviceId
    (quarantineFits s.operations) snapshot.quarantines ∅ =
      some s.quarantines
  retirementsFit : snapshot.retirementsFit s.admission.retiredIndeterminate s.operations
    s.quarantines = true
  barriers : collect deviceId (snapshot.barrierFits s.quarantines)
    snapshot.mutationResumeBarriers ∅ = some s.mutationResumeBarriers
  resumesFit : snapshot.resumesFit = true
  autoResolutionsFit : snapshot.autoResolutionsFit s.operations = true
  resolutions : s.resolutions = snapshot.resolutions
  autoResolutions : s.autoResolutions = snapshot.autoResolutions
  retirements : s.retirements = snapshot.retirements
  mutationResumes : s.mutationResumes = snapshot.mutationResumes

theorem restoreAfterRestart_eq_ok : restoreAfterRestart limits snapshot = .ok s ↔
    snapshot.versionAdmits = true ∧ Reads limits snapshot s := by
  unfold restoreAfterRestart
  constructor
  · intro restored
    obtain ⟨admits, restored⟩ := guard_eq_ok.mp restored
    refine ⟨not_not.mp admits, ?_⟩
    split at restored
    · cases restored
    · next admission admitted =>
      split at restored
      · cases restored
      · next ledger read =>
        cases restored
        simp only [restoreLedger, Option.bind_eq_bind, Option.bind_eq_some_iff,
          Option.guard_eq_some'] at read
        obtain ⟨operations, operations_eq, -, mirrors, archive, archive_eq, -, archiveFits,
          quarantines, quarantines_eq, -, retirementsFit, barriers, barriers_eq, -, resumesFit, -,
          autoResolutionsFit, read⟩ := read
        cases read
        exact ⟨admitted, operations_eq, mirrors, archive_eq, archiveFits, quarantines_eq,
          retirementsFit, barriers_eq, resumesFit, autoResolutionsFit, rfl, rfl, rfl, rfl⟩
  · rintro ⟨admits, reads⟩
    rw [if_neg (not_not.mpr admits), reads.admission]
    have read : restoreLedger s.admission snapshot = some s := by
      simp only [restoreLedger, Option.bind_eq_bind, Option.bind_eq_some_iff, Option.guard_eq_some']
      refine ⟨_, reads.operations, (), reads.mirrors, _, reads.archive, (), reads.archiveFits, _,
        reads.quarantines, (), reads.retirementsFit, _, reads.barriers, (), reads.resumesFit, (),
        reads.autoResolutionsFit, ?_⟩
      rw [← reads.resolutions, ← reads.autoResolutions, ← reads.retirements, ← reads.mutationResumes]
    simp only [read]

/-! ### What a ledger that was read holds -/

theorem Reads.mem_operations (h : Reads limits snapshot s) :
    s.operations[id]? = some r ↔ r ∈ snapshot.operations ∧ r.operation.operationId = id :=
  get_collected h.operations

theorem Reads.isRestorable (h : Reads limits snapshot s) (mem : r ∈ snapshot.operations) :
    r.isRestorable = true :=
  (of_collect h.operations).1 r mem

theorem Reads.done (h : Reads limits snapshot s) : s.Done := by
  intro id r found
  exact (of_isRestorable (h.isRestorable (h.mem_operations.mp found).1)).1

theorem Reads.writable (h : Reads limits snapshot s) : s.Writable := by
  obtain ⟨_, -, retired, -⟩ := HubAdmissionController.restoreAfterRestart_eq_ok.mp h.admission
  obtain ⟨room, retirable⟩ := of_restoreRetired retired
  exact ⟨retirable, room⟩

variable {q : DesktopQuarantine}

section
variable (h : Reads limits snapshot s)
include h

/-- The operation of a quarantine is there, ambiguous, and of the same device, generation and
owner. -/
theorem Reads.quarantined_record (held : q ∈ snapshot.quarantines) :
    ∃ r, s.operations[q.operationId]? = some r ∧
      r.state = .indeterminate ∧ r.operation.deviceId = q.deviceId ∧
      r.operation.deviceGeneration = q.deviceGeneration ∧ r.owner = q.owner := by
  have fits := (of_collect h.quarantines).1 q held
  simp only [quarantineFits, Option.any_eq_true, Bool.and_eq_true,
    decide_eq_true_eq, and_assoc] at fits
  exact fits

/-- The admission ledger has each operation, in the same state. -/
theorem Reads.admitted (found : s.operations[id]? = some r) :
    s.admission.operations[id]? = some ⟨r.operation, r.state⟩ := by
  have listed := HubAdmissionController.snapshotOperations_perm h.admission
  obtain ⟨_, -, -, read, -⟩ := HubAdmissionController.restoreAfterRestart_eq_ok.mp h.admission
  simp only [HubAdmissionController.restoreOperations, Option.bind_eq_bind, Option.bind_eq_some_iff,
    Option.some.injEq, Prod.mk.injEq] at read
  obtain ⟨_, filed, _, -, rfl, -⟩ := read
  have mirrors := h.mirrors
  simp only [AuthoritativeSafetySnapshot.mirrors, Bool.and_eq_true, decide_eq_true_eq,
    List.all_eq_true, Option.any_eq_true] at mirrors
  obtain ⟨count, safe⟩ := mirrors
  -- As many names as there are operations, none of them twice, and each the name of an operation.
  set ids := s.admission.snapshotOperations.map fun op => op.operation.operationId with ids_eq
  have distinct : ids.Nodup := (listed.map _).nodup_iff.mpr (of_collect filed).2.1
  have within : ids ⊆ s.operations.keys := by
    intro a mem
    obtain ⟨op, among, rfl⟩ := List.mem_map.mp mem
    obtain ⟨record, known, -⟩ := safe op among
    exact Std.ExtTreeMap.mem_keys.mpr (mem_iff_get.mpr ⟨record, known⟩)
  have length : s.operations.keys.length ≤ ids.length := by
    rw [Std.ExtTreeMap.length_keys, List.length_map, count]
  have named : id ∈ ids := ((List.subperm_of_subset distinct within).perm_of_length_le length).mem_iff.mpr
    (Std.ExtTreeMap.mem_keys.mpr (mem_iff_get.mpr ⟨r, found⟩))
  obtain ⟨op, among, rfl⟩ := List.mem_map.mp named
  obtain ⟨record, known, operation, state⟩ := safe op among
  rw [found, Option.some.injEq] at known
  subst known
  rw [operation, state]
  exact (get_collected filed).mpr ⟨listed.mem_iff.mp among, rfl⟩

/-- A quarantined operation is not retired, and blocks its device. -/
theorem Reads.blocks {d : String} (held : s.quarantines[d]? = some q) :
    s.admission.blockedByIndeterminate[d]? = some q.operationId := by
  obtain ⟨listed, rfl⟩ := (get_collected h.quarantines).mp held
  obtain ⟨r, found, ambiguous, device, generation, -⟩ := h.quarantined_record listed
  have named := (h.mem_operations.mp found).2
  have fits := h.retirementsFit
  simp only [AuthoritativeSafetySnapshot.retirementsFit, Bool.and_eq_true, List.all_eq_true] at fits
  have fit := fits.1.1.2 r (mem_values.mpr ⟨_, found⟩)
  have unretired : q.operationId ∉ s.admission.retiredIndeterminate := by
    intro retired
    simp [ambiguityFits, ambiguous, device, held, named, generation, retired] at fit
  obtain ⟨_, -, -, read, -⟩ := HubAdmissionController.restoreAfterRestart_eq_ok.mp h.admission
  simp only [HubAdmissionController.restoreOperations, Option.bind_eq_bind, Option.bind_eq_some_iff,
    Option.some.injEq, Prod.mk.injEq] at read
  obtain ⟨_, filed, blocking, blocks, same, blocked⟩ := read
  subst same
  have admitted := (get_collected filed).mp (h.admitted found)
  have blocker : blocking[q.deviceId]? = some ⟨r.operation, r.state⟩ := by
    refine (get_collected blocks).mpr ⟨List.mem_filter.mpr ⟨admitted.1, ?_⟩, device⟩
    simp [ambiguous, named, unretired]
  rw [← blocked, Std.ExtTreeMap.getElem?_map, blocker]
  exact congrArg some named

/-- Evidence about a quarantined operation that waits for it settles the operation. -/
theorem Reads.reconciles {d : String} (held : s.quarantines[d]? = some q)
    (found : s.operations[q.operationId]? = some r) {terminal : AgentTerminalEvidence}
    (valid : terminal.isValid = true) (waiting : r.reconciliationStatus = some .autoReconciling)
    (operation : r.operation = terminal.operation) (capability : r.capability = terminal.capability)
    (bound : r.dispatchBinding = some terminal.dispatchBinding) (order : IterationOrder)
    (nowMs : Nat) : ∃ s', s.reconcileAuthoritativeTerminal order terminal nowMs =
        .ok ((.idle, r.receiptFor terminal.terminalState terminal.evidence nowMs), s') ∧
      s'.operations[q.operationId]? = some (r.reconcile terminal nowMs) := by
  obtain ⟨listed, rfl⟩ := (get_collected h.quarantines).mp held
  obtain ⟨x, also, ambiguous, device, generation, -⟩ := h.quarantined_record listed
  rw [found, Option.some.injEq] at also
  subst also
  have named := (h.mem_operations.mp found).2
  have pair : authoritativeAgentTerminalPair terminal.terminalState terminal.evidence = true := by
    simp only [AgentTerminalEvidence.isValid, Bool.and_eq_true] at valid
    exact valid.2
  have blocks := h.blocks held
  rw [← device] at held blocks
  rw [operation] at named generation blocks held
  have settled : s.admission.reconcileIndeterminateTerminal order q.operationId
      terminal.terminalState = .ok (s.admission.unblock order q.operationId ⟨r.operation, r.state⟩
        terminal.terminalState) := by
    simp only [reconcileIndeterminateTerminal,
      blockingOperation, h.admitted found, ambiguous, operation, blocks,
      isTerminal_of_authoritativeAgentTerminalPair pair, not_true_eq_false, if_false, ne_eq]
  unfold reconcileAuthoritativeTerminal
  rw [named, found]
  simp only [valid, ambiguous, waiting, operation, capability, bound, ne_eq,
    held, generation, settled,
    unblock_of_no_queues (queues_of_read h.admission)]
  refine ⟨_, rfl, ?_⟩
  exact get_insert_self _ _ _

/-! ### What the readers of a ledger need -/

/-- A quarantine can be shown exactly when its operation gives the same reason. -/
theorem Reads.quarantineInspection_ok (held : q ∈ snapshot.quarantines) :
    (∃ shown, s.quarantineInspection q = .ok shown) ↔
      ∀ r ∈ snapshot.operations, r.operation.operationId = q.operationId →
        r.indeterminateReason = some q.reason := by
  obtain ⟨r, found, ambiguous, device, generation, owner⟩ := h.quarantined_record held
  have only : ∀ x ∈ snapshot.operations, x.operation.operationId = q.operationId → x = r := by
    intro x mem named
    have also := h.mem_operations.mpr ⟨mem, named⟩
    rw [found, Option.some.injEq] at also
    exact also.symm
  simp only [quarantineInspection, found, ambiguous, device, generation, owner, ne_eq,
    not_true_eq_false, false_or]
  constructor
  · rintro ⟨shown, ok⟩ x mem named
    rw [only x mem named]
    exact not_not.mp (guard_eq_ok.mp ok).1
  · intro told
    obtain ⟨mem, named⟩ := h.mem_operations.mp found
    exact ⟨_, guard_eq_ok.mpr ⟨not_not.mpr (told r mem named), rfl⟩⟩

theorem Reads.quarantineInspections_ok : (∃ shown, s.quarantineInspections = .ok shown) ↔
      ∀ q ∈ snapshot.quarantines, ∀ r ∈ snapshot.operations,
        r.operation.operationId = q.operationId → r.indeterminateReason = some q.reason := by
  have listed : ∀ q, q ∈ sortBy DesktopQuarantine.deviceId s.quarantines.values ↔
      q ∈ snapshot.quarantines := by
    intro q
    rw [mem_sortBy, (values_collected h.quarantines).mem_iff]
  constructor
  · rintro ⟨shown, ok⟩ q held
    exact (h.quarantineInspection_ok held).mp ((of_mapM_eq_ok ok).2.1 q ((listed q).mpr held))
  · intro told
    exact ⟨_, mapM_eq_ok fun q mem =>
      (h.quarantineInspection_ok ((listed q).mp mem)).mpr (told q ((listed q).mp mem))⟩

/-- An ambiguous operation that is not retired quarantines its device. -/
theorem Reads.quarantine_of_ambiguous (found : s.operations[id]? = some r)
    (ambiguous : r.state = .indeterminate) (open_ : id ∉ s.admission.retiredIndeterminate) :
    ∃ q, s.quarantines[r.operation.deviceId]? = some q ∧ q.operationId = id ∧
      q.deviceGeneration = r.operation.deviceGeneration ∧ q.owner = r.owner := by
  have fits := h.retirementsFit
  simp only [AuthoritativeSafetySnapshot.retirementsFit, Bool.and_eq_true, List.all_eq_true] at fits
  have fit := fits.1.1.2 r (mem_values.mpr ⟨id, found⟩)
  have named := (h.mem_operations.mp found).2
  simp only [ambiguityFits, ambiguous, ne_eq, not_true_eq_false,
    decide_false, Bool.false_or, named, open_, bne_iff_ne] at fit
  have held := Bool.eq_true_of_not_eq_false fun none => fit none.symm
  obtain ⟨q, at_device, same⟩ := (Option.any_eq_true _ _).mp held
  simp only [Bool.and_eq_true, decide_eq_true_eq] at same
  obtain ⟨x, known, -, -, -, owner⟩ :=
    h.quarantined_record ((get_collected h.quarantines).mp at_device).1
  rw [same.1, found, Option.some.injEq] at known
  exact ⟨q, at_device, same.1, same.2, by rw [known]; exact owner.symm⟩

end

/-- Only valid entries are archived. -/
theorem valid_of_archiveEach {entries : List ArchivedOperationRecovery}
    {archive archive' : Table ArchivedOperationRecovery}
    (each : archiveEach entries archive = (.ok (), archive')) :
    ∀ archived ∈ entries, archived.isValid = true := by
  induction entries generalizing archive with
  | nil => simp
  | cons archived rest ih =>
    rw [archiveEach] at each
    split at each
    · cases each
    · next valid =>
      rw [List.forall_mem_cons]
      exact ⟨not_not.mp valid, ih each⟩

/-- A prune succeeds exactly when all the results it drops can be archived. -/
theorem prune_ok_iff {deviceId : String} {currentGeneration : Nat} (named : isBlank deviceId = false)
    (current : 0 < currentGeneration) :
    (∃ removed, (s.pruneTerminalBeforeGeneration deviceId currentGeneration).1 = .ok removed) ↔
      ∀ (id : String) (r : SafetyOperation), s.operations[id]? = some r →
        isPrunable deviceId currentGeneration r = true → r.recoverableResult.isSome = true →
          ∃ archived, archivedFor r = .ok archived ∧ archived.isValid = true := by
  have proper : ¬(isBlank deviceId = true ∨ currentGeneration = 0) := by
    rw [named]
    exact not_or.mpr ⟨Bool.false_ne_true, Nat.pos_iff_ne_zero.mp current⟩
  unfold pruneTerminalBeforeGeneration HubAdmissionController.pruneTerminalBeforeGeneration
  simp only [if_neg proper]
  set settled := s.operations.values.filter fun record =>
    isPrunable deviceId currentGeneration record && record.recoverableResult.isSome with settled_eq
  have mem_settled : ∀ r, r ∈ settled ↔ (∃ id : String, s.operations[id]? = some r) ∧
      isPrunable deviceId currentGeneration r = true ∧ r.recoverableResult.isSome = true := by
    intro r
    rw [List.mem_filter, Bool.and_eq_true, mem_values]
  constructor
  · rintro ⟨removed, ok⟩ id r found prunable result
    split at ok
    · cases ok
    · next toArchive mapped =>
      obtain ⟨-, given, -⟩ := of_mapM_eq_ok mapped
      have mem := (mem_settled r).mpr ⟨⟨id, found⟩, prunable, result⟩
      obtain ⟨archived, eq⟩ := given r mem
      refine ⟨archived, eq, ?_⟩
      split at ok
      · cases ok
      · next archive each =>
        refine valid_of_archiveEach each archived ?_
        rw [mapM_eq_ok given, Except.ok.injEq] at mapped
        rw [← mapped]
        exact List.mem_filterMap.mpr ⟨r, mem, by rw [eq]; rfl⟩
  · intro all
    have given : ∀ r ∈ settled, ∃ archived, archivedFor r = .ok archived ∧ archived.isValid = true := by
      intro r mem
      obtain ⟨⟨id, found⟩, prunable, result⟩ := (mem_settled r).mp mem
      exact all id r found prunable result
    have mapped := mapM_eq_ok fun r mem => (given r mem).imp fun _ both => both.1
    rw [mapped]
    dsimp only
    rw [archiveEach_ok]
    · exact ⟨_, rfl⟩
    · intro archived mem
      obtain ⟨r, mem, eq⟩ := List.mem_filterMap.mp mem
      obtain ⟨archived', eq', valid⟩ := given r mem
      rw [eq', Except.toOption, Option.some.injEq] at eq
      exact eq ▸ valid

theorem isTerminal_of_result (restorable : r.isRestorable = true)
    (result : r.recoverableResult.isSome = true) : r.state.isTerminal = true := by
  obtain ⟨value, carried⟩ := Option.isSome_iff_exists.mp result
  obtain ⟨done, held, -⟩ := of_isRestorable restorable
  obtain ⟨known, -⟩ := held value carried
  cases state : r.state with
  | completed => rfl
  | failed => rfl
  | cancelled => rfl
  | indeterminate => exact absurd state known
  | queued => rw [state] at done; cases done
  | activeNotDispatched => rw [state] at done; cases done
  | dispatched => rw [state] at done; cases done
  | cancelRequested => rw [state] at done; cases done

/-- A result read back can be archived exactly when its receipt is of this operation. -/
theorem archivable_iff (restorable : r.isRestorable = true) (terminal : r.state.isTerminal = true)
    (result : r.recoverableResult.isSome = true) :
    (∃ archived, archivedFor r = .ok archived ∧ archived.isValid = true) ↔
      ∀ receipt, r.receipt = some receipt → r.Attested receipt := by
  obtain ⟨value, carried⟩ := Option.isSome_iff_exists.mp result
  obtain ⟨-, held, constrained⟩ := of_isRestorable restorable
  obtain ⟨-, receipted, valid⟩ := held value carried
  obtain ⟨receipt, given⟩ := Option.isSome_iff_exists.mp receipted
  simp only [archivedFor, given, carried, Option.some.injEq, Except.ok.injEq, exists_eq_left',
    forall_eq', ArchivedOperationRecovery.isValid, terminal, valid, constrained, true_and, and_true,
    Bool.and_eq_true, decide_eq_true_eq]
  constructor
  · rintro ⟨⟨⟨operation, owner⟩, capability⟩, terminalState⟩
    exact ⟨operation, owner, capability, terminalState⟩
  · intro attested
    exact ⟨⟨⟨attested.operation, attested.owner⟩, attested.capability⟩, attested.terminalState⟩

/-! ### Writing it again -/

/-- Resumes are listed in the order they happened. -/
def InOrder (resumes : List MutationResumeRecord) : Prop :=
  resumes.Pairwise fun a b => a.resumedAtMs < b.resumedAtMs ∨
    a.resumedAtMs = b.resumedAtMs ∧ a.sourceOperationId ≤ b.sourceOperationId

theorem sortResumes_eq_self {resumes : List MutationResumeRecord} :
    sortResumes resumes = resumes ↔ InOrder resumes := by
  constructor
  · intro same
    let before (a b : MutationResumeRecord) : Prop := a.resumedAtMs < b.resumedAtMs ∨
      a.resumedAtMs = b.resumedAtMs ∧ a.sourceOperationId ≤ b.sourceOperationId
    have : Std.Total before := ⟨fun a b => by
      rcases Nat.lt_trichotomy a.resumedAtMs b.resumedAtMs with lt | eq | gt
      · exact .inl (.inl lt)
      · exact (String.le_total a.sourceOperationId b.sourceOperationId).imp
          (fun le => .inr ⟨eq, le⟩) fun le => .inr ⟨eq.symm, le⟩
      · exact .inr (.inl gt)⟩
    have : IsTrans MutationResumeRecord before := ⟨fun a b c ab bc => by
      rcases ab with ab | ⟨ab, le⟩
      · exact .inl (bc.elim ab.trans fun bc => bc.1 ▸ ab)
      · exact bc.imp (fun lt => ab ▸ lt) fun bc => ⟨ab.trans bc.1, String.le_trans le bc.2⟩⟩
    rw [← same]
    exact List.pairwise_insertionSort before resumes
  · exact List.Pairwise.insertionSort_eq

/-- The snapshot of a ledger that was read, with its operations as they were. -/
theorem Reads.snapshot_eq (h : Reads limits snapshot s)
    (stated : ∀ r ∈ snapshot.operations, r.state = .indeterminate → r.reconciliationStatus ≠ none)
    (ordered : InOrder snapshot.mutationResumes) :
    ∃ admission, s.admission.snapshotForRestart = some admission ∧
      s.snapshotForRestart = some (s.written admission) := by
  obtain ⟨admission, taken⟩ := h.writable.snapshot_isSome
  refine ⟨admission, taken, ?_⟩
  have operations : s.operations.values.map afterRestart = s.operations.values := by
    rw [List.map_congr_left (g := id) ?_, List.map_id]
    intro r mem
    obtain ⟨id, found⟩ := mem_values.mp mem
    exact afterRestart_of_done (h.done id r found) (stated r (h.mem_operations.mp found).1)
  have quarantines : s.quarantinesAfterRestart = s.quarantines := by
    apply ext_get
    intro d
    refine quarantined_of_not_lost fun id r found lost => ?_
    have sent := (isLostByRestart_iff.mp lost).1
    exact absurd (isUnsettled_of_isInFlight sent) (Bool.eq_false_iff.mp (h.done id r found))
  rw [snapshotForRestart, taken, operations, quarantines, h.mutationResumes,
    sortResumes_eq_self.mpr ordered, ← h.mutationResumes]
  rfl

theorem Reads.resumesFit_again (h : Reads limits snapshot s) (admission : HubAdmissionSnapshot) :
    (s.written admission).resumesFit = true := by
  have perm : ((s.written admission).mutationResumeBarriers.map
      sourceOperationId).Perm
      (snapshot.mutationResumeBarriers.map sourceOperationId) :=
    ((sortBy_perm _ _).trans (values_collected h.barriers)).map _
  have fits := h.resumesFit
  simp only [AuthoritativeSafetySnapshot.resumesFit, perm.nodup_iff, perm.mem_iff] at fits ⊢
  simpa only [written, h.mutationResumes, h.retirements] using fits

/-- A ledger that was read is accepted again as it is written. -/
theorem Reads.again (h : Reads limits snapshot s) {admission : HubAdmissionSnapshot}
    (taken : s.admission.snapshotForRestart = some admission) :
    Reads limits (s.written admission) s where
  admission := restore_again h.admission taken
  operations := collect_of_perm
    ((sortBy_perm _ _).trans (values_collected h.operations)) h.operations
  mirrors := h.mirrors
  archive := collect_of_perm ((sortBy_perm _ _).trans (values_collected h.archive)) h.archive
  archiveFits := h.archiveFits
  quarantines := collect_of_perm
    ((sortBy_perm _ _).trans (values_collected h.quarantines)) h.quarantines
  retirementsFit := by
    have fits := h.retirementsFit
    have same : (s.written admission).retirementFits s.operations s.quarantines =
        snapshot.retirementFits s.operations s.quarantines := by
      funext retirement
      simp only [retirementFits, written, h.resolutions, h.autoResolutions]
    simp only [AuthoritativeSafetySnapshot.retirementsFit, Bool.and_eq_true, same] at fits ⊢
    simp only [written, h.retirements, h.mutationResumes]
    exact ⟨⟨⟨⟨fits.1.1.1.1, rfl⟩, fits.1.1.2⟩, fits.1.2⟩, fits.2⟩
  barriers := by
    have same : (s.written admission).barrierFits s.quarantines = snapshot.barrierFits s.quarantines := by
      funext barrier
      simp only [barrierFits, written, h.retirements]
    rw [same]
    exact collect_of_perm ((sortBy_perm _ _).trans (values_collected h.barriers)) h.barriers
  resumesFit := h.resumesFit_again admission
  autoResolutionsFit := by
    have fits := h.autoResolutionsFit
    simpa only [AuthoritativeSafetySnapshot.autoResolutionsFit, written, h.autoResolutions] using fits
  resolutions := rfl
  autoResolutions := rfl
  retirements := rfl
  mutationResumes := rfl

/-! ### Ledgers their readers can use -/

/-- Everything that is asked of a ledger after a restart succeeds: its quarantines are shown,
its settled operations are pruned, it is written and read back as it is, and each ambiguous
operation that is not retired quarantines its device for its own reason. -/
structure Usable (limits : AdmissionLimits) (s : AuthoritativeOperationController) : Prop where
  inspected : ∃ shown, s.quarantineInspections = .ok shown
  pruned : ∀ (deviceId : String) (currentGeneration : Nat), isBlank deviceId = false →
    0 < currentGeneration → currentGeneration < 2 ^ 64 →
      ∃ removed, (s.pruneTerminalBeforeGeneration deviceId currentGeneration).1 = .ok removed
  restored : ∃ written, s.snapshotForRestart = some written ∧ restoreAfterRestart limits written = .ok s
  quarantined : ∀ (id : String) (r : SafetyOperation), s.operations[id]? = some r →
    r.state = .indeterminate → id ∉ s.admission.retiredIndeterminate →
      ∃ q, s.quarantines[r.operation.deviceId]? = some q ∧ q.operationId = id ∧
        q.deviceGeneration = r.operation.deviceGeneration ∧ q.owner = r.owner ∧
        r.indeterminateReason = some q.reason

/-- What the reader does not compare: a quarantine and its operation give one reason, a result
that can be pruned has a receipt of its operation, an ambiguous operation says how it is to be
reconciled, and the resumes are in order. -/
structure Faithful (snapshot : AuthoritativeSafetySnapshot) : Prop where
  reasons : ∀ q ∈ snapshot.quarantines, ∀ r ∈ snapshot.operations,
    r.operation.operationId = q.operationId → r.indeterminateReason = some q.reason
  receipts : ∀ r ∈ snapshot.operations, r.recoverableResult.isSome = true →
    isBlank r.operation.deviceId = false → r.operation.deviceGeneration < 2 ^ 64 - 1 →
      ∀ receipt, r.receipt = some receipt → r.Attested receipt
  statuses : ∀ r ∈ snapshot.operations, r.state = .indeterminate → r.reconciliationStatus ≠ none
  ordered : InOrder snapshot.mutationResumes

/-- Every result that is pruned on some call has a receipt of its operation, or some prune
fails. -/
theorem Reads.pruned_iff (h : Reads limits snapshot s) :
    (∀ (deviceId : String) (currentGeneration : Nat), isBlank deviceId = false →
      0 < currentGeneration → currentGeneration < 2 ^ 64 →
        ∃ removed, (s.pruneTerminalBeforeGeneration deviceId currentGeneration).1 = .ok removed) ↔
      ∀ r ∈ snapshot.operations, r.recoverableResult.isSome = true →
        isBlank r.operation.deviceId = false → r.operation.deviceGeneration < 2 ^ 64 - 1 →
          ∀ receipt, r.receipt = some receipt → r.Attested receipt := by
  constructor
  · intro pruned r mem result named young
    have terminal := isTerminal_of_result (h.isRestorable mem) result
    have found := h.mem_operations.mpr ⟨mem, rfl⟩
    refine (archivable_iff (h.isRestorable mem) terminal result).mp ?_
    have later := Nat.succ_pos r.operation.deviceGeneration
    refine (prune_ok_iff named later).mp (pruned _ _ named later (by omega)) _ r found ?_ result
    simp [isPrunable, terminal]
  · intro attested deviceId currentGeneration named current small
    refine (prune_ok_iff named current).mpr fun id r found prunable result => ?_
    have mem := (h.mem_operations.mp found).1
    simp only [isPrunable, Bool.and_eq_true, decide_eq_true_eq] at prunable
    refine (archivable_iff (h.isRestorable mem) prunable.2 result).mpr ?_
    exact attested r mem result (by rw [prunable.1.1]; exact named) (by omega)

/-- What is written as ambiguous says how it is to be reconciled. -/
theorem stated_of_snapshot {written : AuthoritativeSafetySnapshot}
    (taken : s.snapshotForRestart = some written) (mem : r ∈ written.operations)
    (ambiguous : r.state = .indeterminate) : r.reconciliationStatus ≠ none := by
  simp only [snapshotForRestart, Option.map_eq_some_iff] at taken
  obtain ⟨admission, -, rfl⟩ := taken
  rw [mem_sortBy] at mem
  obtain ⟨x, -, rfl⟩ := List.mem_map.mp mem
  cases state : x.state <;> simp only [afterRestart, state] at ambiguous ⊢
  case indeterminate => exact Option.some_ne_none _
  case dispatched | cancelRequested =>
    split at ambiguous
    · cases ambiguous
    · next normal =>
      rw [if_neg normal]
      exact Option.some_ne_none _
  all_goals cases ambiguous

/-- What is read can be used exactly when the snapshot is faithful where nobody looks. -/
theorem usable_iff_faithful (restored : restoreAfterRestart limits snapshot = .ok s) :
    s.Usable limits ↔ Faithful snapshot := by
  obtain ⟨-, h⟩ := restoreAfterRestart_eq_ok.mp restored
  constructor
  · intro usable
    obtain ⟨written, taken, again⟩ := usable.restored
    obtain ⟨-, reads⟩ := restoreAfterRestart_eq_ok.mp again
    refine ⟨h.quarantineInspections_ok.mp usable.inspected, h.pruned_iff.mp usable.pruned, ?_, ?_⟩
    · intro r mem
      have kept := (reads.mem_operations.mp (h.mem_operations.mpr ⟨mem, rfl⟩)).1
      exact stated_of_snapshot taken kept
    · rw [← h.mutationResumes]
      refine sortResumes_eq_self.mp ?_
      have written_resumes := reads.mutationResumes
      simp only [snapshotForRestart, Option.map_eq_some_iff] at taken
      obtain ⟨admission, -, rfl⟩ := taken
      exact written_resumes.symm
  · intro faithful
    obtain ⟨admission, taken, written_eq⟩ := h.snapshot_eq faithful.statuses faithful.ordered
    refine ⟨h.quarantineInspections_ok.mpr faithful.reasons, h.pruned_iff.mpr faithful.receipts,
      ⟨_, written_eq, restoreAfterRestart_eq_ok.mpr ⟨?_, h.again taken⟩⟩, ?_⟩
    · exact versionAdmits_of_current rfl
        (of_snapshotForRestart taken).2
    · intro id r found ambiguous open_
      obtain ⟨q, held, names, generation, owner⟩ := h.quarantine_of_ambiguous found ambiguous open_
      refine ⟨q, held, names, generation, owner, ?_⟩
      obtain ⟨mem, named⟩ := h.mem_operations.mp found
      exact faithful.reasons q ((get_collected h.quarantines).mp held).1 r mem
        (named.trans names.symm)

/-- A scroll that may have happened, and a quarantine of its device for the given reason. -/
def lostScroll (reason : IndeterminateReason) : AuthoritativeSafetySnapshot where
  schemaVersion := executionSafetySchemaVersion
  admission := ⟨[⟨⟨"desk", 1, "x"⟩, .indeterminate⟩], [], []⟩
  operations := [{
    operation := ⟨"desk", 1, "x"⟩
    owner := alice
    capability := .scroll
    executionLane := .normal
    state := .indeterminate
    preparedAtMs := 1
    dispatchedAtMs := some 1
    indeterminateReason := some .backendOutcomeUnproven
    receipt := none
    recoverableResult := none
    audit := ⟨none, none, none⟩
    requestFingerprint := none
    evidenceEnvelope := none
    recoveryTargetRequired := false
    recoveryTarget := none
    semanticConstraint := none
    dispatchBinding := none
    reconciliationStatus := some .operatorRequired }]
  recoveries := []
  quarantines := [⟨"desk", "x", 1, alice, reason, 1⟩]
  resolutions := []
  autoResolutions := []
  retirements := []
  mutationResumeBarriers := []
  mutationResumes := []

/-- A lost scroll with the reason of its quarantine is read back and can be used. -/
theorem usable_lostScroll : ∃ s,
    restoreAfterRestart ⟨1, 1⟩ (lostScroll .backendOutcomeUnproven) = .ok s ∧ s.Usable ⟨1, 1⟩ := by
  obtain ⟨s, restored⟩ := Result.exists_of_isOk
    (x := restoreAfterRestart ⟨1, 1⟩ (lostScroll .backendOutcomeUnproven)) (by decide +kernel)
  refine ⟨s, restored, (usable_iff_faithful restored).mpr ⟨?_, ?_, ?_, List.Pairwise.nil⟩⟩
  · simp [lostScroll]
  · simp [lostScroll]
  · simp [lostScroll]

/-- A quarantine for another reason is read back and cannot be shown. -/
theorem lostScroll_unshown : ∃ s,
    restoreAfterRestart ⟨1, 1⟩ (lostScroll .connectionLost) = .ok s ∧
      s.quarantineInspections = .error .invalidSnapshot ∧ ¬s.Usable ⟨1, 1⟩ := by
  have shown : (restoreAfterRestart ⟨1, 1⟩ (lostScroll .connectionLost)).map
      quarantineInspections = .ok (.error .invalidSnapshot) := by decide +kernel
  cases restored : restoreAfterRestart ⟨1, 1⟩ (lostScroll .connectionLost) with
  | error e =>
    rw [restored] at shown
    cases shown
  | ok s =>
    rw [restored] at shown
    have refused := Except.ok.inj shown
    refine ⟨s, rfl, refused, fun usable => ?_⟩
    obtain ⟨list, ok⟩ := usable.inspected
    rw [refused] at ok
    cases ok

end AuthoritativeOperationController

end Gateway.Execution
