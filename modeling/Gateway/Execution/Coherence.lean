import Gateway.Data.Index
import Gateway.Execution.Promotion
import Gateway.Execution.Restart

/-! The two ledgers say the same.

The admission ledger's maps and sets are functions of the authoritative records:
the active map is the inverse of "which device's slot does this operation hold",
the blocked map of "which device does this operation block", and so on.
`Coherent` states that, together with the fences that make it survive every
transition. Each transition is made of a few moves, one record at a time, and
each move is shown here to keep the ledgers coherent. -/
namespace Gateway.Execution
open Data Device HubOperationState SafetyOperation Table DesktopQuarantine

/-- What a state means for scheduling. -/
inductive Phase where
  | waiting | running | settled | ambiguous
  deriving DecidableEq

def HubOperationState.phase : HubOperationState → Phase
  | .queued => .waiting
  | .activeNotDispatched | .dispatched | .cancelRequested => .running
  | .completed | .failed | .cancelled => .settled
  | .indeterminate => .ambiguous

namespace HubOperationState

theorem isTerminal_iff (s : HubOperationState) : s.isTerminal = true ↔ s.phase = .settled := by
  cases s <;> decide

theorem isUnsettled_iff (s : HubOperationState) :
    s.isUnsettled = true ↔ s.phase = .waiting ∨ s.phase = .running := by
  cases s <;> decide

theorem eq_queued_iff (s : HubOperationState) : s = .queued ↔ s.phase = .waiting := by
  cases s <;> decide

theorem eq_indeterminate_iff (s : HubOperationState) : s = .indeterminate ↔ s.phase = .ambiguous := by
  cases s <;> decide

theorem phase_of_isInFlight {s : HubOperationState} (h : s.isInFlight = true) :
    s.phase = .running := by
  cases s <;> first | rfl | cases h

end HubOperationState

namespace SafetyOperation

/-- How the admission ledger sees a record. -/
def admitted (r : SafetyOperation) : HubOperation :=
  ⟨r.operation, r.state⟩

/-- The device whose slot a record holds. -/
def slot (r : SafetyOperation) : Option String :=
  if r.state.phase = .running then some r.operation.deviceId else none

/-- The place in a queue a record holds. -/
def waits (r : SafetyOperation) : Option OperationRef :=
  if r.state.phase = .waiting then some r.operation else none

/-- The device a record blocks, under a set of retired ids. -/
def blocks (retired : Names) (id : String) (r : SafetyOperation) : Option String :=
  if r.state.phase = .ambiguous ∧ id ∉ retired then some r.operation.deviceId else none

/-- An unsettled recovery read. -/
def reads (r : SafetyOperation) : Bool :=
  r.state.isUnsettled && r.executionLane = .recoveryEvidenceRead

variable {r : SafetyOperation}

theorem slot_of_running (h : r.state.phase = .running) :
    r.slot = some r.operation.deviceId := if_pos h

theorem slot_of_not_running (h : r.state.phase ≠ .running) : r.slot = none := if_neg h

theorem waits_of_not_waiting (h : r.state.phase ≠ .waiting) : r.waits = none := if_neg h

theorem blocks_of_not_ambiguous {retired : Names} {id : String} (h : r.state.phase ≠ .ambiguous) :
    r.blocks retired id = none :=
  if_neg fun both => h both.1

theorem reads_of_settled (h : r.state.isUnsettled = false) : r.reads = false := by
  simp [reads, h]

theorem reads_of_normal (h : r.executionLane = .normal) : r.reads = false := by
  simp [reads, h]

end SafetyOperation

theorem HubOperationState.not_unsettled_of_phase {s : HubOperationState} {p : Phase}
    (h : s.phase = p) (hw : p ≠ .waiting) (hr : p ≠ .running) : s.isUnsettled = false := by
  rw [Bool.eq_false_iff, ne_eq, isUnsettled_iff, h]
  simp [hw, hr]

namespace AuthoritativeOperationController
variable (s : AuthoritativeOperationController)

def slotOf (id : String) : Option String :=
  s.operations[id]?.bind slot

def waitingOf (id : String) : Option OperationRef :=
  s.operations[id]?.bind SafetyOperation.waits

def blockOf (id : String) : Option String :=
  s.operations[id]?.bind (blocks s.admission.retiredIndeterminate id)

def readsOf (id : String) : Bool :=
  s.operations[id]?.any reads

/-- The admission ledger is what the authoritative records make it. -/
structure Coherent : Prop where
  /-- A record is filed under its own id. -/
  keyed : ∀ (id : String) (r : SafetyOperation), s.operations[id]? = some r → r.operation.operationId = id
  mirrored : ∀ id : String, s.admission.operations[id]? = s.operations[id]?.map admitted
  active : Inverse s.admission.activeByDevice s.slotOf
  blocked : Inverse s.admission.blockedByIndeterminate s.blockOf
  quarantined : ∀ d : String, s.admission.blockedByIndeterminate[d]? =
    s.quarantines[d]?.map operationId
  waiting : ∀ (d : String) (op : OperationRef), op ∈ s.admission.queueOf d ↔
    s.waitingOf op.operationId = some op ∧ op.deviceId = d
  waitingOnce : ∀ d : String, (s.admission.queueOf d).Nodup
  recovery : ∀ id : String, id ∈ s.admission.recoveryReadOnlyOperations ↔ s.readsOf id = true
  capacity : s.admission.activeByDevice.size ≤ s.admission.limits.maxGlobalActive
  room : ∀ d : String, (s.admission.queueOf d).length ≤ s.admission.limits.maxQueuedPerDevice
  /-- Nothing but recovery reads is unsettled on a quarantined device. -/
  fenced : ∀ (id : String) (r : SafetyOperation), s.operations[id]? = some r →
    r.executionLane = .normal → r.state.isUnsettled = true →
      s.quarantines[r.operation.deviceId]? = none
  /-- Recovery reads only observe; they never wait and never become ambiguous. -/
  reading : ∀ (id : String) (r : SafetyOperation), s.operations[id]? = some r →
    r.executionLane = .recoveryEvidenceRead →
      r.capability.isRecoveryEvidenceReadOnly = true ∧ r.state.phase ≠ .waiting ∧
        r.state.phase ≠ .ambiguous
  /-- An ordinary operation whose id is retired is still ambiguous. -/
  denied : ∀ (id : String) (r : SafetyOperation), s.operations[id]? = some r →
    id ∈ s.admission.retiredIndeterminate → r.executionLane = .normal → r.state.phase = .ambiguous

variable {s} {s' : AuthoritativeOperationController} {id : String} {r r' : SafetyOperation}

/-! ### Views after a record changes -/

section
variable (h : s'.operations = s.operations.insert id r')
include h

theorem slotOf_insert : s'.slotOf = Function.update s.slotOf id r'.slot := by
  funext a
  rw [slotOf, h, get_insert]
  by_cases ha : id = a
  · simp [ha]
  · simp [ha, Ne.symm ha, slotOf]

theorem waitingOf_insert : s'.waitingOf = Function.update s.waitingOf id r'.waits := by
  funext a
  rw [waitingOf, h, get_insert]
  by_cases ha : id = a
  · simp [ha]
  · simp [ha, Ne.symm ha, waitingOf]

theorem blockOf_insert
    (retired : s'.admission.retiredIndeterminate = s.admission.retiredIndeterminate) : s'.blockOf =
      Function.update s.blockOf id (r'.blocks s.admission.retiredIndeterminate id) := by
  funext a
  rw [blockOf, h, get_insert, retired]
  by_cases ha : id = a
  · simp [ha]
  · simp [ha, Ne.symm ha, blockOf]

theorem readsOf_insert (a : String) : s'.readsOf a = if id = a then r'.reads else s.readsOf a := by
  rw [readsOf, h, get_insert]
  by_cases ha : id = a
  · simp [ha]
  · simp [ha, readsOf]

end

/-- What the views say about the record that is there. -/
theorem slotOf_of_get (h : s.operations[id]? = some r) : s.slotOf id = r.slot := by
  rw [slotOf, h, Option.bind_some]

theorem waitingOf_of_get (h : s.operations[id]? = some r) : s.waitingOf id = r.waits := by
  rw [waitingOf, h, Option.bind_some]

theorem blockOf_of_get (h : s.operations[id]? = some r) :
    s.blockOf id = r.blocks s.admission.retiredIndeterminate id := by
  rw [blockOf, h, Option.bind_some]

theorem readsOf_of_get (h : s.operations[id]? = some r) : s.readsOf id = r.reads := by
  rw [readsOf, h, Option.any_some]

/-! ### Moves -/

/-- Both ledgers file `r'` under `id`; retired ids and limits stay. -/
structure Change (s s' : AuthoritativeOperationController) (id : String) (r' : SafetyOperation) :
    Prop where
  operations : s'.operations = s.operations.insert id r'
  admitted : s'.admission.operations = s.admission.operations.insert id r'.admitted
  retired : s'.admission.retiredIndeterminate = s.admission.retiredIndeterminate
  limits : s'.admission.limits = s.admission.limits

/-- A changed ledger is coherent when its indexes follow the new record. -/
theorem Coherent.change (h : s.Coherent) (m : Change s s' id r')
    (key : r'.operation.operationId = id)
    (active : Inverse s'.admission.activeByDevice (Function.update s.slotOf id r'.slot))
    (blocked : Inverse s'.admission.blockedByIndeterminate
      (Function.update s.blockOf id (r'.blocks s.admission.retiredIndeterminate id)))
    (quarantined : ∀ d : String, s'.admission.blockedByIndeterminate[d]? =
      s'.quarantines[d]?.map operationId)
    (waiting : ∀ (d : String) (op : OperationRef), op ∈ s'.admission.queueOf d ↔
      Function.update s.waitingOf id r'.waits op.operationId = some op ∧ op.deviceId = d)
    (waitingOnce : ∀ d : String, (s'.admission.queueOf d).Nodup)
    (recovery : ∀ a : String, a ∈ s'.admission.recoveryReadOnlyOperations ↔
      (if id = a then r'.reads else s.readsOf a) = true)
    (capacity : s'.admission.activeByDevice.size ≤ s.admission.limits.maxGlobalActive)
    (room : ∀ d : String, (s'.admission.queueOf d).length ≤ s.admission.limits.maxQueuedPerDevice)
    (fenced : r'.executionLane = .normal → r'.state.isUnsettled = true →
      s'.quarantines[r'.operation.deviceId]? = none)
    (others : ∀ (a : String) (r : SafetyOperation), a ≠ id → s.operations[a]? = some r →
      r.executionLane = .normal → r.state.isUnsettled = true →
        s'.quarantines[r.operation.deviceId]? = none)
    (reading : r'.executionLane = .recoveryEvidenceRead →
      r'.capability.isRecoveryEvidenceReadOnly = true ∧ r'.state.phase ≠ .waiting ∧
        r'.state.phase ≠ .ambiguous)
    (denied : id ∈ s.admission.retiredIndeterminate → r'.executionLane = .normal →
      r'.state.phase = .ambiguous) : s'.Coherent := by
  -- Every clause about records is about `r'` at `id` and about the old records elsewhere.
  have split_get : ∀ (a : String) (x : SafetyOperation), s'.operations[a]? = some x →
      (a = id ∧ x = r') ∨ (a ≠ id ∧ s.operations[a]? = some x) := by
    intro a x hx
    rw [m.operations, get_insert] at hx
    by_cases ha : id = a
    · rw [if_pos ha] at hx
      exact .inl ⟨ha.symm, (Option.some.inj hx).symm⟩
    · rw [if_neg ha] at hx
      exact .inr ⟨Ne.symm ha, hx⟩
  constructor
  case keyed =>
    intro a x hx
    rcases split_get a x hx with ⟨rfl, rfl⟩ | ⟨-, hx⟩
    · exact key
    · exact h.keyed a x hx
  case mirrored =>
    intro a
    rw [m.operations, m.admitted, get_insert, get_insert]
    split
    · rfl
    · exact h.mirrored a
  case active => rwa [slotOf_insert m.operations]
  case blocked => rwa [blockOf_insert m.operations m.retired]
  case quarantined => exact quarantined
  case waiting => rwa [waitingOf_insert m.operations]
  case waitingOnce => exact waitingOnce
  case recovery =>
    intro a
    rw [recovery a, readsOf_insert m.operations]
  case capacity => rwa [m.limits]
  case room => rwa [m.limits]
  case fenced =>
    intro a x hx lane unsettled
    rcases split_get a x hx with ⟨rfl, rfl⟩ | ⟨other, hx⟩
    · exact fenced lane unsettled
    · exact others a x other hx lane unsettled
  case reading =>
    intro a x hx lane
    rcases split_get a x hx with ⟨rfl, rfl⟩ | ⟨-, hx⟩
    · exact reading lane
    · exact h.reading a x hx lane
  case denied =>
    intro a x hx retired lane
    rw [m.retired] at retired
    rcases split_get a x hx with ⟨rfl, rfl⟩ | ⟨-, hx⟩
    · exact denied retired lane
    · exact h.denied a x hx retired lane

/-- A change that keeps who and what the operation is. -/
structure Recast (s s' : AuthoritativeOperationController) (id : String) (r r' : SafetyOperation) :
    Prop extends Change s s' id r' where
  old : s.operations[id]? = some r
  operation : r'.operation = r.operation
  lane : r'.executionLane = r.executionLane
  capability : r'.capability = r.capability
  owner : r'.owner = r.owner

theorem Recast.key (m : Recast s s' id r r') (h : s.Coherent) : r'.operation.operationId = id := by
  rw [m.operation, h.keyed id r m.old]

/-- The record changes within its phase; no index moves. -/
structure Restate (s s' : AuthoritativeOperationController) (id : String) (r r' : SafetyOperation) :
    Prop extends Recast s s' id r r' where
  phase : r'.state.phase = r.state.phase
  active : s'.admission.activeByDevice = s.admission.activeByDevice
  blocked : s'.admission.blockedByIndeterminate = s.admission.blockedByIndeterminate
  queues : ∀ d : String, s'.admission.queueOf d = s.admission.queueOf d
  recovery : s'.admission.recoveryReadOnlyOperations = s.admission.recoveryReadOnlyOperations
  quarantines : s'.quarantines = s.quarantines

theorem Coherent.restate (h : s.Coherent) (m : Restate s s' id r r') : s'.Coherent := by
  have slot : r'.slot = s.slotOf id := by
    simp only [slotOf_of_get m.old, slot, m.phase, m.operation]
  have blocks : r'.blocks s.admission.retiredIndeterminate id = s.blockOf id := by
    simp only [blockOf_of_get m.old, blocks, m.phase, m.operation]
  have waits : r'.waits = s.waitingOf id := by
    simp only [waitingOf_of_get m.old, SafetyOperation.waits, m.phase, m.operation]
  have unsettled : r'.state.isUnsettled = r.state.isUnsettled := by
    rw [Bool.eq_iff_iff, isUnsettled_iff, isUnsettled_iff, m.phase]
  have reads : r'.reads = r.reads := by
    simp only [reads, unsettled, m.lane]
  apply h.change m.toChange (m.key h)
  case active => rw [m.active, slot, Function.update_eq_self]; exact h.active
  case blocked => rw [m.blocked, blocks, Function.update_eq_self]; exact h.blocked
  case quarantined => rw [m.blocked, m.quarantines]; exact h.quarantined
  case waiting =>
    intro d op
    rw [m.queues, waits, Function.update_eq_self]
    exact h.waiting d op
  case waitingOnce => intro d; rw [m.queues]; exact h.waitingOnce d
  case recovery =>
    intro a
    rw [m.recovery, h.recovery a]
    split
    · next same => rw [← same, readsOf_of_get m.old, reads]
    · rfl
  case capacity => rw [m.active]; exact h.capacity
  case room => intro d; rw [m.queues]; exact h.room d
  case fenced =>
    intro lane pending
    rw [m.quarantines, m.operation]
    exact h.fenced id r m.old (m.lane ▸ lane) (unsettled ▸ pending)
  case others =>
    intro a x _ hx lane pending
    rw [m.quarantines]
    exact h.fenced a x hx lane pending
  case reading =>
    intro lane
    rw [m.capability, m.phase]
    exact h.reading id r m.old (m.lane ▸ lane)
  case denied =>
    intro retired lane
    rw [m.phase]
    exact h.denied id r m.old retired (m.lane ▸ lane)

/-- Queues stay right when neither the old nor the new record waits. -/
theorem Coherent.waiting_kept (h : s.Coherent) (old : s.waitingOf id = none)
    (waits : r'.state.phase ≠ .waiting) (queues : ∀ d : String, s'.admission.queueOf d = s.admission.queueOf d)
    (d : String) (op : OperationRef) : op ∈ s'.admission.queueOf d ↔
      Function.update s.waitingOf id r'.waits op.operationId = some op ∧ op.deviceId = d := by
  rw [queues, waits_of_not_waiting waits, ← old, Function.update_eq_self]
  exact h.waiting d op

/-- Blocks stay right when neither the old nor the new record is ambiguous. -/
theorem Coherent.blocked_kept (h : s.Coherent) (old : s.blockOf id = none)
    (blocks : r'.state.phase ≠ .ambiguous)
    (same : s'.admission.blockedByIndeterminate = s.admission.blockedByIndeterminate) :
    Inverse s'.admission.blockedByIndeterminate
      (Function.update s.blockOf id (r'.blocks s.admission.retiredIndeterminate id)) := by
  rw [same, blocks_of_not_ambiguous blocks]
  exact h.blocked.update_none old

theorem waitingOf_none (old : s.operations[id]? = some r) (h : r.state.phase ≠ .waiting) :
    s.waitingOf id = none := by
  rw [waitingOf_of_get old, waits_of_not_waiting h]

theorem blockOf_none (old : s.operations[id]? = some r) (h : r.state.phase ≠ .ambiguous) :
    s.blockOf id = none := by
  rw [blockOf_of_get old, blocks_of_not_ambiguous h]

theorem slotOf_none (old : s.operations[id]? = some r) (h : r.state.phase ≠ .running) :
    s.slotOf id = none := by
  rw [slotOf_of_get old, slot_of_not_running h]

/-- A running operation settles and leaves its slot. -/
structure Vacate (s s' : AuthoritativeOperationController) (id : String) (r r' : SafetyOperation) :
    Prop extends Recast s s' id r r' where
  running : r.state.phase = .running
  settled : r'.state.phase = .settled
  active : s'.admission.activeByDevice = s.admission.activeByDevice.erase r.operation.deviceId
  blocked : s'.admission.blockedByIndeterminate = s.admission.blockedByIndeterminate
  queues : ∀ d : String, s'.admission.queueOf d = s.admission.queueOf d
  recovery : s'.admission.recoveryReadOnlyOperations = s.admission.recoveryReadOnlyOperations.erase id
  quarantines : s'.quarantines = s.quarantines

/-- An operation that is not ambiguous is not a retired ordinary one. -/
theorem Coherent.not_denied (h : s.Coherent) (old : s.operations[id]? = some r)
    (phase : r.state.phase ≠ .ambiguous) (retired : id ∈ s.admission.retiredIndeterminate)
    (lane : r.executionLane = .normal) : False :=
  phase (h.denied id r old retired lane)

theorem Coherent.vacate (h : s.Coherent) (m : Vacate s s' id r r') : s'.Coherent := by
  have settled := not_unsettled_of_phase m.settled (by decide) (by decide)
  apply h.change m.toChange (m.key h)
  case active =>
    rw [m.active, slot_of_not_running (by simp [m.settled])]
    exact h.active.erase (by rw [slotOf_of_get m.old, slot_of_running m.running])
  case blocked =>
    exact h.blocked_kept (blockOf_none m.old (by simp [m.running])) (by simp [m.settled]) m.blocked
  case quarantined => rw [m.blocked, m.quarantines]; exact h.quarantined
  case waiting =>
    exact h.waiting_kept (waitingOf_none m.old (by simp [m.running])) (by simp [m.settled]) m.queues
  case waitingOnce => intro d; rw [m.queues]; exact h.waitingOnce d
  case recovery =>
    intro a
    rw [m.recovery, reads_of_settled settled]
    by_cases ha : id = a
    · simp [ha]
    · simp [h.recovery a]
  case capacity =>
    rw [m.active]
    exact Std.ExtTreeMap.size_erase_le.trans h.capacity
  case room => intro d; rw [m.queues]; exact h.room d
  case fenced => simp [settled]
  case others =>
    intro a x _ hx lane pending
    rw [m.quarantines]
    exact h.fenced a x hx lane pending
  case reading =>
    intro lane
    rw [m.capability, m.settled]
    exact ⟨(h.reading id r m.old (m.lane ▸ lane)).1, by decide, by decide⟩
  case denied =>
    intro retired lane
    exact (h.not_denied m.old (by simp [m.running]) retired (m.lane ▸ lane)).elim

/-- A waiting operation settles and leaves its queue. -/
structure Dequeue (s s' : AuthoritativeOperationController) (id : String) (r r' : SafetyOperation) :
    Prop extends Recast s s' id r r' where
  waited : r.state.phase = .waiting
  settled : r'.state.phase = .settled
  active : s'.admission.activeByDevice = s.admission.activeByDevice
  blocked : s'.admission.blockedByIndeterminate = s.admission.blockedByIndeterminate
  queues : ∀ d : String, s'.admission.queueOf d = (s.admission.queueOf d).erase r.operation
  recovery : s'.admission.recoveryReadOnlyOperations = s.admission.recoveryReadOnlyOperations
  quarantines : s'.quarantines = s.quarantines

section
variable (h : s.Coherent) (old : s.operations[id]? = some r)
include h old

/-- A waiting operation runs in the ordinary lane. -/
theorem Coherent.normal_of_waiting (waited : r.state.phase = .waiting) :
    r.executionLane = .normal := by
  cases lane : r.executionLane with
  | normal => rfl
  | recoveryEvidenceRead => exact absurd waited (h.reading id r old lane).2.1

/-- Queues stay right when a waiting record stops waiting and is taken out of its queue. -/
theorem Coherent.waiting_left (waited : r.state.phase = .waiting)
    (waits : r'.state.phase ≠ .waiting)
    (queues : ∀ d : String, s'.admission.queueOf d = (s.admission.queueOf d).erase r.operation)
    (d : String) (op : OperationRef) : op ∈ s'.admission.queueOf d ↔
      Function.update s.waitingOf id r'.waits op.operationId = some op ∧ op.deviceId = d := by
  rw [queues, (h.waitingOnce d).mem_erase_iff, h.waiting d op, Function.update_apply,
    waits_of_not_waiting waits]
  -- Ids are unique, so only the operation itself has its id.
  by_cases same : op.operationId = id
  · rw [if_pos same, same, waitingOf_of_get old, SafetyOperation.waits, if_pos waited]
    constructor
    · rintro ⟨other, mine, -⟩
      exact absurd (Option.some.inj mine).symm other
    · rintro ⟨none_eq, -⟩
      cases none_eq
  · rw [if_neg same]
    refine and_iff_right_of_imp fun _ other => same ?_
    rw [other, h.keyed id r old]

/-- A recovery set that loses nothing stays right when an ordinary record changes. -/
theorem Coherent.recovery_kept (lane : r.executionLane = .normal)
    (lane' : r'.executionLane = .normal)
    (same : s'.admission.recoveryReadOnlyOperations = s.admission.recoveryReadOnlyOperations)
    (a : String) : a ∈ s'.admission.recoveryReadOnlyOperations ↔
      (if id = a then r'.reads else s.readsOf a) = true := by
  rw [same, reads_of_normal lane', h.recovery a]
  split
  · next same => rw [← same, readsOf_of_get old, reads_of_normal lane]
  · rfl

end

theorem Coherent.dequeue (h : s.Coherent) (m : Dequeue s s' id r r') : s'.Coherent := by
  have settled := not_unsettled_of_phase m.settled (by decide) (by decide)
  have lane := h.normal_of_waiting m.old m.waited
  apply h.change m.toChange (m.key h)
  case active =>
    rw [m.active, slot_of_not_running (by simp [m.settled])]
    exact h.active.update_none (slotOf_none m.old (by simp [m.waited]))
  case blocked =>
    exact h.blocked_kept (blockOf_none m.old (by simp [m.waited])) (by simp [m.settled]) m.blocked
  case quarantined => rw [m.blocked, m.quarantines]; exact h.quarantined
  case waiting => exact h.waiting_left m.old m.waited (by simp [m.settled]) m.queues
  case waitingOnce => intro d; rw [m.queues]; exact (h.waitingOnce d).erase _
  case recovery => exact h.recovery_kept m.old lane (m.lane.trans lane) m.recovery
  case capacity => rw [m.active]; exact h.capacity
  case room =>
    intro d
    rw [m.queues]
    exact List.length_erase_le.trans (h.room d)
  case fenced => simp [settled]
  case others =>
    intro a x _ hx lane pending
    rw [m.quarantines]
    exact h.fenced a x hx lane pending
  case reading => rw [m.lane, lane]; intro absurd_lane; cases absurd_lane
  case denied =>
    intro retired lane
    exact (h.not_denied m.old (by simp [m.waited]) retired (m.lane ▸ lane)).elim

/-- A waiting operation takes its device's free slot. -/
structure Promote (s s' : AuthoritativeOperationController) (id : String) (r r' : SafetyOperation) :
    Prop extends Recast s s' id r r' where
  waited : r.state.phase = .waiting
  running : r'.state.phase = .running
  free : s.admission.activeByDevice[r.operation.deviceId]? = none
  available : s.admission.activeByDevice.size < s.admission.limits.maxGlobalActive
  active : s'.admission.activeByDevice = s.admission.activeByDevice.insert r.operation.deviceId id
  blocked : s'.admission.blockedByIndeterminate = s.admission.blockedByIndeterminate
  queues : ∀ d : String, s'.admission.queueOf d = (s.admission.queueOf d).erase r.operation
  recovery : s'.admission.recoveryReadOnlyOperations = s.admission.recoveryReadOnlyOperations
  quarantines : s'.quarantines = s.quarantines

/-- The device of a waiting ordinary operation is not quarantined. -/
theorem Coherent.unquarantined_of_waiting (h : s.Coherent) (old : s.operations[id]? = some r)
    (waited : r.state.phase = .waiting) : s.quarantines[r.operation.deviceId]? = none :=
  h.fenced id r old (h.normal_of_waiting old waited) ((isUnsettled_iff _).mpr (.inl waited))

theorem Coherent.promote (h : s.Coherent) (m : Promote s s' id r r') : s'.Coherent := by
  have lane := h.normal_of_waiting m.old m.waited
  apply h.change m.toChange (m.key h)
  case active =>
    rw [m.active, slot_of_running m.running, m.operation]
    exact h.active.insert (slotOf_none m.old (by simp [m.waited])) m.free
  case blocked =>
    exact h.blocked_kept (blockOf_none m.old (by simp [m.waited])) (by simp [m.running]) m.blocked
  case quarantined => rw [m.blocked, m.quarantines]; exact h.quarantined
  case waiting => exact h.waiting_left m.old m.waited (by simp [m.running]) m.queues
  case waitingOnce => intro d; rw [m.queues]; exact (h.waitingOnce d).erase _
  case recovery => exact h.recovery_kept m.old lane (m.lane.trans lane) m.recovery
  case capacity =>
    rw [m.active]
    exact Std.ExtTreeMap.size_insert_le.trans m.available
  case room =>
    intro d
    rw [m.queues]
    exact List.length_erase_le.trans (h.room d)
  case fenced =>
    intro _ _
    rw [m.quarantines, m.operation]
    exact h.unquarantined_of_waiting m.old m.waited
  case others =>
    intro a x _ hx lane pending
    rw [m.quarantines]
    exact h.fenced a x hx lane pending
  case reading => rw [m.lane, lane]; intro absurd_lane; cases absurd_lane
  case denied =>
    intro retired lane
    exact (h.not_denied m.old (by simp [m.waited]) retired (m.lane ▸ lane)).elim

/-- A running ordinary operation becomes ambiguous and quarantines its device, where nothing
else is waiting any more. -/
structure Quarantine (s s' : AuthoritativeOperationController) (id : String)
    (r r' : SafetyOperation) (q : DesktopQuarantine) : Prop extends Recast s s' id r r' where
  running : r.state.phase = .running
  normal : r.executionLane = .normal
  ambiguous : r'.state.phase = .ambiguous
  cleared : ∀ (a : String) (x : SafetyOperation), s.operations[a]? = some x →
    x.operation.deviceId = r.operation.deviceId → x.state.phase ≠ .waiting
  names : q.operationId = id
  active : s'.admission.activeByDevice = s.admission.activeByDevice.erase r.operation.deviceId
  blocked : s'.admission.blockedByIndeterminate =
    s.admission.blockedByIndeterminate.insert r.operation.deviceId id
  queues : ∀ d : String, s'.admission.queueOf d = s.admission.queueOf d
  recovery : s'.admission.recoveryReadOnlyOperations = s.admission.recoveryReadOnlyOperations
  quarantines : s'.quarantines = s.quarantines.insert r.operation.deviceId q

/-- A device has one running operation. -/
theorem Coherent.running_unique (h : s.Coherent) {a b : String} {x y : SafetyOperation}
    (hx : s.operations[a]? = some x) (hy : s.operations[b]? = some y)
    (running : x.state.phase = .running) (running' : y.state.phase = .running)
    (device : x.operation.deviceId = y.operation.deviceId) : a = b := by
  have mine : s.slotOf a = some x.operation.deviceId := by
    rw [slotOf_of_get hx, slot_of_running running]
  have other : s.slotOf b = some x.operation.deviceId := by
    rw [slotOf_of_get hy, slot_of_running running', device]
  exact h.active.injective mine other

theorem Coherent.blocked_none (h : s.Coherent) {d : String} (free : s.quarantines[d]? = none) :
    s.admission.blockedByIndeterminate[d]? = none := by
  rw [h.quarantined, free, Option.map_none]

theorem Coherent.quarantine (h : s.Coherent) {q : DesktopQuarantine}
    (m : Quarantine s s' id r r' q) : s'.Coherent := by
  have pending : r.state.isUnsettled = true := (isUnsettled_iff _).mpr (.inr m.running)
  have free := h.fenced id r m.old m.normal pending
  have fresh : id ∉ s.admission.retiredIndeterminate := fun retired =>
    h.not_denied m.old (by simp [m.running]) retired m.normal
  have settled := not_unsettled_of_phase m.ambiguous (by decide) (by decide)
  apply h.change m.toChange (m.key h)
  case active =>
    rw [m.active, slot_of_not_running (by simp [m.ambiguous])]
    exact h.active.erase (by rw [slotOf_of_get m.old, slot_of_running m.running])
  case blocked =>
    rw [m.blocked, blocks, if_pos ⟨m.ambiguous, fresh⟩, m.operation]
    exact h.blocked.insert (blockOf_none m.old (by simp [m.running])) (h.blocked_none free)
  case quarantined =>
    intro d
    rw [m.blocked, m.quarantines, get_insert, get_insert]
    split
    · rw [Option.map_some, m.names]
    · exact h.quarantined d
  case waiting =>
    exact h.waiting_kept (waitingOf_none m.old (by simp [m.running])) (by simp [m.ambiguous]) m.queues
  case waitingOnce => intro d; rw [m.queues]; exact h.waitingOnce d
  case recovery => exact h.recovery_kept m.old m.normal (m.lane.trans m.normal) m.recovery
  case capacity =>
    rw [m.active]
    exact Std.ExtTreeMap.size_erase_le.trans h.capacity
  case room => intro d; rw [m.queues]; exact h.room d
  case fenced => simp [settled]
  case others =>
    -- Any other unsettled ordinary operation is on another device.
    intro a x other hx lane unsettled
    rw [m.quarantines, get_insert, if_neg, h.fenced a x hx lane unsettled]
    intro device
    rcases (isUnsettled_iff _).mp unsettled with waits | runs
    · exact m.cleared a x hx device.symm waits
    · exact other (h.running_unique hx m.old runs m.running device.symm)
  case reading => rw [m.lane, m.normal]; intro absurd_lane; cases absurd_lane
  case denied => exact fun _ _ => m.ambiguous

/-- The ambiguous operation that blocks a device settles and frees it. -/
structure Unblock (s s' : AuthoritativeOperationController) (id : String) (r r' : SafetyOperation) :
    Prop extends Recast s s' id r r' where
  ambiguous : r.state.phase = .ambiguous
  settled : r'.state.phase = .settled
  blocking : s.admission.blockedByIndeterminate[r.operation.deviceId]? = some id
  active : s'.admission.activeByDevice = s.admission.activeByDevice
  blocked : s'.admission.blockedByIndeterminate =
    s.admission.blockedByIndeterminate.erase r.operation.deviceId
  queues : ∀ d : String, s'.admission.queueOf d = s.admission.queueOf d
  recovery : s'.admission.recoveryReadOnlyOperations = s.admission.recoveryReadOnlyOperations
  quarantines : s'.quarantines = s.quarantines.erase r.operation.deviceId

/-- An ambiguous operation runs in the ordinary lane. -/
theorem Coherent.normal_of_ambiguous (h : s.Coherent) (old : s.operations[id]? = some r)
    (ambiguous : r.state.phase = .ambiguous) : r.executionLane = .normal := by
  cases lane : r.executionLane with
  | normal => rfl
  | recoveryEvidenceRead => exact absurd ambiguous (h.reading id r old lane).2.2

/-- An operation that blocks a device is not retired. -/
theorem Coherent.unretired_of_blocking (h : s.Coherent) {d : String}
    (blocking : s.admission.blockedByIndeterminate[d]? = some id) :
    id ∉ s.admission.retiredIndeterminate := by
  intro retired
  have filed := (h.blocked d id).mp blocking
  rw [blockOf, Option.bind_eq_some_iff] at filed
  obtain ⟨x, -, hx⟩ := filed
  rw [blocks, if_neg fun both => both.2 retired] at hx
  cases hx

/-- Freeing a device in both ledgers. -/
theorem Coherent.quarantined_erase (h : s.Coherent) (d : String) (k : String) :
    (s.admission.blockedByIndeterminate.erase d)[k]? =
      (s.quarantines.erase d)[k]?.map operationId := by
  rw [get_erase, get_erase]
  split
  · rfl
  · exact h.quarantined k

/-- Erasing a quarantine adds none. -/
theorem erase_none {t : Table DesktopQuarantine} {d k : String} (h : t[k]? = none) :
    (t.erase d)[k]? = none := by
  rw [get_erase]
  split
  · rfl
  · exact h

theorem Coherent.unblock (h : s.Coherent) (m : Unblock s s' id r r') : s'.Coherent := by
  have lane := h.normal_of_ambiguous m.old m.ambiguous
  have fresh := h.unretired_of_blocking m.blocking
  have settled := not_unsettled_of_phase m.settled (by decide) (by decide)
  apply h.change m.toChange (m.key h)
  case active =>
    rw [m.active, slot_of_not_running (by simp [m.settled])]
    exact h.active.update_none (slotOf_none m.old (by simp [m.ambiguous]))
  case blocked =>
    rw [m.blocked, blocks_of_not_ambiguous (by simp [m.settled])]
    exact h.blocked.erase ((h.blocked _ _).mp m.blocking)
  case quarantined => rw [m.blocked, m.quarantines]; exact h.quarantined_erase _
  case waiting =>
    exact h.waiting_kept (waitingOf_none m.old (by simp [m.ambiguous])) (by simp [m.settled]) m.queues
  case waitingOnce => intro d; rw [m.queues]; exact h.waitingOnce d
  case recovery => exact h.recovery_kept m.old lane (m.lane.trans lane) m.recovery
  case capacity => rw [m.active]; exact h.capacity
  case room => intro d; rw [m.queues]; exact h.room d
  case fenced => simp [settled]
  case others =>
    intro a x _ hx lane pending
    rw [m.quarantines]
    exact erase_none (h.fenced a x hx lane pending)
  case reading => rw [m.lane, lane]; intro absurd_lane; cases absurd_lane
  case denied => exact fun retired => absurd retired fresh

/-- An operation is admitted straight into a free slot. -/
structure Start (s s' : AuthoritativeOperationController) (id : String) (r' : SafetyOperation) :
    Prop extends Change s s' id r' where
  new : s.operations[id]? = none
  key : r'.operation.operationId = id
  running : r'.state.phase = .running
  free : s.admission.activeByDevice[r'.operation.deviceId]? = none
  available : s.admission.activeByDevice.size < s.admission.limits.maxGlobalActive
  active : s'.admission.activeByDevice = s.admission.activeByDevice.insert r'.operation.deviceId id
  blocked : s'.admission.blockedByIndeterminate = s.admission.blockedByIndeterminate
  queues : ∀ d : String, s'.admission.queueOf d = s.admission.queueOf d
  recovery : ∀ a : String, a ∈ s'.admission.recoveryReadOnlyOperations ↔
    a ∈ s.admission.recoveryReadOnlyOperations ∨ id = a ∧ r'.executionLane = .recoveryEvidenceRead
  quarantines : s'.quarantines = s.quarantines
  /-- The ordinary lane is closed to quarantined devices and retired ids. -/
  normal : r'.executionLane = .normal →
    s.quarantines[r'.operation.deviceId]? = none ∧ id ∉ s.admission.retiredIndeterminate
  reads : r'.executionLane = .recoveryEvidenceRead → r'.capability.isRecoveryEvidenceReadOnly = true

theorem slotOf_new (new : s.operations[id]? = none) : s.slotOf id = none := by
  rw [slotOf, new, Option.bind_none]

theorem waitingOf_new (new : s.operations[id]? = none) : s.waitingOf id = none := by
  rw [waitingOf, new, Option.bind_none]

theorem blockOf_new (new : s.operations[id]? = none) : s.blockOf id = none := by
  rw [blockOf, new, Option.bind_none]

theorem readsOf_new (new : s.operations[id]? = none) : s.readsOf id = false := by
  rw [readsOf, new, Option.any_none]

theorem Coherent.start (h : s.Coherent) (m : Start s s' id r') : s'.Coherent := by
  have pending : r'.state.isUnsettled = true := (isUnsettled_iff _).mpr (.inr m.running)
  apply h.change m.toChange m.key
  case active =>
    rw [m.active, slot_of_running m.running]
    exact h.active.insert (slotOf_new m.new) m.free
  case blocked => exact h.blocked_kept (blockOf_new m.new) (by simp [m.running]) m.blocked
  case quarantined => rw [m.blocked, m.quarantines]; exact h.quarantined
  case waiting => exact h.waiting_kept (waitingOf_new m.new) (by simp [m.running]) m.queues
  case waitingOnce => intro d; rw [m.queues]; exact h.waitingOnce d
  case recovery =>
    intro a
    rw [m.recovery a, h.recovery a]
    by_cases ha : id = a
    · subst ha
      simp [readsOf_new m.new, reads, pending]
    · simp [ha]
  case capacity =>
    rw [m.active]
    exact Std.ExtTreeMap.size_insert_le.trans m.available
  case room => intro d; rw [m.queues]; exact h.room d
  case fenced => intro lane _; rw [m.quarantines]; exact (m.normal lane).1
  case others =>
    intro a x _ hx lane pending
    rw [m.quarantines]
    exact h.fenced a x hx lane pending
  case reading => exact fun lane => ⟨m.reads lane, by simp [m.running], by simp [m.running]⟩
  case denied => exact fun retired lane => absurd retired (m.normal lane).2

/-- An operation is admitted into its device's queue. -/
structure Enqueue (s s' : AuthoritativeOperationController) (id : String) (r' : SafetyOperation) :
    Prop extends Change s s' id r' where
  new : s.operations[id]? = none
  key : r'.operation.operationId = id
  waits : r'.state.phase = .waiting
  normal : r'.executionLane = .normal
  unquarantined : s.quarantines[r'.operation.deviceId]? = none
  fresh : id ∉ s.admission.retiredIndeterminate
  roomLeft : (s.admission.queueOf r'.operation.deviceId).length <
    s.admission.limits.maxQueuedPerDevice
  active : s'.admission.activeByDevice = s.admission.activeByDevice
  blocked : s'.admission.blockedByIndeterminate = s.admission.blockedByIndeterminate
  queues : ∀ d : String, s'.admission.queueOf d =
    if r'.operation.deviceId = d then s.admission.queueOf d ++ [r'.operation]
    else s.admission.queueOf d
  recovery : s'.admission.recoveryReadOnlyOperations = s.admission.recoveryReadOnlyOperations
  quarantines : s'.quarantines = s.quarantines

/-- An operation that is not in the ledger is in no queue. -/
theorem Coherent.not_queued_of_new (h : s.Coherent) (op : OperationRef)
    (new : s.operations[op.operationId]? = none) (d : String) : op ∉ s.admission.queueOf d := by
  rw [h.waiting d op, waitingOf_new new]
  simp

theorem Coherent.enqueue (h : s.Coherent) (m : Enqueue s s' id r') : s'.Coherent := by
  have unqueued := h.not_queued_of_new r'.operation (by rw [m.key]; exact m.new)
  apply h.change m.toChange m.key
  case active =>
    rw [m.active, slot_of_not_running (by simp [m.waits])]
    exact h.active.update_none (slotOf_new m.new)
  case blocked => exact h.blocked_kept (blockOf_new m.new) (by simp [m.waits]) m.blocked
  case quarantined => rw [m.blocked, m.quarantines]; exact h.quarantined
  case waiting =>
    intro d op
    have old := h.waiting d op
    rw [m.queues, Function.update_apply, SafetyOperation.waits, if_pos m.waits]
    by_cases same : op.operationId = id
    · rw [same, waitingOf_new m.new] at old
      rw [if_pos same]
      by_cases device : r'.operation.deviceId = d
      · rw [if_pos device, List.mem_append, old, List.mem_singleton, Option.some_inj]
        constructor
        · rintro (⟨none_eq, -⟩ | rfl)
          · cases none_eq
          · exact ⟨rfl, device⟩
        · rintro ⟨rfl, -⟩
          exact .inr rfl
      · rw [if_neg device, old, Option.some_inj]
        constructor
        · rintro ⟨none_eq, -⟩
          cases none_eq
        · rintro ⟨rfl, device'⟩
          exact absurd device' device
    · have other : op ≠ r'.operation := fun eq => same (by rw [eq, m.key])
      rw [if_neg same, ← old]
      split
      · simp [other]
      · rfl
  case waitingOnce =>
    intro d
    rw [m.queues]
    split
    · exact (h.waitingOnce d).append (List.nodup_singleton _) (by simpa using unqueued d)
    · exact h.waitingOnce d
  case recovery =>
    intro a
    rw [m.recovery, reads_of_normal m.normal, h.recovery a]
    split
    · next same => rw [← same, readsOf_new m.new]
    · rfl
  case capacity => rw [m.active]; exact h.capacity
  case room =>
    intro d
    rw [m.queues]
    split
    · next device =>
      have left := m.roomLeft
      rw [device] at left
      rw [List.length_append]
      exact left
    · exact h.room d
  case fenced => intro _ _; rw [m.quarantines]; exact m.unquarantined
  case others =>
    intro a x _ hx lane pending
    rw [m.quarantines]
    exact h.fenced a x hx lane pending
  case reading => rw [m.normal]; intro absurd_lane; cases absurd_lane
  case denied => exact fun retired => absurd retired m.fresh

/-- The ambiguous operation that blocks a device is retired: its id is denied for good and
the device is free, while the record stays as it is. -/
structure Retire (s s' : AuthoritativeOperationController) (id : String) (r : SafetyOperation) :
    Prop where
  old : s.operations[id]? = some r
  ambiguous : r.state.phase = .ambiguous
  blocking : s.admission.blockedByIndeterminate[r.operation.deviceId]? = some id
  operations : s'.operations = s.operations
  admitted : s'.admission.operations = s.admission.operations
  retired : s'.admission.retiredIndeterminate = s.admission.retiredIndeterminate.insert id
  limits : s'.admission.limits = s.admission.limits
  active : s'.admission.activeByDevice = s.admission.activeByDevice
  blocked : s'.admission.blockedByIndeterminate =
    s.admission.blockedByIndeterminate.erase r.operation.deviceId
  queues : ∀ d : String, s'.admission.queueOf d = s.admission.queueOf d
  recovery : s'.admission.recoveryReadOnlyOperations = s.admission.recoveryReadOnlyOperations
  quarantines : s'.quarantines = s.quarantines.erase r.operation.deviceId

theorem Coherent.retire (h : s.Coherent) (m : Retire s s' id r) : s'.Coherent := by
  have blockOf_eq : s'.blockOf = Function.update s.blockOf id none := by
    funext a
    rw [blockOf, m.operations, m.retired, Function.update_apply]
    by_cases ha : a = id
    · subst ha
      rw [if_pos rfl, m.old, Option.bind_some, blocks,
        if_neg fun both => both.2 (by simp)]
    · rw [if_neg ha]
      congr 1
      funext x
      simp [blocks, Ne.symm ha]
  constructor
  case keyed => rw [m.operations]; exact h.keyed
  case mirrored => rw [m.operations, m.admitted]; exact h.mirrored
  case active =>
    rw [m.active, show s'.slotOf = s.slotOf by funext a; rw [slotOf, slotOf, m.operations]]
    exact h.active
  case blocked =>
    rw [m.blocked, blockOf_eq]
    exact h.blocked.erase ((h.blocked _ _).mp m.blocking)
  case quarantined => rw [m.blocked, m.quarantines]; exact h.quarantined_erase _
  case waiting =>
    intro d op
    rw [m.queues, waitingOf, m.operations]
    exact h.waiting d op
  case waitingOnce => intro d; rw [m.queues]; exact h.waitingOnce d
  case recovery =>
    intro a
    rw [m.recovery, readsOf, m.operations]
    exact h.recovery a
  case capacity => rw [m.active, m.limits]; exact h.capacity
  case room => intro d; rw [m.queues, m.limits]; exact h.room d
  case fenced =>
    intro a x hx lane pending
    rw [m.operations] at hx
    rw [m.quarantines]
    exact erase_none (h.fenced a x hx lane pending)
  case reading => rw [m.operations]; exact h.reading
  case denied =>
    intro a x hx retired lane
    rw [m.operations] at hx
    rw [m.retired, Std.ExtTreeSet.mem_insert, Std.LawfulEqCmp.compare_eq_iff_eq] at retired
    rcases retired with rfl | retired
    · rw [m.old] at hx
      exact Option.some.inj hx ▸ m.ambiguous
    · exact h.denied a x hx retired lane

/-- Records that are settled, or ambiguous and retired, are forgotten. With nothing `gone`
this is any change outside both ledgers' records and indexes. -/
structure Forget (s s' : AuthoritativeOperationController) (gone : String → Bool) : Prop where
  operations : ∀ a : String, s'.operations[a]? = if gone a then none else s.operations[a]?
  admitted : ∀ a : String, s'.admission.operations[a]? =
    if gone a then none else s.admission.operations[a]?
  idle : ∀ (a : String) (x : SafetyOperation), gone a = true → s.operations[a]? = some x →
    x.state.phase = .settled ∨ x.state.phase = .ambiguous ∧ a ∈ s.admission.retiredIndeterminate
  retired : s'.admission.retiredIndeterminate = s.admission.retiredIndeterminate
  limits : s'.admission.limits = s.admission.limits
  active : s'.admission.activeByDevice = s.admission.activeByDevice
  blocked : s'.admission.blockedByIndeterminate = s.admission.blockedByIndeterminate
  queues : ∀ d : String, s'.admission.queueOf d = s.admission.queueOf d
  recovery : ∀ a : String, a ∈ s'.admission.recoveryReadOnlyOperations ↔
    a ∈ s.admission.recoveryReadOnlyOperations ∧ gone a = false
  quarantines : s'.quarantines = s.quarantines

/-- A view that forgotten records do not appear in is unchanged. -/
theorem Forget.view {gone : String → Bool} (m : Forget s s' gone) {β : Type}
    (view : String → SafetyOperation → Option β)
    (unseen : ∀ (a : String) (x : SafetyOperation), x.state.phase = .settled ∨
      x.state.phase = .ambiguous ∧ a ∈ s.admission.retiredIndeterminate → view a x = none)
    (a : String) : s'.operations[a]?.bind (view a) = s.operations[a]?.bind (view a) := by
  rw [m.operations]
  split
  · next out =>
    cases found : s.operations[a]? with
    | none => rfl
    | some x => rw [Option.bind_none, Option.bind_some, unseen a x (m.idle a x out found)]
  · rfl

theorem Coherent.forget (h : s.Coherent) {gone : String → Bool} (m : Forget s s' gone) :
    s'.Coherent := by
  have kept : ∀ (a : String) (x : SafetyOperation), s'.operations[a]? = some x →
      s.operations[a]? = some x := by
    intro a x hx
    rw [m.operations] at hx
    split at hx
    · cases hx
    · exact hx
  have slots : s'.slotOf = s.slotOf := funext <| m.view (fun _ => slot)
    fun a x idle => slot_of_not_running (by rcases idle with p | ⟨p, -⟩ <;> simp [p])
  have waits : s'.waitingOf = s.waitingOf := funext <| m.view (fun _ => SafetyOperation.waits)
    fun a x idle => waits_of_not_waiting (by rcases idle with p | ⟨p, -⟩ <;> simp [p])
  have blocks : s'.blockOf = s.blockOf := by
    funext a
    rw [blockOf, m.retired]
    refine m.view (blocks s.admission.retiredIndeterminate) ?_ a
    rintro b x (p | ⟨-, retired⟩)
    · exact blocks_of_not_ambiguous (by simp [p])
    · exact if_neg fun both => both.2 retired
  constructor
  case keyed => exact fun a x hx => h.keyed a x (kept a x hx)
  case mirrored =>
    intro a
    rw [m.operations, m.admitted]
    split
    · rfl
    · exact h.mirrored a
  case active => rw [m.active, slots]; exact h.active
  case blocked => rw [m.blocked, blocks]; exact h.blocked
  case quarantined => rw [m.blocked, m.quarantines]; exact h.quarantined
  case waiting => intro d op; rw [m.queues, waits]; exact h.waiting d op
  case waitingOnce => intro d; rw [m.queues]; exact h.waitingOnce d
  case recovery =>
    intro a
    rw [m.recovery, h.recovery, readsOf, readsOf, m.operations]
    cases out : gone a with
    | true => simp
    | false => simp
  case capacity => rw [m.active, m.limits]; exact h.capacity
  case room => intro d; rw [m.queues, m.limits]; exact h.room d
  case fenced =>
    intro a x hx lane pending
    rw [m.quarantines]
    exact h.fenced a x (kept a x hx) lane pending
  case reading => exact fun a x hx => h.reading a x (kept a x hx)
  case denied =>
    intro a x hx retired lane
    rw [m.retired] at retired
    exact h.denied a x (kept a x hx) retired lane

/-- The empty ledger is coherent. -/
theorem coherent_empty (limits : AdmissionLimits) : (empty limits).Coherent := by
  constructor <;> simp [empty, HubAdmissionController.empty, Inverse, slotOf, blockOf, waitingOf,
    readsOf, HubAdmissionController.queueOf]

end AuthoritativeOperationController

end Gateway.Execution
