import Gateway.Execution.Admission

/-! What the admission ledger's queues do.

Queues are read through `queueOf`, so an entry that holds an empty list and no
entry at all are the same queue. `promote_cases` says everything a promotion can
do: nothing, or start the head of one queue whose device is free and unblocked. -/
namespace Gateway.Execution.HubAdmissionController
open Data Table

/-- The ledger with other queues. -/
def withQueues (c : HubAdmissionController) (queues : Table (List OperationRef)) :
    HubAdmissionController :=
  {c with queuedByDevice := queues}

section WithQueues
variable (c : HubAdmissionController) (queues : Table (List OperationRef))

@[simp] theorem withQueues_limits : (c.withQueues queues).limits = c.limits := rfl
@[simp] theorem withQueues_active : (c.withQueues queues).activeByDevice = c.activeByDevice := rfl
@[simp] theorem withQueues_operations : (c.withQueues queues).operations = c.operations := rfl
@[simp] theorem withQueues_blocked :
    (c.withQueues queues).blockedByIndeterminate = c.blockedByIndeterminate := rfl
@[simp] theorem withQueues_retired :
    (c.withQueues queues).retiredIndeterminate = c.retiredIndeterminate := rfl
@[simp] theorem withQueues_recovery :
    (c.withQueues queues).recoveryReadOnlyOperations = c.recoveryReadOnlyOperations := rfl
@[simp] theorem withQueues_queueOf (d : String) :
    (c.withQueues queues).queueOf d = queues[d]?.getD [] := rfl

end WithQueues

theorem queueOf_insert (c : HubAdmissionController) (deviceId d : String)
    (queue : List OperationRef) :
    (c.queuedByDevice.insert deviceId queue)[d]?.getD [] =
      if deviceId = d then queue else c.queueOf d := by
  rw [get_insert]
  split <;> rfl

theorem queueOf_erase (c : HubAdmissionController) (deviceId d : String) :
    (c.queuedByDevice.erase deviceId)[d]?.getD [] = if deviceId = d then [] else c.queueOf d := by
  rw [get_erase]
  split <;> rfl

/-- What looking for work to start can do to a ledger `c`. -/
inductive Promotes (c : HubAdmissionController) :
    Option OperationRef × HubAdmissionController → Prop where
  /-- Nothing but empty queues is dropped. -/
  | idle (queues : Table (List OperationRef)) (same : ∀ d : String, queues[d]?.getD [] = c.queueOf d) :
      Promotes c (none, c.withQueues queues)
  /-- The head of one queue starts; its device was free and unblocked. -/
  | start (queues : Table (List OperationRef)) (device : String) (head : OperationRef)
      (rest : List OperationRef) (queue : c.queueOf device = head :: rest)
      (free : c.activeByDevice[device]? = none)
      (unblocked : c.blockedByIndeterminate[device]? = none)
      (after : ∀ d : String, queues[d]?.getD [] = if device = d then rest else c.queueOf d) :
      Promotes c (some head, (c.withQueues queues).start head)

/-- Looking again after finding nothing. -/
theorem Promotes.trans {c : HubAdmissionController} {queues : Table (List OperationRef)}
    (same : ∀ d : String, queues[d]?.getD [] = c.queueOf d)
    {result : Option OperationRef × HubAdmissionController}
    (h : Promotes (c.withQueues queues) result) : Promotes c result := by
  cases h with
  | idle queues' same' => exact .idle queues' fun d => (same' d).trans (same d)
  | start queues' device head rest queue free unblocked after =>
    refine .start queues' device head rest ((same device).symm.trans queue) free unblocked fun d => ?_
    rw [after d]
    split
    · rfl
    · exact same d

/-- Popping takes the head of the device's queue and leaves every other queue alone. -/
theorem popQueued_cases (c : HubAdmissionController) (deviceId : String) :
    (∃ queues, c.popQueued deviceId = (none, c.withQueues queues) ∧
        ∀ d : String, queues[d]?.getD [] = c.queueOf d) ∨
      ∃ queues head rest, c.popQueued deviceId = (some head, c.withQueues queues) ∧
        c.queueOf deviceId = head :: rest ∧
        ∀ d : String, queues[d]?.getD [] = if deviceId = d then rest else c.queueOf d := by
  unfold popQueued
  split
  · exact .inl ⟨c.queuedByDevice, rfl, fun _ => rfl⟩
  · next found =>
    refine .inl ⟨_, rfl, fun d => ?_⟩
    rw [queueOf_erase]
    split
    · next same => rw [← same, queueOf, found, Option.getD_some]
    · rfl
  · next head found =>
    refine .inr ⟨_, head, [], rfl, by rw [queueOf, found, Option.getD_some], fun d => ?_⟩
    rw [queueOf_erase]
  · next head rest _ found =>
    refine .inr ⟨_, head, rest, rfl, by rw [queueOf, found, Option.getD_some], fun d => ?_⟩
    rw [queueOf_insert]

theorem startFirst_promotes (devices : List String) (c : HubAdmissionController) :
    Promotes c (startFirst devices c) := by
  induction devices generalizing c with
  | nil => exact .idle c.queuedByDevice fun _ => rfl
  | cons deviceId devices ih =>
    rw [startFirst]
    split
    · exact ih c
    · next free =>
      rw [not_or, not_mem_iff_get, not_mem_iff_get] at free
      rcases popQueued_cases c deviceId with
        ⟨queues, popped, same⟩ | ⟨queues, head, rest, popped, queue, after⟩
      · rw [popped]
        exact (ih (c.withQueues queues)).trans same
      · rw [popped]
        exact .start queues deviceId head rest queue free.1 free.2 after

/-- A promotion starts something only while there is global capacity. -/
theorem startNext_promotes (order : IterationOrder) (preferred : Option String)
    (c : HubAdmissionController) :
    Promotes c (c.startNextForAvailableCapacity order preferred) ∧
      ((c.startNextForAvailableCapacity order preferred).1 ≠ none →
        c.activeByDevice.size < c.limits.maxGlobalActive) := by
  unfold startNextForAvailableCapacity
  split
  · exact ⟨.idle c.queuedByDevice fun _ => rfl, fun h => absurd rfl h⟩
  · next full =>
    refine ⟨?_, fun _ => Nat.lt_of_not_le full⟩
    have first := startFirst_promotes preferred.toList c
    generalize startFirst preferred.toList c = result at first
    cases first with
    | idle queues same => exact (startFirst_promotes _ _).trans same
    | start queues device head rest queue free unblocked after =>
      exact .start queues device head rest queue free unblocked after

/-- A promotion answers `idle` and only drops empty queues, or starts the head of one queue
whose device is free and unblocked. -/
theorem promote_cases (order : IterationOrder) (deviceId : String) (c : HubAdmissionController) :
    (∃ queues, c.promote order deviceId = (.idle, c.withQueues queues) ∧
        ∀ d : String, queues[d]?.getD [] = c.queueOf d) ∨
      ∃ queues device head rest,
        c.promote order deviceId = (.startNext head, (c.withQueues queues).start head) ∧
        c.queueOf device = head :: rest ∧ c.activeByDevice[device]? = none ∧
        c.blockedByIndeterminate[device]? = none ∧
        c.activeByDevice.size < c.limits.maxGlobalActive ∧
        ∀ d : String, queues[d]?.getD [] = if device = d then rest else c.queueOf d := by
  obtain ⟨promotes, room⟩ := startNext_promotes order (some deviceId) c
  unfold promote
  generalize c.startNextForAvailableCapacity order (some deviceId) = result at promotes room
  cases promotes with
  | idle queues same => exact .inl ⟨queues, rfl, same⟩
  | start queues device head rest queue free unblocked after =>
    exact .inr ⟨queues, device, head, rest, rfl, queue, free, unblocked, room (by simp), after⟩

end Gateway.Execution.HubAdmissionController
