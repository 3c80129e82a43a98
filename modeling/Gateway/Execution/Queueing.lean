import Gateway.Data.Machine
import Gateway.Execution.Promotion
import Gateway.Execution.Records

/-! Who waits in the admission ledger, and why.

A device's queue should only ever wait for the device's own operation, for its quarantine, or
for global capacity. `Shift` says everything a transition can do to slots, quarantines and
queues; what keeps queues moving is proved for one shift and holds along every run. The one
transition that gives up a slot and hands it to nobody is the quarantine of an operation. -/
namespace Gateway.Execution.HubAdmissionController
open Data Table Machine

variable {c c' : HubAdmissionController} {deviceId : String}

theorem eq_empty_of_new {limits : AdmissionLimits} (fresh : new limits = .ok c) :
    c = empty limits := by
  obtain ⟨valid, ok, rfl⟩ := Result.map_eq_ok.mp fresh
  obtain ⟨-, same⟩ := Result.guard_eq_ok.mp ok
  cases same
  rfl

/-! ### Finding work to start -/

theorem queueOf_of_popQueued_none (none : (c.popQueued deviceId).1 = none) :
    c.queueOf deviceId = [] := by
  unfold popQueued at none
  unfold queueOf
  split at none <;> simp_all

/-- A search that starts nothing has seen no queue it could have taken from. -/
theorem startFirst_exhausts {devices : List String} (none : (startFirst devices c).1 = none) :
    ∀ d ∈ devices, c.queueOf d ≠ [] → d ∈ c.activeByDevice ∨ d ∈ c.blockedByIndeterminate := by
  induction devices generalizing c with
  | nil => exact nofun
  | cons deviceId devices ih =>
    rw [startFirst] at none
    intro d among waiting
    split at none
    · next busy =>
      rcases List.mem_cons.mp among with rfl | among
      · exact busy
      · exact ih none d among waiting
    · rcases popQueued_cases c deviceId with
        ⟨queues, popped, same⟩ | ⟨queues, head, rest, popped, _, _⟩
      · have empty : c.queueOf deviceId = [] := queueOf_of_popQueued_none (by rw [popped])
        rw [popped] at none
        rcases List.mem_cons.mp among with rfl | among
        · exact absurd empty waiting
        · have still : (c.withQueues queues).queueOf d ≠ [] := by
            rw [withQueues_queueOf, same]
            exact waiting
          exact ih none d among still
      · rw [popped] at none
        cases none

theorem queueOf_of_empty (none : c.queuedByDevice = ∅) (d : String) : c.queueOf d = [] := by
  rw [queueOf, none]
  simp

theorem mem_keys_of_queueOf {d : String} (waiting : c.queueOf d ≠ []) :
    d ∈ c.queuedByDevice.keys := by
  rw [Std.ExtTreeMap.mem_keys]
  by_contra absent
  rw [queueOf, not_mem_iff_get.mp absent] at waiting
  exact waiting rfl

/-- A promotion that starts nothing finds no global capacity, or nobody it could start. -/
theorem promote_idle_exhausts {order : IterationOrder} (idle : (c.promote order deviceId).1 = .idle) :
    c.limits.maxGlobalActive ≤ c.activeByDevice.size ∨
      ∀ d, c.queueOf d ≠ [] → d ∈ c.activeByDevice ∨ d ∈ c.blockedByIndeterminate := by
  have none : (c.startNextForAvailableCapacity order (some deviceId)).1 = none := by
    unfold promote at idle
    split at idle
    · next found => rw [found]
    · cases idle
  unfold startNextForAvailableCapacity at none
  split at none
  · next full => exact .inl full
  · refine .inr fun d waiting => ?_
    have first := startFirst_promotes (some deviceId).toList c
    generalize startFirst (some deviceId).toList c = result at none first
    cases first with
    | start => cases none
    | idle queues same =>
      have still : (c.withQueues queues).queueOf d ≠ [] := by
        rw [withQueues_queueOf, same]
        exact waiting
      exact startFirst_exhausts none d
        ((order.perm _).mem_iff.mpr (mem_keys_of_queueOf still)) still

/-! ### What a transition does to slots, quarantines and queues -/

def startedBy : CompletionDecision → List (OperationExecutionLane × OperationRef)
  | .idle => []
  | .startNext operation => [(.normal, operation)]

/-- `c'` differs from `c` in slots, quarantines and queues of one device at most. -/
structure Aside (deviceId : String) (c c' : HubAdmissionController) : Prop where
  limits : c'.limits = c.limits
  active : ∀ d, d ≠ deviceId → (d ∈ c'.activeByDevice ↔ d ∈ c.activeByDevice)
  blocked : ∀ d, d ≠ deviceId → (d ∈ c'.blockedByIndeterminate ↔ d ∈ c.blockedByIndeterminate)
  queues : ∀ d, d ≠ deviceId → c'.queueOf d = c.queueOf d

/-- No device other than `deviceId` waits for global capacity. -/
def Unrivalled (c : HubAdmissionController) (deviceId : String) : Prop :=
  ∀ d, d ≠ deviceId → c.queueOf d ≠ [] → d ∈ c.activeByDevice ∨ d ∈ c.blockedByIndeterminate

/-- Only devices with a queue entry can be waiting. -/
instance (c : HubAdmissionController) (deviceId : String) : Decidable (c.Unrivalled deviceId) :=
  decidable_of_iff (∀ d ∈ c.queuedByDevice.keys, d ≠ deviceId → c.queueOf d ≠ [] →
      d ∈ c.activeByDevice ∨ d ∈ c.blockedByIndeterminate)
    ⟨fun among d other waiting => among d (mem_keys_of_queueOf waiting) other waiting,
      fun unrivalled d _ => unrivalled d⟩

/-- From `c` to `c'`, with what was admitted and what was started. -/
inductive Shift (c : HubAdmissionController) :
    HubAdmissionController → List (OperationExecutionLane × OperationRef) →
      List (OperationExecutionLane × OperationRef) → Prop where
  /-- Nothing moves. -/
  | still {c' : HubAdmissionController} (limits : c'.limits = c.limits)
      (active : c'.activeByDevice = c.activeByDevice)
      (blocked : c'.blockedByIndeterminate = c.blockedByIndeterminate)
      (queues : ∀ d, c'.queueOf d = c.queueOf d) : Shift c c' [] []
  /-- An operation is admitted and starts: its device is not quarantined, or nothing waits
  for it. -/
  | start {c' : HubAdmissionController} (lane : OperationExecutionLane) (operation : OperationRef)
      (limits : c'.limits = c.limits)
      (active : c'.activeByDevice =
        c.activeByDevice.insert operation.deviceId operation.operationId)
      (blocked : c'.blockedByIndeterminate = c.blockedByIndeterminate)
      (queues : ∀ d, c'.queueOf d = c.queueOf d)
      (free : operation.deviceId ∉ c.activeByDevice)
      (room : c.activeByDevice.size < c.limits.maxGlobalActive)
      (alone : operation.deviceId ∉ c.blockedByIndeterminate ∨ c.queueOf operation.deviceId = []) :
      Shift c c' [(lane, operation)] [(lane, operation)]
  /-- An operation is admitted and waits. -/
  | wait {c' : HubAdmissionController} (operation : OperationRef) (limits : c'.limits = c.limits)
      (active : c'.activeByDevice = c.activeByDevice)
      (blocked : c'.blockedByIndeterminate = c.blockedByIndeterminate)
      (queues : ∀ d, c'.queueOf d =
        if operation.deviceId = d then c.queueOf d ++ [operation] else c.queueOf d)
      (busy : operation.deviceId ∈ c.activeByDevice ∨
        c.limits.maxGlobalActive ≤ c.activeByDevice.size) :
      Shift c c' [(.normal, operation)] []
  /-- Waiting operations of a device are dropped. -/
  | drop {c' : HubAdmissionController} (limits : c'.limits = c.limits)
      (active : c'.activeByDevice = c.activeByDevice)
      (blocked : c'.blockedByIndeterminate = c.blockedByIndeterminate)
      (queues : ∀ d, (c'.queueOf d).Sublist (c.queueOf d)) : Shift c c' [] []
  /-- A device gives up its slot or its quarantine, and the slot is handed on. -/
  | release {c' : HubAdmissionController} (order : IterationOrder) (deviceId : String)
      (aside : Aside deviceId c c') (queue : c'.queueOf deviceId = c.queueOf deviceId)
      (fewer : c'.activeByDevice.size ≤ c.activeByDevice.size)
      (one : c.activeByDevice.size ≤ c'.activeByDevice.size + 1) :
      Shift c (c'.promote order deviceId).2 [] (startedBy (c'.promote order deviceId).1)
  /-- A device gives up its slot and is quarantined. The slot is handed to nobody, so nobody
  else may be waiting for it. -/
  | suspend {c' : HubAdmissionController} (deviceId : String) (aside : Aside deviceId c c')
      (queue : c'.queueOf deviceId = c.queueOf deviceId)
      (blocked : deviceId ∈ c'.blockedByIndeterminate) (unrivalled : c.Unrivalled deviceId)
      (fewer : c'.activeByDevice.size ≤ c.activeByDevice.size) : Shift c c' [] []
  /-- A device leaves quarantine with nothing waiting for it. -/
  | clear {c' : HubAdmissionController} (deviceId : String) (aside : Aside deviceId c c')
      (active : c'.activeByDevice = c.activeByDevice) (queue : c'.queueOf deviceId = []) :
      Shift c c' [] []
  /-- The ledger is read back, with nothing running and nothing waiting. -/
  | restart {c' : HubAdmissionController} (active : c'.activeByDevice = ∅)
      (queues : c'.queuedByDevice = ∅) : Shift c c' [] []

/-! ### Fair queues -/

/-- Slots are within the global limit, queues hold operations of their own device, and a queue
waits for its device, for a quarantine or for global capacity. -/
structure Fair (c : HubAdmissionController) : Prop where
  within : c.activeByDevice.size ≤ c.limits.maxGlobalActive
  filed : ∀ d, ∀ operation ∈ c.queueOf d, operation.deviceId = d
  waits : ∀ d, c.queueOf d ≠ [] → d ∈ c.activeByDevice ∨ d ∈ c.blockedByIndeterminate ∨
    c.limits.maxGlobalActive ≤ c.activeByDevice.size

theorem size_insert_new {t : Table String} {k v : String} (new : k ∉ t) :
    (t.insert k v).size = t.size + 1 := by
  rw [Std.ExtTreeMap.size_insert, if_neg fun found => new (Std.ExtTreeMap.contains_iff_mem.mp found)]

theorem Fair.promote {order : IterationOrder}
    (within : c.activeByDevice.size ≤ c.limits.maxGlobalActive)
    (filed : ∀ d, ∀ operation ∈ c.queueOf d, operation.deviceId = d)
    (waits : c.limits.maxGlobalActive ≤ c.activeByDevice.size + 1 ∨ c.Unrivalled deviceId) :
    (c.promote order deviceId).2.Fair := by
  rcases promote_cases order deviceId c with
    ⟨queues, is, same⟩ | ⟨queues, device, head, rest, is, queue, free, unblocked, room, after⟩
  · have exhausted := promote_idle_exhausts (congrArg Prod.fst is)
    rw [is]
    refine ⟨within, ?_, ?_⟩
    · intro d operation among
      rw [withQueues_queueOf, same] at among
      exact filed d operation among
    · intro d waiting
      rw [withQueues_queueOf, same] at waiting
      rcases exhausted with full | none
      · exact .inr (.inr full)
      · rcases none d waiting with active | blocked
        · exact .inl active
        · exact .inr (.inl blocked)
  · -- The started operation takes its own device's slot.
    have own : head.deviceId = device := filed device head (queue ▸ List.mem_cons_self)
    have new : head.deviceId ∉ c.activeByDevice := own ▸ not_mem_iff_get.mpr free
    have grown : (c.activeByDevice.insert head.deviceId head.operationId).size =
        c.activeByDevice.size + 1 := size_insert_new new
    rw [is]
    refine ⟨?_, ?_, ?_⟩
    · show (c.activeByDevice.insert head.deviceId head.operationId).size ≤ c.limits.maxGlobalActive
      omega
    · intro d operation among
      change operation ∈ queues[d]?.getD [] at among
      rw [after] at among
      split at among
      · next same => exact same ▸ filed device operation (queue ▸ List.mem_cons_of_mem _ among)
      · exact filed d operation among
    · intro d waiting
      change queues[d]?.getD [] ≠ [] at waiting
      rw [after] at waiting
      show d ∈ c.activeByDevice.insert head.deviceId head.operationId ∨ _ ∨
        c.limits.maxGlobalActive ≤ (c.activeByDevice.insert head.deviceId head.operationId).size
      by_cases same : device = d
      · exact .inl (Std.ExtTreeMap.mem_insert.mpr (.inl (by rw [own, same]; simp)))
      · rw [if_neg same] at waiting
        rcases waits with full | unrivalled
        · exact .inr (.inr (by omega))
        · -- Only a device that waited for capacity is started, so it is the one preferred.
          have preferred : device = deviceId := by
            by_contra other
            rcases unrivalled device other (by rw [queue]; exact List.cons_ne_nil _ _) with
              active | blocked
            · exact not_mem_iff_get.mpr free active
            · exact not_mem_iff_get.mpr unblocked blocked
          rcases unrivalled d (preferred ▸ Ne.symm same) waiting with active | blocked
          · exact .inl (Std.ExtTreeMap.mem_insert.mpr (.inr active))
          · exact .inr (.inl blocked)

theorem Aside.filed (fair : c.Fair) (aside : Aside deviceId c c')
    (queue : (c'.queueOf deviceId).Sublist (c.queueOf deviceId)) :
    ∀ d, ∀ operation ∈ c'.queueOf d, operation.deviceId = d := by
  intro d operation among
  by_cases same : d = deviceId
  · rw [same] at among ⊢
    exact fair.filed deviceId operation (queue.subset among)
  · exact fair.filed d operation (aside.queues d same ▸ among)

theorem Fair.shift {admitted started : List (OperationExecutionLane × OperationRef)} (fair : c.Fair)
    (shift : Shift c c' admitted started) : c'.Fair := by
  cases shift with
  | still limits active blocked queues =>
    refine ⟨by rw [limits, active]; exact fair.within, ?_, ?_⟩
    · intro d
      rw [queues]
      exact fair.filed d
    · intro d
      rw [queues, limits, active, blocked]
      exact fair.waits d
  | start lane operation limits active blocked queues free room alone =>
    have grown := size_insert_new (v := operation.operationId) free
    refine ⟨by rw [limits, active]; omega, ?_, ?_⟩
    · intro d
      rw [queues]
      exact fair.filed d
    · intro d waiting
      rw [queues] at waiting
      rw [active, blocked]
      rcases fair.waits d waiting with busy | held | full
      · exact .inl (Std.ExtTreeMap.mem_insert.mpr (.inr busy))
      · exact .inr (.inl held)
      · omega
  | wait operation limits active blocked queues busy =>
    refine ⟨by rw [limits, active]; exact fair.within, ?_, ?_⟩
    · intro d other among
      rw [queues] at among
      split at among
      · next same =>
        rcases List.mem_append.mp among with among | among
        · exact fair.filed d other among
        · rw [List.mem_singleton.mp among, same]
      · exact fair.filed d other among
    · intro d waiting
      rw [queues] at waiting
      rw [limits, active, blocked]
      split at waiting
      · next same =>
        rcases busy with busy | full
        · exact .inl (same ▸ busy)
        · exact .inr (.inr full)
      · exact fair.waits d waiting
  | drop limits active blocked queues =>
    refine ⟨by rw [limits, active]; exact fair.within, ?_, ?_⟩
    · exact fun d operation among => fair.filed d operation ((queues d).subset among)
    · intro d waiting
      rw [limits, active, blocked]
      refine fair.waits d fun empty => waiting ?_
      exact List.sublist_nil.mp (empty ▸ queues d)
  | release order deviceId aside queue fewer one =>
    refine Fair.promote (by rw [aside.limits]; exact fewer.trans fair.within)
      (aside.filed fair (queue ▸ List.Sublist.refl _)) ?_
    rw [aside.limits]
    by_cases full : c.limits.maxGlobalActive ≤ c.activeByDevice.size
    · exact .inl (full.trans one)
    refine .inr fun d other waiting => ?_
    rw [aside.queues d other] at waiting
    rw [aside.active d other, aside.blocked d other]
    rcases fair.waits d waiting with busy | held | full'
    · exact .inl busy
    · exact .inr held
    · exact absurd full' full
  | suspend deviceId aside queue blocked unrivalled fewer =>
    refine ⟨by rw [aside.limits]; exact fewer.trans fair.within,
      aside.filed fair (queue ▸ List.Sublist.refl _), ?_⟩
    intro d waiting
    by_cases same : d = deviceId
    · exact .inr (.inl (same ▸ blocked))
    · rw [aside.queues d same] at waiting
      rw [aside.active d same, aside.blocked d same]
      rcases unrivalled d same waiting with busy | held
      · exact .inl busy
      · exact .inr (.inl held)
  | clear deviceId aside active queue =>
    refine ⟨by rw [aside.limits, active]; exact fair.within,
      aside.filed fair (queue ▸ List.nil_sublist _), ?_⟩
    intro d waiting
    have other : d ≠ deviceId := fun same => waiting (same ▸ queue)
    rw [aside.queues d other] at waiting
    rw [aside.blocked d other, aside.limits, active]
    exact fair.waits d waiting
  | restart active queues =>
    refine ⟨by rw [active]; exact Nat.zero_le _, ?_, ?_⟩
    · intro d operation among
      rw [queueOf_of_empty queues] at among
      cases among
    · exact fun d waiting => absurd (queueOf_of_empty queues d) waiting

/-! ### Order of starts -/

/-- The operations of a device. -/
def ofDevice (d : String) (log : List (OperationExecutionLane × OperationRef)) : List OperationRef :=
  (log.filter fun entry => entry.2.deviceId = d).map Prod.snd

/-- What a device started and what still waits for it, in the order of admission. -/
def Ordered (admitted started : List (OperationExecutionLane × OperationRef))
    (c : HubAdmissionController) : Prop :=
  ∀ d, (ofDevice d started ++ c.queueOf d).Sublist (ofDevice d admitted)

section OfDevice

@[simp]
theorem ofDevice_nil (d : String) : ofDevice d [] = [] := rfl

@[simp]
theorem ofDevice_append (d : String) (log more : List (OperationExecutionLane × OperationRef)) :
    ofDevice d (log ++ more) = ofDevice d log ++ ofDevice d more := by
  simp [ofDevice]

theorem ofDevice_singleton (d : String) (lane : OperationExecutionLane) (operation : OperationRef) :
    ofDevice d [(lane, operation)] =
      if operation.deviceId = d then [operation] else [] := by
  by_cases own : operation.deviceId = d
  · simp [ofDevice, own]
  · simp [ofDevice, own]

variable {admitted started newly begun : List (OperationExecutionLane × OperationRef)}
  {c c' : HubAdmissionController}

/-- A promotion moves the head of a queue to the end of what was started. -/
theorem Ordered.promote {order : IterationOrder} {deviceId : String}
    (filed : ∀ d, ∀ operation ∈ c.queueOf d, operation.deviceId = d)
    (ordered : Ordered admitted started c) :
    Ordered admitted (started ++ startedBy (c.promote order deviceId).1)
      (c.promote order deviceId).2 := by
  intro d
  rcases promote_cases order deviceId c with
    ⟨queues, is, same⟩ | ⟨queues, device, head, rest, is, queue, _, _, _, after⟩
  · rw [is]
    show (ofDevice d (started ++ []) ++ queues[d]?.getD []).Sublist _
    rw [same, List.append_nil]
    exact ordered d
  · have own : head.deviceId = device := filed device head (queue ▸ List.mem_cons_self)
    rw [is]
    show (ofDevice d (started ++ [(.normal, head)]) ++ queues[d]?.getD []).Sublist _
    rw [after, ofDevice_append, ofDevice_singleton, own]
    by_cases same : device = d
    · rw [if_pos same, if_pos same, List.append_assoc, List.singleton_append, ← queue, same]
      exact ordered d
    · rw [if_neg same, if_neg same, List.append_nil]
      exact ordered d

/-- Queues only shrink: what was ordered stays ordered. -/
theorem Ordered.shrink (ordered : Ordered admitted started c)
    (queues : ∀ d, (c'.queueOf d).Sublist (c.queueOf d)) : Ordered admitted started c' :=
  fun d => (List.Sublist.append (List.Sublist.refl _) (queues d)).trans (ordered d)

theorem Aside.shrinks {deviceId : String} (aside : Aside deviceId c c')
    (queue : (c'.queueOf deviceId).Sublist (c.queueOf deviceId)) (d : String) :
    (c'.queueOf d).Sublist (c.queueOf d) := by
  by_cases same : d = deviceId
  · exact same ▸ queue
  · exact aside.queues d same ▸ List.Sublist.refl _

theorem Ordered.shift (fair : c.Fair) (ordered : Ordered admitted started c)
    (shift : Shift c c' newly begun) :
    Ordered (admitted ++ newly) (started ++ begun) c' := by
  cases shift with
  | still limits active blocked queues =>
    simpa using ordered.shrink fun d => queues d ▸ List.Sublist.refl _
  | start lane operation limits active blocked queues free room alone =>
    -- What starts at once overtakes nobody: its own device has nothing waiting.
    have nobody : c.queueOf operation.deviceId = [] := by
      by_contra waiting
      rcases alone with unblocked | none
      · rcases fair.waits _ waiting with busy | held | full
        · exact free busy
        · exact unblocked held
        · omega
      · exact waiting none
    intro d
    rw [ofDevice_append, ofDevice_append, ofDevice_singleton, queues]
    by_cases own : operation.deviceId = d
    · have before := ordered d
      rw [← own, nobody, List.append_nil] at before
      rw [← own, nobody, List.append_nil]
      exact List.Sublist.append before (List.Sublist.refl _)
    · rw [if_neg own, List.append_nil, List.append_nil]
      exact ordered d
  | wait operation limits active blocked queues busy =>
    intro d
    rw [ofDevice_append, ofDevice_append, ofDevice_singleton, queues, ofDevice_nil, List.append_nil]
    by_cases own : operation.deviceId = d
    · rw [if_pos own, if_pos own, ← List.append_assoc]
      exact List.Sublist.append (ordered d) (List.Sublist.refl _)
    · rw [if_neg own, if_neg own, List.append_nil]
      exact ordered d
  | drop limits active blocked queues => simpa using ordered.shrink queues
  | @release freed order deviceId aside queue fewer one =>
    have same : (freed.queueOf deviceId).Sublist (c.queueOf deviceId) := queue ▸ List.Sublist.refl _
    rw [List.append_nil]
    exact Ordered.promote (aside.filed fair same) (ordered.shrink (aside.shrinks same))
  | suspend deviceId aside queue blocked unrivalled fewer =>
    simpa using ordered.shrink (aside.shrinks (queue ▸ List.Sublist.refl _))
  | clear deviceId aside active queue =>
    simpa using ordered.shrink (aside.shrinks (queue ▸ List.nil_sublist _))
  | restart active queues =>
    simpa using ordered.shrink fun d => queueOf_of_empty queues d ▸ List.nil_sublist _

end OfDevice

/-! ### Runs -/

/-- One call of the ledger. A call that promotes carries the order in which the queues are
looked through. -/
inductive AdmissionEvent where
  | admitOperation (operation : OperationRef)
  | admitRecoveryReadOnly (operation : OperationRef)
  | markDispatched (operationId : String)
  | cancel (order : IterationOrder) (operationId : String)
  | finalizeTerminal (order : IterationOrder) (operationId : String) (terminal : HubOperationState)
  | failRecoveryReadOnly (order : IterationOrder) (operationId : String)
  | markIndeterminate (operationId : String)
  | resolveIndeterminate (order : IterationOrder) (operationId : String)
      (resolution : IndeterminateResolution)
  | retireIndeterminate (order : IterationOrder) (operationId : String)
  | retireIndeterminateAndCancelQueued (operationId : String)
  | compactRetiredIndeterminateDetail (operationId : String)
  | reconcileIndeterminateTerminal (order : IterationOrder) (operationId : String)
      (terminal : HubOperationState)
  | pruneTerminalBeforeGeneration (deviceId : String) (currentGeneration : Nat)
  | restart (limits : AdmissionLimits) (snapshot : HubAdmissionSnapshot)

/-- A ledger with everything admitted to it and everything started by it so far. -/
structure AdmissionRun where
  controller : HubAdmissionController
  admitted : List (OperationExecutionLane × OperationRef)
  started : List (OperationExecutionLane × OperationRef)

/-- A refused call leaves the ledger. -/
def orElse {α : Type} (c : HubAdmissionController) :
    Except ExecutionError (α × HubAdmissionController) → Option α × HubAdmissionController
  | .error _ => (none, c)
  | .ok (answer, c') => (some answer, c')

def startedByCancellation : CancellationDecision → List (OperationExecutionLane × OperationRef)
  | .cancelledBeforeDispatch next => startedBy next
  | _ => []

def admittedBy (lane : OperationExecutionLane) (operation : OperationRef) :
    Option AdmissionDecision → List (OperationExecutionLane × OperationRef)
  | none => []
  | some _ => [(lane, operation)]

def startedByAdmission (lane : OperationExecutionLane) :
    Option AdmissionDecision → List (OperationExecutionLane × OperationRef)
  | some (.startNow operation) => [(lane, operation)]
  | _ => []

/-- The ledger after a call, what the call admitted and what it started. -/
def respond (c : HubAdmissionController) : AdmissionEvent → HubAdmissionController ×
    List (OperationExecutionLane × OperationRef) × List (OperationExecutionLane × OperationRef)
  | .admitOperation operation =>
    let (answer, c') := c.admitOperation operation
    (c', admittedBy .normal operation answer.toOption, startedByAdmission .normal answer.toOption)
  | .admitRecoveryReadOnly operation =>
    let (answer, c') := c.orElse (c.admitRecoveryReadOnly operation)
    (c', admittedBy .recoveryEvidenceRead operation answer,
      startedByAdmission .recoveryEvidenceRead answer)
  | .markDispatched operationId => ((c.markDispatched operationId).toOption.getD c, [], [])
  | .cancel order operationId =>
    let (answer, c') := c.orElse (c.cancel order operationId)
    (c', [], answer.toList.flatMap startedByCancellation)
  | .finalizeTerminal order operationId terminal =>
    let (answer, c') := c.orElse (c.finalizeTerminal order operationId terminal)
    (c', [], answer.toList.flatMap startedBy)
  | .failRecoveryReadOnly order operationId =>
    let (answer, c') := c.orElse (c.failRecoveryReadOnly order operationId)
    (c', [], answer.toList.flatMap startedBy)
  | .markIndeterminate operationId =>
    let (answer, c') := c.orElse (c.markIndeterminate operationId)
    (c', [], answer.toList.flatMap startedBy)
  | .resolveIndeterminate order operationId resolution =>
    let (answer, c') := c.orElse (c.resolveIndeterminate order operationId resolution)
    (c', [], answer.toList.flatMap startedBy)
  | .retireIndeterminate order operationId =>
    let (answer, c') := c.orElse (c.retireIndeterminate order operationId)
    (c', [], answer.toList.flatMap startedBy)
  | .retireIndeterminateAndCancelQueued operationId =>
    ((c.orElse (c.retireIndeterminateAndCancelQueued operationId)).2, [], [])
  | .compactRetiredIndeterminateDetail operationId =>
    ((c.compactRetiredIndeterminateDetail operationId).toOption.getD c, [], [])
  | .reconcileIndeterminateTerminal order operationId terminal =>
    let (answer, c') := c.orElse (c.reconcileIndeterminateTerminal order operationId terminal)
    (c', [], answer.toList.flatMap startedBy)
  | .pruneTerminalBeforeGeneration deviceId currentGeneration =>
    ((c.orElse (c.pruneTerminalBeforeGeneration deviceId currentGeneration)).2, [], [])
  | .restart limits snapshot => ((restoreAfterRestart limits snapshot).toOption.getD c, [], [])

def AdmissionRun.next (r : AdmissionRun) (event : AdmissionEvent) : AdmissionRun :=
  let (controller, admitted, started) := r.controller.respond event
  ⟨controller, r.admitted ++ admitted, r.started ++ started⟩

/-- An operation is quarantined only while no other device waits for global capacity, and a
recovery read is admitted only while nothing waits for its device. -/
def Considerate (c : HubAdmissionController) : AdmissionEvent → Prop
  | .markIndeterminate operationId =>
    ∀ op, c.operations[operationId]? = some op → c.Unrivalled op.operation.deviceId
  | .admitRecoveryReadOnly operation => c.queueOf operation.deviceId = []
  | _ => True

instance (c : HubAdmissionController) : ∀ event : AdmissionEvent, Decidable (c.Considerate event)
  | .markIndeterminate operationId =>
    inferInstanceAs (Decidable (∀ op ∈ c.operations[operationId]?, c.Unrivalled op.operation.deviceId))
  | .admitRecoveryReadOnly operation =>
    inferInstanceAs (Decidable (c.queueOf operation.deviceId = []))
  | .admitOperation _ | .markDispatched _ | .cancel .. | .finalizeTerminal ..
  | .failRecoveryReadOnly ..
  | .resolveIndeterminate .. | .retireIndeterminate .. | .retireIndeterminateAndCancelQueued _
  | .compactRetiredIndeterminateDetail _ | .reconcileIndeterminateTerminal ..
  | .pruneTerminalBeforeGeneration .. | .restart .. => inferInstanceAs (Decidable True)

theorem Shift.refl (c : HubAdmissionController) : Shift c c [] [] := .still rfl rfl rfl fun _ => rfl

section Calls
variable {c : HubAdmissionController}

theorem shift_settle (order : IterationOrder) (operationId : String) (op : HubOperation)
    (settled : HubOperationState) :
    Shift c (c.settle order operationId op settled).2 []
      (startedBy (c.settle order operationId op settled).1) := by
  refine .release order op.operation.deviceId ⟨rfl, fun d other => ?_, fun _ _ => Iff.rfl,
    fun _ _ => rfl⟩ rfl Std.ExtTreeMap.size_erase_le ?_
  · show d ∈ c.activeByDevice.erase op.operation.deviceId ↔ d ∈ c.activeByDevice
    simp [other.symm]
  · exact Std.ExtTreeMap.size_le_size_erase

theorem shift_unblock (order : IterationOrder) (operationId : String) (op : HubOperation)
    (settled : HubOperationState) :
    Shift c (c.unblock order operationId op settled).2 []
      (startedBy (c.unblock order operationId op settled).1) := by
  refine .release order op.operation.deviceId ⟨rfl, fun _ _ => Iff.rfl, fun d other => ?_,
    fun _ _ => rfl⟩ rfl (Nat.le_refl _) (Nat.le_succ _)
  show d ∈ c.blockedByIndeterminate.erase op.operation.deviceId ↔ d ∈ c.blockedByIndeterminate
  simp [other.symm]

theorem aside_retire (operationId : String) (op : HubOperation) :
    Aside op.operation.deviceId c (c.retire operationId op) := by
  refine ⟨rfl, fun _ _ => Iff.rfl, fun d other => ?_, fun _ _ => rfl⟩
  show d ∈ c.blockedByIndeterminate.erase op.operation.deviceId ↔ d ∈ c.blockedByIndeterminate
  simp [other.symm]

/-- A call that answers with a successor is a shift when it succeeds, and nothing when refused. -/
theorem shift_completion {result : Except ExecutionError (CompletionDecision × HubAdmissionController)}
    (ok : ∀ pair, result = .ok pair → Shift c pair.2 [] (startedBy pair.1)) :
    Shift c (c.orElse result).2 [] ((c.orElse result).1.toList.flatMap startedBy) := by
  cases result with
  | error e => exact Shift.refl c
  | ok pair =>
    have shift := ok pair rfl
    simpa [orElse] using shift

theorem shift_admit (operation : OperationRef) :
    Shift c (c.respond (.admitOperation operation)).1 (c.respond (.admitOperation operation)).2.1
      (c.respond (.admitOperation operation)).2.2 := by
  simp only [respond, admitOperation]
  split
  · exact Shift.refl c
  split
  · exact Shift.refl c
  split
  · exact Shift.refl c
  next unblocked =>
  split
  · next free =>
    exact .start .normal operation rfl rfl rfl (fun _ => rfl) free.1 free.2
      (.inl (not_mem_iff_get.mpr unblocked))
  · next busy =>
    split
    · refine .still rfl rfl rfl fun d => ?_
      show (c.queuedByDevice.insert operation.deviceId _)[d]?.getD [] = _
      rw [queueOf_insert]
      split
      · next same => rw [same]
      · rfl
    · refine .wait operation rfl rfl rfl (fun d => ?_) ?_
      · show (c.queuedByDevice.insert operation.deviceId _)[d]?.getD [] = _
        rw [queueOf_insert]
        split
        · next same => rw [same]
        · rfl
      · by_contra idle
        rw [not_or, Nat.not_le] at idle
        exact busy idle

theorem shift_admitRecoveryReadOnly {operation : OperationRef}
    (considerate : c.Considerate (.admitRecoveryReadOnly operation)) :
    Shift c (c.respond (.admitRecoveryReadOnly operation)).1
      (c.respond (.admitRecoveryReadOnly operation)).2.1
      (c.respond (.admitRecoveryReadOnly operation)).2.2 := by
  simp only [respond, admitRecoveryReadOnly]
  split
  · exact Shift.refl c
  split
  · exact Shift.refl c
  split
  · exact Shift.refl c
  split
  · exact Shift.refl c
  next idle =>
  rw [not_or, Nat.not_le] at idle
  exact .start .recoveryEvidenceRead operation rfl rfl rfl (fun _ => rfl) idle.1 idle.2
    (.inr considerate)

theorem removeQueued_sublist (deviceId operationId d : String) :
    ((c.removeQueued deviceId operationId).queueOf d).Sublist (c.queueOf d) := by
  unfold removeQueued
  split
  · exact List.Sublist.refl _
  · next queue found =>
    have own : c.queueOf deviceId = queue := by rw [queueOf, found, Option.getD_some]
    dsimp only
    split
    · show ((c.queuedByDevice.erase deviceId)[d]?.getD []).Sublist _
      rw [queueOf_erase]
      split
      · exact List.nil_sublist _
      · exact List.Sublist.refl _
    · show ((c.queuedByDevice.insert deviceId _)[d]?.getD []).Sublist _
      rw [queueOf_insert]
      split
      · next same => exact same ▸ own ▸ List.eraseP_sublist
      · exact List.Sublist.refl _

theorem removeQueued_frame (deviceId operationId : String) :
    (c.removeQueued deviceId operationId).limits = c.limits ∧
      (c.removeQueued deviceId operationId).activeByDevice = c.activeByDevice ∧
      (c.removeQueued deviceId operationId).blockedByIndeterminate = c.blockedByIndeterminate := by
  unfold removeQueued
  split <;> exact ⟨rfl, rfl, rfl⟩

theorem shift_cancel (order : IterationOrder) (operationId : String) :
    Shift c (c.respond (.cancel order operationId)).1 (c.respond (.cancel order operationId)).2.1
      (c.respond (.cancel order operationId)).2.2 := by
  simp only [respond, cancel]
  split
  · exact Shift.refl c
  next op _ =>
  split
  · obtain ⟨limits, active, blocked⟩ := c.removeQueued_frame op.operation.deviceId operationId
    exact .drop limits active blocked (c.removeQueued_sublist op.operation.deviceId operationId)
  · have shift := c.shift_settle order operationId op .cancelled
    simpa [orElse, startedByCancellation] using shift
  · exact .still rfl rfl rfl fun _ => rfl
  · exact Shift.refl c
  · exact Shift.refl c

theorem shift_markIndeterminate {operationId : String}
    (considerate : c.Considerate (.markIndeterminate operationId)) :
    Shift c (c.respond (.markIndeterminate operationId)).1 []
      (c.respond (.markIndeterminate operationId)).2.2 := by
  refine shift_completion fun pair is => ?_
  unfold markIndeterminate at is
  split at is
  · cases is
  split at is
  · cases is
  next op found =>
  split at is
  · cases is
  cases is
  refine .suspend op.operation.deviceId ⟨rfl, fun d other => ?_, fun d other => ?_, fun _ _ => rfl⟩ rfl
    ?_ (considerate op found) Std.ExtTreeMap.size_erase_le
  · show d ∈ c.activeByDevice.erase op.operation.deviceId ↔ d ∈ c.activeByDevice
    simp [other.symm]
  · show d ∈ c.blockedByIndeterminate.insert op.operation.deviceId operationId ↔ _
    simp [other.symm]
  · exact Std.ExtTreeMap.mem_insert_self

theorem shift_retireAndCancelQueued (operationId : String) :
    Shift c (c.respond (.retireIndeterminateAndCancelQueued operationId)).1 [] [] := by
  simp only [respond, retireIndeterminateAndCancelQueued]
  split
  · exact Shift.refl c
  next op _ =>
  split
  · exact Shift.refl c
  have retired := c.aside_retire operationId op
  refine .clear op.operation.deviceId ⟨retired.limits, retired.active, retired.blocked, fun d other => ?_⟩
    rfl ?_
  · show (c.queuedByDevice.erase op.operation.deviceId)[d]?.getD [] = _
    rw [queueOf_erase, if_neg other.symm]
  · show (c.queuedByDevice.erase op.operation.deviceId)[op.operation.deviceId]?.getD [] = []
    rw [queueOf_erase, if_pos rfl]

theorem shift_restart (limits : AdmissionLimits) (snapshot : HubAdmissionSnapshot) :
    Shift c (c.respond (.restart limits snapshot)).1 [] [] := by
  simp only [respond]
  cases restored : restoreAfterRestart limits snapshot with
  | error e => exact Shift.refl c
  | ok c' =>
    obtain ⟨active, queues⟩ : c'.activeByDevice = ∅ ∧ c'.queuedByDevice = ∅ := by
      unfold restoreAfterRestart at restored
      split at restored
      · cases restored
      split at restored
      · cases restored
      next fresh =>
      rw [eq_empty_of_new fresh] at restored
      split at restored
      · cases restored
      split at restored
      · cases restored
      cases restored
      exact ⟨rfl, rfl⟩
    exact .restart active queues

/-- Every considerate call is a shift. -/
theorem shift_respond {event : AdmissionEvent} (considerate : c.Considerate event) :
    Shift c (c.respond event).1 (c.respond event).2.1 (c.respond event).2.2 := by
  cases event with
  | admitOperation operation => exact shift_admit operation
  | admitRecoveryReadOnly operation => exact shift_admitRecoveryReadOnly considerate
  | markDispatched operationId =>
    simp only [respond, markDispatched]
    split
    · exact Shift.refl c
    split
    · exact Shift.refl c
    · exact .still rfl rfl rfl fun _ => rfl
  | cancel order operationId => exact shift_cancel order operationId
  | finalizeTerminal order operationId terminal =>
    refine shift_completion fun pair is => ?_
    unfold finalizeTerminal at is
    repeat' split at is
    all_goals cases is
    exact shift_settle order operationId _ terminal
  | failRecoveryReadOnly order operationId =>
    refine shift_completion fun pair is => ?_
    unfold failRecoveryReadOnly at is
    repeat' split at is
    all_goals cases is
    exact shift_settle order operationId _ .failed
  | markIndeterminate operationId => exact shift_markIndeterminate considerate
  | resolveIndeterminate order operationId resolution =>
    refine shift_completion fun pair is => ?_
    unfold resolveIndeterminate at is
    split at is
    all_goals cases is
    exact shift_unblock order operationId _ _
  | retireIndeterminate order operationId =>
    refine shift_completion fun pair is => ?_
    unfold retireIndeterminate at is
    split at is
    · cases is
    next op _ =>
    cases is
    exact .release order op.operation.deviceId (aside_retire operationId op) rfl (Nat.le_refl _)
      (Nat.le_succ _)
  | retireIndeterminateAndCancelQueued operationId => exact shift_retireAndCancelQueued operationId
  | compactRetiredIndeterminateDetail operationId =>
    simp only [respond, compactRetiredIndeterminateDetail]
    repeat' split
    all_goals exact .still rfl rfl rfl fun _ => rfl
  | reconcileIndeterminateTerminal order operationId terminal =>
    refine shift_completion fun pair is => ?_
    unfold reconcileIndeterminateTerminal at is
    repeat' split at is
    all_goals cases is
    exact shift_unblock order operationId _ terminal
  | pruneTerminalBeforeGeneration deviceId currentGeneration =>
    simp only [respond, pruneTerminalBeforeGeneration]
    split
    · exact Shift.refl c
    · exact .still rfl rfl rfl fun _ => rfl
  | restart limits snapshot => exact shift_restart limits snapshot

end Calls

/-! ### What holds along every run -/

/-- Queues are fair, and what starts is in the order of admission. -/
structure Kept (r : AdmissionRun) : Prop where
  fair : r.controller.Fair
  ordered : Ordered r.admitted r.started r.controller

theorem Kept.next {r : AdmissionRun} {event : AdmissionEvent} (kept : Kept r)
    (considerate : r.controller.Considerate event) : Kept (r.next event) :=
  have shift := shift_respond considerate
  ⟨kept.fair.shift shift, kept.ordered.shift kept.fair shift⟩

theorem kept_empty (limits : AdmissionLimits) : Kept ⟨empty limits, [], []⟩ := by
  refine ⟨⟨Nat.zero_le _, ?_, ?_⟩, ?_⟩
  · intro d operation among
    cases among
  · exact fun d waiting => absurd (queueOf_of_empty rfl d) waiting
  · intro d
    exact List.Sublist.refl _

/-- Admission starts an operation at once only on a free, unblocked device with capacity left. -/
theorem of_startNow {operation started : OperationRef}
    (now : (c.admitOperation operation).1 = .ok (.startNow started)) :
    operation.deviceId ∉ c.blockedByIndeterminate ∧ operation.deviceId ∉ c.activeByDevice ∧
      c.activeByDevice.size < c.limits.maxGlobalActive := by
  unfold admitOperation at now
  split at now
  · cases now
  split at now
  · cases now
  split at now
  · cases now
  next unblocked =>
  split at now
  · next free => exact ⟨not_mem_iff_get.mpr unblocked, free⟩
  · split at now <;> cases now

/-- In a run that quarantines nothing while another device waits for capacity, and reads for
recovery only beside an empty queue, no queue is stranded and none is overtaken. -/
theorem queues_keep_moving {limits : AdmissionLimits} {fresh : HubAdmissionController}
    (created : new limits = .ok fresh) {events : List AdmissionEvent}
    (considerate : Machine.Meets AdmissionRun.next (fun r => r.controller.Considerate)
      ⟨fresh, [], []⟩ events) :
    let r := run AdmissionRun.next ⟨fresh, [], []⟩ events
    (∀ d, r.controller.queueOf d ≠ [] →
      d ∈ r.controller.activeByDevice ∨ d ∈ r.controller.blockedByIndeterminate ∨
        r.controller.activeCount = r.controller.limits.maxGlobalActive) ∧
    (∀ operation started,
      (r.controller.admitOperation operation).1 = .ok (.startNow started) →
        r.controller.queueOf operation.deviceId = []) ∧
    ∀ d, (ofDevice d r.started).Sublist (ofDevice d r.admitted) := by
  intro r
  have kept : Kept r :=
    run_invariant (fun _ _ before meets => Kept.next before meets)
      (eq_empty_of_new created ▸ kept_empty limits) considerate
  refine ⟨fun d waiting => ?_, fun operation started now => ?_, fun d => ?_⟩
  · rcases kept.fair.waits d waiting with busy | held | full
    · exact .inl busy
    · exact .inr (.inl held)
    · exact .inr (.inr (Nat.le_antisymm kept.fair.within full))
  · obtain ⟨unblocked, free, room⟩ := of_startNow now
    by_contra waiting
    rcases kept.fair.waits _ waiting with busy | held | full
    · exact free busy
    · exact unblocked held
    · omega
  · exact (List.sublist_append_left _ _).trans (kept.ordered d)

/-- A run of a ledger with one slot for all devices. -/
def onOneSlot (events : List AdmissionEvent) : AdmissionRun :=
  run AdmissionRun.next ⟨empty ⟨1, 4⟩, [], []⟩ events

/-- The second device waits for the slot, and starts when the first is done. -/
def sharedSlot : List AdmissionEvent :=
  [.admitOperation ⟨"a", 1, "a1"⟩, .markDispatched "a1", .admitOperation ⟨"b", 1, "b1"⟩,
    .finalizeTerminal .given "a1" .completed, .admitOperation ⟨"b", 1, "b2"⟩, .markDispatched "b1",
    .markIndeterminate "b1", .resolveIndeterminate .given "b1" .confirmedCompleted]

theorem sharedSlot_keeps_moving :
    Machine.Meets AdmissionRun.next (fun r => r.controller.Considerate)
        ⟨empty ⟨1, 4⟩, [], []⟩ sharedSlot ∧
      (ofDevice "b" (onOneSlot sharedSlot).started).Sublist
        (ofDevice "b" (onOneSlot sharedSlot).admitted) :=
  have created : new ⟨1, 4⟩ = .ok (empty ⟨1, 4⟩) := rfl
  ⟨by decide +kernel, (queues_keep_moving created (by decide +kernel)).2.2 "b"⟩

/-- The first device's operation is quarantined while the second waits for its slot. -/
def strandedQueue : List AdmissionEvent :=
  [.admitOperation ⟨"a", 1, "a1"⟩, .markDispatched "a1", .admitOperation ⟨"b", 1, "b1"⟩,
    .markIndeterminate "a1"]

/-- A later operation of the second device starts, runs and hands the slot to the earlier one. -/
def overtakenQueue : List AdmissionEvent :=
  strandedQueue ++ [.admitOperation ⟨"b", 1, "b2"⟩, .markDispatched "b2",
    .finalizeTerminal .given "b2" .completed]

/-- A recovery read runs on a quarantined device ahead of what waits there. -/
def overtakingRead : List AdmissionEvent :=
  [.admitOperation ⟨"a", 1, "a1"⟩, .markDispatched "a1", .admitOperation ⟨"a", 1, "a2"⟩,
    .markIndeterminate "a1",
    .admitRecoveryReadOnly ⟨"a", 1, "a3"⟩, .markDispatched "a3",
    .finalizeTerminal .given "a3" .completed, .resolveIndeterminate .given "a1" .confirmedCompleted]

/-- A queue can wait for nothing, a later operation can start before it, and a recovery read
always does. -/
theorem queues_can_be_stranded :
    new ⟨1, 4⟩ = .ok (empty ⟨1, 4⟩) ∧
    ((onOneSlot strandedQueue).controller.queueOf "b" = [⟨"b", 1, "b1"⟩] ∧
      "b" ∉ (onOneSlot strandedQueue).controller.activeByDevice ∧
      "b" ∉ (onOneSlot strandedQueue).controller.blockedByIndeterminate ∧
      (onOneSlot strandedQueue).controller.activeCount = 0 ∧
      ((onOneSlot strandedQueue).controller.admitOperation ⟨"b", 1, "b2"⟩).1 =
        .ok (.startNow ⟨"b", 1, "b2"⟩)) ∧
    (ofDevice "b" (onOneSlot overtakenQueue).admitted = [⟨"b", 1, "b1"⟩, ⟨"b", 1, "b2"⟩] ∧
      ofDevice "b" (onOneSlot overtakenQueue).started = [⟨"b", 1, "b2"⟩, ⟨"b", 1, "b1"⟩]) ∧
    ofDevice "a" (onOneSlot overtakingRead).admitted =
      [⟨"a", 1, "a1"⟩, ⟨"a", 1, "a2"⟩, ⟨"a", 1, "a3"⟩] ∧
    ofDevice "a" (onOneSlot overtakingRead).started =
      [⟨"a", 1, "a1"⟩, ⟨"a", 1, "a3"⟩, ⟨"a", 1, "a2"⟩] := by
  refine ⟨rfl, ?_, ?_, ?_⟩ <;> decide +kernel

end Gateway.Execution.HubAdmissionController
