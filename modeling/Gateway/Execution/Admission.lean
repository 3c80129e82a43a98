import Gateway.Execution.Tombstone

/-! The Hub's bounded admission ledger.

Each device has at most one active operation and a bounded queue; a device with
an indeterminate operation admits nothing but recovery reads until that
operation is resolved, reconciled or retired. A transition that can fail only
before it changes anything returns `Except` around its result; `admitOperation`
can leave an empty queue entry behind a refusal, so it returns the ledger beside
its answer. -/
namespace Gateway.Execution
open Data ReplayDenyTombstone

/-- One admitted operation. Its durable form has the same fields. -/
structure HubOperation where
  operation : OperationRef
  state : HubOperationState
  deriving DecidableEq

structure HubAdmissionSnapshot where
  operations : List HubOperation
  retiredIndeterminateOperationIds : List String
  retiredIndeterminateTombstones : List ReplayDenyTombstone

structure HubAdmissionController where
  limits : AdmissionLimits
  activeByDevice : Table String
  operations : Table HubOperation
  queuedByDevice : Table (List OperationRef)
  blockedByIndeterminate : Table String
  retiredIndeterminate : Names
  recoveryReadOnlyOperations : Names

namespace HubAdmissionController

/-- The ledger with nothing admitted, under limits already validated. -/
def empty (limits : AdmissionLimits) : HubAdmissionController :=
  ⟨limits, ∅, ∅, ∅, ∅, ∅, ∅⟩

def new (limits : AdmissionLimits) : Except ExecutionError HubAdmissionController :=
  limits.validate.map empty

variable (c : HubAdmissionController)

/-- The operations waiting for a device, oldest first. -/
def queueOf (deviceId : String) : List OperationRef :=
  c.queuedByDevice[deviceId]?.getD []

def activeCount : Nat :=
  c.activeByDevice.size

def state (operationId : String) : Option HubOperationState :=
  c.operations[operationId]?.map HubOperation.state

/-- Give a recorded operation a new state. -/
def setState (operationId : String) (op : HubOperation)
    (state : HubOperationState) : HubAdmissionController :=
  {c with operations := c.operations.insert operationId {op with state := state}}

/-! ### Starting work -/

/-- Take a device's slot. A queued record is overwritten, a new one inserted. -/
def start (operation : OperationRef) : HubAdmissionController :=
  {c with
    activeByDevice := c.activeByDevice.insert operation.deviceId operation.operationId
    operations := c.operations.insert operation.operationId ⟨operation, .activeNotDispatched⟩}

/-- Take the oldest waiting operation; an emptied queue is dropped. -/
def popQueued (deviceId : String) : Option OperationRef × HubAdmissionController :=
  match c.queuedByDevice[deviceId]? with
  | none => (none, c)
  | some [] => (none, {c with queuedByDevice := c.queuedByDevice.erase deviceId})
  | some [next] => (some next, {c with queuedByDevice := c.queuedByDevice.erase deviceId})
  | some (next :: rest) =>
    (some next, {c with queuedByDevice := c.queuedByDevice.insert deviceId rest})

/-- Start the first waiting operation of the first device that is free and not blocked. -/
def startFirst : List String → HubAdmissionController → Option OperationRef × HubAdmissionController
  | [], c => (none, c)
  | deviceId :: rest, c =>
    if deviceId ∈ c.activeByDevice ∨ deviceId ∈ c.blockedByIndeterminate then startFirst rest c
    else match c.popQueued deviceId with
      | (some next, c') => (some next, c'.start next)
      | (none, c') => startFirst rest c'

variable (order : IterationOrder)

/-- Promote one waiting operation into a free slot, its own device's first. -/
def startNextForAvailableCapacity (preferred : Option String)
    (c : HubAdmissionController) : Option OperationRef × HubAdmissionController :=
  if c.activeByDevice.size ≥ c.limits.maxGlobalActive then (none, c)
  else match startFirst preferred.toList c with
    | (some next, c') => (some next, c')
    | (none, c') => startFirst (order.arrange c'.queuedByDevice.keys) c'

/-- Release `deviceId`'s slot to whoever is waiting. -/
def promote (deviceId : String) (c : HubAdmissionController) :
    CompletionDecision × HubAdmissionController :=
  match c.startNextForAvailableCapacity order (some deviceId) with
  | (none, c') => (.idle, c')
  | (some next, c') => (.startNext next, c')

/-! ### Admission -/

def admitOperation (operation : OperationRef) :
    Except ExecutionError AdmissionDecision × HubAdmissionController :=
  if isBlank operation.operationId ∨ isBlank operation.deviceId then (.error .invalidOperation, c)
  else if operation.operationId ∈ c.operations ∨ operation.operationId ∈ c.retiredIndeterminate then
    (.error .operationReplay, c)
  else match c.blockedByIndeterminate[operation.deviceId]? with
    | some operationId => (.error (.deviceIndeterminate operationId), c)
    | none =>
      if operation.deviceId ∉ c.activeByDevice ∧ c.activeByDevice.size < c.limits.maxGlobalActive then
        (.ok (.startNow operation), c.start operation)
      else if (c.queueOf operation.deviceId).length ≥ c.limits.maxQueuedPerDevice then
        -- The queue entry is made before its length is checked.
        (.error .backpressureRejected,
          {c with queuedByDevice :=
            c.queuedByDevice.insert operation.deviceId (c.queueOf operation.deviceId)})
      else
        (.ok (.queued ((c.queueOf operation.deviceId).length + 1)),
          {c with
            queuedByDevice :=
              c.queuedByDevice.insert operation.deviceId (c.queueOf operation.deviceId ++ [operation])
            operations := c.operations.insert operation.operationId ⟨operation, .queued⟩})

/-- Admission in the recovery lane. The retired ids are not consulted here. -/
def admitRecoveryReadOnly (operation : OperationRef) :
    Except ExecutionError (AdmissionDecision × HubAdmissionController) :=
  if isBlank operation.operationId ∨ isBlank operation.deviceId then .error .invalidOperation
  else if operation.operationId ∈ c.operations then .error .operationReplay
  else if operation.deviceId ∉ c.blockedByIndeterminate then .error .invalidTransition
  else if operation.deviceId ∈ c.activeByDevice ∨ c.activeByDevice.size ≥ c.limits.maxGlobalActive then
    .error .backpressureRejected
  else
    let c' := c.start operation
    .ok (.startNow operation,
      {c' with
        recoveryReadOnlyOperations := c'.recoveryReadOnlyOperations.insert operation.operationId})

/-! ### Settlement -/

def markDispatched (operationId : String) : Except ExecutionError HubAdmissionController :=
  match c.operations[operationId]? with
  | none => .error .unknownOperation
  | some op =>
    if op.state ≠ .activeNotDispatched then .error .invalidTransition
    else .ok (c.setState operationId op .dispatched)

/-- Record a settled state, leave the slot and hand it on. -/
def settle (operationId : String) (op : HubOperation)
    (settled : HubOperationState) (c : HubAdmissionController) :
    CompletionDecision × HubAdmissionController :=
  let c' := c.setState operationId op settled
  promote order op.operation.deviceId
    {c' with
      activeByDevice := c'.activeByDevice.erase op.operation.deviceId
      recoveryReadOnlyOperations := c'.recoveryReadOnlyOperations.erase operationId}

/-- Take a cancelled operation out of its queue; an emptied queue is dropped. -/
def removeQueued (deviceId operationId : String) : HubAdmissionController :=
  match c.queuedByDevice[deviceId]? with
  | none => c
  | some queue =>
    let queue := queue.eraseP fun waiting => waiting.operationId = operationId
    {c with queuedByDevice :=
      if queue.isEmpty then c.queuedByDevice.erase deviceId
      else c.queuedByDevice.insert deviceId queue}

variable (c : HubAdmissionController)

def cancel (operationId : String) :
    Except ExecutionError (CancellationDecision × HubAdmissionController) :=
  match c.operations[operationId]? with
  | none => .error .unknownOperation
  | some op =>
    match op.state with
    | .queued =>
      .ok (.cancelledBeforeDispatch .idle,
        (c.removeQueued op.operation.deviceId operationId).setState operationId op .cancelled)
    | .activeNotDispatched =>
      let (next, c') := c.settle order operationId op .cancelled
      .ok (.cancelledBeforeDispatch next, c')
    | .dispatched =>
      .ok (.sendCancellation op.operation, c.setState operationId op .cancelRequested)
    | .cancelRequested => .ok (.sendCancellation op.operation, c)
    | terminal => .ok (.alreadyTerminal terminal, c)

def finalizeTerminal (operationId : String) (terminal : HubOperationState) :
    Except ExecutionError (CompletionDecision × HubAdmissionController) :=
  if ¬terminal.isTerminal then .error .invalidTransition
  else match c.operations[operationId]? with
    | none => .error .unknownOperation
    | some op =>
      if ¬op.state.isInFlight then .error .invalidTransition
      else .ok (c.settle order operationId op terminal)

def failRecoveryReadOnly
    (operationId : String) : Except ExecutionError (CompletionDecision × HubAdmissionController) :=
  if operationId ∉ c.recoveryReadOnlyOperations then .error .invalidTransition
  else match c.operations[operationId]? with
    | none => .error .unknownOperation
    | some op =>
      if ¬op.state.isInFlight then .error .invalidTransition
      else .ok (c.settle order operationId op .failed)

def markIndeterminate (operationId : String) :
    Except ExecutionError (CompletionDecision × HubAdmissionController) :=
  if operationId ∈ c.recoveryReadOnlyOperations then .error .invalidTransition
  else match c.operations[operationId]? with
    | none => .error .unknownOperation
    | some op =>
      if ¬op.state.isInFlight then .error .invalidTransition
      else
        let c' := c.setState operationId op .indeterminate
        .ok (.idle,
          {c' with
            activeByDevice := c'.activeByDevice.erase op.operation.deviceId
            blockedByIndeterminate :=
              c'.blockedByIndeterminate.insert op.operation.deviceId operationId})

/-! ### Leaving quarantine -/

/-- The quarantined operation that blocks its own device. -/
def blockingOperation (operationId : String) : Except ExecutionError HubOperation :=
  match c.operations[operationId]? with
  | none => .error .unknownOperation
  | some op =>
    if op.state ≠ .indeterminate then .error .invalidTransition
    else if c.blockedByIndeterminate[op.operation.deviceId]? ≠ some operationId then
      .error .invalidTransition
    else .ok op

/-- Settle the blocking operation and free its device. -/
def unblock (operationId : String) (op : HubOperation)
    (settled : HubOperationState) (c : HubAdmissionController) :
    CompletionDecision × HubAdmissionController :=
  let c' := c.setState operationId op settled
  promote order op.operation.deviceId
    {c' with blockedByIndeterminate := c'.blockedByIndeterminate.erase op.operation.deviceId}

/-- The terminal state an operator's finding stands for. -/
def resolvedState : IndeterminateResolution → HubOperationState
  | .confirmedCompleted | .confirmedEffectAppliedUncommitted => .completed
  | .confirmedNotExecuted => .cancelled

def resolveIndeterminate (operationId : String) (resolution : IndeterminateResolution) :
    Except ExecutionError (CompletionDecision × HubAdmissionController) :=
  match c.blockingOperation operationId with
  | .error e => .error e
  | .ok op => .ok (c.unblock order operationId op (resolvedState resolution))

def reconcileIndeterminateTerminal (operationId : String) (terminal : HubOperationState) :
    Except ExecutionError (CompletionDecision × HubAdmissionController) :=
  if ¬terminal.isTerminal then .error .invalidTransition
  else match c.blockingOperation operationId with
    | .error e => .error e
    | .ok op => .ok (c.unblock order operationId op terminal)

/-- The quarantined operation a retirement may release. -/
def retirableOperation (operationId : String) : Except ExecutionError HubOperation :=
  match c.operations[operationId]? with
  | none => .error .unknownOperation
  | some op =>
    if op.state ≠ .indeterminate ∨ operationId ∈ c.retiredIndeterminate then
      .error .invalidTransition
    else if c.retiredIndeterminate.size ≥ maxRetiredOperationTombstones then
      .error .retirementCapacityExhausted
    else if c.blockedByIndeterminate[op.operation.deviceId]? ≠ some operationId then
      .error .invalidTransition
    else .ok op

/-- Free the device and deny the id for good; the record keeps its ambiguous state. -/
def retire (operationId : String) (op : HubOperation) : HubAdmissionController :=
  {c with
    blockedByIndeterminate := c.blockedByIndeterminate.erase op.operation.deviceId
    retiredIndeterminate := c.retiredIndeterminate.insert operationId}

def retireIndeterminate
    (operationId : String) : Except ExecutionError (CompletionDecision × HubAdmissionController) :=
  match c.retirableOperation operationId with
  | .error e => .error e
  | .ok op => .ok (promote order op.operation.deviceId (c.retire operationId op))

/-- Cancel each waiting operation in turn. -/
def cancelAll (operations : Table HubOperation) (queued : List OperationRef) : Table HubOperation :=
  queued.foldl (fun operations waiting =>
    match operations[waiting.operationId]? with
    | none => operations
    | some op => operations.insert waiting.operationId {op with state := .cancelled}) operations

def retireIndeterminateAndCancelQueued (operationId : String) :
    Except ExecutionError (List OperationRef × HubAdmissionController) :=
  match c.retirableOperation operationId with
  | .error e => .error e
  | .ok op =>
    let queued := c.queueOf op.operation.deviceId
    if queued.any fun waiting => c.state waiting.operationId ≠ some .queued then
      .error .invalidTransition
    else
      let c' := c.retire operationId op
      .ok (queued,
        {c' with
          queuedByDevice := c'.queuedByDevice.erase op.operation.deviceId
          operations := cancelAll c'.operations queued})

/-! ### Forgetting -/

def compactRetiredIndeterminateDetail (operationId : String) :
    Except ExecutionError HubAdmissionController :=
  if operationId ∉ c.retiredIndeterminate then .error .invalidTransition
  else match c.operations[operationId]? with
    | none => .error .unknownOperation
    | some op =>
      if op.state ≠ .indeterminate ∨
          c.blockedByIndeterminate.values.any (fun blocked => blocked = operationId) then
        .error .invalidTransition
      else
        .ok {c with
          operations := c.operations.erase operationId
          recoveryReadOnlyOperations := c.recoveryReadOnlyOperations.erase operationId}

/-- An old terminal record of the device. -/
def isPrunable (deviceId : String) (currentGeneration : Nat) (op : HubOperation) : Bool :=
  op.operation.deviceId = deviceId && op.operation.deviceGeneration < currentGeneration &&
    op.state.isTerminal

def pruneTerminalBeforeGeneration (deviceId : String)
    (currentGeneration : Nat) : Except ExecutionError (Nat × HubAdmissionController) :=
  if isBlank deviceId ∨ currentGeneration = 0 then .error .invalidOperation
  else
    let removed := c.operations.filter fun _ op => isPrunable deviceId currentGeneration op
    .ok (removed.size,
      {c with
        operations := c.operations.filter fun _ op => !isPrunable deviceId currentGeneration op
        recoveryReadOnlyOperations :=
          c.recoveryReadOnlyOperations.filter fun operationId => operationId ∉ removed})

/-! ### Restart -/

/-- What a state becomes when the Hub stops: undispatched work never ran, a
dispatched recovery read is abandoned, any other dispatched work is ambiguous. -/
def stateAfterRestart (recoveryReadOnly : Bool) : HubOperationState → HubOperationState
  | .queued | .activeNotDispatched => .cancelled
  | .dispatched | .cancelRequested => if recoveryReadOnly then .failed else .indeterminate
  | settled => settled

/-- The operations as they will be read back, by id. -/
def snapshotOperations : List HubOperation :=
  sortBy (fun persisted => persisted.operation.operationId)
    (c.operations.values.map fun op =>
      ⟨op.operation,
        stateAfterRestart (decide (op.operation.operationId ∈ c.recoveryReadOnlyOperations)) op.state⟩)

/-- The durable form; `none` is the panic on a retired id that has no tombstone. -/
def snapshotForRestart : Option HubAdmissionSnapshot :=
  (c.retiredIndeterminate.toList.mapM fun operationId =>
      (fromOperationId operationId).toOption).map fun tombstones =>
    ⟨c.snapshotOperations, [], sortBy encodedId tombstones⟩

/-- The retired ids a durable form carries. -/
def restoreRetired (snapshot : HubAdmissionSnapshot) : Except ExecutionError Names :=
  if ¬snapshot.retiredIndeterminateOperationIds.isEmpty ∧
      ¬snapshot.retiredIndeterminateTombstones.isEmpty then .error .invalidSnapshot
  else if ¬snapshot.retiredIndeterminateTombstones.isEmpty then
    if snapshot.retiredIndeterminateTombstones.length > maxRetiredOperationTombstones then
      .error .invalidSnapshot
    else match snapshot.retiredIndeterminateTombstones.mapM operationId with
      | .error e => .error e
      | .ok decoded =>
        let names : Names := .ofList decoded
        if names.size ≠ decoded.length then .error .invalidSnapshot else .ok names
  else if snapshot.retiredIndeterminateOperationIds.length > maxRetiredOperationTombstones then
    .error .invalidSnapshot
  else
    let names : Names := .ofList snapshot.retiredIndeterminateOperationIds
    if names.size ≠ snapshot.retiredIndeterminateOperationIds.length ∨
        names.toList.any (fun operationId =>
          isBlank operationId || operationId.utf8ByteSize > maxRetiredOperationIdBytes) then
      .error .invalidSnapshot
    else .ok names

/-- The operations read back, and the devices that unretired ambiguous ones block. A repeated
id, an unsettled state or a second blocking operation of one device is refused. -/
def restoreOperations (retired : Names) (persisted : List HubOperation) :
    Option (Table HubOperation × Table String) := do
  let operations ← Table.collect (fun op : HubOperation => op.operation.operationId)
    (fun op => !op.state.isUnsettled) persisted ∅
  let blocking ← Table.collect (fun op : HubOperation => op.operation.deviceId) (fun _ => true)
    (persisted.filter fun op => op.state = .indeterminate && op.operation.operationId ∉ retired) ∅
  some (operations, blocking.map fun _ op => op.operation.operationId)

def restoreAfterRestart (limits : AdmissionLimits) (snapshot : HubAdmissionSnapshot) :
    Except ExecutionError HubAdmissionController :=
  match restoreRetired snapshot with
  | .error e => .error e
  | .ok retired =>
    match new limits with
    | .error e => .error e
    | .ok controller =>
      match restoreOperations retired snapshot.operations with
      | none => .error .invalidSnapshot
      | some (operations, blocked) =>
        if retired.toList.any fun operationId =>
            operations[operationId]?.any fun op => op.state ≠ .indeterminate then
          .error .invalidSnapshot
        else
          .ok {controller with
            operations := operations
            blockedByIndeterminate := blocked
            retiredIndeterminate := retired}

end HubAdmissionController

end Gateway.Execution
