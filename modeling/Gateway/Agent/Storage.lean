import Gateway.Control.Message
import Gateway.Data.Result
import Gateway.Data.Table
import Gateway.Data.Text

/-! What a device keeps and writes for the Hub: ranges of retained process output, and
workspace files written under a precondition.

What the file system answers is given; the order of the checks and what is reported
about the bytes are the program's. -/
namespace Gateway.Agent
open Data Device Control Result

/-! ### Retained output -/

inductive EphemeralDataKind where
  | processStdout | processStderr | directoryContinuation
  deriving DecidableEq

inductive AgentEphemeralDataError where
  | invalidBinding | objectTooLarge | objectLimitExceeded | byteLimitExceeded | identifierCollision
  | unknownLocator | expired | deviceMismatch | generationMismatch | capabilityRevisionMismatch
  | kindMismatch | operationMismatch | readTooLarge | invalidRange | invalidObject | io

def ephemeralDataErrorCode : AgentEphemeralDataError → DeviceErrorCode
  | .unknownLocator | .expired => .notFound
  | .deviceMismatch | .generationMismatch | .capabilityRevisionMismatch | .kindMismatch
  | .operationMismatch => .permissionDenied
  | .readTooLarge | .invalidRange | .invalidBinding | .invalidObject | .objectTooLarge
  | .objectLimitExceeded | .byteLimitExceeded | .identifierCollision => .invalidRequest
  | .io => .ioFailure

structure AgentEphemeralBinding where
  deviceId : String
  deviceGeneration : Nat
  capabilityRevision : Nat
  operationId : Option String
  kind : EphemeralDataKind

structure AgentEphemeralRecord where
  binding : AgentEphemeralBinding
  bytes : Nat
  expiresAtMs : Nat

structure AgentEphemeralDataStore where
  maxReadBytes : Nat
  records : Table AgentEphemeralRecord
  totalBytes : Nat

structure EphemeralDataRange where
  bytes : List UInt8
  offset : Nat
  nextOffset : Nat
  totalBytes : Nat
  eof : Bool

def validateAgentRecord (record : AgentEphemeralRecord) (wanted : AgentEphemeralBinding) :
    Except AgentEphemeralDataError Unit :=
  if record.binding.deviceId ≠ wanted.deviceId then .error .deviceMismatch
  else if record.binding.deviceGeneration ≠ wanted.deviceGeneration then .error .generationMismatch
  else if record.binding.capabilityRevision ≠ wanted.capabilityRevision then
    .error .capabilityRevisionMismatch
  else if record.binding.kind ≠ wanted.kind then .error .kindMismatch
  else if record.binding.operationId ≠ wanted.operationId then .error .operationMismatch
  else .ok ()

/-- How the file of a record fares: whether it could be removed, and what it shows from the
offset on once it is proved to be the private file that was kept. -/
structure RetainedFile where
  removed : Bool
  opened : Except AgentEphemeralDataError (List UInt8)

/-- Forget a record, unless its file cannot be removed. -/
def AgentEphemeralDataStore.removeLocator (store : AgentEphemeralDataStore) (file : RetainedFile)
    (locator : String) : Except AgentEphemeralDataError AgentEphemeralDataStore :=
  match store.records[locator]? with
  | none => .ok store
  | some record =>
    if file.removed then
      .ok {store with
        records := store.records.erase locator
        totalBytes := store.totalBytes - record.bytes}
    else .error .io

def AgentEphemeralDataStore.readRange (store : AgentEphemeralDataStore) (file : RetainedFile)
    (locator : String) (wanted : AgentEphemeralBinding) (offset maxBytes nowMs : Nat) :
    Except AgentEphemeralDataError EphemeralDataRange × AgentEphemeralDataStore :=
  if maxBytes = 0 ∨ maxBytes > store.maxReadBytes then (.error .readTooLarge, store)
  else match store.records[locator]? with
    | none => (.error .unknownLocator, store)
    | some record =>
      if nowMs > record.expiresAtMs then
        match store.removeLocator file locator with
        | .error e => (.error e, store)
        | .ok store => (.error .expired, store)
      else
        let read : Except AgentEphemeralDataError EphemeralDataRange := do
          validateAgentRecord record wanted
          if offset > record.bytes then .error .invalidRange
          else
            let rest ← file.opened
            let bytes := rest.take (min (record.bytes - offset) maxBytes)
            match checkedAdd offset bytes.length with
            | none => .error .invalidRange
            | some nextOffset =>
              .ok ⟨bytes, offset, nextOffset, record.bytes, decide (nextOffset ≥ record.bytes)⟩
        (read, store)

theorem AgentEphemeralDataStore.readRange_fits {store store' : AgentEphemeralDataStore}
    {file : RetainedFile} {locator : String} {wanted : AgentEphemeralBinding}
    {offset maxBytes nowMs : Nat} {range : EphemeralDataRange}
    (read : store.readRange file locator wanted offset maxBytes nowMs = (.ok range, store')) :
    rangeFits range.bytes range.offset range.nextOffset range.totalBytes range.eof offset maxBytes =
      true := by
  unfold readRange at read
  split at read
  · cases read
  split at read
  · cases read
  · next record found =>
    split at read
    · split at read
      · cases read
      · cases read
    · have answered := congrArg Prod.fst read
      simp only [bind_eq_ok, guard_eq_ok] at answered
      obtain ⟨-, -, inside, rest, -, answered⟩ := answered
      split at answered
      · cases answered
      · next nextOffset sum =>
        cases answered
        have length : (rest.take (min (record.bytes - offset) maxBytes)).length ≤
            min (record.bytes - offset) maxBytes := List.length_take_le _ _
        have total : nextOffset = offset +
            (rest.take (min (record.bytes - offset) maxBytes)).length := by
          unfold checkedAdd at sum
          split at sum
          · exact (Option.some.inj sum).symm
          · cases sum
        simp only [rangeFits, sum, decide_true, Bool.true_and, Bool.and_true, Bool.and_eq_true,
          decide_eq_true_eq]
        omega

/-! ### Workspace files -/

def maxWorkspacePathBytes : Nat := 4 * 1024

inductive WorkspaceMutationError where
  | noAllowedRoots | rootNotDirectory | deniedPathOutsideRoot | invalidLimit | invalidPath
  | pathTooLarge | pathDenied | invalidPrecondition | invalidPayload | preconditionFailed
  | payloadTooLarge | existingFileTooLarge | hardLinkDenied | tempNameExhausted | io
  | outcomeUnproven

inductive TargetState where
  | absent
  | existing (sha256 : String)

/-- How the file system fares with one write: resolving the parent, the deny list, the state of
the target, staging a temporary file, and publishing it. -/
structure WorkspaceTarget where
  resolved : Except WorkspaceMutationError Unit
  denied : Except WorkspaceMutationError Bool
  initial : Except WorkspaceMutationError TargetState
  staged : Except WorkspaceMutationError Unit
  published : Except WorkspaceMutationError Unit

/-- A digest is 64 lower-case hexadecimal digits. -/
def validatePrecondition : WorkspaceWritePrecondition → Except WorkspaceMutationError Unit
  | .expectedAbsent => .ok ()
  | .expectedSha256 sha256 =>
    if sha256.utf8ByteSize ≠ 64 ∨
        ¬(toUtf8 sha256).all (fun b => (48 ≤ b && b ≤ 57) || (97 ≤ b && b ≤ 102)) then
      .error .invalidPrecondition
    else .ok ()

/-- Whether the file is new, if the target is as expected. -/
def createdUnder : WorkspaceWritePrecondition → TargetState → Except WorkspaceMutationError Bool
  | .expectedAbsent, .absent => .ok true
  | .expectedAbsent, .existing _ => .error .preconditionFailed
  | .expectedSha256 sha256, .existing found =>
    if found = sha256 then .ok false else .error .preconditionFailed
  | .expectedSha256 _, .absent => .error .preconditionFailed

def writeFile (maxWriteBytes : Nat) (sha256Hex : List UInt8 → String) (target : WorkspaceTarget)
    (path : String) (bytes : List UInt8) (precondition : WorkspaceWritePrecondition) :
    Except WorkspaceMutationError DeviceResult :=
  if bytes.length > maxWriteBytes then .error .payloadTooLarge
  else if path = "" ∨ path.utf8ByteSize > maxWorkspacePathBytes then .error .pathTooLarge
  else do
    validatePrecondition precondition
    target.resolved
    let denied ← target.denied
    if denied then .error .pathDenied
    else
      let initial ← target.initial
      let created ← createdUnder precondition initial
      target.staged
      target.published
      .ok (.workspaceFileWritten bytes.length (sha256Hex bytes) created)

theorem createdUnder_eq {precondition : WorkspaceWritePrecondition} {state : TargetState}
    {created : Bool} (ok : createdUnder precondition state = .ok created) :
    created = decide (precondition = .expectedAbsent) := by
  unfold createdUnder at ok
  split at ok
  · cases ok
    rfl
  · cases ok
  · split at ok
    · cases ok
      rfl
    · cases ok
  · cases ok

theorem writeFile_eq_ok {maxWriteBytes : Nat} {sha256Hex : List UInt8 → String}
    {target : WorkspaceTarget} {path : String} {bytes : List UInt8}
    {precondition : WorkspaceWritePrecondition} {result : DeviceResult}
    (written : writeFile maxWriteBytes sha256Hex target path bytes precondition = .ok result) :
    result = .workspaceFileWritten bytes.length (sha256Hex bytes)
      (decide (precondition = .expectedAbsent)) := by
  simp only [writeFile, guard_eq_ok, bind_eq_ok] at written
  obtain ⟨-, -, -, -, -, -, denied, -, -, initial, -, created, known, -, -, -, -, same⟩ := written
  cases same
  rw [createdUnder_eq known]

end Gateway.Agent
