import Gateway.Persistence.Store

/-! The Hub's state at a restart.

What is read from a checkpoint is the registry with every device offline and the ledger of
operations; the two must agree on the generations in which operations were retired. -/
namespace Gateway.Hub
open Data Control Execution Persistence

def legacyM1StateSchemaVersion : Nat := 5

def m1StateSchemaVersion : Nat := 6

/-- Why a state that was read is not restored. -/
inductive RestoreError where
  | control (error : TrustError)
  | execution (error : ExecutionError)
  | unsupportedSchema (got : Nat)
  | invalidState
  deriving DecidableEq

def validateHubStateSchema (got : Nat) : Except RestoreError Unit :=
  if got = legacyM1StateSchemaVersion ∨ got = m1StateSchemaVersion ∨ got = hubM1StateSchemaVersion then
    .ok ()
  else .error (.unsupportedSchema got)

variable {scheme : SignatureScheme} (registry : DeviceRegistry scheme)

def markAllOffline : DeviceRegistry scheme :=
  {registry with devices := registry.devices.map fun _ device => {device with capabilities := none}}

@[simp]
theorem markAllOffline_get (deviceId : String) : (markAllOffline registry).devices[deviceId]? =
      registry.devices[deviceId]?.map fun device => {device with capabilities := none} := by
  simp [markAllOffline]

/-- A retirement was authorized in a later generation than its operation's, which the device
has reached. -/
def authorizedBy (retirement : RetirementRecord) : Bool :=
  registry.devices[retirement.operation.deviceId]?.any fun device =>
    retirement.authorizedDeviceGeneration ≤ device.generation &&
      retirement.operation.deviceGeneration < retirement.authorizedDeviceGeneration

/-- The state that is written; `none` is the panic on a retired id that has no tombstone. -/
def capture (execution : AuthoritativeOperationController) : Option HubPersistentState :=
  execution.snapshotForRestart.map fun snapshot =>
    ⟨hubM1StateSchemaVersion, registry.snapshot, snapshot, none⟩

def validateFence : Option HubPersistenceFenceSnapshot → Except RestoreError Unit
  | none => .ok ()
  | some fence => fence.validate.mapError fun _ => .invalidState

def restore (scheme : SignatureScheme) (limits : AdmissionLimits) (state : HubPersistentState) :
    Except RestoreError (DeviceRegistry scheme × AuthoritativeOperationController) := do
  validateHubStateSchema state.schemaVersion
  validateFence state.durableFence
  let registry ← (DeviceRegistry.fromPersistedSnapshot scheme state.registry).mapError .control
  let registry := markAllOffline registry
  let execution ← (AuthoritativeOperationController.restoreAfterRestart limits state.execution).mapError
    .execution
  if ¬execution.retirements.all (authorizedBy registry) then throw .invalidState
  return (registry, execution)

end Gateway.Hub
