import Gateway.Control.Registry
import Gateway.Execution.Restart

/-! The Hub's authoritative state as a checkpoint store keeps it.

A record carries a revision and the epoch of the writer that published it. -/
namespace Gateway.Persistence
open Control Execution

inductive PersistenceError where
  | io | serialization | unsafePath | unsafePermissions | checkpointTooLarge | noCheckpoint
  | sequenceContention | conditionalConflict | publicationUncertain | invalidRetention
  | invalidState
  deriving DecidableEq

def hubM1StateSchemaVersion : Nat := 7

def hubPersistenceFenceSchemaVersion : Nat := 1

structure HubPersistenceFenceSnapshot where
  schemaVersion : Nat
  revision : Nat
  writerEpoch : Nat

structure HubPersistentState where
  schemaVersion : Nat
  registry : DeviceRegistrySnapshot
  execution : AuthoritativeSafetySnapshot
  durableFence : Option HubPersistenceFenceSnapshot

def HubPersistenceFenceSnapshot.validate (fence : HubPersistenceFenceSnapshot) :
    Except PersistenceError Unit :=
  if fence.schemaVersion ≠ hubPersistenceFenceSchemaVersion ∨ fence.revision = 0 ∨
      fence.writerEpoch = 0 then
    .error .invalidState
  else .ok ()

end Gateway.Persistence
