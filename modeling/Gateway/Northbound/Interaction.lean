import Gateway.Data.Minting
import Gateway.Data.Text

/-! Interaction contexts and the references that belong to them.

A context binds the workflow of one client to a device, a generation of its Agent and a revision
of its capabilities. What a backend calls an element or a file is shown to the client under a
random name, which is good for the context it was minted in and no other. -/
namespace Gateway.Northbound
open Data

/-! ### Contexts -/

inductive InteractionScope where
  | windowScoped
  | desktopScoped

structure InteractionContextBinding where
  id : String
  issuer : String
  subject : String
  deviceId : String
  deviceGeneration : Nat
  capabilityRevision : Nat
  scope : InteractionScope
  createdAtMs : Nat
  lastUsedAtMs : Nat

/-! ### Scoped references -/

inductive ScopedRefKind where
  | snapshot | element | browserTarget | browserTab | browserElement | uploadFile | downloadFile
  deriving DecidableEq

structure ScopedBackendRef where
  publicRef : String
  contextId : String
  deviceId : String
  deviceGeneration : Nat
  capabilityRevision : Nat
  kind : ScopedRefKind
  backendRef : String

inductive ScopedRefError where
  | invalidBackendRef | refLimitExceeded | identifierCollision | unknownRef | contextMismatch
  | generationMismatch | capabilityRevisionMismatch | kindMismatch

structure ScopedBackendRefRegistry where
  maxRefsPerContext : Nat
  refs : Table ScopedBackendRef

def maxBackendRefBytes : Nat := 4 * 1024

namespace ScopedBackendRefRegistry

def mint (registry : ScopedBackendRefRegistry) (context : InteractionContextBinding)
    (kind : ScopedRefKind) (backendRef : String) (drawn : List String) :
    Except ScopedRefError (String × ScopedBackendRefRegistry) :=
  if backendRef.isEmpty || backendRef.utf8ByteSize > maxBackendRefBytes then
    .error .invalidBackendRef
  else if (registry.refs.values.filter fun reference => reference.contextId = context.id).length ≥
      registry.maxRefsPerContext then .error .refLimitExceeded
  else match registry.refs.firstUnused 4 drawn with
    | none => .error .identifierCollision
    | some publicRef =>
      let reference : ScopedBackendRef :=
        ⟨publicRef, context.id, context.deviceId, context.deviceGeneration,
          context.capabilityRevision, kind, backendRef⟩
      .ok (publicRef, { registry with refs := registry.refs.insert publicRef reference })

def resolve (registry : ScopedBackendRefRegistry) (publicRef : String)
    (context : InteractionContextBinding) (expectedKind : ScopedRefKind) :
    Except ScopedRefError String :=
  match registry.refs[publicRef]? with
  | none => .error .unknownRef
  | some reference =>
    if reference.publicRef ≠ publicRef ∨ reference.contextId ≠ context.id ∨
        reference.deviceId ≠ context.deviceId then .error .contextMismatch
    else if reference.deviceGeneration ≠ context.deviceGeneration then .error .generationMismatch
    else if reference.capabilityRevision ≠ context.capabilityRevision then
      .error .capabilityRevisionMismatch
    else if reference.kind ≠ expectedKind then .error .kindMismatch
    else .ok reference.backendRef

end ScopedBackendRefRegistry

end Gateway.Northbound
