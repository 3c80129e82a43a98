import Gateway.Data.Minting
import Gateway.Execution.Records

/-! The Hub's opaque references.

A reference is a random name the Hub hands out. Its record binds it to an owner and to a device
session, and holds the Agent's private locator. Records of process output expire when they are
looked at too late; records of jobs are dropped by any call once they have expired. -/
namespace Gateway.Hub
open Data Execution

/-- Sixty-four bit numbers that stop at the largest one. -/
def saturate (n : Nat) : Nat :=
  min n (2 ^ 64 - 1)

/-! ### Process output -/

inductive EphemeralDataKind where
  | processStdout | processStderr | directoryContinuation
  deriving DecidableEq

structure HubEphemeralRefLimits where
  maxRefs : Nat
  maxRefsPerOwner : Nat
  maxBytesPerOwner : Nat
  ttlMs : Nat

def HubEphemeralRefLimits.default : HubEphemeralRefLimits :=
  ⟨1024, 128, 16 * 1024 * 1024, 5 * 60 * 1000⟩

def maxAgentLocatorBytes : Nat := 512

structure HubEphemeralRefRecord where
  publicRef : String
  owner : OperationOwner
  deviceId : String
  deviceGeneration : Nat
  capabilityRevision : Nat
  operationId : Option String
  kind : EphemeralDataKind
  agentLocator : String
  bytes : Nat
  expiresAtMs : Nat
  deriving DecidableEq

structure ResolvedHubEphemeralRef where
  agentLocator : String
  bytes : Nat
  expiresAtMs : Nat
  operationId : Option String
  kind : EphemeralDataKind
  deriving DecidableEq

inductive HubEphemeralRefError where
  | invalidLimits | invalidBinding | invalidAgentLocator | refLimitExceeded | ownerRefLimitExceeded
  | ownerByteLimitExceeded | identifierCollision | unknownRef | expired | ownerMismatch
  | deviceMismatch | generationMismatch | capabilityRevisionMismatch | kindMismatch
  | operationMismatch

def HubEphemeralRefError.safeErrorCode : HubEphemeralRefError → String
  | .invalidLimits => "ephemeral_ref_invalid_limits"
  | .invalidBinding => "ephemeral_ref_invalid_binding"
  | .invalidAgentLocator => "ephemeral_ref_invalid_locator"
  | .refLimitExceeded => "ephemeral_ref_limit"
  | .ownerRefLimitExceeded => "ephemeral_ref_owner_limit"
  | .ownerByteLimitExceeded => "ephemeral_ref_owner_bytes"
  | .identifierCollision => "ephemeral_ref_collision"
  | .unknownRef => "ephemeral_ref_stale"
  | .expired => "ephemeral_ref_expired"
  | .ownerMismatch => "ephemeral_ref_stale"
  | .deviceMismatch => "ephemeral_ref_device_mismatch"
  | .generationMismatch => "ephemeral_ref_generation_mismatch"
  | .capabilityRevisionMismatch => "ephemeral_ref_revision_mismatch"
  | .kindMismatch => "ephemeral_ref_kind_mismatch"
  | .operationMismatch => "ephemeral_ref_operation_mismatch"

structure HubEphemeralRefRegistry where
  limits : HubEphemeralRefLimits
  refs : Table HubEphemeralRefRecord

namespace HubEphemeralRefRegistry

def new (limits : HubEphemeralRefLimits) : Except HubEphemeralRefError HubEphemeralRefRegistry :=
  if limits.maxRefs = 0 ∨ limits.maxRefsPerOwner = 0 ∨ limits.maxRefsPerOwner > limits.maxRefs ∨
      limits.maxBytesPerOwner = 0 ∨ limits.ttlMs = 0 then
    .error .invalidLimits
  else .ok ⟨limits, ∅⟩

variable (registry : HubEphemeralRefRegistry)

def prune (nowMs : Nat) : HubEphemeralRefRegistry :=
  {registry with refs := registry.refs.filter fun _ record => nowMs ≤ record.expiresAtMs}

def validBinding (deviceId : String) (deviceGeneration capabilityRevision : Nat)
    (operationId : Option String) : Bool :=
  !isBlank deviceId && deviceGeneration ≠ 0 && capabilityRevision ≠ 0 &&
    operationId.all fun value => !isBlank value

/-- A reference under the first unused of eight drawn names. -/
def mint (owner : OperationOwner) (deviceId : String)
    (deviceGeneration capabilityRevision : Nat) (operationId : Option String)
    (kind : EphemeralDataKind) (agentLocator : String) (bytes nowMs : Nat) (drawn : List String) :
    Except HubEphemeralRefError String × HubEphemeralRefRegistry :=
  let registry := registry.prune nowMs
  let owned := registry.refs.values.filter fun record => record.owner = owner
  let ownerBytes := saturate (owned.map HubEphemeralRefRecord.bytes).sum
  if ¬validBinding deviceId deviceGeneration capabilityRevision operationId then
    (.error .invalidBinding, registry)
  else if agentLocator.isEmpty ∨ agentLocator.utf8ByteSize > maxAgentLocatorBytes ∨
      agentLocator.toList.any isControl then
    (.error .invalidAgentLocator, registry)
  else if registry.refs.size ≥ registry.limits.maxRefs then (.error .refLimitExceeded, registry)
  else if owned.length ≥ registry.limits.maxRefsPerOwner then
    (.error .ownerRefLimitExceeded, registry)
  else if saturate (ownerBytes + bytes) > registry.limits.maxBytesPerOwner then
    (.error .ownerByteLimitExceeded, registry)
  else if nowMs + registry.limits.ttlMs ≥ 2 ^ 64 then (.error .invalidBinding, registry)
  else match Table.firstUnused 8 registry.refs drawn with
    | none => (.error .identifierCollision, registry)
    | some publicRef =>
      let record : HubEphemeralRefRecord :=
        ⟨publicRef, owner, deviceId, deviceGeneration, capabilityRevision, operationId, kind,
          agentLocator, bytes, nowMs + registry.limits.ttlMs⟩
      (.ok publicRef, {registry with refs := registry.refs.insert publicRef record})

/-- Expiry is looked at before the owner, and an expired record is dropped. -/
def resolveOwned (publicRef : String) (owner : OperationOwner)
    (deviceId : String) (deviceGeneration capabilityRevision nowMs : Nat) :
    Except HubEphemeralRefError ResolvedHubEphemeralRef × HubEphemeralRefRegistry :=
  match registry.refs[publicRef]? with
  | none => (.error .unknownRef, registry)
  | some record =>
    if nowMs > record.expiresAtMs then
      (.error .expired, {registry with refs := registry.refs.erase publicRef})
    else if record.publicRef ≠ publicRef then (.error .unknownRef, registry)
    else if record.owner ≠ owner then (.error .ownerMismatch, registry)
    else if record.deviceId ≠ deviceId then (.error .deviceMismatch, registry)
    else if record.deviceGeneration ≠ deviceGeneration then (.error .generationMismatch, registry)
    else if record.capabilityRevision ≠ capabilityRevision then
      (.error .capabilityRevisionMismatch, registry)
    else
      (.ok ⟨record.agentLocator, record.bytes, record.expiresAtMs, record.operationId, record.kind⟩,
        registry)

def resolve (publicRef : String) (owner : OperationOwner)
    (deviceId : String) (deviceGeneration capabilityRevision : Nat) (operationId : Option String)
    (expectedKind : EphemeralDataKind) (nowMs : Nat) :
    Except HubEphemeralRefError ResolvedHubEphemeralRef × HubEphemeralRefRegistry :=
  match registry.resolveOwned publicRef owner deviceId deviceGeneration capabilityRevision nowMs with
  | (.error e, registry) => (.error e, registry)
  | (.ok resolved, registry) =>
    if resolved.kind ≠ expectedKind then (.error .kindMismatch, registry)
    else if resolved.operationId ≠ operationId then (.error .operationMismatch, registry)
    else (.ok resolved, registry)

def remove (publicRef : String) (owner : OperationOwner) : Bool × HubEphemeralRefRegistry :=
  if registry.refs[publicRef]?.any fun record => record.owner = owner then
    (true, {registry with refs := registry.refs.erase publicRef})
  else (false, registry)

end HubEphemeralRefRegistry

/-! ### Jobs -/

structure HubManagedJobRefLimits where
  maxRefs : Nat
  maxRefsPerOwner : Nat

structure ResolvedManagedJobRef where
  agentLocator : String
  sourceOperationId : String

inductive HubManagedJobRefError where
  | invalidLimits | invalidBinding | unavailable | refLimitExceeded | ownerRefLimitExceeded
  | identifierCollision

structure ManagedJobRefEntry where
  owner : OperationOwner
  deviceId : String
  generation : Nat
  capabilityRevision : Nat
  agentLocator : Option String
  sourceOperationId : String
  expiresAtMs : Nat

/-- Whether an entry belongs to an owner in a session. -/
def ManagedJobRefEntry.boundTo (entry : ManagedJobRefEntry) (owner : OperationOwner)
    (deviceId : String) (generation capabilityRevision : Nat) : Bool :=
  entry.owner = owner && entry.deviceId = deviceId && entry.generation = generation &&
    entry.capabilityRevision = capabilityRevision

/-- The names are drawn with a lead that tells jobs from browser tests. -/
structure HubManagedJobRefRegistry where
  limits : HubManagedJobRefLimits
  lead : String
  refs : Table ManagedJobRefEntry

namespace HubManagedJobRefRegistry

def prune (registry : HubManagedJobRefRegistry) (nowMs : Nat) : HubManagedJobRefRegistry :=
  {registry with refs := registry.refs.filter fun _ entry => entry.expiresAtMs > nowMs}

/-- Everything that does not fit is told alike. -/
def resolveOwned (registry : HubManagedJobRefRegistry) (publicRef : String) (owner : OperationOwner)
    (deviceId : String) (generation capabilityRevision nowMs : Nat) :
    Except HubManagedJobRefError ResolvedManagedJobRef × HubManagedJobRefRegistry :=
  let registry := registry.prune nowMs
  match registry.refs[publicRef]? with
  | none => (.error .unavailable, registry)
  | some entry =>
    if ¬entry.boundTo owner deviceId generation capabilityRevision then
      (.error .unavailable, registry)
    else match entry.agentLocator with
      | none => (.error .unavailable, registry)
      | some agentLocator => (.ok ⟨agentLocator, entry.sourceOperationId⟩, registry)

end HubManagedJobRefRegistry

end Gateway.Hub
