import Gateway.Control.Registry
import Gateway.Data.Json

/-! Replacing a key by another one.

A rotation record names the key it replaces and is signed by the old and by the new key. The
Agent keeps the Hub's key together with the epoch of its last rotation, and takes only the next
one. The registry keeps no epoch: a device's rotation is compared with an epoch the caller gives,
and the key it names is not compared at all. -/
namespace Gateway.Control
open Data Result VerifyingKey

def trustSchemaVersion : Nat := 1

inductive RotationError where
  | control (error : TrustError)
  | unsupportedSchema (got : Nat)
  | rotationEpochMismatch (expected got : Nat)
  | previousKeyMismatch | invalidPublicKey | invalidRotationSignature

def validateTrustSchema (got : Nat) : Except RotationError Unit :=
  if got = trustSchemaVersion then .ok () else .error (.unsupportedSchema got)

/-! ### Records -/

structure DeviceKeyRotation where
  schemaVersion : Nat
  deviceId : String
  previousKeyId : String
  nextPublicKey : KeyBytes
  rotationEpoch : Nat
  oldSignature : List UInt8
  newSignature : List UInt8
  deriving DecidableEq

/-- What both keys sign. -/
def DeviceKeyRotation.unsigned (rotation : DeviceKeyRotation) : List UInt8 :=
  Json.encode (.object [("schema_version", .ofNat rotation.schemaVersion),
    ("device_id", .text rotation.deviceId), ("previous_key_id", .text rotation.previousKeyId),
    ("next_public_key", .ofBytes rotation.nextPublicKey.toList),
    ("rotation_epoch", .ofNat rotation.rotationEpoch)])

structure HubKeyRotation where
  schemaVersion : Nat
  previousKeyId : String
  nextPublicKey : KeyBytes
  rotationEpoch : Nat
  oldSignature : List UInt8
  newSignature : List UInt8
  deriving DecidableEq

def hubRotationBytes (schemaVersion : Nat) (previousKeyId : String) (nextPublicKey : KeyBytes)
    (rotationEpoch : Nat) : List UInt8 :=
  Json.encode (.object [("domain", .text "cumg-v2-m0-hub-key-rotation"),
    ("schema_version", .ofNat schemaVersion), ("previous_key_id", .text previousKeyId),
    ("next_public_key", .ofBytes nextPublicKey.toList), ("rotation_epoch", .ofNat rotationEpoch)])

/-! ### Applying a record -/

variable {scheme : SignatureScheme}

def applyDeviceKeyRotation (registry : DeviceRegistry scheme) (rotation : DeviceKeyRotation)
    (expectedEpoch : Nat) : Except RotationError (DeviceRegistry scheme) := do
  validateTrustSchema rotation.schemaVersion
  if rotation.rotationEpoch ≠ expectedEpoch ∨ expectedEpoch = 0 then
    throw (.rotationEpochMismatch expectedEpoch rotation.rotationEpoch)
  (registry.rotateDeviceKey rotation.deviceId rotation.nextPublicKey.toList rotation.unsigned
    rotation.oldSignature rotation.newSignature).mapError .control

structure TrustedHubIdentity (scheme : SignatureScheme) where
  current : VerifyingKey scheme
  epoch : Nat

/-- The largest 64-bit number. -/
def maxEpoch : Nat := 2 ^ 64 - 1

def verifySignature (verifier : VerifyingKey scheme) (bytes signature : List UInt8) :
    Except RotationError Unit :=
  if ¬verifier.verify bytes signature then .error .invalidRotationSignature else .ok ()

def TrustedHubIdentity.applyRotation (trusted : TrustedHubIdentity scheme)
    (rotation : HubKeyRotation) : Except RotationError (TrustedHubIdentity scheme) := do
  validateTrustSchema rotation.schemaVersion
  -- The next epoch stops at the largest number.
  let expectedEpoch := min (trusted.epoch + 1) maxEpoch
  if rotation.rotationEpoch ≠ expectedEpoch then
    throw (.rotationEpochMismatch expectedEpoch rotation.rotationEpoch)
  if rotation.previousKeyId ≠ verifyingKeyId trusted.current then throw .previousKeyMismatch
  match fromBytes scheme rotation.nextPublicKey with
  | none => throw .invalidPublicKey
  | some next =>
    let bytes := hubRotationBytes rotation.schemaVersion rotation.previousKeyId rotation.nextPublicKey
      rotation.rotationEpoch
    verifySignature trusted.current bytes rotation.oldSignature
    verifySignature next bytes rotation.newSignature
    return ⟨next, rotation.rotationEpoch⟩

/-! ### Chains of records -/

/-- What records of either kind say. -/
structure RotationView where
  previousKeyId : String
  nextPublicKey : KeyBytes
  rotationEpoch : Nat
  message : List UInt8
  oldSignature : List UInt8
  newSignature : List UInt8

def DeviceKeyRotation.view (rotation : DeviceKeyRotation) : RotationView :=
  ⟨rotation.previousKeyId, rotation.nextPublicKey, rotation.rotationEpoch, rotation.unsigned,
    rotation.oldSignature, rotation.newSignature⟩

def HubKeyRotation.view (rotation : HubKeyRotation) : RotationView :=
  ⟨rotation.previousKeyId, rotation.nextPublicKey, rotation.rotationEpoch,
    hubRotationBytes rotation.schemaVersion rotation.previousKeyId rotation.nextPublicKey
      rotation.rotationEpoch, rotation.oldSignature, rotation.newSignature⟩

/-- An accepted record, the key it replaced and the key it installed. -/
structure Acceptance (scheme : SignatureScheme) (R : Type) where
  record : R
  replaced : VerifyingKey scheme
  installed : VerifyingKey scheme

section Chains
variable {R : Type} {view : R → RotationView}

/-- The record names the key it replaced, and both keys signed it. -/
structure Acceptance.Links (view : R → RotationView) (accepted : Acceptance scheme R) : Prop where
  named : (view accepted.record).previousKeyId = verifyingKeyId accepted.replaced
  next : (view accepted.record).nextPublicKey = accepted.installed.bytes
  oldSigned : accepted.replaced.verify (view accepted.record).message
    (view accepted.record).oldSignature = true
  newSigned : accepted.installed.verify (view accepted.record).message
    (view accepted.record).newSignature = true

/-- Accepted records, oldest first: each links two keys, the epochs increase, and no record is
accepted twice. -/
structure Chained (view : R → RotationView) (accepted : List (Acceptance scheme R)) : Prop where
  links : ∀ a ∈ accepted, a.Links view
  increasing : accepted.Pairwise fun earlier later =>
    (view earlier.record).rotationEpoch < (view later.record).rotationEpoch
  once : (accepted.map Acceptance.record).Nodup

theorem Chained.le_last {accepted : List (Acceptance scheme R)} {last : Acceptance scheme R}
    (chained : Chained view accepted) (is : accepted.getLast? = some last) :
    ∀ a ∈ accepted, (view a.record).rotationEpoch ≤ (view last.record).rotationEpoch := by
  obtain ⟨before, rfl⟩ := List.getLast?_eq_some_iff.mp is
  intro a among
  rcases List.mem_append.mp among with among | among
  · exact Nat.le_of_lt ((List.pairwise_append.mp chained.increasing).2.2 a among last
      List.mem_cons_self)
  · rw [List.mem_singleton.mp among]

theorem Chained.append {accepted : List (Acceptance scheme R)} {a : Acceptance scheme R}
    (chained : Chained view accepted) (links : a.Links view)
    (newer : ∀ last, accepted.getLast? = some last →
      (view last.record).rotationEpoch < (view a.record).rotationEpoch) :
    Chained view (accepted ++ [a]) := by
  have above : ∀ earlier ∈ accepted,
      (view earlier.record).rotationEpoch < (view a.record).rotationEpoch := by
    intro earlier among
    obtain ⟨last, is⟩ := Option.isSome_iff_exists.mp
      (List.getLast?_isSome.mpr (List.ne_nil_of_mem among))
    exact (chained.le_last is earlier among).trans_lt (newer last is)
  have increasing : (accepted ++ [a]).Pairwise fun earlier later =>
      (view earlier.record).rotationEpoch < (view later.record).rotationEpoch := by
    refine List.pairwise_append.mpr ⟨chained.increasing, List.pairwise_singleton _ _, ?_⟩
    intro earlier among later same
    rw [List.mem_singleton.mp same]
    exact above earlier among
  refine ⟨fun b among => ?_, increasing, ?_⟩
  · rcases List.mem_append.mp among with among | among
    · exact chained.links b among
    · rw [List.mem_singleton.mp among]
      exact links
  · refine List.pairwise_map.mpr (increasing.imp fun {earlier later} less same => ?_)
    rw [same] at less
    exact Nat.lt_irrefl _ less

end Chains

/-! ### The Agent's trust in the Hub -/

/-- The trusted identity with the records that made it. -/
structure HubTrust (scheme : SignatureScheme) where
  trusted : TrustedHubIdentity scheme
  accepted : List (Acceptance scheme HubKeyRotation)

/-- A record is offered, or the Agent restarts from the key and the epoch it wrote down. -/
inductive TrustEvent where
  | offer (rotation : HubKeyRotation)
  | restart

def HubTrust.next (trust : HubTrust scheme) : TrustEvent → HubTrust scheme
  | .offer rotation =>
    match trust.trusted.applyRotation rotation with
    | .error _ => trust
    | .ok trusted =>
      ⟨trusted, trust.accepted ++ [⟨rotation, trust.trusted.current, trusted.current⟩]⟩
  | .restart =>
    match fromBytes scheme trust.trusted.current.bytes with
    | none => trust
    | some current => {trust with trusted := ⟨current, trust.trusted.epoch⟩}

/-- What an accepted record has shown. -/
theorem TrustedHubIdentity.applyRotation_eq_ok {trusted trusted' : TrustedHubIdentity scheme}
    {rotation : HubKeyRotation} (ok : trusted.applyRotation rotation = .ok trusted') :
    rotation.rotationEpoch = min (trusted.epoch + 1) maxEpoch ∧
      trusted'.epoch = rotation.rotationEpoch ∧
      Acceptance.Links HubKeyRotation.view ⟨rotation, trusted.current, trusted'.current⟩ := by
  obtain ⟨_, -, ok⟩ := bind_eq_ok.mp ok
  dsimp only at ok
  split at ok
  · cases ok
  next epoch =>
  split at ok
  · cases ok
  next named =>
  split at ok
  · cases ok
  next key made =>
  obtain ⟨_, old, ok⟩ := bind_eq_ok.mp ok
  obtain ⟨_, new, ok⟩ := bind_eq_ok.mp ok
  cases ok
  have signed : ∀ {verifier : VerifyingKey scheme} {bytes signature : List UInt8} {u : Unit},
      verifySignature verifier bytes signature = .ok u → verifier.verify bytes signature = true :=
    fun verified => not_not.mp (guard_eq_ok.mp verified).1
  refine ⟨not_not.mp epoch, rfl, not_not.mp named, ?_, signed old, signed new⟩
  exact (DeviceRegistry.fromBytes_eq_some.mp made).symm

/-- A record is offered only while the epoch has not reached its largest number. -/
def HubTrust.HasRoom (trust : HubTrust scheme) : TrustEvent → Prop
  | .offer _ => trust.trusted.epoch < maxEpoch
  | .restart => True

/-- The records form a chain whose last epoch is the trusted one. -/
structure HubTrust.Sound (trust : HubTrust scheme) : Prop where
  chained : Chained HubKeyRotation.view trust.accepted
  current : ∀ last, trust.accepted.getLast? = some last →
    last.record.rotationEpoch = trust.trusted.epoch

theorem HubTrust.Sound.next {trust : HubTrust scheme} {event : TrustEvent} (sound : trust.Sound)
    (room : trust.HasRoom event) : (trust.next event).Sound := by
  cases event with
  | offer rotation =>
    simp only [HubTrust.next]
    split
    · exact sound
    · next trusted ok =>
      obtain ⟨epoch, kept, links⟩ := TrustedHubIdentity.applyRotation_eq_ok ok
      refine ⟨sound.chained.append links fun last is => ?_, fun last is => ?_⟩
      · show last.record.rotationEpoch < rotation.rotationEpoch
        have before := sound.current last is
        have below : trust.trusted.epoch < maxEpoch := room
        omega
      · rw [List.getLast?_concat, Option.some.injEq] at is
        rw [← is, kept]
  | restart =>
    simp only [HubTrust.next]
    split
    · exact sound
    · exact ⟨sound.chained, sound.current⟩

end Gateway.Control
