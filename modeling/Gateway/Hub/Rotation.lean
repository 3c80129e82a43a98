import Gateway.Control.Rotation
import Gateway.Hub.State

/-! Rotations of the device's key at the start of a Hub.

A Hub is started with the key its device should have, and with a record if that key is a new
one. The record is compared with its own epoch, so that any epoch but zero is taken, and the key
the record names is not compared with the registered one. -/
namespace Gateway.Hub
open Data Control Execution Persistence Result DeviceKeyRotation DeviceRegistry Machine

/-- What a Hub is started with, as far as its device's key is concerned. -/
structure HubProvisionedMaterial (scheme : SignatureScheme) where
  deviceVerifier : VerifyingKey scheme
  deviceRotation : Option DeviceKeyRotation

inductive HubServiceError where
  | persistence (error : RestoreError)
  | control (error : TrustError)
  | trust (error : RotationError)
  | checkpointDeviceTrustMismatch

variable {scheme : SignatureScheme}

def restoreRuntimeState (limits : AdmissionLimits) (material : HubProvisionedMaterial scheme)
    (state : HubPersistentState) : Except HubServiceError
      (String × DeviceRegistry scheme × AuthoritativeOperationController) :=
  match state.registry.devices with
  | [device] => do
    let (registry, execution) ← (restore scheme limits state).mapError .persistence
    let verifier ← (registry.deviceVerifier device.deviceId).mapError .control
    if verifier = material.deviceVerifier then return (device.deviceId, registry, execution)
    match material.deviceRotation with
    | none => throw .checkpointDeviceTrustMismatch
    | some rotation =>
      if rotation.deviceId ≠ device.deviceId then throw .checkpointDeviceTrustMismatch
      let registry ← (applyDeviceKeyRotation registry rotation rotation.rotationEpoch).mapError .trust
      let verifier ← (registry.deviceVerifier device.deviceId).mapError .control
      if verifier ≠ material.deviceVerifier then throw .checkpointDeviceTrustMismatch
      return (device.deviceId, registry, execution)
  | _ => throw .checkpointDeviceTrustMismatch

/-! ### Starts -/

/-- The device's key in a state of one device. -/
def registeredKey (scheme : SignatureScheme) (state : HubPersistentState) :
    Option (VerifyingKey scheme) :=
  match state.registry.devices with
  | [device] => VerifyingKey.fromBytes scheme device.verifyingKey
  | _ => none

/-- The record that a start accepts when it succeeds: one, if the key changes. -/
def acceptedAt (material : HubProvisionedMaterial scheme) (state : HubPersistentState) :
    Option (Acceptance scheme DeviceKeyRotation) := do
  let replaced ← registeredKey scheme state
  let rotation ← material.deviceRotation
  if replaced = material.deviceVerifier then none
  else some ⟨rotation, replaced, material.deviceVerifier⟩

/-- The state last published, and the records accepted until then. -/
structure HubHistory (scheme : SignatureScheme) where
  state : HubPersistentState
  accepted : List (Acceptance scheme DeviceKeyRotation)

/-- A Hub is started, or the running one publishes another state. -/
inductive HubEvent (scheme : SignatureScheme) where
  | start (limits : AdmissionLimits) (material : HubProvisionedMaterial scheme)
  | publish (state : HubPersistentState)

/-- A start publishes what it restored before it accepts a session; one that fails leaves the
state as it was. -/
def HubHistory.next (history : HubHistory scheme) : HubEvent scheme → HubHistory scheme
  | .start limits material =>
    match restoreRuntimeState limits material history.state with
    | .error _ => history
    | .ok (_, registry, execution) =>
      match capture registry execution with
      | none => history
      | some state =>
        ⟨{state with durableFence := history.state.durableFence},
          history.accepted ++ (acceptedAt material history.state).toList⟩
  | .publish state => {history with state := state}

/-- The record that a start is given. -/
def HubEvent.rotation : HubEvent scheme → Option DeviceKeyRotation
  | .start _ material => material.deviceRotation
  | .publish _ => none

/-- What the keys of a device sign, of some records: a key that gives way to another one is named
by the record, and its epoch is larger than that of any record by which the key came in. -/
structure SignedForward (scheme : SignatureScheme) (records : List DeviceKeyRotation) : Prop where
  named : ∀ record ∈ records, ∀ key : VerifyingKey scheme,
    key.verify record.unsigned record.oldSignature = true → record.nextPublicKey ≠ key.bytes →
      record.previousKeyId = verifyingKeyId key
  later : ∀ record ∈ records, ∀ record' ∈ records, ∀ key : VerifyingKey scheme,
    key.verify record.unsigned record.newSignature = true → record.nextPublicKey = key.bytes →
    key.verify record'.unsigned record'.oldSignature = true → record'.nextPublicKey ≠ key.bytes →
      record.rotationEpoch < record'.rotationEpoch

/-- A running Hub rotates no key and drops no device. -/
def KeepsKeys (history : HubHistory scheme) : HubEvent scheme → Prop
  | .start .. => True
  | .publish state => ∀ before ∈ history.state.registry.devices,
    ∃ after ∈ state.registry.devices, after.verifyingKey = before.verifyingKey

/-! ### What an accepted record has shown -/

section Accepted
variable {limits : AdmissionLimits} {material : HubProvisionedMaterial scheme}
  {state : HubPersistentState} {registry registry' : DeviceRegistry scheme}
  {execution : AuthoritativeOperationController}

theorem eq_of_bytes {a b : VerifyingKey scheme} (same : a.bytes = b.bytes) : a = b := by
  cases a
  cases b
  cases same
  rfl

/-- The registered key is the one that was written. -/
theorem restored_verifier {device : EnrolledDeviceSnapshot} {verifier : VerifyingKey scheme}
    (restored : restore scheme limits state = .ok (registry, execution))
    (among : device ∈ state.registry.devices)
    (found : registry.deviceVerifier device.deviceId = .ok verifier) :
    verifier.bytes = device.verifyingKey := by
  obtain ⟨_, -, restored⟩ := bind_eq_ok.mp restored
  obtain ⟨_, -, restored⟩ := bind_eq_ok.mp restored
  obtain ⟨read, is, restored⟩ := bind_eq_ok.mp restored
  obtain ⟨_, -, restored⟩ := bind_eq_ok.mp restored
  split at restored
  · cases restored
  cases restored
  obtain ⟨entered, there, key, -⟩ :=
    (readAs_of_read (mapError_eq_ok.mp is)).devices device among
  rw [deviceVerifier, markAllOffline_get, there] at found
  cases found
  exact key

/-- A rotation is signed by the key it replaces and by the key it installs. -/
theorem rotateDeviceKey_eq_ok {deviceId : String} {newPublicKey : KeyBytes}
    {message oldProof newProof : List UInt8} {old new : VerifyingKey scheme}
    (rotated : registry.rotateDeviceKey deviceId newPublicKey.toList message oldProof newProof =
      .ok registry') (before : registry.deviceVerifier deviceId = .ok old)
    (after : registry'.deviceVerifier deviceId = .ok new) :
    newPublicKey = new.bytes ∧ old.verify message oldProof = true ∧
      new.verify message newProof = true := by
  obtain ⟨-, rotated⟩ := guard_eq_ok.mp rotated
  rw [keyBytes_toList] at rotated
  split at rotated
  · cases rotated
  next key made =>
  obtain ⟨-, rotated⟩ := guard_eq_ok.mp rotated
  split at rotated
  · cases rotated
  next device found =>
  obtain ⟨signed, rotated⟩ := guard_eq_ok.mp rotated
  rw [not_or, not_not, not_not] at signed
  cases rotated
  rw [deviceVerifier, found] at before
  rw [deviceVerifier, Table.get_insert_self] at after
  cases before
  cases after
  exact ⟨(fromBytes_eq_some.mp made).symm, signed⟩

/-- What a successful start has done: the device is under the provisioned key, which was its key
before or is installed by a record that both keys signed. -/
theorem of_restored {deviceId : String}
    (ok : restoreRuntimeState limits material state = .ok (deviceId, registry, execution)) :
    registry.deviceVerifier deviceId = .ok material.deviceVerifier ∧
      ∃ replaced, registeredKey scheme state = some replaced ∧
        (replaced = material.deviceVerifier ∨ ∃ record, material.deviceRotation = some record ∧
          replaced ≠ material.deviceVerifier ∧
          record.nextPublicKey = material.deviceVerifier.bytes ∧
          replaced.verify record.unsigned record.oldSignature = true ∧
          material.deviceVerifier.verify record.unsigned record.newSignature = true) := by
  unfold restoreRuntimeState at ok
  split at ok
  · next device only =>
    obtain ⟨⟨read, _⟩, restored, ok⟩ := bind_eq_ok.mp ok
    rw [mapError_eq_ok] at restored
    obtain ⟨verifier, before, ok⟩ := bind_eq_ok.mp ok
    rw [mapError_eq_ok] at before
    have written : verifier.bytes = device.verifyingKey :=
      restored_verifier restored (only ▸ List.mem_cons_self) before
    have registered : registeredKey scheme state = some verifier := by
      simp only [registeredKey, only]
      exact fromBytes_eq_some.mpr written
    split at ok
    · next same =>
      cases ok
      exact ⟨same ▸ before, verifier, registered, .inl same⟩
    · next differs =>
      split at ok
      · cases ok
      next rotation given =>
      split at ok
      · cases ok
      next own =>
      obtain ⟨rotated, applied, ok⟩ := bind_eq_ok.mp ok
      obtain ⟨verifier', after, ok⟩ := bind_eq_ok.mp ok
      rw [mapError_eq_ok] at applied after
      split at ok
      · cases ok
      next installed =>
      cases ok
      obtain ⟨_, -, applied⟩ := bind_eq_ok.mp applied
      split at applied
      · cases applied
      rw [mapError_eq_ok] at applied
      rw [not_not.mp installed] at after
      refine ⟨after, verifier, registered, .inr ⟨rotation, given, differs, ?_⟩⟩
      rw [← not_not.mp own] at before after
      exact rotateDeviceKey_eq_ok applied before after
  · cases ok

end Accepted

/-! ### Chains -/

/-- The records form a chain that ends at a key of a device, and each was provisioned. -/
structure HubHistory.Sound (records : List DeviceKeyRotation) (history : HubHistory scheme) :
    Prop where
  chained : Chained view history.accepted
  given : ∀ a ∈ history.accepted, a.record ∈ records
  current : ∀ last, history.accepted.getLast? = some last →
    ∃ device ∈ history.state.registry.devices, device.verifyingKey = last.installed.bytes

section Chains
variable {history : HubHistory scheme} {records : List DeviceKeyRotation}

/-- The key a chain ends at is the registered one, if there is but one device. -/
theorem HubHistory.Sound.registered (sound : history.Sound records)
    {last : Acceptance scheme DeviceKeyRotation} (is : history.accepted.getLast? = some last)
    {key : VerifyingKey scheme} (registered : registeredKey scheme history.state = some key) :
    key = last.installed := by
  obtain ⟨device, among, same⟩ := sound.current last is
  unfold registeredKey at registered
  split at registered
  · next only =>
    rw [only, List.mem_singleton] at among
    rw [← among, same, fromBytes_eq_some.mpr rfl] at registered
    exact (Option.some.inj registered).symm
  · cases registered

theorem captured_key {registry : DeviceRegistry scheme} {execution : AuthoritativeOperationController}
    {state : HubPersistentState} {deviceId : String} {key : VerifyingKey scheme}
    (found : registry.deviceVerifier deviceId = .ok key) (captured : capture registry execution = some state) :
    ∃ device ∈ state.registry.devices, device.verifyingKey = key.bytes := by
  obtain ⟨_, -, rfl⟩ := Option.map_eq_some_iff.mp captured
  unfold deviceVerifier at found
  split at found
  · cases found
  · next device there =>
    cases found
    exact ⟨⟨deviceId, _, device.generation, device.capabilities⟩,
      mem_snapshot.mpr ⟨device, there, rfl, rfl, rfl⟩, rfl⟩

theorem HubHistory.Sound.next (sound : history.Sound records) (signed : SignedForward scheme records)
    {event : HubEvent scheme} (keeps : KeepsKeys history event)
    (given : ∀ record ∈ event.rotation, record ∈ records) : (history.next event).Sound records := by
  cases event with
  | publish state =>
    refine ⟨sound.chained, sound.given, fun last is => ?_⟩
    obtain ⟨before, among, same⟩ := sound.current last is
    obtain ⟨after, there, kept⟩ := keeps before among
    exact ⟨after, there, kept.trans same⟩
  | start limits material =>
    simp only [HubHistory.next]
    split
    · exact sound
    next deviceId registry execution ok =>
    split
    · exact sound
    next state captured =>
    obtain ⟨after, replaced, registered, came⟩ := of_restored ok
    have held := captured_key after captured
    rcases came with rfl | ⟨record, provisioned, differs, next, old, new⟩
    · -- The key stays: no record is accepted.
      have none : acceptedAt material history.state = none := by
        simp [acceptedAt, registered]
      rw [none, Option.toList_none, List.append_nil]
      exact ⟨sound.chained, sound.given, fun last is => sound.registered is registered ▸ held⟩
    · have accepted : acceptedAt material history.state =
          some ⟨record, replaced, material.deviceVerifier⟩ := by
        simp [acceptedAt, registered, provisioned, differs]
      rw [accepted, Option.toList_some]
      have mem : record ∈ records := given record provisioned
      have away : record.nextPublicKey ≠ replaced.bytes := fun same =>
        differs (eq_of_bytes (same.symm.trans next))
      refine ⟨sound.chained.append ⟨signed.named record mem replaced old away, next, old, new⟩ ?_, ?_, ?_⟩
      · intro last is
        have linked := sound.chained.links last (List.mem_of_getLast? is)
        have key := sound.registered is registered
        rw [key] at old away
        exact signed.later last.record (sound.given last (List.mem_of_getLast? is)) record mem
          last.installed linked.newSigned linked.next old away
      · intro a among
        rcases List.mem_append.mp among with among | among
        · exact sound.given a among
        · rw [List.mem_singleton.mp among]
          exact mem
      · intro last is
        rw [List.getLast?_concat, Option.some.injEq] at is
        rw [← is]
        exact held

end Chains

end Gateway.Hub
