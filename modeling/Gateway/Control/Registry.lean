import Gateway.Data.Machine
import Gateway.Device.Capability
import Gateway.Execution.Tombstone

/-! The registry of devices and its persisted form.

A device is enrolled under a key and gets a new generation with each connection. A
snapshot of an older release is read only for its keys, generations and revocations:
what a device advertised then is checked against the release it was written by, and
dropped. The signature scheme is a parameter. -/
namespace Gateway.Control
open Data Device Result Control Table Machine

/-! ### Keys -/

/-- The bytes of a key. -/
abbrev KeyBytes : Type := Vector UInt8 32

/-- A signature scheme: which bytes are a key, and which signatures a key accepts. -/
structure SignatureScheme where
  isKey : KeyBytes → Bool
  verifies : KeyBytes → List UInt8 → List UInt8 → Bool

variable {scheme : SignatureScheme}

structure VerifyingKey (scheme : SignatureScheme) where
  bytes : KeyBytes
  valid : scheme.isKey bytes = true
  deriving DecidableEq

def VerifyingKey.fromBytes (scheme : SignatureScheme) (bytes : KeyBytes) :
    Option (VerifyingKey scheme) :=
  if h : scheme.isKey bytes then some ⟨bytes, h⟩ else none

/-- Bytes of any number, if they are as many as a key has. -/
def keyBytes (bytes : List UInt8) : Option KeyBytes :=
  if h : bytes.length = 32 then some ⟨bytes.toArray, by rw [List.size_toArray, h]⟩ else none

theorem keyBytes_toList (bytes : KeyBytes) : keyBytes bytes.toList = some bytes := by
  rw [keyBytes, dif_pos bytes.length_toList]
  rfl

/-- A signature has 64 bytes. -/
def VerifyingKey.verify (key : VerifyingKey scheme) (message signature : List UInt8) : Bool :=
  signature.length = 64 && scheme.verifies key.bytes message signature

def hexOf (bytes : KeyBytes) : String :=
  String.ofList (Execution.ReplayDenyTombstone.hexText bytes.toList)

def verifyingKeyId {scheme : SignatureScheme} (key : VerifyingKey scheme) : String :=
  "key_" ++ hexOf key.bytes

/-! ### The registry -/

def capabilitySchemaVersion : Nat := 8

def deviceRegistrySnapshotSchemaVersion : Nat := 8

/-- The errors of the registry and of the grant ledger. -/
inductive TrustError where
  | invalidDeviceIdentity | invalidEnrollmentProof | invalidDeviceSignature
  | invalidDeviceRotationProof | invalidRegistrySnapshot | unknownDevice | deviceRevoked
  | deviceOffline
  | unsupportedCapabilitySchema (got : Nat)
  | unsupportedControlSchema (got : Nat)
  | invalidGrantLifetime | invalidGrantSignature | unknownGrantSigningKey
  | invalidGrantLedgerSnapshot | grantDeviceMismatch | grantNotYetValid | grantExpired
  | grantRevoked | grantReplay
  | capabilityDenied (granted required : CapabilityClass)
  | deviceCapabilityGrantMismatch (granted : Option DeviceCapability) (required : DeviceCapability)
  deriving DecidableEq

structure CapabilityAdvertisement where
  backend : String
  backendVersion : String
  platform : String
  capabilitySchemaVersion : Nat
  revision : Nat
  supported : List DeviceCapability

structure DeviceSession where
  deviceId : String
  generation : Nat
  capabilities : CapabilityAdvertisement

structure EnrolledDevice (scheme : SignatureScheme) where
  verifyingKey : VerifyingKey scheme
  generation : Nat
  capabilities : Option CapabilityAdvertisement

structure EnrolledDeviceSnapshot where
  deviceId : String
  verifyingKey : KeyBytes
  generation : Nat
  capabilities : Option CapabilityAdvertisement

structure DeviceRegistrySnapshot where
  schemaVersion : Nat
  devices : List EnrolledDeviceSnapshot
  revokedDeviceIds : List String

structure DeviceRegistry (scheme : SignatureScheme) where
  devices : Table (EnrolledDevice scheme)
  revoked : Names

/-- Sixty-four bit addition of one that stops at the largest number. -/
def nextGeneration (generation : Nat) : Nat :=
  max (min (generation + 1) (2 ^ 64 - 1)) 1

namespace DeviceRegistry

def empty (scheme : SignatureScheme) : DeviceRegistry scheme :=
  ⟨∅, ∅⟩

def snapshot (registry : DeviceRegistry scheme) : DeviceRegistrySnapshot where
  schemaVersion := deviceRegistrySnapshotSchemaVersion
  devices := sortBy EnrolledDeviceSnapshot.deviceId (registry.devices.toList.map fun entry =>
    ⟨entry.1, entry.2.verifyingKey.bytes, entry.2.generation, entry.2.capabilities⟩)
  revokedDeviceIds := sortBy id registry.revoked.toList

/-- Enter the devices of a snapshot one by one. -/
def readDevices (scheme : SignatureScheme) : List EnrolledDeviceSnapshot →
    Table (EnrolledDevice scheme) → Except TrustError (Table (EnrolledDevice scheme))
  | [], devices => .ok devices
  | device :: rest, devices =>
    if device.deviceId ∈ devices then .error .invalidRegistrySnapshot
    else match VerifyingKey.fromBytes scheme device.verifyingKey with
      | none => .error .invalidRegistrySnapshot
      | some verifyingKey =>
        match device.capabilities with
        | some capabilities =>
          if capabilities.capabilitySchemaVersion ≠ capabilitySchemaVersion then
            .error (.unsupportedCapabilitySchema capabilities.capabilitySchemaVersion)
          else readDevices scheme rest
            (devices.insert device.deviceId ⟨verifyingKey, device.generation, some capabilities⟩)
        | none => readDevices scheme rest
            (devices.insert device.deviceId ⟨verifyingKey, device.generation, none⟩)

def fromSnapshot (scheme : SignatureScheme) (snapshot : DeviceRegistrySnapshot) :
    Except TrustError (DeviceRegistry scheme) :=
  if snapshot.schemaVersion ≠ deviceRegistrySnapshotSchemaVersion then
    .error (.unsupportedControlSchema snapshot.schemaVersion)
  else do
    let devices ← readDevices scheme snapshot.devices ∅
    return ⟨devices, Std.ExtTreeSet.ofList snapshot.revokedDeviceIds⟩

/-- Whether an advertisement may stand in a snapshot of an older release. -/
def validPairing (schemaVersion capabilitySchema : Nat) : Except TrustError Bool :=
  match schemaVersion with
  | 2 => .ok (capabilitySchema = 2)
  | 3 => .ok (capabilitySchema = 3)
  | 4 | 5 | 6 => .ok (capabilitySchema = 4)
  | 7 => .ok (capabilitySchema = 5)
  | 8 => .ok (capabilitySchema = 6 || capabilitySchema = 7)
  | got => .error (.unsupportedControlSchema got)

/-- Check the advertisements of an older release; a device without one is passed over. -/
def checkPairings (schemaVersion : Nat) : List EnrolledDeviceSnapshot → Except TrustError Unit
  | [] => .ok ()
  | device :: rest =>
    match device.capabilities with
    | none => checkPairings schemaVersion rest
    | some capabilities =>
      match validPairing schemaVersion capabilities.capabilitySchemaVersion with
      | .error e => .error e
      | .ok false => .error .invalidRegistrySnapshot
      | .ok true => checkPairings schemaVersion rest

def fromPersistedSnapshot (scheme : SignatureScheme) (snapshot : DeviceRegistrySnapshot) :
    Except TrustError (DeviceRegistry scheme) :=
  if snapshot.schemaVersion = deviceRegistrySnapshotSchemaVersion ∧
      snapshot.devices.all (fun device => device.capabilities.all fun capabilities =>
        capabilities.capabilitySchemaVersion = capabilitySchemaVersion) then
    fromSnapshot scheme snapshot
  else match checkPairings snapshot.schemaVersion snapshot.devices with
    | .error e => .error e
    | .ok () => fromSnapshot scheme {snapshot with
        schemaVersion := deviceRegistrySnapshotSchemaVersion
        devices := snapshot.devices.map fun device => {device with capabilities := none}}

/-! ### Operations -/

/-- A device is entered under the name of its key, unless it is there. -/
def enter (registry : DeviceRegistry scheme) (key : VerifyingKey scheme) :
    String × DeviceRegistry scheme :=
  let deviceId := "dev_" ++ hexOf key.bytes
  (deviceId, if deviceId ∈ registry.devices then registry
    else {registry with devices := registry.devices.insert deviceId ⟨key, 0, none⟩})

def provisionTrustedDevice (registry : DeviceRegistry scheme) (key : VerifyingKey scheme) :
    String × DeviceRegistry scheme :=
  registry.enter key

def enroll (registry : DeviceRegistry scheme) (publicKey challenge proof : List UInt8) :
    Except TrustError (String × DeviceRegistry scheme) :=
  match (keyBytes publicKey).bind (VerifyingKey.fromBytes scheme) with
  | none => .error .invalidDeviceIdentity
  | some key =>
    if proof.length ≠ 64 then .error .invalidDeviceIdentity
    else if ¬key.verify challenge proof then .error .invalidEnrollmentProof
    else .ok (registry.enter key)

def revokeDevice (registry : DeviceRegistry scheme) (deviceId : String) : DeviceRegistry scheme :=
  {registry with revoked := registry.revoked.insert deviceId}

def disconnect (registry : DeviceRegistry scheme) (deviceId : String) :
    Except TrustError (DeviceRegistry scheme) :=
  match registry.devices[deviceId]? with
  | none => .error .unknownDevice
  | some device =>
    .ok {registry with devices := registry.devices.insert deviceId {device with capabilities := none}}

/-- The key of a device, whether or not the device is revoked. -/
def deviceVerifier (registry : DeviceRegistry scheme) (deviceId : String) :
    Except TrustError (VerifyingKey scheme) :=
  match registry.devices[deviceId]? with
  | none => .error .unknownDevice
  | some device => .ok device.verifyingKey

def verifyDeviceSignature (registry : DeviceRegistry scheme) (deviceId : String)
    (message proof : List UInt8) : Except TrustError Unit :=
  if deviceId ∈ registry.revoked then .error .deviceRevoked
  else match registry.devices[deviceId]? with
    | none => .error .unknownDevice
    | some device =>
      if ¬device.verifyingKey.verify message proof then .error .invalidDeviceSignature else .ok ()

def rotateDeviceKey (registry : DeviceRegistry scheme) (deviceId : String)
    (newPublicKey rotationMessage oldProof newProof : List UInt8) :
    Except TrustError (DeviceRegistry scheme) :=
  if deviceId ∈ registry.revoked then .error .deviceRevoked
  else match (keyBytes newPublicKey).bind (VerifyingKey.fromBytes scheme) with
    | none => .error .invalidDeviceIdentity
    | some newKey =>
      if oldProof.length ≠ 64 ∨ newProof.length ≠ 64 then .error .invalidDeviceSignature
      else match registry.devices[deviceId]? with
        | none => .error .unknownDevice
        | some device =>
          if ¬device.verifyingKey.verify rotationMessage oldProof ∨
              ¬newKey.verify rotationMessage newProof then .error .invalidDeviceRotationProof
          else .ok {registry with
            devices := registry.devices.insert deviceId
              ⟨newKey, nextGeneration device.generation, none⟩}

def connect (registry : DeviceRegistry scheme) (deviceId : String)
    (capabilities : CapabilityAdvertisement) :
    Except TrustError (DeviceSession × DeviceRegistry scheme) :=
  if deviceId ∈ registry.revoked then .error .deviceRevoked
  else if capabilities.capabilitySchemaVersion ≠ capabilitySchemaVersion then
    .error (.unsupportedCapabilitySchema capabilities.capabilitySchemaVersion)
  else match registry.devices[deviceId]? with
    | none => .error .unknownDevice
    | some device =>
      let generation := nextGeneration device.generation
      .ok (⟨deviceId, generation, capabilities⟩,
        {registry with
          devices := registry.devices.insert deviceId
            {device with generation := generation, capabilities := some capabilities}})

def currentSession (registry : DeviceRegistry scheme) (deviceId : String) :
    Except TrustError DeviceSession :=
  match registry.devices[deviceId]? with
  | none => .error .unknownDevice
  | some device =>
    match device.capabilities with
    | none => .error .deviceOffline
    | some capabilities => .ok ⟨deviceId, device.generation, capabilities⟩

/-! ### What is read back -/

/-- The key of a device read from a snapshot, with its generation. -/
def EnteredAs (device : EnrolledDevice scheme) (entry : EnrolledDeviceSnapshot) : Prop :=
  device.verifyingKey.bytes = entry.verifyingKey ∧ device.generation = entry.generation ∧
    device.capabilities = entry.capabilities

/-- What the reader asks of the devices, whatever the version: distinct names and real keys. -/
def WellFormed (scheme : SignatureScheme) (devices : List EnrolledDeviceSnapshot) : Prop :=
  (devices.map EnrolledDeviceSnapshot.deviceId).Nodup ∧
    ∀ device ∈ devices, scheme.isKey device.verifyingKey = true

/-- Every advertisement is of the current schema. -/
def Current (devices : List EnrolledDeviceSnapshot) : Prop :=
  ∀ device ∈ devices, ∀ capabilities, device.capabilities = some capabilities →
    capabilities.capabilitySchemaVersion = capabilitySchemaVersion

theorem fromBytes_eq_some {bytes : KeyBytes} {key : VerifyingKey scheme} :
    VerifyingKey.fromBytes scheme bytes = some key ↔ key.bytes = bytes := by
  unfold VerifyingKey.fromBytes
  constructor
  · intro read
    split at read
    · cases read
      rfl
    · cases read
  · intro same
    subst same
    rw [dif_pos key.valid]

variable {t u : Table (EnrolledDevice scheme)} {devices : List EnrolledDeviceSnapshot}
  {deviceId : String} {registry' : DeviceRegistry scheme}

/-- One device is entered if its name is new, its key real and its advertisement current. -/
theorem readDevices_cons {device : EnrolledDeviceSnapshot} {rest : List EnrolledDeviceSnapshot} :
    readDevices scheme (device :: rest) t = .ok u ↔
      device.deviceId ∉ t ∧ (∀ capabilities, device.capabilities = some capabilities →
        capabilities.capabilitySchemaVersion = capabilitySchemaVersion) ∧
      ∃ entered : EnrolledDevice scheme, EnteredAs entered device ∧
        readDevices scheme rest (t.insert device.deviceId entered) = .ok u := by
  rw [readDevices]
  constructor
  · intro read
    obtain ⟨fresh, read⟩ := guard_eq_ok.mp read
    refine ⟨fresh, ?_⟩
    split at read
    · cases read
    · next key keyed =>
      have bytes := fromBytes_eq_some.mp keyed
      split at read
      · next capabilities advertised =>
        obtain ⟨current, read⟩ := guard_eq_ok.mp read
        refine ⟨fun c given => ?_, _, ⟨bytes, rfl, advertised.symm⟩, read⟩
        rw [advertised, Option.some.injEq] at given
        exact given ▸ not_not.mp current
      · next offline =>
        refine ⟨fun c given => ?_, _, ⟨bytes, rfl, offline.symm⟩, read⟩
        rw [offline] at given
        cases given
  · rintro ⟨fresh, current, entered, ⟨bytes, generation, advertised⟩, read⟩
    rw [if_neg fresh, fromBytes_eq_some.mpr bytes]
    obtain ⟨key, own, ads⟩ := entered
    subst generation advertised
    cases ads : device.capabilities with
    | none => rw [← read, ads]
    | some capabilities =>
      dsimp only
      rw [if_neg (not_not.mpr (current capabilities ads)), ← read, ads]

/-- What was read is what was there before and what the list adds. -/
theorem of_readDevices (read : readDevices scheme devices t = .ok u) :
    WellFormed scheme devices ∧ Current devices ∧ (∀ device ∈ devices, device.deviceId ∉ t) ∧
      (∀ device ∈ devices, ∃ entered, u[device.deviceId]? = some entered ∧
        EnteredAs entered device) ∧
      ∀ id, (∀ device ∈ devices, device.deviceId ≠ id) → u[id]? = t[id]? := by
  induction devices generalizing t with
  | nil =>
    cases read
    exact ⟨⟨List.nodup_nil, by simp⟩, fun _ mem => (by cases mem), by simp, by simp, fun _ _ => rfl⟩
  | cons device rest ih =>
    obtain ⟨fresh, current, entered, same, read⟩ := readDevices_cons.mp read
    obtain ⟨⟨distinct, keys⟩, currents, others, listed, apart⟩ := ih read
    have outside : ∀ d ∈ rest, d.deviceId ∉ t ∧ device.deviceId ≠ d.deviceId := by
      intro d mem
      have out := others d mem
      rw [Std.ExtTreeMap.mem_insert, Std.LawfulEqCmp.compare_eq_iff_eq, not_or] at out
      exact ⟨out.2, out.1⟩
    refine ⟨⟨?_, ?_⟩, ?_, ?_, ?_, ?_⟩
    · rw [List.map_cons, List.nodup_cons]
      refine ⟨fun again => ?_, distinct⟩
      obtain ⟨d, mem, named⟩ := List.mem_map.mp again
      exact (outside d mem).2 named.symm
    · rw [List.forall_mem_cons]
      exact ⟨same.1 ▸ entered.verifyingKey.valid, keys⟩
    · intro d mem
      rcases List.mem_cons.mp mem with rfl | mem
      · exact current
      · exact currents d mem
    · rw [List.forall_mem_cons]
      exact ⟨fresh, fun d mem => (outside d mem).1⟩
    · rw [List.forall_mem_cons]
      refine ⟨⟨entered, ?_, same⟩, listed⟩
      rw [apart _ fun d mem => (outside d mem).2.symm, get_insert_self]
    · intro id other
      rw [List.forall_mem_cons] at other
      rw [apart id other.2, get_insert_of_ne other.1]

/-- Well-formed current devices under new names are read. -/
theorem readDevices_ok (formed : WellFormed scheme devices) (current : Current devices)
    (fresh : ∀ device ∈ devices, device.deviceId ∉ t) :
    ∃ u, readDevices scheme devices t = .ok u := by
  induction devices generalizing t with
  | nil => exact ⟨t, rfl⟩
  | cons device rest ih =>
    obtain ⟨distinct, keys⟩ := formed
    rw [List.map_cons, List.nodup_cons] at distinct
    rw [List.forall_mem_cons] at keys fresh
    let entered : EnrolledDevice scheme :=
      ⟨⟨device.verifyingKey, keys.1⟩, device.generation, device.capabilities⟩
    have fresh' : ∀ d ∈ rest, d.deviceId ∉ t.insert device.deviceId entered := by
      intro d mem
      rw [Std.ExtTreeMap.mem_insert, Std.LawfulEqCmp.compare_eq_iff_eq, not_or]
      refine ⟨fun same => distinct.1 ?_, fresh.2 d mem⟩
      rw [same]
      exact List.mem_map_of_mem mem
    obtain ⟨u, read⟩ := ih ⟨distinct.2, keys.2⟩
      (fun d mem => current d (List.mem_cons_of_mem _ mem)) fresh'
    exact ⟨u, readDevices_cons.mpr ⟨fresh.1, current device List.mem_cons_self, entered,
      ⟨rfl, rfl, rfl⟩, read⟩⟩

/-! ### What is accepted -/

variable {snapshot : DeviceRegistrySnapshot} {registry : DeviceRegistry scheme}

/-- The capability schemas a release wrote beside its registry. -/
def Paired (schemaVersion capabilitySchema : Nat) : Prop :=
  (schemaVersion = 2 ∧ capabilitySchema = 2) ∨ (schemaVersion = 3 ∧ capabilitySchema = 3) ∨
    (4 ≤ schemaVersion ∧ schemaVersion ≤ 6 ∧ capabilitySchema = 4) ∨
    (schemaVersion = 7 ∧ capabilitySchema = 5) ∨
    (schemaVersion = 8 ∧ 6 ≤ capabilitySchema ∧ capabilitySchema ≤ 8)

/-- The snapshot is of a known release, and so is every advertisement in it. -/
structure Historical (snapshot : DeviceRegistrySnapshot) : Prop where
  known : 2 ≤ snapshot.schemaVersion ∧ snapshot.schemaVersion ≤ 8
  paired : ∀ device ∈ snapshot.devices, ∀ capabilities, device.capabilities = some capabilities →
    Paired snapshot.schemaVersion capabilities.capabilitySchemaVersion

/-- The registry holds exactly the devices, keys, generations and revocations of the snapshot. -/
structure ReadAs (registry : DeviceRegistry scheme) (snapshot : DeviceRegistrySnapshot) : Prop where
  distinct : (snapshot.devices.map EnrolledDeviceSnapshot.deviceId).Nodup
  devices : ∀ device ∈ snapshot.devices, ∃ entered,
    registry.devices[device.deviceId]? = some entered ∧
      entered.verifyingKey.bytes = device.verifyingKey ∧ entered.generation = device.generation
  only : ∀ id, id ∈ registry.devices → ∃ device ∈ snapshot.devices, device.deviceId = id
  revoked : ∀ id, id ∈ registry.revoked ↔ id ∈ snapshot.revokedDeviceIds

theorem fromSnapshot_eq_ok : fromSnapshot scheme snapshot = .ok registry ↔
    snapshot.schemaVersion = deviceRegistrySnapshotSchemaVersion ∧
      readDevices scheme snapshot.devices ∅ = .ok registry.devices ∧
      registry.revoked = Std.ExtTreeSet.ofList snapshot.revokedDeviceIds := by
  rw [fromSnapshot, guard_eq_ok, not_not, bind_eq_ok]
  refine and_congr_right fun _ => ?_
  constructor
  · rintro ⟨devices, read, made⟩
    cases made
    exact ⟨read, rfl⟩
  · rintro ⟨read, revoked⟩
    exact ⟨_, read, by rw [← revoked]; rfl⟩

theorem readAs_of_fromSnapshot (read : fromSnapshot scheme snapshot = .ok registry) :
    registry.ReadAs snapshot := by
  obtain ⟨-, devices, revoked⟩ := fromSnapshot_eq_ok.mp read
  obtain ⟨⟨distinct, -⟩, -, -, listed, apart⟩ := of_readDevices devices
  refine ⟨distinct, fun device mem => ?_, fun id held => ?_, fun id => ?_⟩
  · obtain ⟨entered, found, key, generation, -⟩ := listed device mem
    exact ⟨entered, found, key, generation⟩
  · by_contra unlisted
    push Not at unlisted
    rw [mem_iff_get] at held
    obtain ⟨entered, found⟩ := held
    rw [apart id unlisted] at found
    cases found
  · rw [revoked, Std.ExtTreeSet.mem_ofList, List.contains_iff_mem]

theorem paired_of_validPairing {schemaVersion capabilitySchema : Nat}
    (valid : validPairing schemaVersion capabilitySchema = .ok true) :
    Paired schemaVersion capabilitySchema := by
  unfold validPairing at valid
  unfold Paired
  split at valid
  case h_8 => cases valid
  all_goals
    simp only [Except.ok.injEq, Bool.or_eq_true, decide_eq_true_eq] at valid
    omega

theorem checkPairings_eq_ok {schemaVersion : Nat} : checkPairings schemaVersion devices = .ok () ↔
      ∀ device ∈ devices, ∀ capabilities, device.capabilities = some capabilities →
        validPairing schemaVersion capabilities.capabilitySchemaVersion = .ok true := by
  induction devices with
  | nil => simp [checkPairings]
  | cons device rest ih =>
    rw [List.forall_mem_cons, ← ih, checkPairings]
    cases device.capabilities with
    | none => simp
    | some capabilities =>
      dsimp only
      split
      · next e failed => simp [failed]
      · next failed => simp [failed]
      · next passed => simp [passed]

/-- The devices of an older release, without what they advertised. -/
def withoutAdvertisements (snapshot : DeviceRegistrySnapshot) : DeviceRegistrySnapshot :=
  {snapshot with
    schemaVersion := deviceRegistrySnapshotSchemaVersion
    devices := snapshot.devices.map fun device => {device with capabilities := none}}

theorem all_current_iff : devices.all (fun device => device.capabilities.all fun capabilities =>
      capabilities.capabilitySchemaVersion = capabilitySchemaVersion) = true ↔
        Current devices := by
  simp [Current, Option.all_eq_true]

/-- A snapshot is read as it is, or as one of an older release. -/
theorem fromPersistedSnapshot_eq_ok : fromPersistedSnapshot scheme snapshot = .ok registry ↔
    (snapshot.schemaVersion = deviceRegistrySnapshotSchemaVersion ∧ Current snapshot.devices ∧
      fromSnapshot scheme snapshot = .ok registry) ∨
    (¬(snapshot.schemaVersion = deviceRegistrySnapshotSchemaVersion ∧ Current snapshot.devices) ∧
      (∀ device ∈ snapshot.devices, ∀ capabilities, device.capabilities = some capabilities →
        validPairing snapshot.schemaVersion capabilities.capabilitySchemaVersion = .ok true) ∧
      fromSnapshot scheme (withoutAdvertisements snapshot) = .ok registry) := by
  rw [← checkPairings_eq_ok]
  unfold fromPersistedSnapshot
  split
  · next current =>
    rw [all_current_iff] at current
    simp [current]
  · next current =>
    rw [all_current_iff] at current
    cases checked : checkPairings snapshot.schemaVersion snapshot.devices with
    | error e =>
      simp only [reduceCtorEq, false_and, and_false, or_false, false_iff]
      exact fun ⟨version, advertised, _⟩ => current ⟨version, advertised⟩
    | ok done =>
      constructor
      · intro read
        exact .inr ⟨current, rfl, read⟩
      · rintro (⟨version, advertised, -⟩ | ⟨-, -, read⟩)
        · exact absurd ⟨version, advertised⟩ current
        · exact read

theorem wellFormed_withoutAdvertisements :
    WellFormed scheme (withoutAdvertisements snapshot).devices ↔
      WellFormed scheme snapshot.devices := by
  simp [WellFormed, withoutAdvertisements, Function.comp_def]

theorem current_withoutAdvertisements (snapshot : DeviceRegistrySnapshot) :
    Current (withoutAdvertisements snapshot).devices := by
  intro device mem capabilities advertised
  obtain ⟨_, -, rfl⟩ := List.mem_map.mp mem
  cases advertised

theorem fromSnapshot_ok (version : snapshot.schemaVersion = deviceRegistrySnapshotSchemaVersion)
    (formed : WellFormed scheme snapshot.devices) (current : Current snapshot.devices) :
    ∃ registry : DeviceRegistry scheme, fromSnapshot scheme snapshot = .ok registry := by
  obtain ⟨devices, read⟩ := readDevices_ok formed current (t := ∅) (fun _ _ => by simp)
  exact ⟨⟨devices, _⟩, fromSnapshot_eq_ok.mpr ⟨version, read, rfl⟩⟩

section
variable (read : fromPersistedSnapshot scheme snapshot = .ok registry)
include read

theorem wellFormed_of_read : WellFormed scheme snapshot.devices := by
  rcases fromPersistedSnapshot_eq_ok.mp read with ⟨-, -, read⟩ | ⟨-, -, read⟩
  · exact (of_readDevices (fromSnapshot_eq_ok.mp read).2.1).1
  · exact wellFormed_withoutAdvertisements.mp (of_readDevices (fromSnapshot_eq_ok.mp read).2.1).1

theorem readAs_of_read : registry.ReadAs snapshot := by
  rcases fromPersistedSnapshot_eq_ok.mp read with ⟨-, -, read⟩ | ⟨-, -, read⟩
  · exact readAs_of_fromSnapshot read
  · obtain ⟨distinct, devices, only, revoked⟩ := readAs_of_fromSnapshot read
    refine ⟨?_, fun device mem => ?_, fun id held => ?_, revoked⟩
    · simpa [withoutAdvertisements, Function.comp_def] using distinct
    · exact devices {device with capabilities := none} (List.mem_map_of_mem mem)
    · obtain ⟨stripped, mem, named⟩ := only id held
      obtain ⟨device, listed, rfl⟩ := List.mem_map.mp mem
      exact ⟨device, listed, named⟩

/-- A snapshot whose version or advertisements show its release is read only if they are known. -/
theorem historical_of_read (shown : (2 ≤ snapshot.schemaVersion ∧ snapshot.schemaVersion ≤ 8) ∨
      ∃ device ∈ snapshot.devices, device.capabilities.isSome = true) : Historical snapshot := by
  rcases fromPersistedSnapshot_eq_ok.mp read with ⟨version, current, -⟩ | ⟨-, pairings, -⟩
  · rw [deviceRegistrySnapshotSchemaVersion] at version
    refine ⟨by omega, fun device mem capabilities advertised => ?_⟩
    rw [version, current device mem capabilities advertised]
    simp [Paired, capabilitySchemaVersion]
  · have all_paired : ∀ device ∈ snapshot.devices, ∀ capabilities,
        device.capabilities = some capabilities →
          Paired snapshot.schemaVersion capabilities.capabilitySchemaVersion :=
      fun device mem capabilities advertised =>
        paired_of_validPairing (pairings device mem capabilities advertised)
    refine ⟨?_, all_paired⟩
    rcases shown with known | ⟨device, mem, advertises⟩
    · exact known
    · obtain ⟨capabilities, advertised⟩ := Option.isSome_iff_exists.mp advertises
      have pair := all_paired device mem capabilities advertised
      unfold Paired at pair
      omega

end

/-- Without advertisements the version is not looked at. -/
theorem read_of_silent (formed : WellFormed scheme snapshot.devices)
    (silent : ∀ device ∈ snapshot.devices, device.capabilities = none) :
    ∃ registry : DeviceRegistry scheme, fromPersistedSnapshot scheme snapshot = .ok registry := by
  have unadvertised : ∀ device ∈ snapshot.devices, ∀ capabilities : CapabilityAdvertisement,
      device.capabilities ≠ some capabilities := by
    intro device mem capabilities advertised
    rw [silent device mem] at advertised
    cases advertised
  have current : Current snapshot.devices := fun device mem capabilities advertised =>
    absurd advertised (unadvertised device mem capabilities)
  by_cases version : snapshot.schemaVersion = deviceRegistrySnapshotSchemaVersion
  · obtain ⟨registry, read⟩ := fromSnapshot_ok version formed current
    exact ⟨registry, fromPersistedSnapshot_eq_ok.mpr (.inl ⟨version, current, read⟩)⟩
  · obtain ⟨registry, read⟩ : ∃ registry : DeviceRegistry scheme,
        fromSnapshot scheme (withoutAdvertisements snapshot) = .ok registry :=
      fromSnapshot_ok rfl (wellFormed_withoutAdvertisements.mpr formed)
        (current_withoutAdvertisements snapshot)
    exact ⟨registry, fromPersistedSnapshot_eq_ok.mpr (.inr ⟨fun h => version h.1,
      fun device mem capabilities advertised =>
        absurd advertised (unadvertised device mem capabilities), read⟩)⟩

/-! ### Registries that were reached -/

inductive Event (scheme : SignatureScheme) where
  | enroll (publicKey challenge proof : List UInt8)
  | provisionTrustedDevice (key : VerifyingKey scheme)
  | connect (deviceId : String) (capabilities : CapabilityAdvertisement)
  | disconnect (deviceId : String)
  | rotateDeviceKey (deviceId : String)
      (newPublicKey rotationMessage oldProof newProof : List UInt8)
  | revokeDevice (deviceId : String)

def call (registry : DeviceRegistry scheme) :
    Event scheme → Except TrustError (DeviceRegistry scheme)
  | .enroll publicKey challenge proof =>
    (registry.enroll publicKey challenge proof).map Prod.snd
  | .provisionTrustedDevice key => .ok (registry.provisionTrustedDevice key).2
  | .connect deviceId capabilities => (registry.connect deviceId capabilities).map Prod.snd
  | .disconnect deviceId => registry.disconnect deviceId
  | .rotateDeviceKey deviceId newPublicKey rotationMessage oldProof newProof =>
    registry.rotateDeviceKey deviceId newPublicKey rotationMessage oldProof newProof
  | .revokeDevice deviceId => .ok (registry.revokeDevice deviceId)

/-- The registry after a call; a call that fails changes nothing. -/
def next (registry : DeviceRegistry scheme) (event : Event scheme) : DeviceRegistry scheme :=
  (registry.call event).toOption.getD registry

/-- Every device that is connected speaks the current schema. -/
def UpToDate (registry : DeviceRegistry scheme) : Prop :=
  ∀ (id : String) (device : EnrolledDevice scheme), registry.devices[id]? = some device →
    ∀ capabilities, device.capabilities = some capabilities →
      capabilities.capabilitySchemaVersion = capabilitySchemaVersion

theorem upToDate_empty (scheme : SignatureScheme) : (empty scheme).UpToDate := by
  intro id device found
  cases found

section
variable (h : registry.UpToDate)
include h

theorem UpToDate.insert {id : String} {device : EnrolledDevice scheme}
    (current : ∀ capabilities, device.capabilities = some capabilities →
      capabilities.capabilitySchemaVersion = capabilitySchemaVersion) :
    UpToDate {registry with devices := registry.devices.insert id device} := by
  intro a x found
  rw [get_insert] at found
  split at found
  · cases found
    exact current
  · exact h a x found

theorem UpToDate.enter (key : VerifyingKey scheme) : (registry.enter key).2.UpToDate := by
  unfold DeviceRegistry.enter
  dsimp only
  split
  · exact h
  · exact h.insert fun _ offline => (by cases offline)

theorem UpToDate.enroll {publicKey challenge proof : List UInt8}
    {answer : String × DeviceRegistry scheme}
    (ok : registry.enroll publicKey challenge proof = .ok answer) : answer.2.UpToDate := by
  unfold DeviceRegistry.enroll at ok
  split at ok
  · cases ok
  · next key _ =>
    obtain ⟨-, ok⟩ := guard_eq_ok.mp ok
    obtain ⟨-, ok⟩ := guard_eq_ok.mp ok
    cases ok
    exact h.enter key

theorem UpToDate.connect {capabilities : CapabilityAdvertisement}
    {answer : DeviceSession × DeviceRegistry scheme}
    (ok : registry.connect deviceId capabilities = .ok answer) : answer.2.UpToDate := by
  obtain ⟨-, ok⟩ := guard_eq_ok.mp ok
  obtain ⟨current, ok⟩ := guard_eq_ok.mp ok
  split at ok
  · cases ok
  cases ok
  refine h.insert fun c advertised => ?_
  cases advertised
  exact not_not.mp current

theorem UpToDate.disconnect (ok : registry.disconnect deviceId = .ok registry') :
    registry'.UpToDate := by
  unfold DeviceRegistry.disconnect at ok
  split at ok
  · cases ok
  · cases ok
    exact h.insert fun _ offline => (by cases offline)

theorem UpToDate.rotate {newPublicKey rotationMessage oldProof newProof : List UInt8}
    (ok : registry.rotateDeviceKey deviceId newPublicKey rotationMessage oldProof newProof =
      .ok registry') : registry'.UpToDate := by
  obtain ⟨-, ok⟩ := guard_eq_ok.mp ok
  split at ok
  · cases ok
  obtain ⟨-, ok⟩ := guard_eq_ok.mp ok
  split at ok
  · cases ok
  · obtain ⟨-, ok⟩ := guard_eq_ok.mp ok
    cases ok
    exact h.insert fun _ offline => (by cases offline)

theorem UpToDate.next (event : Event scheme) : (registry.next event).UpToDate := by
  unfold DeviceRegistry.next
  cases called : registry.call event with
  | error e => exact h
  | ok registry' =>
    cases event with
    | enroll publicKey challenge proof =>
      obtain ⟨answer, ok, rfl⟩ := map_eq_ok.mp called
      exact h.enroll ok
    | provisionTrustedDevice key =>
      cases called
      exact h.enter key
    | connect deviceId capabilities =>
      obtain ⟨answer, ok, rfl⟩ := map_eq_ok.mp called
      exact h.connect ok
    | disconnect deviceId => exact h.disconnect called
    | rotateDeviceKey deviceId newPublicKey rotationMessage oldProof newProof =>
      exact h.rotate called
    | revokeDevice deviceId =>
      cases called
      exact h

end

theorem mem_snapshot {entry : EnrolledDeviceSnapshot} : entry ∈ registry.snapshot.devices ↔
    ∃ device, registry.devices[entry.deviceId]? = some device ∧ EnteredAs device entry := by
  rw [snapshot, mem_sortBy, List.mem_map]
  constructor
  · rintro ⟨⟨id, device⟩, listed, made⟩
    rw [← made]
    exact ⟨device, Std.ExtTreeMap.mem_toList_iff_getElem?_eq_some.mp listed, rfl, rfl, rfl⟩
  · rintro ⟨device, found, key, generation, advertised⟩
    refine ⟨⟨entry.deviceId, device⟩, Std.ExtTreeMap.mem_toList_iff_getElem?_eq_some.mpr found, ?_⟩
    rw [key, generation, advertised]

theorem wellFormed_snapshot (registry : DeviceRegistry scheme) :
    WellFormed scheme registry.snapshot.devices := by
  refine ⟨?_, fun entry mem => ?_⟩
  · rw [snapshot, ((sortBy_perm _ _).map _).nodup_iff, List.map_map]
    exact nodup_keys registry.devices
  · obtain ⟨device, -, key, -⟩ := mem_snapshot.mp mem
    rw [← key]
    exact device.verifyingKey.valid

theorem UpToDate.current (h : registry.UpToDate) : Current registry.snapshot.devices := by
  intro entry mem capabilities advertised
  obtain ⟨device, found, -, -, same⟩ := mem_snapshot.mp mem
  exact h _ device found capabilities (same.trans advertised)

theorem UpToDate.read_back (h : registry.UpToDate) :
    fromPersistedSnapshot scheme registry.snapshot = .ok registry := by
  obtain ⟨devices, read⟩ := readDevices_ok (wellFormed_snapshot registry) h.current (t := ∅)
    fun _ _ => by simp
  obtain ⟨-, -, -, listed, apart⟩ := of_readDevices read
  have same : devices = registry.devices := by
    apply ext_get
    intro id
    cases found : registry.devices[id]? with
    | some device =>
      obtain ⟨entered, there, key, generation, advertised⟩ := listed
        ⟨id, device.verifyingKey.bytes, device.generation, device.capabilities⟩
        (mem_snapshot.mpr ⟨device, found, rfl, rfl, rfl⟩)
      rw [there]
      obtain ⟨⟨bytes, valid⟩, own, ads⟩ := entered
      subst key generation advertised
      rfl
    | none =>
      rw [apart id, Std.ExtTreeMap.getElem?_empty]
      intro entry mem named
      obtain ⟨device, there, -⟩ := mem_snapshot.mp mem
      rw [named, found] at there
      cases there
  refine fromPersistedSnapshot_eq_ok.mpr (.inl ⟨rfl, h.current, fromSnapshot_eq_ok.mpr ⟨rfl, ?_, ?_⟩⟩)
  · rw [read, same]
  · exact (ofList_names (sortBy_perm _ _)).symm

/-- A snapshot is read only if its release is known, exactly if its version is, or a device in
it advertises something, or it is not well formed. What is read holds exactly its devices, and a
registry that was reached is read back. -/
theorem persisted_fail_closed (scheme : SignatureScheme) :
    (∀ snapshot : DeviceRegistrySnapshot,
      ((∀ registry, fromPersistedSnapshot scheme snapshot = .ok registry → Historical snapshot) ↔
        (2 ≤ snapshot.schemaVersion ∧ snapshot.schemaVersion ≤ 8) ∨
          (∃ device ∈ snapshot.devices, device.capabilities.isSome = true) ∨
          ¬WellFormed scheme snapshot.devices) ∧
      ∀ registry, fromPersistedSnapshot scheme snapshot = .ok registry →
        registry.ReadAs snapshot) ∧
    ∀ events : List (Event scheme),
      fromPersistedSnapshot scheme (run next (empty scheme) events).snapshot =
        .ok (run next (empty scheme) events) := by
  refine ⟨fun snapshot => ⟨⟨fun closed => ?_, fun shown registry read => ?_⟩,
    fun registry read => readAs_of_read read⟩, fun events => ?_⟩
  · by_contra silent
    push Not at silent
    obtain ⟨unknown, silent, formed⟩ := silent
    obtain ⟨registry, read⟩ := read_of_silent formed fun device mem =>
      Option.not_isSome_iff_eq_none.mp (silent device mem)
    have known := (closed registry read).known
    exact absurd known.2 (Nat.not_le.mpr (unknown known.1))
  · refine historical_of_read read ?_
    rcases shown with known | advertises | malformed
    · exact .inl known
    · exact .inr advertises
    · exact absurd (wellFormed_of_read read) malformed
  · have step : ∀ (registry : DeviceRegistry scheme) (event : Event scheme), registry.UpToDate →
        True → (registry.next event).UpToDate :=
      fun _ event h _ => h.next event
    have reached := run_invariant step (upToDate_empty scheme)
      (meets_of_forall (fun _ _ => trivial) events)
    exact reached.read_back

/-- A scheme in which every string is a key. -/
def anyKey : SignatureScheme := ⟨fun _ => true, fun _ _ _ => true⟩

/-- A snapshot of no known version with one device that is not connected. -/
def unknownVersion : DeviceRegistrySnapshot :=
  ⟨99, [⟨"dev_a", Vector.replicate 32 0, 3, none⟩], []⟩

/-- It is read. -/
theorem unknownVersion_read : ∃ registry,
    fromPersistedSnapshot anyKey unknownVersion = .ok registry ∧ ¬Historical unknownVersion := by
  have read : (fromPersistedSnapshot anyKey unknownVersion).isOk = true := by decide +kernel
  obtain ⟨registry, read⟩ := Result.exists_of_isOk read
  exact ⟨registry, read, fun h => absurd h.known.2 (by decide)⟩

end DeviceRegistry

end Gateway.Control
