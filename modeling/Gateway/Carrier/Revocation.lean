import Gateway.Carrier.Signed

/-! What a revoked device can still do.

A revocation is kept by every later call and by every restart, whatever else is called: a revoked
key may be enrolled again and stays revoked. Most entries ask the revocations first. Two do not:
the session of a device that was connected when it was revoked is still given out, and a handoff
response is verified under the device's key alone. -/
namespace Gateway.Carrier
open Data Control Result DeviceRegistry Machine Vector

variable {scheme : SignatureScheme}

/-! ### Runs of a registry -/

/-- A call of the registry, or a restart that writes the registry down and reads it back. -/
inductive RegistryEvent (scheme : SignatureScheme) where
  | call (event : DeviceRegistry.Event scheme)
  | restart

def nextRegistry (registry : DeviceRegistry scheme) : RegistryEvent scheme → DeviceRegistry scheme
  | .call event => registry.next event
  | .restart => (fromPersistedSnapshot scheme registry.snapshot).toOption.getD registry

/-- The registry after calls and restarts. -/
def registryAfter (events : List (RegistryEvent scheme)) : DeviceRegistry scheme :=
  run nextRegistry (empty scheme) events

section Revocations
variable {registry : DeviceRegistry scheme}

theorem revoked_enter (key : VerifyingKey scheme) :
    (registry.enter key).2.revoked = registry.revoked := by
  simp only [enter]
  split <;> rfl

variable {deviceId : String}

theorem revoked_call {event : DeviceRegistry.Event scheme} {registry' : DeviceRegistry scheme}
    (called : registry.call event = .ok registry') (revoked : deviceId ∈ registry.revoked) :
    deviceId ∈ registry'.revoked := by
  cases event with
  | enroll publicKey challenge proof =>
    obtain ⟨answer, ok, rfl⟩ := map_eq_ok.mp called
    unfold enroll at ok
    split at ok
    · cases ok
    · next key _ =>
      obtain ⟨-, ok⟩ := guard_eq_ok.mp ok
      obtain ⟨-, ok⟩ := guard_eq_ok.mp ok
      cases ok
      exact (revoked_enter key).symm ▸ revoked
  | provisionTrustedDevice key =>
    cases called
    exact (revoked_enter key).symm ▸ revoked
  | connect device capabilities =>
    obtain ⟨answer, ok, rfl⟩ := map_eq_ok.mp called
    obtain ⟨-, ok⟩ := guard_eq_ok.mp ok
    obtain ⟨-, ok⟩ := guard_eq_ok.mp ok
    split at ok <;> cases ok
    exact revoked
  | disconnect device =>
    simp only [call, disconnect] at called
    split at called <;> cases called
    exact revoked
  | rotateDeviceKey device newPublicKey rotationMessage oldProof newProof =>
    obtain ⟨-, ok⟩ := guard_eq_ok.mp called
    split at ok
    · cases ok
    obtain ⟨-, ok⟩ := guard_eq_ok.mp ok
    split at ok
    · cases ok
    obtain ⟨-, ok⟩ := guard_eq_ok.mp ok
    cases ok
    exact revoked
  | revokeDevice device =>
    cases called
    exact Std.ExtTreeSet.mem_insert.mpr (.inr revoked)

theorem revoked_next (revoked : deviceId ∈ registry.revoked) (event : RegistryEvent scheme) :
    deviceId ∈ (nextRegistry registry event).revoked := by
  cases event with
  | call event =>
    simp only [nextRegistry, DeviceRegistry.next]
    cases called : registry.call event with
    | error e => exact revoked
    | ok registry' => exact revoked_call called revoked
  | restart =>
    simp only [nextRegistry]
    cases read : fromPersistedSnapshot scheme registry.snapshot with
    | error e => exact revoked
    | ok registry' =>
      have kept := (readAs_of_read read).revoked deviceId
      refine kept.mpr ((sortBy_perm _ _).mem_iff.mpr ?_)
      exact Std.ExtTreeSet.mem_toList.mpr revoked

theorem revoked_run (revoked : deviceId ∈ registry.revoked) (events : List (RegistryEvent scheme)) :
    deviceId ∈ (run nextRegistry registry events).revoked := by
  have step : ∀ (r : DeviceRegistry scheme) (event : RegistryEvent scheme), deviceId ∈ r.revoked →
      True → deviceId ∈ (nextRegistry r event).revoked :=
    fun _ event held _ => revoked_next held event
  exact run_invariant step revoked (meets_of_forall (fun _ _ => trivial) events)

theorem revoked_after {events : List (RegistryEvent scheme)}
    (earlier : .call (.revokeDevice deviceId) ∈ events) :
    deviceId ∈ (registryAfter events).revoked := by
  obtain ⟨before, later, rfl⟩ := List.append_of_mem earlier
  rw [registryAfter, run_append]
  exact revoked_run Std.ExtTreeSet.mem_insert_self later

end Revocations

/-! ### The entries -/

/-- A call or a message that concerns one device. -/
inductive Entry where
  | connect (deviceId : String) (capabilities : CapabilityAdvertisement)
  | rotateDeviceKey (deviceId : String) (newPublicKey rotationMessage oldProof newProof : List UInt8)
  | currentSession (deviceId : String)
  | agentProof (hello : AgentHello) (challenge : HubChallenge) (proof : AgentProof)
  | heartbeat (hello : AgentHello) (challenge : HubChallenge) (heartbeat : AgentHeartbeat)
  | result (hello : AgentHello) (challenge : HubChallenge) (remote : RemoteResult)
  | cancellationAck (hello : AgentHello) (challenge : HubChallenge) (ack : RemoteCancellationAck)
  | indeterminateAck (hello : AgentHello) (challenge : HubChallenge) (ack : RemoteIndeterminateAck)
  | backendSessionEnded (hello : AgentHello) (challenge : HubChallenge)
      (ack : RemoteBackendSessionEnded)
  | reconciliationReport (hello : AgentHello) (challenge : HubChallenge)
      (remote : RemoteReconciliationReport)
  | handoffResponse (hello : AgentHello) (challenge : HubChallenge) (remote : RemoteHandoffResponse)

/-- The device an entry is for: a message is from the device that said hello. -/
def Entry.deviceId : Entry → String
  | .connect deviceId _ | .rotateDeviceKey deviceId .. | .currentSession deviceId => deviceId
  | .agentProof hello .. | .heartbeat hello .. | .result hello .. | .cancellationAck hello ..
  | .indeterminateAck hello .. | .backendSessionEnded hello .. | .reconciliationReport hello ..
  | .handoffResponse hello .. => hello.deviceId

/-- Whether the registry lets an entry through. -/
def accepts (registry : DeviceRegistry scheme) : Entry → Bool
  | .connect deviceId capabilities => (registry.connect deviceId capabilities).isOk
  | .rotateDeviceKey deviceId newPublicKey rotationMessage oldProof newProof =>
    (registry.rotateDeviceKey deviceId newPublicKey rotationMessage oldProof newProof).isOk
  | .currentSession deviceId => (registry.currentSession deviceId).isOk
  | .agentProof hello challenge proof => (verifyAgentProof registry hello challenge proof).isOk
  | .heartbeat hello challenge beat => (verifyAgentHeartbeat registry hello challenge beat).isOk
  | .result hello challenge remote => (verifyRemoteResult registry hello challenge remote).isOk
  | .cancellationAck hello challenge ack =>
    (verifyRemoteCancellationAck registry hello challenge ack).isOk
  | .indeterminateAck hello challenge ack =>
    (verifyRemoteIndeterminateAck registry hello challenge ack).isOk
  | .backendSessionEnded hello challenge ack =>
    (verifyRemoteBackendSessionEnded registry hello challenge ack).isOk
  | .reconciliationReport hello challenge remote =>
    (verifyRemoteReconciliationReport registry hello challenge remote).isOk
  | .handoffResponse hello challenge remote =>
    (verifyRemoteHandoffResponse registry hello challenge remote).isOk

/-- A handoff response the Hub would take from a device in good standing, but for its key. -/
def RemoteHandoffResponse.WellFormed (hello : AgentHello) (remote : RemoteHandoffResponse) : Prop :=
  remote.schemaVersion = hubAgentSchemaVersion ∧
    (validateHandoffRequestId remote.requestId).isOk = true ∧
    (validateHandoffPayload remote.response.json).isOk = true ∧
    remote.deviceId = hello.deviceId ∧ remote.deviceGeneration ≠ 0

/-- The entries that do not ask whether a device is revoked, where nothing else stops them: the
session of a device that is recorded as connected, and a well-formed handoff response that
verifies under the recorded key. -/
def Overlooked (registry : DeviceRegistry scheme) : Entry → Prop
  | .currentSession deviceId =>
    ∃ device, registry.devices[deviceId]? = some device ∧ device.capabilities.isSome = true
  | .handoffResponse hello challenge remote =>
    remote.WellFormed hello ∧ ∃ device, registry.devices[hello.deviceId]? = some device ∧
      device.verifyingKey.verify (remoteHandoffResponseBytes hello challenge remote)
        remote.signature = true
  | _ => False

/-! ### Which entries a revoked device passes -/

section Entries
variable {registry : DeviceRegistry scheme} {hello : AgentHello} {challenge : HubChallenge}

/-- A check in front of something that is refused anyway. -/
theorem isOk_bind_of_refused {ε α β : Type} {x : Except ε α} {f : α → Except ε β}
    (refused : ∀ a, (f a).isOk = false) : (x >>= f).isOk = false := by
  cases x with
  | error e => rfl
  | ok a => exact refused a

theorem isOk_bind_unit {ε α : Type} {x : Except ε Unit} {f : Unit → Except ε α} :
    (x >>= f).isOk = true ↔ x.isOk = true ∧ (f ()).isOk = true := by
  cases x with
  | error e => exact ⟨nofun, fun both => (by cases both.1)⟩
  | ok u => exact ⟨fun ok => ⟨rfl, ok⟩, And.right⟩

theorem validateSchema_isOk (got : Nat) :
    (validateSchema got).isOk = true ↔ got = hubAgentSchemaVersion := by
  unfold validateSchema
  split
  · next same => exact iff_of_true rfl same
  · next other => exact iff_of_false nofun other

theorem verifySigned_revoked (revoked : hello.deviceId ∈ registry.revoked)
    (transcript signature : List UInt8) :
    (verifySigned registry hello transcript signature).isOk = false := by
  rw [verifySigned, verifyDeviceSignature, if_pos revoked]
  rfl

theorem verifyNamed_revoked (revoked : hello.deviceId ∈ registry.revoked) (schemaVersion : Nat)
    (deviceId : String) (transcript signature : List UInt8) :
    (verifyNamed registry hello schemaVersion deviceId transcript signature).isOk = false := by
  refine isOk_bind_of_refused fun _ => ?_
  split
  · rfl
  · exact verifySigned_revoked revoked transcript signature

theorem handoffResponse_isOk {remote : RemoteHandoffResponse} :
    (verifyRemoteHandoffResponse registry hello challenge remote).isOk = true ↔
      Overlooked registry (.handoffResponse hello challenge remote) := by
  unfold verifyRemoteHandoffResponse Overlooked RemoteHandoffResponse.WellFormed
  rw [isOk_bind_unit, isOk_bind_unit, isOk_bind_unit, validateSchema_isOk]
  simp only [and_assoc]
  refine and_congr_right fun _ => and_congr_right fun _ => and_congr_right fun _ => ?_
  split
  · next mismatch =>
    refine iff_of_false nofun fun ⟨named, generation, _⟩ => ?_
    exact mismatch.elim (fun other => other named) generation
  · next named =>
    rw [not_or, not_not] at named
    simp only [named.1, named.2, ne_eq, not_false_iff, true_and]
    rw [deviceVerifier]
    split
    · next short =>
      refine iff_of_false nofun fun ⟨device, _, verified⟩ => short ?_
      exact of_decide_eq_true (Bool.and_eq_true_iff.mp verified).1
    · cases registry.devices[hello.deviceId]? with
      | none => exact iff_of_false nofun fun ⟨_, found, _⟩ => (by cases found)
      | some device =>
        simp only [Option.some.injEq, exists_eq_left']
        show (if _ then _ else _ : Except TransportError Unit).isOk = true ↔ _
        split
        · next wrong => exact iff_of_false nofun wrong
        · next right => exact iff_of_true rfl (not_not.mp right)

/-- A revoked device is refused at every entry but the overlooked ones. -/
theorem accepts_of_revoked {entry : Entry} (revoked : entry.deviceId ∈ registry.revoked) :
    accepts registry entry = true ↔ Overlooked registry entry := by
  have no : ∀ {b : Bool}, b = false → (b = true ↔ False) := fun h => by simp [h]
  cases entry with
  | connect deviceId capabilities =>
    have refused : registry.connect deviceId capabilities = .error .deviceRevoked := if_pos revoked
    exact no (by rw [accepts, refused]; rfl)
  | rotateDeviceKey deviceId newPublicKey rotationMessage oldProof newProof =>
    have refused : registry.rotateDeviceKey deviceId newPublicKey rotationMessage oldProof newProof =
        .error .deviceRevoked := if_pos revoked
    exact no (by rw [accepts, refused]; rfl)
  | currentSession deviceId =>
    simp only [accepts, Overlooked, currentSession]
    cases registry.devices[deviceId]? with
    | none => simp [Except.toBool]
    | some device =>
      cases recorded : device.capabilities with
      | none => simp [recorded, Except.toBool]
      | some capabilities => simp [recorded, Except.toBool]
  | agentProof hello challenge proof =>
    refine no (isOk_bind_of_refused fun _ => ?_)
    split
    · rfl
    · exact verifySigned_revoked revoked _ _
  | result hello challenge remote =>
    exact no (isOk_bind_of_refused fun _ => verifySigned_revoked revoked _ _)
  | reconciliationReport hello challenge remote =>
    refine no (isOk_bind_of_refused fun _ => ?_)
    split
    · rfl
    · exact verifySigned_revoked revoked _ _
  | handoffResponse hello challenge remote => exact handoffResponse_isOk
  | _ => exact no (verifyNamed_revoked revoked ..)

end Entries

/-- After any calls and restarts, a device revoked at some point is refused exactly where the
entry is not an overlooked one. -/
theorem revoked_refused_iff {events : List (RegistryEvent scheme)} {entry : Entry}
    (earlier : .call (.revokeDevice entry.deviceId) ∈ events) :
    accepts (registryAfter events) entry = false ↔ ¬Overlooked (registryAfter events) entry := by
  rw [← accepts_of_revoked (revoked_after earlier), Bool.not_eq_true]

def revokedKey : VerifyingKey anyKey := ⟨replicate 32 0, rfl⟩

def revokedId : String := "dev_" ++ hexOf revokedKey.bytes

def advertised : CapabilityAdvertisement :=
  ⟨"cua", "1", "macos", capabilitySchemaVersion, 1, []⟩

/-- A device is entered, connects and is revoked; its key is entered again. -/
def revokedWhileConnected : List (RegistryEvent anyKey) :=
  [.call (.provisionTrustedDevice revokedKey), .call (.connect revokedId advertised),
    .call (.revokeDevice revokedId), .restart, .call (.provisionTrustedDevice revokedKey)]

def revokedHello : AgentHello :=
  ⟨hubAgentSchemaVersion, revokedId, replicate 32 1, advertised⟩

def revokedChallenge : HubChallenge :=
  ⟨hubAgentSchemaVersion, replicate 32 1, replicate 32 2, replicate 32 3, []⟩

def revokedResponse : RemoteHandoffResponse :=
  ⟨hubAgentSchemaVersion, revokedId, 1, "request-1", .admission .allow, List.replicate 64 0⟩

theorem revoked_heartbeat_refused :
    accepts (registryAfter revokedWhileConnected) (.heartbeat revokedHello revokedChallenge
      ⟨hubAgentSchemaVersion, revokedId, 1, 1, List.replicate 64 0⟩) = false :=
  (revoked_refused_iff (by simp [revokedWhileConnected, Entry.deviceId, revokedHello])).mpr id

/-- The revoked device still has a session and still answers for a handoff. -/
theorem revoked_accepted :
    .call (.revokeDevice revokedId) ∈ revokedWhileConnected ∧
      accepts (registryAfter revokedWhileConnected) (.currentSession revokedId) = true ∧
      accepts (registryAfter revokedWhileConnected)
        (.handoffResponse revokedHello revokedChallenge revokedResponse) = true := by
  refine ⟨by simp [revokedWhileConnected], by decide +kernel, by decide +kernel⟩

end Gateway.Carrier
