import Gateway.Agent.Gate
import Gateway.Control.Grant
import Gateway.Control.Rotation
import Gateway.Hub.References
import Gateway.Hub.State

/-! The Agent's state at a restart.

A checkpoint of the Agent holds the Hub's key, the used grants, the replay gate, and what the
Agent can still prove about operations it has finished: terminal evidence, and receipts of the
backends, each of which is evidence too. -/
namespace Gateway.Agent
open Data Device Control Execution Hub Result AgentExecutionGate VerifyingKey GrantLedger

def maxAgentTerminalEvidenceEntries : Nat := 64
def maxAgentBackendExecutionReceipts : Nat := 64
def backendExecutionReceiptSchemaVersion : Nat := 1
def maxBackendReceiptProviderBytes : Nat := 128
def backendReceiptM1StateSchemaVersion : Nat := 6

/-! ### Receipts of backends -/

inductive BackendReceiptTargetBinding where
  | applicationLaunch (identifier name : Option String)
  | applicationProcess (processId : Nat)
  deriving DecidableEq

namespace BackendReceiptTargetBinding

def isValidFor (capability : DeviceCapability) : BackendReceiptTargetBinding → Bool
  | .applicationLaunch identifier name =>
    capability = .launchApplication && (identifier.isSome || name.isSome) &&
      identifier.all validRecoveryTargetText && name.all validRecoveryTargetText
  | .applicationProcess processId => capability = .terminateApplication && processId ≠ 0

def matchesRecoveryTarget : BackendReceiptTargetBinding → OperationRecoveryTarget → Bool
  | .applicationLaunch identifier name, .applicationLaunch expectedIdentifier expectedName =>
    identifier = expectedIdentifier && name = expectedName
  | .applicationProcess processId, .applicationProcess expectedProcessId _ =>
    processId = expectedProcessId
  | _, _ => false

end BackendReceiptTargetBinding

inductive BackendReceiptTerminalOutcome where
  | effectCommitted
  | provenNotExecuted
  deriving DecidableEq

structure BackendExecutionReceipt where
  schemaVersion : Nat
  operation : OperationRef
  capabilityRevision : Nat
  capability : DeviceCapability
  dispatchGrantId : String
  backend : String
  backendVersion : String
  providerContractSchemaVersion : Nat
  sequence : Nat
  targetBinding : Option BackendReceiptTargetBinding
  terminalOutcome : BackendReceiptTerminalOutcome
  deriving DecidableEq

def validBackendReceiptProviderComponent (value : String) : Bool :=
  !isBlank value && value.utf8ByteSize ≤ maxBackendReceiptProviderBytes &&
    !value.toList.any isControl

namespace BackendExecutionReceipt

variable (receipt : BackendExecutionReceipt)

def dispatchBinding : OperationDispatchBinding :=
  ⟨receipt.capabilityRevision, receipt.dispatchGrantId⟩

def asTerminalEvidence : AgentTerminalEvidence :=
  let (terminalState, evidence) : HubOperationState × ExecutionEvidence :=
    match receipt.terminalOutcome with
    | .effectCommitted => (.completed, .verifiedAgentResult)
    | .provenNotExecuted => (.failed, .verifiedRemoteError)
  ⟨receipt.operation, receipt.capabilityRevision, receipt.capability, receipt.dispatchGrantId,
    terminalState, evidence⟩

def isValid : Bool :=
  receipt.dispatchBinding.isValid &&
  receipt.schemaVersion = backendExecutionReceiptSchemaVersion &&
  receipt.providerContractSchemaVersion = backendExecutionReceiptSchemaVersion &&
  receipt.operation.isBounded && receipt.capability.capabilityClass ≠ .observe &&
  receipt.sequence ≠ 0 && validBackendReceiptProviderComponent receipt.backend &&
  validBackendReceiptProviderComponent receipt.backendVersion &&
  recoveryTargetRequired receipt.capability == receipt.targetBinding.isSome &&
  receipt.targetBinding.all (·.isValidFor receipt.capability) && receipt.asTerminalEvidence.isValid

/-- Receipts of one provider are numbered on their own. -/
def provider : String × String :=
  (receipt.backend, receipt.backendVersion)

/-- A receipt may stand after earlier ones, of which the newest comes first. -/
def follows (earlier : List BackendExecutionReceipt) (receipt : BackendExecutionReceipt) : Bool :=
  receipt.isValid &&
  !(earlier.any fun other => other.operation.operationId = receipt.operation.operationId) &&
  !(earlier.any fun other => other.provider = receipt.provider && other.sequence = receipt.sequence) &&
  (earlier.find? fun other => other.provider = receipt.provider).all fun latest =>
    latest.sequence < receipt.sequence

def eachFollows : List BackendExecutionReceipt → List BackendExecutionReceipt → Bool
  | _, [] => true
  | earlier, receipt :: rest => follows earlier receipt && eachFollows (receipt :: earlier) rest

end BackendExecutionReceipt

namespace BackendExecutionReceipt

/-- Another operation, with a later number if the provider is the same. -/
def Precedes (a b : BackendExecutionReceipt) : Prop :=
  a.operation.operationId ≠ b.operation.operationId ∧
    (a.provider = b.provider → a.sequence < b.sequence)

variable {earlier receipts : List BackendExecutionReceipt} {receipt : BackendExecutionReceipt}

/-- Only the newest receipt of the provider is looked at; those before it have lower numbers. -/
theorem follows_iff (ordered : earlier.Pairwise fun a b => Precedes b a) :
    follows earlier receipt = true ↔
      receipt.isValid = true ∧ ∀ other ∈ earlier, Precedes other receipt := by
  unfold follows
  simp only [Bool.and_eq_true, Bool.not_eq_true', ← Bool.not_eq_true, List.any_eq_true,
    decide_eq_true_eq, not_exists, not_and, Option.all_eq_true]
  constructor
  · rintro ⟨⟨⟨valid, others⟩, -⟩, latest⟩
    refine ⟨valid, fun other among => ⟨others other among, fun same => ?_⟩⟩
    cases found : earlier.find? fun other => other.provider = receipt.provider with
    | none => exact absurd (decide_eq_true same) (List.find?_eq_none.mp found other among)
    | some newest =>
      have below := latest newest found
      obtain ⟨is, first, rest, are, none⟩ := List.find?_eq_some_iff_append.mp found
      rw [decide_eq_true_eq] at is
      rw [are] at among ordered
      rcases List.mem_append.mp among with sooner | among
      · have differs := none other sooner
        simp [same] at differs
      · rcases List.mem_cons.mp among with it | older
        · rw [it]
          exact below
        · have after := (List.pairwise_cons.mp (List.pairwise_append.mp ordered).2.1).1 other older
          exact Nat.lt_trans (after.2 (same.trans is.symm)) below
  · rintro ⟨valid, precede⟩
    refine ⟨⟨⟨valid, fun other among => (precede other among).1⟩, ?_⟩, ?_⟩
    · intro other among same number
      exact Nat.ne_of_lt ((precede other among).2 same) number
    · intro newest found
      have same := List.find?_some found
      exact (precede newest (List.mem_of_find?_eq_some found)).2 (of_decide_eq_true same)

theorem eachFollows_iff (ordered : earlier.Pairwise fun a b => Precedes b a) :
    eachFollows earlier receipts = true ↔ (∀ receipt ∈ receipts, receipt.isValid = true) ∧
      receipts.Pairwise Precedes ∧
      ∀ receipt ∈ receipts, ∀ other ∈ earlier, Precedes other receipt := by
  induction receipts generalizing earlier with
  | nil => simp [eachFollows]
  | cons receipt rest ih =>
    unfold eachFollows
    rw [Bool.and_eq_true, follows_iff ordered]
    constructor
    · rintro ⟨⟨valid, precede⟩, others⟩
      have longer := List.pairwise_cons.mpr ⟨precede, ordered⟩
      obtain ⟨valid', pairs, before⟩ := (ih longer).mp others
      refine ⟨List.forall_mem_cons.mpr ⟨valid, valid'⟩, List.pairwise_cons.mpr ⟨fun later among =>
        before later among receipt List.mem_cons_self, pairs⟩, List.forall_mem_cons.mpr ⟨precede,
        fun later among other earlier => before later among other (List.mem_cons_of_mem _ earlier)⟩⟩
    · rintro ⟨valid, pairs, before⟩
      rw [List.forall_mem_cons] at valid before
      rw [List.pairwise_cons] at pairs
      have longer := List.pairwise_cons.mpr ⟨before.1, ordered⟩
      refine ⟨⟨valid.1, before.1⟩, (ih longer).mpr ⟨valid.2, pairs.2, fun later among other mem => ?_⟩⟩
      rcases List.mem_cons.mp mem with rfl | mem
      · exact pairs.1 later among
      · exact before.2 later among other mem

end BackendExecutionReceipt

def validBackendExecutionReceiptJournal (receipts : List BackendExecutionReceipt) : Bool :=
  receipts.length ≤ maxAgentBackendExecutionReceipts && BackendExecutionReceipt.eachFollows [] receipts

theorem validBackendExecutionReceiptJournal_iff {receipts : List BackendExecutionReceipt} :
    validBackendExecutionReceiptJournal receipts = true ↔
      receipts.length ≤ maxAgentBackendExecutionReceipts ∧
      (∀ receipt ∈ receipts, receipt.isValid = true) ∧
      receipts.Pairwise BackendExecutionReceipt.Precedes := by
  unfold validBackendExecutionReceiptJournal
  rw [Bool.and_eq_true, BackendExecutionReceipt.eachFollows_iff List.Pairwise.nil]
  simp

theorem valid_of_sublist {receipts fewer : List BackendExecutionReceipt}
    (valid : validBackendExecutionReceiptJournal receipts = true) (sub : fewer.Sublist receipts) :
    validBackendExecutionReceiptJournal fewer = true := by
  rw [validBackendExecutionReceiptJournal_iff] at valid ⊢
  exact ⟨sub.length_le.trans valid.1, fun receipt among => valid.2.1 receipt (sub.subset among),
    valid.2.2.sublist sub⟩

/-! ### Checkpoints of the Agent -/

structure AgentPersistentState where
  schemaVersion : Nat
  deviceId : String
  trustedHubPublicKey : KeyBytes
  trustedHubEpoch : Nat
  grantLedger : GrantLedgerSnapshot
  execution : AgentExecutionSnapshot
  terminalEvidence : List AgentTerminalEvidence
  backendExecutionReceipts : List BackendExecutionReceipt
  managedJobFailClosed : Bool

structure RestoredAgentRuntimeSafety (scheme : SignatureScheme) where
  deviceId : String
  trustedHub : TrustedHubIdentity scheme
  grantLedger : GrantLedger scheme
  execution : AgentExecutionGate
  terminalEvidence : List AgentTerminalEvidence
  backendExecutionReceipts : List BackendExecutionReceipt
  managedJobFailClosed : Bool

def validateStateSchema (got : Nat) : Except RestoreError Unit :=
  if got = legacyM1StateSchemaVersion ∨ got = m1StateSchemaVersion then .ok ()
  else .error (.unsupportedSchema got)

namespace AgentPersistentState

/-- What the Agent can prove is well formed, and every receipt is among its evidence. -/
def evidenceFits (state : AgentPersistentState) : Bool :=
  !isBlank state.deviceId && state.terminalEvidence.length ≤ maxAgentTerminalEvidenceEntries &&
  state.terminalEvidence.all AgentTerminalEvidence.isValid &&
  !(state.schemaVersion < backendReceiptM1StateSchemaVersion &&
    !state.backendExecutionReceipts.isEmpty) &&
  validBackendExecutionReceiptJournal state.backendExecutionReceipts &&
  state.backendExecutionReceipts.all fun receipt =>
    state.terminalEvidence.any fun terminal => terminal = receipt.asTerminalEvidence

/-- The state that is written. Every receipt must be among the evidence. -/
def captureWithRuntimeEvidence {scheme : SignatureScheme} (deviceId : String)
    (trustedHub : TrustedHubIdentity scheme) (grantLedger : GrantLedger scheme)
    (execution : AgentExecutionGate) (terminalEvidence : List AgentTerminalEvidence)
    (backendExecutionReceipts : List BackendExecutionReceipt) (managedJobFailClosed : Bool) :
    Except RestoreError AgentPersistentState :=
  if isBlank deviceId ∨ terminalEvidence.length > maxAgentTerminalEvidenceEntries ∨
      (terminalEvidence.any fun entry => !entry.isValid) ∨
      ¬validBackendExecutionReceiptJournal backendExecutionReceipts ∨
      (backendExecutionReceipts.any fun receipt =>
        !terminalEvidence.any fun terminal => terminal = receipt.asTerminalEvidence) then
    .error .invalidState
  else .ok {
    schemaVersion := m1StateSchemaVersion
    deviceId
    trustedHubPublicKey := trustedHub.current.bytes
    trustedHubEpoch := trustedHub.epoch
    grantLedger := grantLedger.snapshot
    execution := execution.snapshotForRestart
    terminalEvidence
    backendExecutionReceipts
    managedJobFailClosed }

def restoreWithRuntimeSafety (scheme : SignatureScheme) (state : AgentPersistentState) :
    Except RestoreError (RestoredAgentRuntimeSafety scheme) := do
  validateStateSchema state.schemaVersion
  if ¬state.evidenceFits then throw .invalidState
  match fromBytes scheme state.trustedHubPublicKey with
  | none => throw .invalidState
  | some hubKey =>
    let grantLedger ← (fromPersistedSnapshot scheme state.grantLedger).mapError .control
    let execution ← (restoreAfterRestart state.execution).mapError .execution
    return {
      deviceId := state.deviceId
      trustedHub := ⟨hubKey, state.trustedHubEpoch⟩
      grantLedger := grantLedger
      execution := execution
      terminalEvidence := state.terminalEvidence
      backendExecutionReceipts := state.backendExecutionReceipts
      managedJobFailClosed := state.managedJobFailClosed }

variable {scheme : SignatureScheme} {state : AgentPersistentState}
  {restored : RestoredAgentRuntimeSafety scheme}

theorem restoreWithRuntimeSafety_eq_ok : state.restoreWithRuntimeSafety scheme = .ok restored ↔
    validateStateSchema state.schemaVersion = .ok () ∧ state.evidenceFits = true ∧
      ∃ hubKey grantLedger execution,
        fromBytes scheme state.trustedHubPublicKey = some hubKey ∧
        fromPersistedSnapshot scheme state.grantLedger = .ok grantLedger ∧
        restoreAfterRestart state.execution = .ok execution ∧
        restored = ⟨state.deviceId, ⟨hubKey, state.trustedHubEpoch⟩, grantLedger, execution,
          state.terminalEvidence, state.backendExecutionReceipts, state.managedJobFailClosed⟩ := by
  constructor
  · intro read
    obtain ⟨_, schema, read⟩ := bind_eq_ok.mp read
    obtain ⟨fits, read⟩ := guard_eq_ok.mp read
    split at read
    · cases read
    · next hubKey key =>
      obtain ⟨grantLedger, grants, read⟩ := bind_eq_ok.mp read
      obtain ⟨execution, gate, read⟩ := bind_eq_ok.mp read
      cases read
      exact ⟨schema, not_not.mp fits, hubKey, grantLedger, execution, key,
        mapError_eq_ok.mp grants, mapError_eq_ok.mp gate, rfl⟩
  · rintro ⟨schema, fits, hubKey, grantLedger, execution, key, grants, gate, rfl⟩
    refine bind_eq_ok.mpr ⟨(), schema, guard_eq_ok.mpr ⟨not_not_intro fits, ?_⟩⟩
    rw [key]
    refine bind_eq_ok.mpr ⟨grantLedger, mapError_eq_ok.mpr grants, ?_⟩
    exact bind_eq_ok.mpr ⟨execution, mapError_eq_ok.mpr gate, rfl⟩

theorem valid_of_restored (read : state.restoreWithRuntimeSafety scheme = .ok restored)
    {terminal : AgentTerminalEvidence} (among : terminal ∈ state.terminalEvidence) :
    terminal.isValid = true := by
  have fits := (restoreWithRuntimeSafety_eq_ok.mp read).2.1
  simp only [evidenceFits, Bool.and_eq_true, List.all_eq_true] at fits
  exact fits.1.1.1.2 terminal among

end AgentPersistentState

end Gateway.Agent
