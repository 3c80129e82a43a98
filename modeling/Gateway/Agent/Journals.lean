import Gateway.Agent.Persistence
import Gateway.Carrier.Result

/-! The journals of the Agent.

What the Agent can prove about finished operations is kept in two bounded journals, each of which
forgets its oldest entries on its own. A checkpoint holds the evidence as it is and the receipts
that are among it, so that it can be read back whichever of the two has forgotten more. -/
namespace Gateway.Agent
open Data Device Control Execution Hub DeviceRegistry Machine AgentExecutionGate GrantLedger
open AgentPersistentState Result

/-! ### Recording -/

/-- A journal forgets its oldest entries until it is short enough. -/
def popFront {α : Type} (limit : Nat) : List α → List α
  | [] => []
  | first :: rest => if (first :: rest).length > limit then popFront limit rest else first :: rest

theorem popFront_suffix {α : Type} (limit : Nat) (journal : List α) :
    popFront limit journal <:+ journal := by
  induction journal with
  | nil => exact List.suffix_refl _
  | cons first rest ih =>
    unfold popFront
    split
    · exact ih.trans (List.suffix_cons first rest)
    · exact List.suffix_refl _

theorem length_popFront {α : Type} (limit : Nat) (journal : List α) :
    (popFront limit journal).length ≤ limit := by
  induction journal with
  | nil => exact Nat.zero_le _
  | cons first rest ih =>
    unfold popFront
    split
    · exact ih
    · next short => exact Nat.le_of_not_lt short

/-- What is told of the operation that is running. -/
structure ActiveOperation where
  operationId : String
  deviceGeneration : Nat
  capabilityRevision : Nat
  capability : DeviceCapability
  dispatchGrantId : String

def terminalEvidenceForDeviceResult :
    Carrier.DeviceResult → Option (HubOperationState × ExecutionEvidence)
  | .error .backendOutcomeIndeterminate => none
  | .error _ => some (.failed, .verifiedRemoteError)
  | .process output _ _ | .shell output _ _ =>
    if output.cancelled then some (.cancelled, .provenProcessTermination)
    else if output.timedOut then some (.failed, .provenProcessTermination)
    else some (.completed, .verifiedAgentResult)
  | _ => some (.completed, .verifiedAgentResult)

/-- The evidence that a result is of an operation, if it is any. -/
def evidenceOf (deviceId : String) (operation : ActiveOperation) (deviceResult : Carrier.DeviceResult) :
    Option AgentTerminalEvidence :=
  if operation.capability.capabilityClass = .observe then none
  else (terminalEvidenceForDeviceResult deviceResult).map fun (terminalState, evidence) =>
    ⟨⟨deviceId, operation.deviceGeneration, operation.operationId⟩, operation.capabilityRevision,
      operation.capability, operation.dispatchGrantId, terminalState, evidence⟩

def recordTerminalEvidence (journal : List AgentTerminalEvidence) (deviceId : String)
    (operation : ActiveOperation) (deviceResult : Carrier.DeviceResult) :
    Except ExecutionError (List AgentTerminalEvidence) :=
  match evidenceOf deviceId operation deviceResult with
  | none => .ok journal
  | some entry =>
    if ¬entry.isValid then .error .invalidOperation
    else if journal.any fun existing =>
        existing.operation.operationId = entry.operation.operationId then .ok journal
    else .ok (popFront maxAgentTerminalEvidenceEntries (journal ++ [entry]))

def recordBackendExecutionReceipt (receiptJournal : List BackendExecutionReceipt)
    (terminalJournal : List AgentTerminalEvidence) (receipt : BackendExecutionReceipt) :
    Except ExecutionError (List BackendExecutionReceipt × List AgentTerminalEvidence) :=
  if ¬receipt.isValid then .error .invalidOperation
  else match receiptJournal.find? fun existing =>
      existing.operation.operationId = receipt.operation.operationId with
    | some existing =>
      if existing = receipt then .ok (receiptJournal, terminalJournal) else .error .invalidOperation
    | none =>
      if receiptJournal.any fun existing => existing.backend = receipt.backend &&
          existing.backendVersion = receipt.backendVersion && existing.sequence ≥ receipt.sequence then
        .error .invalidOperation
      else
        let terminal := receipt.asTerminalEvidence
        let receipts := popFront maxAgentBackendExecutionReceipts (receiptJournal ++ [receipt])
        match terminalJournal.find? fun existing =>
            existing.operation.operationId = terminal.operation.operationId with
        | some existing =>
          if existing ≠ terminal then .error .invalidOperation else .ok (receipts, terminalJournal)
        | none =>
          .ok (receipts, popFront maxAgentTerminalEvidenceEntries (terminalJournal ++ [terminal]))

/-! ### The Agent -/

/-- The Agent, with the checkpoint that was saved last. -/
structure AgentService (scheme : SignatureScheme) where
  deviceId : String
  trustedHub : TrustedHubIdentity scheme
  grants : GrantLedger scheme
  execution : AgentExecutionGate
  terminalEvidence : List AgentTerminalEvidence
  backendExecutionReceipts : List BackendExecutionReceipt
  managedJobFailClosed : Bool
  checkpoint : AgentPersistentState

namespace AgentService
variable {scheme : SignatureScheme} (s : AgentService scheme)

/-- The receipts that are written: those that are among the evidence. -/
def receiptsWritten : List BackendExecutionReceipt :=
  s.backendExecutionReceipts.filter fun receipt =>
    s.terminalEvidence.any fun terminal => terminal = receipt.asTerminalEvidence

def captured : Except RestoreError AgentPersistentState :=
  AgentPersistentState.captureWithRuntimeEvidence s.deviceId s.trustedHub s.grants s.execution
    s.terminalEvidence s.receiptsWritten s.managedJobFailClosed

/-- A result has come in for an operation. -/
def record (deviceId : String) (operation : ActiveOperation)
    (deviceResult : Carrier.DeviceResult) : AgentService scheme :=
  match recordTerminalEvidence s.terminalEvidence deviceId operation deviceResult with
  | .error _ => s
  | .ok terminalEvidence => {s with terminalEvidence}

/-- A backend has issued a receipt. -/
def recordReceipt (receipt : BackendExecutionReceipt) : AgentService scheme :=
  match recordBackendExecutionReceipt s.backendExecutionReceipts s.terminalEvidence receipt with
  | .error _ => s
  | .ok (backendExecutionReceipts, terminalEvidence) =>
    {s with backendExecutionReceipts, terminalEvidence}

/-- The store may fail to take the checkpoint. -/
def persistState (stored : Bool) : AgentService scheme :=
  match s.captured with
  | .error _ => s
  | .ok state => if stored then {s with checkpoint := state} else s

/-- The Agent goes on from its checkpoint. -/
def restart : AgentService scheme :=
  match s.checkpoint.restoreWithRuntimeSafety scheme with
  | .error _ => s
  | .ok restored => {s with
      trustedHub := restored.trustedHub
      grants := restored.grantLedger
      execution := restored.execution
      terminalEvidence := restored.terminalEvidence
      backendExecutionReceipts := restored.backendExecutionReceipts
      managedJobFailClosed := restored.managedJobFailClosed }

/-- The Agent when it is first started, with its baseline checkpoint. -/
def start (deviceId : String) (hub grantVerifier : VerifyingKey scheme) : AgentService scheme where
  deviceId
  trustedHub := ⟨hub, 0⟩
  grants := .new grantVerifier
  execution := ⟨none, none, ∅⟩
  terminalEvidence := []
  backendExecutionReceipts := []
  managedJobFailClosed := false
  checkpoint := {
    schemaVersion := m1StateSchemaVersion
    deviceId
    trustedHubPublicKey := hub.bytes
    trustedHubEpoch := 0
    grantLedger := (new grantVerifier).snapshot
    execution := snapshotForRestart ⟨none, none, ∅⟩
    terminalEvidence := []
    backendExecutionReceipts := []
    managedJobFailClosed := false }

end AgentService

inductive JournalStep (scheme : SignatureScheme) where
  | recordTerminalEvidence (deviceId : String) (operation : ActiveOperation)
      (deviceResult : Carrier.DeviceResult)
  | recordBackendExecutionReceipt (receipt : BackendExecutionReceipt)
  | persistState (stored : Bool)
  | restart
  /-- Whatever else the Agent does leaves the journals alone. -/
  | work (trustedHub : TrustedHubIdentity scheme) (grants : GrantLedger scheme)
      (execution : AgentExecutionGate) (managedJobFailClosed : Bool)

namespace AgentService
variable {scheme : SignatureScheme}

def next (s : AgentService scheme) : JournalStep scheme → AgentService scheme
  | .recordTerminalEvidence deviceId operation deviceResult =>
    s.record deviceId operation deviceResult
  | .recordBackendExecutionReceipt receipt => s.recordReceipt receipt
  | .persistState stored => s.persistState stored
  | .restart => s.restart
  | .work trustedHub grants execution managedJobFailClosed =>
    {s with trustedHub, grants, execution, managedJobFailClosed}

end AgentService

/-! ### What recording keeps -/

/-- Two journals that a checkpoint can be made of. -/
structure JournalsSound (terminalEvidence : List AgentTerminalEvidence)
    (receipts : List BackendExecutionReceipt) : Prop where
  short : terminalEvidence.length ≤ maxAgentTerminalEvidenceEntries
  valid : ∀ entry ∈ terminalEvidence, entry.isValid = true
  distinct : (terminalEvidence.map fun entry => entry.operation.operationId).Nodup
  receipts : validBackendExecutionReceiptJournal receipts = true

namespace JournalsSound
variable {terminalEvidence : List AgentTerminalEvidence} {receipts : List BackendExecutionReceipt}

theorem start : JournalsSound [] [] :=
  ⟨Nat.zero_le _, fun _ among => absurd among List.not_mem_nil, List.nodup_nil, rfl⟩

section
variable (sound : JournalsSound terminalEvidence receipts)
include sound

theorem push {entry : AgentTerminalEvidence} (valid : entry.isValid = true)
    (new : ∀ existing ∈ terminalEvidence,
      existing.operation.operationId ≠ entry.operation.operationId) :
    JournalsSound (popFront maxAgentTerminalEvidenceEntries (terminalEvidence ++ [entry])) receipts := by
  have suffix := popFront_suffix maxAgentTerminalEvidenceEntries (terminalEvidence ++ [entry])
  refine ⟨length_popFront _ _, fun other among => ?_, ?_, sound.receipts⟩
  · rcases List.mem_append.mp (suffix.subset among) with old | is
    · exact sound.valid other old
    · rw [List.mem_singleton.mp is]
      exact valid
  · refine List.Nodup.sublist (suffix.sublist.map _) ?_
    rw [List.map_append, List.nodup_append]
    refine ⟨sound.distinct, List.nodup_singleton _, ?_⟩
    rintro id old _ is rfl
    obtain ⟨existing, among, rfl⟩ := List.mem_map.mp old
    exact new existing among (List.mem_singleton.mp is)

theorem recordTerminalEvidence {deviceId : String} {operation : ActiveOperation}
    {deviceResult : Carrier.DeviceResult} {after : List AgentTerminalEvidence}
    (recorded : recordTerminalEvidence terminalEvidence deviceId operation deviceResult = .ok after) :
    JournalsSound after receipts := by
  unfold Agent.recordTerminalEvidence at recorded
  split at recorded
  · cases recorded
    exact sound
  · next entry _ =>
    obtain ⟨valid, recorded⟩ := guard_eq_ok.mp recorded
    split at recorded
    · cases recorded
      exact sound
    · next new =>
      cases recorded
      refine sound.push (not_not.mp valid) fun existing among same => new ?_
      exact List.any_eq_true.mpr ⟨existing, among, decide_eq_true same⟩

theorem pushReceipt {receipt : BackendExecutionReceipt} (valid : receipt.isValid = true)
    (later : ∀ existing ∈ receipts, existing.Precedes receipt) : JournalsSound terminalEvidence
      (popFront maxAgentBackendExecutionReceipts (receipts ++ [receipt])) := by
  obtain ⟨-, each, pairs⟩ := validBackendExecutionReceiptJournal_iff.mp sound.receipts
  have suffix := popFront_suffix maxAgentBackendExecutionReceipts (receipts ++ [receipt])
  refine ⟨sound.short, sound.valid, sound.distinct,
    validBackendExecutionReceiptJournal_iff.mpr ⟨length_popFront _ _, fun other among => ?_, ?_⟩⟩
  · rcases List.mem_append.mp (suffix.subset among) with old | is
    · exact each other old
    · rw [List.mem_singleton.mp is]
      exact valid
  · refine List.Pairwise.sublist suffix.sublist ?_
    rw [List.pairwise_append]
    refine ⟨pairs, List.pairwise_singleton _ _, fun existing among other is => ?_⟩
    rw [List.mem_singleton.mp is]
    exact later existing among

theorem recordBackendExecutionReceipt {receipt : BackendExecutionReceipt}
    {after : List BackendExecutionReceipt × List AgentTerminalEvidence}
    (recorded : recordBackendExecutionReceipt receipts terminalEvidence receipt = .ok after) :
    JournalsSound after.2 after.1 := by
  unfold Agent.recordBackendExecutionReceipt at recorded
  obtain ⟨valid, recorded⟩ := guard_eq_ok.mp recorded
  have valid := not_not.mp valid
  split at recorded
  · split at recorded
    · cases recorded
      exact sound
    · cases recorded
  · next unknown =>
    obtain ⟨newest, recorded⟩ := guard_eq_ok.mp recorded
    rw [List.any_eq_true] at newest
    have later : ∀ existing ∈ receipts, existing.Precedes receipt := by
      intro existing among
      have other := List.find?_eq_none.mp unknown existing among
      rw [decide_eq_true_eq] at other
      refine ⟨other, fun same => Nat.lt_of_not_le fun more => newest ⟨existing, among, ?_⟩⟩
      obtain ⟨backend, version⟩ := Prod.mk.inj same
      simp [backend, version, more]
    have pushed := sound.pushReceipt valid later
    dsimp only at recorded
    split at recorded
    · next existing _ =>
      obtain ⟨_, is⟩ := guard_eq_ok.mp recorded
      cases is
      exact pushed
    · next absent =>
      cases recorded
      refine pushed.push ?_ fun existing among same => ?_
      · simp only [BackendExecutionReceipt.isValid, Bool.and_eq_true] at valid
        exact valid.2
      · exact absurd (decide_eq_true same) (List.find?_eq_none.mp absent existing among)

end

end JournalsSound

/-! ### Checkpoints -/

namespace AgentService
variable {scheme : SignatureScheme} {s : AgentService scheme}

/-- What a checkpoint of the Agent holds. -/
def written (s : AgentService scheme) : AgentPersistentState where
  schemaVersion := m1StateSchemaVersion
  deviceId := s.deviceId
  trustedHubPublicKey := s.trustedHub.current.bytes
  trustedHubEpoch := s.trustedHub.epoch
  grantLedger := s.grants.snapshot
  execution := s.execution.snapshotForRestart
  terminalEvidence := s.terminalEvidence
  backendExecutionReceipts := s.receiptsWritten
  managedJobFailClosed := s.managedJobFailClosed

/-- The ledger and the gate can be read back from a checkpoint. -/
def Legible (grants : GrantLedger scheme) (execution : AgentExecutionGate) : Prop :=
  (∃ restored, fromPersistedSnapshot scheme grants.snapshot = .ok restored) ∧
    ∃ restored, restoreAfterRestart execution.snapshotForRestart = .ok restored

/-- The state of the Agent and its checkpoint can be persisted and read back. -/
structure Persistable (s : AgentService scheme) : Prop where
  named : isBlank s.deviceId = false
  journals : JournalsSound s.terminalEvidence s.backendExecutionReceipts
  legible : Legible s.grants s.execution
  checkpoint : ∃ restored, s.checkpoint.restoreWithRuntimeSafety scheme = .ok restored ∧
    JournalsSound restored.terminalEvidence restored.backendExecutionReceipts

theorem receiptsWritten_sublist (s : AgentService scheme) :
    s.receiptsWritten.Sublist s.backendExecutionReceipts :=
  List.filter_sublist

theorem any_of_mem_receiptsWritten {receipt : BackendExecutionReceipt}
    (among : receipt ∈ s.receiptsWritten) :
    (s.terminalEvidence.any fun terminal => terminal = receipt.asTerminalEvidence) = true :=
  (List.mem_filter.mp among).2

section
variable (named : isBlank s.deviceId = false) (sound : JournalsSound s.terminalEvidence s.backendExecutionReceipts)
include named sound

theorem captured_eq : s.captured = .ok s.written := by
  refine if_neg ?_
  rintro (blank | long | invalid | invalid | unproven)
  · rw [named] at blank
    cases blank
  · exact absurd sound.short (Nat.not_le.mpr long)
  · obtain ⟨entry, among, invalid⟩ := List.any_eq_true.mp invalid
    rw [sound.valid entry among] at invalid
    cases invalid
  · exact invalid (valid_of_sublist sound.receipts s.receiptsWritten_sublist)
  · obtain ⟨receipt, among, unproven⟩ := List.any_eq_true.mp unproven
    rw [any_of_mem_receiptsWritten among] at unproven
    cases unproven

theorem written_fits : s.written.evidenceFits = true := by
  simp only [evidenceFits, Bool.and_eq_true, List.all_eq_true, written]
  refine ⟨⟨⟨⟨⟨by rw [named]; rfl, decide_eq_true sound.short⟩, sound.valid⟩, rfl⟩, ?_⟩, ?_⟩
  · exact valid_of_sublist sound.receipts s.receiptsWritten_sublist
  · exact fun receipt among => any_of_mem_receiptsWritten among

/-- A captured state is read back with the journals as they were captured. -/
theorem restored_written (legible : Legible s.grants s.execution) :
    ∃ restored, s.written.restoreWithRuntimeSafety scheme = .ok restored ∧
      restored.terminalEvidence = s.terminalEvidence ∧
      restored.backendExecutionReceipts = s.receiptsWritten := by
  obtain ⟨⟨grants, ledger⟩, ⟨execution, gate⟩⟩ := legible
  refine ⟨⟨s.deviceId, s.trustedHub, grants, execution, s.terminalEvidence, s.receiptsWritten,
    s.managedJobFailClosed⟩, ?_, rfl, rfl⟩
  refine restoreWithRuntimeSafety_eq_ok.mpr ⟨if_pos (.inr rfl),
    written_fits named sound, s.trustedHub.current, grants, execution, ?_, ledger, gate, rfl⟩
  exact dif_pos s.trustedHub.current.valid

end

/-- What is read back can be read back again. -/
theorem legible_of_restored {state : AgentPersistentState}
    {restored : RestoredAgentRuntimeSafety scheme}
    (read : state.restoreWithRuntimeSafety scheme = .ok restored) :
    Legible restored.grantLedger restored.execution := by
  obtain ⟨_, _, _, _, _, _, ledger, gate, rfl⟩ := restoreWithRuntimeSafety_eq_ok.mp read
  exact ⟨(legible_of_read ledger).reads, reads_of_read gate⟩

namespace Persistable

theorem start {deviceId : String} (named : isBlank deviceId = false)
    (hub grantVerifier : VerifyingKey scheme) :
    (AgentService.start deviceId hub grantVerifier).Persistable := by
  have legible : Legible (AgentService.start deviceId hub grantVerifier).grants
      (AgentService.start deviceId hub grantVerifier).execution :=
    ⟨(legible_new grantVerifier).reads, _, rfl⟩
  obtain ⟨restored, read, evidence, receipts⟩ := restored_written
    (s := AgentService.start deviceId hub grantVerifier) named .start legible
  refine ⟨named, JournalsSound.start, legible, restored, read, ?_⟩
  rw [evidence, receipts]
  exact JournalsSound.start

theorem record (h : s.Persistable) (deviceId : String) (operation : ActiveOperation)
    (deviceResult : Carrier.DeviceResult) : (s.record deviceId operation deviceResult).Persistable := by
  unfold AgentService.record
  split
  · exact h
  · next recorded =>
    exact ⟨h.named, h.journals.recordTerminalEvidence recorded, h.legible, h.checkpoint⟩

theorem recordReceipt (h : s.Persistable) (receipt : BackendExecutionReceipt) :
    (s.recordReceipt receipt).Persistable := by
  unfold AgentService.recordReceipt
  split
  · exact h
  · next recorded =>
    exact ⟨h.named, h.journals.recordBackendExecutionReceipt recorded, h.legible, h.checkpoint⟩

theorem persistState (h : s.Persistable) (stored : Bool) : (s.persistState stored).Persistable := by
  unfold AgentService.persistState
  rw [captured_eq h.named h.journals]
  cases stored with
  | false => exact h
  | true =>
    obtain ⟨restored, read, evidence, receipts⟩ := restored_written h.named h.journals h.legible
    refine ⟨h.named, h.journals, h.legible, restored, read, ?_⟩
    rw [evidence, receipts]
    exact ⟨h.journals.short, h.journals.valid, h.journals.distinct,
      valid_of_sublist h.journals.receipts s.receiptsWritten_sublist⟩

theorem restart (h : s.Persistable) : s.restart.Persistable := by
  obtain ⟨restored, read, sound⟩ := h.checkpoint
  unfold AgentService.restart
  rw [read]
  exact ⟨h.named, sound, legible_of_restored read, restored, read, sound⟩

end Persistable

end AgentService

/-- What the Agent goes on with in place of its ledger and its gate can be read back. -/
def JournalStep.Legible {scheme : SignatureScheme} : JournalStep scheme → Prop
  | .work _ grants execution _ => AgentService.Legible grants execution
  | _ => True

namespace AgentService
variable {scheme : SignatureScheme} {s : AgentService scheme}

theorem Persistable.next (h : s.Persistable) {step : JournalStep scheme} (legible : step.Legible) :
    (s.next step).Persistable := by
  cases step with
  | recordTerminalEvidence deviceId operation deviceResult =>
    exact h.record deviceId operation deviceResult
  | recordBackendExecutionReceipt receipt => exact h.recordReceipt receipt
  | persistState stored => exact h.persistState stored
  | restart => exact h.restart
  | work trustedHub grants execution managedJobFailClosed =>
    exact ⟨h.named, h.journals, legible, h.checkpoint⟩

theorem Persistable.run {deviceId : String} (named : isBlank deviceId = false)
    (hub grantVerifier : VerifyingKey scheme) {steps : List (JournalStep scheme)}
    (legible : ∀ step ∈ steps, step.Legible) :
    (run AgentService.next (AgentService.start deviceId hub grantVerifier) steps).Persistable :=
  run_invariant (fun _ _ h legible => h.next legible) (.start named hub grantVerifier)
    (meets_of_mem legible)

end AgentService

/-! ### What the journals tell of -/

/-- The evidence that a step brings in. -/
def JournalStep.evidence? {scheme : SignatureScheme} :
    JournalStep scheme → Option AgentTerminalEvidence
  | .recordTerminalEvidence deviceId operation deviceResult =>
    evidenceOf deviceId operation deviceResult
  | .recordBackendExecutionReceipt receipt => some receipt.asTerminalEvidence
  | _ => none

section Provenance
variable {terminalEvidence : List AgentTerminalEvidence} {receipts : List BackendExecutionReceipt}

theorem mem_popFront_push {α : Type} {limit : Nat} {journal : List α} {a b : α}
    (among : a ∈ popFront limit (journal ++ [b])) : a ∈ journal ∨ a = b := by
  have among := (popFront_suffix limit (journal ++ [b])).subset among
  rwa [List.mem_append, List.mem_singleton] at among

theorem mem_of_recordTerminalEvidence {deviceId : String} {operation : ActiveOperation}
    {deviceResult : Carrier.DeviceResult} {after : List AgentTerminalEvidence}
    (recorded : recordTerminalEvidence terminalEvidence deviceId operation deviceResult = .ok after)
    {entry : AgentTerminalEvidence} (among : entry ∈ after) :
    entry ∈ terminalEvidence ∨ evidenceOf deviceId operation deviceResult = some entry := by
  unfold recordTerminalEvidence at recorded
  split at recorded
  · cases recorded
    exact .inl among
  · next new is =>
    obtain ⟨-, recorded⟩ := guard_eq_ok.mp recorded
    split at recorded
    · cases recorded
      exact .inl among
    · cases recorded
      rcases mem_popFront_push among with old | rfl
      · exact .inl old
      · exact .inr is

theorem mem_of_recordBackendExecutionReceipt {receipt : BackendExecutionReceipt}
    {after : List BackendExecutionReceipt × List AgentTerminalEvidence}
    (recorded : recordBackendExecutionReceipt receipts terminalEvidence receipt = .ok after) :
    (∀ other ∈ after.1, other ∈ receipts ∨ other = receipt) ∧
      ∀ entry ∈ after.2, entry ∈ terminalEvidence ∨ entry = receipt.asTerminalEvidence := by
  obtain ⟨-, recorded⟩ := guard_eq_ok.mp recorded
  split at recorded
  · split at recorded
    · cases recorded
      exact ⟨fun _ => .inl, fun _ => .inl⟩
    · cases recorded
  · obtain ⟨-, recorded⟩ := guard_eq_ok.mp recorded
    dsimp only at recorded
    split at recorded
    · obtain ⟨-, is⟩ := guard_eq_ok.mp recorded
      cases is
      exact ⟨fun _ => mem_popFront_push, fun _ => .inl⟩
    · cases recorded
      exact ⟨fun _ => mem_popFront_push, fun _ => mem_popFront_push⟩

end Provenance

namespace AgentService
variable {scheme : SignatureScheme} {s : AgentService scheme} {P : AgentTerminalEvidence → Prop}

/-- All that is recorded, now and in the checkpoint, is evidence of some kind. -/
structure Records (P : AgentTerminalEvidence → Prop) (s : AgentService scheme) : Prop where
  evidence : ∀ entry ∈ s.terminalEvidence, P entry
  receipts : ∀ receipt ∈ s.backendExecutionReceipts, P receipt.asTerminalEvidence
  saved : ∀ entry ∈ s.checkpoint.terminalEvidence, P entry
  savedReceipts : ∀ receipt ∈ s.checkpoint.backendExecutionReceipts, P receipt.asTerminalEvidence

theorem Records.next (h : s.Records P) {step : JournalStep scheme}
    (new : ∀ entry ∈ step.evidence?, P entry) : (s.next step).Records P := by
  cases step with
  | recordTerminalEvidence deviceId operation deviceResult =>
    show (s.record deviceId operation deviceResult).Records P
    unfold record
    split
    · exact h
    · next recorded =>
      refine {h with evidence := fun entry among => ?_}
      exact (mem_of_recordTerminalEvidence recorded among).elim (h.evidence entry) (new entry)
  | recordBackendExecutionReceipt receipt =>
    show (s.recordReceipt receipt).Records P
    unfold recordReceipt
    split
    · exact h
    · next recorded =>
      have sources := mem_of_recordBackendExecutionReceipt recorded
      have proven := new receipt.asTerminalEvidence rfl
      exact {h with
        evidence := fun entry among =>
          (sources.2 entry among).elim (h.evidence entry) fun is => is ▸ proven
        receipts := fun other among =>
          (sources.1 other among).elim (h.receipts other) fun is => is ▸ proven}
  | persistState stored =>
    show (s.persistState stored).Records P
    unfold AgentService.persistState
    split
    · exact h
    · next state taken =>
      cases stored with
      | false => exact h
      | true =>
        obtain ⟨-, is⟩ := guard_eq_ok.mp taken
        cases is
        exact {h with
          saved := h.evidence
          savedReceipts := fun receipt among =>
            h.receipts receipt (s.receiptsWritten_sublist.subset among)}
  | restart =>
    show s.restart.Records P
    unfold AgentService.restart
    split
    · exact h
    · next restored read =>
      obtain ⟨_, _, _, _, _, _, _, _, rfl⟩ := restoreWithRuntimeSafety_eq_ok.mp read
      exact {h with evidence := h.saved, receipts := h.savedReceipts}
  | work trustedHub grants execution managedJobFailClosed => exact {h with}

end AgentService

/-- An operation is never recorded with different evidence. -/
def OneEvidence {scheme : SignatureScheme} (steps : List (JournalStep scheme)) : Prop :=
  ∀ a ∈ steps, ∀ b ∈ steps, ∀ entry ∈ a.evidence?, ∀ other ∈ b.evidence?,
    entry.operation.operationId = other.operation.operationId → entry = other

namespace AgentService
variable {scheme : SignatureScheme} {s : AgentService scheme}

/-- Then the receipts that are written are those whose operation is in the journal. -/
theorem receiptsWritten_eq {P : AgentTerminalEvidence → Prop} (h : s.Records P)
    (one : ∀ entry other, P entry → P other →
      entry.operation.operationId = other.operation.operationId → entry = other) :
    s.receiptsWritten = s.backendExecutionReceipts.filter fun receipt =>
      s.terminalEvidence.any fun terminal =>
        terminal.operation.operationId = receipt.operation.operationId := by
  refine List.filter_congr fun receipt among => ?_
  rw [Bool.eq_iff_iff, List.any_eq_true, List.any_eq_true]
  refine exists_congr fun terminal => and_congr_right fun there => ?_
  rw [decide_eq_true_eq, decide_eq_true_eq]
  constructor
  · rintro rfl
    rfl
  · exact one terminal _ (h.evidence terminal there) (h.receipts receipt among)

/-- After any steps the journals can be persisted, and are read back as they were: all of the
evidence, and the receipts that are among it. These are the receipts whose operation is in the
journal if no operation was recorded with different evidence. -/
theorem journals_persistable {deviceId : String} (named : isBlank deviceId = false)
    (hub grantVerifier : VerifyingKey scheme) {steps : List (JournalStep scheme)}
    (legible : ∀ step ∈ steps, step.Legible) :
    let s := run AgentService.next (start deviceId hub grantVerifier) steps
    JournalsSound s.terminalEvidence s.backendExecutionReceipts ∧
      (∃ restored, s.checkpoint.restoreWithRuntimeSafety scheme = .ok restored) ∧
      ∃ state restored, s.captured = .ok state ∧
        state.restoreWithRuntimeSafety scheme = .ok restored ∧
        restored.terminalEvidence = s.terminalEvidence ∧
        (restored.backendExecutionReceipts = s.backendExecutionReceipts.filter fun receipt =>
          s.terminalEvidence.any fun terminal => terminal = receipt.asTerminalEvidence) ∧
        (OneEvidence steps →
          restored.backendExecutionReceipts = s.backendExecutionReceipts.filter fun receipt =>
            s.terminalEvidence.any fun terminal =>
              terminal.operation.operationId = receipt.operation.operationId) := by
  intro s
  have h : s.Persistable := .run named hub grantVerifier legible
  obtain ⟨restored, read, evidence, receipts⟩ := restored_written h.named h.journals h.legible
  obtain ⟨saved, reads, -⟩ := h.checkpoint
  refine ⟨h.journals, ⟨saved, reads⟩, s.written, restored, captured_eq h.named h.journals, read,
    evidence, receipts, fun one => receipts.trans ?_⟩
  have brought : s.Records fun entry => ∃ step ∈ steps, entry ∈ step.evidence? := by
    refine run_invariant (fun s step h new => h.next new) ⟨?_, ?_, ?_, ?_⟩
      (meets_of_mem fun step among entry is => ⟨step, among, is⟩)
    all_goals exact fun _ among => absurd among List.not_mem_nil
  exact receiptsWritten_eq brought fun entry other ⟨a, amongA, is⟩ ⟨b, amongB, is'⟩ =>
    one a amongA b amongB entry is other is'

def someReceipt : BackendExecutionReceipt :=
  ⟨1, ⟨"device", 1, "operation"⟩, 1, .pointerClick, "grant", "backend", "1", 1, 1, none,
    .effectCommitted⟩

def clicked (operationId : String) : ActiveOperation := ⟨operationId, 1, 1, .pointerClick, "grant"⟩

def someKey : VerifyingKey anyKey := GrantRun.zeroKey

/-- The receipt is recorded, persisted and read back. -/
def receiptKept : List (JournalStep anyKey) :=
  [.recordBackendExecutionReceipt someReceipt, .persistState true, .restart]

theorem journals_persistable_receipt :
    let s := run AgentService.next (start "device" someKey someKey) receiptKept
    ∃ state restored, s.captured = .ok state ∧
      state.restoreWithRuntimeSafety anyKey = .ok restored ∧
      restored.backendExecutionReceipts = [someReceipt] := by
  have named : isBlank "device" = false := by decide +kernel
  have legible : ∀ step ∈ receiptKept, step.Legible := by
    simp [receiptKept, JournalStep.Legible]
  obtain ⟨-, -, state, restored, captured, read, -, receipts, -⟩ :=
    journals_persistable named someKey someKey legible
  exact ⟨state, restored, captured, read, receipts.trans (by decide +kernel)⟩

/-- A receipt, as many other results as the journal holds, and a failure of the first operation. -/
def overtaken : List (JournalStep anyKey) :=
  .recordBackendExecutionReceipt someReceipt ::
    (List.range 64).map (fun n => .recordTerminalEvidence "device"
      (clicked (String.singleton (Char.ofNat (n + 64)))) .pointerClickCompleted) ++
    [.recordTerminalEvidence "device" (clicked "operation") (.error .ioFailure)]

theorem legible_overtaken (step : JournalStep anyKey) (among : step ∈ overtaken) :
    step.Legible := by
  rcases List.mem_append.mp among with among | among
  · rcases List.mem_cons.mp among with rfl | among
    · trivial
    · obtain ⟨n, -, rfl⟩ := List.mem_map.mp among
      trivial
  · rw [List.mem_singleton.mp among]
    trivial

def overtakenAgent : AgentService anyKey :=
  run AgentService.next (start "device" someKey someKey) overtaken

theorem overtakenAgent_receipts : overtakenAgent.receiptsWritten = [] ∧
    overtakenAgent.backendExecutionReceipts = [someReceipt] ∧
    (overtakenAgent.terminalEvidence.any fun terminal =>
      terminal.operation.operationId = someReceipt.operation.operationId) = true := by
  decide +kernel

/-- The operation is in the journal, with other evidence than its receipt: the receipt is not read
back. -/
theorem receipt_overtaken :
    ∃ state restored, overtakenAgent.captured = .ok state ∧
      state.restoreWithRuntimeSafety anyKey = .ok restored ∧
      restored.backendExecutionReceipts = [] ∧
      (overtakenAgent.backendExecutionReceipts.filter fun receipt =>
        overtakenAgent.terminalEvidence.any fun terminal =>
          terminal.operation.operationId = receipt.operation.operationId) = [someReceipt] := by
  have named : isBlank "device" = false := by decide +kernel
  have h : overtakenAgent.Persistable := .run named someKey someKey legible_overtaken
  obtain ⟨written, receipts, told⟩ := overtakenAgent_receipts
  obtain ⟨restored, read, -, same⟩ := restored_written h.named h.journals h.legible
  refine ⟨overtakenAgent.written, restored, captured_eq h.named h.journals, read,
    same.trans written, ?_⟩
  rw [receipts, List.filter_singleton, told]
  rfl

end AgentService

end Gateway.Agent
