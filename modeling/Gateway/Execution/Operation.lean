import Gateway.Data.Table
import Gateway.Data.Text

/-! Operations as both execution ledgers name them.

An operation is identified by its device, the authenticated generation it was
admitted under and its own id. `HubOperationState` is the one state type the
admission ledger and the authoritative ledger share. -/
namespace Gateway.Execution
open Data

/-- Why a ledger refuses a transition. -/
inductive ExecutionError where
  | invalidGlobalLimit | invalidOperation | operationReplay | backpressureRejected
  | unknownOperation | invalidTransition | retirementCapacityExhausted | agentBusy
  | generationChangeWhileActive | ownershipFenceMismatch
  | deviceIndeterminate (operationId : String)
  | mutationResumeRequired (operationId : String)
  | invalidSnapshot
  deriving DecidableEq

structure AdmissionLimits where
  maxGlobalActive : Nat
  maxQueuedPerDevice : Nat

def AdmissionLimits.validate (limits : AdmissionLimits) : Except ExecutionError AdmissionLimits :=
  if limits.maxGlobalActive = 0 then .error .invalidGlobalLimit else .ok limits

structure OperationRef where
  deviceId : String
  deviceGeneration : Nat
  operationId : String
  deriving DecidableEq

inductive HubOperationState where
  | queued | activeNotDispatched | dispatched | cancelRequested | completed | failed | cancelled
  | indeterminate
  deriving DecidableEq

namespace HubOperationState

/-- Sent to the Agent and not yet settled. -/
def isInFlight : HubOperationState → Bool
  | .dispatched | .cancelRequested => true
  | _ => false

/-- Settled by evidence. -/
def isTerminal : HubOperationState → Bool
  | .completed | .failed | .cancelled => true
  | _ => false

/-- Admitted and neither settled nor quarantined. -/
def isUnsettled : HubOperationState → Bool
  | .queued | .activeNotDispatched | .dispatched | .cancelRequested => true
  | _ => false

end HubOperationState

inductive AdmissionDecision where
  | startNow (operation : OperationRef)
  | queued (position : Nat)
  deriving DecidableEq

inductive CompletionDecision where
  | idle
  | startNext (operation : OperationRef)
  deriving DecidableEq

inductive IndeterminateResolution where
  | confirmedCompleted | confirmedNotExecuted | confirmedEffectAppliedUncommitted
  deriving DecidableEq

inductive CancellationDecision where
  | cancelledBeforeDispatch (next : CompletionDecision)
  | sendCancellation (operation : OperationRef)
  | alreadyTerminal (state : HubOperationState)
  deriving DecidableEq

/-- The order a hash map hands out its keys: some arrangement of them. -/
structure IterationOrder where
  arrange : List String → List String
  perm : ∀ keys, (arrange keys).Perm keys

/-- The keys in the order given. -/
def IterationOrder.given : IterationOrder :=
  ⟨id, fun _ => List.Perm.refl _⟩

end Gateway.Execution
