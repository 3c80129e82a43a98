import Gateway.Agent.Backend
import Gateway.Agent.Filesystem
import Gateway.Agent.Storage

/-! The outcome the Agent reports for a computer-use command.

A backend's outcome becomes a result, a durable receipt or an indeterminate outcome; an
upload and a download have a staging step of their own after the backend is done. -/
namespace Gateway.Agent
open Device hiding DeviceCommand
open Control

variable {P R : Type}

/-! ### Errors and outcomes of an operation -/

/-- Process, shell, managed-job and Playwright errors are kept by the code they are told with. -/
inductive AgentOperationError where
  | executor (code : DeviceErrorCode)
  | filesystem (error : FilesystemError)
  | workspaceMutation (error : WorkspaceMutationError)
  | browserUploadStaging (error : BrowserUploadStagingError)
  | browserDownloadStaging (error : BrowserDownloadStagingError)
  | backend (error : M1BackendError)
  | workerPanicked

def browserRefusalErrorCode : BrowserRefusalReason → DeviceErrorCode
  | .routeUnavailable => .browserRouteUnavailable
  | .requiresSetup => .browserRequiresSetup
  | .bindingAmbiguous => .browserBindingAmbiguous
  | .bindingStale => .browserBindingStale
  | .wrongTarget => .browserWrongTargetRefused
  | .tabRequired => .browserTabRequired
  | .tabNotFound => .browserTabNotFound
  | .refStale => .browserRefStale
  | .inputTrustUnavailable => .browserInputTrustUnavailable
  | .endpointOwnerMismatch => .browserEndpointOwnerMismatch
  | .consentRequired => .browserConsentRequired
  | .consentRevoked => .browserConsentRevoked
  | .reconnectExhausted => .browserReconnectExhausted
  | .inputIncomplete => .browserInputIncomplete
  | .actionUnavailable => .browserActionUnavailable
  | .originOutsideScope => .browserOriginOutsideScope
  | .other => .browserRefused

def operationErrorCode : AgentOperationError → DeviceErrorCode
  | .executor code => code
  | .workspaceMutation .preconditionFailed => .workspacePreconditionFailed
  | .workspaceMutation .payloadTooLarge => .workspacePayloadTooLarge
  | .workspaceMutation .pathDenied | .workspaceMutation .hardLinkDenied => .permissionDenied
  | .workspaceMutation .io => .ioFailure
  | .workspaceMutation .outcomeUnproven => .backendOutcomeIndeterminate
  | .filesystem .pathDenied => .permissionDenied
  | .filesystem (.io notFound) => if notFound then .notFound else .ioFailure
  | .filesystem _ | .workspaceMutation _ => .invalidRequest
  | .browserUploadStaging .unknownHandle | .browserUploadStaging .contextMismatch
  | .browserUploadStaging .generationMismatch
  | .browserUploadStaging .capabilityRevisionMismatch => .browserRefStale
  | .browserUploadStaging .io | .browserUploadStaging .invalidRoot => .ioFailure
  | .browserUploadStaging _ => .invalidRequest
  | .browserDownloadStaging .unknownOperation | .browserDownloadStaging .contextMismatch
  | .browserDownloadStaging .generationMismatch
  | .browserDownloadStaging .capabilityRevisionMismatch => .browserRefStale
  | .browserDownloadStaging .io | .browserDownloadStaging .invalidRoot => .ioFailure
  | .browserDownloadStaging _ => .invalidRequest
  | .backend .executionBudgetExceeded => .executionBudgetExceeded
  | .backend (.browserRefused reason) => browserRefusalErrorCode reason
  | .backend .mutationAuthority => .mutationAuthorityUnavailable
  | .backend _ | .workerPanicked => .internalFailure

inductive AgentOperationOutcome (R : Type) where
  | result (result : Except AgentOperationError DeviceResult)
  | backendReceipt (receipt : R)
  | indeterminate (cause : AgentIndeterminateCause)

/-! ### Running a computer-use command -/

section Execute
variable (adapter : ComputerUseBackendAdapter P R) (matchesReceipt : R → Bool)

/-- A matching durable receipt replaces an ambiguous outcome; nothing else does. -/
def recoverAuthoritativeBackendReceipt (capability : DeviceCapability)
    (fallback : AgentOperationOutcome R) : AgentOperationOutcome R :=
  if capability.capabilityClass = .observe then fallback
  else match adapter.recoverExecutionReceipt with
    | .ok (some receipt) => if matchesReceipt receipt then .backendReceipt receipt else fallback
    | _ => fallback

/-- What the Agent makes of an execution, given what it does with a completed one. -/
def settleExecution (capability : DeviceCapability)
    (completed : DeviceResult → AgentOperationOutcome R) :
    Except M1BackendError BackendExecutionOutcome → AgentOperationOutcome R
  | .ok (.completed result) => completed result
  | .ok .cancellationPropagatedIndeterminate =>
    recoverAuthoritativeBackendReceipt adapter matchesReceipt capability
      (.indeterminate .cancellationPropagated)
  | .ok .timedOutIndeterminate =>
    recoverAuthoritativeBackendReceipt adapter matchesReceipt capability
      (.indeterminate .backendTimedOut)
  | .ok .backendOutcomeIndeterminate =>
    recoverAuthoritativeBackendReceipt adapter matchesReceipt capability
      (.result (.ok (.error .backendOutcomeIndeterminate)))
  | .error e => .result (.error (.backend e))

/-- An upload gives up its staged files once it has completed. -/
def completeUpload (staging : Staging) (result : DeviceResult) : AgentOperationOutcome R :=
  match staging.consumed with
  | .error e => .result (.error (.browserUploadStaging e))
  | .ok () => .result (.ok result)

/-- A download is finalized in private staging before it is told. -/
def completeDownload (staging : Staging) : DeviceResult → AgentOperationOutcome R
  | .browser .downloadStaged =>
    match staging.finalized with
    | .ok () => .result (.ok (.browser .downloadCompleted))
    | .error e => .result (.error (.browserDownloadStaging e))
  | _ => .result (.error (.backend
      (.malformedResponse "browser download adapter returned an unexpected result")))

/-- Run a command and report its outcome, with the calls handed to the transport. -/
def executeComputerUseOperation (staging : Staging) (capability : DeviceCapability) :
    DeviceCommand → List (Wait P) × AgentOperationOutcome R
  | .browser .upload =>
    match staging.resolved with
    | .error e => ([], .result (.error (.browserUploadStaging e)))
    | .ok () =>
      let run := adapter.executeBrowserUpload .upload
      (run.1, settleExecution adapter matchesReceipt capability (completeUpload staging) run.2)
  | .browser .download =>
    match staging.prepared with
    | .error e => ([], .result (.error (.browserDownloadStaging e)))
    | .ok () =>
      let run := adapter.executeBrowserDownload .download
      (run.1, settleExecution adapter matchesReceipt capability (completeDownload staging) run.2)
  | command =>
    let run := adapter.execute command
    (run.1, settleExecution adapter matchesReceipt capability (fun result => .result (.ok result))
      run.2)

end Execute

end Gateway.Agent
