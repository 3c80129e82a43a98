import Gateway.Control.Message

/-! Running a computer-use command on a backend.

A command becomes one tool call, or two when a session has to be revived first. How a
call fares is given (`Call`); the layers above it are the program's: the browser
executor, the two adapters, and the Agent's own mapping to an outcome. Each layer also
returns the calls that were handed to the transport, in order (`List (Wait P)`), so that
an outcome can be compared with what may have happened. Reading and checking payloads is
left open: `Payloads` is any way of doing it. -/
namespace Gateway.Agent
open Device hiding DeviceCommand
open Control

variable {P : Type}

/-! ### One tool call -/

/-- A tool's answer, with contents of any kind. -/
structure CallToolResult (P : Type) where
  isError : Option Bool
  content : P

/-- A message of the server: a tool's answer, or a message of another kind. -/
inductive ServerResult (P : Type) where
  | callToolResult (result : CallToolResult P)
  | other

/-- How the wait for an answer ends. Cancellation is looked at first; it ends the wait also
when the channel is closed or the value it changed to asks for nothing. -/
inductive Wait (P : Type) where
  | cancellation (changed requested : Bool)
  | response (answer : Option (ServerResult P))
  | timeout

/-- How a call fares: refused by the mutation authority, no connection, not sent, or handed to
the transport. -/
inductive Call (P : Type) where
  | refused | unconnected | unsent
  | handed (wait : Wait P)

inductive CallError where
  | mutationAuthority | notConnected | sendFailed | cancelled | timedOut | responseLost
  | cancellationChannelClosed | unsupportedResponse
  deriving DecidableEq

def callTool : Call P → Except CallError (CallToolResult P)
  | .refused => .error .mutationAuthority
  | .unconnected => .error .notConnected
  | .unsent => .error .sendFailed
  | .handed (.cancellation changed requested) =>
    if changed && requested then .error .cancelled else .error .cancellationChannelClosed
  | .handed (.response (some (.callToolResult result))) => .ok result
  | .handed (.response (some .other)) => .error .unsupportedResponse
  | .handed (.response none) => .error .responseLost
  | .handed .timeout => .error .timedOut

/-- What was handed to the transport. -/
def Call.log : Call P → List (Wait P)
  | .handed wait => [wait]
  | _ => []

/-! ### Errors and outcomes -/

inductive BrowserRefusalReason where
  | routeUnavailable | requiresSetup | bindingAmbiguous | bindingStale | wrongTarget | tabRequired
  | tabNotFound | refStale | inputTrustUnavailable | endpointOwnerMismatch | consentRequired
  | consentRevoked | reconnectExhausted | inputIncomplete | actionUnavailable | originOutsideScope
  | other
  deriving DecidableEq

inductive BrowserExecutionError where
  | invalidRequest (message : String)
  | backend (error : CallError)
  | backendToolError
  | backendRefused (reason : BrowserRefusalReason)
  | normalize
  | invalidResult (message : String)
  | unsupportedTransferBoundary
  deriving DecidableEq

inductive M1BackendError where
  | backend (error : CallError)
  | mutationAuthority
  | backendToolError
  | malformedResponse (message : String)
  | numericOverflow | screenshotTooLarge | executionBudgetExceeded
  | invalidRequest (message : String)
  | unsupportedCommand (capability : DeviceCapability)
  | browserRefused (reason : BrowserRefusalReason)
  deriving DecidableEq

/-- What is known of an execution that may have started. -/
inductive ExecutionOutcome (R : Type) where
  | completed (result : R)
  | cancellationPropagatedIndeterminate | timedOutIndeterminate | backendOutcomeIndeterminate

abbrev BrowserExecutionOutcome : Type := ExecutionOutcome BrowserBackendResult
abbrev BackendExecutionOutcome : Type := ExecutionOutcome DeviceResult

def mapBackendError : CallError → M1BackendError
  | .mutationAuthority => .mutationAuthority
  | error => .backend error

/-- How commands are checked and contents are read. -/
structure Payloads (P : Type) where
  mapCommand : DeviceCommand → Except M1BackendError Unit
  withinBudget : DeviceCommand → Bool
  normalize : DeviceCommand → CallToolResult P → Except M1BackendError Unit
  validateBrowser : BrowserBackendCommand → Except BrowserExecutionError Unit
  mapBrowser : BrowserBackendCommand → Except BrowserExecutionError Unit
  refusalReason : CallToolResult P → Option BrowserRefusalReason
  normalizeBrowser : BrowserBackendCommand → CallToolResult P → Except BrowserExecutionError Unit
  resolvedAll : BrowserBackendCommand → Bool
  validRoot : Bool
  clicksForeground : DeviceCommand → Bool

/-! ### The browser executor -/

def browserCommandIsReadOnly : BrowserBackendCommand → Bool
  | .bind | .inspect | .dialog .inspect => true
  | _ => false

/-- The kind of result a browser command completes with. -/
def browserCompletion : BrowserBackendCommand → BrowserBackendResult
  | .prepare => .prepared
  | .bind => .bound
  | .inspect => .snapshot
  | .navigate => .navigationCompleted
  | .click => .clickCompleted
  | .typeInto => .typeCompleted
  | .dialog .inspect => .dialogObserved
  | .dialog .accept => .dialogCompleted
  | .dialog .dismiss => .dialogCompleted
  | .pointer => .pointerCompleted
  | .upload => .uploadAssigned
  | .download => .downloadStaged

variable (payloads : Payloads P) (command : BrowserBackendCommand) (call : Call P)

/-- Make a browser call and read its answer. A refusal is told as it is; an error or contents
that cannot be read leave the outcome of anything but a read unknown. -/
def browserCall : Except BrowserExecutionError BrowserExecutionOutcome :=
  match callTool call with
  | .error .cancelled => .ok .cancellationPropagatedIndeterminate
  | .error .timedOut => .ok .timedOutIndeterminate
  | .error .responseLost =>
    if browserCommandIsReadOnly command then .error (.backend .responseLost)
    else .ok .backendOutcomeIndeterminate
  | .error e => .error (.backend e)
  | .ok raw =>
    match payloads.refusalReason raw with
    | some reason => .error (.backendRefused reason)
    | none =>
      if raw.isError = some true then
        if browserCommandIsReadOnly command then .error .backendToolError
        else .ok .backendOutcomeIndeterminate
      else match payloads.normalizeBrowser command raw with
        | .ok () => .ok (.completed (browserCompletion command))
        | .error e =>
          if ¬browserCommandIsReadOnly command then .ok .backendOutcomeIndeterminate else .error e

def executeCuaBrowser : List (Wait P) × Except BrowserExecutionError BrowserExecutionOutcome :=
  match payloads.validateBrowser command with
  | .error e => ([], .error e)
  | .ok () =>
    if command = .upload ∨ command = .download then ([], .error .unsupportedTransferBoundary)
    else match payloads.mapBrowser command with
      | .error e => ([], .error e)
      | .ok () => (call.log, browserCall payloads command call)

def executeCuaBrowserUpload : List (Wait P) × Except BrowserExecutionError BrowserExecutionOutcome :=
  match payloads.validateBrowser command with
  | .error e => ([], .error e)
  | .ok () =>
    if command ≠ .upload then ([], .error .unsupportedTransferBoundary)
    else if ¬payloads.resolvedAll command then
      ([], .error (.invalidRequest "browser upload resolution mismatch"))
    else (call.log, browserCall payloads command call)

def executeCuaBrowserDownload : List (Wait P) × Except BrowserExecutionError BrowserExecutionOutcome :=
  match payloads.validateBrowser command with
  | .error e => ([], .error e)
  | .ok () =>
    if command ≠ .download then ([], .error .unsupportedTransferBoundary)
    else if ¬payloads.validRoot then
      ([], .error (.invalidRequest "invalid Agent-private browser download root"))
    else (call.log, browserCall payloads command call)

/-! ### The Cua adapter -/

/-- What the adapter makes of a browser execution. -/
def adaptBrowser (mismatch unreadable : String) (capability : DeviceCapability)
    (accepts : BrowserBackendResult → Bool) :
    Except BrowserExecutionError BrowserExecutionOutcome →
      Except M1BackendError BackendExecutionOutcome
  | .ok (.completed result) =>
    if ¬accepts result then .error (.malformedResponse mismatch)
    else .ok (.completed (.browser result))
  | .ok .cancellationPropagatedIndeterminate => .ok .cancellationPropagatedIndeterminate
  | .ok .timedOutIndeterminate => .ok .timedOutIndeterminate
  | .ok .backendOutcomeIndeterminate => .ok .backendOutcomeIndeterminate
  | .error (.invalidRequest message) => .error (.invalidRequest message)
  | .error (.backend e) => .error (mapBackendError e)
  | .error .backendToolError => .error .backendToolError
  | .error (.backendRefused reason) => .error (.browserRefused reason)
  | .error .normalize => .error (.malformedResponse unreadable)
  | .error (.invalidResult message) => .error (.malformedResponse message)
  | .error .unsupportedTransferBoundary => .error (.unsupportedCommand capability)

/-- The kind of result a computer-use command completes with on Cua; none for a command that
is not run there. -/
def cuaCompletion : DeviceCommand → Option DeviceResult
  | .listApplications => some .applications
  | .screenGeometry => some .screenGeometry
  | .screenshot | .screenshotContextual => some .screenshot
  | .pointerClick | .pointerClickAdvanced => some .pointerClickCompleted
  | .pointerDrag | .pointerDragAdvanced => some .pointerDragCompleted
  | .typeText | .typeTextAdvanced => some .typeTextCompleted
  | .terminateApplication => some .applicationTerminated
  | .activateWindow => some .windowActivated
  | .setWindowFrame => some .windowFrameSet
  | .invokeMenu => some .menuInvoked
  | .keyboardInput => some .keyboardInputCompleted
  | .scroll => some .scrollCompleted
  | .clipboardRead => some .clipboardState
  | .clipboardWrite => some .clipboardWritten
  | .pointerPosition => some .pointerPosition
  | .movePointer => some .pointerMoveCompleted
  | .setUiValue => some .uiValueSet
  | .captureRegion => some .regionCaptured
  | .expandInteractionScope => some .interactionScopeExpanded
  | .listWindows => some .windows
  | .launchApplication => some .applicationLaunched
  | .inspectWindow | .inspectWindowContextual => some .windowSnapshot
  | .verifyUiState | .verifyUiStateContextual => some .uiStateVerification
  | _ => none

/-- A command whose completion needs nothing from the answer's contents. -/
def completesUnread : DeviceCommand → Bool
  | .pointerClick | .pointerClickAdvanced | .pointerDrag | .pointerDragAdvanced | .typeText
  | .typeTextAdvanced | .terminateApplication | .setWindowFrame | .invokeMenu | .keyboardInput
  | .scroll | .movePointer | .setUiValue | .expandInteractionScope => true
  | _ => false

variable (command : DeviceCommand)

/-- The result of an answered call. -/
def cuaNormalize (raw : CallToolResult P) : Except M1BackendError DeviceResult :=
  match cuaCompletion command with
  | none => .error (.unsupportedCommand command.capability)
  | some result =>
    if completesUnread command then .ok result
    else match payloads.normalize command raw with
      | .error e => .error e
      | .ok () => .ok result

/-- A command whose backend session is revived before it is run. -/
def refreshesSession : DeviceCommand → Bool
  | .expandInteractionScope | .verifyUiStateContextual => true
  | _ => false

/-- Read the answer of the call that runs a command. -/
def cuaAnswer (call : Call P) : Except M1BackendError BackendExecutionOutcome :=
  match callTool call with
  | .error .cancelled => .ok .cancellationPropagatedIndeterminate
  | .error .timedOut => .ok .timedOutIndeterminate
  | .error .responseLost =>
    if command.isReadOnly then .error (mapBackendError .responseLost)
    else .ok .backendOutcomeIndeterminate
  | .error e => .error (mapBackendError e)
  | .ok raw =>
    if raw.isError = some true then
      if command.isReadOnly then .error .backendToolError else .ok .backendOutcomeIndeterminate
    else match cuaNormalize payloads command raw with
      | .ok result => .ok (.completed result)
      | .error e => if ¬command.isReadOnly then .ok .backendOutcomeIndeterminate else .error e

/-- Run a command: revive its session if it needs one, then make its call. -/
def cuaExecute (session call : Call P) (command : DeviceCommand) :
    List (Wait P) × Except M1BackendError BackendExecutionOutcome :=
  match command with
  | .browser browserCommand =>
    let run := executeCuaBrowser payloads browserCommand call
    (run.1, adaptBrowser "browser result type did not match command"
      "browser result normalization failed" browserCommand.deviceCapability
      (·.matchesCommand browserCommand) run.2)
  | command =>
    match payloads.mapCommand command with
    | .error e => ([], .error e)
    | .ok () =>
      if ¬payloads.withinBudget command then ([], .error .executionBudgetExceeded)
      else if ¬refreshesSession command then (call.log, cuaAnswer payloads command call)
      else match callTool session with
        | .error .cancelled => (session.log, .ok .cancellationPropagatedIndeterminate)
        | .error .timedOut => (session.log, .ok .timedOutIndeterminate)
        | .error .responseLost => (session.log, .ok .backendOutcomeIndeterminate)
        | .error e => (session.log, .error (mapBackendError e))
        | .ok started =>
          if started.isError = some true then (session.log, .ok .backendOutcomeIndeterminate)
          else (session.log ++ call.log, cuaAnswer payloads command call)

def cuaExecuteBrowserUpload (command : BrowserBackendCommand) :
    List (Wait P) × Except M1BackendError BackendExecutionOutcome :=
  let run := executeCuaBrowserUpload payloads command call
  (run.1, adaptBrowser "browser upload result type did not match command"
    "browser upload result normalization failed" .browserUploadFile (·.matchesCommand command) run.2)

def cuaExecuteBrowserDownload (command : BrowserBackendCommand) :
    List (Wait P) × Except M1BackendError BackendExecutionOutcome :=
  let run := executeCuaBrowserDownload payloads command call
  (run.1, adaptBrowser "browser download result type did not match command"
    "browser download result normalization failed" .browserDownload
    (fun result => result = .downloadStaged && result.matchesCommand command) run.2)

/-! ### The macos-mcp adapter -/

/-- The kind of result a command completes with on macos-mcp. -/
def macosCompletion : DeviceCommand → Option DeviceResult
  | .listApplications => some .applications
  | .pointerClick | .pointerClickAdvanced => some .pointerClickCompleted
  | .movePointer => some .pointerMoveCompleted
  | _ => none

def macosMapCommand : Except M1BackendError Unit :=
  match macosCompletion command with
  | none => .error (.unsupportedCommand command.capability)
  | some _ =>
    if command = .pointerClickAdvanced ∧ ¬payloads.clicksForeground command then
      .error (.invalidRequest
        "macos-mcp portability adapter supports only foreground desktop-physical click without modifiers or semantic action")
    else .ok ()

/-- Only the count of applications is read from an answer. -/
def macosNormalize (raw : CallToolResult P) : Except M1BackendError DeviceResult :=
  match macosCompletion command with
  | none => .error (.unsupportedCommand command.capability)
  | some result =>
    if command ≠ .listApplications then .ok result
    else match payloads.normalize command raw with
      | .error e => .error e
      | .ok () => .ok result

def macosMcpCallFailure (error : CallError) : Except M1BackendError BackendExecutionOutcome :=
  match error with
  | .cancelled =>
    if command.isReadOnly then .error (mapBackendError error)
    else .ok .cancellationPropagatedIndeterminate
  | .timedOut =>
    if command.isReadOnly then .error (mapBackendError error) else .ok .timedOutIndeterminate
  | .responseLost =>
    if command.isReadOnly then .error (mapBackendError error) else .ok .backendOutcomeIndeterminate
  | error => .error (mapBackendError error)

def macosExecute (command : DeviceCommand) :
    List (Wait P) × Except M1BackendError BackendExecutionOutcome :=
  match macosMapCommand payloads command with
  | .error e => ([], .error e)
  | .ok () =>
    (call.log,
      match callTool call with
      | .error e => macosMcpCallFailure command e
      | .ok raw =>
        if raw.isError = some true then
          if command.isReadOnly then .error .backendToolError else .ok .backendOutcomeIndeterminate
        else match macosNormalize payloads command raw with
          | .ok result => .ok (.completed result)
          | .error e => if ¬command.isReadOnly then .ok .backendOutcomeIndeterminate else .error e)

/-! ### The Agent's outcome -/

/-- A backend as the Agent uses it, for one operation. A durable receipt of the operation may
be recovered afterwards. -/
structure ComputerUseBackendAdapter (P R : Type) where
  execute : DeviceCommand → List (Wait P) × Except M1BackendError BackendExecutionOutcome
  executeBrowserUpload : BrowserBackendCommand →
    List (Wait P) × Except M1BackendError BackendExecutionOutcome
  executeBrowserDownload : BrowserBackendCommand →
    List (Wait P) × Except M1BackendError BackendExecutionOutcome
  recoverExecutionReceipt : Except M1BackendError (Option R)

/-- Neither adapter has a durable receipt. -/
def cuaMcpAdapter (R : Type) (payloads : Payloads P) (session call : Call P) :
    ComputerUseBackendAdapter P R where
  execute := cuaExecute payloads session call
  executeBrowserUpload := cuaExecuteBrowserUpload payloads call
  executeBrowserDownload := cuaExecuteBrowserDownload payloads call
  recoverExecutionReceipt := .ok none

def macosMcpAdapter (R : Type) (payloads : Payloads P) (call : Call P) :
    ComputerUseBackendAdapter P R where
  execute := macosExecute payloads call
  executeBrowserUpload := fun _ => ([], .error (.unsupportedCommand .browserUploadFile))
  executeBrowserDownload := fun _ => ([], .error (.unsupportedCommand .browserDownload))
  recoverExecutionReceipt := .ok none

inductive BrowserUploadStagingError where
  | invalidRoot | invalidFileName | invalidData | fileTooLarge | fileLimitExceeded | unknownHandle
  | contextMismatch | generationMismatch | capabilityRevisionMismatch | invalidStagedFile | io

inductive BrowserDownloadStagingError where
  | invalidRoot | invalidFileName | invalidBound | fileLimitExceeded | collision | unknownOperation
  | contextMismatch | generationMismatch | capabilityRevisionMismatch | invalidBackendId
  | invalidCompletedFile | fileTooLarge | io

/-- How the staging brokers fare: resolving the staged uploads, giving their handles up,
preparing a download and finalizing it. -/
structure Staging where
  resolved : Except BrowserUploadStagingError Unit
  consumed : Except BrowserUploadStagingError Unit
  prepared : Except BrowserDownloadStagingError Unit
  finalized : Except BrowserDownloadStagingError Unit

inductive AgentIndeterminateCause where
  | cancellationPropagated | backendTimedOut | processOutcomeUnproven
  | playwrightProviderOutcomeUnproven | workspaceMutationOutcomeUnproven

end Gateway.Agent
