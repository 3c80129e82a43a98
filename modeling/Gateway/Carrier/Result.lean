import Gateway.Control.Message
import Gateway.Data.Json
import Gateway.Execution.Records

/-! What an Agent sends to the Hub, with all its data, as the carrier writes it.

A message is one JSON text. The carrier refuses it when the text has more bytes than its kind
may have: results that carry pictures or observed interfaces have the large bound, everything
else the small one. -/
namespace Gateway.Carrier
open Data Device Control Execution

/-! ### The parts of results -/

structure UiRect where
  x : Int
  y : Int
  width : Nat
  height : Nat

def UiRect.json (rect : UiRect) : Json :=
  .object [("x", .number rect.x), ("y", .number rect.y), ("width", .ofNat rect.width),
    ("height", .ofNat rect.height)]

/-- A window, as a device lists it. -/
structure WindowInfo where
  windowId : Nat
  processId : Nat
  application : String
  title : String
  bounds : UiRect
  isOnScreen : Bool
  onCurrentWorkspace : Option Bool

def WindowInfo.json (info : WindowInfo) : Json :=
  .object [("window_id", .ofNat info.windowId), ("process_id", .ofNat info.processId),
    ("application", .text info.application), ("title", .text info.title),
    ("bounds", info.bounds.json), ("is_on_screen", .bool info.isOnScreen),
    ("on_current_workspace", .ofOption .bool info.onCurrentWorkspace)]

inductive UiRole where
  | window | button | text | textField | checkbox | radioButton | link | menu | menuItem | toolbar
  | tab | list | listItem | table | row | cell | group | image | slider | other

def UiRole.name : UiRole → String
  | .window => "window"
  | .button => "button"
  | .text => "text"
  | .textField => "text_field"
  | .checkbox => "checkbox"
  | .radioButton => "radio_button"
  | .link => "link"
  | .menu => "menu"
  | .menuItem => "menu_item"
  | .toolbar => "toolbar"
  | .tab => "tab"
  | .list => "list"
  | .listItem => "list_item"
  | .table => "table"
  | .row => "row"
  | .cell => "cell"
  | .group => "group"
  | .image => "image"
  | .slider => "slider"
  | .other => "other"

/-- An element of a window, under the name the backend has for it. -/
structure UiElement where
  elementRef : String
  role : UiRole
  label : Option String
  value : Option String
  bounds : Option UiRect
  enabled : Option Bool
  selected : Option Bool
  parentRef : Option String
  depth : Nat

def UiElement.json (element : UiElement) : Json :=
  .object [("element_ref", .text element.elementRef), ("role", .text element.role.name),
    ("label", .ofOption .text element.label), ("value", .ofOption .text element.value),
    ("bounds", .ofOption UiRect.json element.bounds), ("enabled", .ofOption .bool element.enabled),
    ("selected", .ofOption .bool element.selected),
    ("parent_ref", .ofOption .text element.parentRef), ("depth", .ofNat element.depth)]

structure UiImage where
  dataBase64 : String
  mimeType : String
  widthPixels : Nat
  heightPixels : Nat

def UiImage.members (image : UiImage) : List (String × Json) :=
  [("data_base64", .text image.dataBase64), ("mime_type", .text image.mimeType),
    ("width_pixels", .ofNat image.widthPixels), ("height_pixels", .ofNat image.heightPixels)]

inductive VerificationStatus where
  | satisfied | unsatisfied | unknown

def VerificationStatus.name : VerificationStatus → String
  | .satisfied => "satisfied"
  | .unsatisfied => "unsatisfied"
  | .unknown => "unknown"

/-- What came of checking one predicate, or why it could not be told. -/
structure UiPredicateResult where
  status : VerificationStatus
  unknownReason : Option String

def UiPredicateResult.json (result : UiPredicateResult) : Json :=
  .object [("status", .text result.status.name),
    ("unknown_reason", .ofOption .text result.unknownReason)]

/-- Output kept for later reading: its name, and how much of it there is. -/
structure KeptOutput where
  name : String
  retainedBytes : Nat
  complete : Bool

/-- The field that holds the name differs between the Hub's and the Agent's form. -/
def KeptOutput.json (field : String) (kept : KeptOutput) : Json :=
  .object [(field, .text kept.name), ("retained_bytes", .ofNat kept.retainedBytes),
    ("complete", .bool kept.complete)]

structure KeptOutputs where
  stdout : Option KeptOutput
  stderr : Option KeptOutput

def KeptOutputs.json (field : String) (kept : KeptOutputs) : Json :=
  .object (Json.optional "stdout" (KeptOutput.json field) kept.stdout ++
    Json.optional "stderr" (KeptOutput.json field) kept.stderr)

def processOutputJson (output : ProcessOutput) : Json :=
  .object [("exit_code", .ofOption .number output.exitCode), ("stdout", .text output.stdout),
    ("stderr", .text output.stderr), ("stdout_truncated", .bool output.stdoutTruncated),
    ("stderr_truncated", .bool output.stderrTruncated), ("timed_out", .bool output.timedOut),
    ("cancelled", .bool output.cancelled), ("duration_ms", .ofNat output.durationMs)]

def streamName : ProcessOutputStream → String
  | .stdout => "stdout"
  | .stderr => "stderr"

def entryKindName : DirectoryEntryKind → String
  | .file => "file"
  | .directory => "directory"
  | .symlink => "symlink"
  | .other => "other"

def directoryEntryJson (entry : DirectoryEntry) : Json :=
  .object [("name", .text entry.name), ("kind", .text (entryKindName entry.kind))]

inductive ManagedJobState where
  | starting | running | stopRequested | completed | stopped | expired | indeterminateTermination
  deriving DecidableEq

def ManagedJobState.name : ManagedJobState → String
  | .starting => "starting"
  | .running => "running"
  | .stopRequested => "stop_requested"
  | .completed => "completed"
  | .stopped => "stopped"
  | .expired => "expired"
  | .indeterminateTermination => "indeterminate_termination"

/-- How a job stands and how long it may still run. -/
structure ManagedJobStatus where
  state : ManagedJobState
  exitCode : Option Int
  leaseRemainingMs : Nat
  hardLifetimeRemainingMs : Nat
  stdoutTotalBytes : Nat
  stderrTotalBytes : Nat
  deriving DecidableEq

def ManagedJobStatus.json (status : ManagedJobStatus) : Json :=
  .object [("state", .text status.state.name), ("exit_code", .ofOption .number status.exitCode),
    ("lease_remaining_ms", .ofNat status.leaseRemainingMs),
    ("hard_lifetime_remaining_ms", .ofNat status.hardLifetimeRemainingMs),
    ("stdout_total_bytes", .ofNat status.stdoutTotalBytes),
    ("stderr_total_bytes", .ofNat status.stderrTotalBytes)]

/-- A part of the output of a job, whose beginning may have been overwritten by then. -/
structure ManagedJobOutputRange where
  bytes : List UInt8
  requestedOffset : Nat
  earliestAvailableOffset : Nat
  nextOffset : Nat
  totalBytes : Nat
  eof : Bool
  gapBeforeRange : Bool
  historyTruncated : Bool
  deriving DecidableEq

def ManagedJobOutputRange.json (range : ManagedJobOutputRange) : Json :=
  .object [("bytes", .ofBytes range.bytes), ("requested_offset", .ofNat range.requestedOffset),
    ("earliest_available_offset", .ofNat range.earliestAvailableOffset),
    ("next_offset", .ofNat range.nextOffset), ("total_bytes", .ofNat range.totalBytes),
    ("eof", .bool range.eof), ("gap_before_range", .bool range.gapBeforeRange),
    ("history_truncated", .bool range.historyTruncated)]

structure PlaywrightTestStatus where
  job : ManagedJobStatus
  artifactCount : Nat
  artifactTotalBytes : Nat

def PlaywrightTestStatus.json (status : PlaywrightTestStatus) : Json :=
  .object [("job", status.job.json), ("artifact_count", .ofNat status.artifactCount),
    ("artifact_total_bytes", .ofNat status.artifactTotalBytes)]

/-! ### Browser results -/

structure BrowserBackendTab where
  backendTabId : String
  title : Option String
  url : Option String
  active : Option Bool

def BrowserBackendTab.json (tab : BrowserBackendTab) : Json :=
  .object [("backend_tab_id", .text tab.backendTabId), ("title", .ofOption .text tab.title),
    ("url", .ofOption .text tab.url), ("active", .ofOption .bool tab.active)]

inductive BrowserAction where
  | click | typeInto | pointer | scroll | upload
  deriving DecidableEq

def BrowserAction.name : BrowserAction → String
  | .click => "click"
  | .typeInto => "type"
  | .pointer => "pointer"
  | .scroll => "scroll"
  | .upload => "upload"

/-- Something on a page that can be named and acted on. -/
structure BrowserBackendSemanticRef where
  backendRef : String
  role : String
  name : Option String
  value : Option String
  states : List String
  actions : List BrowserAction
  frame : String
  visibility : String

def BrowserBackendSemanticRef.json (semantic : BrowserBackendSemanticRef) : Json :=
  .object [("backend_ref", .text semantic.backendRef), ("role", .text semantic.role),
    ("name", .ofOption .text semantic.name), ("value", .ofOption .text semantic.value),
    ("states", .array (semantic.states.map .text)),
    ("actions", .array (semantic.actions.map fun action => .text action.name)),
    ("frame", .text semantic.frame), ("visibility", .text semantic.visibility)]

structure BrowserBackendScreenshot where
  image : UiImage
  viewportCssWidth : Nat
  viewportCssHeight : Nat
  pixelToCssScaleXMillionths : Nat
  pixelToCssScaleYMillionths : Nat

def BrowserBackendScreenshot.json (screenshot : BrowserBackendScreenshot) : Json :=
  .object (screenshot.image.members ++
    [("viewport_css_width", .ofNat screenshot.viewportCssWidth),
      ("viewport_css_height", .ofNat screenshot.viewportCssHeight),
      ("pixel_to_css_scale_x_millionths", .ofNat screenshot.pixelToCssScaleXMillionths),
      ("pixel_to_css_scale_y_millionths", .ofNat screenshot.pixelToCssScaleYMillionths)])

inductive BrowserMutationEffect where
  | dispatched
  | unverifiable

def BrowserMutationEffect.name : BrowserMutationEffect → String
  | .dispatched => "dispatched"
  | .unverifiable => "unverifiable"

inductive BrowserBackendResult where
  | prepared (ready : Bool) (preparedProcessId : Option Nat) (sideEffectCount : Nat)
  | bound (backendTargetId : String) (processId windowId : Nat) (tabs : List BrowserBackendTab)
  | snapshot (backendSnapshotId outline : String)
      (actionRefs contentRefs : List BrowserBackendSemanticRef) (complete : Bool) (omitted : Nat)
      (backendContinuation : Option String) (screenshot : Option BrowserBackendScreenshot)
  | navigationCompleted
  | clickCompleted (effect : BrowserMutationEffect)
  | typeCompleted
  | dialogObserved (present : Bool) (backendDialogId kind : Option String)
  | dialogCompleted
  | pointerCompleted
  | uploadAssigned (fileCount : Nat)
  | downloadStaged (backendDownloadId : String) (bytesWritten : Nat)
  | downloadCompleted (backendDownloadHandle destinationName : String) (bytesWritten : Nat)
      (dataBase64 : String)

def BrowserBackendResult.json : BrowserBackendResult → Json
  | .prepared ready preparedProcessId sideEffectCount =>
    .tagged "type" "prepared" [("prepared", .bool ready),
      ("prepared_process_id", .ofOption .ofNat preparedProcessId),
      ("side_effect_count", .ofNat sideEffectCount)]
  | .bound backendTargetId processId windowId tabs =>
    .tagged "type" "bound" [("backend_target_id", .text backendTargetId),
      ("process_id", .ofNat processId), ("window_id", .ofNat windowId),
      ("tabs", .array (tabs.map BrowserBackendTab.json))]
  | .snapshot backendSnapshotId outline actionRefs contentRefs complete omitted
      backendContinuation screenshot =>
    .tagged "type" "snapshot" [("backend_snapshot_id", .text backendSnapshotId),
      ("outline", .text outline),
      ("action_refs", .array (actionRefs.map BrowserBackendSemanticRef.json)),
      ("content_refs", .array (contentRefs.map BrowserBackendSemanticRef.json)),
      ("complete", .bool complete), ("omitted", .ofNat omitted),
      ("backend_continuation", .ofOption .text backendContinuation),
      ("screenshot", .ofOption BrowserBackendScreenshot.json screenshot)]
  | .navigationCompleted => .tagged "type" "navigation_completed" []
  | .clickCompleted effect => .tagged "type" "click_completed" [("effect", .text effect.name)]
  | .typeCompleted => .tagged "type" "type_completed" []
  | .dialogObserved present backendDialogId kind =>
    .tagged "type" "dialog_observed" [("present", .bool present),
      ("backend_dialog_id", .ofOption .text backendDialogId), ("kind", .ofOption .text kind)]
  | .dialogCompleted => .tagged "type" "dialog_completed" []
  | .pointerCompleted => .tagged "type" "pointer_completed" []
  | .uploadAssigned fileCount =>
    .tagged "type" "upload_assigned" [("file_count", .ofNat fileCount)]
  | .downloadStaged backendDownloadId bytesWritten =>
    .tagged "type" "download_staged" [("backend_download_id", .text backendDownloadId),
      ("bytes_written", .ofNat bytesWritten)]
  | .downloadCompleted backendDownloadHandle destinationName bytesWritten dataBase64 =>
    .tagged "type" "download_completed" [("backend_download_handle", .text backendDownloadHandle),
      ("destination_name", .text destinationName), ("bytes_written", .ofNat bytesWritten),
      ("data_base64", .text dataBase64)]

/-! ### Results -/

/-- What an Agent answers, one form for each kind of command. -/
inductive DeviceResult where
  | applications (count : Nat)
  | screenGeometry (widthPoints heightPoints scaleFactorMilli : Nat)
  | screenshot (image : UiImage)
  | pointerClickCompleted | pointerDragCompleted | typeTextCompleted
  | applicationTerminated (processId : Nat)
  | windowActivated (processId : Nat) (windowId : Option Nat) (processActivated : Bool)
      (exactWindowVerified : Option Bool)
  | windowFrameSet (processId windowId : Nat) (bounds : UiRect)
  | menuInvoked | keyboardInputCompleted | scrollCompleted
  | clipboardState (types : List String) (text : Option String)
  | clipboardWritten (types : List String)
  | pointerPosition (xPoints yPoints : Int)
  | pointerMoveCompleted
  | uiValueSet
  | regionCaptured (image : UiImage)
  | interactionScopeExpanded
  | process (output : ProcessOutput) (outputRefs agentOutputLocators : Option KeptOutputs)
  | managedJobStarted (agentLocator : String) (status : ManagedJobStatus)
  | managedJobStatus (status : ManagedJobStatus)
  | managedJobOutput (stream : ProcessOutputStream) (range : ManagedJobOutputRange)
  | managedJobRenewed (status : ManagedJobStatus)
  | managedJobStopped (status : ManagedJobStatus)
  | playwrightTestStarted (agentLocator : String) (status : PlaywrightTestStatus)
  | playwrightTestStatus (status : PlaywrightTestStatus)
  | playwrightTestOutput (stream : ProcessOutputStream) (range : ManagedJobOutputRange)
  | playwrightTestStopped (status : PlaywrightTestStatus)
  | shell (output : ProcessOutput) (outputRefs agentOutputLocators : Option KeptOutputs)
  | processOutputRange (bytes : List UInt8) (stream : ProcessOutputStream)
      (sourceOperationId : String) (offset nextOffset totalBytes : Nat) (eof : Bool)
  | fileContents (bytes : List UInt8) (truncated : Bool) (offset : Nat) (nextOffset : Option Nat)
  | directoryEntries (entries : List DirectoryEntry) (truncated : Bool) (after : Option String)
      (nextCursor : Option String)
  | workspaceFileWritten (bytesWritten : Nat) (contentSha256 : String) (created : Bool)
  | windows (infos : List WindowInfo) (truncated : Bool)
  | applicationLaunched (processId : Nat) (identifier : Option String) (name : String)
      (processRunning windowReady : Bool) (infos : List WindowInfo) (windowsTruncated : Bool)
  | windowSnapshot (snapshotRef : String) (processId windowId : Nat) (elements : List UiElement)
      (elementsComplete : Bool) (image : Option UiImage)
  | uiStateVerification (status : VerificationStatus) (stable : Bool) (samples : Nat)
      (predicates : List UiPredicateResult) (image : Option UiImage)
  | browserUploadStaged (backendFileHandle : String) (bytes : Nat)
  | browser (result : BrowserBackendResult)
  | error (code : DeviceErrorCode)

def UiImage.json (image : UiImage) : Json :=
  .object image.members

/-- The members of a process or shell result. -/
def outputMembers (output : ProcessOutput) (outputRefs agentOutputLocators : Option KeptOutputs) :
    List (String × Json) :=
  ("output", processOutputJson output) ::
    (Json.optional "output_refs" (KeptOutputs.json "output_ref") outputRefs ++
      Json.optional "agent_output_locators" (KeptOutputs.json "locator") agentOutputLocators)

def DeviceResult.json : DeviceResult → Json
  | .applications count => .tagged "type" "applications" [("count", .ofNat count)]
  | .screenGeometry widthPoints heightPoints scaleFactorMilli =>
    .tagged "type" "screen_geometry" [("width_points", .ofNat widthPoints),
      ("height_points", .ofNat heightPoints), ("scale_factor_milli", .ofNat scaleFactorMilli)]
  | .screenshot image => .tagged "type" "screenshot" image.members
  | .pointerClickCompleted => .tagged "type" "pointer_click_completed" []
  | .pointerDragCompleted => .tagged "type" "pointer_drag_completed" []
  | .typeTextCompleted => .tagged "type" "type_text_completed" []
  | .applicationTerminated processId =>
    .tagged "type" "application_terminated" [("process_id", .ofNat processId)]
  | .windowActivated processId windowId processActivated exactWindowVerified =>
    .tagged "type" "window_activated" [("process_id", .ofNat processId),
      ("window_id", .ofOption .ofNat windowId), ("process_activated", .bool processActivated),
      ("exact_window_verified", .ofOption .bool exactWindowVerified)]
  | .windowFrameSet processId windowId bounds =>
    .tagged "type" "window_frame_set" [("process_id", .ofNat processId),
      ("window_id", .ofNat windowId), ("bounds", bounds.json)]
  | .menuInvoked => .tagged "type" "menu_invoked" []
  | .keyboardInputCompleted => .tagged "type" "keyboard_input_completed" []
  | .scrollCompleted => .tagged "type" "scroll_completed" []
  | .clipboardState types text =>
    .tagged "type" "clipboard_state" [("types", .array (types.map .text)),
      ("text", .ofOption .text text)]
  | .clipboardWritten types =>
    .tagged "type" "clipboard_written" [("types", .array (types.map .text))]
  | .pointerPosition xPoints yPoints =>
    .tagged "type" "pointer_position" [("x_points", .number xPoints), ("y_points", .number yPoints)]
  | .pointerMoveCompleted => .tagged "type" "pointer_move_completed" []
  | .uiValueSet => .tagged "type" "ui_value_set" []
  | .regionCaptured image => .tagged "type" "region_captured" [("image", image.json)]
  | .interactionScopeExpanded => .tagged "type" "interaction_scope_expanded" []
  | .process output outputRefs agentOutputLocators =>
    .tagged "type" "process" (outputMembers output outputRefs agentOutputLocators)
  | .managedJobStarted agentLocator status =>
    .tagged "type" "managed_job_started" [("agent_locator", .text agentLocator),
      ("status", status.json)]
  | .managedJobStatus status => .tagged "type" "managed_job_status" [("status", status.json)]
  | .managedJobOutput stream range =>
    .tagged "type" "managed_job_output" [("stream", .text (streamName stream)),
      ("range", range.json)]
  | .managedJobRenewed status => .tagged "type" "managed_job_renewed" [("status", status.json)]
  | .managedJobStopped status => .tagged "type" "managed_job_stopped" [("status", status.json)]
  | .playwrightTestStarted agentLocator status =>
    .tagged "type" "playwright_test_started" [("agent_locator", .text agentLocator),
      ("status", status.json)]
  | .playwrightTestStatus status =>
    .tagged "type" "playwright_test_status" [("status", status.json)]
  | .playwrightTestOutput stream range =>
    .tagged "type" "playwright_test_output" [("stream", .text (streamName stream)),
      ("range", range.json)]
  | .playwrightTestStopped status =>
    .tagged "type" "playwright_test_stopped" [("status", status.json)]
  | .shell output outputRefs agentOutputLocators =>
    .tagged "type" "shell" (outputMembers output outputRefs agentOutputLocators)
  | .processOutputRange bytes stream sourceOperationId offset nextOffset totalBytes eof =>
    .tagged "type" "process_output_range" [("bytes", .ofBytes bytes),
      ("stream", .text (streamName stream)), ("source_operation_id", .text sourceOperationId),
      ("offset", .ofNat offset), ("next_offset", .ofNat nextOffset),
      ("total_bytes", .ofNat totalBytes), ("eof", .bool eof)]
  | .fileContents bytes truncated offset nextOffset =>
    .tagged "type" "file_contents" [("bytes", .ofBytes bytes), ("truncated", .bool truncated),
      ("offset", .ofNat offset), ("next_offset", .ofOption .ofNat nextOffset)]
  | .directoryEntries entries truncated after nextCursor =>
    .tagged "type" "directory_entries" [("entries", .array (entries.map directoryEntryJson)),
      ("truncated", .bool truncated), ("after", .ofOption .text after),
      ("next_cursor", .ofOption .text nextCursor)]
  | .workspaceFileWritten bytesWritten contentSha256 created =>
    .tagged "type" "workspace_file_written" [("bytes_written", .ofNat bytesWritten),
      ("content_sha256", .text contentSha256), ("created", .bool created)]
  | .windows infos truncated =>
    .tagged "type" "windows" [("windows", .array (infos.map WindowInfo.json)),
      ("truncated", .bool truncated)]
  | .applicationLaunched processId identifier name processRunning windowReady infos
      windowsTruncated =>
    .tagged "type" "application_launched" [("process_id", .ofNat processId),
      ("identifier", .ofOption .text identifier), ("name", .text name),
      ("process_running", .bool processRunning), ("window_ready", .bool windowReady),
      ("windows", .array (infos.map WindowInfo.json)),
      ("windows_truncated", .bool windowsTruncated)]
  | .windowSnapshot snapshotRef processId windowId elements elementsComplete image =>
    .tagged "type" "window_snapshot" [("snapshot_ref", .text snapshotRef),
      ("process_id", .ofNat processId), ("window_id", .ofNat windowId),
      ("elements", .array (elements.map UiElement.json)),
      ("elements_complete", .bool elementsComplete),
      ("screenshot", .ofOption UiImage.json image)]
  | .uiStateVerification status stable samples predicates image =>
    .tagged "type" "ui_state_verification" [("status", .text status.name), ("stable", .bool stable),
      ("samples", .ofNat samples), ("predicates", .array (predicates.map UiPredicateResult.json)),
      ("screenshot", .ofOption UiImage.json image)]
  | .browserUploadStaged backendFileHandle bytes =>
    .tagged "type" "browser_upload_staged" [("backend_file_handle", .text backendFileHandle),
      ("bytes", .ofNat bytes)]
  | .browser result => .tagged "type" "browser" [("result", result.json)]
  | .error code => .tagged "type" "error" [("code", .text code.safeCode)]

/-! ### Messages -/

def hubAgentSchemaVersion : Nat := 6

/-- An answer, with the session and the operation it belongs to. -/
structure CommandResultEnvelope where
  schemaVersion : Nat
  deviceId : String
  deviceGeneration : Nat
  capabilityRevision : Nat
  operationId : String
  result : DeviceResult

def CommandResultEnvelope.json (envelope : CommandResultEnvelope) : Json :=
  .object [("schema_version", .ofNat envelope.schemaVersion), ("device_id", .text envelope.deviceId),
    ("device_generation", .ofNat envelope.deviceGeneration),
    ("capability_revision", .ofNat envelope.capabilityRevision),
    ("operation_id", .text envelope.operationId), ("result", envelope.result.json)]

/-- An answer as it is signed. -/
structure RemoteResult where
  schemaVersion : Nat
  result : CommandResultEnvelope
  signature : List UInt8

def RemoteResult.json (remote : RemoteResult) : Json :=
  .object [("schema_version", .ofNat remote.schemaVersion), ("result", remote.result.json),
    ("signature", .ofBytes remote.signature)]

def operationRefJson (operation : OperationRef) : Json :=
  .object [("device_id", .text operation.deviceId),
    ("device_generation", .ofNat operation.deviceGeneration),
    ("operation_id", .text operation.operationId)]

def terminalEvidenceJson (terminal : AgentTerminalEvidence) : Json :=
  .object [("operation", operationRefJson terminal.operation),
    ("capability_revision", .ofNat terminal.capabilityRevision),
    ("capability", .text terminal.capability.name),
    ("dispatch_grant_id", .text terminal.dispatchGrantId),
    ("terminal_state", .text terminal.terminalState.name),
    ("evidence", .text terminal.evidence.name)]

/-- What an Agent knows of how operations ended, after a session was lost. -/
structure RemoteReconciliationReport where
  schemaVersion : Nat
  deviceId : String
  reportingGeneration : Nat
  terminalEvidence : List AgentTerminalEvidence
  signature : List UInt8

def RemoteReconciliationReport.json (report : RemoteReconciliationReport) : Json :=
  .object [("schema_version", .ofNat report.schemaVersion), ("device_id", .text report.deviceId),
    ("reporting_generation", .ofNat report.reportingGeneration),
    ("terminal_evidence", .array (report.terminalEvidence.map terminalEvidenceJson)),
    ("signature", .ofBytes report.signature)]

/-- The messages an Agent sends about its operations. -/
inductive AgentToHub where
  | result (remote : RemoteResult)
  | reconciliationReport (report : RemoteReconciliationReport)

def AgentToHub.json : AgentToHub → Json
  | .result remote => .object [("type", .text "result"), ("body", remote.json)]
  | .reconciliationReport report =>
    .object [("type", .text "reconciliation_report"), ("body", report.json)]

/-! ### The carrier -/

def BrowserBackendResult.large : BrowserBackendResult → Bool
  | .bound .. | .snapshot .. | .downloadCompleted .. => true
  | _ => false

/-- Results with pictures or observed interfaces. -/
def DeviceResult.large : DeviceResult → Bool
  | .screenshot .. | .windows .. | .applicationLaunched .. | .windowSnapshot ..
  | .uiStateVerification .. | .clipboardState .. | .regionCaptured .. => true
  | .browser result => result.large
  | _ => false

end Gateway.Carrier
