import Gateway.Device.Command
import Mathlib.Algebra.Group.Nat.Defs

/-! Commands and results as they travel between the Hub and a device.

A command carries here what its result is checked against and what the device's own
file surfaces read; `shape` forgets the rest and gives the command whose authority the
ledger knows. A result is accepted for a command by `matchesCommand`: the kinds must
belong together, and the paged results must fit the page that was asked for. Offsets
and lengths are 64-bit numbers. -/
namespace Gateway.Control
open Device

def controlSchemaVersion : Nat := 12

/-- Sixty-four bit addition that refuses to overflow. -/
def checkedAdd (a b : Nat) : Option Nat :=
  if a + b < 2 ^ 64 then some (a + b) else none

inductive ProcessOutputStream where
  | stdout
  | stderr
  deriving DecidableEq

inductive DirectoryEntryKind where
  | file | directory | symlink | other
  deriving DecidableEq

structure DirectoryEntry where
  name : String
  kind : DirectoryEntryKind
  deriving DecidableEq

inductive WorkspaceWritePrecondition where
  | expectedAbsent
  | expectedSha256 (sha256 : String)
  deriving DecidableEq

inductive DeviceCommand where
  | listApplications | screenGeometry | screenshot | screenshotContextual | pointerClick
  | pointerClickAdvanced | pointerDrag | pointerDragAdvanced | typeText | typeTextAdvanced
  | executeProcess | shell
  | readProcessOutput (locator sourceOperationId : String) (stream : ProcessOutputStream)
      (offset maxBytes : Nat)
  | managedJobStart | managedJobStatus | managedJobOutput | managedJobRenew | managedJobStop
  | playwrightTestStart | playwrightTestStatus | playwrightTestOutput | playwrightTestStop
  | readFile (path : String) (offset : Nat) (maxBytes : Option Nat)
  | listDirectory (path : String) (after : Option String)
  | writeWorkspaceFile (path dataBase64 : String) (expectedBytes : Nat) (contentSha256 : String)
      (precondition : WorkspaceWritePrecondition)
  | listWindows | launchApplication | inspectWindow | inspectWindowContextual | verifyUiState
  | verifyUiStateContextual | terminateApplication | activateWindow | setWindowFrame | invokeMenu
  | keyboardInput | scroll | clipboardRead | clipboardWrite | pointerPosition | movePointer
  | setUiValue | captureRegion | expandInteractionScope | stageBrowserUploadFile
  | browser (command : BrowserBackendCommand)
  deriving DecidableEq

/-- The command without what it is sent with. -/
def DeviceCommand.shape : DeviceCommand → Device.DeviceCommand
  | .listApplications => .listApplications
  | .screenGeometry => .screenGeometry
  | .screenshot => .screenshot
  | .screenshotContextual => .screenshotContextual
  | .pointerClick => .pointerClick
  | .pointerClickAdvanced => .pointerClickAdvanced
  | .pointerDrag => .pointerDrag
  | .pointerDragAdvanced => .pointerDragAdvanced
  | .typeText => .typeText
  | .typeTextAdvanced => .typeTextAdvanced
  | .executeProcess => .executeProcess
  | .shell => .shell
  | .readProcessOutput .. => .readProcessOutput
  | .managedJobStart => .managedJobStart
  | .managedJobStatus => .managedJobStatus
  | .managedJobOutput => .managedJobOutput
  | .managedJobRenew => .managedJobRenew
  | .managedJobStop => .managedJobStop
  | .playwrightTestStart => .playwrightTestStart
  | .playwrightTestStatus => .playwrightTestStatus
  | .playwrightTestOutput => .playwrightTestOutput
  | .playwrightTestStop => .playwrightTestStop
  | .readFile .. => .readFile
  | .listDirectory .. => .listDirectory
  | .writeWorkspaceFile .. => .writeWorkspaceFile
  | .listWindows => .listWindows
  | .launchApplication => .launchApplication
  | .inspectWindow => .inspectWindow
  | .inspectWindowContextual => .inspectWindowContextual
  | .verifyUiState => .verifyUiState
  | .verifyUiStateContextual => .verifyUiStateContextual
  | .terminateApplication => .terminateApplication
  | .activateWindow => .activateWindow
  | .setWindowFrame => .setWindowFrame
  | .invokeMenu => .invokeMenu
  | .keyboardInput => .keyboardInput
  | .scroll => .scroll
  | .clipboardRead => .clipboardRead
  | .clipboardWrite => .clipboardWrite
  | .pointerPosition => .pointerPosition
  | .movePointer => .movePointer
  | .setUiValue => .setUiValue
  | .captureRegion => .captureRegion
  | .expandInteractionScope => .expandInteractionScope
  | .stageBrowserUploadFile => .stageBrowserUploadFile
  | .browser command => .browser command

def DeviceCommand.capability (command : DeviceCommand) : DeviceCapability :=
  command.shape.capability

def DeviceCommand.isReadOnly (command : DeviceCommand) : Bool :=
  command.shape.isReadOnly

/-! ### Results -/

inductive BrowserBackendResult where
  | prepared | bound | snapshot | navigationCompleted | clickCompleted | typeCompleted
  | dialogObserved | dialogCompleted | pointerCompleted | uploadAssigned | downloadStaged
  | downloadCompleted
  deriving DecidableEq

def BrowserBackendResult.matchesCommand :
    BrowserBackendResult → BrowserBackendCommand → Bool
  | .prepared, .prepare
  | .bound, .bind
  | .snapshot, .inspect
  | .navigationCompleted, .navigate
  | .clickCompleted, .click
  | .typeCompleted, .typeInto
  | .dialogObserved, .dialog .inspect
  | .dialogCompleted, .dialog .accept
  | .dialogCompleted, .dialog .dismiss
  | .pointerCompleted, .pointer
  | .uploadAssigned, .upload
  | .downloadStaged, .download
  | .downloadCompleted, .download => true
  | _, _ => false

inductive DeviceResult where
  | applications | screenGeometry | screenshot | pointerClickCompleted | pointerDragCompleted
  | typeTextCompleted | applicationTerminated | windowActivated | windowFrameSet | menuInvoked
  | keyboardInputCompleted | scrollCompleted | clipboardState | clipboardWritten | pointerPosition
  | pointerMoveCompleted | uiValueSet | regionCaptured | interactionScopeExpanded
  | process (output : ProcessOutput)
  | managedJobStarted | managedJobStatus | managedJobOutput | managedJobRenewed | managedJobStopped
  | playwrightTestStarted | playwrightTestStatus | playwrightTestOutput | playwrightTestStopped
  | shell (output : ProcessOutput)
  | processOutputRange (bytes : List UInt8) (stream : ProcessOutputStream)
      (sourceOperationId : String) (offset nextOffset totalBytes : Nat) (eof : Bool)
  | fileContents (bytes : List UInt8) (truncated : Bool) (offset : Nat) (nextOffset : Option Nat)
  | directoryEntries (entries : List DirectoryEntry) (truncated : Bool) (after : Option String)
      (nextCursor : Option String)
  | workspaceFileWritten (bytesWritten : Nat) (contentSha256 : String) (created : Bool)
  | windows | applicationLaunched | windowSnapshot | uiStateVerification | browserUploadStaged
  | browser (result : BrowserBackendResult)
  | error (code : DeviceErrorCode)
  deriving DecidableEq

/-- Names grow strictly from each entry to the next. -/
def strictlySorted : List DirectoryEntry → Bool
  | a :: b :: rest => decide (a.name < b.name) && strictlySorted (b :: rest)
  | _ => true

/-- A range of kept output fits the range that was asked for. -/
def rangeFits (bytes : List UInt8) (resultOffset nextOffset totalBytes : Nat) (eof : Bool)
    (offset maxBytes : Nat) : Bool :=
  match checkedAdd resultOffset bytes.length with
  | none => false
  | some expectedNext =>
    resultOffset = offset && bytes.length ≤ maxBytes && nextOffset = expectedNext &&
      nextOffset ≤ totalBytes && eof = decide (nextOffset ≥ totalBytes)

/-- A page of a file fits the page that was asked for. -/
def contentsFit (bytes : List UInt8) (truncated : Bool) (resultOffset : Nat)
    (nextOffset : Option Nat) (offset : Nat) (maxBytes : Option Nat) : Bool :=
  resultOffset = offset && maxBytes.all (fun limit => bytes.length ≤ limit) &&
    nextOffset = if truncated then checkedAdd resultOffset bytes.length else none

/-- A page of a directory fits the cursor it was asked from. -/
def entriesFit (entries : List DirectoryEntry) (truncated : Bool)
    (resultAfter nextCursor after : Option String) : Bool :=
  resultAfter = after && strictlySorted entries &&
    resultAfter.all (fun cursor => entries.all fun entry => cursor < entry.name) &&
    if truncated then
      !entries.isEmpty && nextCursor = entries.getLast?.map DirectoryEntry.name
    else nextCursor.isNone

def DeviceResult.matchesCommand : DeviceResult → DeviceCommand → Bool
  | .browser result, .browser command => result.matchesCommand command
  | .processOutputRange bytes resultStream resultSource resultOffset nextOffset totalBytes eof,
      .readProcessOutput _ sourceOperationId stream offset maxBytes =>
    rangeFits bytes resultOffset nextOffset totalBytes eof offset maxBytes &&
      resultStream = stream && resultSource = sourceOperationId
  | .fileContents bytes truncated resultOffset nextOffset, .readFile _ offset maxBytes =>
    contentsFit bytes truncated resultOffset nextOffset offset maxBytes
  | .directoryEntries entries truncated resultAfter nextCursor, .listDirectory _ after =>
    entriesFit entries truncated resultAfter nextCursor after
  | .workspaceFileWritten bytesWritten resultSha256 created,
      .writeWorkspaceFile _ _ expectedBytes contentSha256 precondition =>
    bytesWritten = expectedBytes && resultSha256 = contentSha256 &&
      created = decide (precondition = .expectedAbsent)
  | .applications, .listApplications
  | .screenGeometry, .screenGeometry
  | .screenshot, .screenshot
  | .screenshot, .screenshotContextual
  | .pointerClickCompleted, .pointerClick
  | .pointerClickCompleted, .pointerClickAdvanced
  | .pointerDragCompleted, .pointerDrag
  | .pointerDragCompleted, .pointerDragAdvanced
  | .typeTextCompleted, .typeText
  | .typeTextCompleted, .typeTextAdvanced
  | .process _, .executeProcess
  | .shell _, .shell
  | .windows, .listWindows
  | .applicationLaunched, .launchApplication
  | .windowSnapshot, .inspectWindow
  | .windowSnapshot, .inspectWindowContextual
  | .uiStateVerification, .verifyUiState
  | .uiStateVerification, .verifyUiStateContextual
  | .applicationTerminated, .terminateApplication
  | .windowActivated, .activateWindow
  | .windowFrameSet, .setWindowFrame
  | .menuInvoked, .invokeMenu
  | .keyboardInputCompleted, .keyboardInput
  | .scrollCompleted, .scroll
  | .clipboardState, .clipboardRead
  | .clipboardWritten, .clipboardWrite
  | .pointerPosition, .pointerPosition
  | .pointerMoveCompleted, .movePointer
  | .uiValueSet, .setUiValue
  | .regionCaptured, .captureRegion
  | .interactionScopeExpanded, .expandInteractionScope
  | .browserUploadStaged, .stageBrowserUploadFile
  | .error _, _ => true
  | _, _ => false

/-! ### Envelopes -/

structure CommandEnvelope where
  schemaVersion : Nat
  deviceId : String
  deviceGeneration : Nat
  capabilityRevision : Nat
  operationId : String
  command : DeviceCommand

structure CommandResultEnvelope where
  schemaVersion : Nat
  deviceId : String
  deviceGeneration : Nat
  capabilityRevision : Nat
  operationId : String
  result : DeviceResult

/-- Why a result is refused. -/
inductive ControlError where
  | unsupportedControlSchema (got : Nat)
  | resultDeviceMismatch | resultGenerationMismatch | resultCapabilityRevisionMismatch
  | resultOperationMismatch | resultTypeMismatch

def validateCommandResult (command : CommandEnvelope) (result : CommandResultEnvelope) :
    Except ControlError Unit :=
  if result.schemaVersion ≠ controlSchemaVersion then
    .error (.unsupportedControlSchema result.schemaVersion)
  else if result.deviceId ≠ command.deviceId then .error .resultDeviceMismatch
  else if result.deviceGeneration ≠ command.deviceGeneration then .error .resultGenerationMismatch
  else if result.capabilityRevision ≠ command.capabilityRevision then
    .error .resultCapabilityRevisionMismatch
  else if result.operationId ≠ command.operationId then .error .resultOperationMismatch
  else if ¬result.result.matchesCommand command.command then .error .resultTypeMismatch
  else .ok ()

/-- The envelopes are of one operation and speak the current version. -/
structure Agree (command : CommandEnvelope) (result : CommandResultEnvelope) : Prop where
  schemaVersion : result.schemaVersion = controlSchemaVersion
  deviceId : result.deviceId = command.deviceId
  deviceGeneration : result.deviceGeneration = command.deviceGeneration
  capabilityRevision : result.capabilityRevision = command.capabilityRevision
  operationId : result.operationId = command.operationId

/-- Envelopes that agree are decided by what they hold. -/
theorem Agree.validate {command : CommandEnvelope} {result : CommandResultEnvelope}
    (h : Agree command result) :
    validateCommandResult command result = .ok () ↔
      result.result.matchesCommand command.command = true := by
  simp [validateCommandResult, h.schemaVersion, h.deviceId, h.deviceGeneration, h.capabilityRevision,
    h.operationId]

/-! ### A result says which authority it was obtained under -/

def BrowserBackendResult.obtainedUnder : BrowserBackendResult → DeviceCapability
  | .prepared => .browserPrepare
  | .bound | .snapshot => .browserInspect
  | .navigationCompleted => .browserNavigate
  | .clickCompleted => .browserClick
  | .typeCompleted => .browserType
  | .dialogObserved | .dialogCompleted => .browserDialog
  | .pointerCompleted => .browserPointer
  | .uploadAssigned => .browserUploadFile
  | .downloadStaged | .downloadCompleted => .browserDownload

theorem BrowserBackendResult.obtainedUnder_of_matches {result : BrowserBackendResult}
    {command : BrowserBackendCommand} (matched : result.matchesCommand command = true) :
    result.obtainedUnder = command.deviceCapability := by
  unfold matchesCommand at matched
  split at matched <;> first | rfl | cases matched

/-- The capability of the commands a result can belong to; an error can belong to any. -/
def DeviceResult.obtainedUnder : DeviceResult → Option DeviceCapability
  | .applications => some .listApplications
  | .screenGeometry => some .screenGeometry
  | .screenshot => some .screenshot
  | .pointerClickCompleted => some .pointerClick
  | .pointerDragCompleted => some .pointerDrag
  | .typeTextCompleted => some .typeText
  | .applicationTerminated => some .terminateApplication
  | .windowActivated => some .activateWindow
  | .windowFrameSet => some .setWindowFrame
  | .menuInvoked => some .invokeMenu
  | .keyboardInputCompleted => some .keyboardInput
  | .scrollCompleted => some .scroll
  | .clipboardState => some .clipboardRead
  | .clipboardWritten => some .clipboardWrite
  | .pointerPosition => some .pointerPosition
  | .pointerMoveCompleted => some .movePointer
  | .uiValueSet => some .setUiValue
  | .regionCaptured => some .captureRegion
  | .interactionScopeExpanded => some .desktopScope
  | .process _ => some .executeProcess
  | .managedJobStarted | .managedJobRenewed | .managedJobStopped => some .managedJobControl
  | .managedJobStatus | .managedJobOutput => some .managedJobObserve
  | .playwrightTestStarted | .playwrightTestStopped => some .playwrightTestControl
  | .playwrightTestStatus | .playwrightTestOutput => some .playwrightTestObserve
  | .shell _ => some .shell
  | .processOutputRange .. => some .readProcessOutput
  | .fileContents .. => some .readFile
  | .directoryEntries .. => some .listDirectory
  | .workspaceFileWritten .. => some .writeWorkspaceFile
  | .windows => some .listWindows
  | .applicationLaunched => some .launchApplication
  | .windowSnapshot => some .inspectWindow
  | .uiStateVerification => some .verifyUiState
  | .browserUploadStaged => some .browserUploadFile
  | .browser result => some result.obtainedUnder
  | .error _ => none

theorem DeviceResult.obtainedUnder_of_matches {result : DeviceResult} {command : DeviceCommand}
    (matched : result.matchesCommand command = true) (succeeded : ∀ code, result ≠ .error code) :
    result.obtainedUnder = some command.capability := by
  unfold matchesCommand at matched
  split at matched
  · exact congrArg some (BrowserBackendResult.obtainedUnder_of_matches matched)
  all_goals first | rfl | exact absurd rfl (succeeded _) | cases matched

/-- A result other than an error is accepted for commands of one capability only. -/
theorem DeviceResult.capability_unique {result : DeviceResult} {a b : DeviceCommand}
    (succeeded : ∀ code, result ≠ .error code) (first : result.matchesCommand a = true)
    (second : result.matchesCommand b = true) : a.capability = b.capability :=
  Option.some.inj ((obtainedUnder_of_matches first succeeded).symm.trans
    (obtainedUnder_of_matches second succeeded))

end Gateway.Control
