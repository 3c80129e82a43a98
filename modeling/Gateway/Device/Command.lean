import Gateway.Device.Capability

/-! Commands, the authority each one needs and whether it can change anything.

Only the shape of a command is kept: what it is sent with never decides its
capability, except that a dialog of a browser may be looked at or answered. -/
namespace Gateway.Device

inductive BrowserDialogAction where
  | inspect | accept | dismiss
  deriving DecidableEq

inductive BrowserBackendCommand where
  | prepare | bind | inspect | navigate | click | typeInto
  | dialog (action : BrowserDialogAction)
  | pointer | upload | download
  deriving DecidableEq

/-- The device capability of a browser command. -/
def BrowserBackendCommand.deviceCapability : BrowserBackendCommand → DeviceCapability
  | .bind | .inspect => .browserInspect
  | .prepare => .browserPrepare
  | .navigate => .browserNavigate
  | .click => .browserClick
  | .typeInto => .browserType
  | .dialog _ => .browserDialog
  | .pointer => .browserPointer
  | .upload => .browserUploadFile
  | .download => .browserDownload

inductive DeviceCommand where
  | listApplications | screenGeometry | screenshot | screenshotContextual | pointerClick
  | pointerClickAdvanced | pointerDrag | pointerDragAdvanced | typeText | typeTextAdvanced
  | executeProcess | shell | readProcessOutput | managedJobStart | managedJobStatus
  | managedJobOutput | managedJobRenew | managedJobStop | playwrightTestStart | playwrightTestStatus
  | playwrightTestOutput | playwrightTestStop | readFile | listDirectory | writeWorkspaceFile
  | listWindows | launchApplication | inspectWindow | inspectWindowContextual | verifyUiState
  | verifyUiStateContextual | terminateApplication | activateWindow | setWindowFrame | invokeMenu
  | keyboardInput | scroll | clipboardRead | clipboardWrite | pointerPosition | movePointer
  | setUiValue | captureRegion | expandInteractionScope | stageBrowserUploadFile
  | browser (command : BrowserBackendCommand)

namespace DeviceCommand

def capability : DeviceCommand → DeviceCapability
  | .listApplications => .listApplications
  | .screenGeometry => .screenGeometry
  | .screenshot | .screenshotContextual => .screenshot
  | .pointerClick | .pointerClickAdvanced => .pointerClick
  | .pointerDrag | .pointerDragAdvanced => .pointerDrag
  | .typeText | .typeTextAdvanced => .typeText
  | .executeProcess => .executeProcess
  | .shell => .shell
  | .readProcessOutput => .readProcessOutput
  | .managedJobStart | .managedJobRenew | .managedJobStop => .managedJobControl
  | .managedJobStatus | .managedJobOutput => .managedJobObserve
  | .playwrightTestStart | .playwrightTestStop => .playwrightTestControl
  | .playwrightTestStatus | .playwrightTestOutput => .playwrightTestObserve
  | .readFile => .readFile
  | .listDirectory => .listDirectory
  | .writeWorkspaceFile => .writeWorkspaceFile
  | .listWindows => .listWindows
  | .launchApplication => .launchApplication
  | .inspectWindow | .inspectWindowContextual => .inspectWindow
  | .verifyUiState | .verifyUiStateContextual => .verifyUiState
  | .terminateApplication => .terminateApplication
  | .activateWindow => .activateWindow
  | .setWindowFrame => .setWindowFrame
  | .invokeMenu => .invokeMenu
  | .keyboardInput => .keyboardInput
  | .scroll => .scroll
  | .clipboardRead => .clipboardRead
  | .clipboardWrite => .clipboardWrite
  | .pointerPosition => .pointerPosition
  | .movePointer => .movePointer
  | .setUiValue => .setUiValue
  | .captureRegion => .captureRegion
  | .expandInteractionScope => .desktopScope
  | .stageBrowserUploadFile => .browserUploadFile
  | .browser command => command.deviceCapability

/-- The command cannot change user or desktop state. -/
def isReadOnly : DeviceCommand → Bool
  | .listApplications | .screenGeometry | .screenshot | .screenshotContextual | .readProcessOutput
  | .managedJobStatus | .managedJobOutput | .playwrightTestStatus | .playwrightTestOutput
  | .readFile | .listDirectory | .listWindows | .inspectWindow | .inspectWindowContextual
  | .verifyUiState | .verifyUiStateContextual | .clipboardRead | .pointerPosition
  | .captureRegion | .browser .bind | .browser .inspect | .browser (.dialog .inspect) => true
  | _ => false

/-- What is allowed on a quarantined device changes nothing. -/
theorem isReadOnly_of_isRecoveryEvidenceReadOnly (command : DeviceCommand)
    (allowed : command.capability.isRecoveryEvidenceReadOnly = true) : command.isReadOnly = true := by
  cases command with
  | browser command => cases command <;> first | rfl | cases allowed
  | _ => first | rfl | cases allowed

end DeviceCommand

end Gateway.Device
