import Mathlib.Tactic.TypeStar

/-! What a device may be asked to do, and the plain data its answers carry.

A capability is the unit of authority. Its class says how much harm it can do;
the recovery-evidence list names the reads an operator may still use while a
device is quarantined. -/
namespace Gateway.Device

inductive CapabilityClass where
  | observe | interact | system | dangerous
  deriving DecidableEq

inductive DeviceCapability where
  | listApplications | screenGeometry | screenshot | pointerClick | pointerDrag | typeText
  | executeProcess | shell | readProcessOutput | managedJobControl | managedJobObserve
  | playwrightTestControl | playwrightTestObserve | readFile | listDirectory | writeWorkspaceFile
  | listWindows | launchApplication | inspectWindow | verifyUiState | terminateApplication
  | activateWindow | setWindowFrame | invokeMenu | keyboardInput | scroll | clipboardRead
  | clipboardWrite | pointerPosition | movePointer | setUiValue | captureRegion | desktopScope
  | browserInspect | browserPrepare | browserNavigate | browserClick | browserType | browserDialog
  | browserPointer | browserUploadFile | browserDownload
  deriving DecidableEq

namespace DeviceCapability

/-- Reads still allowed on a quarantined device. -/
def isRecoveryEvidenceReadOnly : DeviceCapability → Bool
  | .listApplications | .screenGeometry | .screenshot | .readProcessOutput | .readFile
  | .listDirectory | .listWindows | .inspectWindow | .verifyUiState | .clipboardRead
  | .pointerPosition | .captureRegion | .browserInspect => true
  | _ => false

/-- How much harm a capability can do. -/
def capabilityClass : DeviceCapability → CapabilityClass
  | .listApplications | .screenGeometry | .screenshot | .readProcessOutput | .managedJobObserve
  | .playwrightTestObserve | .readFile | .listDirectory | .listWindows | .inspectWindow
  | .verifyUiState | .clipboardRead | .pointerPosition | .captureRegion | .browserInspect =>
    .observe
  | .pointerClick | .pointerDrag | .typeText | .invokeMenu | .keyboardInput | .scroll
  | .clipboardWrite | .movePointer | .setUiValue | .browserNavigate | .browserClick | .browserType
  | .browserDialog | .browserPointer =>
    .interact
  | .launchApplication | .activateWindow | .setWindowFrame | .desktopScope | .browserPrepare =>
    .system
  | .executeProcess | .shell | .managedJobControl | .playwrightTestControl | .terminateApplication
  | .browserUploadFile | .browserDownload | .writeWorkspaceFile =>
    .dangerous

/-- The capability's name on the wire. -/
def name : DeviceCapability → String
  | .listApplications => "list_applications"
  | .screenGeometry => "screen_geometry"
  | .screenshot => "screenshot"
  | .pointerClick => "pointer_click"
  | .pointerDrag => "pointer_drag"
  | .typeText => "type_text"
  | .executeProcess => "execute_process"
  | .shell => "shell"
  | .readProcessOutput => "read_process_output"
  | .managedJobControl => "managed_job_control"
  | .managedJobObserve => "managed_job_observe"
  | .playwrightTestControl => "playwright_test_control"
  | .playwrightTestObserve => "playwright_test_observe"
  | .readFile => "read_file"
  | .listDirectory => "list_directory"
  | .writeWorkspaceFile => "write_workspace_file"
  | .listWindows => "list_windows"
  | .launchApplication => "launch_application"
  | .inspectWindow => "inspect_window"
  | .verifyUiState => "verify_ui_state"
  | .terminateApplication => "terminate_application"
  | .activateWindow => "activate_window"
  | .setWindowFrame => "set_window_frame"
  | .invokeMenu => "invoke_menu"
  | .keyboardInput => "keyboard_input"
  | .scroll => "scroll"
  | .clipboardRead => "clipboard_read"
  | .clipboardWrite => "clipboard_write"
  | .pointerPosition => "pointer_position"
  | .movePointer => "move_pointer"
  | .setUiValue => "set_ui_value"
  | .captureRegion => "capture_region"
  | .desktopScope => "desktop_scope"
  | .browserInspect => "browser_inspect"
  | .browserPrepare => "browser_prepare"
  | .browserNavigate => "browser_navigate"
  | .browserClick => "browser_click"
  | .browserType => "browser_type"
  | .browserDialog => "browser_dialog"
  | .browserPointer => "browser_pointer"
  | .browserUploadFile => "browser_upload_file"
  | .browserDownload => "browser_download"

/-- Recovery reads only observe. -/
theorem observes_of_isRecoveryEvidenceReadOnly {c : DeviceCapability}
    (h : c.isRecoveryEvidenceReadOnly = true) : c.capabilityClass = .observe := by
  cases c <;> first | rfl | cases h

end DeviceCapability

inductive DeviceErrorCode where
  | invalidRequest | permissionDenied | notFound | ioFailure | internalFailure
  | backendOutcomeIndeterminate | executionBudgetExceeded | mutationAuthorityUnavailable
  | handoffAuthoritySuspended | handoffRuntimeUnavailable | handoffVerificationUnavailable
  | environmentKeyDenied | invalidEnvironment | tooManyEnvironmentEntries | workingDirectoryDenied
  | workingDirectoryInvalid | invalidTimeout | invalidProgram | programDenied | tooManyArguments
  | processSpawnFailed | workspacePreconditionFailed | workspacePayloadTooLarge
  | browserRouteUnavailable | browserRequiresSetup | browserBindingAmbiguous | browserBindingStale
  | browserWrongTargetRefused | browserTabRequired | browserTabNotFound | browserRefStale
  | browserInputTrustUnavailable | browserEndpointOwnerMismatch | browserConsentRequired
  | browserConsentRevoked | browserReconnectExhausted | browserInputIncomplete
  | browserActionUnavailable | browserOriginOutsideScope | browserRefused
  deriving DecidableEq

/-- The code's name on the wire. -/
def DeviceErrorCode.safeCode : DeviceErrorCode → String
  | .invalidRequest => "invalid_request"
  | .permissionDenied => "permission_denied"
  | .notFound => "not_found"
  | .ioFailure => "io_failure"
  | .internalFailure => "internal_failure"
  | .backendOutcomeIndeterminate => "backend_outcome_indeterminate"
  | .executionBudgetExceeded => "execution_budget_exceeded"
  | .mutationAuthorityUnavailable => "mutation_authority_unavailable"
  | .handoffAuthoritySuspended => "handoff_authority_suspended"
  | .handoffRuntimeUnavailable => "handoff_runtime_unavailable"
  | .handoffVerificationUnavailable => "handoff_verification_unavailable"
  | .environmentKeyDenied => "environment_key_denied"
  | .invalidEnvironment => "invalid_environment"
  | .tooManyEnvironmentEntries => "too_many_environment_entries"
  | .workingDirectoryDenied => "working_directory_denied"
  | .workingDirectoryInvalid => "working_directory_invalid"
  | .invalidTimeout => "invalid_timeout"
  | .invalidProgram => "invalid_program"
  | .programDenied => "program_denied"
  | .tooManyArguments => "too_many_arguments"
  | .processSpawnFailed => "process_spawn_failed"
  | .workspacePreconditionFailed => "workspace_precondition_failed"
  | .workspacePayloadTooLarge => "workspace_payload_too_large"
  | .browserRouteUnavailable => "browser_route_unavailable"
  | .browserRequiresSetup => "browser_requires_setup"
  | .browserBindingAmbiguous => "browser_binding_ambiguous"
  | .browserBindingStale => "browser_binding_stale"
  | .browserWrongTargetRefused => "browser_wrong_target_refused"
  | .browserTabRequired => "browser_tab_required"
  | .browserTabNotFound => "browser_tab_not_found"
  | .browserRefStale => "browser_ref_stale"
  | .browserInputTrustUnavailable => "browser_input_trust_unavailable"
  | .browserEndpointOwnerMismatch => "browser_endpoint_owner_mismatch"
  | .browserConsentRequired => "browser_consent_required"
  | .browserConsentRevoked => "browser_consent_revoked"
  | .browserReconnectExhausted => "browser_reconnect_exhausted"
  | .browserInputIncomplete => "browser_input_incomplete"
  | .browserActionUnavailable => "browser_action_unavailable"
  | .browserOriginOutsideScope => "browser_origin_outside_scope"
  | .browserRefused => "browser_refused"

inductive InputDeliveryMode where
  | background
  | foreground
  deriving DecidableEq

/-- What a process or shell run reports. -/
structure ProcessOutput where
  exitCode : Option Int
  stdout : String
  stderr : String
  stdoutTruncated : Bool
  stderrTruncated : Bool
  timedOut : Bool
  cancelled : Bool
  durationMs : Nat
  deriving DecidableEq

end Gateway.Device
