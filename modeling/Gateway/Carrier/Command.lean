import Gateway.Carrier.Result
import Gateway.Control.Grant

/-! What the Hub sends an Agent to do, with all its data, as the carrier writes it.

The commands are those of the calls that bring texts, paths, programs or contents of a client. A
command goes out with the grant that allows it, signed. Only the staging of a browser upload has
the large bound. -/
namespace Gateway.Carrier
open Data Device Control

/-! ### The parts of commands -/

def deliveryName : InputDeliveryMode → String
  | .background => "background"
  | .foreground => "foreground"

inductive InputTarget where
  | desktop
  | window (processId : Nat) (windowId : Option Nat)
  | windowPoint (processId windowId : Nat) (x y : Int)
  | element (processId windowId : Nat) (elementRef : String)

def InputTarget.json : InputTarget → Json
  | .desktop => .tagged "kind" "desktop" []
  | .window processId windowId =>
    .tagged "kind" "window" [("process_id", .ofNat processId),
      ("window_id", .ofOption .ofNat windowId)]
  | .windowPoint processId windowId x y =>
    .tagged "kind" "window_point" [("process_id", .ofNat processId),
      ("window_id", .ofNat windowId), ("x", .number x), ("y", .number y)]
  | .element processId windowId elementRef =>
    .tagged "kind" "element" [("process_id", .ofNat processId), ("window_id", .ofNat windowId),
      ("element_ref", .text elementRef)]

structure ProcessEnvVar where
  key : String
  value : String

def ProcessEnvVar.json (var : ProcessEnvVar) : Json :=
  .object [("key", .text var.key), ("value", .text var.value)]

/-- A program to run, without a shell around it. -/
structure ProcessRequest where
  program : String
  args : List String
  cwd : String
  env : List ProcessEnvVar
  timeoutMs : Nat

def ProcessRequest.json (request : ProcessRequest) : Json :=
  .object [("program", .text request.program), ("args", .array (request.args.map .text)),
    ("cwd", .text request.cwd), ("env", .array (request.env.map ProcessEnvVar.json)),
    ("timeout_ms", .ofNat request.timeoutMs)]

/-- A command line for the shell. -/
structure ShellRequest where
  command : String
  cwd : String
  env : List ProcessEnvVar
  timeoutMs : Nat

def ShellRequest.json (request : ShellRequest) : Json :=
  .object [("command", .text request.command), ("cwd", .text request.cwd),
    ("env", .array (request.env.map ProcessEnvVar.json)),
    ("timeout_ms", .ofNat request.timeoutMs)]

/-- What a file must be for a write to take its place. -/
def preconditionJson : WorkspaceWritePrecondition → Json
  | .expectedAbsent => .tagged "type" "expected_absent" []
  | .expectedSha256 sha256 => .tagged "type" "expected_sha256" [("sha256", .text sha256)]

/-! ### Browser commands -/

/-- A text gets into a page at once or key by key. -/
inductive BrowserTypeMode where
  | insertText
  | keystrokes

def BrowserTypeMode.name : BrowserTypeMode → String
  | .insertText => "insert_text"
  | .keystrokes => "keystrokes"

/-- The context a browser command works in and the tab of it. -/
structure BrowserTabHandle where
  contextId : String
  backendTargetId : String
  backendTabId : String

def BrowserTabHandle.members (tab : BrowserTabHandle) : List (String × Json) :=
  [("context_id", .text tab.contextId), ("backend_target_id", .text tab.backendTargetId),
    ("backend_tab_id", .text tab.backendTabId)]

inductive BrowserBackendCommand where
  | typeInto (tab : BrowserTabHandle) (backendElementRef text : String) (mode : BrowserTypeMode)
      (replace : Bool)

def BrowserBackendCommand.json : BrowserBackendCommand → Json
  | .typeInto tab backendElementRef text mode replace =>
    .tagged "type" "type" (tab.members ++
      [("backend_element_ref", .text backendElementRef), ("text", .text text),
        ("mode", .text mode.name), ("replace", .bool replace)])

/-! ### Commands -/

/-- The commands that calls become which bring data of their own. -/
inductive DeviceCommand where
  | typeText (text : String)
  | typeTextAdvanced (contextId : Option String) (text : String) (target : InputTarget)
      (delivery : InputDeliveryMode) (delayMs : Nat)
  | executeProcess (request : ProcessRequest)
  | shell (request : ShellRequest)
  | readFile (path : String) (offset : Nat) (maxBytes : Option Nat)
  | listDirectory (path : String) (after : Option String)
  | writeWorkspaceFile (path dataBase64 : String) (expectedBytes : Nat) (contentSha256 : String)
      (precondition : WorkspaceWritePrecondition)
  | clipboardWrite (contextId : Option String) (text : String)
  | setUiValue (contextId : String) (processId windowId : Nat) (elementRef value : String)
  | expandInteractionScope (contextId reason : String)
  | stageBrowserUploadFile (contextId fileName dataBase64 : String) (expectedBytes : Nat)
  | browser (command : BrowserBackendCommand)

def DeviceCommand.json : DeviceCommand → Json
  | .typeText text => .tagged "type" "type_text" [("text", .text text)]
  | .typeTextAdvanced contextId text target delivery delayMs =>
    .tagged "type" "type_text_advanced" [("context_id", .ofOption .text contextId),
      ("text", .text text), ("target", target.json), ("delivery", .text (deliveryName delivery)),
      ("delay_ms", .ofNat delayMs)]
  | .executeProcess request => .tagged "type" "execute_process" [("request", request.json)]
  | .shell request => .tagged "type" "shell" [("request", request.json)]
  | .readFile path offset maxBytes =>
    .tagged "type" "read_file" ([("path", .text path), ("offset", .ofNat offset)] ++
      Json.optional "max_bytes" .ofNat maxBytes)
  | .listDirectory path after =>
    .tagged "type" "list_directory" (("path", .text path) :: Json.optional "after" .text after)
  | .writeWorkspaceFile path dataBase64 expectedBytes contentSha256 precondition =>
    .tagged "type" "write_workspace_file" [("path", .text path),
      ("data_base64", .text dataBase64), ("expected_bytes", .ofNat expectedBytes),
      ("content_sha256", .text contentSha256), ("precondition", preconditionJson precondition)]
  | .clipboardWrite contextId text =>
    .tagged "type" "clipboard_write" [("context_id", .ofOption .text contextId),
      ("text", .text text)]
  | .setUiValue contextId processId windowId elementRef value =>
    .tagged "type" "set_ui_value" [("context_id", .text contextId),
      ("process_id", .ofNat processId), ("window_id", .ofNat windowId),
      ("element_ref", .text elementRef), ("value", .text value)]
  | .expandInteractionScope contextId reason =>
    .tagged "type" "expand_interaction_scope" [("context_id", .text contextId),
      ("reason", .text reason)]
  | .stageBrowserUploadFile contextId fileName dataBase64 expectedBytes =>
    .tagged "type" "stage_browser_upload_file" [("context_id", .text contextId),
      ("file_name", .text fileName), ("data_base64", .text dataBase64),
      ("expected_bytes", .ofNat expectedBytes)]
  | .browser command => .tagged "type" "browser" [("command", command.json)]

/-! ### Messages -/

/-- A command, with the session and the operation it belongs to. -/
structure CommandEnvelope where
  schemaVersion : Nat
  deviceId : String
  deviceGeneration : Nat
  capabilityRevision : Nat
  operationId : String
  command : DeviceCommand

def CommandEnvelope.json (envelope : CommandEnvelope) : Json :=
  .object [("schema_version", .ofNat envelope.schemaVersion), ("device_id", .text envelope.deviceId),
    ("device_generation", .ofNat envelope.deviceGeneration),
    ("capability_revision", .ofNat envelope.capabilityRevision),
    ("operation_id", .text envelope.operationId), ("command", envelope.command.json)]

def className : CapabilityClass → String
  | .observe => "observe"
  | .interact => "interact"
  | .system => "system"
  | .dangerous => "dangerous"

def grantPayloadJson (payload : GrantPayload) : Json :=
  .object ([("schema_version", .ofNat payload.schemaVersion),
    ("issuer_key_id", .text payload.issuerKeyId), ("grant_id", .text payload.grantId),
    ("device_id", .text payload.deviceId), ("capability", .text (className payload.capability))] ++
    Json.optional "device_capability" (fun capability => .text capability.name)
      payload.deviceCapability ++
    [("issued_at_ms", .ofNat payload.issuedAtMs), ("expires_at_ms", .ofNat payload.expiresAtMs)])

def grantJson (grant : GrantToken) : Json :=
  .object [("payload", grantPayloadJson grant.payload), ("signature", .ofBytes grant.signature)]

structure RemoteHandoffExactWindow where
  contextBinding : String
  processId : Nat
  windowId : Nat

/-- The only surface is a window of the operating system. -/
def RemoteHandoffExactWindow.json (window : RemoteHandoffExactWindow) : Json :=
  .object [("kind", .text "os_window"), ("binding",
    .object [("context_binding", .text window.contextBinding),
      ("process_id", .ofNat window.processId), ("window_id", .ofNat window.windowId)])]

/-- What allows a person to take over a device, and on which surface. -/
structure RemoteHandoffAuthority where
  principalBinding : String
  deviceBinding : String
  generation : Nat
  capabilityRevision : Nat
  surface : Option RemoteHandoffExactWindow
  verificationCandidate : Bool

def RemoteHandoffAuthority.json (authority : RemoteHandoffAuthority) : Json :=
  .object [("principal_binding", .text authority.principalBinding),
    ("device_binding", .text authority.deviceBinding), ("generation", .ofNat authority.generation),
    ("capability_revision", .ofNat authority.capabilityRevision),
    ("surface", .ofOption RemoteHandoffExactWindow.json authority.surface),
    ("verification_candidate", .bool authority.verificationCandidate)]

/-- A command as it is signed. -/
structure RemoteCommand where
  schemaVersion : Nat
  command : CommandEnvelope
  grant : GrantToken
  handoff : Option RemoteHandoffAuthority
  signature : List UInt8

def RemoteCommand.json (remote : RemoteCommand) : Json :=
  .object ([("schema_version", .ofNat remote.schemaVersion), ("command", remote.command.json),
    ("grant", grantJson remote.grant)] ++
    Json.optional "handoff" RemoteHandoffAuthority.json remote.handoff ++
    [("signature", .ofBytes remote.signature)])

/-- The message that carries a command. -/
def RemoteCommand.message (remote : RemoteCommand) : Json :=
  .object [("type", .text "command"), ("body", remote.json)]

/-! ### The carrier -/

def DeviceCommand.large : DeviceCommand → Bool
  | .stageBrowserUploadFile .. => true
  | _ => false

end Gateway.Carrier
