import Gateway.Carrier.Command

/-! Which tool calls the Hub takes from its clients, and the commands it makes of them.

These are the calls that bring data of their own: texts, paths, programs and contents. A call
is checked field by field, each field against a bound on its raw bytes. -/
namespace Gateway.Northbound
open Data Carrier
open Device (InputDeliveryMode)
open Control (WorkspaceWritePrecondition)

def maxTypeTextBytes : Nat := 32 * 1024
def maxClipboardTextBytes : Nat := 1024 * 1024
def maxWorkspacePathBytes : Nat := 4096
def maxWorkspaceWriteBytes : Nat := 32 * 1024
def maxBrowserTextBytes : Nat := 64 * 1024
def maxBrowserRefBytes : Nat := 512

/-- What the Hub takes from libraries: reading base64 and naming contents. -/
structure Codec where
  decodeBase64 : String → Option (List UInt8)
  sha256Hex : List UInt8 → String

/-! ### Fields -/

def require {α : Type} (message : String) : Option α → Except String α
  | none => .error message
  | some a => .ok a

def refuse (message : String) (refused : Bool) : Except String Unit :=
  if refused then .error message else .ok ()

def lowerHexDigit (c : Char) : Bool :=
  c.isDigit || ('a' ≤ c && c ≤ 'f')

/-- A tag and 32 hexadecimal digits. -/
def validHexId (tag value : String) : Bool :=
  match stripPrefix tag value with
  | none => false
  | some suffix => suffix.utf8ByteSize = 32 && suffix.toList.all lowerHexDigit

def validateOperationId (operationId : String) : Except String Unit :=
  refuse "Invalid operation_id" (!validHexId "op_" operationId)

def validSha256Hex (value : String) : Bool :=
  value.utf8ByteSize = 64 && value.toList.all lowerHexDigit

def requirePositiveProcessId (processId : Nat) : Except String Unit :=
  refuse "process_id must be positive" (processId = 0)

def validateWindowArgs (processId windowId : Nat) : Except String Unit :=
  refuse "process_id and window_id must be positive" (processId = 0 || windowId = 0)

def parseDeliveryMode (value : Option String) : Except String InputDeliveryMode :=
  match value.getD "background" with
  | "background" => .ok .background
  | "foreground" => .ok .foreground
  | _ => .error "delivery must be background or foreground"

/-- The fields that name where input goes. -/
structure TargetArgs where
  targetKind : Option String
  processId : Option Nat
  windowId : Option Nat
  x : Option Int
  y : Option Int
  elementRef : Option String

/-- The kind of target the other fields imply. -/
def TargetArgs.inferred (args : TargetArgs) : String :=
  if args.elementRef.isSome then "element"
  else if args.x.isSome || args.y.isSome then "window_point"
  else if args.processId.isSome || args.windowId.isSome then "window"
  else "desktop"

def parseInputTarget (args : TargetArgs) : Except String InputTarget := do
  match args.targetKind.getD args.inferred with
  | "desktop" =>
    refuse "desktop target cannot include process/window/point fields"
      (args.processId.isSome || args.windowId.isSome || args.x.isSome || args.y.isSome ||
        args.elementRef.isSome)
    return .desktop
  | "window" =>
    let processId ← require "window target requires process_id" args.processId
    requirePositiveProcessId processId
    refuse "invalid window target"
      (args.windowId = some 0 || args.x.isSome || args.y.isSome || args.elementRef.isSome)
    return .window processId args.windowId
  | "window_point" =>
    let processId ← require "window_point requires process_id" args.processId
    let windowId ← require "window_point requires window_id" args.windowId
    let x ← require "window_point requires x" args.x
    let y ← require "window_point requires y" args.y
    refuse "window_point cannot include element_ref" args.elementRef.isSome
    validateWindowArgs processId windowId
    return .windowPoint processId windowId x y
  | "element" =>
    let processId ← require "element target requires process_id" args.processId
    let windowId ← require "element target requires window_id" args.windowId
    let elementRef ← require "element target requires element_ref" args.elementRef
    refuse "element target cannot include coordinates" (args.x.isSome || args.y.isSome)
    validateWindowArgs processId windowId
    return .element processId windowId elementRef
  | _ => .error "target_kind must be desktop, window, window_point, or element"

/-! ### Calls -/

structure TypeTextArgs where
  contextId : Option String
  text : String
  target : TargetArgs
  delivery : Option String
  delayMs : Option Nat

/-- Any field beyond the text asks for the form with a context. -/
def TypeTextArgs.advanced (args : TypeTextArgs) : Bool :=
  args.contextId.isSome || args.target.targetKind.isSome || args.target.processId.isSome ||
    args.target.windowId.isSome || args.target.x.isSome || args.target.y.isSome ||
    args.target.elementRef.isSome || args.delivery.isSome || args.delayMs.isSome

def typeTextCommand (args : TypeTextArgs) : Except String DeviceCommand := do
  refuse "text must be within 1..=32768 UTF-8 bytes"
    (args.text.isEmpty || args.text.utf8ByteSize > maxTypeTextBytes)
  if !args.advanced then
    return .typeText args.text
  refuse "element_ref input requires context_id"
    (args.target.elementRef.isSome && args.contextId.isNone)
  let target ← parseInputTarget args.target
  let delivery ← parseDeliveryMode args.delivery
  return .typeTextAdvanced args.contextId args.text target delivery (args.delayMs.getD 30)

/-- The environment is a map, written out in the order of its keys. -/
def envMap (env : Table String) : List ProcessEnvVar :=
  env.toList.map fun entry => ⟨entry.1, entry.2⟩

structure WriteWorkspaceFileArgs where
  path : String
  dataBase64 : String
  expectedAbsent : Bool
  expectedSha256 : Option String

def writePrecondition (args : WriteWorkspaceFileArgs) :
    Except String WorkspaceWritePrecondition :=
  match args.expectedAbsent, args.expectedSha256 with
  | true, none => .ok .expectedAbsent
  | false, some sha256 =>
    if validSha256Hex sha256 then .ok (.expectedSha256 sha256)
    else .error "exactly one write precondition is required: expected_absent=true or expected_sha256"
  | _, _ =>
    .error "exactly one write precondition is required: expected_absent=true or expected_sha256"

def writeWorkspaceFileCommand (codec : Codec) (args : WriteWorkspaceFileArgs) :
    Except String DeviceCommand := do
  refuse "workspace path exceeds the 4096-byte bound"
    (args.path.isEmpty || args.path.utf8ByteSize > maxWorkspacePathBytes)
  let bytes ← require "data_base64 must be valid base64" (codec.decodeBase64 args.dataBase64)
  refuse "workspace write payload exceeds the 32 KiB bound" (bytes.length > maxWorkspaceWriteBytes)
  let precondition ← writePrecondition args
  return .writeWorkspaceFile args.path args.dataBase64 bytes.length (codec.sha256Hex bytes)
    precondition

inductive BrowserContractError where
  | invalidContextId | invalidRef | emptyValue | valueTooLarge
  deriving DecidableEq

def validateContextId (value : String) : Except BrowserContractError Unit :=
  if validHexId "ctx_" value then .ok () else .error .invalidContextId

def validatePublicRef (value : String) : Except BrowserContractError Unit :=
  if value.isEmpty || value.utf8ByteSize > maxBrowserRefBytes ||
      (stripPrefix "ref_" value).isNone then .error .invalidRef
  else .ok ()

structure BrowserTypeRequest where
  contextId : String
  targetRef : String
  tabRef : String
  elementRef : String
  text : String
  mode : BrowserTypeMode
  replace : Bool

def BrowserTypeRequest.validate (request : BrowserTypeRequest) :
    Except BrowserContractError Unit := do
  validateContextId request.contextId
  validatePublicRef request.targetRef
  validatePublicRef request.tabRef
  validatePublicRef request.elementRef
  if request.text.utf8ByteSize > maxBrowserTextBytes then throw .valueTooLarge
  if request.text.isEmpty && !request.replace then throw .emptyValue

inductive ToolCall where
  | typeText (args : TypeTextArgs)
  | executeProcess (operationId : Option String) (program : String) (args : List String)
      (cwd : String) (env : Table String) (timeoutMs : Nat)
  | shell (operationId : Option String) (command cwd : String) (env : Table String)
      (timeoutMs : Nat)
  | readFile (path : String) (offset : Nat) (maxBytes : Option Nat)
  | listDirectory (path : String) (after : Option String)
  | writeWorkspaceFile (args : WriteWorkspaceFileArgs)
  | clipboardWrite (contextId : Option String) (text : String)
  | setUiValue (contextId : String) (processId windowId : Nat) (elementRef value : String)
  | expandInteractionScope (contextId reason : String)

/-- The command of a call, once its arguments have been checked. -/
def parseCommand (codec : Codec) : ToolCall → Except String DeviceCommand
  | .typeText args => typeTextCommand args
  | .executeProcess operationId program args cwd env timeoutMs => do
    operationId.forM validateOperationId
    return .executeProcess ⟨program, args, cwd, envMap env, timeoutMs⟩
  | .shell operationId command cwd env timeoutMs => do
    operationId.forM validateOperationId
    return .shell ⟨command, cwd, envMap env, timeoutMs⟩
  | .readFile path offset maxBytes => .ok (.readFile path offset maxBytes)
  | .listDirectory path after => .ok (.listDirectory path after)
  | .writeWorkspaceFile args => writeWorkspaceFileCommand codec args
  | .clipboardWrite contextId text => do
    refuse "clipboard text exceeds the 1 MiB bound" (text.utf8ByteSize > maxClipboardTextBytes)
    return .clipboardWrite contextId text
  | .setUiValue contextId processId windowId elementRef value => do
    validateWindowArgs processId windowId
    refuse "Invalid UI value arguments"
      (elementRef.utf8ByteSize > 128 || value.utf8ByteSize > maxTypeTextBytes)
    return .setUiValue contextId processId windowId elementRef value
  | .expandInteractionScope contextId reason => do
    refuse "reason must contain 1..=200 UTF-8 bytes" (isBlank reason || reason.utf8ByteSize > 200)
    return .expandInteractionScope contextId reason

/-! ### Contexts -/

/-- The interaction context a command names. -/
def interactionContextId : DeviceCommand → Option String
  | .setUiValue contextId _ _ _ _ | .expandInteractionScope contextId _ => some contextId
  | .typeTextAdvanced contextId .. | .clipboardWrite contextId .. => contextId
  | _ => none

/-- What the contexts of a client say about a command: whether the one it names is live and of
the scope the command needs, and which element a public reference stands for there. -/
structure Interactions where
  admits : String → DeviceCommand → Except String Unit
  resolveElement : String → String → Except String String

/-- An element is sent under the backend's name for it. -/
def resolveElementRef (resolve : String → Except String String) :
    DeviceCommand → Except String DeviceCommand
  | .typeTextAdvanced contextId text (.element processId windowId elementRef) delivery delayMs => do
    let backendRef ← resolve elementRef
    return .typeTextAdvanced contextId text (.element processId windowId backendRef) delivery
      delayMs
  | .setUiValue contextId processId windowId elementRef value => do
    let backendRef ← resolve elementRef
    return .setUiValue contextId processId windowId backendRef value
  | command => .ok command

/-- Input to the whole desktop without a context. -/
def needsContext : DeviceCommand → Bool
  | .typeText _ => true
  | _ => false

def prepareContextualCommand (interactions : Interactions) (command : DeviceCommand) :
    Except String DeviceCommand := do
  refuse "Desktop-scoped northbound input requires an interaction context" (needsContext command)
  match interactionContextId command with
  | none => return command
  | some contextId =>
    interactions.admits contextId command
    resolveElementRef (interactions.resolveElement contextId) command

/-- The commands that accepted calls become. A call to type in a browser has its references
resolved to handles of the backend. -/
inductive Accepted (codec : Codec) (interactions : Interactions) : DeviceCommand → Prop
  | call {call : ToolCall} {parsed command : DeviceCommand}
      (parses : parseCommand codec call = .ok parsed)
      (prepares : prepareContextualCommand interactions parsed = .ok command) :
      Accepted codec interactions command
  | browserType {request : BrowserTypeRequest} (valid : request.validate = .ok ())
      (backendTargetId backendTabId backendElementRef : String) :
      Accepted codec interactions (.browser (.typeInto
        ⟨request.contextId, backendTargetId, backendTabId⟩ backendElementRef request.text
        request.mode request.replace))

end Gateway.Northbound
