import Gateway.Carrier.Delivery
import Gateway.Northbound.Request

/-! Which accepted calls the carrier takes to the Agent.

The checks of a call bound its fields one by one, in raw bytes. The carrier bounds the whole
signed message, in bytes of JSON, and by then the operation has been recorded as dispatched. -/
namespace Gateway.Northbound
open Data Carrier Json RemoteCommand Result
open Control (GrantToken DeviceSession controlSchemaVersion)

variable (sign : RemoteCommand → List UInt8) (session : DeviceSession) (operationId : String)
  (grant : GrantToken) (handoff : Option RemoteHandoffAuthority)

/-- An element is sent under the backend's name for it. -/
def backendRef (interactions : Interactions) (contextId : Option String) (elementRef : String) :
    String :=
  match contextId with
  | none => elementRef
  | some contextId => (interactions.resolveElement contextId elementRef).toOption.getD elementRef

def targetBytes : InputTarget → Nat
  | .desktop => 18
  | .window processId windowId => 44 + natLength processId + optionLength natLength windowId
  | .windowPoint processId windowId x y =>
    60 + natLength processId + natLength windowId + intLength x + intLength y
  | .element processId windowId elementRef =>
    62 + natLength processId + natLength windowId + textBytes elementRef

def envBytes (env : Table String) : Nat :=
  bracketed (env.toList.map fun entry => 21 + textBytes entry.1 + textBytes entry.2)

@[simp] theorem size_target (target : InputTarget) : target.json.size = targetBytes target := by
  rcases target with _ | ⟨processId, _ | windowId⟩ | _ | _ <;>
    simp +decide [InputTarget.json, ofOption, optionLength, targetBytes] <;>
    omega

@[simp] theorem size_env (env : Table String) :
    (Json.array ((envMap env).map ProcessEnvVar.json)).size = envBytes env := by
  rw [size, itemSizes_eq, envMap, List.map_map, List.map_map, envBytes]
  refine congrArg bracketed (List.map_congr_left fun entry _ => ?_)
  simp +decide [ProcessEnvVar.json]
  omega

/-! ### The command of an accepted call -/

variable {codec : Codec} {interactions : Interactions} {command : DeviceCommand}

end Gateway.Northbound
