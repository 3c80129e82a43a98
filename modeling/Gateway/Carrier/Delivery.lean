import Gateway.Agent.Filesystem
import Gateway.Agent.ManagedJob
import Gateway.Agent.Process
import Gateway.Agent.Storage
import Gateway.Control.Registry

/-! Which answers of an Agent the carrier takes.

The Agent signs a result or a reconciliation report and hands it to the carrier, which counts
the bytes of its JSON text. What has been done by then is not undone when the carrier refuses. -/
namespace Gateway.Carrier
open Data Device Control Execution Agent Json AgentToHub Unicode Result

def maxAgentTerminalEvidenceEntries : Nat := 64

/-! ### Building the messages -/

/-- The bytes of a vector: each byte its digits, with commas between them. -/
def vectorBytes (bytes : List UInt8) : Nat :=
  bracketed (bytes.map fun b => natLength b.toNat)

@[simp] theorem size_ofBytes (bytes : List UInt8) : (ofBytes bytes).size = vectorBytes bytes := by
  rw [ofBytes, size, itemSizes_eq, List.map_map]
  rfl

/-- An absent text is written `null`. -/
def optionalTextBytes : Option String → Nat
  | none => 4
  | some s => 2 + textBytes s

@[simp] theorem size_optionalText (s : Option String) :
    (ofOption .text s).size = optionalTextBytes s := by
  cases s with
  | none => rfl
  | some s => exact size_text s

@[simp] theorem size_optionalNat (n : Option Nat) : (ofOption .ofNat n).size = optionLength natLength n := by
  cases n <;> rfl

@[simp] theorem textBytes_streamName (stream : ProcessOutputStream) : textBytes (streamName stream) = 6 := by
  cases stream <;> decide

section
variable (sign : RemoteResult → List UInt8) (session : DeviceSession) (operationId : String)

end

end Gateway.Carrier
