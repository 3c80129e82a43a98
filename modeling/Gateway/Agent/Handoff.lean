import Gateway.Data.Lines
import Gateway.Data.Program

/-! The managed handoff runtime.

A child process takes one request line after the other and answers each with a line. Its two
pipes belong to whoever has the lock; a caller awaits the lock, its writes, its read and the
child's end, and may be dropped at any of these points. -/
namespace Gateway.Agent.Handoff
open Data

/-- The errors of an exchange and of a control. -/
inductive HandoffError where
  | unavailable | rejected | protocol

def maxWireBytes : Nat := 4 * 1024

/-- What the JSON library makes of requests and responses. -/
structure Wire (Value : Type) where
  decode : List UInt8 → Option Value
  okField : Value → Option Bool
  isResponse : Value → Bool
  parseRuntimeStatus : Value → Except HandoffError Value
  statusRequest : Line

/-! ### Callers -/

/-- What a caller waits for: an exchange of a request that is not too long, or the end of the
runtime. -/
inductive HandoffCall where
  | exchangeValue (request : Line)
  | fault

abbrev HandoffCall.Reply (Value : Type) : HandoffCall → Type
  | .exchangeValue _ => Except HandoffError Value
  | .fault => Unit

abbrev HandoffTask (Value α : Type) : Type :=
  ExceptT HandoffError (Program HandoffCall (HandoffCall.Reply Value)) α

section Callers
variable {Value : Type}

def exchangeValue (request : Line) : HandoffTask Value Value :=
  if request.bytes.length + 1 > maxWireBytes then throw .protocol
  else ExceptT.mk (Program.ask (HandoffCall.exchangeValue request))

def fault : HandoffTask Value Unit :=
  ExceptT.mk do
    Program.ask HandoffCall.fault
    return .ok ()

variable (wire : Wire Value)

def exchange (request : Line) : HandoffTask Value Value := do
  let value ← exchangeValue request
  if wire.isResponse value then return value
  else do
    fault
    throw .protocol

def status : HandoffTask Value Value := do
  let value ← exchangeValue wire.statusRequest
  ExceptT.mk (pure (wire.parseRuntimeStatus value))

/-- The request is what a control is on the wire, if it has a form there. -/
def control (request : Except HandoffError Line) : HandoffTask Value Value := do
  let request ← ExceptT.mk (pure request)
  let value ← exchangeValue request
  match wire.okField value with
  | some true => status wire
  | some false => throw .rejected
  | none => do
    fault
    throw .protocol

end Callers

inductive HandoffJob where
  | exchange (request : Line)
  | status
  | control (request : Except HandoffError Line)

def HandoffJob.task {Value : Type} (wire : Wire Value) : HandoffJob → HandoffTask Value Value
  | .exchange request => Handoff.exchange wire request
  | .status => Handoff.status wire
  | .control request => Handoff.control wire request

/-! ### The runtime -/

/-- Where the caller that has the lock stands. A request's line is counted from the first one the
child was sent. -/
inductive Phase where
  | writing (request : Line) (rest : List UInt8)
  | flushing (request : Line) (line : Nat)
  | reading (request : Line) (line : Nat) (got : List UInt8)
  | stopping (error : HandoffError)
  | faulting

/-- Something of a request has been written. -/
def Phase.begun : Phase → Bool
  | .writing request rest => rest.length < request.sent.length
  | _ => true

/-- What is found when the child is asked whether it has exited. -/
inductive ChildCheck where
  | running | exited | unknown

abbrev Plan (Value : Type) : Type :=
  Program HandoffCall (HandoffCall.Reply Value) (Except HandoffError Value)

/-- The pipes, the flag, the lock and the callers, of which those dropped are gone. Beside them is
what the child was asked and answered, in order, what exchanges returned, newest first, with the
line of their request, and whether an exchange has failed or was given up after its request was
written. A status whose response does not parse is not counted as failed. -/
structure ManagedHandoff (Value : Type) where
  toChild : List UInt8
  fromChild : List UInt8
  faulted : Bool
  active : Option (Nat × Phase)
  callers : List (Option (Plan Value))
  answers : List (List UInt8 × Line)
  returned : List (Nat × Line × Value)
  broken : Bool

inductive HandoffEvent where
  | arrive (job : HandoffJob)
  | acquire (caller : Nat) (found : ChildCheck)
  | write (count : Nat)
  | flush
  | read (count : Nat)
  | eof | fails | stopped
  | drop (caller : Nat)
  | answer (response : Line)

namespace ManagedHandoff
variable {Value : Type}

def start : ManagedHandoff Value :=
  ⟨[], [], false, none, [], [], [], false⟩

variable (s : ManagedHandoff Value)

/-- The exchange a caller waits for is over. -/
def reply (caller : Nat) (result : Except HandoffError Value) : ManagedHandoff Value :=
  match s.callers[caller]? with
  | some (some (.call (.exchangeValue _) next)) =>
    {s with active := none, callers := s.callers.set caller (some (next result))}
  | _ => {s with active := none}

/-- The fault a caller waits for is over. -/
def replyFault (caller : Nat) : ManagedHandoff Value :=
  match s.callers[caller]? with
  | some (some (.call .fault next)) =>
    {s with active := none, callers := s.callers.set caller (some (next ()))}
  | _ => {s with active := none}

/-- An exchange under way fails: the flag is set before anything is awaited. -/
def fail (caller : Nat) (error : HandoffError) : ManagedHandoff Value :=
  {s with faulted := true, active := some (caller, .stopping error), broken := true}

/-- A caller gets the lock. -/
def acquire (caller : Nat) (found : ChildCheck) : ManagedHandoff Value :=
  match s.active, s.callers[caller]? with
  | none, some (some (.call (.exchangeValue request) _)) =>
    if s.faulted then s.reply caller (.error .unavailable)
    else match found with
      | .exited => {s with faulted := true}.reply caller (.error .unavailable)
      | .unknown => {s with faulted := true, active := some (caller, .stopping .unavailable)}
      | .running => {s with active := some (caller, .writing request request.sent)}
  | none, some (some (.call .fault _)) =>
    if s.faulted then s.replyFault caller
    else {s with faulted := true, active := some (caller, .faulting), broken := true}
  | _, _ => s

/-- How many request lines the child has been sent. -/
def linesSent : Nat :=
  s.answers.length + s.toChild.count newline

/-- Some of what is left to write goes into the pipe. -/
def write (count : Nat) : ManagedHandoff Value :=
  match s.active with
  | some (caller, .writing request rest) =>
    let left := rest.drop (count + 1)
    {s with
      toChild := s.toChild ++ rest.take (count + 1)
      active := some (caller,
        if left = [] then .flushing request s.linesSent else .writing request left)}
  | _ => s

def flush : ManagedHandoff Value :=
  match s.active with
  | some (caller, .flushing request line) =>
    {s with active := some (caller, .reading request line [])}
  | _ => s

/-- A line has been read to its end. -/
def respond (wire : Wire Value) (s : ManagedHandoff Value) (caller : Nat) (request : Line)
    (line : Nat) (response : List UInt8) : ManagedHandoff Value :=
  if response.length > maxWireBytes then s.fail caller .protocol
  else match wire.decode response.dropLast with
    | none => s.fail caller .protocol
    | some value => {s with returned := (line, request, value) :: s.returned}.reply caller (.ok value)

/-- Some of what the child has written is read, a line end at most. -/
def read (wire : Wire Value) (s : ManagedHandoff Value) (count : Nat) : ManagedHandoff Value :=
  match s.active with
  | some (caller, .reading request line got) =>
    let piece := uptoNewline (s.fromChild.take (count + 1))
    let s := {s with fromChild := s.fromChild.drop piece.length}
    if newline ∈ piece then s.respond wire caller request line (got ++ piece)
    else {s with active := some (caller, .reading request line (got ++ piece))}
  | _ => s

/-- The child's output ends. -/
def eof : ManagedHandoff Value :=
  match s.active with
  | some (caller, .reading _ _ got) => s.fail caller (if got = [] then .unavailable else .protocol)
  | _ => s

/-- A write, the flush or the read fails, or time is up. -/
def fails : ManagedHandoff Value :=
  match s.active with
  | some (caller, .writing _ _) | some (caller, .flushing _ _) | some (caller, .reading _ _ _) =>
    s.fail caller .unavailable
  | _ => s

/-- The child has been seen off. -/
def stopped : ManagedHandoff Value :=
  match s.active with
  | some (caller, .stopping error) => s.reply caller (.error error)
  | some (caller, .faulting) => s.replyFault caller
  | _ => s

/-- A caller is after the exchange that it wants to end the runtime for. -/
def afterExchange (caller : Nat) : Bool :=
  match s.callers[caller]? with
  | some (some (.call .fault _)) => true
  | _ => false

/-- A caller is dropped, and its lock with it. -/
def drop (caller : Nat) : ManagedHandoff Value :=
  let holds := s.active.filter fun entry => entry.1 = caller
  {s with
    active := s.active.filter fun entry => entry.1 ≠ caller
    callers := s.callers.set caller none
    broken := s.broken || holds.any (fun entry => entry.2.begun) || s.afterExchange caller}

/-- The child answers the first line it has not answered. -/
def answer (response : Line) : ManagedHandoff Value :=
  match splitLine s.toChild with
  | none => s
  | some (line, rest) =>
    {s with
      toChild := rest
      fromChild := s.fromChild ++ response.sent
      answers := s.answers ++ [(line, response)]}

def next (wire : Wire Value) (s : ManagedHandoff Value) : HandoffEvent → ManagedHandoff Value
  | .arrive job => {s with callers := s.callers ++ [some (job.task wire).run]}
  | .acquire caller found => s.acquire caller found
  | .write count => s.write count
  | .flush => s.flush
  | .read count => s.read wire count
  | .eof => s.eof
  | .fails => s.fails
  | .stopped => s.stopped
  | .drop caller => s.drop caller
  | .answer response => s.answer response

end ManagedHandoff

end Gateway.Agent.Handoff
