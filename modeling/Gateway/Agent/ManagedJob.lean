import Gateway.Carrier.Result
import Gateway.Data.Minting
import Gateway.Data.Program

/-! Managed jobs.

A job has a record and a process, each under its own lock, and is listed in a table under
another. Every function is a task of critical sections; what happens between two of them is up to
the other threads. No thread panics, so no lock is poisoned. -/
namespace Gateway.Carrier.ManagedJobState

def isTerminal : ManagedJobState → Bool
  | .completed | .stopped | .expired | .indeterminateTermination => true
  | _ => false

end Gateway.Carrier.ManagedJobState

namespace Gateway.Agent
open Data Carrier

/-- Times are in milliseconds. -/
structure ManagedJobLimits where
  maxConcurrentJobs : Nat
  defaultLease : Nat
  maxLease : Nat
  maxHardLifetime : Nat
  outputBytesPerStream : Nat
  maxOutputReadBytes : Nat
  maxRetainedJobs : Nat
  terminalRetention : Nat
  pollInterval : Nat
  stopProofGrace : Nat

def ManagedJobLimits.default : ManagedJobLimits where
  maxConcurrentJobs := 4
  defaultLease := 120000
  maxLease := 300000
  maxHardLifetime := 6 * 60 * 60 * 1000
  outputBytesPerStream := 4 * 1024 * 1024
  maxOutputReadBytes := 64 * 1024
  maxRetainedJobs := 16
  terminalRetention := 5 * 60 * 1000
  pollInterval := 10
  stopProofGrace := 5000

inductive ProcessUnprovenStage where
  | pipeSetup | readerSetup | poll | termination | wait | worker
  deriving DecidableEq

/-- The errors of a process, of which only those that leave its end open matter here. -/
inductive ProcessFailure where
  | outcomeUnproven (stage : ProcessUnprovenStage)
  | other
  deriving DecidableEq

inductive ManagedJobError where
  | invalidLimits | invalidLifetime | invalidLease | invalidRead | capacityExceeded | unknownJob
  | terminalJob | threadSpawn
  | process (failure : ProcessFailure)
  deriving DecidableEq

/-! ### Records -/

structure RollingBuffer where
  bytes : List UInt8
  capacity : Nat
  earliestOffset : Nat
  totalBytes : Nat
  closed : Bool

namespace RollingBuffer

def new (capacity : Nat) : RollingBuffer :=
  ⟨[], capacity, 0, 0, false⟩

/-- Offsets stop at the largest one there is. -/
def saturate (offset : Nat) : Nat :=
  min offset (2 ^ 64 - 1)

def append (buffer : RollingBuffer) (input : List UInt8) : RollingBuffer :=
  let all := buffer.bytes ++ input
  let excess := all.length - buffer.capacity
  {buffer with
    bytes := all.drop excess
    earliestOffset := saturate (buffer.earliestOffset + excess)
    totalBytes := saturate (buffer.totalBytes + input.length)}

def close (buffer : RollingBuffer) : RollingBuffer :=
  {buffer with closed := true}

def read (buffer : RollingBuffer) (requestedOffset maxBytes : Nat) : ManagedJobOutputRange :=
  let start := min (max requestedOffset buffer.earliestOffset) buffer.totalBytes
  let taken := min (buffer.totalBytes - start) maxBytes
  let bytes := (buffer.bytes.drop (start - buffer.earliestOffset)).take taken
  let nextOffset := saturate (start + bytes.length)
  { bytes
    requestedOffset
    earliestAvailableOffset := buffer.earliestOffset
    nextOffset
    totalBytes := buffer.totalBytes
    eof := buffer.closed && buffer.totalBytes ≤ nextOffset
    gapBeforeRange := requestedOffset < buffer.earliestOffset
    historyTruncated := 0 < buffer.earliestOffset }

end RollingBuffer

inductive StopReason where
  | user | leaseExpired | hardExpired | shutdown

structure JobRecord where
  state : ManagedJobState
  exitCode : Option Int
  hardDeadline : Nat
  leaseDeadline : Nat
  stopReason : Option StopReason
  terminalAt : Option Nat
  stdout : RollingBuffer
  stderr : RollingBuffer

/-- What a thread finds that waits for a job's end until a deadline. -/
inductive Awaited where
  | terminal (status : ManagedJobStatus)
  | late
  | pending
  deriving DecidableEq

/-- What a supervisor does next. -/
inductive Decision where
  | finished
  | stop (reason : StopReason)
  | goOn

namespace JobRecord

def new (limits : ManagedJobLimits) (now hardLifetime : Nat) : JobRecord where
  state := .starting
  exitCode := none
  hardDeadline := now + hardLifetime
  leaseDeadline := min (now + limits.defaultLease) (now + hardLifetime)
  stopReason := none
  terminalAt := none
  stdout := .new limits.outputBytesPerStream
  stderr := .new limits.outputBytesPerStream

def status (now : Nat) (record : JobRecord) : ManagedJobStatus where
  state := record.state
  exitCode := record.exitCode
  leaseRemainingMs := record.leaseDeadline - now
  hardLifetimeRemainingMs := record.hardDeadline - now
  stdoutTotalBytes := record.stdout.totalBytes
  stderrTotalBytes := record.stderr.totalBytes

/-- A stop is asked for, whatever state the job is in. -/
def stopFor (reason : StopReason) (record : JobRecord) : JobRecord :=
  {record with state := .stopRequested, stopReason := some reason}

/-- The job's end is not known. -/
def giveUp (now : Nat) (record : JobRecord) : JobRecord :=
  {record with state := .indeterminateTermination, terminalAt := some now}

def renew (now requested : Nat) (record : JobRecord) :
    Except ManagedJobError ManagedJobStatus × JobRecord :=
  if record.state.isTerminal then (.error .terminalJob, record)
  else if record.hardDeadline ≤ now then (.error .terminalJob, record.stopFor .hardExpired)
  else
    let renewed := {record with leaseDeadline := min (now + requested) record.hardDeadline}
    (.ok (renewed.status now), renewed)

/-- A stop is asked for unless the job has ended, and the status is returned if it has. -/
def requestStop (reason : StopReason) (now : Nat) (record : JobRecord) :
    Option ManagedJobStatus × JobRecord :=
  if record.state.isTerminal then (some (record.status now), record)
  else (none, record.stopFor reason)

/-- One look at a job that is waited for. -/
def await (now deadline : Nat) (record : JobRecord) : Awaited × JobRecord :=
  if record.state.isTerminal then (.terminal (record.status now), record)
  else if deadline ≤ now then (.late, record.giveUp now)
  else (.pending, record)

/-- One turn of a supervisor. -/
def decide (now : Nat) (record : JobRecord) : Decision × JobRecord :=
  if record.state.isTerminal then (.finished, record)
  else if record.hardDeadline ≤ now then (.stop .hardExpired, record.stopFor .hardExpired)
  else if record.leaseDeadline ≤ now then (.stop .leaseExpired, record.stopFor .leaseExpired)
  else if record.state = .stopRequested then
    (.stop (record.stopReason.getD .user), record)
  else (.goOn, record)

/-- The end of a process as it was proved, if it was. -/
def conclude (now : Nat) (proved : ManagedJobState) (proof : Option (Option Int))
    (record : JobRecord) : JobRecord :=
  if record.state = .indeterminateTermination then record
  else match proof with
    | some exitCode => {record with state := proved, exitCode, terminalAt := some now}
    | none => record.giveUp now

def stoppedState : StopReason → ManagedJobState
  | .leaseExpired | .hardExpired => .expired
  | .user | .shutdown => .stopped

def onStream (stdout : Bool) (f : RollingBuffer → RollingBuffer) (record : JobRecord) :
    JobRecord :=
  if stdout then {record with stdout := f record.stdout} else {record with stderr := f record.stderr}

end JobRecord

/-! ### The manager -/

/-- The thread that decides over a job: the one that starts it, then its supervisor. -/
inductive JobThread where
  | starting (thread : Nat)
  | spawned
  | supervised (thread : Nat)
  deriving DecidableEq

/-- A job, beside it whether its process was proved to have ended and the states its record has
had, newest first. -/
structure Job where
  record : JobRecord
  thread : JobThread
  proven : Bool
  history : List ManagedJobState

/-- What is done with a record under its lock. -/
inductive RecordOp where
  | load
  | status
  | output (stdout : Bool) (offset maxBytes : Nat)
  | run
  | renew (requested : Nat)
  | requestStop (reason : StopReason)
  | await (deadline : Nat)
  | condemn
  | decide
  | settle (reason : StopReason) (proof : Option (Option Int))
  | complete (proof : Option (Option Int))
  | append (stdout : Bool) (bytes : List UInt8)
  | close (stdout : Bool)

namespace RecordOp

abbrev Reply : RecordOp → Type
  | .load => Option JobRecord
  | .status | .requestStop _ => Option ManagedJobStatus
  | .output _ _ _ => Option ManagedJobOutputRange
  | .renew _ => Except ManagedJobError ManagedJobStatus
  | .await _ => Awaited
  | .decide => Decision
  | _ => Unit

/-- The answer where there is no such job. -/
def absent : (op : RecordOp) → op.Reply
  | .load | .status | .output _ _ _ | .requestStop _ => none
  | .renew _ => .error .unknownJob
  | .await _ => .pending
  | .decide => .finished
  | .run | .condemn | .settle _ _ | .complete _ | .append _ _ | .close _ => ()

def apply (now : Nat) (record : JobRecord) : (op : RecordOp) → op.Reply × JobRecord
  | .load => (some record, record)
  | .status => (some (record.status now), record)
  | .output stdout offset maxBytes =>
    (some ((if stdout then record.stdout else record.stderr).read offset maxBytes), record)
  -- A job that starts is marked without a look at what it is marked as.
  | .run => ((), {record with state := .running})
  | .renew requested => record.renew now requested
  | .requestStop reason => record.requestStop reason now
  | .await deadline => record.await now deadline
  | .condemn => ((), record.giveUp now)
  | .decide => record.decide now
  | .settle reason proof => ((), record.conclude now (JobRecord.stoppedState reason) proof)
  | .complete proof => ((), record.conclude now .completed proof)
  | .append stdout bytes => ((), record.onStream stdout (·.append bytes))
  | .close stdout => ((), record.onStream stdout (·.close))

end RecordOp

/-- What `try_wait` tells of a process. -/
inductive Poll where
  | running
  | exited (code : Option Int)
  | failed

inductive JobCall where
  | lockGate | unlockGate | lockJobs | unlockJobs | clock | entries
  | lookup (locator : String)
  | draw
  | insert (locator : String) (job : Nat)
  | remove (locator : String)
  | discard (locator : String)
  | spawnProcess (hardLifetime : Nat)
  | spawnReader
  | spawnSupervisor (job : Nat)
  | takeThread (job : Nat)
  | proveTerminal (job : Nat)
  | tryWait (job : Nat)
  | record (job : Nat) (op : RecordOp)
  | passed (deadline : Nat) (spared : Bool)
  | tick (millis : Nat)

abbrev JobCall.Reply : JobCall → Type
  | .clock => Nat
  | .entries => List (String × Nat)
  | .lookup _ => Option Nat
  | .draw => Option String
  | .spawnProcess _ => Except ProcessFailure Nat
  | .spawnReader | .spawnSupervisor _ | .passed _ _ => Bool
  | .proveTerminal _ => Option (Option Int)
  | .tryWait _ => Poll
  | .record _ op => op.Reply
  | _ => Unit

/-- What is not up to the manager: whether a call succeeds, what a process comes to, and which
locators are drawn. -/
structure JobFate where
  ok : Bool
  code : Option Int
  poll : Poll
  failure : ProcessFailure
  names : List String

/-- The clock, the two locks of the manager, the table and every job there has been. Beside them
are the jobs that pruning took out of the table, and the states they were in. -/
structure JobWorld where
  now : Nat
  gate : Option Nat
  lock : Option Nat
  table : Table Nat
  jobs : List Job
  pruned : List (Nat × ManagedJobState)

namespace JobWorld

def start : JobWorld :=
  ⟨0, none, none, ∅, [], []⟩

def update (w : JobWorld) (job : Nat) (f : Job → Job) : JobWorld :=
  {w with jobs := w.jobs.modify job f}

/-- A listed job and its state. -/
def listed (w : JobWorld) (locator : String) : Option (Nat × ManagedJobState) :=
  w.table[locator]?.bind fun job => w.jobs[job]?.map fun j => (job, j.record.state)

/-- What pruning takes out is noted with its state. -/
def discard (w : JobWorld) (locator : String) : JobWorld :=
  {w with table := w.table.erase locator, pruned := (w.listed locator).toList ++ w.pruned}

def recordOp (w : JobWorld) (job : Nat) (op : RecordOp) : op.Reply × JobWorld :=
  match w.jobs[job]? with
  | none => (op.absent, w)
  | some j =>
    let answer := op.apply w.now j.record
    (answer.1, w.update job fun j =>
      {j with record := answer.2, history := answer.2.state :: j.history})

def perform (limits : ManagedJobLimits) (w : JobWorld) (me : Nat) :
    (c : JobCall) → JobFate → c.Reply × JobWorld
  | .lockGate, _ => ((), {w with gate := some me})
  | .unlockGate, _ => ((), {w with gate := none})
  | .lockJobs, _ => ((), {w with lock := some me})
  | .unlockJobs, _ => ((), {w with lock := none})
  | .clock, _ => (w.now, w)
  | .entries, _ => (w.table.toList, w)
  | .lookup locator, _ => (w.table[locator]?, w)
  | .draw, fate => (w.table.firstUnused 8 fate.names, w)
  | .insert locator job, _ => ((), {w with table := w.table.insert locator job})
  | .remove locator, _ => ((), {w with table := w.table.erase locator})
  | .discard locator, _ => ((), w.discard locator)
  | .spawnProcess hardLifetime, fate =>
    if fate.ok then
      (.ok w.jobs.length, {w with jobs := w.jobs ++
        [⟨.new limits w.now hardLifetime, .starting me, false, [.starting]⟩]})
    else (.error fate.failure, w)
  | .spawnReader, fate => (fate.ok, w)
  | .spawnSupervisor job, fate =>
    (fate.ok, if fate.ok then w.update job fun j => {j with thread := .spawned} else w)
  | .takeThread job, _ => ((), w.update job fun j => {j with thread := .supervised me})
  | .proveTerminal job, fate =>
    if fate.ok then (some fate.code, w.update job fun j => {j with proven := true}) else (none, w)
  | .tryWait _, fate => (fate.poll, w)
  | .record job op, _ => w.recordOp job op
  | .passed deadline _, _ => (deadline ≤ w.now, w)
  | .tick millis, _ => ((), {w with now := w.now + millis})

/-- A lock is waited for, and a supervisor begins when it has been spawned. -/
def ready (w : JobWorld) : JobCall → Bool
  | .lockGate => w.gate.isNone
  | .lockJobs => w.lock.isNone
  | .takeThread job => w.jobs[job]?.any fun j => j.thread = .spawned
  | _ => true

end JobWorld

def jobHost (limits : ManagedJobLimits) : Host JobCall JobCall.Reply JobWorld JobFate where
  perform w me c fate := w.perform limits me c fate
  ready w _ c := w.ready c

/-! ### The functions -/

abbrev JobTask (α : Type) : Type :=
  ExceptT ManagedJobError (Program JobCall JobCall.Reply) α

namespace JobTask

/-- A call, with its answer as it is. -/
def reply (c : JobCall) : JobTask c.Reply :=
  ExceptT.mk do
    let answer ← Program.ask c
    return .ok answer

def ofResult {α : Type} (result : Except ManagedJobError α) : JobTask α :=
  ExceptT.mk (pure result)

/-- A task whose error is looked at. -/
def attempt {α : Type} (task : JobTask α) : JobTask (Except ManagedJobError α) :=
  ExceptT.mk do
    return .ok (← task.run)

end JobTask

open JobTask

namespace ManagedJobManager
variable (limits : ManagedJobLimits)

/-- Entries whose retention is over leave the table. -/
def retainRecent (now : Nat) : List (String × Nat) → JobTask Unit
  | [] => pure ()
  | (locator, job) :: rest => do
    let record ← reply (.record job .load)
    match record.bind (·.terminalAt) with
    | none => pure ()
    | some terminalAt =>
      if now - terminalAt < limits.terminalRetention then pure () else reply (.discard locator)
    retainRecent now rest

/-- The terminal entries, with the time of their end. -/
def collectTerminal : List (String × Nat) → JobTask (List (String × Nat))
  | [] => pure []
  | (locator, job) :: rest => do
    let record ← reply (.record job .load)
    let others ← collectTerminal rest
    match record.bind (·.terminalAt) with
    | none => return others
    | some terminalAt => return (locator, terminalAt) :: others

def discardAll : List String → JobTask Unit
  | [] => pure ()
  | locator :: rest => do
    reply (.discard locator)
    discardAll rest

/-- The oldest of the terminal entries that are too many. -/
def oldest (terminal : List (String × Nat)) : List String :=
  ((terminal.mergeSort fun a b => a.2 ≤ b.2).take (terminal.length - limits.maxRetainedJobs)).map
    Prod.fst

def pruneTerminal : JobTask Unit := do
  let now ← reply .clock
  reply .lockJobs
  retainRecent limits now (← reply .entries)
  let terminal ← collectTerminal (← reply .entries)
  discardAll (oldest limits terminal)
  reply .unlockJobs

variable (locator : String)

def lookup : JobTask Nat := do
  reply .lockJobs
  let found ← reply (.lookup locator)
  reply .unlockJobs
  match found with
  | some job => return job
  | none => throw .unknownJob

def status : JobTask ManagedJobStatus := do
  pruneTerminal limits
  let job ← lookup locator
  match ← reply (.record job .status) with
  | some status => return status
  | none => throw .unknownJob

def output (stdout : Bool) (offset maxBytes : Nat) : JobTask ManagedJobOutputRange := do
  if maxBytes = 0 ∨ limits.maxOutputReadBytes < maxBytes then throw .invalidRead
  else do
    pruneTerminal limits
    let job ← lookup locator
    match ← reply (.record job (.output stdout offset maxBytes)) with
    | some range => return range
    | none => throw .unknownJob

def renew (leaseMs : Nat) : JobTask ManagedJobStatus := do
  if leaseMs = 0 ∨ limits.maxLease < leaseMs then throw .invalidLease
  else do
    pruneTerminal limits
    let job ← lookup locator
    ofResult (← reply (.record job (.renew leaseMs)))

def requestStop : JobTask Unit := do
  pruneTerminal limits
  let job ← lookup locator
  let _ ← reply (.record job (.requestStop .user))

/-- What a wait has come to after some turns: nothing yet, or its result. -/
def waitForTerminal (job deadline : Nat) : Nat → JobTask (Option ManagedJobStatus)
  | 0 => return none
  | turns + 1 => do
    match ← reply (.record job (.await deadline)) with
    | .terminal status => return some status
    | .late => throw (.process (.outcomeUnproven .wait))
    | .pending => waitForTerminal job deadline turns

def stop (turns : Nat) : JobTask (Option ManagedJobStatus) := do
  pruneTerminal limits
  let job ← lookup locator
  match ← reply (.record job (.requestStop .user)) with
  | some status => return some status
  | none => do
    let now ← reply .clock
    waitForTerminal job (now + limits.stopProofGrace) turns

/-- What a look at the jobs of a shutdown has found: some are pending, some are indeterminate, and
some of those pending were left as they are. -/
structure PassState where
  pending : Bool
  indeterminate : Bool
  spared : Bool

def PassState.observe (pass : PassState) : Awaited → PassState
  | .terminal status =>
    if status.state = .indeterminateTermination then {pass with indeterminate := true} else pass
  | .late => {pass with pending := true, indeterminate := true}
  | .pending => {pass with pending := true, spared := true}

def shutdownPass (deadline : Nat) (pass : PassState) : List Nat → JobTask PassState
  | [] => return pass
  | job :: rest => do
    let found ← reply (.record job (.await deadline))
    shutdownPass deadline (pass.observe found) rest

/-- The loop of a shutdown: whether some job is indeterminate, if it has come to an end. -/
def shutdownWait (deadline : Nat) (jobs : List Nat) (indeterminate : Bool) :
    Nat → JobTask (Option Bool)
  | 0 => return none
  | passes + 1 => do
    let pass ← shutdownPass deadline ⟨false, indeterminate, false⟩ jobs
    if !pass.pending then return some pass.indeterminate
    else if ← reply (.passed deadline pass.spared) then return some pass.indeterminate
    else shutdownWait deadline jobs pass.indeterminate passes

def requestShutdown : List Nat → JobTask Unit
  | [] => pure ()
  | job :: rest => do
    let _ ← reply (.record job (.requestStop .shutdown))
    requestShutdown rest

/-- The jobs a shutdown is about, and what it returns if it does. -/
def shutdownAll (passes : Nat) : JobTask (List Nat × Option (Except ManagedJobError Unit)) := do
  reply .lockJobs
  let entries ← reply .entries
  reply .unlockJobs
  let jobs := entries.map Prod.snd
  requestShutdown jobs
  let now ← reply .clock
  match ← shutdownWait (now + limits.stopProofGrace) jobs false passes with
  | none => return (jobs, none)
  | some true => return (jobs, some (.error (.process (.outcomeUnproven .wait))))
  | some false => return (jobs, some (.ok ()))

def findIndeterminate : List Nat → JobTask Bool
  | [] => return false
  | job :: rest => do
    match ← reply (.record job .load) with
    | some record =>
      if record.state = .indeterminateTermination then return true else findIndeterminate rest
    | none => findIndeterminate rest

def hasIndeterminateTermination : JobTask Bool := do
  reply .lockJobs
  let found ← findIndeterminate ((← reply .entries).map Prod.snd)
  reply .unlockJobs
  return found

def failStartCleanup (job : Nat) : JobTask Unit := do
  match ← reply (.proveTerminal job) with
  | some _ => do
    reply .lockJobs
    reply (.remove locator)
    reply .unlockJobs
  | none => do
    reply (.record job .condemn)
    throw (.process (.outcomeUnproven .termination))

def countActive (active : Nat) : List Nat → JobTask Nat
  | [] => return active
  | job :: rest => do
    match ← reply (.record job .load) with
    | some record => countActive (if record.state.isTerminal then active else active + 1) rest
    | none => countActive active rest

/-- What `start` does with a locator that was free: the process, the table, the threads. -/
def launch (hardLifetime : Nat) : JobTask (String × ManagedJobStatus) := do
  let job ← ofResult ((← reply (.spawnProcess hardLifetime)).mapError .process)
  reply .lockJobs
  if (← reply (.lookup locator)).isSome then do
    reply .unlockJobs
    match ← reply (.proveTerminal job) with
    | some _ => throw .capacityExceeded
    | none => throw (.process (.outcomeUnproven .termination))
  else do
    reply (.insert locator job)
    reply .unlockJobs
    let stdout ← reply .spawnReader
    let stderr ← if stdout then reply .spawnReader else pure false
    if !stderr then do
      failStartCleanup locator job
      throw .threadSpawn
    else do
      reply (.record job .run)
      if !(← reply (.spawnSupervisor job)) then do
        failStartCleanup locator job
        throw .threadSpawn
      else return (locator, ← status limits locator)

def startGated (timeoutMs : Nat) : JobTask (String × ManagedJobStatus) := do
  if timeoutMs = 0 ∨ limits.maxHardLifetime < timeoutMs then throw .invalidLifetime
  else do
    pruneTerminal limits
    reply .lockJobs
    let active ← countActive 0 ((← reply .entries).map Prod.snd)
    reply .unlockJobs
    if limits.maxConcurrentJobs ≤ active then throw .capacityExceeded
    else do
      reply .lockJobs
      let drawn ← reply .draw
      reply .unlockJobs
      match drawn with
      | none => throw .capacityExceeded
      | some locator => launch limits locator timeoutMs

def start (timeoutMs : Nat) : JobTask (String × ManagedJobStatus) := do
  reply .lockGate
  let result ← attempt (startGated limits timeoutMs)
  reply .unlockGate
  ofResult result

/-- A supervisor for some turns. -/
def superviseTurns (job : Nat) : Nat → JobTask Unit
  | 0 => pure ()
  | turns + 1 => do
    match ← reply (.record job .decide) with
    | .finished => pure ()
    | .stop reason => do
      let proof ← reply (.proveTerminal job)
      reply (.record job (.settle reason proof))
    | .goOn => do
      match ← reply (.tryWait job) with
      | .exited code => do
        let proof ← reply (.proveTerminal job)
        reply (.record job (.complete (proof.map fun _ => code)))
      | .running => superviseTurns job turns
      | .failed => do
        let proof ← reply (.proveTerminal job)
        reply (.record job (.complete proof))

def superviseJob (job turns : Nat) : JobTask Unit := do
  reply (.takeThread job)
  superviseTurns job turns

/-- A reader, with the pieces it reads. -/
def readStream (job : Nat) (stdout : Bool) : List (List UInt8) → JobTask Unit
  | [] => reply (.record job (.close stdout))
  | piece :: rest => do
    reply (.record job (.append stdout piece))
    readStream job stdout rest

end ManagedJobManager

/-! ### Threads -/

inductive JobJob where
  | start (timeoutMs : Nat)
  | status (locator : String)
  | output (locator : String) (stdout : Bool) (offset maxBytes : Nat)
  | renew (locator : String) (leaseMs : Nat)
  | requestStop (locator : String)
  | stop (locator : String) (turns : Nat)
  | shutdownAll (passes : Nat)
  | hasIndeterminateTermination
  | supervisor (job turns : Nat)
  | reader (job : Nat) (stdout : Bool) (pieces : List (List UInt8))
  | clock (millis : Nat)
  deriving DecidableEq

inductive JobAnswer where
  | started (locator : String) (status : ManagedJobStatus)
  | status (status : ManagedJobStatus)
  | output (range : ManagedJobOutputRange)
  | shutdown (jobs : List Nat) (result : Except ManagedJobError Unit)
  | indeterminate (found : Bool)
  | none
  deriving DecidableEq

def JobJob.task (limits : ManagedJobLimits) : JobJob → JobTask JobAnswer
  | .start timeoutMs => do
    let started ← ManagedJobManager.start limits timeoutMs
    return .started started.1 started.2
  | .status locator => return .status (← ManagedJobManager.status limits locator)
  | .output locator stdout offset maxBytes =>
    return .output (← ManagedJobManager.output limits locator stdout offset maxBytes)
  | .renew locator leaseMs => return .status (← ManagedJobManager.renew limits locator leaseMs)
  | .requestStop locator => do
    ManagedJobManager.requestStop limits locator
    return .none
  | .stop locator turns => do
    match ← ManagedJobManager.stop limits locator turns with
    | some ended => return .status ended
    | none => return .none
  | .shutdownAll passes => do
    match ← ManagedJobManager.shutdownAll limits passes with
    | (jobs, some result) => return .shutdown jobs result
    | (_, none) => return .none
  | .hasIndeterminateTermination =>
    return .indeterminate (← ManagedJobManager.hasIndeterminateTermination)
  | .supervisor job turns => do
    ManagedJobManager.superviseJob job turns
    return .none
  | .reader job stdout pieces => do
    ManagedJobManager.readStream job stdout pieces
    return .none
  | .clock millis => do
    reply (.tick millis)
    return .none

abbrev JobPool : Type :=
  Pool JobCall JobCall.Reply JobWorld JobJob (Except ManagedJobError JobAnswer)

abbrev JobEvent : Type :=
  Pool.Event JobJob JobFate

def JobPool.next (limits : ManagedJobLimits) : JobPool → JobEvent → JobPool :=
  Pool.next (jobHost limits) fun job => (job.task limits).run

end Gateway.Agent
