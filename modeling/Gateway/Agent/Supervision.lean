import Gateway.Data.Trace
import Gateway.Agent.Handler
import Gateway.Agent.ManagedJob
import Gateway.Agent.Process

/-! The supervision of a process, from its spawn to the word that it is over.

Every call to the system may fail, and a poll may find anything. A run of the supervisor is
the list of its calls with their answers; what the supervisor says of the process is held against
that list. -/
namespace Gateway.Agent
open Data Device Control Program Worker Program.Comes

/-! ### Errors -/

/-- An error of the system, by its number. -/
structure OsError where
  code : Int

inductive LinuxCgroupError where
  | unsupportedPlatform | rootMustBeCanonicalAbsolute | rootMustBeDedicated | notCgroupV2
  | notDomainCgroup | delegationUnavailable | delegationTooBroad | agentOutsideDelegatedRoot
  | mountLayoutUnsupported | namespaceIsolationUnavailable | backendPoisoned
  | io (error : OsError)

inductive ProcessError where
  | noAllowedWorkingDirectories | invalidPolicyLimit | invalidRequest | invalidProgram
  | shellProgramDenied | shellUnsupportedPlatform | tooManyArguments | tooManyEnvironmentEntries
  | invalidTimeout | workingDirectoryNotDirectory | workingDirectoryDenied | invalidEnvironment
  | environmentKeyDenied (key : String)
  | spawn (error : OsError)
  | pipeUnavailable
  | readerPanicked
  | io (error : OsError)
  | linuxCgroupUnavailable (error : LinuxCgroupError)
  | outcomeUnproven (stage : ProcessUnprovenStage)
  | execution (error : OsError)

inductive ShellError where
  | invalidCommand
  | commandTooLarge
  | process (error : ProcessError)

def ProcessError.outcomeUnprovenStage : ProcessError → Option ProcessUnprovenStage
  | .outcomeUnproven stage => some stage
  | _ => none

def ShellError.outcomeUnprovenStage : ShellError → Option ProcessUnprovenStage
  | .process error => error.outcomeUnprovenStage
  | _ => none

/-- The code a process error is told by. -/
def ProcessError.operationErrorCode : ProcessError → DeviceErrorCode
  | .outcomeUnproven _ => .backendOutcomeIndeterminate
  | .io _ => .ioFailure
  | .spawn _ => .processSpawnFailed
  | .environmentKeyDenied _ => .environmentKeyDenied
  | .invalidEnvironment => .invalidEnvironment
  | .tooManyEnvironmentEntries => .tooManyEnvironmentEntries
  | .workingDirectoryDenied => .workingDirectoryDenied
  | .workingDirectoryNotDirectory => .workingDirectoryInvalid
  | .invalidTimeout => .invalidTimeout
  | .invalidProgram => .invalidProgram
  | .shellProgramDenied => .programDenied
  | .tooManyArguments => .tooManyArguments
  | .invalidRequest => .invalidRequest
  | .noAllowedWorkingDirectories | .invalidPolicyLimit | .shellUnsupportedPlatform
  | .pipeUnavailable | .readerPanicked | .linuxCgroupUnavailable _ | .execution _ =>
    .internalFailure

def ShellError.operationErrorCode : ShellError → DeviceErrorCode
  | .invalidCommand | .commandTooLarge => .invalidRequest
  | .process error => error.operationErrorCode

/-! ### Calls -/

inductive Platform where
  | unix | windows | other
  deriving DecidableEq

structure ProcessLaunch where
  program : String
  args : List String
  windowsRawArg : Option String

/-- What is handed to the system: a later setting of a variable replaces an earlier one. -/
structure Command where
  program : String
  args : List String
  rawArg : Option String
  cwd : String
  env : List (String × String)

/-- The policy and the surroundings of a process executor. -/
structure ProcessExecutor where
  platform : Platform
  linuxCgroup : Bool
  inheritedEnvKeys : List String
  environment : String → Option String
  maxOutputBytesPerStream : Nat
  pollInterval : Nat

def ProcessExecutor.command (x : ProcessExecutor) (launch : ProcessLaunch) (cwd : String)
    (env : List (String × String)) : Command where
  program := launch.program
  args := launch.args
  rawArg := if x.platform = .windows then launch.windowsRawArg else none
  cwd := cwd
  env := x.inheritedEnvKeys.filterMap (fun key => (x.environment key).map (key, ·)) ++ env

structure ExitStatus where
  code : Option Int

/-- The clock is read at each poll, and once more for the duration. -/
inductive Reading where
  | poll
  | duration

inductive ProcessCall where
  | isCancelled
  | prepareOperation
  | configureCommand (command : Command)
  | spawn (command : Command)
  | spawnFailedCleanup
  | takePipe (stream : ProcessOutputStream)
  | spawnReader (stream : ProcessOutputStream) (inlineMax retainedMax : Nat)
  | elapsed (reading : Reading)
  | tryWait | startKill | wait | terminateAndProveEmpty
  | sleep (interval : Nat)
  | joinReader (stream : ProcessOutputStream)

/-- Times are in nanoseconds. -/
abbrev ProcessCall.Reply : ProcessCall → Type
  | .isCancelled | .takePipe _ => Bool
  | .prepareOperation | .configureCommand _ | .spawnFailedCleanup | .terminateAndProveEmpty =>
    Except LinuxCgroupError Unit
  | .spawn _ | .spawnReader _ _ _ | .startKill => Except OsError Unit
  | .elapsed _ => Nat
  | .tryWait => Except OsError (Option ExitStatus)
  | .wait => Except OsError ExitStatus
  | .sleep _ => Unit
  | .joinReader _ => Worker (Except ProcessError RetainedBytes)

abbrev ProcessTask (α : Type) : Type :=
  ExceptT ProcessError (Program ProcessCall ProcessCall.Reply) α

abbrev ProcessTrace : Type :=
  List (Answered ProcessCall ProcessCall.Reply)

namespace ProcessExecutor

def reply (c : ProcessCall) : ProcessTask c.Reply :=
  ExceptT.mk do
    let answer ← Program.ask c
    return .ok answer

variable (x : ProcessExecutor)

/-- The cgroup of the operation, where there is one. -/
def contain (command : Command) : ProcessTask Unit :=
  if x.linuxCgroup then do
    match ← reply .prepareOperation with
    | .error error => throw (.linuxCgroupUnavailable error)
    | .ok () =>
      match ← reply (.configureCommand command) with
      | .error error => throw (.linuxCgroupUnavailable error)
      | .ok () => return ()
  else pure ()

/-- A child that never came to be; its cgroup has to be cleaned up all the same. -/
def spawnFailed {α : Type} (x : ProcessExecutor) (error : OsError) : ProcessTask α :=
  if x.linuxCgroup then do
    match ← reply .spawnFailedCleanup with
    | .error _ => throw (.outcomeUnproven .termination)
    | .ok () => throw (.spawn error)
  else throw (.spawn error)

def waitForChild : ProcessTask ExitStatus := do
  match ← reply .wait with
  | .ok status => return status
  | .error _ => throw (.outcomeUnproven .wait)

/-- On Unix a kill can race with the natural exit, which the next poll then tells. -/
def proveProcessDomainTerminal (failureStage : ProcessUnprovenStage) : ProcessTask ExitStatus := do
  match ← reply .startKill with
  | .ok () => waitForChild
  | .error _ =>
    if x.platform = .unix then
      match ← reply .tryWait with
      | .ok (some status) => return status
      | _ => throw (.outcomeUnproven failureStage)
    else throw (.outcomeUnproven failureStage)

def proveExecutionDomainTerminal (failureStage : ProcessUnprovenStage) : ProcessTask ExitStatus :=
  if x.linuxCgroup then do
    match ← reply .terminateAndProveEmpty with
    | .error _ => throw (.outcomeUnproven failureStage)
    | .ok () => waitForChild
  else x.proveProcessDomainTerminal failureStage

/-- An error after the spawn is told once the process is over. -/
def abandon {α : Type} (x : ProcessExecutor) (stage : ProcessUnprovenStage)
    (error : ProcessError) : ProcessTask α := do
  let _ ← x.proveExecutionDomainTerminal stage
  throw error

/-- The pipes of the child and the threads that drain them. -/
def attachReaders (retainedMax : Nat) : ProcessTask Unit := do
  match ← reply (.takePipe .stdout) with
  | false => x.abandon .pipeSetup .pipeUnavailable
  | true =>
  match ← reply (.takePipe .stderr) with
  | false => x.abandon .pipeSetup .pipeUnavailable
  | true =>
  match ← reply (.spawnReader .stdout x.maxOutputBytesPerStream retainedMax) with
  | .error error => x.abandon .readerSetup (.io error)
  | .ok () =>
  match ← reply (.spawnReader .stderr x.maxOutputBytesPerStream retainedMax) with
  | .error error =>
    let _ ← x.proveExecutionDomainTerminal .readerSetup
    let _ ← reply (.joinReader .stdout)
    throw (.io error)
  | .ok () => return ()

/-- How the loop came to its end. -/
structure Stopped where
  status : ExitStatus
  timedOut : Bool
  cancelled : Bool

/-- The child has been found to be over: what is left of its group goes too. -/
def sweep : ProcessTask Unit :=
  if x.linuxCgroup then do
    match ← reply .terminateAndProveEmpty with
    | .error _ => throw (.outcomeUnproven .termination)
    | .ok () => return ()
  else do
    let _ ← reply .startKill
    return ()

/-- Poll until the child is over, its time is up or it is cancelled. Without a result the loop is
still going on after as many polls as are counted. -/
def poll (x : ProcessExecutor) (timeoutMs : Nat) : Nat → ProcessTask (Option Stopped)
  | 0 => pure none
  | polls + 1 => do
    match ← reply .isCancelled with
    | true =>
      let status ← x.proveExecutionDomainTerminal .termination
      return some ⟨status, false, true⟩
    | false =>
    let elapsed ← reply (.elapsed .poll)
    if timeoutMs * 1000000 ≤ elapsed then
      let status ← x.proveExecutionDomainTerminal .termination
      return some ⟨status, true, false⟩
    else
      match ← reply .tryWait with
      | .ok (some status) =>
        x.sweep
        return some ⟨status, false, false⟩
      | .error error => x.abandon .poll (.io error)
      | .ok none =>
        reply (.sleep x.pollInterval)
        x.poll timeoutMs polls

def joinReader (stream : ProcessOutputStream) : ProcessTask RetainedBytes := do
  match ← reply (.joinReader stream) with
  | .panicked => throw .readerPanicked
  | .returned (.error error) => throw error
  | .returned (.ok bytes) => return bytes

end ProcessExecutor

structure RetainedProcessOutput where
  bytes : List UInt8
  complete : Bool

structure CapturedProcessOutput where
  output : ProcessOutput
  stdoutRetained : Option RetainedProcessOutput
  stderrRetained : Option RetainedProcessOutput

/-- What the result shows only in part is kept beside it. -/
def RetainedBytes.retained (kept : RetainedBytes) : Option RetainedProcessOutput :=
  if kept.inlineTruncated then some ⟨kept.retainedBytes, !kept.retentionTruncated⟩ else none

/-- The result of a request that was cancelled before anything was started. -/
def CapturedProcessOutput.notStarted : CapturedProcessOutput :=
  ⟨⟨none, "", "", false, false, false, true, 0⟩, none, none⟩

namespace ProcessExecutor

def collect (x : ProcessExecutor) (stopped : Stopped) : ProcessTask CapturedProcessOutput := do
  let stdout ← joinReader .stdout
  let stderr ← joinReader .stderr
  let elapsed ← reply (.elapsed .duration)
  let ended : ProcessEnd := ⟨stopped.status.code, stopped.timedOut, stopped.cancelled,
    min (elapsed / 1000000) (2 ^ 64 - 1)⟩
  return ⟨processOutput (x.platform = .windows) ended stdout stderr, stdout.retained,
    stderr.retained⟩

/-- A request that has been validated; no result when it is still polled after `polls` polls. -/
def executeValidatedCaptured (x : ProcessExecutor) (launch : ProcessLaunch) (cwd : String)
    (env : List (String × String)) (timeoutMs retainedMax polls : Nat) :
    ProcessTask (Option CapturedProcessOutput) := do
  match ← reply .isCancelled with
  | true => return some .notStarted
  | false =>
    let command := x.command launch cwd env
    x.contain command
    match ← reply (.spawn command) with
    | .error error => x.spawnFailed error
    | .ok () =>
      x.attachReaders retainedMax
      match ← x.poll timeoutMs polls with
      | none => return none
      | some stopped =>
        let captured ← x.collect stopped
        return some captured

end ProcessExecutor

/-! ### What a run shows -/

namespace ProcessTrace

variable (trace : ProcessTrace)

def Spawned : Prop :=
  ∃ command, ⟨.spawn command, .ok ()⟩ ∈ trace

/-- The child's status has been told. -/
def Reaped : Prop :=
  ∃ status, ⟨.wait, .ok status⟩ ∈ trace ∨ ⟨.tryWait, .ok (some status)⟩ ∈ trace

def ProvenEmpty : Prop :=
  ⟨.terminateAndProveEmpty, .ok ()⟩ ∈ trace

def Over : Prop :=
  trace.Reaped ∨ trace.ProvenEmpty

/-- A cancellation was seen, before the start or at a poll. -/
def SawCancellation : Prop :=
  ⟨.isCancelled, true⟩ ∈ trace

/-- A poll came when the time was up. -/
def SawTimeout (timeoutMs : Nat) (trace : ProcessTrace) : Prop :=
  ∃ elapsed, ⟨.elapsed .poll, elapsed⟩ ∈ trace ∧ timeoutMs * 1000000 ≤ elapsed

/-- An error that leaves the outcome open, or comes after the process. -/
def Settled (error : ProcessError) : Prop :=
  (∃ stage, error = .outcomeUnproven stage) ∨ trace.Over

/-- Later notes, with no reason to stop among the new ones. -/
structure Onward (timeoutMs : Nat) (before after : ProcessTrace) : Prop where
  kept : before ⊆ after
  cancellation : after.SawCancellation → before.SawCancellation
  timeout : after.SawTimeout timeoutMs → before.SawTimeout timeoutMs

variable {timeoutMs : Nat} {before middle after : ProcessTrace}

theorem Onward.refl (timeoutMs : Nat) (trace : ProcessTrace) : Onward timeoutMs trace trace :=
  ⟨List.Subset.refl _, id, id⟩

theorem Onward.trans (first : Onward timeoutMs before middle)
    (second : Onward timeoutMs middle after) : Onward timeoutMs before after :=
  ⟨fun _ among => second.kept (first.kept among), first.cancellation ∘ second.cancellation,
    first.timeout ∘ second.timeout⟩

end ProcessTrace

/-- The calls whose answer can stop a process before its end. -/
def ProcessCall.stops : ProcessCall → Bool
  | .isCancelled | .elapsed .poll => true
  | _ => false

def ProcessCall.starts : ProcessCall → Bool
  | .spawn _ => true
  | _ => false

namespace ProcessTrace
variable {timeoutMs : Nat} {before middle after : ProcessTrace}

theorem Onward.note (h : Onward timeoutMs before after) {c : ProcessCall} (answer : c.Reply)
    (plain : c.stops = false) : Onward timeoutMs before (after ++ [⟨c, answer⟩]) := by
  refine h.trans ⟨List.subset_append_left _ _, fun saw => ?_, fun ⟨elapsed, saw, late⟩ => ?_⟩
  · rcases List.mem_append.mp saw with old | new
    · exact old
    · cases List.mem_singleton.mp new
      cases plain
  · rcases List.mem_append.mp saw with old | new
    · exact ⟨elapsed, old, late⟩
    · cases List.mem_singleton.mp new
      cases plain

theorem Over.mono (h : before.Over) (kept : before ⊆ after) : after.Over := by
  rcases h with ⟨status, waited | polled⟩ | empty
  · exact .inl ⟨status, .inl (kept waited)⟩
  · exact .inl ⟨status, .inr (kept polled)⟩
  · exact .inr (kept empty)

theorem mem_note {c : ProcessCall} (trace : ProcessTrace) (answer : c.Reply) :
    (⟨c, answer⟩ : Answered ProcessCall ProcessCall.Reply) ∈ trace ++ [⟨c, answer⟩] :=
  List.mem_append_right _ (List.mem_singleton.mpr rfl)

theorem over_polled (trace : ProcessTrace) (status : ExitStatus) :
    Over (trace ++ [⟨.tryWait, .ok (some status)⟩]) :=
  .inl ⟨status, .inr (mem_note _ _)⟩

end ProcessTrace

/-- Whatever is answered, a task comes to a result that suits the notes taken by then. -/
abbrev ProcessTask.Ends {α : Type} (task : ProcessTask α)
    (accepts : ProcessTrace → Except ProcessError α → Prop) (noted : ProcessTrace) : Prop :=
  task.run.Obeys (Discipline.noting ProcessCall.Reply) () accepts noted

namespace ProcessExecutor
open ProcessTrace

section Proof
variable {α β : Type} {accepts : ProcessTrace → Except ProcessError α → Prop}
  {noted start : ProcessTrace} {x : ProcessExecutor} {timeoutMs : Nat}

variable {c : ProcessCall}

theorem ends_reply {f : c.Reply → ProcessTask α}
    (next : ∀ answer, ProcessTask.Ends (f answer) accepts (noted ++ [⟨c, answer⟩])) :
    ProcessTask.Ends (reply c >>= f) accepts noted :=
  obeys_reply trivial next

/-- The end of a process: reached and told, or open. -/
def Proves (timeoutMs : Nat) (noted : ProcessTrace) (after : ProcessTrace)
    (result : Except ProcessError α) : Prop :=
  Onward timeoutMs noted after ∧ match result with
    | .ok _ => after.Over
    | .error error => ∃ stage, error = .outcomeUnproven stage

theorem waitForChild_proves (on : Onward timeoutMs start noted) :
    ProcessTask.Ends waitForChild (Proves timeoutMs start) noted := by
  refine ends_reply fun answer => ?_
  have on' := on.note answer rfl
  cases answer with
  | ok status => exact ⟨on', .inl ⟨status, .inl (mem_note _ _)⟩⟩
  | error error => exact ⟨on', .wait, rfl⟩

variable (stage : ProcessUnprovenStage)

theorem proveProcessDomainTerminal_proves (on : Onward timeoutMs start noted) :
    ProcessTask.Ends (x.proveProcessDomainTerminal stage) (Proves timeoutMs start) noted := by
  refine ends_reply fun killed => ?_
  have on' := on.note killed rfl
  cases killed with
  | ok _ => exact waitForChild_proves on'
  | error error =>
    dsimp only
    split
    · refine ends_reply fun polled => ?_
      have on'' := on'.note polled rfl
      match polled with
      | .ok (some status) => exact ⟨on'', over_polled _ status⟩
      | .ok none => exact ⟨on'', stage, rfl⟩
      | .error _ => exact ⟨on'', stage, rfl⟩
    · exact ⟨on', stage, rfl⟩

theorem proveExecutionDomainTerminal_proves (on : Onward timeoutMs start noted) :
    ProcessTask.Ends (x.proveExecutionDomainTerminal stage) (Proves timeoutMs start) noted := by
  unfold proveExecutionDomainTerminal
  split
  · refine ends_reply fun emptied => ?_
    have on' := on.note emptied rfl
    cases emptied with
    | ok _ => exact waitForChild_proves on'
    | error error => exact ⟨on', stage, rfl⟩
  · exact proveProcessDomainTerminal_proves stage on

theorem ends_proven {stage : ProcessUnprovenStage} {f : ExitStatus → ProcessTask α}
    (on : Onward timeoutMs start noted)
    (proven : ∀ after status, Onward timeoutMs start after → after.Over →
      ProcessTask.Ends (f status) accepts after)
    (unproven : ∀ after stage, accepts after (.error (.outcomeUnproven stage))) :
    ProcessTask.Ends (x.proveExecutionDomainTerminal stage >>= f) accepts noted :=
  obeys_then (proveExecutionDomainTerminal_proves stage on)
    (fun after status h => proven after status h.1 h.2)
    fun after _ ⟨_, stage, same⟩ => same ▸ unproven after stage

theorem abandon_settled (error : ProcessError) :
    ProcessTask.Ends (x.abandon stage error : ProcessTask α)
      (fun after result => ∃ error, result = .error error ∧ after.Settled error) noted :=
  ends_proven (Onward.refl 0 noted) (fun _ _ _ ended => ⟨error, rfl, .inr ended⟩)
    fun _ stage => ⟨_, rfl, .inl ⟨stage, rfl⟩⟩

/-- What comes after the spawn: it goes on, or the error is one that may be told. -/
def Continues (timeoutMs : Nat) (noted : ProcessTrace) (after : ProcessTrace)
    (result : Except ProcessError α) : Prop :=
  match result with
  | .ok _ => Onward timeoutMs noted after
  | .error error => after.Settled error

theorem continues_of_settled {result : Except ProcessError α} {after : ProcessTrace}
    (h : ∃ error, result = .error error ∧ after.Settled error) :
    Continues timeoutMs start after result := by
  obtain ⟨error, rfl, settled⟩ := h
  exact settled

theorem abandon_continues (error : ProcessError) :
    ProcessTask.Ends (x.abandon stage error : ProcessTask α) (Continues timeoutMs start) noted :=
  (abandon_settled stage error).mono fun _ _ => continues_of_settled

theorem attachReaders_continues (retainedMax : Nat) (on : Onward timeoutMs start noted) :
    ProcessTask.Ends (x.attachReaders retainedMax) (Continues timeoutMs start) noted := by
  refine ends_reply fun stdout => ?_
  have on := on.note stdout rfl
  cases stdout with
  | false => exact abandon_continues _ _
  | true =>
  refine ends_reply fun stderr => ?_
  have on := on.note stderr rfl
  cases stderr with
  | false => exact abandon_continues _ _
  | true =>
  refine ends_reply fun reader => ?_
  have on := on.note reader rfl
  cases reader with
  | error _ => exact abandon_continues _ _
  | ok _ =>
  refine ends_reply fun reader => ?_
  have on := on.note reader rfl
  cases reader with
  | error error =>
    refine ends_proven on (fun after _ _ ended => ?_) fun after stage => .inl ⟨stage, rfl⟩
    exact ends_reply fun _ => .inr (ended.mono (List.subset_append_left _ _))
  | ok _ => exact on

/-- A loop that came to its end says why. -/
structure StoppedFor (timeoutMs : Nat) (trace : ProcessTrace) (stopped : Stopped) : Prop where
  ended : trace.Over
  cancelled : stopped.cancelled = true ↔ trace.SawCancellation
  timedOut : stopped.timedOut = true ↔ trace.SawTimeout timeoutMs
  notBoth : ¬(stopped.cancelled = true ∧ stopped.timedOut = true)

def Polled (timeoutMs : Nat) (after : ProcessTrace) :
    Except ProcessError (Option Stopped) → Prop
  | .ok (some stopped) => StoppedFor timeoutMs after stopped
  | .ok none => True
  | .error error => after.Settled error

theorem sweep_continues (on : Onward timeoutMs start noted) :
    ProcessTask.Ends x.sweep (Continues timeoutMs start) noted := by
  unfold sweep
  split
  · refine ends_reply fun emptied => ?_
    have on := on.note emptied rfl
    cases emptied with
    | ok _ => exact on
    | error _ => exact .inl ⟨.termination, rfl⟩
  · exact ends_reply fun killed => on.note killed rfl

/-- The invariant of the loop: no poll so far has seen a reason to stop. -/
structure Waiting (timeoutMs : Nat) (trace : ProcessTrace) : Prop where
  notCancelled : ¬trace.SawCancellation
  notLate : ¬trace.SawTimeout timeoutMs

theorem Waiting.onward (h : Waiting timeoutMs start) (on : Onward timeoutMs start noted) :
    Waiting timeoutMs noted :=
  ⟨h.notCancelled ∘ on.cancellation, h.notLate ∘ on.timeout⟩

theorem Waiting.note (h : Waiting timeoutMs noted) (answer : c.Reply) (plain : c.stops = false) :
    Waiting timeoutMs (noted ++ [⟨c, answer⟩]) :=
  h.onward ((Onward.refl timeoutMs noted).note answer plain)

theorem Waiting.note_isCancelled (h : Waiting timeoutMs noted) (answer : Bool) :
    ((noted ++ [⟨.isCancelled, answer⟩] : ProcessTrace).SawCancellation ↔ answer = true) ∧
      ¬(noted ++ [⟨.isCancelled, answer⟩] : ProcessTrace).SawTimeout timeoutMs := by
  refine ⟨⟨fun saw => ?_, fun same => same ▸ mem_note _ _⟩, fun ⟨elapsed, saw, late⟩ => ?_⟩
  · rcases List.mem_append.mp saw with old | new
    · exact absurd old h.notCancelled
    · cases List.mem_singleton.mp new
      rfl
  · rcases List.mem_append.mp saw with old | new
    · exact h.notLate ⟨elapsed, old, late⟩
    · cases List.mem_singleton.mp new

theorem Waiting.note_elapsed (h : Waiting timeoutMs noted) (answer : Nat) :
    ((noted ++ [⟨.elapsed .poll, answer⟩] : ProcessTrace).SawTimeout timeoutMs ↔
        timeoutMs * 1000000 ≤ answer) ∧
      ¬(noted ++ [⟨.elapsed .poll, answer⟩] : ProcessTrace).SawCancellation := by
  refine ⟨⟨fun ⟨elapsed, saw, late⟩ => ?_, fun late => ⟨answer, mem_note _ _, late⟩⟩, fun saw => ?_⟩
  · rcases List.mem_append.mp saw with old | new
    · exact absurd ⟨elapsed, old, late⟩ h.notLate
    · cases List.mem_singleton.mp new
      exact late
  · rcases List.mem_append.mp saw with old | new
    · exact h.notCancelled old
    · cases List.mem_singleton.mp new

/-- Whatever the polls find, the loop ends for the reason it gives. -/
theorem poll_polled (polls : Nat) (h : Waiting timeoutMs noted) :
    ProcessTask.Ends (x.poll timeoutMs polls) (Polled timeoutMs) noted := by
  induction polls generalizing noted with
  | zero => trivial
  | succ polls ih =>
    refine ends_reply fun cancelled => ?_
    obtain ⟨saw, notLate⟩ := h.note_isCancelled cancelled
    cases cancelled with
    | true =>
      refine ends_proven (Onward.refl timeoutMs _) (fun after status on ended => ?_)
        fun after stage => .inl ⟨stage, rfl⟩
      exact ⟨ended, ⟨fun _ => on.kept (saw.mpr rfl), fun _ => rfl⟩,
        ⟨fun h => (by cases h), fun late => absurd (on.timeout late) notLate⟩,
        fun both => (by cases both.2)⟩
    | false =>
    have h : Waiting timeoutMs _ := ⟨fun seen => (by cases saw.mp seen), notLate⟩
    refine ends_reply fun elapsed => ?_
    obtain ⟨late, notCancelled⟩ := h.note_elapsed elapsed
    split
    · next up =>
      refine ends_proven (Onward.refl timeoutMs _) (fun after status on ended => ?_)
        fun after stage => .inl ⟨stage, rfl⟩
      have seen := late.mpr up
      exact ⟨ended, ⟨fun h => (by cases h), fun seen => absurd (on.cancellation seen) notCancelled⟩,
        ⟨fun _ => seen.imp fun _ h => ⟨on.kept h.1, h.2⟩, fun _ => rfl⟩,
        fun both => (by cases both.1)⟩
    · next early =>
      have h : Waiting timeoutMs _ := ⟨notCancelled, early ∘ late.mp⟩
      refine ends_reply fun polled => ?_
      have h := h.note polled rfl
      match polled with
      | .ok (some status) =>
        refine obeys_then (sweep_continues (Onward.refl timeoutMs _))
          (fun after _ swept => ?_) fun after error settled => settled
        have h := h.onward swept
        exact ⟨(over_polled _ status).mono swept.kept, ⟨fun h => (by cases h), fun seen => absurd seen h.notCancelled⟩,
          ⟨fun h => (by cases h), fun seen => absurd seen h.notLate⟩, fun both => (by cases both.1)⟩
      | .error error =>
        refine (abandon_settled _ _).mono fun after result settled => ?_
        obtain ⟨error, rfl, settled⟩ := settled
        exact settled
      | .ok none => exact ends_reply fun slept => ih (h.note slept rfl)

theorem joinReader_onward (stream : ProcessOutputStream) (on : Onward timeoutMs start noted) :
    ProcessTask.Ends (joinReader stream) (fun after _ => Onward timeoutMs start after) noted := by
  refine ends_reply fun joined => ?_
  have on := on.note joined rfl
  match joined with
  | .panicked => exact on
  | .returned (.error _) => exact on
  | .returned (.ok _) => exact on

/-- What the supervisor may say, given what it has seen. -/
def Honest (timeoutMs : Nat) (trace : ProcessTrace) :
    Except ProcessError (Option CapturedProcessOutput) → Prop
  | .ok (some captured) => (trace.Spawned → trace.Over) ∧
      (captured.output.cancelled = true ↔ trace.SawCancellation) ∧
      (captured.output.timedOut = true ↔ trace.SawTimeout timeoutMs) ∧
      ¬(captured.output.cancelled = true ∧ captured.output.timedOut = true)
  | .ok none => True
  | .error error => (∃ stage, error = .outcomeUnproven stage) ∨ (trace.Spawned → trace.Over)

/-- The readers' bytes and the duration are added to how the loop ended. -/
theorem collect_onward (timeoutMs : Nat) (stopped : Stopped) :
    ProcessTask.Ends (x.collect stopped) (fun after result => Onward timeoutMs noted after ∧
      ∀ captured, result = .ok captured → captured.output.cancelled = stopped.cancelled ∧
        captured.output.timedOut = stopped.timedOut) noted := by
  refine obeys_then (joinReader_onward .stdout (Onward.refl timeoutMs noted))
    (fun after stdout on => ?_) fun after error on => ⟨on, fun _ h => (by cases h)⟩
  refine obeys_then (joinReader_onward .stderr on) (fun after stderr on => ?_)
    fun after error on => ⟨on, fun _ h => (by cases h)⟩
  refine ends_reply fun elapsed => ⟨on.note elapsed rfl, fun captured h => ?_⟩
  cases h
  exact ⟨rfl, rfl⟩

theorem StoppedFor.honest {stopped : Stopped} (h : StoppedFor timeoutMs noted stopped) :
    ProcessTask.Ends (do
      let captured ← x.collect stopped
      return some captured) (Honest timeoutMs) noted := by
  refine obeys_then (collect_onward timeoutMs stopped)
    (fun after captured collected => ?_)
    fun _ _ collected => .inr fun _ => h.ended.mono collected.1.kept
  obtain ⟨on, flags⟩ := collected
  obtain ⟨cancelled, timedOut⟩ := flags captured rfl
  show _ ∧ (captured.output.cancelled = true ↔ _) ∧ (captured.output.timedOut = true ↔ _) ∧ ¬(_ ∧ _)
  rw [cancelled, timedOut]
  refine ⟨fun _ => h.ended.mono on.kept, h.cancelled.trans ⟨fun saw => on.kept saw, on.cancellation⟩,
    h.timedOut.trans ⟨fun saw => saw.imp fun _ h => ⟨on.kept h.1, h.2⟩, on.timeout⟩, h.notBoth⟩

theorem supervised_honest (retainedMax polls : Nat) (h : Waiting timeoutMs noted) :
    ProcessTask.Ends (do
      x.attachReaders retainedMax
      match ← x.poll timeoutMs polls with
      | none => return none
      | some stopped =>
        let captured ← x.collect stopped
        return some captured) (Honest timeoutMs) noted := by
  refine obeys_then (attachReaders_continues retainedMax (Onward.refl timeoutMs noted))
    (fun attached _ on => ?_) fun _ _ settled => settled.imp id fun ended _ => ended
  refine obeys_then (poll_polled polls (h.onward on)) (fun after stopped polled => ?_)
    fun _ _ settled => settled.imp id fun ended _ => ended
  cases stopped with
  | none => trivial
  | some stopped => exact StoppedFor.honest polled

/-- Before the spawn nothing has been started and nothing has asked for an end. -/
structure Unstarted (timeoutMs : Nat) (trace : ProcessTrace) : Prop where
  notSpawned : ¬trace.Spawned
  waiting : Waiting timeoutMs trace

theorem not_spawned_note (answer : c.Reply) (h : ¬noted.Spawned) (other : c.starts = false) :
    ¬(noted ++ [⟨c, answer⟩] : ProcessTrace).Spawned := by
  rintro ⟨command, spawned⟩
  rcases List.mem_append.mp spawned with old | new
  · exact h ⟨command, old⟩
  · cases List.mem_singleton.mp new
    cases other

theorem Unstarted.note (h : Unstarted timeoutMs noted) (answer : c.Reply) (other : c.starts = false)
    (plain : c.stops = false) : Unstarted timeoutMs (noted ++ [⟨c, answer⟩]) :=
  ⟨not_spawned_note answer h.notSpawned other, h.waiting.note answer plain⟩

theorem contain_unstarted (command : Command) (h : Unstarted timeoutMs noted) :
    ProcessTask.Ends (x.contain command) (fun after _ => Unstarted timeoutMs after) noted := by
  unfold contain
  split
  · refine ends_reply fun prepared => ?_
    have h := h.note prepared rfl rfl
    cases prepared with
    | error _ => exact h
    | ok _ =>
      refine ends_reply fun configured => ?_
      have h := h.note configured rfl rfl
      cases configured with
      | error _ => exact h
      | ok _ => exact h
  · exact h

theorem spawnFailed_honest (error : OsError) (h : ¬noted.Spawned) :
    ProcessTask.Ends (x.spawnFailed error) (Honest timeoutMs) noted := by
  unfold spawnFailed
  split
  · refine ends_reply fun cleaned => ?_
    cases cleaned with
    | error _ => exact .inl ⟨.termination, rfl⟩
    | ok _ => exact .inr fun spawned => absurd spawned (not_spawned_note _ h rfl)
  · exact .inr fun spawned => absurd spawned h

theorem not_spawned_failed (command : Command) (error : OsError) (h : ¬noted.Spawned) :
    ¬(noted ++ [⟨.spawn command, .error error⟩] : ProcessTrace).Spawned := by
  rintro ⟨other, spawned⟩
  rcases List.mem_append.mp spawned with old | new
  · exact h ⟨other, old⟩
  · cases List.mem_singleton.mp new

theorem executeValidatedCaptured_honest (launch : ProcessLaunch) (cwd : String)
    (env : List (String × String)) (retainedMax polls : Nat) :
    ProcessTask.Ends (x.executeValidatedCaptured launch cwd env timeoutMs retainedMax polls)
      (Honest timeoutMs) [] := by
  have nothing : Waiting timeoutMs [] :=
    ⟨fun saw => (by cases saw), fun ⟨_, saw, _⟩ => (by cases saw)⟩
  have notSpawned (cancelled : Bool) :
      ¬([] ++ [⟨.isCancelled, cancelled⟩] : ProcessTrace).Spawned :=
    not_spawned_note (c := .isCancelled) cancelled (fun ⟨_, among⟩ => absurd among List.not_mem_nil) rfl
  refine ends_reply fun cancelled => ?_
  obtain ⟨saw, notLate⟩ := nothing.note_isCancelled cancelled
  cases cancelled with
  | true =>
    exact ⟨fun spawned => absurd spawned (notSpawned true), ⟨fun _ => saw.mpr rfl, fun _ => rfl⟩,
      ⟨fun h => (by cases h), fun late => absurd late notLate⟩, fun both => (by cases both.2)⟩
  | false =>
    have h : Unstarted timeoutMs _ :=
      ⟨notSpawned false, fun seen => (by cases saw.mp seen), notLate⟩
    refine obeys_then (contain_unstarted (x.command launch cwd env) h) (fun after _ h => ?_)
      fun after _ h => .inr fun spawned => absurd spawned h.notSpawned
    refine ends_reply fun spawned => ?_
    cases spawned with
    | error error => exact spawnFailed_honest error (not_spawned_failed _ error h.notSpawned)
    | ok _ => exact supervised_honest retainedMax polls (h.waiting.note _ rfl)

end Proof

end ProcessExecutor

/-! ### What the Agent makes of it -/

/-- A failure as the Agent sorts it: by whether it leaves the outcome open. -/
def sorted {E : Type} (stage : E → Option ProcessUnprovenStage) (code : E → DeviceErrorCode)
    (error : E) : ExecutorError :=
  match stage error with
  | some _ => .outcomeUnproven
  | none => .failed (code error)

variable {R : Type}

def ProcessError.operationOutcome (worker : Worker (Except ProcessError DeviceResult)) :
    AgentOperationOutcome R :=
  processOperationOutcome
    (worker.map (·.mapError (sorted outcomeUnprovenStage operationErrorCode)))

def ShellError.operationOutcome (worker : Worker (Except ShellError DeviceResult)) :
    AgentOperationOutcome R :=
  shellOperationOutcome
    (worker.map (·.mapError (sorted outcomeUnprovenStage operationErrorCode)))

theorem executorOutcome_sorted {E : Type} (stage : E → Option ProcessUnprovenStage)
    (code : E → DeviceErrorCode) (worker : Worker (Except E DeviceResult)) :
    (executorOutcome (worker.map (·.mapError (sorted stage code))) :
        AgentOperationOutcome R) = .indeterminate .processOutcomeUnproven ↔
      worker = .panicked ∨ ∃ error, worker = .returned (.error error) ∧ (stage error).isSome := by
  match worker with
  | .panicked => simp [map, executorOutcome]
  | .returned (.ok result) => simp [map, executorOutcome]
  | .returned (.error error) =>
    cases told : stage error with
    | none => simp [map, executorOutcome, sorted, told]
    | some _ => simp [map, executorOutcome, sorted, told]

theorem ProcessError.isSome_outcomeUnprovenStage (error : ProcessError) :
    error.outcomeUnprovenStage.isSome ↔ ∃ stage, error = .outcomeUnproven stage := by
  cases error <;> simp [outcomeUnprovenStage]

theorem ShellError.isSome_outcomeUnprovenStage (error : ShellError) :
    error.outcomeUnprovenStage.isSome ↔ ∃ stage, error = .process (.outcomeUnproven stage) := by
  cases error with
  | process error =>
    rw [outcomeUnprovenStage, ProcessError.isSome_outcomeUnprovenStage]
    simp
  | _ => simp [outcomeUnprovenStage]

namespace ProcessExecutor
open ProcessTrace

/-- Whatever the system answers: an outcome is told only when nothing was started or the process
is over, the flags give the reason the run was stopped for, and an outcome that is open, or a
worker that is lost, is never told as a result. -/
theorem outcomes_honest (x : ProcessExecutor) (launch : ProcessLaunch) (cwd : String)
    (env : List (String × String)) (timeoutMs retainedMax polls : Nat) (trace : ProcessTrace)
    (result : Except ProcessError (Option CapturedProcessOutput))
    (run : (x.executeValidatedCaptured launch cwd env timeoutMs retainedMax polls).run.Comes
      trace result) :
    (result ≠ .ok none → (∀ stage, result ≠ .error (.outcomeUnproven stage)) →
      ¬trace.Spawned ∨ trace.Reaped ∨ trace.ProvenEmpty) ∧
    (∀ captured, result = .ok (some captured) →
      (captured.output.cancelled = true ↔ trace.SawCancellation) ∧
      (captured.output.timedOut = true ↔ trace.SawTimeout timeoutMs) ∧
      ¬(captured.output.cancelled = true ∧ captured.output.timedOut = true)) ∧
    (∀ worker, (ProcessError.operationOutcome worker : AgentOperationOutcome R) =
        .indeterminate .processOutcomeUnproven ↔
      worker = .panicked ∨ ∃ stage, worker = .returned (.error (.outcomeUnproven stage))) ∧
    (∀ worker, (ShellError.operationOutcome worker : AgentOperationOutcome R) =
        .indeterminate .processOutcomeUnproven ↔
      worker = .panicked ∨
        ∃ stage, worker = .returned (.error (.process (.outcomeUnproven stage)))) := by
  have honest := (executeValidatedCaptured_honest launch cwd env retainedMax polls).comes run
  refine ⟨fun returned proven => ?_, fun captured told => ?_, fun worker => ?_, fun worker => ?_⟩
  · refine Classical.or_iff_not_imp_left.mpr fun spawned => ?_
    have spawned := Classical.not_not.mp spawned
    match result with
    | .ok (some _) => exact honest.1 spawned
    | .ok none => exact absurd rfl returned
    | .error error =>
      rcases honest with ⟨stage, rfl⟩ | ends
      · exact absurd rfl (proven stage)
      · exact ends spawned
  · subst told
    exact honest.2
  · refine (executorOutcome_sorted _ _ worker).trans (or_congr_right ⟨?_, ?_⟩)
    · rintro ⟨error, same, isSome⟩
      obtain ⟨stage, rfl⟩ := error.isSome_outcomeUnprovenStage.mp isSome
      exact ⟨stage, same⟩
    · rintro ⟨stage, same⟩
      exact ⟨_, same, rfl⟩
  · refine (executorOutcome_sorted _ _ worker).trans (or_congr_right ⟨?_, ?_⟩)
    · rintro ⟨error, same, isSome⟩
      obtain ⟨stage, rfl⟩ := error.isSome_outcomeUnprovenStage.mp isSome
      exact ⟨stage, same⟩
    · rintro ⟨stage, same⟩
      exact ⟨_, same, rfl⟩

/-- A child that exits while it is killed for its timeout: the kill fails, the next poll tells. -/
def racedTrace : ProcessTrace :=
  [⟨.isCancelled, false⟩, ⟨.spawn ⟨"true", [], none, "/", []⟩, .ok ()⟩, ⟨.takePipe .stdout, true⟩,
    ⟨.takePipe .stderr, true⟩, ⟨.spawnReader .stdout 8 8, .ok ()⟩,
    ⟨.spawnReader .stderr 8 8, .ok ()⟩, ⟨.isCancelled, false⟩, ⟨.elapsed .poll, 2000000⟩,
    ⟨.startKill, .error ⟨3⟩⟩, ⟨.tryWait, .ok (some ⟨some 0⟩)⟩,
    ⟨.joinReader .stdout, .returned (.ok .empty)⟩, ⟨.joinReader .stderr, .returned (.ok .empty)⟩,
    ⟨.elapsed .duration, 3000000⟩]

def racedExecutor : ProcessExecutor :=
  ⟨.unix, false, [], fun _ => none, 8, 1⟩

theorem raced_run :
    (racedExecutor.executeValidatedCaptured ⟨"true", [], none⟩ "/" [] 1 8 1).run.Comes racedTrace
      (.ok (some ⟨⟨some 0, "", "", false, false, true, false, 3⟩, none, none⟩)) := by
  iterate 13 refine call ?_
  exact done _

theorem outcomes_honest_raced :
    (¬racedTrace.Spawned ∨ racedTrace.Reaped ∨ racedTrace.ProvenEmpty) ∧
      racedTrace.SawTimeout 1 ∧ ¬racedTrace.SawCancellation := by
  have honest := outcomes_honest (R := Unit) _ _ _ _ _ _ _ _ _ raced_run
  obtain ⟨cancelled, timedOut, _⟩ := honest.2.1 _ rfl
  exact ⟨honest.1 (fun h => (by cases h)) fun _ h => (by cases h), timedOut.mp rfl,
    fun saw => (by cases cancelled.mpr saw)⟩

end ProcessExecutor

end Gateway.Agent
