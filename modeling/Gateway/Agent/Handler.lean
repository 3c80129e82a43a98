import Gateway.Agent.Loss

/-! The Agent's command handler and the Hub's acceptance of its results.

Each command is run by one executor; what the executors find is given (`Surroundings`), the
choice of the executor and the shape of what is reported are the program's. A result is sent
in an envelope that repeats the command's; the Hub accepts it by `validateCommandResult`. -/
namespace Gateway.Agent
open Data
open Device hiding DeviceCommand
open Control

variable {P R : Type}

/-! ### Workers -/

/-- How a worker thread ends. -/
inductive Worker (α : Type) where
  | returned (value : α)
  | panicked

/-- An executor's failure: one whose effect is unknown, or one that is told by its code. -/
inductive ExecutorError where
  | outcomeUnproven
  | failed (code : DeviceErrorCode)

inductive PlaywrightSandboxError where
  | providerOutcomeUnproven
  | executor (error : ExecutorError)

/-- The outcome of a worker that runs processes; a panic leaves it unknown what was started. -/
def executorOutcome : Worker (Except ExecutorError DeviceResult) → AgentOperationOutcome R
  | .returned (.ok result) => .result (.ok result)
  | .returned (.error .outcomeUnproven) => .indeterminate .processOutcomeUnproven
  | .returned (.error (.failed code)) => .result (.error (.executor code))
  | .panicked => .indeterminate .processOutcomeUnproven

def processOperationOutcome : Worker (Except ExecutorError DeviceResult) → AgentOperationOutcome R :=
  executorOutcome

def shellOperationOutcome : Worker (Except ExecutorError DeviceResult) → AgentOperationOutcome R :=
  executorOutcome

def managedJobOperationOutcome :
    Worker (Except ExecutorError DeviceResult) → AgentOperationOutcome R :=
  executorOutcome

def playwrightOperationOutcome :
    Worker (Except PlaywrightSandboxError DeviceResult) → AgentOperationOutcome R
  | .returned (.ok result) => .result (.ok result)
  | .returned (.error .providerOutcomeUnproven) =>
    .indeterminate .playwrightProviderOutcomeUnproven
  | .returned (.error (.executor e)) => executorOutcome (.returned (.error e))
  | .panicked => .indeterminate .processOutcomeUnproven

def workspaceMutationOperationOutcome :
    Worker (Except WorkspaceMutationError DeviceResult) → AgentOperationOutcome R
  | .returned (.ok result) => .result (.ok result)
  | .returned (.error .outcomeUnproven) => .indeterminate .workspaceMutationOutcomeUnproven
  | .returned (.error e) => .result (.error (.workspaceMutation e))
  | .panicked => .indeterminate .workspaceMutationOutcomeUnproven

/-- The outcome of a worker whose failures are all told. -/
def plainOutcome {E : Type} (tell : E → AgentOperationError) :
    Worker (Except E DeviceResult) → AgentOperationOutcome R
  | .returned (.ok result) => .result (.ok result)
  | .returned (.error e) => .result (.error (tell e))
  | .panicked => .result (.error .workerPanicked)

def Worker.map {α β : Type} (f : α → β) : Worker α → Worker β
  | .returned value => .returned (f value)
  | .panicked => .panicked

/-! ### The handler -/

/-- What the executors find when a command is run. The workspace, the retained output, the
Playwright runner and the computer-use backend need not be configured. -/
structure Surroundings (P R : Type) where
  deviceId : String
  deviceGeneration : Nat
  capabilityRevision : Nat
  process : Worker (Except ExecutorError ProcessOutput)
  shell : Worker (Except ExecutorError ProcessOutput)
  managedJobs : Worker (Except ExecutorError Unit)
  playwright : Option (Worker (Except PlaywrightSandboxError Unit))
  ephemeralData : Option AgentEphemeralDataStore
  retainedFile : Worker RetainedFile
  poisoned : Bool
  nowMs : Option Nat
  staged : Worker (Except BrowserUploadStagingError Unit)
  policy : FilesystemPolicy
  file : String → Nat → Worker (Except FilesystemError (List UInt8))
  directory : String → Worker (Except FilesystemError Directory)
  workspace : Option (Nat × (String → WorkspaceTarget))
  workspacePanics : Bool
  decode : String → Option (List UInt8)
  sha256Hex : List UInt8 → String
  backend : Option Backend
  payloads : Payloads P
  session : Call P
  call : Call P
  staging : Staging
  matchesReceipt : R → Bool

variable (env : Surroundings P R)

def Surroundings.readProcessOutput (file : RetainedFile)
    (locator sourceOperationId : String) (stream : ProcessOutputStream) (offset maxBytes : Nat) :
    DeviceResult :=
  match env.ephemeralData with
  | none => .error .invalidRequest
  | some store =>
    let kind : EphemeralDataKind := match stream with
      | .stdout => .processStdout
      | .stderr => .processStderr
    match env.nowMs with
    | none => .error .ioFailure
    | some nowMs =>
      if env.poisoned then .error .ioFailure
      else
        let wanted : AgentEphemeralBinding := ⟨env.deviceId, env.deviceGeneration,
          env.capabilityRevision, some sourceOperationId, kind⟩
        match (store.readRange file locator wanted offset maxBytes nowMs).1 with
        | .ok range => .processOutputRange range.bytes stream sourceOperationId range.offset
            range.nextOffset range.totalBytes range.eof
        | .error e => .error (ephemeralDataErrorCode e)

def Surroundings.writeWorkspaceFile (path dataBase64 : String)
    (expectedBytes : Nat) (contentSha256 : String) (precondition : WorkspaceWritePrecondition) :
    Except WorkspaceMutationError DeviceResult :=
  match env.workspace with
  | none => .error .noAllowedRoots
  | some (maxWriteBytes, target) =>
    match env.decode dataBase64 with
    | none => .error .invalidPayload
    | some bytes =>
      if bytes.length ≠ expectedBytes ∨ env.sha256Hex bytes ≠ contentSha256 then
        .error .invalidPayload
      else writeFile maxWriteBytes env.sha256Hex (target path) path bytes precondition

/-- Run a Playwright command, if a runner is configured. -/
def Surroundings.runPlaywright (done : DeviceResult) : AgentOperationOutcome R :=
  match env.playwright with
  | none => playwrightOperationOutcome (.returned (.error (.executor (.failed .invalidRequest))))
  | some worker => playwrightOperationOutcome (worker.map (·.map fun _ => done))

def Surroundings.runManagedJob (done : DeviceResult) : AgentOperationOutcome R :=
  managedJobOperationOutcome (env.managedJobs.map (·.map fun _ => done))

/-- The outcome of a command; none if the session ends because the command is not supported. -/
def Surroundings.handle : DeviceCommand → Option (AgentOperationOutcome R)
  | .executeProcess => some (processOperationOutcome (env.process.map (·.map .process)))
  | .shell => some (shellOperationOutcome (env.shell.map (·.map .shell)))
  | .readProcessOutput locator sourceOperationId stream offset maxBytes =>
    some (match env.retainedFile with
      | .returned file => .result (.ok
          (env.readProcessOutput file locator sourceOperationId stream offset maxBytes))
      | .panicked => .result (.error .workerPanicked))
  | .managedJobStart => some (env.runManagedJob .managedJobStarted)
  | .managedJobStatus => some (env.runManagedJob .managedJobStatus)
  | .managedJobOutput => some (env.runManagedJob .managedJobOutput)
  | .managedJobRenew => some (env.runManagedJob .managedJobRenewed)
  | .managedJobStop => some (env.runManagedJob .managedJobStopped)
  | .playwrightTestStart => some (env.runPlaywright .playwrightTestStarted)
  | .playwrightTestStatus => some (env.runPlaywright .playwrightTestStatus)
  | .playwrightTestOutput => some (env.runPlaywright .playwrightTestOutput)
  | .playwrightTestStop => some (env.runPlaywright .playwrightTestStopped)
  | .stageBrowserUploadFile =>
    some (plainOutcome .browserUploadStaging (env.staged.map (·.map fun _ => .browserUploadStaged)))
  | .readFile path offset maxBytes =>
    some (plainOutcome .filesystem
      ((env.file path offset).map fun opened => readFileRange env.policy opened offset maxBytes))
  | .listDirectory path after =>
    some (plainOutcome .filesystem
      ((env.directory path).map fun opened => listDirectoryPage env.policy opened after))
  | .writeWorkspaceFile path dataBase64 expectedBytes contentSha256 precondition =>
    some (workspaceMutationOperationOutcome (if env.workspacePanics then .panicked
      else .returned (env.writeWorkspaceFile path dataBase64 expectedBytes contentSha256 precondition)))
  | command =>
    env.backend.map fun backend =>
      (executeComputerUseOperation (backend.adapter R env.payloads env.session env.call)
        env.matchesReceipt env.staging command.capability command).2

/-! ### What a successful worker reports -/

variable {r d : DeviceResult} {env : Surroundings P R} {matchesReceipt : R → Bool}
  {capability : DeviceCapability} {command : DeviceCommand} {payloads : Payloads P}
  {call session : Call P} {backend : Backend} {staging : Staging}

theorem of_executorOutcome {worker : Worker (Except ExecutorError DeviceResult)}
    (done : (executorOutcome worker : AgentOperationOutcome R) = .result (.ok r)) :
    worker = .returned (.ok r) := by
  unfold executorOutcome at done
  split at done <;> cases done
  rfl

theorem of_playwrightOperationOutcome {worker : Worker (Except PlaywrightSandboxError DeviceResult)}
    (done : (playwrightOperationOutcome worker : AgentOperationOutcome R) = .result (.ok r)) :
    worker = .returned (.ok r) := by
  unfold playwrightOperationOutcome at done
  split at done
  · cases done
    rfl
  · cases done
  · cases of_executorOutcome done
  · cases done

theorem of_workspaceMutationOperationOutcome
    {worker : Worker (Except WorkspaceMutationError DeviceResult)}
    (done : (workspaceMutationOperationOutcome worker : AgentOperationOutcome R) = .result (.ok r)) :
    worker = .returned (.ok r) := by
  unfold workspaceMutationOperationOutcome at done
  split at done <;> cases done
  rfl

theorem of_plainOutcome {E : Type} {tell : E → AgentOperationError}
    {worker : Worker (Except E DeviceResult)}
    (done : (plainOutcome tell worker : AgentOperationOutcome R) = .result (.ok r)) :
    worker = .returned (.ok r) := by
  unfold plainOutcome at done
  split at done <;> cases done
  rfl

theorem Worker.of_map {α β : Type} {f : α → β} {worker : Worker α} {b : β}
    (mapped : worker.map f = .returned b) : ∃ a, worker = .returned a ∧ f a = b := by
  cases worker with
  | returned a => exact ⟨a, rfl, Worker.returned.inj mapped⟩
  | panicked => cases mapped

theorem Worker.of_map_result {E α : Type} {f : α → DeviceResult} {worker : Worker (Except E α)}
    (mapped : worker.map (·.map f) = .returned (.ok r)) : ∃ a, r = f a := by
  obtain ⟨value, -, eq⟩ := Worker.of_map mapped
  cases value with
  | error e => cases eq
  | ok a => exact ⟨a, (Except.ok.inj eq).symm⟩

theorem Surroundings.of_runManagedJob {done : DeviceResult}
    (run : env.runManagedJob done = .result (.ok r)) : r = done := by
  obtain ⟨_, eq⟩ := Worker.of_map_result (of_executorOutcome run)
  exact eq

theorem Surroundings.of_runPlaywright {done : DeviceResult}
    (run : env.runPlaywright done = .result (.ok r)) : r = done := by
  unfold runPlaywright at run
  split at run
  · cases of_playwrightOperationOutcome run
  · obtain ⟨_, eq⟩ := Worker.of_map_result (of_playwrightOperationOutcome run)
    exact eq

/-! ### Results of the computer-use backends -/

theorem settle_matches {adapter : ComputerUseBackendAdapter P R}
    {completed : DeviceResult → AgentOperationOutcome R}
    {result : Except M1BackendError BackendExecutionOutcome}
    (completes : ∀ d, result = .ok (.completed d) → completed d = .result (.ok r) →
      r.matchesCommand command = true)
    (settled : settleExecution adapter matchesReceipt capability completed result = .result (.ok r)) :
    r.matchesCommand command = true := by
  have recovered {fallback : AgentOperationOutcome R}
      (eq : recoverAuthoritativeBackendReceipt adapter matchesReceipt capability fallback =
        .result (.ok r)) : fallback = .result (.ok r) := by
    unfold recoverAuthoritativeBackendReceipt at eq
    split at eq
    · exact eq
    · split at eq
      · split at eq
        · cases eq
        · exact eq
      · exact eq
  unfold settleExecution at settled
  split at settled
  · exact completes _ rfl settled
  · cases recovered settled
  · cases recovered settled
  · cases recovered settled
    rfl
  · cases settled

theorem of_adaptBrowser {mismatch unreadable : String} {accepts : BrowserBackendResult → Bool}
    {run : Except BrowserExecutionError BrowserExecutionOutcome}
    (completed : adaptBrowser mismatch unreadable capability accepts run = .ok (.completed d)) :
    ∃ b, d = .browser b ∧ accepts b = true := by
  unfold adaptBrowser at completed
  split at completed
  · next b =>
    split at completed
    · cases completed
    · next taken =>
      cases completed
      exact ⟨b, rfl, not_not.mp taken⟩
  all_goals cases completed

theorem cuaAnswer_matches (completed : cuaAnswer payloads command call = .ok (.completed d)) :
    d.matchesCommand command = true := by
  unfold cuaAnswer at completed
  split at completed
  case h_5 =>
    split at completed
    · split at completed <;> cases completed
    · split at completed
      · next read =>
        cases completed
        exact (cuaNormalize_succeeds read).1
      · split at completed <;> cases completed
  case h_3 => split at completed <;> cases completed
  all_goals cases completed

theorem cuaExecute_matches
    (completed : (cuaExecute payloads session call command).2 = .ok (.completed d)) :
    d.matchesCommand command = true := by
  by_cases desktop : ∀ b, command ≠ .browser b
  · rw [cuaExecute.eq_2 _ _ _ _ desktop] at completed
    split at completed
    · cases completed
    split at completed
    · cases completed
    split at completed
    · exact cuaAnswer_matches completed
    · split at completed
      case h_5 =>
        split at completed
        · cases completed
        · exact cuaAnswer_matches completed
      all_goals cases completed
  · obtain ⟨b, rfl⟩ : ∃ b, command = .browser b := by
      by_contra none
      exact desktop fun b eq => none ⟨b, eq⟩
    obtain ⟨r, rfl, taken⟩ := of_adaptBrowser completed
    exact taken

theorem macosExecute_matches
    (completed : (macosExecute payloads call command).2 = .ok (.completed d)) :
    d.matchesCommand command = true := by
  unfold macosExecute at completed
  split at completed
  · cases completed
  split at completed
  · unfold macosMcpCallFailure at completed
    split at completed
    case h_4 => cases completed
    all_goals split at completed <;> cases completed
  · split at completed
    · split at completed <;> cases completed
    · split at completed
      · next read =>
        cases completed
        exact (macosNormalize_succeeds read).1
      · split at completed <;> cases completed

theorem execute_matches
    (completed : ((backend.adapter R payloads session call).execute command).2 = .ok (.completed d)) :
    d.matchesCommand command = true := by
  cases backend with
  | cua => exact cuaExecute_matches completed
  | macosMcp => exact macosExecute_matches completed

theorem upload_matches
    (completed : ((backend.adapter R payloads session call).executeBrowserUpload .upload).2 =
      .ok (.completed d))
    (reported : (completeUpload staging d : AgentOperationOutcome R) = .result (.ok r)) :
    r.matchesCommand (.browser .upload) = true := by
  unfold completeUpload at reported
  split at reported
  · cases reported
  cases reported
  cases backend with
  | macosMcp => cases completed
  | cua =>
    obtain ⟨b, rfl, taken⟩ := of_adaptBrowser completed
    exact taken

theorem completeDownload_matches
    (reported : (completeDownload staging d : AgentOperationOutcome R) = .result (.ok r)) :
    r.matchesCommand (.browser .download) = true := by
  unfold completeDownload at reported
  split at reported
  · split at reported
    · cases reported
      rfl
    · cases reported
  · cases reported

theorem executeComputerUseOperation_matches
    (executed : (executeComputerUseOperation (backend.adapter R payloads session call) matchesReceipt
      staging capability command).2 = .result (.ok r)) : r.matchesCommand command = true := by
  by_cases plain : command ≠ .browser .upload ∧ command ≠ .browser .download
  · rw [execute_of_no_transfer _ plain] at executed
    refine settle_matches (fun d done same => ?_) executed
    cases same
    exact execute_matches done
  · rw [not_and_or, not_not, not_not] at plain
    rcases plain with rfl | rfl
    · cases resolved : staging.resolved with
      | error e =>
        rw [executeComputerUseOperation, resolved] at executed
        cases executed
      | ok u =>
        rw [executeComputerUseOperation, resolved] at executed
        exact settle_matches (fun d done same => upload_matches done same) executed
    · cases prepared : staging.prepared with
      | error e =>
        rw [executeComputerUseOperation, prepared] at executed
        cases executed
      | ok u =>
        rw [executeComputerUseOperation, prepared] at executed
        exact settle_matches (fun d _ same => completeDownload_matches same) executed

/-! ### Acceptance -/

/-- The commands of managed jobs and of Playwright tests. -/
def controlsJob : DeviceCommand → Bool
  | .managedJobStart | .managedJobStatus | .managedJobOutput | .managedJobRenew | .managedJobStop
  | .playwrightTestStart | .playwrightTestStatus | .playwrightTestOutput
  | .playwrightTestStop => true
  | _ => false

theorem readProcessOutput_matches {file : RetainedFile} {locator sourceOperationId : String}
    {stream : ProcessOutputStream} {offset maxBytes : Nat} :
    (env.readProcessOutput file locator sourceOperationId stream offset maxBytes).matchesCommand
      (.readProcessOutput locator sourceOperationId stream offset maxBytes) = true := by
  unfold Surroundings.readProcessOutput
  split
  · rfl
  dsimp only
  split
  · rfl
  split
  · rfl
  split
  · next read =>
    have fits := AgentEphemeralDataStore.readRange_fits (Prod.ext read rfl)
    simp only [DeviceResult.matchesCommand, fits, decide_true, Bool.and_self]
  · rfl

theorem writeWorkspaceFile_matches {path dataBase64 : String} {expectedBytes : Nat}
    {contentSha256 : String} {precondition : WorkspaceWritePrecondition}
    (written : env.writeWorkspaceFile path dataBase64 expectedBytes contentSha256 precondition = .ok r) :
    r.matchesCommand
      (.writeWorkspaceFile path dataBase64 expectedBytes contentSha256 precondition) = true := by
  unfold Surroundings.writeWorkspaceFile at written
  split at written
  · cases written
  split at written
  · cases written
  obtain ⟨checked, written⟩ := Result.guard_eq_ok.mp written
  rw [not_or, not_not, not_not] at checked
  rw [writeFile_eq_ok written]
  simp only [DeviceResult.matchesCommand, checked.1, checked.2, decide_true, Bool.and_self]

/-- What is reported for a command is accepted for it, unless it controls a job. -/
theorem Surroundings.handle_matches (handled : env.handle command = some (.result (.ok r))) :
    r.matchesCommand command = true ↔ controlsJob command = false := by
  unfold handle at handled
  split at handled
  case h_1 =>
    obtain ⟨output, rfl⟩ := Worker.of_map_result (of_executorOutcome (Option.some.inj handled))
    exact iff_of_true rfl rfl
  case h_2 =>
    obtain ⟨output, rfl⟩ := Worker.of_map_result (of_executorOutcome (Option.some.inj handled))
    exact iff_of_true rfl rfl
  case h_3 =>
    split at handled
    · cases handled
      exact iff_of_true readProcessOutput_matches rfl
    · cases handled
  case h_13 =>
    obtain ⟨_, rfl⟩ := Worker.of_map_result (of_plainOutcome (Option.some.inj handled))
    exact iff_of_true rfl rfl
  case h_14 =>
    obtain ⟨opened, -, read⟩ := Worker.of_map (of_plainOutcome (Option.some.inj handled))
    exact iff_of_true (readFileRange_matches read) rfl
  case h_15 =>
    obtain ⟨opened, -, listed⟩ := Worker.of_map (of_plainOutcome (Option.some.inj handled))
    exact iff_of_true (listDirectoryPage_matches listed) rfl
  case h_16 =>
    have done := of_workspaceMutationOperationOutcome (Option.some.inj handled)
    split at done
    · cases done
    · exact iff_of_true (writeWorkspaceFile_matches (Worker.returned.inj done)) rfl
  case h_17 =>
    obtain ⟨backend, -, executed⟩ := Option.map_eq_some_iff.mp handled
    refine iff_of_true (executeComputerUseOperation_matches executed) ?_
    unfold controlsJob
    split <;> simp_all
  -- what is left are the jobs, whose results no command accepts
  all_goals first
    | cases of_runManagedJob (Option.some.inj handled)
      exact iff_of_false (fun h => (by cases h)) (fun h => (by cases h))
    | cases of_runPlaywright (Option.some.inj handled)
      exact iff_of_false (fun h => (by cases h)) (fun h => (by cases h))

/-- A result that is reported for a command is accepted in an envelope that agrees with the
command's exactly if the command controls no job; and a result that is no error is accepted only
for commands of one capability. -/
theorem validateCommandResult_exact :
    (∀ (env : Surroundings P R) (command : CommandEnvelope) (result : CommandResultEnvelope),
      Agree command result → env.handle command.command = some (.result (.ok result.result)) →
        (validateCommandResult command result = .ok () ↔ controlsJob command.command = false)) ∧
      ∀ (result : DeviceResult) (a b : DeviceCommand), (∀ code, result ≠ .error code) →
        result.matchesCommand a = true → result.matchesCommand b = true →
          a.capability = b.capability :=
  ⟨fun _ _ _ agree handled => agree.validate.trans (Surroundings.handle_matches handled),
    fun _ _ _ succeeded first second => DeviceResult.capability_unique succeeded first second⟩

/-- Surroundings in which jobs, files and the backend succeed. -/
def readySurroundings : Surroundings Unit Unit where
  deviceId := "device"
  deviceGeneration := 1
  capabilityRevision := 1
  process := .panicked
  shell := .panicked
  managedJobs := .returned (.ok ())
  playwright := some (.returned (.ok ()))
  ephemeralData := none
  retainedFile := .panicked
  poisoned := false
  nowMs := some 1
  staged := .returned (.ok ())
  policy := ⟨8, 8, 8⟩
  file _ offset := .returned (.ok ([104, 101, 108, 108, 111].drop offset))
  directory _ := .returned (.ok ⟨[], by decide⟩)
  workspace := none
  workspacePanics := false
  decode _ := none
  sha256Hex _ := ""
  backend := some .cua
  payloads := acceptedPayloads
  session := answeredCall
  call := answeredCall
  staging := stagedUntil (.ok ()) (.ok ())
  matchesReceipt _ := true

/-- A command for the device and what it reports. -/
def sentAs (command : DeviceCommand) : CommandEnvelope :=
  ⟨controlSchemaVersion, "device", 1, 1, "op-1", command⟩

def reportedAs (result : DeviceResult) : CommandResultEnvelope :=
  ⟨controlSchemaVersion, "device", 1, 1, "op-1", result⟩

theorem agree_sentAs (command : DeviceCommand) (result : DeviceResult) :
    Agree (sentAs command) (reportedAs result) :=
  ⟨rfl, rfl, rfl, rfl, rfl⟩

theorem validate_page_of_file :
    readySurroundings.handle (.readFile "a" 1 (some 3)) =
        some (.result (.ok (.fileContents [101, 108, 108] true 1 (some 4)))) ∧
      validateCommandResult (sentAs (.readFile "a" 1 (some 3)))
        (reportedAs (.fileContents [101, 108, 108] true 1 (some 4))) = .ok () :=
  ⟨rfl, (validateCommandResult_exact.1 readySurroundings (sentAs (.readFile "a" 1 (some 3)))
    (reportedAs (.fileContents [101, 108, 108] true 1 (some 4))) (agree_sentAs _ _) rfl).mpr rfl⟩

/-- A started job is reported and refused, and so is a started test. -/
theorem startedJob_refused :
    (readySurroundings.handle .managedJobStart = some (.result (.ok .managedJobStarted)) ∧
      validateCommandResult (sentAs .managedJobStart) (reportedAs .managedJobStarted) =
        .error .resultTypeMismatch) ∧
      readySurroundings.handle .playwrightTestStart = some (.result (.ok .playwrightTestStarted)) ∧
      validateCommandResult (sentAs .playwrightTestStart) (reportedAs .playwrightTestStarted) =
        .error .resultTypeMismatch :=
  ⟨⟨rfl, rfl⟩, rfl, rfl⟩

end Gateway.Agent
