import Gateway.Agent.Operation

/-! A lost effect is not an ordinary failure.

The Hub settles an ordinary failure for good, so an effect that may have happened must not
be reported as one. `LossReported` is that rule, for one execution; `lossReported_iff` says
exactly when the two adapters and the Agent keep it. -/
namespace Gateway.Agent
open Control.DeviceCommand
open Device hiding DeviceCommand
open Control

variable {P R : Type}

/-! ### What must not be reported as an ordinary failure -/

/-- The backend itself answered a call with an error, a refusal or a partial effect. -/
def Wait.Explicit (payloads : Payloads P) : Wait P → Prop
  | .response (some (.callToolResult raw)) =>
    raw.isError = some true ∨ payloads.refusalReason raw ≠ none
  | _ => False

/-- The outcome is a success of the command, or leaves open whether it had an effect. -/
def AgentOperationOutcome.Open (matchesReceipt : R → Bool) (command : DeviceCommand) :
    AgentOperationOutcome R → Prop
  | .result (.ok (.error code)) => code = .backendOutcomeIndeterminate
  | .result (.ok answer) => answer.matchesCommand command = true
  | .result (.error e) => operationErrorCode e = .backendOutcomeIndeterminate
  | .backendReceipt receipt => matchesReceipt receipt = true
  | .indeterminate _ => True

/-- Every call that was handed over may have had its effect: the outcome says so, unless the
backend itself told of that call that it failed. -/
def LossReported (payloads : Payloads P) (matchesReceipt : R → Bool) (command : DeviceCommand)
    (run : List (Wait P) × AgentOperationOutcome R) : Prop :=
  ∀ wait ∈ run.1, run.2.Open matchesReceipt command ∨ wait.Explicit payloads

/-! ### Calls whose outcome is lost -/

/-- The call was handed over and its wait ended by a closed cancellation channel, or by a
message that is no tool's answer. -/
def Call.Lost : Call P → Prop
  | .handed (.cancellation changed requested) => (changed && requested) = false
  | .handed (.response (some .other)) => True
  | _ => False

/-- A call that is not lost and was handed over has an answer or a known way of having none. -/
theorem callTool_of_handed {wait : Wait P} (kept : ¬(Call.handed wait).Lost) :
    (∃ raw, wait = .response (some (.callToolResult raw)) ∧ callTool (.handed wait) = .ok raw) ∨
      callTool (.handed wait) = .error .cancelled ∨ callTool (.handed wait) = .error .timedOut ∨
      callTool (.handed wait) = .error .responseLost := by
  cases wait with
  | cancellation changed requested =>
    have asked : (changed && requested) = true := Bool.eq_true_of_not_eq_false kept
    exact .inr (.inl (by rw [callTool, if_pos asked]))
  | timeout => exact .inr (.inr (.inl rfl))
  | response answer =>
    match answer with
    | none => exact .inr (.inr (.inr rfl))
    | some .other => exact absurd trivial kept
    | some (.callToolResult raw) => exact .inl ⟨raw, rfl, rfl⟩

variable {call session : Call P} {result : DeviceResult} {command : DeviceCommand}
  {payloads : Payloads P} {accepts : BrowserBackendResult → Bool} {staging : Staging}

/-- A lost call, and one that was not handed over, fails as an ordinary call does. -/
theorem callTool_of_lost (gone : call.Lost ∨ call.log = []) :
    ∃ e, callTool call = .error e ∧ e ≠ .cancelled ∧ e ≠ .timedOut ∧ e ≠ .responseLost := by
  cases call with
  | refused => exact ⟨_, rfl, by decide⟩
  | unconnected => exact ⟨_, rfl, by decide⟩
  | unsent => exact ⟨_, rfl, by decide⟩
  | handed wait =>
    have lost := gone.resolve_right (List.cons_ne_nil _ _)
    cases wait with
    | cancellation changed requested =>
      exact ⟨_, by rw [callTool, if_neg (Bool.eq_false_iff.mp lost)], by decide⟩
    | timeout => exact absurd lost id
    | response answer =>
      match answer with
      | none => exact absurd lost id
      | some .other => exact ⟨_, rfl, by decide⟩
      | some (.callToolResult _) => exact absurd lost id

/-! ### How a call fares -/

/-- The result is a success of the command. -/
def Succeeds (result : DeviceResult) (command : DeviceCommand) : Prop :=
  result.matchesCommand command = true ∧ ∀ code, result ≠ .error code

/-- How the call of a command with an effect fares: it is lost or was not handed over and fails;
it is refused; or its outcome is told. -/
inductive Fares (payloads : Payloads P) (call : Call P) (command : DeviceCommand) :
    Except M1BackendError BackendExecutionOutcome → Prop
  | gone {e : M1BackendError} (why : call.Lost ∨ call.log = []) : Fares payloads call command (.error e)
  | refused {e : M1BackendError} {raw : CallToolResult P}
      (answered : call = .handed (.response (some (.callToolResult raw))))
      (reason : payloads.refusalReason raw ≠ none) : Fares payloads call command (.error e)
  | told {outcome : BackendExecutionOutcome} (handed : call.log ≠ []) (kept : ¬call.Lost)
      (succeeds : ∀ result, outcome = .completed result → Succeeds result command) :
      Fares payloads call command (.ok outcome)

theorem Succeeds.isOpen {matchesReceipt : R → Bool} (h : Succeeds result command) :
    (AgentOperationOutcome.result (.ok result)).Open matchesReceipt command := by
  unfold AgentOperationOutcome.Open
  split
  · next code eq => exact absurd (Except.ok.inj (AgentOperationOutcome.result.inj eq)) (h.2 code)
  · next eq =>
    cases eq
    exact h.1
  all_goals cases ‹_ = _›

theorem operationErrorCode_backend (e : M1BackendError) :
    operationErrorCode (.backend e) ≠ .backendOutcomeIndeterminate := by
  cases e with
  | browserRefused reason => cases reason <;> decide
  | _ =>
    intro h
    cases h

section Settle
variable {payloads : Payloads P} {call : Call P} {command : DeviceCommand}
  {adapter : ComputerUseBackendAdapter P R} {matchesReceipt : R → Bool}
  {capability : DeviceCapability} {completed : DeviceResult → AgentOperationOutcome R}
  {result : Except M1BackendError BackendExecutionOutcome}

theorem recover_eq_fallback (forgetful : adapter.recoverExecutionReceipt = .ok none)
    (fallback : AgentOperationOutcome R) :
    recoverAuthoritativeBackendReceipt adapter matchesReceipt capability fallback = fallback := by
  unfold recoverAuthoritativeBackendReceipt
  rw [forgetful]
  split <;> rfl

/-- An outcome that is told stays open if completion does. -/
theorem settle_isOpen (forgetful : adapter.recoverExecutionReceipt = .ok none)
    {outcome : BackendExecutionOutcome}
    (settles : ∀ r, outcome = .completed r → (completed r).Open matchesReceipt command) :
    (settleExecution adapter matchesReceipt capability completed (.ok outcome)).Open matchesReceipt
      command := by
  cases outcome with
  | completed r => exact settles r rfl
  | _ =>
    simp only [settleExecution, recover_eq_fallback forgetful]
    trivial

theorem Call.Lost.not_explicit {wait : Wait P} (lost : (Call.handed wait).Lost) :
    ¬wait.Explicit payloads := by
  cases wait with
  | response answer =>
    match answer with
    | some (.callToolResult _) => exact absurd lost id
    | some .other => exact id
    | none => exact id
  | _ => exact id

theorem Fares.isOpen (fares : Fares payloads call command result) {r : DeviceResult}
    (done : result = .ok (.completed r)) :
    (AgentOperationOutcome.result (.ok r)).Open matchesReceipt command := by
  subst done
  cases fares with
  | told handed kept succeeds => exact (succeeds r rfl).isOpen

/-- What is made of one call reports a loss exactly if the call is not lost. -/
theorem Fares.lossReported_iff_kept (fares : Fares payloads call command result)
    (forgetful : adapter.recoverExecutionReceipt = .ok none)
    (settles : ∀ r, result = .ok (.completed r) → (completed r).Open matchesReceipt command) :
    LossReported payloads matchesReceipt command
      (call.log, settleExecution adapter matchesReceipt capability completed result) ↔ ¬call.Lost := by
  cases fares with
  | @gone e why =>
    refine ⟨fun reported lost => ?_, fun kept => ?_⟩
    · cases call with
      | handed wait =>
        rcases reported wait List.mem_cons_self with opened | explicit
        · exact operationErrorCode_backend e opened
        · exact lost.not_explicit explicit
      | _ => exact lost
    · rw [why.resolve_left kept]
      exact List.forall_mem_nil _
  | refused answered reason =>
    subst answered
    refine iff_of_true (fun wait at_call => ?_) id
    rw [List.mem_singleton.mp at_call]
    exact .inr (.inr reason)
  | told handed kept succeeds =>
    exact iff_of_true
      (fun _ _ => .inl (settle_isOpen forgetful fun r eq => settles r (congrArg _ eq))) kept

/-- What is made of a call after another one must also do for the other. -/
theorem Fares.lossReported_after {earlier : Wait P} (fares : Fares payloads call command result)
    (unrefused : ∀ e, result = .error e → call.Lost ∨ call.log = [])
    (forgetful : adapter.recoverExecutionReceipt = .ok none)
    (settles : ∀ r, result = .ok (.completed r) → (completed r).Open matchesReceipt command) :
    LossReported payloads matchesReceipt command
      (earlier :: call.log, settleExecution adapter matchesReceipt capability completed result) ↔
      ¬call.Lost ∧ (call.log = [] → earlier.Explicit payloads) := by
  refine List.forall_mem_cons.trans ((and_congr_right' (fares.lossReported_iff_kept forgetful settles)).trans ?_)
  cases result with
  | error e =>
    constructor
    · exact fun ⟨first, kept⟩ =>
        ⟨kept, fun _ => first.resolve_left (operationErrorCode_backend e)⟩
    · exact fun ⟨kept, explicit⟩ =>
        ⟨.inr (explicit ((unrefused e rfl).resolve_left kept)), kept⟩
  | ok outcome =>
    cases fares with
    | told handed kept succeeds =>
      exact iff_of_true ⟨.inl (settle_isOpen forgetful fun r eq => settles r (congrArg _ eq)), kept⟩
        ⟨kept, fun none => absurd none handed⟩

end Settle

/-! ### The calls of the two adapters -/

/-- The tool's answer is neither an error nor a refusal. -/
def Call.Accepted (payloads : Payloads P) (call : Call P) (raw : CallToolResult P) : Prop :=
  callTool call = .ok raw ∧ raw.isError ≠ some true ∧ payloads.refusalReason raw = none

theorem callTool_eq_ok {raw : CallToolResult P} (answered : callTool call = .ok raw) :
    call = .handed (.response (some (.callToolResult raw))) := by
  unfold callTool at answered
  split at answered
  case h_5 =>
    cases answered
    rfl
  case h_4 => split at answered <;> cases answered
  all_goals cases answered

/-- An error other than a cancellation, a timeout and a lost response is an ordinary one. -/
theorem gone_of_callTool {e : CallError} (failed : callTool call = .error e)
    (ordinary : e ≠ .cancelled ∧ e ≠ .timedOut ∧ e ≠ .responseLost) :
    call.Lost ∨ call.log = [] := by
  by_contra! kept
  cases call with
  | handed wait =>
    rcases callTool_of_handed kept.1 with ⟨raw, -, answered⟩ | other | other | other
    · cases answered.symm.trans failed
    · exact ordinary.1 (Except.error.inj (failed.symm.trans other))
    · exact ordinary.2.1 (Except.error.inj (failed.symm.trans other))
    · exact ordinary.2.2 (Except.error.inj (failed.symm.trans other))
  | _ => exact kept.2 rfl

/-- A call with a known way of having no answer was handed over and is not lost. -/
theorem kept_of_callTool {e : CallError} (failed : callTool call = .error e)
    (known : e = .cancelled ∨ e = .timedOut ∨ e = .responseLost) : call.log ≠ [] ∧ ¬call.Lost := by
  by_contra gone
  rw [not_and_or, not_not, not_not] at gone
  obtain ⟨e', failed', other⟩ := callTool_of_lost gone.symm
  obtain rfl := Except.error.inj (failed.symm.trans failed')
  rcases known with rfl | rfl | rfl
  · exact other.1 rfl
  · exact other.2.1 rfl
  · exact other.2.2 rfl

theorem kept_of_answer {raw : CallToolResult P} (answered : callTool call = .ok raw) :
    call.log ≠ [] ∧ ¬call.Lost := by
  rw [callTool_eq_ok answered]
  exact ⟨List.cons_ne_nil _ _, id⟩

theorem browserCompletion_matches (command : BrowserBackendCommand) :
    (browserCompletion command).matchesCommand command = true := by
  cases command with
  | dialog action => cases action <;> rfl
  | _ => rfl

/-- A browser call completes exactly if its answer is accepted and can be read. -/
theorem browserCall_eq_completed {command : BrowserBackendCommand} {r : BrowserBackendResult} :
    browserCall payloads command call = .ok (.completed r) ↔
      r = browserCompletion command ∧
        ∃ raw, call.Accepted payloads raw ∧ payloads.normalizeBrowser command raw = .ok () := by
  refine ⟨fun completed => ?_, fun ⟨same, raw, ⟨answered, fine, unrefused⟩, read⟩ => ?_⟩
  · unfold browserCall at completed
    split at completed
    case h_5 raw answered =>
      split at completed
      · cases completed
      · next unrefused =>
        split at completed
        · split at completed <;> cases completed
        · next fine =>
          split at completed
          · next read =>
            cases completed
            exact ⟨rfl, raw, ⟨answered, fine, unrefused⟩, read⟩
          · split at completed <;> cases completed
    case h_3 => split at completed <;> cases completed
    all_goals cases completed
  · simp only [browserCall, answered, unrefused, if_neg fine, read, same]

/-- A told browser outcome stays told when the adapter passes it on. -/
theorem fares_adapted {command : BrowserBackendCommand} (kept : call.log ≠ [] ∧ ¬call.Lost)
    (mismatch unreadable : String) (capability : DeviceCapability)
    (accepted : accepts (browserCompletion command) = true) {outcome : BrowserExecutionOutcome}
    (completes : ∀ r, outcome = .completed r → r = browserCompletion command) :
    Fares payloads call (.browser command)
      (adaptBrowser mismatch unreadable capability accepts (.ok outcome)) := by
  cases outcome with
  | completed r =>
    obtain rfl := completes r rfl
    simp only [adaptBrowser, accepted]
    refine .told kept.1 kept.2 fun result same => ?_
    cases same
    exact ⟨browserCompletion_matches command, fun _ h => by cases h⟩
  | _ => exact .told kept.1 kept.2 fun _ h => by cases h

theorem fares_browser (payloads : Payloads P) (call : Call P) {command : BrowserBackendCommand}
    (effect : browserCommandIsReadOnly command = false) (mismatch unreadable : String)
    (capability : DeviceCapability) (accepted : accepts (browserCompletion command) = true) :
    Fares payloads call (.browser command)
      (adaptBrowser mismatch unreadable capability accepts (browserCall payloads command call)) := by
  have told {outcome : BrowserExecutionOutcome} (kept : call.log ≠ [] ∧ ¬call.Lost)
      (eq : browserCall payloads command call = .ok outcome) :
      Fares payloads call (.browser command)
        (adaptBrowser mismatch unreadable capability accepts (browserCall payloads command call)) := by
    rw [eq]
    refine fares_adapted kept mismatch unreadable capability accepted fun r same => ?_
    exact (browserCall_eq_completed.mp (eq.trans (congrArg _ same))).1
  cases fate : callTool call with
  | error e =>
    by_cases known : e = .cancelled ∨ e = .timedOut ∨ e = .responseLost
    · refine (?_ : ∃ outcome, browserCall payloads command call = .ok outcome).elim fun _ =>
        told (kept_of_callTool fate known)
      rcases known with rfl | rfl | rfl <;> simp [browserCall, fate, effect]
    · simp only [not_or] at known
      have failed : browserCall payloads command call = .error (.backend e) := by
        unfold browserCall
        split <;> simp_all
      rw [failed]
      exact .gone (gone_of_callTool fate known)
  | ok raw =>
    cases refusal : payloads.refusalReason raw with
    | some reason =>
      have failed : browserCall payloads command call = .error (.backendRefused reason) := by
        simp only [browserCall, fate, refusal]
      rw [failed]
      exact .refused (callTool_eq_ok fate) (refusal ▸ Option.some_ne_none reason)
    | none =>
      refine (?_ : ∃ outcome, browserCall payloads command call = .ok outcome).elim fun _ =>
        told (kept_of_answer fate)
      simp only [browserCall, fate, refusal, effect]
      split
      · exact ⟨_, rfl⟩
      · split <;> exact ⟨_, rfl⟩

theorem cuaCompletion_succeeds (completes : cuaCompletion command = some result) :
    Succeeds result command := by
  unfold cuaCompletion at completes
  split at completes <;> cases completes <;> exact ⟨rfl, fun _ h => by cases h⟩

theorem macosCompletion_succeeds (completes : macosCompletion command = some result) :
    Succeeds result command := by
  unfold macosCompletion at completes
  split at completes <;> cases completes <;> exact ⟨rfl, fun _ h => by cases h⟩

section Answer
variable {payloads : Payloads P} {call : Call P} {command : DeviceCommand}
  {result : Except M1BackendError BackendExecutionOutcome}

/-- The outcome is told, and is a success if it is complete. -/
def Tells (command : DeviceCommand) (result : Except M1BackendError BackendExecutionOutcome) : Prop :=
  ∃ outcome, result = .ok outcome ∧ ∀ r, outcome = .completed r → Succeeds r command

/-- A call fares as it should if all but an ordinary error is told. -/
theorem fares_of_tells
    (answer : ∀ raw, callTool call = .ok raw → Tells command result)
    (known : ∀ e, callTool call = .error e → e = .cancelled ∨ e = .timedOut ∨ e = .responseLost →
      Tells command result)
    (ordinary : ∀ e, callTool call = .error e → e ≠ .cancelled ∧ e ≠ .timedOut ∧ e ≠ .responseLost →
      ∃ e', result = .error e') : Fares payloads call command result := by
  cases fate : callTool call with
  | ok raw =>
    obtain ⟨outcome, rfl, succeeds⟩ := answer raw fate
    exact .told (kept_of_answer fate).1 (kept_of_answer fate).2 succeeds
  | error e =>
    by_cases one : e = .cancelled ∨ e = .timedOut ∨ e = .responseLost
    · obtain ⟨outcome, rfl, succeeds⟩ := known e fate one
      exact .told (kept_of_callTool fate one).1 (kept_of_callTool fate one).2 succeeds
    · simp only [not_or] at one
      obtain ⟨e', rfl⟩ := ordinary e fate one
      exact .gone (gone_of_callTool fate one)

theorem tells_indeterminate {outcome : BackendExecutionOutcome}
    (incomplete : ∀ r, outcome ≠ .completed r) : Tells command (.ok outcome) :=
  ⟨outcome, rfl, fun r eq => absurd eq (incomplete r)⟩

theorem cuaNormalize_succeeds {raw : CallToolResult P} {r : DeviceResult}
    (read : cuaNormalize payloads command raw = .ok r) : Succeeds r command := by
  unfold cuaNormalize at read
  split at read
  · cases read
  · next completes =>
    split at read
    · cases read
      exact cuaCompletion_succeeds completes
    · split at read
      · cases read
      · cases read
        exact cuaCompletion_succeeds completes

theorem macosNormalize_succeeds {raw : CallToolResult P} {r : DeviceResult}
    (read : macosNormalize payloads command raw = .ok r) : Succeeds r command := by
  unfold macosNormalize at read
  split at read
  · cases read
  · next completes =>
    split at read
    · cases read
      exact macosCompletion_succeeds completes
    · split at read
      · cases read
      · cases read
        exact macosCompletion_succeeds completes

/-- An answered call of a command with an effect is told. -/
theorem tells_cuaAnswer (effect : command.isReadOnly = false) {raw : CallToolResult P}
    (answered : callTool call = .ok raw) : Tells command (cuaAnswer payloads command call) := by
  simp only [cuaAnswer, answered, effect]
  split
  · exact tells_indeterminate fun _ h => by cases h
  · split
    · next r read =>
      refine ⟨_, rfl, fun r' same => ?_⟩
      cases same
      exact cuaNormalize_succeeds read
    · exact tells_indeterminate fun _ h => by cases h

theorem fares_cuaAnswer (effect : command.isReadOnly = false) :
    Fares payloads call command (cuaAnswer payloads command call) := by
  refine fares_of_tells (fun raw answered => tells_cuaAnswer effect answered)
    (fun e failed known => ?_) (fun e failed ordinary => ?_)
  · rcases known with rfl | rfl | rfl <;> simp only [cuaAnswer, failed, effect] <;>
      exact tells_indeterminate fun _ h => by cases h
  · unfold cuaAnswer
    split <;> simp_all

theorem fares_macos (effect : command.isReadOnly = false)
    (mapped : macosMapCommand payloads command = .ok ()) :
    (macosExecute payloads call command).1 = call.log ∧
      Fares payloads call command (macosExecute payloads call command).2 := by
  unfold macosExecute
  rw [mapped]
  refine ⟨rfl, fares_of_tells (fun raw answered => ?_) (fun e failed known => ?_)
    (fun e failed ordinary => ?_)⟩
  · simp only [answered, effect]
    split
    · exact tells_indeterminate fun _ h => by cases h
    · split
      · next r read =>
        refine ⟨_, rfl, fun r' same => ?_⟩
        cases same
        exact macosNormalize_succeeds read
      · exact tells_indeterminate fun _ h => by cases h
  · rcases known with rfl | rfl | rfl <;> simp only [failed, macosMcpCallFailure, effect] <;>
      exact tells_indeterminate fun _ h => by cases h
  · simp only [macosMcpCallFailure]
    split <;> simp_all

end Answer

/-! ### When a loss is reported -/

/-- The two backends an operation can run on. -/
inductive Backend where
  | cua
  | macosMcp

def Backend.adapter (R : Type) (payloads : Payloads P) (session call : Call P) :
    Backend → ComputerUseBackendAdapter P R
  | .cua => cuaMcpAdapter R payloads session call
  | .macosMcp => macosMcpAdapter R payloads call

/-- The session of the command is revived before its own call is made. -/
def Backend.Revives (payloads : Payloads P) (command : DeviceCommand) : Backend → Prop
  | .cua => payloads.mapCommand command = .ok () ∧ payloads.withinBudget command = true ∧
      refreshesSession command = true
  | .macosMcp => False

/-- The command's own call is made. -/
def Backend.Calls (payloads : Payloads P) (session : Call P) (staging : Staging) :
    Backend → DeviceCommand → Prop
  | .cua, .browser .upload =>
    staging.resolved = .ok () ∧ payloads.validateBrowser .upload = .ok () ∧
      payloads.resolvedAll .upload = true
  | .cua, .browser .download =>
    staging.prepared = .ok () ∧ payloads.validateBrowser .download = .ok () ∧
      payloads.validRoot = true
  | .cua, .browser command =>
    payloads.validateBrowser command = .ok () ∧ payloads.mapBrowser command = .ok ()
  | .cua, command =>
    payloads.mapCommand command = .ok () ∧ payloads.withinBudget command = true ∧
      (refreshesSession command = true →
        ∃ raw, callTool session = .ok raw ∧ raw.isError ≠ some true)
  | .macosMcp, command => macosMapCommand payloads command = .ok ()

/-- No call that is made is lost, no step after an accepted call fails. -/
structure Unharmed (payloads : Payloads P) (session call : Call P) (staging : Staging)
    (backend : Backend) (command : DeviceCommand) : Prop where
  sessionKept : backend.Revives payloads command → ¬session.Lost
  revived : backend.Revives payloads command → ∀ raw, session.Accepted payloads raw → call.log ≠ []
  callKept : backend.Calls payloads session staging command → ¬call.Lost
  uploaded : command = .browser .upload → backend.Calls payloads session staging command →
    ∀ raw, call.Accepted payloads raw → payloads.normalizeBrowser .upload raw = .ok () →
      staging.consumed = .ok ()
  downloaded : command = .browser .download → backend.Calls payloads session staging command →
    ∀ raw, call.Accepted payloads raw → payloads.normalizeBrowser .download raw = .ok () →
      staging.finalized = .ok ()

theorem calls_browser {browser : BrowserBackendCommand}
    (plain : browser ≠ .upload ∧ browser ≠ .download) :
    Backend.cua.Calls payloads session staging (.browser browser) ↔
      payloads.validateBrowser browser = .ok () ∧ payloads.mapBrowser browser = .ok () := by
  cases browser with
  | upload => exact absurd rfl plain.1
  | download => exact absurd rfl plain.2
  | _ => exact Iff.rfl

theorem calls_desktop (desktop : ∀ browser, command ≠ .browser browser) :
    Backend.cua.Calls payloads session staging command ↔
      payloads.mapCommand command = .ok () ∧ payloads.withinBudget command = true ∧
        (refreshesSession command = true →
          ∃ raw, callTool session = .ok raw ∧ raw.isError ≠ some true) := by
  cases command with
  | browser b => exact absurd rfl (desktop b)
  | _ => exact Iff.rfl

/-- A command without a session and without staging has only its own call to lose. -/
theorem unharmed_iff_kept {backend : Backend} (alone : ¬backend.Revives payloads command)
    (plain : command ≠ .browser .upload ∧ command ≠ .browser .download) :
    Unharmed payloads session call staging backend command ↔
      (backend.Calls payloads session staging command → ¬call.Lost) :=
  ⟨Unharmed.callKept, fun kept => ⟨fun h => absurd h alone, fun h => absurd h alone, kept,
    fun h => absurd h plain.1, fun h => absurd h plain.2⟩⟩

section Reported
variable {payloads : Payloads P} {session call : Call P} {staging : Staging}
  {matchesReceipt : R → Bool} {capability : DeviceCapability} {command : DeviceCommand}

theorem lossReported_of_no_call {outcome : AgentOperationOutcome R} :
    LossReported payloads matchesReceipt command ([], outcome) :=
  List.forall_mem_nil _

/-- A command that is no transfer reports what its adapter's execution comes to. -/
theorem execute_of_no_transfer (adapter : ComputerUseBackendAdapter P R)
    (plain : command ≠ .browser .upload ∧ command ≠ .browser .download) :
    executeComputerUseOperation adapter matchesReceipt staging capability command =
      ((adapter.execute command).1, settleExecution adapter matchesReceipt capability
        (fun result => .result (.ok result)) (adapter.execute command).2) := by
  unfold executeComputerUseOperation
  split
  · exact absurd rfl plain.1
  · exact absurd rfl plain.2
  · rfl

variable {accepts : BrowserBackendResult → Bool} {adapter : ComputerUseBackendAdapter P R}

theorem adaptBrowser_eq_completed {mismatch unreadable : String}
    {run : Except BrowserExecutionError BrowserExecutionOutcome} {r : DeviceResult}
    (completed : adaptBrowser mismatch unreadable capability accepts run = .ok (.completed r)) :
    ∃ b, run = .ok (.completed b) := by
  unfold adaptBrowser at completed
  split at completed
  · exact ⟨_, rfl⟩
  all_goals cases completed

/-- A transfer reports a loss exactly if its call is not lost and the staging step after an
accepted call succeeds. -/
theorem lossReported_transfer (adapter : ComputerUseBackendAdapter P R)
    (forgetful : adapter.recoverExecutionReceipt = .ok none) {transfer : BrowserBackendCommand}
    (effect : browserCommandIsReadOnly transfer = false) (mismatch unreadable : String)
    (refusing : DeviceCapability) (accepted : accepts (browserCompletion transfer) = true)
    {completed : DeviceResult → AgentOperationOutcome R} {staged : Prop}
    (settles : (completed (.browser (browserCompletion transfer))).Open matchesReceipt
      (.browser transfer) ↔ staged) : LossReported payloads matchesReceipt (.browser transfer)
      (call.log, settleExecution adapter matchesReceipt capability completed
        (adaptBrowser mismatch unreadable refusing accepts (browserCall payloads transfer call))) ↔
      ¬call.Lost ∧ ∀ raw, call.Accepted payloads raw →
        payloads.normalizeBrowser transfer raw = .ok () → staged := by
  by_cases read : ∃ raw, call.Accepted payloads raw ∧ payloads.normalizeBrowser transfer raw = .ok ()
  · have done := browserCall_eq_completed.mpr ⟨rfl, read⟩
    obtain ⟨raw, taken, normalized⟩ := read
    have answered := callTool_eq_ok taken.1
    simp only [done, adaptBrowser, accepted]
    constructor
    · intro reported
      refine ⟨(kept_of_answer taken.1).2, fun _ _ _ => settles.mp ?_⟩
      rw [answered] at reported
      refine (reported _ List.mem_cons_self).resolve_right fun explicit => ?_
      exact explicit.elim taken.2.1 fun refused => refused taken.2.2
    · exact fun kept _ _ => .inl (settles.mpr (kept.2 raw taken normalized))
  · refine ((fares_browser payloads call effect mismatch unreadable refusing accepted).lossReported_iff_kept
      forgetful fun r eq => ?_).trans (and_iff_left fun raw taken normalized => ?_).symm
    · obtain ⟨b, done⟩ := adaptBrowser_eq_completed eq
      exact absurd (browserCall_eq_completed.mp done).2 read
    · exact absurd ⟨raw, taken, normalized⟩ read

theorem completeUpload_isOpen :
    (completeUpload staging (.browser .uploadAssigned) : AgentOperationOutcome R).Open matchesReceipt
      (.browser .upload) ↔ staging.consumed = .ok () := by
  unfold completeUpload
  cases staging.consumed with
  | ok u => exact iff_of_true rfl rfl
  | error e => cases e <;> exact iff_of_false (fun h => by cases h) (fun h => by cases h)

theorem completeDownload_isOpen :
    (completeDownload staging (.browser .downloadStaged) : AgentOperationOutcome R).Open matchesReceipt
      (.browser .download) ↔ staging.finalized = .ok () := by
  unfold completeDownload
  cases staging.finalized with
  | ok u => exact iff_of_true rfl rfl
  | error e => cases e <;> exact iff_of_false (fun h => by cases h) (fun h => by cases h)

theorem lossReported_upload :
    LossReported payloads matchesReceipt (.browser .upload)
      (executeComputerUseOperation (cuaMcpAdapter R payloads session call) matchesReceipt staging
        capability (.browser .upload)) ↔
      (Backend.cua.Calls payloads session staging (.browser .upload) →
        ¬call.Lost ∧ ∀ raw, call.Accepted payloads raw →
          payloads.normalizeBrowser .upload raw = .ok () → staging.consumed = .ok ()) := by
  by_cases calls : Backend.cua.Calls payloads session staging (.browser .upload)
  · obtain ⟨resolved, valid, all⟩ := id calls
    simp only [executeComputerUseOperation, resolved, cuaMcpAdapter, cuaExecuteBrowserUpload,
      executeCuaBrowserUpload, valid, all, calls, true_implies]
    exact lossReported_transfer _ rfl rfl _ _ _ rfl completeUpload_isOpen
  · refine iff_of_true ?_ fun h => absurd h calls
    unfold executeComputerUseOperation
    cases resolved : staging.resolved with
    | error e => exact lossReported_of_no_call
    | ok u =>
      simp only [cuaMcpAdapter, cuaExecuteBrowserUpload, executeCuaBrowserUpload]
      cases valid : payloads.validateBrowser .upload with
      | error e => exact lossReported_of_no_call
      | ok u =>
        have some_left : ¬payloads.resolvedAll .upload = true := fun all =>
          calls ⟨resolved, valid, all⟩
        simp only [some_left]
        exact lossReported_of_no_call

theorem lossReported_download :
    LossReported payloads matchesReceipt (.browser .download)
      (executeComputerUseOperation (cuaMcpAdapter R payloads session call) matchesReceipt staging
        capability (.browser .download)) ↔
      (Backend.cua.Calls payloads session staging (.browser .download) →
        ¬call.Lost ∧ ∀ raw, call.Accepted payloads raw →
          payloads.normalizeBrowser .download raw = .ok () → staging.finalized = .ok ()) := by
  by_cases calls : Backend.cua.Calls payloads session staging (.browser .download)
  · obtain ⟨prepared, valid, root⟩ := id calls
    simp only [executeComputerUseOperation, prepared, cuaMcpAdapter, cuaExecuteBrowserDownload,
      executeCuaBrowserDownload, valid, root, calls, true_implies]
    exact lossReported_transfer _ rfl rfl _ _ _ rfl completeDownload_isOpen
  · refine iff_of_true ?_ fun h => absurd h calls
    unfold executeComputerUseOperation
    cases prepared : staging.prepared with
    | error e => exact lossReported_of_no_call
    | ok u =>
      simp only [cuaMcpAdapter, cuaExecuteBrowserDownload, executeCuaBrowserDownload]
      cases valid : payloads.validateBrowser .download with
      | error e => exact lossReported_of_no_call
      | ok u =>
        have rootless : ¬payloads.validRoot = true := fun root => calls ⟨prepared, valid, root⟩
        simp only [rootless]
        exact lossReported_of_no_call

/-- A command that is no transfer reports a loss if its call does not fare otherwise. -/
theorem lossReported_plain (forgetful : adapter.recoverExecutionReceipt = .ok none)
    (plain : command ≠ .browser .upload ∧ command ≠ .browser .download)
    (made : (adapter.execute command).1 = call.log)
    (fares : Fares payloads call command (adapter.execute command).2) :
    LossReported payloads matchesReceipt command
      (executeComputerUseOperation adapter matchesReceipt staging capability command) ↔
      ¬call.Lost := by
  rw [execute_of_no_transfer adapter plain, made]
  exact fares.lossReported_iff_kept forgetful fun r eq => fares.isOpen eq

/-- So does one whose call is not made. -/
theorem lossReported_uncalled (plain : command ≠ .browser .upload ∧ command ≠ .browser .download)
    (uncalled : (adapter.execute command).1 = []) : LossReported payloads matchesReceipt command
      (executeComputerUseOperation adapter matchesReceipt staging capability command) := by
  rw [execute_of_no_transfer adapter plain, uncalled]
  exact lossReported_of_no_call

theorem lossReported_browser {browser : BrowserBackendCommand}
    (plain : browser ≠ .upload ∧ browser ≠ .download)
    (effect : browserCommandIsReadOnly browser = false) :
    LossReported payloads matchesReceipt (.browser browser)
      (executeComputerUseOperation (cuaMcpAdapter R payloads session call) matchesReceipt staging
        capability (.browser browser)) ↔
      (payloads.validateBrowser browser = .ok () ∧ payloads.mapBrowser browser = .ok () →
        ¬call.Lost) := by
  have plain' : Control.DeviceCommand.browser browser ≠ .browser .upload ∧
      Control.DeviceCommand.browser browser ≠ .browser .download :=
    ⟨fun h => plain.1 (Control.DeviceCommand.browser.inj h),
      fun h => plain.2 (Control.DeviceCommand.browser.inj h)⟩
  have other : ¬(browser = .upload ∨ browser = .download) := not_or.mpr plain
  by_cases calls : payloads.validateBrowser browser = .ok () ∧ payloads.mapBrowser browser = .ok ()
  · simp only [calls, and_self, true_implies]
    refine lossReported_plain rfl plain' ?_ ?_ <;>
      simp only [cuaMcpAdapter, cuaExecute, executeCuaBrowser, calls.1, calls.2, if_neg other]
    exact fares_browser payloads call effect _ _ _ (browserCompletion_matches browser)
  · refine iff_of_true (lossReported_uncalled plain' ?_) fun h => absurd h calls
    simp only [cuaMcpAdapter, cuaExecute, executeCuaBrowser]
    cases valid : payloads.validateBrowser browser with
    | error e => rfl
    | ok u =>
      cases mapped : payloads.mapBrowser browser with
      | error e => simp only [if_neg other]
      | ok u => exact absurd ⟨valid, mapped⟩ calls

theorem lossReported_macos (effect : command.isReadOnly = false) :
    LossReported payloads matchesReceipt command
      (executeComputerUseOperation (macosMcpAdapter R payloads call) matchesReceipt staging
        capability command) ↔
      (macosMapCommand payloads command = .ok () → ¬call.Lost) := by
  by_cases calls : macosMapCommand payloads command = .ok ()
  · have plain : command ≠ .browser .upload ∧ command ≠ .browser .download := by
      constructor <;> rintro rfl <;> cases calls
    simp only [calls, true_implies]
    exact lossReported_plain rfl plain (fares_macos effect calls).1 (fares_macos effect calls).2
  · refine iff_of_true ?_ fun h => absurd h calls
    by_cases plain : command ≠ .browser .upload ∧ command ≠ .browser .download
    · refine lossReported_uncalled plain ?_
      simp only [macosMcpAdapter, macosExecute]
      cases mapped : macosMapCommand payloads command with
      | error e => rfl
      | ok u => exact absurd mapped calls
    · rw [not_and_or, not_not, not_not] at plain
      rcases plain with rfl | rfl
      · unfold executeComputerUseOperation
        cases staging.resolved <;> exact lossReported_of_no_call
      · unfold executeComputerUseOperation
        cases staging.prepared <;> exact lossReported_of_no_call

/-- The one command with an effect whose session is revived. -/
theorem eq_expandInteractionScope (effect : command.isReadOnly = false)
    (refreshes : refreshesSession command = true) : command = .expandInteractionScope := by
  unfold refreshesSession at refreshes
  split at refreshes
  · rfl
  · cases effect
  · cases refreshes

/-- A session that is not revived decides how the command fares. -/
theorem cuaExecute_of_unstarted (call : Call P)
    (mapped : payloads.mapCommand .expandInteractionScope = .ok ())
    (budget : payloads.withinBudget .expandInteractionScope = true)
    (unstarted : ¬∃ raw, callTool session = .ok raw ∧ raw.isError ≠ some true) :
    (cuaExecute payloads session call .expandInteractionScope).1 = session.log ∧
      Fares payloads session .expandInteractionScope
        (cuaExecute payloads session call .expandInteractionScope).2 := by
  simp only [cuaExecute, mapped, budget, refreshesSession, not_true, if_false]
  cases fate : callTool session with
  | ok raw =>
    have failed : raw.isError = some true := by
      by_contra fine
      exact unstarted ⟨raw, fate, fine⟩
    simp only [failed, if_true, true_and]
    exact .told (kept_of_answer fate).1 (kept_of_answer fate).2 fun _ h => by cases h
  | error e =>
    by_cases known : e = .cancelled ∨ e = .timedOut ∨ e = .responseLost
    · have kept := kept_of_callTool fate known
      rcases known with rfl | rfl | rfl <;>
        exact ⟨rfl, .told kept.1 kept.2 fun _ h => by cases h⟩
    · simp only [not_or] at known
      have gone := gone_of_callTool fate known
      split
      · next eq => exact absurd (Except.error.inj eq) known.1
      · next eq => exact absurd (Except.error.inj eq) known.2.1
      · next eq => exact absurd (Except.error.inj eq) known.2.2
      · exact ⟨rfl, .gone gone⟩
      · next eq => cases eq

/-- Once the session is revived, its call and the command's own have been handed over. -/
theorem cuaExecute_of_started {raw : CallToolResult P}
    (mapped : payloads.mapCommand .expandInteractionScope = .ok ())
    (budget : payloads.withinBudget .expandInteractionScope = true)
    (answered : callTool session = .ok raw) (fine : raw.isError ≠ some true) :
    cuaExecute payloads session call .expandInteractionScope =
      (session.log ++ call.log, cuaAnswer payloads .expandInteractionScope call) := by
  simp only [cuaExecute, mapped, budget, refreshesSession, not_true, if_false, answered,
    if_neg fine]

/-- A command whose session is revived has two calls to lose. -/
theorem lossReported_revived (effect : command.isReadOnly = false)
    (revives : Backend.cua.Revives payloads command) :
    LossReported payloads matchesReceipt command
      (executeComputerUseOperation (cuaMcpAdapter R payloads session call) matchesReceipt staging
        capability command) ↔
      ¬session.Lost ∧ (∀ raw, session.Accepted payloads raw → call.log ≠ []) ∧
        ((∃ raw, callTool session = .ok raw ∧ raw.isError ≠ some true) → ¬call.Lost) := by
  obtain ⟨mapped, budget, refreshes⟩ := revives
  obtain rfl := eq_expandInteractionScope effect refreshes
  have plain : expandInteractionScope ≠ .browser .upload ∧
      expandInteractionScope ≠ .browser .download := by decide
  by_cases started : ∃ raw, callTool session = .ok raw ∧ raw.isError ≠ some true
  · obtain ⟨raw, answered, fine⟩ := started
    rw [execute_of_no_transfer _ plain]
    simp only [cuaMcpAdapter, cuaExecute_of_started mapped budget answered fine]
    rw [callTool_eq_ok answered]
    have fares : Fares payloads call .expandInteractionScope (cuaAnswer payloads _ call) :=
      fares_cuaAnswer effect
    refine (fares.lossReported_after (fun e failed => ?_) rfl fun r done => ?_).trans ?_
    · rw [failed] at fares
      cases fares with
      | gone why => exact why
      | @refused _ answer own _ =>
        have own_answer : callTool call = .ok answer := by
          rw [own]
          rfl
        obtain ⟨outcome, told, -⟩ := tells_cuaAnswer effect own_answer
        cases failed.symm.trans told
    · exact fares.isOpen done
    · constructor
      · rintro ⟨kept, explicit⟩
        refine ⟨id, fun raw' taken none => ?_, fun _ => kept⟩
        obtain rfl := Except.ok.inj taken.1
        exact (explicit none).elim fine fun refused => refused taken.2.2
      · rintro ⟨_, revived, kept⟩
        refine ⟨kept ⟨raw, rfl, fine⟩, fun none => .inr fun unrefused => ?_⟩
        exact revived raw ⟨rfl, fine, unrefused⟩ none
  · obtain ⟨made, fares⟩ := cuaExecute_of_unstarted call mapped budget started
    refine (lossReported_plain rfl plain made fares).trans
      (and_iff_left ⟨fun raw taken => ?_, fun h => absurd h started⟩).symm
    exact absurd ⟨raw, taken.1, taken.2.1⟩ started

/-- A desktop command with one call makes it once it is mapped and within its budget. -/
theorem cuaExecute_of_single (desktop : ∀ browser, command ≠ .browser browser)
    (single : refreshesSession command = false) (mapped : payloads.mapCommand command = .ok ())
    (budget : payloads.withinBudget command = true) :
    cuaExecute payloads session call command = (call.log, cuaAnswer payloads command call) := by
  rw [cuaExecute.eq_2 _ _ _ _ desktop]
  simp only [mapped, budget, single, not_true, if_false, Bool.false_eq_true, not_false_eq_true, if_true]

theorem cuaExecute_uncalled (desktop : ∀ browser, command ≠ .browser browser)
    (uncalled : ¬(payloads.mapCommand command = .ok () ∧ payloads.withinBudget command = true)) :
    (cuaExecute payloads session call command).1 = [] := by
  rw [cuaExecute.eq_2 _ _ _ _ desktop]
  cases mapped : payloads.mapCommand command with
  | error e => rfl
  | ok u =>
    have spent : ¬payloads.withinBudget command = true := fun budget => uncalled ⟨mapped, budget⟩
    simp only [if_pos spent]

theorem lossReported_single (effect : command.isReadOnly = false)
    (desktop : ∀ browser, command ≠ .browser browser) (single : refreshesSession command = false) :
    LossReported payloads matchesReceipt command
      (executeComputerUseOperation (cuaMcpAdapter R payloads session call) matchesReceipt staging
        capability command) ↔
      (payloads.mapCommand command = .ok () ∧ payloads.withinBudget command = true → ¬call.Lost) := by
  have plain : command ≠ .browser .upload ∧ command ≠ .browser .download := ⟨desktop _, desktop _⟩
  by_cases calls : payloads.mapCommand command = .ok () ∧ payloads.withinBudget command = true
  · simp only [calls, and_self, true_implies]
    refine lossReported_plain rfl plain ?_ ?_ <;>
      simp only [cuaMcpAdapter, cuaExecute_of_single desktop single calls.1 calls.2]
    exact fares_cuaAnswer effect
  · exact iff_of_true (lossReported_uncalled plain (cuaExecute_uncalled desktop calls))
      fun h => absurd h calls

theorem lossReported_desktop (effect : command.isReadOnly = false)
    (desktop : ∀ browser, command ≠ .browser browser) :
    LossReported payloads matchesReceipt command
      (executeComputerUseOperation (cuaMcpAdapter R payloads session call) matchesReceipt staging
        capability command) ↔
      Unharmed payloads session call staging .cua command := by
  have plain : command ≠ .browser .upload ∧ command ≠ .browser .download := ⟨desktop _, desktop _⟩
  cases single : refreshesSession command with
  | false =>
    have alone : ¬Backend.cua.Revives payloads command := fun h => by
      cases single.symm.trans h.2.2
    refine (lossReported_single effect desktop single).trans
      ((unharmed_iff_kept alone plain).trans (imp_congr_left ?_)).symm
    simp [calls_desktop desktop, single]
  | true =>
    by_cases ready : payloads.mapCommand command = .ok () ∧ payloads.withinBudget command = true
    · have revives : Backend.cua.Revives payloads command := ⟨ready.1, ready.2, single⟩
      refine (lossReported_revived effect revives).trans
        ⟨fun ⟨first, revived, own⟩ => ⟨fun _ => first, fun _ => revived, fun calls => own ?_,
          fun h => absurd h plain.1, fun h => absurd h plain.2⟩,
        fun unharmed => ⟨unharmed.sessionKept revives, unharmed.revived revives,
          fun started => unharmed.callKept ?_⟩⟩
      · exact ((calls_desktop desktop).mp calls).2.2 single
      · exact (calls_desktop desktop).mpr ⟨ready.1, ready.2, fun _ => started⟩
    · have alone : ¬Backend.cua.Revives payloads command := fun h => ready ⟨h.1, h.2.1⟩
      refine iff_of_true (lossReported_uncalled plain (cuaExecute_uncalled desktop ready))
        ((unharmed_iff_kept alone plain).mpr fun calls => absurd ?_ ready)
      exact ⟨((calls_desktop desktop).mp calls).1, ((calls_desktop desktop).mp calls).2.1⟩

theorem lossReported_in_browser {b : BrowserBackendCommand}
    (effect : (Control.DeviceCommand.browser b).isReadOnly = false) :
    LossReported payloads matchesReceipt (.browser b)
      (executeComputerUseOperation (cuaMcpAdapter R payloads session call) matchesReceipt staging
        capability (.browser b)) ↔
      Unharmed payloads session call staging .cua (.browser b) := by
  have alone : ¬Backend.cua.Revives payloads (.browser b) := fun h => by cases h.2.2
  by_cases upload : b = .upload
  · subst upload
    refine lossReported_upload.trans ⟨fun kept => ?_, fun unharmed calls =>
      ⟨unharmed.callKept calls, unharmed.uploaded rfl calls⟩⟩
    exact ⟨fun h => absurd h alone, fun h => absurd h alone, fun calls => (kept calls).1,
      fun _ calls => (kept calls).2, fun h => by cases h⟩
  by_cases download : b = .download
  · subst download
    refine lossReported_download.trans ⟨fun kept => ?_, fun unharmed calls =>
      ⟨unharmed.callKept calls, unharmed.downloaded rfl calls⟩⟩
    exact ⟨fun h => absurd h alone, fun h => absurd h alone, fun calls => (kept calls).1,
      fun h => (by cases h), fun _ calls => (kept calls).2⟩
  have effect' : browserCommandIsReadOnly b = false := by
    cases b with
    | dialog action => cases action <;> first | rfl | exact effect
    | _ => first | rfl | exact effect
  refine (lossReported_browser ⟨upload, download⟩ effect').trans
    ((unharmed_iff_kept alone ⟨fun h => upload (Control.DeviceCommand.browser.inj h),
      fun h => download (Control.DeviceCommand.browser.inj h)⟩).trans
      (imp_congr_left (calls_browser ⟨upload, download⟩))).symm

end Reported

/-- An effect's loss is reported exactly if no call that is made is lost and no step after an
accepted call fails. -/
theorem lossReported_iff (payloads : Payloads P) (session call : Call P) (staging : Staging)
    (matchesReceipt : R → Bool) (capability : DeviceCapability) (backend : Backend)
    (command : DeviceCommand) (effect : command.isReadOnly = false) :
    LossReported payloads matchesReceipt command
      (executeComputerUseOperation (backend.adapter R payloads session call) matchesReceipt staging
        capability command) ↔
      Unharmed payloads session call staging backend command := by
  cases backend with
  | macosMcp =>
    refine (lossReported_macos effect).trans ⟨fun kept => ?_, Unharmed.callKept⟩
    refine ⟨False.elim, False.elim, kept, ?_, ?_⟩ <;> rintro rfl calls <;> cases calls
  | cua =>
    by_cases desktop : ∀ b, command ≠ .browser b
    · exact lossReported_desktop effect desktop
    · obtain ⟨b, rfl⟩ : ∃ b, command = .browser b := by
        by_contra none
        exact desktop fun b eq => none ⟨b, eq⟩
      exact lossReported_in_browser effect

/-- Payloads that are all accepted. -/
def acceptedPayloads : Payloads Unit where
  mapCommand _ := .ok ()
  withinBudget _ := true
  normalize _ _ := .ok ()
  validateBrowser _ := .ok ()
  mapBrowser _ := .ok ()
  refusalReason _ := none
  normalizeBrowser _ _ := .ok ()
  resolvedAll _ := true
  validRoot := true
  clicksForeground _ := true

/-- A call answered without an error. -/
def answeredCall : Call Unit :=
  .handed (.response (some (.callToolResult ⟨none, ()⟩)))

/-- Staging whose steps all succeed up to the transfer; what comes after it is given. -/
def stagedUntil (consumed : Except BrowserUploadStagingError Unit)
    (finalized : Except BrowserDownloadStagingError Unit) : Staging :=
  ⟨.ok (), consumed, .ok (), finalized⟩

/-- A click that times out may have been made, and is reported so. -/
theorem lossReported_timed_out_click :
    Unharmed acceptedPayloads answeredCall (.handed .timeout) (stagedUntil (.ok ()) (.ok ())) .cua
        .pointerClick ∧
      LossReported acceptedPayloads (fun _ : Unit => true) .pointerClick
        (executeComputerUseOperation
          (Backend.cua.adapter Unit acceptedPayloads answeredCall (.handed .timeout))
          (fun _ => true) (stagedUntil (.ok ()) (.ok ())) .pointerClick .pointerClick) :=
  have unharmed : Unharmed acceptedPayloads answeredCall (.handed .timeout)
      (stagedUntil (.ok ()) (.ok ())) .cua .pointerClick :=
    ⟨fun _ => id, fun _ _ _ => List.cons_ne_nil _ _, fun _ => id, fun h => (by cases h),
      fun h => (by cases h)⟩
  ⟨unharmed, (lossReported_iff _ _ _ _ _ _ _ _ rfl).mpr unharmed⟩

/-- An effect is told as an ordinary failure when the cancellation channel closes after the call
was handed over, when the answer is no tool's answer, when an upload's files cannot be given up,
when a download cannot be finalized, and when a revived session's command is not sent. -/
theorem lostEffects_unreported :
    (∀ backend : Backend, ∀ wait ∈ [Wait.cancellation false false, .response (some .other)],
      ¬LossReported acceptedPayloads (fun _ : Unit => true) .pointerClick
        (executeComputerUseOperation
          (backend.adapter Unit acceptedPayloads answeredCall (.handed wait)) (fun _ => true)
          (stagedUntil (.ok ()) (.ok ())) .pointerClick .pointerClick)) ∧
      ¬LossReported acceptedPayloads (fun _ : Unit => true) (.browser .upload)
        (executeComputerUseOperation
          (Backend.cua.adapter Unit acceptedPayloads answeredCall answeredCall) (fun _ => true)
          (stagedUntil (.error .io) (.ok ())) .browserUploadFile (.browser .upload)) ∧
      ¬LossReported acceptedPayloads (fun _ : Unit => true) (.browser .download)
        (executeComputerUseOperation
          (Backend.cua.adapter Unit acceptedPayloads answeredCall answeredCall) (fun _ => true)
          (stagedUntil (.ok ()) (.error .fileTooLarge)) .browserDownload (.browser .download)) ∧
      ¬LossReported acceptedPayloads (fun _ : Unit => true) .expandInteractionScope
        (executeComputerUseOperation
          (Backend.cua.adapter Unit acceptedPayloads answeredCall .unsent) (fun _ => true)
          (stagedUntil (.ok ()) (.ok ())) .desktopScope .expandInteractionScope) := by
  refine ⟨fun backend wait one reported => ?_, fun reported => ?_, fun reported => ?_,
    fun reported => ?_⟩
  · simp only [List.mem_cons, List.not_mem_nil, or_false] at one
    cases backend <;> rcases one with rfl | rfl <;>
      rcases reported _ List.mem_cons_self with told | explicit <;>
      first | cases told | exact explicit
  all_goals
    rcases reported _ List.mem_cons_self with told | explicit | refused
    · cases told
    · cases explicit
    · exact refused rfl

end Gateway.Agent
