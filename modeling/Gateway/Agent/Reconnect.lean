import Gateway.Data.Machine
import Mathlib.Algebra.Group.Nat.Defs

/-! The Agent's reconnect loop.

The loop counts the failures it may retry and gives up when they are as many as its policy allows.
The count begins again when a session asks for a reconnect; a session that the Hub accepted and
that is then lost by an error is counted like one that was never accepted. -/
namespace Gateway.Agent
open Data Machine

/-! ### The policy -/

/-- Durations are in nanoseconds. -/
structure ReconnectPolicy where
  initialDelay : Nat
  maxDelay : Nat
  maxAttempts : UInt32

inductive M1Error where
  | invalidReconnectPolicy
  | reconnectExhausted

namespace ReconnectPolicy

def validate (policy : ReconnectPolicy) : Except M1Error ReconnectPolicy :=
  if policy.initialDelay = 0 ∨ policy.maxDelay < policy.initialDelay ∨ policy.maxAttempts = 0 then
    .error .invalidReconnectPolicy
  else .ok policy

def asMillis (duration : Nat) : Nat :=
  duration / 1000000

/-- The delay is computed in whole milliseconds, of which there are at most `2 ^ 64 - 1`. -/
def delayForAttempt (policy : ReconnectPolicy) (attempt : Nat) : Except M1Error Nat := do
  let policy ← policy.validate
  if policy.maxAttempts.toNat ≤ attempt then .error .reconnectExhausted
  else
    let multiplier := 2 ^ min attempt 63
    let delay := min (min (asMillis policy.initialDelay * multiplier) (2 ^ 128 - 1))
      (asMillis policy.maxDelay)
    return min delay (2 ^ 64 - 1) * 1000000

end ReconnectPolicy

/-! ### Sessions -/

inductive GrpcCode where
  | ok | cancelled | unknown | invalidArgument | deadlineExceeded | notFound | alreadyExists
  | permissionDenied | resourceExhausted | failedPrecondition | aborted | outOfRange | unimplemented
  | internal | unavailable | dataLoss | unauthenticated
  deriving DecidableEq

/-- The errors of the Agent. What else they carry does not matter to the loop. -/
inductive AgentServiceError where
  | invalidConfig
  | transport
  | status (code : GrpcCode)
  | carrier | protocol | trust | control | execution | process | managedJob | playwrightSandbox
  | managedJobFailClosed | filesystem | workspaceMutationStartup | ephemeralDataStartup
  | browserUploadStagingStartup | browserDownloadStagingStartup | browserUploadStaging
  | browserDownloadStaging | backend | operation | persistence | onlineRecovery | unexpectedMessage
  | heartbeatAckMismatch | recoveryResultMismatch | cancellationMismatch | agentBusy
  | unsupportedCommand | inboundClosed | outboundClosed | operationWorkerClosed
  | operationStateMismatch | operationTerminationTimeout | reconnectExhausted
  | checkpointIdentityMismatch | checkpointTrustMismatch | checkpointGrantTrustMismatch

def AgentServiceError.reconnectable : AgentServiceError → Bool
  | .transport | .inboundClosed | .outboundClosed => true
  | .status code => code = .unavailable || code = .cancelled || code = .deadlineExceeded ||
    code = .unknown
  | _ => false

inductive SessionExit where
  | reconnect
  | shutdown

/-- What the calls of a session come to, in the order in which they are made. To the loop of a
session an ended stream is no error: it asks for a reconnect. -/
structure SessionSteps where
  openSession : Except GrpcCode Unit
  sendHello : Except AgentServiceError Unit
  nextChallenge : Except AgentServiceError Unit
  verifyChallenge : Except AgentServiceError Unit
  buildProof : Except AgentServiceError Unit
  sendProof : Except AgentServiceError Unit
  nextAccepted : Except AgentServiceError Unit
  verifyAccepted : Except AgentServiceError Unit
  managedJobFailClosed : Bool
  prepareGeneration : Except AgentServiceError Unit
  persistState : Except AgentServiceError Unit
  buildReport : Except AgentServiceError Unit
  sendReport : Except AgentServiceError Unit
  cleanupUploads : Except AgentServiceError Unit
  cleanupDownloads : Except AgentServiceError Unit
  clearRecoveryHandoff : Except AgentServiceError Unit
  sessionLoop : {result : Except AgentServiceError SessionExit // result ≠ .error .inboundClosed}
  cleanupJoined : Bool
  cleanupProven : Bool
  persistFailClosed : Except AgentServiceError Unit

namespace SessionSteps

/-- Up to the Hub's acceptance. -/
def handshake (steps : SessionSteps) : Except AgentServiceError Unit := do
  steps.openSession.mapError .status
  steps.sendHello
  steps.nextChallenge
  steps.verifyChallenge
  steps.buildProof
  steps.sendProof
  steps.nextAccepted
  steps.verifyAccepted

def accepted (steps : SessionSteps) : Bool :=
  steps.handshake.isOk

def prepare (steps : SessionSteps) : Except AgentServiceError Unit := do
  if steps.managedJobFailClosed then .error .managedJobFailClosed
  steps.prepareGeneration
  steps.persistState
  steps.buildReport
  steps.sendReport
  steps.cleanupUploads
  steps.cleanupDownloads
  steps.clearRecoveryHandoff

def runAuthenticatedSession (steps : SessionSteps) : Except AgentServiceError SessionExit := do
  steps.handshake
  steps.prepare
  if !steps.cleanupJoined then .error .managedJobFailClosed
  if !steps.cleanupProven then
    steps.persistFailClosed
    .error .managedJobFailClosed
  steps.sessionLoop.val

end SessionSteps

/-! ### The loop -/

/-- How a wait ends: its time is over, a shutdown is asked for, or the channel of the shutdown
tells of a change that asks for none. -/
inductive Wake where
  | elapsed | shutdown | unset
  deriving DecidableEq

def sleepOrShutdown : Wake → Bool
  | .shutdown => true
  | .elapsed | .unset => false

inductive Attempt where
  | connectFailed (error : AgentServiceError)
  | session (steps : SessionSteps)

/-- One turn of the loop: a shutdown is found asked for, or there is an attempt, and the wait that
may follow it. -/
inductive Turn where
  | shutdown
  | attempt (attempt : Attempt) (wake : Wake)

/-- The streak as the loop counts it and whether and how it has ended. Beside them are the waits
that were not cut short, newest first, and whether it ended for lack of attempts. -/
structure Lifecycle where
  failures : Nat
  waits : List (Option Nat)
  gaveUp : Bool
  ended : Option (Except AgentServiceError Unit)

namespace Lifecycle

def start : Lifecycle :=
  ⟨0, [], false, none⟩

def sleep (s : Lifecycle) (delay : Nat) (wake : Wake) : Lifecycle :=
  {s with
    waits := (if wake = .unset then none else some delay) :: s.waits
    ended := if sleepOrShutdown wake then some (.ok ()) else none}

/-- A failure that may be retried. -/
def retry (policy : ReconnectPolicy) (s : Lifecycle) (error : AgentServiceError) (wake : Wake) :
    Lifecycle :=
  let failures := min (s.failures + 1) (2 ^ 32 - 1)
  if policy.maxAttempts.toNat ≤ failures then
    {s with failures, gaveUp := true, ended := some (.error error)}
  else
    match policy.delayForAttempt (failures - 1) with
    | .error _ => {s with failures, gaveUp := true, ended := some (.error .reconnectExhausted)}
    | .ok delay => sleep {s with failures} delay wake

def next (policy : ReconnectPolicy) (s : Lifecycle) (turn : Turn) : Lifecycle :=
  if s.ended.isSome then s
  else match turn with
    | .shutdown => {s with ended := some (.ok ())}
    | .attempt (.connectFailed error) wake => s.retry policy error wake
    | .attempt (.session steps) wake =>
      match steps.runAuthenticatedSession with
      | .ok .shutdown => {s with ended := some (.ok ())}
      | .ok .reconnect => sleep {s with failures := 0} policy.initialDelay wake
      | .error error =>
        if error.reconnectable then s.retry policy error wake
        else {s with ended := some (.error error)}

end Lifecycle

/-! ### The streak as it is meant -/

namespace Turn

/-- The Hub accepted a session in this turn. -/
def accepted : Turn → Bool
  | .attempt (.session steps) _ => steps.accepted
  | _ => false

/-- The turn ended in a failure that may be retried. -/
def fails : Turn → Bool
  | .attempt (.connectFailed _) _ => true
  | .attempt (.session steps) _ =>
    match steps.runAuthenticatedSession with
    | .error error => error.reconnectable
    | .ok _ => false
  | .shutdown => false

/-- No wait is cut short. -/
def undisturbed : Turn → Bool
  | .attempt _ wake => wake ≠ .unset
  | .shutdown => true

end Turn

/-- How many failures there have been in a row, newest turn first, with no session accepted
between them. -/
def streak : List Turn → Nat
  | [] => 0
  | turn :: earlier =>
    if turn.fails then if turn.accepted then 1 else streak earlier + 1
    else 0

/-- The loop after some turns. -/
def lifecycleAfter (policy : ReconnectPolicy) (turns : List Turn) : Lifecycle :=
  run (Lifecycle.next policy) .start turns

/-- The initial delay can be told in whole milliseconds. -/
def ReconnectPolicy.Whole (policy : ReconnectPolicy) : Prop :=
  policy.initialDelay % 1000000 = 0 ∧ policy.initialDelay / 1000000 < 2 ^ 64

/-- What one more turn of a loop that has not ended comes to: it gives up if the streak is as long
as the policy allows, and before it goes on it waits as long as the streak asks for, which is the
initial delay after a session that the Hub accepted. -/
structure Reconnects (policy : ReconnectPolicy) (turns : List Turn) (turn : Turn) : Prop where
  gaveUp : (lifecycleAfter policy (turns ++ [turn])).gaveUp = true ↔
    streak (turn :: turns.reverse) = policy.maxAttempts.toNat
  waits : (lifecycleAfter policy (turns ++ [turn])).ended = none →
    ∃ delay, (lifecycleAfter policy (turns ++ [turn])).waits =
        some delay :: (lifecycleAfter policy turns).waits ∧
      (0 < streak (turn :: turns.reverse) →
        policy.delayForAttempt (streak (turn :: turns.reverse) - 1) = .ok delay) ∧
      (streak (turn :: turns.reverse) = 0 → delay = policy.initialDelay) ∧
      (turn.accepted = true → policy.Whole → delay = policy.initialDelay)

/-- A session that the Hub accepted is lost by an error only while no failure is counted. -/
def countsAfresh (s : Lifecycle) (turn : Turn) : Bool :=
  (!(turn.accepted && turn.fails) || s.failures = 0) && turn.undisturbed

section Streak
variable {policy : ReconnectPolicy} {s : Lifecycle} {turn : Turn} {past : List Turn}

theorem ReconnectPolicy.of_valid (valid : policy.validate = .ok policy) :
    0 < policy.initialDelay ∧ policy.initialDelay ≤ policy.maxDelay ∧
      0 < policy.maxAttempts.toNat := by
  unfold ReconnectPolicy.validate at valid
  split at valid
  · cases valid
  · next sound =>
    obtain ⟨positive, sound⟩ := not_or.mp sound
    obtain ⟨ordered, attempts⟩ := not_or.mp sound
    refine ⟨Nat.pos_of_ne_zero positive, Nat.le_of_not_lt ordered, Nat.pos_of_ne_zero fun none => ?_⟩
    exact attempts (UInt32.toNat_inj.mp none)

theorem ReconnectPolicy.delayForAttempt_eq (valid : policy.validate = .ok policy) {attempt : Nat}
    (left : attempt < policy.maxAttempts.toNat) :
    ∃ delay, policy.delayForAttempt attempt = .ok delay := by
  unfold delayForAttempt
  rw [valid]
  exact ⟨_, if_neg (Nat.not_le.mpr left)⟩

theorem ReconnectPolicy.delayForAttempt_zero (valid : policy.validate = .ok policy)
    (whole : policy.Whole) : policy.delayForAttempt 0 = .ok policy.initialDelay := by
  obtain ⟨_, ordered, attempts⟩ := ReconnectPolicy.of_valid valid
  unfold delayForAttempt
  rw [valid]
  refine (if_neg (Nat.not_le.mpr attempts)).trans (congrArg Except.ok ?_)
  obtain ⟨multiple, fits⟩ := whole
  simp only [asMillis, Nat.zero_min]
  omega

/-- A loop that has not ended counts the streak, which is shorter than the policy allows. -/
structure Counts (policy : ReconnectPolicy) (past : List Turn) (s : Lifecycle) : Prop where
  failures : s.failures = streak past
  left : s.failures < policy.maxAttempts.toNat
  gaveUp : s.gaveUp = false

/-- What a turn comes to, with the turns before it. -/
structure TurnStep (policy : ReconnectPolicy) (turn : Turn) (past : List Turn) (s s' : Lifecycle) :
    Prop where
  gaveUp : s'.gaveUp = true ↔ streak (turn :: past) = policy.maxAttempts.toNat
  counts : s'.ended = none → Counts policy (turn :: past) s'
  waits : s'.ended = none → ∃ delay, s'.waits = some delay :: s.waits ∧
    (0 < streak (turn :: past) →
      policy.delayForAttempt (streak (turn :: past) - 1) = .ok delay) ∧
    (streak (turn :: past) = 0 → delay = policy.initialDelay) ∧
    (turn.accepted = true → policy.Whole → delay = policy.initialDelay)

theorem turnStep_ended {result : Except AgentServiceError Unit} (valid : policy.validate = .ok policy)
    (counts : Counts policy past s) (fresh : streak (turn :: past) = 0) :
    TurnStep policy turn past s {s with ended := some result} := by
  refine ⟨⟨fun is => ?_, fun is => ?_⟩, nofun, nofun⟩
  · cases counts.gaveUp.symm.trans is
  · exact absurd (is.symm.trans fresh) (Nat.ne_of_gt (ReconnectPolicy.of_valid valid).2.2)

theorem turnStep_sleep {failures delay : Nat} {wake : Wake} (full : wake ≠ .unset)
    (gaveUp : s.gaveUp = false) (counted : failures = streak (turn :: past))
    (left : failures < policy.maxAttempts.toNat)
    (delays : 0 < streak (turn :: past) →
      policy.delayForAttempt (streak (turn :: past) - 1) = .ok delay)
    (initial : streak (turn :: past) = 0 → delay = policy.initialDelay)
    (first : turn.accepted = true → policy.Whole → delay = policy.initialDelay) :
    TurnStep policy turn past s (Lifecycle.sleep {s with failures := failures} delay wake) := by
  refine ⟨⟨fun is => ?_, fun is => ?_⟩, fun _ => ⟨counted, left, gaveUp⟩,
    fun _ => ⟨delay, ?_, delays, initial, first⟩⟩
  · cases gaveUp.symm.trans is
  · exact absurd (counted.trans is) (Nat.ne_of_lt left)
  · exact congrArg (· :: s.waits) (if_neg full)

/-- A failure that may be retried, counted as it is meant to be. -/
theorem turnStep_retry {error : AgentServiceError} {wake : Wake}
    (valid : policy.validate = .ok policy) (counts : Counts policy past s) (full : wake ≠ .unset)
    (grown : streak (turn :: past) = s.failures + 1)
    (afresh : turn.accepted = true → s.failures = 0) :
    TurnStep policy turn past s (s.retry policy error wake) := by
  have bound : policy.maxAttempts.toNat < 2 ^ 32 := policy.maxAttempts.toNat_lt
  have next : min (s.failures + 1) (2 ^ 32 - 1) = s.failures + 1 := by
    have := counts.left
    omega
  unfold Lifecycle.retry
  rw [next]
  dsimp only
  split
  · next enough =>
    have full : s.failures + 1 = policy.maxAttempts.toNat := Nat.le_antisymm counts.left enough
    exact ⟨⟨fun _ => grown.trans full, fun _ => rfl⟩, nofun, nofun⟩
  · next more =>
    obtain ⟨delay, is⟩ := ReconnectPolicy.delayForAttempt_eq valid counts.left
    rw [Nat.add_sub_cancel, is]
    refine turnStep_sleep full counts.gaveUp grown.symm (Nat.lt_of_not_le more) ?_ ?_ ?_
    · intro _
      rwa [grown]
    · exact fun none => absurd (grown.symm.trans none) (Nat.succ_ne_zero _)
    · intro accepted whole
      rw [afresh accepted, ReconnectPolicy.delayForAttempt_zero valid whole] at is
      exact (Except.ok.inj is).symm

theorem turnStep_next (valid : policy.validate = .ok policy) (running : s.ended = none)
    (counts : Counts policy past s) (afresh : countsAfresh s turn = true) :
    TurnStep policy turn past s (Lifecycle.next policy s turn) := by
  have runs : ¬s.ended.isSome = true := by rw [running]; exact Bool.false_ne_true
  unfold Lifecycle.next
  rw [if_neg runs]
  unfold countsAfresh at afresh
  rw [Bool.and_eq_true, Bool.or_eq_true, Bool.not_eq_true', Bool.and_eq_false_iff,
    decide_eq_true_eq] at afresh
  obtain ⟨afresh, undisturbed⟩ := afresh
  match turn with
  | .shutdown => exact turnStep_ended valid counts rfl
  | .attempt (.connectFailed error) wake =>
    refine turnStep_retry valid counts (of_decide_eq_true undisturbed) ?_ nofun
    exact congrArg (· + 1) counts.failures.symm
  | .attempt (.session steps) wake =>
    have full : wake ≠ .unset := of_decide_eq_true undisturbed
    dsimp only
    have fails : Turn.fails (.attempt (.session steps) wake) =
      match steps.runAuthenticatedSession with
      | .error error => error.reconnectable
      | .ok _ => false := rfl
    cases result : steps.runAuthenticatedSession with
    | ok exit =>
      rw [result] at fails
      have none : streak (.attempt (.session steps) wake :: past) = 0 :=
        if_neg (Bool.eq_false_iff.mp fails)
      cases exit with
      | shutdown => exact turnStep_ended valid counts none
      | reconnect =>
        exact turnStep_sleep full counts.gaveUp none.symm (ReconnectPolicy.of_valid valid).2.2
          (fun some => absurd none (Nat.ne_of_gt some)) (fun _ => rfl) fun _ _ => rfl
    | error error =>
      rw [result] at fails
      dsimp only at fails ⊢
      cases reconnectable : error.reconnectable with
      | false =>
        refine turnStep_ended valid counts (if_neg (Bool.eq_false_iff.mp ?_))
        exact fails.trans reconnectable
      | true =>
        have fails := fails.trans reconnectable
        have zero (accepted : Turn.accepted (.attempt (.session steps) wake) = true) :
            s.failures = 0 := by
          rcases afresh with (other | other) | zero
          · cases other.symm.trans accepted
          · cases other.symm.trans fails
          · exact zero
        refine turnStep_retry valid counts full ?_ zero
        unfold streak
        rw [if_pos fails]
        split
        · next accepted => rw [zero accepted]
        · rw [counts.failures]

/-- A loop that has not ended has counted the streak of all its turns. -/
theorem counts_run (valid : policy.validate = .ok policy) {turns : List Turn}
    (meets : Machine.Meets (Lifecycle.next policy) (fun s turn => countsAfresh s turn = true) s turns)
    (running : s.ended = none) (counts : Counts policy past s)
    (after : (run (Lifecycle.next policy) s turns).ended = none) :
    Counts policy (turns.reverse ++ past) (run (Lifecycle.next policy) s turns) := by
  induction turns generalizing s past with
  | nil => exact counts
  | cons turn rest ih =>
    have step := turnStep_next valid running counts meets.1
    rw [List.reverse_cons, List.append_assoc]
    cases ended : (Lifecycle.next policy s turn).ended with
    | none => exact ih meets.2 ended (step.counts ended) after
    | some result =>
      have fixed (later : Turn) : (Lifecycle.next policy s turn).next policy later = _ :=
        if_pos (by rw [ended]; rfl)
      rw [run_cons, run_of_fixed fixed, ended] at after
      cases after

end Streak

theorem reconnects (policy : ReconnectPolicy) (turns : List Turn) (turn : Turn)
    (valid : policy.validate = .ok policy)
    (meets : Machine.Meets (Lifecycle.next policy) (fun s turn => countsAfresh s turn = true) .start
      (turns ++ [turn]))
    (running : (lifecycleAfter policy turns).ended = none) : Reconnects policy turns turn := by
  have new : Counts policy [] .start := ⟨rfl, (ReconnectPolicy.of_valid valid).2.2, rfl⟩
  have counts := counts_run valid meets.of_append.1 rfl new running
  rw [List.append_nil] at counts
  have step := turnStep_next valid running counts meets.of_append.2.1
  have one : lifecycleAfter policy (turns ++ [turn]) =
      Lifecycle.next policy (lifecycleAfter policy turns) turn := run_append _ _ _
  constructor
  · rw [one]
    exact step.gaveUp
  · rw [one]
    exact step.waits

/-- A session that the Hub accepts, and what becomes of it. -/
def acceptedSession (result : {result : Except AgentServiceError SessionExit //
    result ≠ .error .inboundClosed}) : Turn :=
  .attempt (.session {
    openSession := .ok (), sendHello := .ok (), nextChallenge := .ok (), verifyChallenge := .ok (),
    buildProof := .ok (), sendProof := .ok (), nextAccepted := .ok (), verifyAccepted := .ok (),
    managedJobFailClosed := false, prepareGeneration := .ok (), persistState := .ok (),
    buildReport := .ok (), sendReport := .ok (), cleanupUploads := .ok (),
    cleanupDownloads := .ok (), clearRecoveryHandoff := .ok (), sessionLoop := result,
    cleanupJoined := true, cleanupProven := true, persistFailClosed := .ok () }) .elapsed

def leftSession : Turn :=
  acceptedSession ⟨.ok .reconnect, by simp⟩

/-- The stream of an accepted session fails, as it does when the network is gone. -/
def lostSession : Turn :=
  acceptedSession ⟨.error (.status .unavailable), by simp⟩

def twoAttempts : ReconnectPolicy :=
  ⟨500000000, 5000000000, 2⟩

/-- A session asks for a reconnect and the next one is lost: the loop waits and goes on. -/
theorem reconnects_after_loss :
    (lifecycleAfter twoAttempts [leftSession, lostSession]).waits =
        [some 500000000, some 500000000] ∧
      Reconnects twoAttempts [leftSession] lostSession :=
  ⟨by decide, reconnects twoAttempts [leftSession] lostSession rfl (by decide) rfl⟩

/-- Two sessions are lost, each of which the Hub had accepted, and the loop gives up. -/
theorem gives_up_after_accepted_sessions :
    lostSession.accepted = true ∧ streak [lostSession, lostSession] = 1 ∧
      (lifecycleAfter twoAttempts [lostSession, lostSession]).gaveUp = true ∧
      ¬Reconnects twoAttempts [lostSession] lostSession := by
  refine ⟨by decide, by decide, by decide, fun reconnects => ?_⟩
  have given := reconnects.gaveUp.mp (by decide)
  revert given
  decide

end Gateway.Agent
