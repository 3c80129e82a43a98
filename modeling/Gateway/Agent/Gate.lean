import Gateway.Data.Machine
import Gateway.Data.Result
import Gateway.Execution.Operation
import Mathlib.Data.List.Dedup

/-! The Agent's own gate against replays.

The gate lets one operation run at a time and remembers the ids it has let through in
the current generation. A restart forgets the running operation but not its id. As long as
generations are presented in order, no operation is begun twice. -/
namespace Gateway.Agent
open Data Execution Result

inductive AgentOperationState where
  | running
  | cancelRequested

structure AgentExecutionSnapshot where
  replayGeneration : Option Nat
  terminalOperationIds : List String

structure AgentExecutionGate where
  active : Option (OperationRef × AgentOperationState)
  replayGeneration : Option Nat
  terminalOperationIds : Names

namespace AgentExecutionGate

variable (gate : AgentExecutionGate)

/-- The running operation is listed with the finished ones. -/
def snapshotForRestart : AgentExecutionSnapshot where
  replayGeneration := (gate.active.map fun running => running.1.deviceGeneration).or
    gate.replayGeneration
  terminalOperationIds := (sortBy id (gate.terminalOperationIds.toList ++
    (gate.active.map fun running => running.1.operationId).toList)).dedup

def restoreAfterRestart (snapshot : AgentExecutionSnapshot) :
    Except ExecutionError AgentExecutionGate :=
  if snapshot.terminalOperationIds.any isBlank ∨
      ¬snapshot.terminalOperationIds.isEmpty ∧ snapshot.replayGeneration.isNone then
    .error .invalidSnapshot
  else
    .ok ⟨none, snapshot.replayGeneration, Std.ExtTreeSet.ofList snapshot.terminalOperationIds⟩

/-- Advance the replay barrier to a generation. -/
def prepareGeneration (generation : Nat) : Except ExecutionError Unit × AgentExecutionGate :=
  if generation = 0 then (.error .invalidOperation, gate)
  else if gate.active.any fun running => running.1.deviceGeneration ≠ generation then
    (.error .generationChangeWhileActive, gate)
  else if gate.replayGeneration ≠ some generation then
    if gate.active.isSome then (.error .generationChangeWhileActive, gate)
    else (.ok (), {gate with terminalOperationIds := ∅, replayGeneration := some generation})
  else (.ok (), gate)

def begin (operation : OperationRef) : Except ExecutionError Unit × AgentExecutionGate :=
  match gate.prepareGeneration operation.deviceGeneration with
  | (.error e, gate) => (.error e, gate)
  | (.ok (), gate) =>
    if operation.operationId ∈ gate.terminalOperationIds then (.error .operationReplay, gate)
    else if gate.active.isSome then (.error .agentBusy, gate)
    else (.ok (), {gate with active := some (operation, .running)})

def requestCancel (operationId : String) : Except ExecutionError Unit × AgentExecutionGate :=
  match gate.active with
  | none => (.error .unknownOperation, gate)
  | some (active, _) =>
    if active.operationId ≠ operationId then (.error .unknownOperation, gate)
    else (.ok (), {gate with active := some (active, .cancelRequested)})

def cancellationRequested (operationId : String) : Bool :=
  match gate.active with
  | some (active, .cancelRequested) => active.operationId = operationId
  | _ => false

/-- A wrong id puts the operation back as running, whatever it was. -/
def finish (operationId : String) : Except ExecutionError Unit × AgentExecutionGate :=
  match gate.active with
  | none => (.error .unknownOperation, gate)
  | some (active, _) =>
    if active.operationId ≠ operationId then
      (.error .unknownOperation, {gate with active := some (active, .running)})
    else
      (.ok (), {gate with
        active := none
        terminalOperationIds := gate.terminalOperationIds.insert operationId})

def abandonOnDisconnect (operationId : String) : Except ExecutionError Unit × AgentExecutionGate :=
  gate.finish operationId

/-- Snapshot the gate and read it back. A gate that cannot be read back stays. -/
def restart : Except ExecutionError Unit × AgentExecutionGate :=
  match restoreAfterRestart gate.snapshotForRestart with
  | .error e => (.error e, gate)
  | .ok restored => (.ok (), restored)

end AgentExecutionGate

inductive GateEvent where
  | prepareGeneration (generation : Nat)
  | begin (operation : OperationRef)
  | requestCancel (operationId : String)
  | finish (operationId : String)
  | abandonOnDisconnect (operationId : String)
  | restart
  deriving DecidableEq

/-- The generation a call presents. -/
def GateEvent.presented : GateEvent → Option Nat
  | .prepareGeneration generation => some generation
  | .begin operation => some operation.deviceGeneration
  | _ => none

/-- The operation a call reports as over. -/
def GateEvent.finishes : GateEvent → Option String
  | .finish operationId => some operationId
  | .abandonOnDisconnect operationId => some operationId
  | _ => none

def AgentExecutionGate.step (gate : AgentExecutionGate) :
    GateEvent → Except ExecutionError Unit × AgentExecutionGate
  | .prepareGeneration generation => gate.prepareGeneration generation
  | .begin operation => gate.begin operation
  | .requestCancel operationId => gate.requestCancel operationId
  | .finish operationId => gate.finish operationId
  | .abandonOnDisconnect operationId => gate.abandonOnDisconnect operationId
  | .restart => gate.restart

namespace AgentExecutionGate
variable {gate : AgentExecutionGate} {generation : Nat} {operationId : String}

/-! ### What the gate recalls -/

/-- The gate knows an operation of its generation, as finished or as running. -/
structure Recalls (gate : AgentExecutionGate) (generation : Nat) (operationId : String) : Prop where
  current : gate.replayGeneration = some generation
  paired : ∀ running, gate.active = some running → running.1.deviceGeneration = generation
  known : operationId ∈ gate.terminalOperationIds ∨
    ∃ running, gate.active = some running ∧ running.1.operationId = operationId

theorem prepareGeneration_of_current (current : gate.replayGeneration = some generation) :
    (gate.prepareGeneration generation).2 = gate := by
  unfold prepareGeneration
  split
  · rfl
  · split
    · rfl
    · rw [if_neg (not_not.mpr current)]

theorem prepareGeneration_active (gate : AgentExecutionGate) (generation : Nat) :
    (gate.prepareGeneration generation).2.active = gate.active := by
  unfold prepareGeneration
  split
  · rfl
  split
  · rfl
  split
  · split
    · rfl
    · rfl
  · rfl

theorem prepareGeneration_replay (ok : (gate.prepareGeneration generation).1 = .ok ()) :
    (gate.prepareGeneration generation).2.replayGeneration = some generation := by
  unfold prepareGeneration at ok ⊢
  split at ok
  · cases ok
  split at ok
  · cases ok
  split at ok
  · split at ok
    · cases ok
    · next real same old idle => rw [if_neg real, if_neg same, if_pos old, if_neg idle]
  · next real same current =>
    rw [if_neg real, if_neg same, if_neg current]
    exact not_not.mp current

variable {operation : OperationRef} {e : ExecutionError}

/-- What a begin needs and leaves. -/
theorem of_begin_ok (ok : (gate.begin operation).1 = .ok ()) :
    (gate.prepareGeneration operation.deviceGeneration).1 = .ok () ∧
    operation.operationId ∉
      (gate.prepareGeneration operation.deviceGeneration).2.terminalOperationIds ∧
    gate.active = none ∧
    (gate.begin operation).2 = {(gate.prepareGeneration operation.deviceGeneration).2 with
      active := some (operation, .running)} := by
  have active := prepareGeneration_active gate operation.deviceGeneration
  unfold begin at ok ⊢
  cases prepared : gate.prepareGeneration operation.deviceGeneration with
  | mk answer after =>
    rw [prepared] at ok active
    cases answer with
    | error e => cases ok
    | ok done =>
      dsimp only at ok active ⊢
      split at ok
      · cases ok
      · next fresh =>
        split at ok
        · cases ok
        · next idle =>
          rw [if_neg fresh, if_neg idle, ← active]
          exact ⟨rfl, fresh, by simpa using idle, rfl⟩

/-- A begin that fails leaves what the presentation of its generation left. -/
theorem begin_of_error (failed : (gate.begin operation).1 = .error e) :
    (gate.begin operation).2 = (gate.prepareGeneration operation.deviceGeneration).2 := by
  unfold begin at failed ⊢
  cases prepared : gate.prepareGeneration operation.deviceGeneration with
  | mk answer after =>
    rw [prepared] at failed
    cases answer with
    | error e => rfl
    | ok done =>
      dsimp only at failed ⊢
      split at failed
      · next replayed => rw [if_pos replayed]
      · next fresh =>
        split at failed
        · next busy => rw [if_neg fresh, if_pos busy]
        · cases failed

theorem Recalls.begin_error (h : gate.Recalls operation.deviceGeneration operation.operationId) :
    (gate.begin operation).1 ≠ .ok () := by
  intro ok
  obtain ⟨-, fresh, idle, -⟩ := of_begin_ok ok
  rw [prepareGeneration_of_current h.current] at fresh
  rcases h.known with finished | ⟨running, active, -⟩
  · exact fresh finished
  · rw [idle] at active
    cases active

theorem recalls_of_begin (ok : (gate.begin operation).1 = .ok ()) :
    (gate.begin operation).2.Recalls operation.deviceGeneration operation.operationId := by
  obtain ⟨prepared, -, -, after⟩ := of_begin_ok ok
  rw [after]
  refine ⟨prepareGeneration_replay prepared, fun running active => ?_, .inr ⟨_, rfl, rfl⟩⟩
  cases active
  rfl

section
variable (h : gate.Recalls generation operationId)
include h

theorem Recalls.begin (same : operation.deviceGeneration = generation) :
    (gate.begin operation).2.Recalls generation operationId := by
  subst same
  cases answer : (gate.begin operation).1 with
  | error e => rwa [begin_of_error answer, prepareGeneration_of_current h.current]
  | ok done =>
    obtain ⟨-, -, idle, after⟩ := of_begin_ok answer
    rw [after, prepareGeneration_of_current h.current]
    refine ⟨h.current, fun running active => ?_, .inl ?_⟩
    · cases active
      rfl
    · refine h.known.resolve_right ?_
      rintro ⟨running, active, _⟩
      rw [idle] at active
      cases active

/-- Changing how the running operation stands changes nothing the gate recalls. -/
theorem Recalls.restate {state state' : AgentOperationState}
    (active : gate.active = some (operation, state)) :
    Recalls {gate with active := some (operation, state')} generation operationId := by
  refine ⟨h.current, fun running same => ?_, ?_⟩
  · cases same
    exact h.paired (operation, state) active
  · refine h.known.imp_right ?_
    rintro ⟨running, was, named⟩
    rw [active] at was
    cases was
    exact ⟨_, rfl, named⟩

theorem Recalls.requestCancel (id : String) :
    (gate.requestCancel id).2.Recalls generation operationId := by
  unfold AgentExecutionGate.requestCancel
  split
  · exact h
  · next active =>
    split
    · exact h
    · exact h.restate active

theorem Recalls.finish (id : String) : (gate.finish id).2.Recalls generation operationId := by
  unfold AgentExecutionGate.finish
  split
  · exact h
  · next operation state active =>
    split
    · exact h.restate active
    · next named =>
      refine ⟨h.current, fun running none => (by cases none), .inl ?_⟩
      rw [Std.ExtTreeSet.mem_insert, Std.LawfulEqCmp.compare_eq_iff_eq]
      rcases h.known with finished | ⟨running, was, same⟩
      · exact .inr finished
      · rw [active] at was
        cases was
        exact .inl ((not_not.mp named).symm.trans same)

end

theorem mem_snapshotForRestart : operationId ∈ gate.snapshotForRestart.terminalOperationIds ↔
    operationId ∈ gate.terminalOperationIds ∨
      ∃ running, gate.active = some running ∧ running.1.operationId = operationId := by
  simp only [snapshotForRestart, List.mem_dedup, mem_sortBy, List.mem_append,
    Std.ExtTreeSet.mem_toList, Option.mem_toList, Option.map_eq_some_iff]

theorem Recalls.restart (h : gate.Recalls generation operationId) :
    gate.restart.2.Recalls generation operationId := by
  unfold AgentExecutionGate.restart
  split
  · exact h
  · next restored read =>
    obtain ⟨-, made⟩ := guard_eq_ok.mp read
    cases made
    refine ⟨?_, fun running none => (by cases none), .inl ?_⟩
    · unfold snapshotForRestart
      cases active : gate.active with
      | none => exact h.current
      | some running => exact congrArg some (h.paired running active)
    · rw [Std.ExtTreeSet.mem_ofList, List.contains_iff_mem, mem_snapshotForRestart]
      exact h.known

theorem reads_of_read {snapshot : AgentExecutionSnapshot}
    (was : restoreAfterRestart snapshot = .ok gate) :
    ∃ again, restoreAfterRestart gate.snapshotForRestart = .ok again := by
  obtain ⟨good, is⟩ := guard_eq_ok.mp was
  cases is
  rw [not_or, Bool.not_eq_true, List.any_eq_false] at good
  refine ⟨_, if_neg ?_⟩
  rintro (blank | ⟨some, none⟩)
  · obtain ⟨id, among, blank⟩ := List.any_eq_true.mp blank
    rcases mem_snapshotForRestart.mp among with known | ⟨_, running, _⟩
    · rw [Std.ExtTreeSet.mem_ofList, List.contains_iff_mem] at known
      exact good.1 id known blank
    · cases running
  · refine good.2 ⟨fun empty => some ?_, none⟩
    rw [List.isEmpty_iff] at empty ⊢
    refine List.eq_nil_iff_forall_not_mem.mpr fun id among => ?_
    rcases mem_snapshotForRestart.mp among with known | ⟨_, running, _⟩
    · rw [Std.ExtTreeSet.mem_ofList, empty] at known
      cases known
    · cases running

/-- A call that presents no other generation forgets nothing. -/
theorem Recalls.step (h : gate.Recalls generation operationId) {event : GateEvent}
    (same : ∀ g, event.presented = some g → g = generation) :
    (gate.step event).2.Recalls generation operationId := by
  cases event with
  | prepareGeneration g =>
    rw [same g rfl, AgentExecutionGate.step, prepareGeneration_of_current h.current]
    exact h
  | begin operation => exact h.begin (same _ rfl)
  | requestCancel id => exact h.requestCancel id
  | finish id => exact h.finish id
  | abandonOnDisconnect id => exact h.finish id
  | restart => exact h.restart

/-! ### Pending cancellations -/

theorem cancellationRequested_iff : gate.cancellationRequested operationId = true ↔
    ∃ operation, gate.active = some (operation, .cancelRequested) ∧
      operation.operationId = operationId := by
  unfold cancellationRequested
  split
  · next operation active => simp [active]
  · next other =>
    constructor
    · intro impossible
      cases impossible
    · rintro ⟨operation, active, _⟩
      exact absurd active (other operation)

/-- A call that fails changes nothing, and a pending cancellation stays pending until its
operation is over. -/
structure Keeps (gate : AgentExecutionGate) (event : GateEvent) : Prop where
  unchanged : ∀ e, (gate.step event).1 = .error e → (gate.step event).2 = gate
  pending : ∀ operationId, gate.cancellationRequested operationId = true →
    event.finishes ≠ some operationId → (gate.step event).2.cancellationRequested operationId = true

/-- The call reports another operation as over than the one whose cancellation is pending. -/
def Misnames (gate : AgentExecutionGate) (event : GateEvent) : Prop :=
  ∃ operation, gate.active = some (operation, .cancelRequested) ∧
    ∃ other, event.finishes = some other ∧ operation.operationId ≠ other

/-- A generation that is refused clears nothing. -/
theorem prepareGeneration_of_error (failed : (gate.prepareGeneration generation).1 = .error e) :
    (gate.prepareGeneration generation).2 = gate := by
  unfold prepareGeneration at failed ⊢
  split at failed
  · next zero => rw [if_pos zero]
  · next real =>
    rw [if_neg real]
    split at failed
    · next other => rw [if_pos other]
    · next same =>
      rw [if_neg same]
      split at failed
      · next old =>
        rw [if_pos old]
        split at failed
        · next busy => rw [if_pos busy]
        · cases failed
      · cases failed

/-- When a generation is new the gate is idle and forgets what it knew, and the begin succeeds. -/
theorem begin_unchanged (failed : (gate.begin operation).1 = .error e) :
    (gate.begin operation).2 = gate := by
  rw [begin_of_error failed]
  cases answer : (gate.prepareGeneration operation.deviceGeneration).1 with
  | error refused => exact prepareGeneration_of_error answer
  | ok done =>
    by_cases current : gate.replayGeneration = some operation.deviceGeneration
    · exact prepareGeneration_of_current current
    · unfold prepareGeneration at answer
      split at answer
      · cases answer
      · next real =>
        split at answer
        · cases answer
        · next same =>
          split at answer
          · cases answer
          · next idle =>
            have none := Option.not_isSome_iff_eq_none.mp idle
            simp [begin, prepareGeneration, real, current, none] at failed

theorem keeps_prepareGeneration (gate : AgentExecutionGate) (generation : Nat) :
    gate.Keeps (.prepareGeneration generation) where
  unchanged _ failed := prepareGeneration_of_error failed
  pending operationId requested _ := by
    rw [cancellationRequested_iff] at requested ⊢
    rwa [step, prepareGeneration_active]

theorem keeps_begin (gate : AgentExecutionGate) (operation : OperationRef) :
    gate.Keeps (.begin operation) where
  unchanged _ failed := begin_unchanged failed
  pending operationId requested _ := by
    obtain ⟨running, active, named⟩ := cancellationRequested_iff.mp requested
    cases answer : (gate.begin operation).1 with
    | error e => rwa [step, begin_unchanged answer]
    | ok done =>
      obtain ⟨-, -, idle, -⟩ := of_begin_ok answer
      rw [idle] at active
      cases active

theorem keeps_requestCancel (gate : AgentExecutionGate) (id : String) :
    gate.Keeps (.requestCancel id) := by
  constructor
  · intro e failed
    simp only [step, requestCancel] at failed ⊢
    split at failed
    · rfl
    · split at failed
      · next other => rw [if_pos other]
      · cases failed
  · intro operationId requested _
    obtain ⟨operation, active, named⟩ := cancellationRequested_iff.mp requested
    simp only [step, requestCancel, active]
    split
    · exact requested
    · exact cancellationRequested_iff.mpr ⟨operation, rfl, named⟩

/-- A wrong id is harmless exactly when no cancellation is pending. -/
theorem keeps_finish {event : GateEvent} (id : String) (reports : event.finishes = some id)
    (call : gate.step event = gate.finish id) : gate.Keeps event ↔ ¬gate.Misnames event := by
  constructor
  · rintro kept ⟨operation, active, other, finished, differs⟩
    rw [reports, Option.some.injEq] at finished
    subst finished
    have lost := kept.pending operation.operationId
      (cancellationRequested_iff.mpr ⟨operation, active, rfl⟩) (by
        rw [reports, ne_eq, Option.some.injEq]
        exact Ne.symm differs)
    rw [call, finish, active] at lost
    simp [differs, cancellationRequested] at lost
  · intro named
    have own : ∀ operation, gate.active = some (operation, .cancelRequested) →
        operation.operationId = id := by
      intro operation active
      by_contra differs
      exact named ⟨operation, active, id, reports, differs⟩
    constructor
    · intro e failed
      rw [call] at failed ⊢
      cases active : gate.active with
      | none => rw [finish, active]
      | some running =>
        obtain ⟨operation, state⟩ := running
        simp only [finish, active] at failed ⊢
        split at failed
        · next differs =>
          rw [if_pos differs]
          cases state with
          | running => rw [← active]
          | cancelRequested => exact absurd (own operation active) differs
        · cases failed
    · intro operationId requested unfinished
      obtain ⟨operation, active, rfl⟩ := cancellationRequested_iff.mp requested
      rw [own operation active] at unfinished
      exact absurd reports unfinished

/-- A failed call loses a pending cancellation exactly when it reports another operation as over,
and without such a call a cancellation stays pending until its operation is over. -/
theorem failed_calls_keep_iff (gate : AgentExecutionGate) :
    (∀ event, event ≠ .restart → (gate.Keeps event ↔ ¬gate.Misnames event)) ∧
      ∀ operationId events, gate.cancellationRequested operationId = true →
        Machine.Meets (fun gate event => (gate.step event).2)
          (fun gate event => event ≠ .restart ∧ ¬gate.Misnames event ∧
            event.finishes ≠ some operationId) gate events →
        (Machine.run (fun gate event => (gate.step event).2) gate events).cancellationRequested
          operationId = true := by
  have each : ∀ (gate : AgentExecutionGate) (event : GateEvent), event ≠ .restart →
      (gate.Keeps event ↔ ¬gate.Misnames event) := by
    intro gate event call
    have nothing : event.finishes = none → ¬gate.Misnames event := by
      rintro none ⟨operation, active, other, finished, differs⟩
      rw [none] at finished
      cases finished
    cases event with
    | prepareGeneration generation =>
      exact iff_of_true (keeps_prepareGeneration gate generation) (nothing rfl)
    | begin operation => exact iff_of_true (keeps_begin gate operation) (nothing rfl)
    | requestCancel id => exact iff_of_true (keeps_requestCancel gate id) (nothing rfl)
    | finish id => exact keeps_finish id rfl rfl
    | abandonOnDisconnect id => exact keeps_finish id rfl rfl
    | restart => exact absurd rfl call
  refine ⟨each gate, fun operationId events requested meets => ?_⟩
  have stays : ∀ (gate : AgentExecutionGate) (event : GateEvent),
      gate.cancellationRequested operationId = true →
      event ≠ .restart ∧ ¬gate.Misnames event ∧ event.finishes ≠ some operationId →
      (gate.step event).2.cancellationRequested operationId = true := by
    rintro gate event pending ⟨call, named, unfinished⟩
    exact ((each gate event call).mpr named).pending operationId pending unfinished
  exact Machine.run_invariant stays requested meets

/-- A click whose cancellation is pending. -/
def cancellingClick : AgentExecutionGate :=
  ⟨some (⟨"desk", 1, "x"⟩, .cancelRequested), some 1, ∅⟩

/-- A busy gate refuses another operation and keeps the cancellation. -/
theorem failed_calls_keep_busy :
    cancellingClick.Keeps (.begin ⟨"desk", 1, "y"⟩) ∧
      (cancellingClick.step (.begin ⟨"desk", 1, "y"⟩)).1 = .error .agentBusy ∧
      (cancellingClick.step (.begin ⟨"desk", 1, "y"⟩)).2.cancellationRequested "x" = true := by
  have calls := failed_calls_keep_iff cancellingClick
  have named : ¬cancellingClick.Misnames (.begin ⟨"desk", 1, "y"⟩) := by
    rintro ⟨_, _, _, finished, _⟩
    cases finished
  refine ⟨(calls.1 _ (by decide)).mpr named, by decide +kernel, ?_⟩
  exact calls.2 "x" [.begin ⟨"desk", 1, "y"⟩] rfl ⟨⟨by decide, named, by decide⟩, trivial⟩

/-- An unknown id is refused, and the cancellation of the running operation is lost with it. -/
theorem cancellation_lost_by_unknown_finish :
    cancellingClick.cancellationRequested "x" = true ∧
      (cancellingClick.finish "y").1 = .error .unknownOperation ∧
      (cancellingClick.finish "y").2.cancellationRequested "x" = false ∧
      ¬cancellingClick.Keeps (.finish "y") := by
  refine ⟨rfl, rfl, rfl, fun kept => ?_⟩
  have still := kept.pending "x" rfl (by decide)
  cases still

end AgentExecutionGate

/-! ### Runs of the gate -/

/-- A gate with what has been seen of it from outside. -/
structure GateRun where
  gate : AgentExecutionGate
  /-- the latest generation presented -/
  latest : Nat
  /-- generation and id of every operation that was begun -/
  begun : List (Nat × String)
  /-- the operations begun and neither finished, abandoned nor lost with the process -/
  underWay : List OperationRef

namespace GateRun
open AgentExecutionGate

def start (gate : AgentExecutionGate) : GateRun :=
  ⟨gate, 0, [], (gate.active.map Prod.fst).toList⟩

/-- What an answer shows of the operations under way. -/
def account (run : GateRun) (event : GateEvent) (ok : Bool) : List OperationRef :=
  match event with
  | .begin operation => if ok then operation :: run.underWay else run.underWay
  | .finish operationId | .abandonOnDisconnect operationId =>
    if ok then run.underWay.filter (·.operationId ≠ operationId) else run.underWay
  | .restart => if ok then [] else run.underWay
  | _ => run.underWay

def next (run : GateRun) (event : GateEvent) : GateRun :=
  let answer := run.gate.step event
  { gate := answer.2
    latest := event.presented.getD run.latest
    begun := match event with
      | .begin operation =>
        if answer.1.isOk then (operation.deviceGeneration, operation.operationId) :: run.begun
        else run.begun
      | _ => run.begun
    underWay := run.account event answer.1.isOk }

/-- The call presents no older generation than the calls before it. -/
def InOrder (run : GateRun) (event : GateEvent) : Prop :=
  ∀ generation, event.presented = some generation → run.latest ≤ generation

instance (run : GateRun) (event : GateEvent) : Decidable (run.InOrder event) :=
  decidable_of_iff (event.presented.all (run.latest ≤ ·) = true) (by
    simp [InOrder, Option.all_eq_true])

/-- What is under way is what the gate holds, and what was begun in the latest generation it
recalls. -/
structure Faithful (run : GateRun) : Prop where
  recalled : ∀ begun ∈ run.begun, begun.1 ≤ run.latest ∧
    (begun.1 = run.latest → run.gate.Recalls begun.1 begun.2)
  once : run.begun.Nodup
  underWay : run.underWay = (run.gate.active.map Prod.fst).toList

theorem faithful_start (gate : AgentExecutionGate) : (start gate).Faithful :=
  ⟨fun _ mem => (by cases mem), List.nodup_nil, rfl⟩

variable {run : GateRun} {event : GateEvent}

theorem account_finish (h : run.underWay = (run.gate.active.map Prod.fst).toList)
    (operationId : String) :
    (if (run.gate.finish operationId).1.isOk then
        run.underWay.filter (·.operationId ≠ operationId) else run.underWay) =
      ((run.gate.finish operationId).2.active.map Prod.fst).toList := by
  unfold finish
  rw [h]
  split
  · next none => rfl
  · next operation state active =>
    split
    · rw [active]
      rfl
    · next named => simp [Except.toBool, active, not_not.mp named]

/-- The answers tell what the gate holds. -/
theorem account_eq (h : run.underWay = (run.gate.active.map Prod.fst).toList) (event : GateEvent) :
    run.account event (run.gate.step event).1.isOk =
      ((run.gate.step event).2.active.map Prod.fst).toList := by
  cases event with
  | prepareGeneration generation =>
    show run.underWay = _
    rw [h, step, prepareGeneration_active]
  | begin operation =>
    show (if (run.gate.begin operation).1.isOk then _ else _) = _
    cases answer : (run.gate.begin operation).1 with
    | error e =>
      rw [step, begin_of_error answer,
        prepareGeneration_active, ← h]
      rfl
    | ok done =>
      obtain ⟨-, -, idle, after⟩ := of_begin_ok answer
      rw [step, after, h, idle]
      rfl
  | requestCancel operationId =>
    show run.underWay = _
    rw [h, step, requestCancel]
    split
    · rfl
    · next active =>
      split
      · rfl
      · rw [active]
        rfl
  | finish operationId => exact account_finish h operationId
  | abandonOnDisconnect operationId => exact account_finish h operationId
  | restart =>
    rw [step, restart]
    split
    · exact h
    · next restored read =>
      obtain ⟨-, made⟩ := guard_eq_ok.mp read
      cases made
      rfl

/-- An operation begun before is recalled after a call, if its generation is still the latest. -/
theorem Faithful.recalled_next (h : run.Faithful) (ordered : run.InOrder event)
    {begun : Nat × String} (mem : begun ∈ run.begun) :
    begun.1 ≤ (run.next event).latest ∧
      (begun.1 = (run.next event).latest → (run.next event).gate.Recalls begun.1 begun.2) := by
  obtain ⟨old, recalls⟩ := h.recalled begun mem
  cases presents : event.presented with
  | none =>
    have same : (run.next event).latest = run.latest := by
      simp only [GateRun.next, presents, Option.getD_none]
    rw [same]
    exact ⟨old, fun current => (recalls current).step fun g given => by
      rw [presents] at given
      cases given⟩
  | some generation =>
    have newer := ordered generation presents
    have same : (run.next event).latest = generation := by
      simp only [GateRun.next, presents, Option.getD_some]
    rw [same]
    refine ⟨old.trans newer, fun current => ?_⟩
    refine (recalls (Nat.le_antisymm old (current ▸ newer))).step fun g given => ?_
    rw [presents, Option.some.injEq] at given
    rw [current, given]

theorem Faithful.next (h : run.Faithful) (ordered : run.InOrder event) :
    (run.next event).Faithful := by
  have underWay := account_eq h.underWay event
  have kept := fun (begun : Nat × String) (mem : begun ∈ run.begun) => h.recalled_next ordered mem
  cases event with
  | begin operation =>
    cases answer : (run.gate.begin operation).1 with
    | error e =>
      have begun : (run.next (.begin operation)).begun = run.begun := by
        simp [GateRun.next, step, answer, Except.toBool]
      exact ⟨fun b mem => kept b (begun ▸ mem), begun ▸ h.once, underWay⟩
    | ok done =>
      have begun : (run.next (.begin operation)).begun =
          (operation.deviceGeneration, operation.operationId) :: run.begun := by
        simp [GateRun.next, step, answer, Except.toBool]
      refine ⟨?_, ?_, underWay⟩
      · rw [begun, List.forall_mem_cons]
        exact ⟨⟨le_rfl, fun _ => recalls_of_begin answer⟩, kept⟩
      · rw [begun, List.nodup_cons]
        refine ⟨fun mem => ?_, h.once⟩
        -- what was begun in this generation is recalled, and so refused
        obtain ⟨old, recalls⟩ := h.recalled _ mem
        have current := Nat.le_antisymm old (ordered _ rfl)
        exact (recalls current).begin_error answer
  | _ => exact ⟨kept, h.once, underWay⟩

/-- As long as generations are presented in order, no operation of a generation is begun twice,
and one at most is under way. -/
theorem begun_once (gate : AgentExecutionGate) {events : List GateEvent}
    (ordered : Machine.Meets GateRun.next InOrder (start gate) events) :
    (Machine.run GateRun.next (start gate) events).begun.Nodup ∧
      (Machine.run GateRun.next (start gate) events).underWay.length ≤ 1 := by
  have faithful := Machine.run_invariant (fun _ _ h ordered => Faithful.next h ordered)
    (faithful_start gate) ordered
  refine ⟨faithful.once, ?_⟩
  rw [faithful.underWay]
  exact Option.length_toList_le

/-- An operation is begun, the process restarts, and the operation is presented again, in its own
generation and in the next. -/
def presentedAgain : List GateEvent :=
  [.begin ⟨"desk", 1, "x"⟩, .restart, .begin ⟨"desk", 1, "x"⟩, .begin ⟨"desk", 2, "x"⟩]

/-- It is begun once in each generation. -/
theorem begun_once_presentedAgain :
    (Machine.run GateRun.next (start ⟨none, none, ∅⟩) presentedAgain).begun = [(2, "x"), (1, "x")] ∧
    (Machine.run GateRun.next (start ⟨none, none, ∅⟩) presentedAgain).begun.Nodup ∧
    (Machine.run GateRun.next (start ⟨none, none, ∅⟩) presentedAgain).underWay.length ≤ 1 :=
  ⟨by decide +kernel, begun_once ⟨none, none, ∅⟩ (by decide +kernel)⟩

end GateRun

end Gateway.Agent
