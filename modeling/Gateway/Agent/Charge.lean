import Gateway.Agent.Lifecycle
import Gateway.Data.Discipline

/-! Threads in charge of managed jobs.

A record is written by the thread that starts the job, by its supervisor, and by anybody who asks
for its end or no longer waits for it. What each of them may do follows from what it is in charge
of and what it has seen. Two steps do not: a job that starts is marked as running without a look
at it, and a shutdown may leave its loop by the clock with a job it has just found pending. -/
namespace Gateway.Agent
open Data Carrier Program JobTask JobWorld JobRecord

inductive Charge where
  | none
  | starting (job : Nat)
  | supervising (job : Nat)

namespace Charge

def job? : Charge → Option Nat
  | .none => Option.none
  | .starting job | .supervising job => some job

/-- A job in a thread's charge tells no end yet. -/
def Holds (me : Nat) (w : JobWorld) : Charge → Prop
  | .none => True
  | .starting job => ∃ j : Job, w.jobs[job]? = some j ∧ j.thread = .starting me ∧
    settled j.record.state = false
  | .supervising job => ∃ j : Job, w.jobs[job]? = some j ∧ j.thread = .supervised me ∧
    settled j.record.state = false

end Charge

/-- What a thread has and has seen. -/
structure JobStage where
  gate : Bool
  lock : Bool
  charge : Charge
  proof : Bool
  entries : List (String × Nat)
  counting : Option (List (String × Nat) × Nat)
  dead : List Nat
  lost : Bool
  free : Option String

namespace JobStage

def outside : JobStage :=
  ⟨false, false, .none, false, [], none, [], false, none⟩

structure Holds (me : Nat) (stage : JobStage) (w : JobWorld) : Prop where
  reached : stage.lost = false
  gate : w.gate = some me ↔ stage.gate = true
  lock : w.lock = some me ↔ stage.lock = true
  charge : stage.charge.Holds me w
  proof : stage.proof = true → ∀ job, stage.charge.job? = some job →
    ∀ j : Job, w.jobs[job]? = some j → j.proven = true
  entries : stage.lock = true → ∀ entry ∈ stage.entries, ∀ job : Nat,
    w.table[entry.1]? = some job → job = entry.2
  counting : stage.gate = true → ∀ rest count, stage.counting = some (rest, count) →
    w.Counted (rest.map Prod.fst) count
  dead : ∀ job ∈ stage.dead, w.Ended job

/-- An entry of the locked table has been looked at. -/
def counted (stage : JobStage) (job : Nat) (active : Bool) :
    List (String × Nat) × Nat → List (String × Nat) × Nat
  | (entry :: rest, count) =>
    if entry.2 = job ∧ stage.lock = true ∧ entry ∈ stage.entries then
      (rest, if active then count + 1 else count)
    else (entry :: rest, count)
  | ([], count) => ([], count)

def afterRecord (stage : JobStage) (job : Nat) : (op : RecordOp) → op.Reply → JobStage
  | .load, found =>
    {stage with
      dead := if found.any fun record => record.terminalAt.isSome then job :: stage.dead else stage.dead
      counting := stage.counting.map
        (stage.counted job (found.any fun record => !record.state.isTerminal))}
  | .await _, found => if found = .pending then stage else {stage with dead := job :: stage.dead}
  | .settle _ _, _ | .complete _, _ => {stage with charge := .none, proof := false}
  | _, _ => stage

def after (stage : JobStage) : (c : JobCall) → c.Reply → JobStage
  | .lockGate, _ => {stage with gate := true, counting := none}
  | .unlockGate, _ => {stage with gate := false}
  | .lockJobs, _ => {stage with lock := true, entries := [], free := none}
  | .unlockJobs, _ => {stage with lock := false}
  | .lookup locator, none => {stage with free := some locator}
  | .entries, found => {stage with entries := found, counting := some (found, 0)}
  | .insert _ _, _ => {stage with entries := [], counting := none, free := none}
  | .spawnProcess _, .ok job => {stage with charge := .starting job, proof := false}
  | .spawnSupervisor _, true => {stage with charge := .none, proof := false}
  | .takeThread job, _ => {stage with charge := .supervising job, proof := false}
  | .proveTerminal _, some _ => {stage with proof := true}
  | .record job op, found => stage.afterRecord job op found
  | .passed _ spared, true => {stage with lost := spared}
  | _, _ => stage

def PermitsRecord (stage : JobStage) (job : Nat) : RecordOp → Prop
  | .run | .condemn => stage.charge = .starting job
  | .settle _ proof | .complete proof =>
    stage.charge = .supervising job ∧ (proof.isSome = true → stage.proof = true)
  | _ => True

def Permits (limits : ManagedJobLimits) (stage : JobStage) : JobCall → Prop
  | .unlockGate => stage.gate = true
  | .unlockJobs | .remove _ | .entries => stage.lock = true
  | .insert locator job => stage.gate = true ∧ stage.lock = true ∧ stage.free = some locator ∧
    stage.charge = .starting job ∧
    ∃ count, stage.counting = some ([], count) ∧ count < limits.maxConcurrentJobs
  | .discard locator => stage.lock = true ∧ ∃ job, (locator, job) ∈ stage.entries ∧ job ∈ stage.dead
  | .spawnSupervisor job => stage.charge = .starting job
  | .proveTerminal job => stage.charge.job? = some job
  | .record job op => stage.PermitsRecord job op
  | _ => True

end JobStage

/-! ### The host without the two steps -/

/-- A job is marked as running when it is starting, and a shutdown does not leave by the clock
with a job it left pending. -/
def JobWorld.mended (limits : ManagedJobLimits) (w : JobWorld) (me : Nat) (c : JobCall)
    (fate : JobFate) : c.Reply × JobWorld :=
  match c with
  | .record job .run =>
    ((), if w.jobs[job]?.any fun j => j.record.state = .starting then (w.recordOp job .run).2 else w)
  | .passed deadline spared => (decide (deadline ≤ w.now) && !spared, w)
  | c => w.perform limits me c fate

def mendedJobHost (limits : ManagedJobLimits) : Host JobCall JobCall.Reply JobWorld JobFate where
  perform w me c fate := w.mended limits me c fate
  ready w _ c := w.ready c

/-! ### What a call does -/

section Steps
variable {limits : ManagedJobLimits} {w w' : JobWorld} {me other : Nat} {stage stage' : JobStage}

/-- What the other threads have to know of a call. -/
structure JobWorld.Aside (me : Nat) (w w' : JobWorld) : Prop where
  onward : w.Onward me w'
  gate : ∀ other, other ≠ me → (w'.gate = some other ↔ w.gate = some other)
  lock : ∀ other, other ≠ me → (w'.lock = some other ↔ w.lock = some other)
  table : ∀ other, other ≠ me → w.gate = some other ∨ w.lock = some other →
    ∀ (locator : String) job, w'.table[locator]? = some job → w.table[locator]? = some job

variable {charge : Charge} {job : Nat} {locator : String} {op : RecordOp}

theorem Charge.Holds.aside (holds : charge.Holds other w) (onward : w.Onward me w')
    (distinct : other ≠ me) : charge.Holds other w' := by
  cases charge with
  | none => trivial
  | starting job =>
    obtain ⟨j, found, thread, unsettled⟩ := holds
    obtain ⟨j', found', onto⟩ := onward.jobs job j found
    have others : j.OthersThan me := ⟨other, distinct, .inl thread⟩
    exact ⟨j', found', (onto.thread others).trans thread, onto.unsettled others unsettled⟩
  | supervising job =>
    obtain ⟨j, found, thread, unsettled⟩ := holds
    obtain ⟨j', found', onto⟩ := onward.jobs job j found
    have others : j.OthersThan me := ⟨other, distinct, .inr thread⟩
    exact ⟨j', found', (onto.thread others).trans thread, onto.unsettled others unsettled⟩

theorem Charge.Holds.found (holds : charge.Holds me w) (mine : charge.job? = some job) :
    ∃ j : Job, w.jobs[job]? = some j := by
  cases charge with
  | none => cases mine
  | starting _ =>
    cases mine
    exact ⟨_, holds.choose_spec.1⟩
  | supervising _ =>
    cases mine
    exact ⟨_, holds.choose_spec.1⟩

theorem JobStage.Holds.proven_onward (holds : stage.Holds other w) (onward : w.Onward me w') :
    stage.proof = true → ∀ job, stage.charge.job? = some job →
      ∀ j : Job, w'.jobs[job]? = some j → j.proven = true := by
  intro proof job mine j' found'
  obtain ⟨j, found⟩ := holds.charge.found mine
  obtain ⟨j'', again, onto⟩ := onward.jobs job j found
  cases found'.symm.trans again
  exact onto.proven (holds.proof proof job mine j found)

/-- What a thread knows outlives the calls of others. -/
theorem JobStage.Holds.aside (holds : stage.Holds other w) (inv : w.Inv limits)
    (aside : w.Aside me w') (distinct : other ≠ me) : stage.Holds other w' where
  reached := holds.reached
  gate := (aside.gate other distinct).trans holds.gate
  lock := (aside.lock other distinct).trans holds.lock
  charge := holds.charge.aside aside.onward distinct
  proof := holds.proven_onward aside.onward
  entries locked entry among job at_ := holds.entries locked entry among job
    (aside.table other distinct (.inr (holds.lock.mpr locked)) entry.1 job at_)
  counting gated rest count is := (holds.counting gated rest count is).onward aside.onward
    inv.listed (aside.table other distinct (.inl (holds.gate.mpr gated)))
  dead job among := aside.onward.ended (holds.dead job among)

/-- A call that leaves the table and the locks alone. -/
theorem JobWorld.aside_of_onward (onward : w.Onward me w') (gate : w'.gate = w.gate)
    (lock : w'.lock = w.lock) (table : w'.table = w.table) : w.Aside me w' :=
  ⟨onward, fun _ _ => by rw [gate], fun _ _ => by rw [lock], fun _ _ _ _ _ at_ => table ▸ at_⟩

/-- What a thread knows outlives such a call of its own, but for its charge. -/
theorem JobStage.Holds.keep (holds : stage.Holds me w) (inv : w.Inv limits)
    (onward : w.Onward me w') (gate : w'.gate = w.gate) (lock : w'.lock = w.lock)
    (table : w'.table = w.table) (charge : stage.charge.Holds me w') : stage.Holds me w' where
  reached := holds.reached
  gate := gate ▸ holds.gate
  lock := lock ▸ holds.lock
  charge := charge
  proof := holds.proven_onward onward
  entries locked entry among job at_ := holds.entries locked entry among job (table ▸ at_)
  counting gated rest count is := (holds.counting gated rest count is).onward onward inv.listed
    fun _ _ at_ => table ▸ at_
  dead job among := onward.ended (holds.dead job among)

theorem JobWorld.recordOp_snd (w : JobWorld) (job : Nat) (op : RecordOp) :
    (w.recordOp job op).2 = w.update job fun j =>
      {j with
        record := (op.apply w.now j.record).2
        history := (op.apply w.now j.record).2.state :: j.history} := by
  unfold recordOp
  cases found : w.jobs[job]? with
  | none =>
    have beyond : w.jobs.length ≤ job := List.getElem?_eq_none_iff.mp found
    simp only [update]
    rw [List.modify_eq_self beyond]
  | some j =>
    simp only [update]
    congr 1
    refine List.ext_getElem? fun other => ?_
    rw [List.getElem?_modify, List.getElem?_modify]
    by_cases same : job = other
    · subst same
      rw [found]
      rfl
    · cases w.jobs[other]? <;> simp [same]

theorem JobWorld.recordOp_fst {j : Job} (found : w.jobs[job]? = some j) (op : RecordOp) :
    (w.recordOp job op).1 = (op.apply w.now j.record).1 := by
  unfold recordOp
  rw [found]

/-- What a call comes to, for its thread and for the others. -/
structure JobStep (limits : ManagedJobLimits) (me : Nat) (w w' : JobWorld) (stage' : JobStage) :
    Prop where
  inv : w'.Inv limits
  aside : w.Aside me w'
  holds : stage'.Holds me w'

/-- A job's charge outlives a change that leaves its thread and tells no end. -/
theorem Charge.Holds.update {f : Job → Job} (holds : charge.Holds me w)
    (thread : ∀ j, (f j).thread = j.thread)
    (unsettled : ∀ j : Job, w.jobs[job]? = some j → charge.job? = some job →
      settled j.record.state = false → settled (f j).record.state = false) :
    charge.Holds me (w.update job f) := by
  have kept {mine : Nat} {j : Job} (found : w.jobs[mine]? = some j) (is : charge.job? = some mine)
      (unended : settled j.record.state = false) :
      ∃ j' : Job, (w.update job f).jobs[mine]? = some j' ∧ j'.thread = j.thread ∧
        settled j'.record.state = false := by
    by_cases same : job = mine
    · subst same
      rw [get_update_self, found]
      exact ⟨f j, rfl, thread j, unsettled j found is unended⟩
    · rw [get_update_of_ne same]
      exact ⟨j, found, rfl, unended⟩
  cases charge with
  | none => trivial
  | starting mine =>
    obtain ⟨j, found, is, unended⟩ := holds
    obtain ⟨j', found', same, unended'⟩ := kept found rfl unended
    exact ⟨j', found', same.trans is, unended'⟩
  | supervising mine =>
    obtain ⟨j, found, is, unended⟩ := holds
    obtain ⟨j', found', same, unended'⟩ := kept found rfl unended
    exact ⟨j', found', same.trans is, unended'⟩

theorem load_fst (w : JobWorld) (job : Nat) :
    (w.recordOp job .load).1 = w.jobs[job]?.map (·.record) := by
  unfold recordOp
  cases w.jobs[job]? <;> rfl

section Steps
variable (inv : w.Inv limits) (holds : stage.Holds me w)
include inv holds

theorem step_look : JobStep limits me w w stage :=
  ⟨inv, aside_of_onward (onward_of_jobs rfl) rfl rfl rfl, holds⟩

theorem step_update {f : Job → Job} (onto : ∀ j : Job, w.jobs[job]? = some j → j.Onward me (f j))
    (charge : stage.charge.Holds me (w.update job f)) :
    JobStep limits me w (w.update job f) stage := by
  have onward : w.Onward me (w.update job f) := onward_update onto
  exact ⟨inv.onward onward (fun _ _ at_ => at_) rfl, aside_of_onward onward rfl rfl rfl,
    holds.keep inv onward rfl rfl rfl charge⟩

theorem step_lockGate (free : w.gate = none) :
    JobStep limits me w {w with gate := some me} {stage with gate := true, counting := none} := by
  have onward : w.Onward me {w with gate := some me} := onward_of_jobs rfl
  refine ⟨inv.onward onward (fun _ _ at_ => at_) rfl, ⟨onward, fun other distinct => ?_,
    fun _ _ => .rfl, fun _ _ _ _ _ at_ => at_⟩, ?_⟩
  · rw [free]
    exact ⟨fun is => absurd (Option.some.inj is).symm distinct, nofun⟩
  · exact {holds with gate := ⟨fun _ => rfl, fun _ => rfl⟩, counting := nofun}

theorem step_unlockGate (mine : stage.gate = true) :
    JobStep limits me w {w with gate := none} {stage with gate := false} := by
  have onward : w.Onward me {w with gate := none} := onward_of_jobs rfl
  refine ⟨inv.onward onward (fun _ _ at_ => at_) rfl, ⟨onward, fun other distinct => ?_,
    fun _ _ => .rfl, fun _ _ _ _ _ at_ => at_⟩, ?_⟩
  · rw [holds.gate.mpr mine]
    exact ⟨nofun, fun is => absurd (Option.some.inj is).symm distinct⟩
  · exact {holds with gate := ⟨nofun, nofun⟩, counting := nofun}

theorem step_lockJobs (free : w.lock = none) :
    JobStep limits me w {w with lock := some me}
      {stage with lock := true, entries := [], free := none} := by
  have onward : w.Onward me {w with lock := some me} := onward_of_jobs rfl
  refine ⟨inv.onward onward (fun _ _ at_ => at_) rfl, ⟨onward, fun _ _ => .rfl,
    fun other distinct => ?_, fun _ _ _ _ _ at_ => at_⟩, ?_⟩
  · rw [free]
    exact ⟨fun is => absurd (Option.some.inj is).symm distinct, nofun⟩
  · exact {holds with lock := ⟨fun _ => rfl, fun _ => rfl⟩, entries := nofun}

theorem step_unlockJobs (mine : stage.lock = true) :
    JobStep limits me w {w with lock := none} {stage with lock := false} := by
  have onward : w.Onward me {w with lock := none} := onward_of_jobs rfl
  refine ⟨inv.onward onward (fun _ _ at_ => at_) rfl, ⟨onward, fun _ _ => .rfl,
    fun other distinct => ?_, fun _ _ _ _ _ at_ => at_⟩, ?_⟩
  · rw [holds.lock.mpr mine]
    exact ⟨nofun, fun is => absurd (Option.some.inj is).symm distinct⟩
  · exact {holds with lock := ⟨nofun, nofun⟩, entries := nofun}

theorem step_entries :
    JobStep limits me w w
      {stage with entries := w.table.toList, counting := some (w.table.toList, 0)} := by
  refine step_look inv {holds with
    entries := fun _ entry among job at_ => ?_
    counting := fun _ rest count is => ?_}
  · have listed := Std.ExtTreeMap.mem_toList_iff_getElem?_eq_some.mp among
    exact Option.some.inj (at_.symm.trans listed)
  · cases is
    intro locators _ active
    cases locators with
    | nil => exact Nat.le_refl 0
    | cons locator rest =>
      obtain ⟨⟨job, _, at_, _⟩, beside⟩ := active locator List.mem_cons_self
      refine absurd (List.mem_map.mpr ⟨(locator, job), ?_, rfl⟩) beside
      exact Std.ExtTreeMap.mem_toList_iff_getElem?_eq_some.mpr at_

theorem step_erase {pruned : List (Nat × ManagedJobState)}
    (ended : ∀ entry ∈ pruned, entry.2.isTerminal = true) :
    JobStep limits me w {w with table := w.table.erase locator, pruned := pruned} stage := by
  have onward : w.Onward me {w with table := w.table.erase locator, pruned := pruned} :=
    onward_of_jobs rfl
  have fewer : ∀ (other : String) (job : Nat), (w.table.erase locator)[other]? = some job →
      w.table[other]? = some job := by
    intro other job at_
    rw [Table.get_erase] at at_
    split at at_
    · cases at_
    · exact at_
  refine ⟨⟨inv.jobs, fun other job at_ => inv.listed other job (fewer other job at_),
    inv.counted.onward onward inv.listed fewer, ended⟩,
    ⟨onward, fun _ _ => .rfl, fun _ _ => .rfl, fun _ _ _ => fewer⟩, ?_⟩
  exact {holds with
    entries := fun locked entry among job at_ => holds.entries locked entry among job (fewer _ job at_)
    counting := fun gated rest count is =>
      (holds.counting gated rest count is).onward onward inv.listed fewer}

theorem step_insert (permitted : stage.Permits limits (.insert locator job)) :
    JobStep limits me w {w with table := w.table.insert locator job}
      {stage with entries := [], counting := none, free := none} := by
  obtain ⟨gated, locked, _, charge, count, counting, room⟩ := permitted
  have onward : w.Onward me {w with table := w.table.insert locator job} := onward_of_jobs rfl
  have bound : job < w.jobs.length := by
    obtain ⟨j, found⟩ := holds.charge.found (charge ▸ rfl : stage.charge.job? = some job)
    exact (List.getElem?_eq_some_iff.mp found).1
  refine ⟨⟨inv.jobs, fun other listed at_ => ?_, ?_, inv.pruned⟩,
    ⟨onward, fun _ _ => .rfl, fun _ _ => .rfl, fun other distinct held => ?_⟩, ?_⟩
  · rw [Table.get_insert] at at_
    split at at_
    · cases at_
      exact bound
    · exact inv.listed other listed at_
  · intro locators nodup active
    exact Nat.le_trans ((holds.counting gated [] count counting).insert locators nodup active) room
  · rcases held with is | is
    · exact absurd (Option.some.inj (is.symm.trans (holds.gate.mpr gated))) distinct
    · exact absurd (Option.some.inj (is.symm.trans (holds.lock.mpr locked))) distinct
  · exact {holds with entries := nofun, counting := nofun}

theorem step_discard (permitted : stage.Permits limits (.discard locator)) :
    JobStep limits me w (w.discard locator) stage := by
  obtain ⟨locked, job, among, dead⟩ := permitted
  refine step_erase inv holds fun entry listed => ?_
  rcases List.mem_append.mp listed with new | old
  · -- The entry is the one that was looked at, and what has ended stays so.
    have is := Option.mem_toList.mp new
    obtain ⟨job', at_, is⟩ := Option.bind_eq_some_iff.mp is
    obtain ⟨j, found, rfl⟩ := Option.map_eq_some_iff.mp is
    cases holds.entries locked _ among job' at_
    obtain ⟨j', again, ended⟩ := holds.dead job dead
    cases found.symm.trans again
    exact ended
  · exact inv.pruned entry old

theorem step_spawnProcess {record : JobRecord} (new : record.state = .starting)
    (unended : record.terminalAt = none) :
    JobStep limits me w {w with jobs := w.jobs ++ [⟨record, .starting me, false, [.starting]⟩]}
      {stage with charge := .starting w.jobs.length, proof := false} := by
  have ok : Job.Ok ⟨record, .starting me, false, [.starting]⟩ := by
    refine ⟨congrArg some new.symm, List.pairwise_singleton _ _, ?_, ?_, nofun⟩
    · rw [unended, new]
      rfl
    · rw [new]
      nofun
  have onward : w.Onward me
      {w with jobs := w.jobs ++ [⟨record, .starting me, false, [.starting]⟩]} :=
    onward_spawn ok
  refine ⟨inv.onward onward (fun _ _ at_ => at_) rfl, aside_of_onward onward rfl rfl rfl,
    ⟨holds.reached, holds.gate, holds.lock, ?_, nofun, holds.entries,
      fun gated rest count is => (holds.counting gated rest count is).onward onward inv.listed
        fun _ _ at_ => at_,
      fun job among => onward.ended (holds.dead job among)⟩⟩
  refine ⟨_, List.getElem?_concat_length, rfl, ?_⟩
  rw [new]
  rfl

theorem step_spawnSupervisor (mine : stage.charge = .starting job) :
    JobStep limits me w (w.update job fun j => {j with thread := .spawned})
      {stage with charge := .none, proof := false} := by
  have charge := holds.charge
  rw [mine] at charge
  obtain ⟨j, found, thread, unsettled⟩ := charge
  refine step_update inv ?_ (fun j' found' => ?_) trivial
  · exact {holds with charge := trivial, proof := nofun}
  · cases found.symm.trans found'
    have own : ¬j.OthersThan me := by
      rintro ⟨other, distinct, is | is⟩
      · cases thread.symm.trans is
        exact distinct rfl
      · cases thread.symm.trans is
    exact ⟨fun ok => {ok with unclaimed := fun _ => unsettled}, .refl _,
      id, fun others => absurd others own, fun others => absurd others own⟩

theorem step_takeThread
    (spawned : w.jobs[job]?.any (fun j => decide (j.thread = .spawned)) = true) :
    JobStep limits me w (w.update job fun j => {j with thread := .supervised me})
      {stage with charge := .supervising job, proof := false} := by
  cases found : w.jobs[job]? with
  | none =>
    rw [found] at spawned
    cases spawned
  | some j =>
    rw [found] at spawned
    have thread : j.thread = .spawned := of_decide_eq_true spawned
    have own : ¬j.OthersThan me := by
      rintro ⟨other, distinct, is | is⟩ <;> cases thread.symm.trans is
    have holds' : JobStage.Holds me {stage with charge := .none, proof := false} w :=
      {holds with charge := trivial, proof := nofun}
    have step : JobStep limits me w (w.update job fun j => {j with thread := .supervised me})
        {stage with charge := .none, proof := false} := by
      refine step_update inv holds' (fun j' found' => ?_) trivial
      cases found.symm.trans found'
      exact ⟨fun ok => {ok with unclaimed := nofun}, .refl _, id,
        fun others => absurd others own, fun others => absurd others own⟩
    refine ⟨step.inv, step.aside, {step.holds with charge := ?_, proof := nofun}⟩
    refine ⟨{j with thread := .supervised me}, ?_, rfl, (inv.jobs job j found).unclaimed thread⟩
    rw [get_update_self, found]
    rfl

theorem step_proveTerminal (mine : stage.charge.job? = some job) :
    JobStep limits me w (w.update job fun j => {j with proven := true})
      {stage with proof := true} := by
  have onto : ∀ j : Job, w.jobs[job]? = some j → j.Onward me {j with proven := true} :=
    fun j _ => ⟨fun ok => {ok with proved := fun _ => rfl},
      .refl _, fun _ => rfl, fun _ => rfl, fun _ => id⟩
  have step : JobStep limits me w (w.update job fun j => {j with proven := true}) stage :=
    step_update inv holds onto (holds.charge.update (fun _ => rfl) fun _ _ _ => id)
  refine ⟨step.inv, step.aside, {step.holds with proof := fun _ job' mine' j' found' => ?_}⟩
  cases mine.symm.trans mine'
  rw [get_update_self] at found'
  obtain ⟨j, _, rfl⟩ := Option.map_eq_some_iff.mp found'
  rfl

/-! ### Sections on a record -/

/-- A section that tells no end. -/
theorem step_write
    (follows : ∀ j : Job, w.jobs[job]? = some j → j.record.Follows (op.apply w.now j.record).2 ∧
      settled (op.apply w.now j.record).2.state = settled j.record.state) :
    JobStep limits me w (w.recordOp job op).2 stage := by
  rw [recordOp_snd]
  refine step_update inv holds (fun j found => ?_) (holds.charge.update (fun _ => rfl) ?_)
  · exact Job.onward_write me (follows j found).1 (follows j found).2
  · exact fun j found _ unsettled => (follows j found).2.trans unsettled

theorem step_common (common : op.common = true) : JobStep limits me w (w.recordOp job op).2 stage :=
  step_write inv holds fun j _ => RecordOp.apply_common common j.record w.now

theorem step_load :
    JobStep limits me w (w.recordOp job .load).2
      (stage.afterRecord job .load (w.recordOp job .load).1) := by
  have step : JobStep limits me w (w.recordOp job .load).2 stage := step_common inv holds rfl
  rw [load_fst]
  refine ⟨step.inv, step.aside, {step.holds with
    counting := fun gated rest count is => ?_
    dead := fun other among => ?_}⟩
  · obtain ⟨⟨before, was⟩, counting, is⟩ := Option.map_eq_some_iff.mp is
    have known := holds.counting gated before was counting
    cases before with
    | nil =>
      cases is
      exact step.holds.counting gated [] _ counting
    | cons entry more =>
      unfold JobStage.counted at is
      dsimp only at is
      split at is
      · next here =>
        obtain ⟨rfl, locked, listed⟩ := here
        cases is
        have look := known.look (holds.entries locked entry listed)
        rw [Option.any_map]
        exact look.onward step.aside.onward inv.listed (fun _ _ at_ => by
          rw [recordOp_snd] at at_
          exact at_)
      · cases is
        exact step.holds.counting gated _ _ counting
  · change other ∈ (if _ then _ else _) at among
    split at among
    · next ended =>
      rcases List.mem_cons.mp among with rfl | earlier
      · cases found : w.jobs[other]? with
        | none =>
          rw [found] at ended
          cases ended
        | some j =>
          rw [found] at ended
          refine step.aside.onward.ended ⟨j, found, ?_⟩
          exact (inv.jobs other j found).stamped ▸ ended
      · exact step.holds.dead other earlier
    · exact step.holds.dead other among

theorem step_await {deadline : Nat} :
    JobStep limits me w (w.recordOp job (.await deadline)).2
      (stage.afterRecord job (.await deadline) (w.recordOp job (.await deadline)).1) := by
  have step : JobStep limits me w (w.recordOp job (.await deadline)).2 stage :=
    step_common inv holds rfl
  show JobStep limits me w _ (if _ then _ else _)
  split
  · exact step
  · next done =>
    refine ⟨step.inv, step.aside, {step.holds with dead := fun other among => ?_}⟩
    rcases List.mem_cons.mp among with rfl | earlier
    · cases found : w.jobs[other]? with
      | none =>
        unfold recordOp at done
        rw [found] at done
        exact absurd rfl done
      | some j =>
        rw [recordOp_fst found] at done
        rw [recordOp_snd]
        rw [JobWorld.Ended, get_update_self, found]
        exact ⟨_, rfl, await_terminal done⟩
    · exact step.holds.dead other earlier

/-- The section of a supervisor that tells how its job ended. -/
theorem step_conclude {proved : ManagedJobState} {proof : Option (Option Int)}
    (apply : ∀ record, (op.apply w.now record).2 = record.conclude w.now proved proof)
    (ended : proved.isTerminal = true) (mine : stage.charge = .supervising job)
    (known : proof.isSome = true → stage.proof = true) :
    JobStep limits me w (w.recordOp job op).2 {stage with charge := .none, proof := false} := by
  have charge := holds.charge
  rw [mine] at charge
  obtain ⟨j, found, thread, unsettled⟩ := charge
  rw [recordOp_snd]
  refine step_update inv ?_ (fun j' found' => ?_) trivial
  · exact {holds with charge := trivial, proof := nofun}
  · cases found.symm.trans found'
    rw [apply]
    refine Job.onward_settle (conclude_follows ended proof unsettled) thread fun told => ?_
    exact holds.proof (known (settled_conclude unsettled told)) job (by rw [mine]; rfl) j
      found

theorem step_run :
    JobStep limits me w (if w.jobs[job]?.any fun j => j.record.state = .starting then
      (w.recordOp job .run).2 else w) stage := by
  split
  · next starting =>
    refine step_write inv holds fun j found => ?_
    rw [found] at starting
    have is : j.record.state = .starting := of_decide_eq_true starting
    refine ⟨⟨?_, fun stamped => ?_⟩, ?_⟩
    · rw [is]
      exact later_of_rank rfl (Nat.zero_le _)
    · rw [is] at stamped
      exact stamped
    · rw [is]
      rfl
  · exact step_look inv holds

theorem step_condemn (mine : stage.charge = .starting job) :
    JobStep limits me w (w.recordOp job .condemn).2 stage := by
  have charge := holds.charge
  rw [mine] at charge
  obtain ⟨j, found, _, unsettled⟩ := charge
  refine step_write inv holds fun j' found' => ?_
  cases found.symm.trans found'
  exact ⟨giveUp_follows unsettled, unsettled.symm⟩

theorem step_record {fate : JobFate} (permitted : stage.PermitsRecord job op) :
    JobStep limits me w (w.mended limits me (.record job op) fate).2
      (stage.afterRecord job op (w.mended limits me (.record job op) fate).1) := by
  cases op with
  | load => exact step_load inv holds
  | await deadline => exact step_await inv holds
  | run => exact step_run inv holds
  | condemn => exact step_condemn inv holds permitted
  | settle reason proof =>
    exact step_conclude inv holds (fun _ => rfl) (by cases reason <;> rfl) permitted.1 permitted.2
  | complete proof => exact step_conclude inv holds (fun _ => rfl) rfl permitted.1 permitted.2
  | _ => exact step_common inv holds rfl

theorem step_call {c : JobCall} (fate : JobFate) (permitted : stage.Permits limits c)
    (ready : w.ready c = true) :
    JobStep limits me w (w.mended limits me c fate).2
      (stage.after c (w.mended limits me c fate).1) := by
  cases c with
  | lockGate => exact step_lockGate inv holds (Option.isNone_iff_eq_none.mp ready)
  | unlockGate => exact step_unlockGate inv holds permitted
  | lockJobs => exact step_lockJobs inv holds (Option.isNone_iff_eq_none.mp ready)
  | unlockJobs => exact step_unlockJobs inv holds permitted
  | entries => exact step_entries inv holds
  | lookup locator =>
    simp only [mended, perform]
    cases w.table[locator]? with
    | some _ => exact step_look inv holds
    | none =>
      exact step_look inv {holds with}
  | insert locator job => exact step_insert inv holds permitted
  | remove locator => exact step_erase inv holds inv.pruned
  | discard locator => exact step_discard inv holds permitted
  | spawnProcess hardLifetime =>
    simp only [mended, perform]
    split
    · exact step_spawnProcess inv holds rfl rfl
    · exact step_look inv holds
  | spawnSupervisor job =>
    simp only [mended, perform]
    cases fate.ok with
    | true => exact step_spawnSupervisor inv holds permitted
    | false => exact step_look inv holds
  | takeThread job => exact step_takeThread inv holds ready
  | proveTerminal job =>
    simp only [mended, perform]
    split
    · exact step_proveTerminal inv holds permitted
    · exact step_look inv holds
  | record job op => exact step_record inv holds permitted
  | passed deadline spared =>
    simp only [mended]
    cases late : decide (deadline ≤ w.now) && !spared with
    | false => exact step_look inv holds
    | true =>
      have unspared : spared = false := by simpa using (Bool.and_eq_true_iff.mp late).2
      subst unspared
      exact step_look inv {holds with reached := rfl}
  | tick millis =>
    have onward : w.Onward me {w with now := w.now + millis} := onward_of_jobs rfl
    exact ⟨inv.onward onward (fun _ _ at_ => at_) rfl,
      aside_of_onward onward rfl rfl rfl,
      holds.keep inv onward rfl rfl rfl holds.charge⟩
  | _ => exact step_look inv holds

end Steps

end Steps

def jobDiscipline (limits : ManagedJobLimits) :
    Discipline (mendedJobHost limits) JobJob JobStage where
  Inv := JobWorld.Inv limits
  Knows me _ stage := stage.Holds me
  Permits _ stage c := stage.Permits limits c
  after := JobStage.after
  own fate inv knows permitted ready :=
    ⟨(step_call inv knows fate permitted ready).inv, (step_call inv knows fate permitted ready).holds⟩
  others fate inv knows permitted ready distinct known :=
    known.aside inv (step_call inv knows fate permitted ready).aside distinct

end Gateway.Agent
