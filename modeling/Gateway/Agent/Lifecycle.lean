import Gateway.Agent.ManagedJob

/-! The life of a managed job.

A record only goes on: once it tells an end it stays as it is, and a stop that was asked for is
not taken back. What a call may do to the jobs is one relation, which keeps every count of those
that have not ended. -/
namespace Gateway.Agent
open Data Carrier

/-! ### States -/

def stateRank : ManagedJobState → Nat
  | .starting => 0
  | .running => 1
  | .stopRequested => 2
  | _ => 3

/-- A state that can come after another one. -/
def Later (older newer : ManagedJobState) : Prop :=
  stateRank older ≤ stateRank newer ∧ (older.isTerminal = true → newer = older)

/-- A state that tells how a job ended. -/
def settled : ManagedJobState → Bool
  | .completed | .stopped | .expired => true
  | _ => false

theorem Later.refl (state : ManagedJobState) : Later state state := ⟨Nat.le_refl _, fun _ => rfl⟩

variable {a b : ManagedJobState}

theorem Later.trans {c : ManagedJobState} (h : Later a b) (h' : Later b c) : Later a c := by
  refine ⟨Nat.le_trans h.1 h'.1, fun ended => ?_⟩
  have same := h.2 ended
  subst same
  exact h'.2 ended

theorem Later.terminal (h : Later a b) (ended : a.isTerminal = true) : b.isTerminal = true := by
  rw [h.2 ended]
  exact ended

/-- Whatever comes after a job that goes on is further on. -/
theorem later_of_rank (live : a.isTerminal = false) (further : stateRank a ≤ stateRank b) :
    Later a b :=
  ⟨further, fun ended => (by cases live.symm.trans ended)⟩

theorem rank_le_three (state : ManagedJobState) : stateRank state ≤ 3 := by
  cases state <;> decide

theorem rank_of_terminal {state : ManagedJobState} (ended : state.isTerminal = true) :
    stateRank state = 3 := by
  cases state <;> first | rfl | cases ended

theorem later_of_terminal (live : a.isTerminal = false) (ended : b.isTerminal = true) : Later a b :=
  later_of_rank live (rank_of_terminal ended ▸ rank_le_three a)

theorem terminal_of_settled {state : ManagedJobState} (ended : settled state = true) :
    state.isTerminal = true := by
  cases state <;> first | rfl | cases ended

/-! ### Records -/

/-- What one critical section may do to a record: it goes on, and it is stamped when it ends. -/
structure JobRecord.Follows (older newer : JobRecord) : Prop where
  later : Later older.state newer.state
  stamped : (older.terminalAt.isSome = older.state.isTerminal) →
    newer.terminalAt.isSome = newer.state.isTerminal

namespace JobRecord
variable {record : JobRecord} {now : Nat}

theorem Follows.refl (record : JobRecord) : record.Follows record := ⟨.refl _, id⟩

theorem stopFor_follows (live : record.state.isTerminal = false) (reason : StopReason) :
    record.Follows (record.stopFor reason) := by
  refine ⟨later_of_rank live (show stateRank record.state ≤ 2 from ?_),
    fun stamped => stamped.trans live⟩
  cases is : record.state with
  | starting | running | stopRequested => decide
  | _ =>
    rw [is] at live
    cases live

theorem giveUp_follows (open_ : settled record.state = false) :
    record.Follows (record.giveUp now) := by
  refine ⟨?_, fun _ => rfl⟩
  cases is : record.state with
  | completed | stopped | expired =>
    rw [is] at open_
    cases open_
  | indeterminateTermination => exact .refl _
  | _ => exact later_of_terminal rfl rfl

theorem open_of_live (live : record.state.isTerminal = false) : settled record.state = false := by
  cases is : settled record.state with
  | false => rfl
  | true => cases live.symm.trans (terminal_of_settled is)

theorem renew_follows (requested : Nat) : record.Follows (record.renew now requested).2 := by
  unfold renew
  split
  · exact .refl _
  · next live =>
    split
    · exact stopFor_follows (Bool.eq_false_iff.mpr live) _
    · exact ⟨.refl _, id⟩

theorem requestStop_follows (reason : StopReason) :
    record.Follows (record.requestStop reason now).2 := by
  unfold requestStop
  split
  · exact .refl _
  · next live => exact stopFor_follows (Bool.eq_false_iff.mpr live) _

theorem await_follows (deadline : Nat) : record.Follows (record.await now deadline).2 := by
  unfold await
  split
  · exact .refl _
  · next live =>
    split
    · exact giveUp_follows (open_of_live (Bool.eq_false_iff.mpr live))
    · exact .refl _

theorem decide_follows : record.Follows (record.decide now).2 := by
  unfold decide
  split
  · exact .refl _
  · next live =>
    have live := Bool.eq_false_iff.mpr live
    split
    · exact stopFor_follows live _
    · split
      · exact stopFor_follows live _
      · split
        · exact .refl _
        · exact .refl _

theorem conclude_follows {proved : ManagedJobState} (ended : proved.isTerminal = true)
    (proof : Option (Option Int)) (unsettled : settled record.state = false) :
    record.Follows (record.conclude now proved proof) := by
  unfold conclude
  split
  · exact .refl _
  · next live =>
    cases proof with
    | none => exact giveUp_follows unsettled
    | some exitCode =>
      refine ⟨?_, fun _ => ended.symm⟩
      cases is : record.state with
      | indeterminateTermination => exact absurd is live
      | completed | stopped | expired =>
        rw [is] at unsettled
        cases unsettled
      | _ => exact later_of_terminal rfl ended

theorem onStream_follows (stdout : Bool) (f : RollingBuffer → RollingBuffer) :
    record.Follows (record.onStream stdout f) := by
  unfold onStream
  split <;> exact ⟨.refl _, id⟩

/-- A look at a job that is waited for ends it, or finds it ended, unless it is pending. -/
theorem await_terminal {deadline : Nat} (done : (record.await now deadline).1 ≠ .pending) :
    (record.await now deadline).2.state.isTerminal = true := by
  unfold await at done ⊢
  split
  · next ended => exact ended
  · next live =>
    rw [if_neg live] at done
    split
    · rfl
    · next early =>
      rw [if_neg early] at done
      exact absurd rfl done

/-- A section that asks for an end, or gives a job up, tells no end. -/
theorem settled_renew (requested : Nat) :
    settled (record.renew now requested).2.state = settled record.state := by
  unfold renew
  split
  · rfl
  · next live =>
    split
    · exact (open_of_live (Bool.eq_false_iff.mpr live)).symm
    · rfl

theorem settled_requestStop (reason : StopReason) :
    settled (record.requestStop reason now).2.state = settled record.state := by
  unfold requestStop
  split
  · rfl
  · next live => exact (open_of_live (Bool.eq_false_iff.mpr live)).symm

theorem settled_await (deadline : Nat) :
    settled (record.await now deadline).2.state = settled record.state := by
  unfold await
  split
  · rfl
  · next live =>
    split
    · exact (open_of_live (Bool.eq_false_iff.mpr live)).symm
    · rfl

theorem settled_decide : settled (record.decide now).2.state = settled record.state := by
  unfold decide
  split
  · rfl
  · next live =>
    have unsettled := (open_of_live (Bool.eq_false_iff.mpr live)).symm
    split
    · exact unsettled
    · split
      · exact unsettled
      · split <;> rfl

theorem settled_onStream (stdout : Bool) (f : RollingBuffer → RollingBuffer) :
    settled (record.onStream stdout f).state = settled record.state := by
  unfold onStream
  split <;> rfl

/-- An end is told only when it is proved. -/
theorem settled_conclude {proved : ManagedJobState} {proof : Option (Option Int)}
    (unsettled : settled record.state = false)
    (told : settled (record.conclude now proved proof).state = true) : proof.isSome = true := by
  unfold conclude at told
  split at told
  · cases unsettled.symm.trans told
  · cases proof with
    | none => cases told
    | some _ => rfl

end JobRecord

/-- The sections anybody may enter. -/
def RecordOp.common : RecordOp → Bool
  | .run | .condemn | .settle _ _ | .complete _ => false
  | _ => true

theorem RecordOp.apply_common {op : RecordOp} (common : op.common = true) (record : JobRecord)
    (now : Nat) : record.Follows (op.apply now record).2 ∧
      settled (op.apply now record).2.state = settled record.state := by
  cases op with
  | load | status | output _ _ _ => exact ⟨.refl _, rfl⟩
  | renew requested => exact ⟨record.renew_follows requested, record.settled_renew requested⟩
  | requestStop reason => exact ⟨record.requestStop_follows reason, record.settled_requestStop reason⟩
  | await deadline => exact ⟨record.await_follows deadline, record.settled_await deadline⟩
  | decide => exact ⟨record.decide_follows, record.settled_decide⟩
  | append stdout bytes =>
    exact ⟨record.onStream_follows stdout (·.append bytes),
      record.settled_onStream stdout (·.append bytes)⟩
  | close stdout =>
    exact ⟨record.onStream_follows stdout (·.close), record.settled_onStream stdout (·.close)⟩
  | run | condemn | settle _ _ | complete _ => cases common

/-! ### Jobs -/

/-- What is true of every job there has been. -/
structure Job.Ok (job : Job) : Prop where
  current : job.history.head? = some job.record.state
  ordered : job.history.Pairwise fun newer older => Later older newer
  stamped : job.record.terminalAt.isSome = job.record.state.isTerminal
  proved : settled job.record.state = true → job.proven = true
  unclaimed : job.thread = .spawned → settled job.record.state = false

/-- A job decided over by another thread. -/
def Job.OthersThan (me : Nat) (job : Job) : Prop :=
  ∃ other, other ≠ me ∧ (job.thread = .starting other ∨ job.thread = .supervised other)

/-- What a thread's call may do to a job. -/
structure Job.Onward (me : Nat) (older newer : Job) : Prop where
  ok : older.Ok → newer.Ok
  later : Later older.record.state newer.record.state
  proven : older.proven = true → newer.proven = true
  thread : older.OthersThan me → newer.thread = older.thread
  unsettled : older.OthersThan me → settled older.record.state = false →
    settled newer.record.state = false

namespace Job
variable {job : Job} {me : Nat}

theorem Onward.refl (job : Job) (me : Nat) : job.Onward me job :=
  ⟨id, .refl _, id, fun _ => rfl, fun _ => id⟩

/-- A new state is further on than all before it. -/
theorem Ok.write (ok : job.Ok) {record : JobRecord} (follows : job.record.Follows record)
    (proved : settled record.state = true → job.proven = true)
    (unclaimed : job.thread = .spawned → settled record.state = false) :
    Ok {job with record := record, history := record.state :: job.history} := by
  refine ⟨rfl, List.pairwise_cons.mpr ⟨fun older listed => ?_, ok.ordered⟩,
    follows.stamped ok.stamped, proved, unclaimed⟩
  have current := ok.current
  have ordered := ok.ordered
  cases past : job.history with
  | nil =>
    rw [past] at current
    cases current
  | cons last rest =>
    rw [past] at current ordered listed
    cases current
    rcases List.mem_cons.mp listed with rfl | earlier
    · exact follows.later
    · exact ((List.pairwise_cons.mp ordered).1 older earlier).trans follows.later

/-- A critical section that tells no end goes on with any job. -/
theorem onward_write (me : Nat) {record : JobRecord} (follows : job.record.Follows record)
    (same : settled record.state = settled job.record.state) :
    job.Onward me {job with record := record, history := record.state :: job.history} :=
  ⟨fun ok => ok.write follows (fun ended => ok.proved (same ▸ ended))
      fun spawned => same.trans (ok.unclaimed spawned),
    follows.later, id, fun _ => rfl, fun _ unsettled => same.trans unsettled⟩

/-- A critical section that tells an end goes on with a job of one's own that is proved to have
ended. -/
theorem onward_settle {record : JobRecord} (follows : job.record.Follows record)
    (mine : job.thread = .supervised me) (proved : settled record.state = true → job.proven = true) :
    job.Onward me {job with record := record, history := record.state :: job.history} := by
  have own : ¬job.OthersThan me := by
    rintro ⟨other, distinct, is | is⟩
    · cases mine.symm.trans is
    · cases mine.symm.trans is
      exact distinct rfl
  exact ⟨fun ok => ok.write follows proved fun spawned => (by cases mine.symm.trans spawned),
    follows.later, id, fun _ => rfl, fun others => absurd others own⟩

end Job

/-! ### The world -/

namespace JobWorld

/-- A job of the world has ended. -/
def Ended (w : JobWorld) (job : Nat) : Prop :=
  ∃ j : Job, w.jobs[job]? = some j ∧ j.record.state.isTerminal = true

/-- A job is listed and has not ended. -/
def Active (w : JobWorld) (locator : String) : Prop :=
  ∃ (job : Nat) (j : Job), w.table[locator]? = some job ∧ w.jobs[job]? = some j ∧
    j.record.state.isTerminal = false

/-- At most so many jobs are active, beside those listed under given locators. -/
def Counted (w : JobWorld) (beside : List String) (count : Nat) : Prop :=
  ∀ locators : List String, locators.Nodup →
    (∀ locator ∈ locators, w.Active locator ∧ locator ∉ beside) → locators.length ≤ count

structure Inv (limits : ManagedJobLimits) (w : JobWorld) : Prop where
  jobs : ∀ (job : Nat) (j : Job), w.jobs[job]? = some j → j.Ok
  listed : ∀ (locator : String) job, w.table[locator]? = some job → job < w.jobs.length
  counted : w.Counted [] limits.maxConcurrentJobs
  pruned : ∀ entry ∈ w.pruned, entry.2.isTerminal = true

/-- The world after some call of a thread: jobs go on, and new ones are not listed. -/
structure Onward (me : Nat) (w w' : JobWorld) : Prop where
  length : w.jobs.length ≤ w'.jobs.length
  jobs : ∀ (job : Nat) (j : Job), w.jobs[job]? = some j →
    ∃ j' : Job, w'.jobs[job]? = some j' ∧ j.Onward me j'
  fresh : ∀ (job : Nat) (j' : Job), w'.jobs[job]? = some j' → w.jobs.length ≤ job → j'.Ok

variable {w w' : JobWorld} {me : Nat} {limits : ManagedJobLimits}

variable {job : Nat} {locator : String}

theorem Onward.ended (onward : w.Onward me w') (ended : w.Ended job) : w'.Ended job := by
  obtain ⟨j, found, is⟩ := ended
  obtain ⟨j', found', onto⟩ := onward.jobs job j found
  exact ⟨j', found', onto.later.terminal is⟩

theorem Onward.active (onward : w.Onward me w')
    (listed : ∀ (locator : String) job, w.table[locator]? = some job → job < w.jobs.length)
    (same : ∀ job, w'.table[locator]? = some job → w.table[locator]? = some job)
    (active : w'.Active locator) : w.Active locator := by
  obtain ⟨job, j', at', found', live⟩ := active
  have at_ := same job at'
  have bound := listed locator job at_
  obtain ⟨j'', again, onto⟩ := onward.jobs job _ (List.getElem?_eq_getElem bound)
  cases found'.symm.trans again
  refine ⟨job, _, at_, List.getElem?_eq_getElem bound, ?_⟩
  cases is : (w.jobs[job]).record.state.isTerminal with
  | false => rfl
  | true => cases live.symm.trans (onto.later.terminal is)

theorem Counted.onward {beside : List String} {count : Nat} (counted : w.Counted beside count)
    (onward : w.Onward me w')
    (listed : ∀ (locator : String) job, w.table[locator]? = some job → job < w.jobs.length)
    (same : ∀ (locator : String) job, w'.table[locator]? = some job → w.table[locator]? = some job) :
    w'.Counted beside count := by
  intro locators nodup active
  refine counted locators nodup fun locator among => ?_
  exact ⟨onward.active listed (same locator) (active locator among).1, (active locator among).2⟩

theorem Inv.onward (inv : w.Inv limits) (onward : w.Onward me w')
    (table : ∀ (locator : String) job, w'.table[locator]? = some job → w.table[locator]? = some job)
    (pruned : w'.pruned = w.pruned) : w'.Inv limits := by
  refine ⟨fun job j' found => ?_, fun locator job at_ => ?_,
    inv.counted.onward onward inv.listed table, pruned ▸ inv.pruned⟩
  · by_cases old : job < w.jobs.length
    · obtain ⟨j'', again, onto⟩ := onward.jobs job _ (List.getElem?_eq_getElem old)
      cases found.symm.trans again
      exact onto.ok (inv.jobs job _ (List.getElem?_eq_getElem old))
    · exact onward.fresh job j' found (Nat.le_of_not_lt old)
  · exact Nat.lt_of_lt_of_le (inv.listed locator job (table locator job at_)) onward.length

@[simp]
theorem get_update_self (w : JobWorld) (job : Nat) (f : Job → Job) :
    (w.update job f).jobs[job]? = w.jobs[job]?.map f := by
  rw [update, List.getElem?_modify]
  cases w.jobs[job]? <;> simp

theorem get_update_of_ne {other : Nat} (distinct : job ≠ other) (f : Job → Job) :
    (w.update job f).jobs[other]? = w.jobs[other]? := by
  rw [update, List.getElem?_modify]
  cases w.jobs[other]? <;> simp [distinct]

theorem onward_update {f : Job → Job} (onto : ∀ j, w.jobs[job]? = some j → j.Onward me (f j)) :
    w.Onward me (w.update job f) := by
  refine ⟨Nat.le_of_eq (List.length_modify ..).symm, fun other j found => ?_,
    fun other j' found beyond => ?_⟩
  · by_cases same : job = other
    · subst same
      rw [get_update_self, found]
      exact ⟨f j, rfl, onto j found⟩
    · rw [get_update_of_ne same, found]
      exact ⟨j, rfl, .refl j me⟩
  · have bound := (List.getElem?_eq_some_iff.mp found).1
    rw [update, List.length_modify] at bound
    exact absurd bound (Nat.not_lt.mpr beyond)

theorem onward_of_jobs (same : w'.jobs = w.jobs) : w.Onward me w' := by
  refine ⟨Nat.le_of_eq (congrArg _ same.symm), fun job j found => ⟨j, same ▸ found, .refl j me⟩,
    fun job j' found beyond => ?_⟩
  rw [same] at found
  exact absurd (List.getElem?_eq_some_iff.mp found).1 (Nat.not_lt.mpr beyond)

theorem onward_spawn {j : Job} (ok : j.Ok) : w.Onward me {w with jobs := w.jobs ++ [j]} := by
  refine ⟨by simp, fun job old found => ?_, fun job j' found beyond => ?_⟩
  · have bound := (List.getElem?_eq_some_iff.mp found).1
    exact ⟨old, (List.getElem?_append_left bound).trans found, .refl old me⟩
  · have place := List.getElem?_append_right beyond ▸ found
    obtain ⟨_, is⟩ := List.getElem?_eq_some_iff.mp place
    rw [← is, List.getElem_singleton]
    exact ok

theorem Counted.insert {count : Nat} (counted : w.Counted [] count) :
    Counted {w with table := w.table.insert locator job} [] (count + 1) := by
  intro locators nodup active
  have fewer := counted (locators.erase locator) (nodup.erase locator) fun other among => by
    have apart : other ≠ locator := fun is => nodup.not_mem_erase (is ▸ among)
    obtain ⟨listed, j, at_, found, live⟩ := (active other (List.mem_of_mem_erase among)).1
    refine ⟨⟨listed, j, ?_, found, live⟩, List.not_mem_nil⟩
    exact (Table.get_insert_of_ne (Ne.symm apart)).symm.trans at_
  have one : locators.length - 1 ≤ (locators.erase locator).length := List.le_length_erase
  omega

/-- The next entry is looked at, and is counted if it has not ended. -/
theorem Counted.look {count : Nat} {rest : List (String × Nat)}
    (counted : w.Counted (((locator, job) :: rest).map Prod.fst) count)
    (entry : ∀ job', w.table[locator]? = some job' → job' = job) : w.Counted (rest.map Prod.fst)
      (if w.jobs[job]?.any fun j => !j.record.state.isTerminal then count + 1 else count) := by
  intro locators nodup active
  split
  · have fewer := counted (locators.erase locator) (nodup.erase locator) fun other among => by
      have apart : other ≠ locator := fun is => nodup.not_mem_erase (is ▸ among)
      obtain ⟨is, beside⟩ := active other (List.mem_of_mem_erase among)
      exact ⟨is, fun among => (List.mem_cons.mp among).elim apart beside⟩
    have one : locators.length - 1 ≤ (locators.erase locator).length := List.le_length_erase
    omega
  · next above =>
    refine counted locators nodup fun other among => ?_
    obtain ⟨is, beside⟩ := active other among
    refine ⟨is, fun among => (List.mem_cons.mp among).elim (fun same => ?_) beside⟩
    subst same
    obtain ⟨listed, j, at_, found, live⟩ := is
    cases entry listed at_
    rw [found] at above
    exact above (by rw [Option.any_some, live]; rfl)

end JobWorld

end Gateway.Agent
