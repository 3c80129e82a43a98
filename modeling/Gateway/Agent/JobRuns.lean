import Gateway.Agent.Charge

/-! Runs of the managed-job manager.

Every function keeps to what its thread is in charge of and has seen, so in every run without the
two steps that do not look, jobs only go on, their ends are proved, pruning takes out what has
ended, and a shutdown returns when its jobs have ended. -/
namespace Gateway.Agent
open Data Carrier Program JobTask ManagedJobManager JobWorld Pool Machine JobStage

section Obeys
variable {limits : ManagedJobLimits} {job : JobJob} {stage : JobStage}

/-! ### Pruning -/

/-- The same stage, with the table locked and more jobs known to have ended. -/
structure Pruning (before stage : JobStage) : Prop where
  gate : stage.gate = before.gate
  lock : stage.lock = true
  charge : stage.charge = before.charge
  proof : stage.proof = before.proof
  entries : stage.entries = before.entries
  dead : ∀ job ∈ before.dead, job ∈ stage.dead

/-- The same stage, with the table unlocked. -/
structure Past (before stage : JobStage) : Prop where
  gate : stage.gate = before.gate
  lock : stage.lock = false
  charge : stage.charge = before.charge
  proof : stage.proof = before.proof

theorem Pruning.refl (locked : stage.lock = true) : Pruning stage stage :=
  ⟨rfl, locked, rfl, rfl, rfl, fun _ => id⟩

theorem Pruning.trans {a b c : JobStage} (h : Pruning a b) (h' : Pruning b c) : Pruning a c :=
  ⟨h'.gate.trans h.gate, h'.lock, h'.charge.trans h.charge, h'.proof.trans h.proof,
    h'.entries.trans h.entries, fun job among => h'.dead job (h.dead job among)⟩

theorem Past.trans {a b c : JobStage} (h : Past a b) (h' : Past b c) : Past a c :=
  ⟨h'.gate.trans h.gate, h'.lock, h'.charge.trans h.charge, h'.proof.trans h.proof⟩

theorem pruning_load (locked : stage.lock = true) (id : Nat) (found : Option JobRecord) :
    Pruning stage (stage.after (.record id .load) found) := by
  refine ⟨rfl, locked, rfl, rfl, rfl, fun job among => ?_⟩
  show job ∈ (if _ then _ else _)
  split
  · exact List.mem_cons_of_mem _ among
  · exact among

theorem dead_load {id : Nat} {found : Option JobRecord} {terminalAt : Nat}
    (is : found.bind (·.terminalAt) = some terminalAt) :
    id ∈ (stage.after (.record id .load) found).dead := by
  obtain ⟨record, rfl, ended⟩ := Option.bind_eq_some_iff.mp is
  show id ∈ (if _ then _ else _)
  rw [if_pos (by rw [Option.any_some, ended]; rfl)]
  exact List.mem_cons_self

variable {entries : List (String × Nat)} {pass : PassState} {deadline : Nat}

theorem retainRecent_obeys {now : Nat} (locked : stage.lock = true)
    (known : ∀ entry ∈ entries, entry ∈ stage.entries) :
    (retainRecent limits now entries).run.Obeys (jobDiscipline limits) job
      (fun stage' answer => answer = .ok () ∧ Pruning stage stage') stage := by
  induction entries generalizing stage with
  | nil => exact ⟨rfl, .refl locked⟩
  | cons entry rest ih =>
    obtain ⟨locator, id⟩ := entry
    refine obeys_reply trivial fun found => ?_
    have looked := pruning_load locked id found
    have onward : (retainRecent limits now rest).run.Obeys (jobDiscipline limits) job
        (fun stage' answer => answer = .ok () ∧ Pruning stage stage')
        (stage.after (.record id .load) found) := by
      refine (ih looked.lock fun entry among => ?_).mono fun _ _ reached =>
        ⟨reached.1, looked.trans reached.2⟩
      exact looked.entries ▸ known entry (List.mem_cons_of_mem _ among)
    cases ended : found.bind (·.terminalAt) with
    | none => exact onward
    | some terminalAt =>
      dsimp only
      split
      · exact onward
      · refine obeys_reply ⟨locked, id, ?_, dead_load ended⟩ fun _ => onward
        exact looked.entries ▸ known _ List.mem_cons_self

/-- Entries that were looked at and have ended. -/
def Collected (stage : JobStage) (terminal : List (String × Nat)) : Prop :=
  ∀ entry ∈ terminal, ∃ id, (entry.1, id) ∈ stage.entries ∧ id ∈ stage.dead

theorem collectTerminal_obeys (locked : stage.lock = true)
    (known : ∀ entry ∈ entries, entry ∈ stage.entries) :
    (collectTerminal entries).run.Obeys (jobDiscipline limits) job
      (fun stage' answer => ∃ terminal, answer = .ok terminal ∧ Collected stage' terminal ∧
        Pruning stage stage') stage := by
  induction entries generalizing stage with
  | nil => exact ⟨[], rfl, nofun, .refl locked⟩
  | cons entry rest ih =>
    obtain ⟨locator, id⟩ := entry
    refine obeys_reply trivial fun found => ?_
    have looked := pruning_load locked id found
    refine obeys_then (ih looked.lock fun entry among =>
      looked.entries ▸ known entry (List.mem_cons_of_mem _ among)) (fun stage' others reached => ?_)
      (fun _ _ reached => (by obtain ⟨_, is, _⟩ := reached; cases is))
    obtain ⟨_, is, collected, onward⟩ := reached
    cases is
    cases ended : found.bind (·.terminalAt) with
    | none => exact ⟨others, rfl, collected, looked.trans onward⟩
    | some terminalAt =>
      refine ⟨(locator, terminalAt) :: others, rfl, fun entry among => ?_, looked.trans onward⟩
      rcases List.mem_cons.mp among with rfl | earlier
      · refine ⟨id, ?_, onward.dead id (dead_load ended)⟩
        exact (looked.trans onward).entries ▸ known _ List.mem_cons_self
      · exact collected entry earlier

theorem discardAll_obeys {locators : List String} (locked : stage.lock = true)
    (known : ∀ locator ∈ locators, ∃ id, (locator, id) ∈ stage.entries ∧ id ∈ stage.dead) :
    (discardAll locators).run.Obeys (jobDiscipline limits) job
      (fun stage' answer => answer = .ok () ∧ stage' = stage) stage := by
  induction locators with
  | nil => exact ⟨rfl, rfl⟩
  | cons locator rest ih =>
    refine obeys_reply ⟨locked, known locator List.mem_cons_self⟩ fun _ => ?_
    exact ih fun other among => known other (List.mem_cons_of_mem _ among)

theorem mem_of_oldest {terminal : List (String × Nat)} {locator : String}
    (among : locator ∈ oldest limits terminal) : ∃ at_, (locator, at_) ∈ terminal := by
  obtain ⟨entry, taken, rfl⟩ := List.mem_map.mp among
  exact ⟨entry.2, (List.mergeSort_perm _ _).subset (List.mem_of_mem_take taken)⟩

theorem pruneTerminal_obeys :
    (pruneTerminal limits).run.Obeys (jobDiscipline limits) job
      (fun stage' answer => answer = .ok () ∧ Past stage stage') stage := by
  refine obeys_reply trivial fun now => ?_
  refine obeys_reply trivial fun _ => ?_
  refine obeys_reply rfl fun entries => ?_
  refine obeys_then (retainRecent_obeys rfl fun _ among => among) (fun middle _ reached => ?_)
    (fun _ _ reached => (by cases reached.1))
  have retained := reached.2
  refine obeys_reply retained.lock fun entries => ?_
  refine obeys_then (collectTerminal_obeys retained.lock fun _ among => among)
    (fun last terminal reached => ?_)
    (fun _ _ reached => (by obtain ⟨_, is, _⟩ := reached; cases is))
  obtain ⟨_, is, collected, onward⟩ := reached
  cases is
  refine obeys_then (discardAll_obeys onward.lock fun locator among => ?_)
    (fun stage' _ reached => ?_) (fun _ _ reached => (by cases reached.1))
  · obtain ⟨at_, listed⟩ := mem_of_oldest among
    exact collected _ listed
  · obtain ⟨_, rfl⟩ := reached
    refine ⟨onward.lock, fun _ => ⟨rfl, ?_⟩⟩
    exact ⟨onward.gate.trans retained.gate, rfl, onward.charge.trans retained.charge,
      onward.proof.trans retained.proof⟩

/-! ### Calls on one job -/

variable (locator : String)

theorem lookup_obeys :
    (lookup locator).run.Obeys (jobDiscipline limits) job (fun stage' _ => Past stage stage')
      stage := by
  refine obeys_reply trivial fun _ => ?_
  refine obeys_reply trivial fun found => ?_
  cases found with
  | some id => exact obeys_reply rfl fun _ => ⟨rfl, rfl, rfl, rfl⟩
  | none => exact obeys_reply rfl fun _ => ⟨rfl, rfl, rfl, rfl⟩

theorem pruneAndLookup_obeys {β : Type} {locator : String} {f : Nat → JobTask β}
    {accepts : JobStage → Except ManagedJobError β → Prop}
    (ok : ∀ stage' id, Past stage stage' →
      (f id).run.Obeys (jobDiscipline limits) job accepts stage')
    (fails : ∀ stage' e, Past stage stage' → accepts stage' (.error e)) :
    (do pruneTerminal limits
        f (← lookup locator)).run.Obeys (jobDiscipline limits) job accepts stage := by
  refine obeys_then pruneTerminal_obeys (fun middle _ reached => ?_)
    (fun _ _ reached => (by cases reached.1))
  exact obeys_then (lookup_obeys locator)
    (fun stage' id past => ok stage' id (reached.2.trans past))
    (fun stage' e past => fails stage' e (reached.2.trans past))

theorem status_obeys : (status limits locator).run.Obeys (jobDiscipline limits) job
      (fun stage' _ => Past stage stage') stage := by
  refine pruneAndLookup_obeys (fun stage' id past => ?_) fun _ _ past => past
  refine obeys_reply trivial fun found => ?_
  cases found <;> exact past

/-- Any thread that only looks, asks and waits. -/
theorem output_obeys (stdout : Bool) (offset maxBytes : Nat) :
    (output limits locator stdout offset maxBytes).run.Obeys (jobDiscipline limits) job
      (fun _ _ => True) stage := by
  unfold output
  split
  · trivial
  · refine pruneAndLookup_obeys (fun stage' id past => ?_) fun _ _ _ => trivial
    refine obeys_reply trivial fun found => ?_
    cases found <;> trivial

theorem renew_obeys (leaseMs : Nat) :
    (renew limits locator leaseMs).run.Obeys (jobDiscipline limits) job (fun _ _ => True) stage := by
  unfold renew
  split
  · trivial
  · refine pruneAndLookup_obeys (fun stage' id past => ?_) fun _ _ _ => trivial
    exact obeys_reply trivial fun renewed => trivial

theorem requestStop_obeys :
    (requestStop limits locator).run.Obeys (jobDiscipline limits) job (fun _ _ => True) stage := by
  refine pruneAndLookup_obeys (fun stage' id past => ?_) fun _ _ _ => trivial
  exact obeys_reply trivial fun _ => trivial

theorem waitForTerminal_obeys (id deadline turns : Nat) :
    (waitForTerminal id deadline turns).run.Obeys (jobDiscipline limits) job (fun _ _ => True)
      stage := by
  induction turns generalizing stage with
  | zero => trivial
  | succ turns ih =>
    refine obeys_reply trivial fun found => ?_
    cases found with
    | terminal _ | late => trivial
    | pending => exact ih

theorem stop_obeys (turns : Nat) :
    (stop limits locator turns).run.Obeys (jobDiscipline limits) job (fun _ _ => True) stage := by
  refine pruneAndLookup_obeys (fun stage' id past => ?_) fun _ _ _ => trivial
  refine obeys_reply trivial fun found => ?_
  cases found with
  | some _ => trivial
  | none => exact obeys_reply trivial fun now => waitForTerminal_obeys id _ turns

/-! ### Shutdown -/

theorem requestShutdown_obeys (ids : List Nat) :
    (requestShutdown ids).run.Obeys (jobDiscipline limits) job
      (fun _ answer => answer = .ok ()) stage := by
  induction ids generalizing stage with
  | nil => rfl
  | cons id rest ih => exact obeys_reply trivial fun _ => ih

/-- What a look at the jobs has found: those that were not spared have ended. -/
structure Passed (ids : List Nat) (stage : JobStage) (pass : PassState) : Prop where
  pending : pass.spared = true → pass.pending = true
  dead : pass.spared = false → ∀ id ∈ ids, id ∈ stage.dead

theorem observe_pending (pending : pass.spared = true → pass.pending = true) (found : Awaited) :
    (pass.observe found).spared = true → (pass.observe found).pending = true := by
  cases found with
  | terminal status =>
    unfold PassState.observe
    dsimp only
    split <;> exact pending
  | late => exact fun _ => rfl
  | pending => exact fun _ => rfl

theorem spared_observe {found : Awaited} (unspared : (pass.observe found).spared = false) :
    pass.spared = false ∧ found ≠ .pending := by
  cases found with
  | terminal status =>
    unfold PassState.observe at unspared
    dsimp only at unspared
    split at unspared <;> exact ⟨unspared, nofun⟩
  | late => exact ⟨unspared, nofun⟩
  | pending => cases unspared

theorem dead_await {id : Nat} {found : Awaited} {other : Nat} (among : other ∈ stage.dead) :
    other ∈ (stage.after (.record id (.await deadline)) found).dead := by
  show other ∈ dead (if _ then _ else _)
  split
  · exact among
  · exact List.mem_cons_of_mem _ among

theorem shutdownPass_obeys {done ids : List Nat} (passed : Passed done stage pass) :
    (shutdownPass deadline pass ids).run.Obeys (jobDiscipline limits) job
      (fun stage' answer => ∃ pass', answer = .ok pass' ∧ Passed (done ++ ids) stage' pass')
      stage := by
  induction ids generalizing stage pass done with
  | nil => exact ⟨pass, rfl, by rwa [List.append_nil]⟩
  | cons id rest ih =>
    refine obeys_reply trivial fun found => ?_
    rw [List.append_cons done id rest]
    refine ih ⟨observe_pending passed.pending found, fun unspared other among => ?_⟩
    obtain ⟨before, seen⟩ := spared_observe unspared
    rcases List.mem_append.mp among with earlier | here
    · exact dead_await (passed.dead before other earlier)
    · cases List.mem_singleton.mp here
      show id ∈ dead (if _ then _ else _)
      rw [if_neg seen]
      exact List.mem_cons_self

theorem shutdownWait_obeys {ids : List Nat} {passes : Nat} {indeterminate : Bool} :
    (shutdownWait deadline ids indeterminate passes).run.Obeys (jobDiscipline limits) job
      (fun stage' answer => ∃ result, answer = .ok result ∧
        (result.isSome = true → stage'.lost = true ∨ ∀ id ∈ ids, id ∈ stage'.dead)) stage := by
  induction passes generalizing stage indeterminate with
  | zero => exact ⟨none, rfl, nofun⟩
  | succ passes ih =>
    have blank : Passed [] stage ⟨false, indeterminate, false⟩ := ⟨nofun, nofun⟩
    refine obeys_then (shutdownPass_obeys blank) (fun stage' pass reached => ?_)
      (fun _ _ reached => (by obtain ⟨_, is, _⟩ := reached; cases is))
    obtain ⟨_, is, passed⟩ := reached
    cases is
    cases pending : pass.pending with
    | false =>
      refine ⟨some pass.indeterminate, rfl, fun _ => .inr (passed.dead ?_)⟩
      cases spared : pass.spared with
      | false => rfl
      | true => cases pending.symm.trans (passed.pending spared)
    | true =>
      refine obeys_reply trivial fun late => ?_
      cases late with
      | false => exact ih
      | true =>
        refine ⟨some pass.indeterminate, rfl, fun _ => ?_⟩
        cases spared : pass.spared with
        | true => exact .inl rfl
        | false => exact .inr (passed.dead spared)

theorem shutdownAll_obeys (passes : Nat) :
    (shutdownAll limits passes).run.Obeys (jobDiscipline limits) job
      (fun stage' answer => ∃ ids result, answer = .ok (ids, result) ∧
        (result.isSome = true → stage'.lost = true ∨ ∀ id ∈ ids, id ∈ stage'.dead)) stage := by
  refine obeys_reply trivial fun _ => ?_
  refine obeys_reply rfl fun entries => ?_
  refine obeys_reply rfl fun _ => ?_
  refine obeys_then (requestShutdown_obeys _) (fun stage' _ _ => ?_)
    (fun _ _ reached => (by cases reached))
  refine obeys_reply trivial fun now => ?_
  refine obeys_then shutdownWait_obeys (fun stage' waited reached => ?_)
    (fun _ _ reached => (by obtain ⟨_, is, _⟩ := reached; cases is))
  obtain ⟨_, is, ended⟩ := reached
  cases is
  match waited with
  | none => exact ⟨_, none, rfl, nofun⟩
  | some true => exact ⟨_, _, rfl, fun _ => ended rfl⟩
  | some false => exact ⟨_, _, rfl, fun _ => ended rfl⟩

theorem findIndeterminate_obeys (ids : List Nat) (locked : stage.lock = true) :
    (findIndeterminate ids).run.Obeys (jobDiscipline limits) job
      (fun stage' answer => (∃ found, answer = .ok found) ∧ stage'.lock = true) stage := by
  induction ids generalizing stage with
  | nil => exact ⟨⟨false, rfl⟩, locked⟩
  | cons id rest ih =>
    refine obeys_reply trivial fun found => ?_
    have looked := pruning_load locked id found
    cases found with
    | none => exact ih looked.lock
    | some record =>
      dsimp only
      split
      · exact ⟨⟨true, rfl⟩, looked.lock⟩
      · exact ih looked.lock

theorem hasIndeterminateTermination_obeys :
    hasIndeterminateTermination.run.Obeys (jobDiscipline limits) job (fun _ _ => True) stage := by
  refine obeys_reply trivial fun _ => ?_
  refine obeys_reply rfl fun entries => ?_
  refine obeys_then (findIndeterminate_obeys _ rfl) (fun stage' _ reached => ?_)
    (fun _ _ reached => (by obtain ⟨⟨_, is⟩, _⟩ := reached; cases is))
  exact obeys_reply reached.2 fun _ => trivial

/-! ### Starting and supervising -/

theorem failStartCleanup_obeys {id : Nat} (locator : String) (charge : stage.charge = .starting id) :
    (failStartCleanup locator id).run.Obeys (jobDiscipline limits) job
      (fun stage' _ => stage'.gate = stage.gate) stage := by
  have mine : stage.charge.job? = some id := by rw [charge]; rfl
  refine obeys_reply mine fun proof => ?_
  cases proof with
  | none => exact obeys_reply charge fun _ => rfl
  | some _ =>
    refine obeys_reply trivial fun _ => ?_
    refine obeys_reply rfl fun _ => ?_
    exact ⟨rfl, fun _ => rfl⟩

/-- The entries that are left to look at are those that are left to count. -/
theorem countActive_obeys {rest : List (String × Nat)} {active : Nat} (locked : stage.lock = true)
    (known : ∀ entry ∈ rest, entry ∈ stage.entries) (counting : stage.counting = some (rest, active)) :
    (countActive active (rest.map Prod.snd)).run.Obeys (jobDiscipline limits) job
      (fun stage' answer => ∃ count, answer = .ok count ∧ stage'.counting = some ([], count) ∧
        Pruning stage stage') stage := by
  induction rest generalizing stage active with
  | nil => exact ⟨active, rfl, counting, .refl locked⟩
  | cons entry rest ih =>
    refine obeys_reply trivial fun found => ?_
    have looked := pruning_load locked entry.2 found
    have counted : (stage.after (.record entry.2 .load) found).counting = some (rest,
        if found.any fun record => !record.state.isTerminal then active + 1 else active) := by
      show stage.counting.map _ = _
      rw [counting]
      exact congrArg some (if_pos ⟨rfl, locked, known entry List.mem_cons_self⟩)
    have onward {count : Nat} (is : (stage.after (.record entry.2 .load) found).counting =
        some (rest, count)) : (countActive count (rest.map Prod.snd)).run.Obeys
          (jobDiscipline limits) job (fun stage' answer => ∃ count, answer = .ok count ∧
            stage'.counting = some ([], count) ∧ Pruning stage stage')
          (stage.after (.record entry.2 .load) found) := by
      refine (ih looked.lock (fun entry among => ?_) is).mono fun _ _ reached => ?_
      · exact looked.entries ▸ known entry (List.mem_cons_of_mem _ among)
      · obtain ⟨count, answer, done, onward⟩ := reached
        exact ⟨count, answer, done, looked.trans onward⟩
    cases found with
    | none => exact onward counted
    | some record =>
      cases ended : record.state.isTerminal with
      | true =>
        rw [Option.any_some, ended] at counted
        simp only [ended]
        exact onward counted
      | false =>
        rw [Option.any_some, ended] at counted
        simp only [ended]
        exact onward counted

/-- A stage with the gate, in which there is room for one more job. -/
structure Admitted (limits : ManagedJobLimits) (stage : JobStage) : Prop where
  gate : stage.gate = true
  room : ∃ count, stage.counting = some ([], count) ∧ count < limits.maxConcurrentJobs

/-- A start that fails after its job was listed. -/
theorem failStart_obeys {id : Nat} (locator : String) (charge : stage.charge = .starting id)
    (gated : stage.gate = true) :
    (do failStartCleanup locator id
        throw .threadSpawn : JobTask (String × ManagedJobStatus)).run.Obeys (jobDiscipline limits)
      job (fun stage' _ => stage'.gate = true) stage :=
  obeys_then (failStartCleanup_obeys locator charge) (fun _ _ is => is.trans gated)
    fun _ _ is => is.trans gated

theorem launch_obeys (hardLifetime : Nat) (admitted : Admitted limits stage) :
    (launch limits locator hardLifetime).run.Obeys (jobDiscipline limits) job
      (fun stage' _ => stage'.gate = true) stage := by
  refine obeys_reply trivial fun spawned => ?_
  cases spawned with
  | error _ => exact admitted.gate
  | ok id =>
    refine obeys_result (fun a is => ?_) (fun e is => (by cases is))
    cases is
    refine obeys_reply trivial fun _ => ?_
    refine obeys_reply trivial fun found => ?_
    cases found with
    | some _ =>
      refine obeys_reply rfl fun _ => ?_
      refine obeys_reply rfl fun proof => ?_
      cases proof <;> exact admitted.gate
    | none =>
      refine obeys_reply ⟨admitted.gate, rfl, rfl, rfl, admitted.room⟩ fun _ => ?_
      refine obeys_reply rfl fun _ => ?_
      refine obeys_reply trivial fun stdout => ?_
      cases stdout with
      | false => exact failStart_obeys locator rfl admitted.gate
      | true =>
        refine obeys_reply trivial fun stderr => ?_
        cases stderr with
        | false => exact failStart_obeys locator rfl admitted.gate
        | true =>
          refine obeys_reply rfl fun _ => ?_
          refine obeys_reply rfl fun supervised => ?_
          cases supervised with
          | false => exact failStart_obeys locator rfl admitted.gate
          | true =>
            exact obeys_then (status_obeys locator) (fun _ _ past => past.gate.trans admitted.gate)
              fun _ _ past => past.gate.trans admitted.gate

theorem startGated_obeys (timeoutMs : Nat) (gated : stage.gate = true) :
    (startGated limits timeoutMs).run.Obeys (jobDiscipline limits) job
      (fun stage' _ => stage'.gate = true) stage := by
  unfold startGated
  split
  · exact gated
  refine obeys_then pruneTerminal_obeys (fun pruned _ reached => ?_)
    (fun _ _ reached => (by cases reached.1))
  have gated : pruned.gate = true := reached.2.gate.trans gated
  refine obeys_reply trivial fun _ => ?_
  refine obeys_reply rfl fun entries => ?_
  refine obeys_then (countActive_obeys rfl (fun _ among => among) rfl)
    (fun counted active reached => ?_)
    (fun _ _ reached => (by obtain ⟨_, is, _⟩ := reached; cases is))
  obtain ⟨_, is, counting, onward⟩ := reached
  cases is
  have gated : counted.gate = true := onward.gate.trans gated
  refine obeys_reply onward.lock fun _ => ?_
  split
  · exact gated
  · next room =>
    refine obeys_reply trivial fun _ => ?_
    refine obeys_reply trivial fun drawn => ?_
    refine obeys_reply rfl fun _ => ?_
    cases drawn with
    | none => exact gated
    | some locator =>
      exact launch_obeys locator timeoutMs ⟨gated, active, counting, Nat.lt_of_not_le room⟩

theorem start_obeys (timeoutMs : Nat) :
    (ManagedJobManager.start limits timeoutMs).run.Obeys (jobDiscipline limits) job
      (fun _ _ => True) stage := by
  refine obeys_reply trivial fun _ => ?_
  refine obeys_bind_fallible (Obeys.bind ((startGated_obeys timeoutMs rfl).mono ?_))
  intro stage' result gated
  exact obeys_reply gated fun _ => trivial

theorem superviseTurns_obeys {id : Nat} (turns : Nat) (charge : stage.charge = .supervising id) :
    (superviseTurns id turns).run.Obeys (jobDiscipline limits) job (fun _ _ => True) stage := by
  induction turns with
  | zero => trivial
  | succ turns ih =>
    have mine : stage.charge.job? = some id := by rw [charge]; rfl
    refine obeys_reply trivial fun decision => ?_
    cases decision with
    | finished => trivial
    | stop reason =>
      refine obeys_reply mine fun proof => ?_
      cases proof with
      | none => exact ⟨⟨charge, nofun⟩, fun _ => trivial⟩
      | some _ => exact ⟨⟨charge, fun _ => rfl⟩, fun _ => trivial⟩
    | goOn =>
      refine obeys_reply trivial fun poll => ?_
      cases poll with
      | running => exact ih
      | exited code | failed =>
        refine obeys_reply mine fun proof => ?_
        cases proof with
        | none => exact ⟨⟨charge, nofun⟩, fun _ => trivial⟩
        | some _ => exact ⟨⟨charge, fun _ => rfl⟩, fun _ => trivial⟩

theorem superviseJob_obeys (id turns : Nat) :
    (superviseJob id turns).run.Obeys (jobDiscipline limits) job (fun _ _ => True) stage :=
  obeys_reply trivial fun _ => superviseTurns_obeys turns rfl

theorem readStream_obeys (id : Nat) (stdout : Bool) (pieces : List (List UInt8)) :
    (readStream id stdout pieces).run.Obeys (jobDiscipline limits) job (fun _ _ => True) stage := by
  induction pieces generalizing stage with
  | nil => exact ⟨trivial, fun _ => trivial⟩
  | cons piece rest ih => exact obeys_reply trivial fun _ => ih

/-- What a thread's end comes to: a shutdown has seen the end of its jobs. -/
def Concludes (stage : JobStage) : Except ManagedJobError JobAnswer → Prop
  | .ok (.shutdown ids _) => stage.lost = true ∨ ∀ id ∈ ids, id ∈ stage.dead
  | _ => True

theorem jobTask_obeys (limits : ManagedJobLimits) (job : JobJob) :
    (job.task limits).run.Obeys (jobDiscipline limits) job Concludes .outside := by
  cases job with
  | start timeoutMs =>
    exact obeys_then (start_obeys timeoutMs) (fun _ _ _ => trivial) fun _ _ _ => trivial
  | status locator =>
    exact obeys_then (status_obeys locator) (fun _ _ _ => trivial) fun _ _ _ => trivial
  | output locator stdout offset maxBytes =>
    exact obeys_then (output_obeys locator stdout offset maxBytes) (fun _ _ _ => trivial)
      fun _ _ _ => trivial
  | renew locator leaseMs =>
    exact obeys_then (renew_obeys locator leaseMs) (fun _ _ _ => trivial) fun _ _ _ => trivial
  | requestStop locator =>
    exact obeys_then (requestStop_obeys locator) (fun _ _ _ => trivial) fun _ _ _ => trivial
  | stop locator turns =>
    refine obeys_then (stop_obeys locator turns) (fun _ answer _ => ?_) fun _ _ _ => trivial
    cases answer <;> trivial
  | shutdownAll passes =>
    refine obeys_then (shutdownAll_obeys passes) (fun stage answer reached => ?_)
      (fun _ _ reached => (by obtain ⟨_, _, is, _⟩ := reached; cases is))
    obtain ⟨ids, result, is, ended⟩ := reached
    cases is
    cases result with
    | none => trivial
    | some result => exact ended rfl
  | hasIndeterminateTermination =>
    exact obeys_then hasIndeterminateTermination_obeys (fun _ _ _ => trivial) fun _ _ _ => trivial
  | supervisor id turns =>
    exact obeys_then (superviseJob_obeys id turns) (fun _ _ _ => trivial) fun _ _ _ => trivial
  | reader id stdout pieces =>
    exact obeys_then (readStream_obeys id stdout pieces) (fun _ _ _ => trivial) fun _ _ _ => trivial
  | clock millis => exact obeys_reply trivial fun _ => trivial

end Obeys

/-! ### Runs -/

/-- A job that is marked as running is still starting, and a shutdown's deadline does not pass
between a look at a job that is pending and the end of the same pass. -/
def attentive (pool : JobPool) : JobEvent → Bool
  | .start _ => true
  | .step task _ =>
    match pool.tasks[task]? with
    | some (_, .call (.record job .run) _) =>
      pool.world.jobs[job]?.all fun j => j.record.state = .starting
    | some (_, .call (.passed deadline spared) _) => !(spared && deadline ≤ pool.world.now)
    | _ => true

theorem performJob_mended {limits : ManagedJobLimits} {w : JobWorld} {me : Nat} {c : JobCall}
    {fate : JobFate}
    (run : ∀ job, c = .record job .run →
      w.jobs[job]?.all (fun j => decide (j.record.state = .starting)) = true)
    (passed : ∀ deadline spared, c = .passed deadline spared → (spared && deadline ≤ w.now) = false) :
    (jobHost limits).perform w me c fate = (mendedJobHost limits).perform w me c fate := by
  show w.perform limits me c fate = w.mended limits me c fate
  unfold mended
  split
  · next job =>
    have starting := run job rfl
    show w.recordOp job .run = _
    cases found : w.jobs[job]? with
    | none =>
      unfold recordOp
      rw [found]
      rfl
    | some j =>
      rw [found, Option.all_some] at starting
      rw [Option.any_some, if_pos starting]
  · next deadline spared =>
    have kept := passed deadline spared rfl
    show (decide (deadline ≤ w.now), w) = _
    cases spared with
    | false => rw [Bool.not_false, Bool.and_true]
    | true =>
      rw [Bool.true_and] at kept
      rw [kept]
      rfl
  · rfl

theorem jobs_next_mended {limits : ManagedJobLimits} {pool : JobPool} {event : JobEvent}
    (looks : attentive pool event = true) : pool.next limits event =
      Pool.next (mendedJobHost limits) (fun job : JobJob => (job.task limits).run) pool event := by
  refine next_congr fun task fate job c after is found => ⟨rfl, ?_⟩
  subst is
  unfold attentive at looks
  refine performJob_mended ?_ ?_
  · rintro id rfl
    simpa only [found] using looks
  · rintro deadline spared rfl
    simpa only [found, Bool.not_eq_true'] using looks

theorem start_jobs_inv (limits : ManagedJobLimits) : start.Inv limits := by
  refine ⟨fun job j found => ?_, fun locator job at_ => ?_, fun locators _ active => ?_,
    fun entry among => ?_⟩
  · cases found
  · cases at_
  · cases locators with
    | nil => exact Nat.zero_le _
    | cons locator rest =>
      obtain ⟨⟨_, _, _, found, _⟩, _⟩ := active locator List.mem_cons_self
      cases found
  · cases among

theorem start_jobs_outside (i : Nat) : outside.Holds i start :=
  ⟨rfl, ⟨nofun, nofun⟩, ⟨nofun, nofun⟩, trivial, nofun, nofun, nofun, nofun⟩

theorem jobs_orderly (limits : ManagedJobLimits) (events : List JobEvent)
    (meets : Machine.Meets (JobPool.next limits) (fun pool event => attentive pool event = true)
      (start .start) events) :
    Pool.Orderly (jobDiscipline limits) .outside (fun _ => Concludes)
      (run (JobPool.next limits) (start .start) events) := by
  rw [run_eq_of_meets (fun _ _ looks => jobs_next_mended looks) meets]
  refine Pool.Orderly.run (orderly_start (start_jobs_inv limits) ?_) (jobTask_obeys limits) _
  exact fun i _ => start_jobs_outside i

/-- How many jobs are listed and have not ended. -/
def JobWorld.activeCount (w : JobWorld) : Nat :=
  (w.table.toList.filter fun entry =>
    w.jobs[entry.2]?.any fun j => !j.record.state.isTerminal).length

theorem JobWorld.activeCount_le {w : JobWorld} {count : Nat} (counted : w.Counted [] count) :
    w.activeCount ≤ count := by
  have bound := counted ((w.table.toList.filter fun entry =>
    w.jobs[entry.2]?.any fun j => !j.record.state.isTerminal).map Prod.fst) ?_ fun locator among => ?_
  · rwa [List.length_map] at bound
  · exact (Table.nodup_keys w.table).sublist (List.Sublist.map _ List.filter_sublist)
  · obtain ⟨entry, listed, rfl⟩ := List.mem_map.mp among
    obtain ⟨listed, live⟩ := List.mem_filter.mp listed
    refine ⟨?_, List.not_mem_nil⟩
    cases found : w.jobs[entry.2]? with
    | none =>
      rw [found] at live
      cases live
    | some j =>
      rw [found] at live
      exact ⟨entry.2, j, Std.ExtTreeMap.mem_toList_iff_getElem?_eq_some.mp listed, found,
        by simpa using live⟩

/-- The life of managed jobs: states only go on and ends stay, ends are proved, pruning takes out
what has ended, no more jobs are active than may be, and a shutdown that has returned was about
jobs that have ended. -/
structure JobsLive (limits : ManagedJobLimits) (pool : JobPool) : Prop where
  history : ∀ job ∈ pool.world.jobs, job.history.head? = some job.record.state ∧
    job.history.Pairwise fun newer older =>
      (older.isTerminal = true → newer = older) ∧
        (older = .stopRequested → newer ≠ .running)
  proved : ∀ job ∈ pool.world.jobs, (job.record.state = .completed ∨ job.record.state = .stopped ∨
    job.record.state = .expired) → job.proven = true
  pruned : ∀ entry ∈ pool.world.pruned, entry.2.isTerminal = true
  active : pool.world.activeCount ≤ limits.maxConcurrentJobs
  shutdown : ∀ (i : Nat) (ids : List Nat) (result : Except ManagedJobError Unit),
    pool.result? i = some (.ok (.shutdown ids result)) → ∀ id ∈ ids, pool.world.Ended id

theorem later_states {older newer : ManagedJobState} (later : Later older newer) :
    (older.isTerminal = true → newer = older) ∧ (older = .stopRequested → newer ≠ .running) := by
  refine ⟨later.2, ?_⟩
  rintro rfl rfl
  exact absurd later.1 (by decide)

theorem managed_jobs_live (limits : ManagedJobLimits) (events : List JobEvent)
    (meets : Machine.Meets (JobPool.next limits) (fun pool event => attentive pool event = true)
      (start .start) events) :
    JobsLive limits (run (JobPool.next limits) (start .start) events) := by
  have orderly := jobs_orderly limits events meets
  generalize run (JobPool.next limits) (start .start) events = pool at orderly
  have ok (job : Job) (among : job ∈ pool.world.jobs) : job.Ok := by
    obtain ⟨id, found⟩ := List.mem_iff_getElem?.mp among
    exact orderly.inv.jobs id job found
  refine ⟨fun job among => ⟨(ok job among).current, (ok job among).ordered.imp later_states⟩,
    fun job among ended => (ok job among).proved ?_, orderly.inv.pruned,
    activeCount_le orderly.inv.counted, fun i ids result is id among => ?_⟩
  · rcases ended with is | is | is <;> rw [is] <;> rfl
  · obtain ⟨job, found⟩ := finished_of_result? is
    obtain ⟨stage, knows, concludes⟩ := orderly.finished found
    rcases concludes with lost | dead
    · cases knows.reached.symm.trans lost
    · exact knows.dead id (dead id among)

/-- Every call succeeds, and every process has exited by itself. -/
def plainFate : JobFate :=
  ⟨true, some 0, .exited (some 0), .other, ["job"]⟩

/-- A thread begins, and takes some steps. -/
def begins (thread : Nat) (job : JobJob) (steps : Nat) : List JobEvent :=
  .start job :: List.replicate steps (.step thread plainFate)

/-- A job is started and completes, and a shutdown finds it so. -/
def completedThenShutdown : List JobEvent :=
  List.flatten [begins 0 (.start 1000) 33, begins 1 (.supervisor 0 3) 5,
    begins 2 (.shutdownAll 5) 6]

theorem managed_jobs_live_completed :
    (run (JobPool.next .default) (start .start) completedThenShutdown).world.jobs.map
        (·.record.state) = [.completed] ∧
      JobsLive .default
        (run (JobPool.next .default) (start .start) completedThenShutdown) :=
  ⟨by decide +kernel, managed_jobs_live .default completedThenShutdown (by decide +kernel)⟩

/-- A shutdown gives a job up before it is marked as running; its retention is over long after. -/
def markedLate : List JobEvent :=
  List.flatten [begins 0 (.start 1000) 19, begins 1 (.shutdownAll 5) 5, begins 2 (.clock 5000) 1,
    [.step 1 plainFate, .step 1 plainFate, .step 0 plainFate], begins 3 (.clock 300000) 1,
    begins 4 (.status "job") 5]

/-- The deadline of a shutdown passes after it has looked at a job that is still running. -/
def leftEarly : List JobEvent :=
  List.flatten [begins 0 (.start 1000) 20, begins 1 (.shutdownAll 5) 6, begins 2 (.clock 5000) 1,
    [.step 1 plainFate]]

/-- The manager with its default limits after some events. -/
def afterEvents (events : List JobEvent) : JobPool :=
  run (JobPool.next .default) (start .start) events

/-- A job that had ended runs again and is pruned while it runs; a shutdown returns without an
error while a job has not ended. -/
theorem managed_jobs_revived :
    ((afterEvents markedLate).world.jobs.map (·.history) =
        [[.running, .running, .indeterminateTermination, .stopRequested, .starting]] ∧
      (afterEvents markedLate).world.pruned = [(0, .running)] ∧
      ¬JobsLive .default (afterEvents markedLate)) ∧
    ((afterEvents leftEarly).result? 1 = some (.ok (.shutdown [0] (.ok ()))) ∧
      (afterEvents leftEarly).world.jobs.map (·.record.state) = [.stopRequested] ∧
      ¬JobsLive .default (afterEvents leftEarly)) := by
  have pruned : (afterEvents markedLate).world.pruned = [(0, .running)] := by decide +kernel
  have returned : (afterEvents leftEarly).result? 1 = some (.ok (.shutdown [0] (.ok ()))) := by
    decide +kernel
  have states : (afterEvents leftEarly).world.jobs.map (·.record.state) = [.stopRequested] := by
    decide +kernel
  refine ⟨⟨by decide +kernel, pruned, fun live => ?_⟩, ⟨returned, states, fun live => ?_⟩⟩
  · have ended := live.pruned (0, .running) (pruned ▸ List.mem_singleton_self _)
    cases ended
  · obtain ⟨j, found, ended⟩ := live.shutdown 1 [0] (.ok ()) returned 0 (by decide)
    have state := congrArg (fun states : List ManagedJobState => states[0]?) states
    simp only [List.getElem?_map, found] at state
    have is : j.record.state = .stopRequested := Option.some.inj state
    rw [is] at ended
    cases ended

end Gateway.Agent
