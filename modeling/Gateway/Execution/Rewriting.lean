import Gateway.Execution.Restoration

/-! What one move does to one record.

A move admits a record, rewrites one in one of a dozen ways, forgets one, or
leaves all of them alone. What holds of each record is proved from this list,
without regard to the indexes that follow the records. -/
namespace Gateway.Execution
open Data Device HubOperationState Table

namespace AuthoritativeOperationController
variable {care : Care} {s s' : AuthoritativeOperationController}

theorem phase_of_pair {state : HubOperationState} {evidence : ExecutionEvidence}
    (pair : authoritativeAgentTerminalPair state evidence = true) : state.phase = .settled :=
  (isTerminal_iff _).mp (isTerminal_of_authoritativeAgentTerminalPair pair)

/-- What a move makes of a record. -/
inductive Rewritten (care : Care) (id : String) (r : SafetyOperation) : SafetyOperation → Prop where
  | promote (waited : r.state = .queued) : Rewritten care id r {r with state := .activeNotDispatched}
  | dispatch (binding : Option OperationDispatchBinding) (nowMs : Nat)
      (ready : r.state = .activeNotDispatched) : Rewritten care id r (r.dispatch binding nowMs)
  | requestCancel (sent : r.state.isInFlight = true) :
      Rewritten care id r {r with state := .cancelRequested}
  | cancel (nowMs : Nat) (unsent : r.state = .queued ∨ r.state = .activeNotDispatched) :
      Rewritten care id r (r.cancelBeforeDispatch nowMs)
  | finalize (terminalState : HubOperationState) (evidence : ExecutionEvidence) (nowMs : Nat)
      (sent : r.state.isInFlight = true)
      (pair : authoritativeAgentTerminalPair terminalState evidence = true) :
      Rewritten care id r (r.finalize terminalState evidence nowMs)
  | neverEnqueued (binding : OperationDispatchBinding) (evidence : ExecutionEvidence) (nowMs : Nat)
      (sent : r.state = .dispatched) (bound : r.dispatchBinding = some binding)
      (proof : evidence.isPreEnqueue = true) : Rewritten care id r (r.neverEnqueued evidence nowMs)
  | interruptRead (nowMs : Nat) (sent : r.state.isInFlight = true)
      (read : r.executionLane = .recoveryEvidenceRead) : Rewritten care id r (r.interruptRead nowMs)
  | lose (reason : IndeterminateReason) (sent : r.state.isInFlight = true) :
      Rewritten care id r (r.becomeAmbiguous reason)
  | restatus (status : ReconciliationStatus) (ambiguous : r.state = .indeterminate) :
      Rewritten care id r {r with reconciliationStatus := some status}
  | reconcile (terminal : AgentTerminalEvidence) (nowMs : Nat) (ambiguous : r.state = .indeterminate)
      (valid : terminal.isValid = true) : Rewritten care id r (r.reconcile terminal nowMs)
  | resolve (decision : IndeterminateResolution) (nowMs : Nat) (ambiguous : r.state = .indeterminate) :
      Rewritten care id r (r.resolve (HubAdmissionController.resolvedState decision) nowMs)
  | attach (result : RecoverableOperationResult) (settled : r.receipt.isSome = true)
      (allowed : care.attaches id) : Rewritten care id r {r with recoverableResult := some result}

/-- What may become of the record of an id. -/
inductive Fate (care : Care) (s s' : AuthoritativeOperationController) (id : String) : Prop where
  | kept (same : s'.operations[id]? = s.operations[id]?)
  | admitted (operation : OperationRef) (owner : OperationOwner) (capability : DeviceCapability)
      (lane : OperationExecutionLane) (state : HubOperationState)
      (metadata : OperationAdmissionMetadata) (nowMs : Nat) (new : s.operations[id]? = none)
      (admissible : s.Admissible operation capability metadata)
      (unsent : state = .queued ∨ state = .activeNotDispatched)
      (found : s'.operations[id]? =
        some (preparedRecord operation owner capability lane state metadata nowMs))
  | rewritten (r r' : SafetyOperation) (old : s.operations[id]? = some r)
      (found : s'.operations[id]? = some r') (how : Rewritten care id r r')
  | forgotten (r : SafetyOperation) (old : s.operations[id]? = some r)
      (gone : s'.operations[id]? = none)
      (why : r.state.phase = .ambiguous ∨
        ∃ deviceId generation, care.prunes deviceId generation ∧
          isPrunable deviceId generation r = true)

theorem Change.fate {id : String} {r r' : SafetyOperation} (m : Change s s' id r')
    (old : s.operations[id]? = some r) (how : Rewritten care id r r') (a : String) :
    Fate care s s' a := by
  by_cases here : id = a
  · subst here
    exact .rewritten r r' old (by rw [m.operations, get_insert_self]) how
  · exact .kept (by rw [m.operations, get_insert_of_ne here])

theorem Forget.fate {gone : String → Bool} (m : Forget s s' gone) (a : String)
    (why : ∀ r, gone a = true → s.operations[a]? = some r → r.state.phase = .ambiguous ∨
      ∃ deviceId generation, care.prunes deviceId generation ∧
        isPrunable deviceId generation r = true) : Fate care s s' a := by
  have after := m.operations a
  cases here : gone a with
  | false => exact .kept (by rw [after, here]; rfl)
  | true =>
    rw [here, if_pos rfl] at after
    cases found : s.operations[a]? with
    | none => exact .kept (by rw [after, found])
    | some r => exact .forgotten r found after (why r here found)

/-- Every record's fate in a move. -/
theorem Move.fate (m : Move care s s') (accounted : s.Accounted) (a : String) : Fate care s s' a := by
  cases m with
  | touch same _ => exact same.fate a fun _ never => absurd never Bool.false_ne_true
  | start operation owner capability lane metadata nowMs admissible _ _ moved _ =>
    by_cases here : operation.operationId = a
    · subst here
      exact .admitted operation owner capability lane _ metadata nowMs moved.new admissible (.inr rfl)
        (by rw [moved.operations, get_insert_self])
    · exact .kept (by rw [moved.operations, get_insert_of_ne here])
  | enqueue operation owner capability metadata nowMs admissible _ _ moved _ =>
    by_cases here : operation.operationId = a
    · subst here
      exact .admitted operation owner capability _ _ metadata nowMs moved.new admissible (.inl rfl)
        (by rw [moved.operations, get_insert_self])
    · exact .kept (by rw [moved.operations, get_insert_of_ne here])
  | promote _ _ moved _ =>
    exact moved.toChange.fate moved.old (.promote ((eq_queued_iff _).mpr moved.waited)) a
  | dispatch _ _ binding nowMs ready _ _ moved _ =>
    exact moved.toChange.fate moved.old (.dispatch binding nowMs ready) a
  | requestCancel _ _ sent moved _ => exact moved.toChange.fate moved.old (.requestCancel sent) a
  | cancelWaiting _ _ nowMs moved _ =>
    exact moved.toChange.fate moved.old
      (.cancel nowMs (.inl ((eq_queued_iff _).mpr moved.waited))) a
  | cancelUndispatched _ _ nowMs ready moved _ =>
    exact moved.toChange.fate moved.old (.cancel nowMs (.inr ready)) a
  | finalize _ _ terminalState evidence nowMs sent pair moved _ =>
    exact moved.toChange.fate moved.old (.finalize terminalState evidence nowMs sent pair) a
  | neverEnqueued _ _ binding evidence nowMs sent _ bound proof _ _ moved _ =>
    exact moved.toChange.fate moved.old (.neverEnqueued binding evidence nowMs sent bound proof) a
  | interruptRead _ _ nowMs sent read moved _ =>
    exact moved.toChange.fate moved.old (.interruptRead nowMs sent read) a
  | quarantine _ _ reason _ sent moved _ => exact moved.toChange.fate moved.old (.lose reason sent) a
  | evidenceGap _ _ ambiguous _ moved _ => exact moved.toChange.fate moved.old (.restatus _ ambiguous) a
  | operatorRequired _ _ ambiguous _ moved _ =>
    exact moved.toChange.fate moved.old (.restatus _ ambiguous) a
  | reconcile _ terminal nowMs ambiguous _ valid _ _ _ moved _ =>
    exact moved.toChange.fate moved.old (.reconcile terminal nowMs ambiguous valid) a
  | resolve _ _ resolution ambiguous _ moved _ =>
    exact moved.toChange.fate moved.old (.resolve resolution.decision resolution.resolvedAtMs ambiguous) a
  | retire _ _ _ _ _ _ _ _ _ moved _ => exact .kept (by rw [moved.operations])
  | rotate retired listed _ _ moved _ =>
    refine moved.fate a fun r here found => .inl ?_
    obtain ⟨x, denied, -, ambiguous, -⟩ := accounted.kept retired listed
    rw [decide_eq_true_eq] at here
    rw [← here, found, Option.some.injEq] at denied
    rw [denied]
    exact ambiguous
  | resume _ _ _ _ _ _ _ _ _ _ _ same _ => exact same.fate a fun _ never => absurd never Bool.false_ne_true
  | attach _ _ result settled _ allowed moved _ =>
    exact moved.toChange.fate moved.old (.attach result settled allowed) a
  | prune deviceId generation _ _ allowed moved _ =>
    refine moved.fate a fun r here found => .inr ⟨deviceId, generation, allowed, ?_⟩
    rwa [found] at here

/-- What holds of every admitted record and is kept by every rewriting holds of every record. -/
theorem Move.records_keep {P : SafetyOperation → Prop} (m : Move care s s') (accounted : s.Accounted)
    (h : ∀ (id : String) (r : SafetyOperation), s.operations[id]? = some r → P r)
    (admitted : ∀ operation owner capability lane state metadata nowMs,
      state = .queued ∨ state = .activeNotDispatched →
        P (preparedRecord operation owner capability lane state metadata nowMs))
    (rewritten : ∀ {id r r'}, s.operations[id]? = some r → P r → Rewritten care id r r' → P r')
    (id : String) (r : SafetyOperation) (found : s'.operations[id]? = some r) : P r := by
  cases m.fate accounted id with
  | kept same => exact h id r (same ▸ found)
  | admitted operation owner capability lane state metadata nowMs _ _ unsent here =>
    rw [found, Option.some.injEq] at here
    rw [here]
    exact admitted operation owner capability lane state metadata nowMs unsent
  | rewritten x y old here how =>
    rw [found, Option.some.injEq] at here
    rw [here]
    exact rewritten old (h id x old) how
  | forgotten _ _ gone _ =>
    rw [found] at gone
    cases gone

/-- A settled record is left alone by every move that neither attaches to it nor prunes it. -/
theorem Move.settled_kept (m : Move care s s') (accounted : s.Accounted) {id : String}
    {r : SafetyOperation} (found : s.operations[id]? = some r) (settled : r.state.phase = .settled)
    (bare : ¬care.attaches id) (retained : ∀ deviceId generation, ¬care.prunes deviceId generation) :
    s'.operations[id]? = some r := by
  cases m.fate accounted id with
  | kept same => rw [same, found]
  | admitted _ _ _ _ _ _ _ new =>
    rw [found] at new
    cases new
  | rewritten x y old _ how =>
    rw [found, Option.some.injEq] at old
    subst old
    cases how with
    | attach _ _ allowed => exact absurd allowed bare
    | promote state => simp [state, phase] at settled
    | dispatch _ _ state => simp [state, phase] at settled
    | requestCancel sent => simp [phase_of_isInFlight sent] at settled
    | cancel _ unsent => rcases unsent with state | state <;> simp [state, phase] at settled
    | finalize _ _ _ sent => simp [phase_of_isInFlight sent] at settled
    | neverEnqueued _ _ _ state => simp [state, phase] at settled
    | interruptRead _ sent => simp [phase_of_isInFlight sent] at settled
    | lose _ sent => simp [phase_of_isInFlight sent] at settled
    | restatus _ state => simp [state, phase] at settled
    | reconcile _ _ state => simp [state, phase] at settled
    | resolve _ _ state => simp [state, phase] at settled
  | forgotten x old _ why =>
    rw [found, Option.some.injEq] at old
    subst old
    rcases why with ambiguous | ⟨deviceId, generation, prunes, -⟩
    · rw [settled] at ambiguous
      cases ambiguous
    · exact absurd prunes (retained deviceId generation)

/-! ### Retirements, barriers and resumes -/

/-- What a move does to the retirements, barriers and resumes. -/
inductive AsideFate (care : Care) (s s' : AuthoritativeOperationController) : Prop where
  | kept (retirements : s'.retirements = s.retirements)
      (barriers : s'.mutationResumeBarriers = s.mutationResumeBarriers)
      (resumes : s'.mutationResumes = s.mutationResumes)
  | retired (id : String) (r : SafetyOperation) (retirement : RetirementRecord)
      (transition : RetirementTransition)
      (checked : s.retirementFor id transition = .ok retirement)
      (unbarred : retirement.policy = .acknowledgedUnknownPointerClickV1 →
        s.mutationResumeBarriers[retirement.operation.deviceId]? = none)
      (moved : Retire s s' id r) (retirements : s'.retirements = s.retirements ++ [retirement])
      (barriers : s'.mutationResumeBarriers =
        if retirement.policy = .acknowledgedUnknownPointerClickV1 then
          s.mutationResumeBarriers.insert retirement.operation.deviceId
            (barrierFor retirement transition.nowMs)
        else s.mutationResumeBarriers)
      (resumes : s'.mutationResumes = s.mutationResumes)
  | rotated (retired : RetirementRecord) (listed : retired ∈ s.retirements)
      (retirements : s'.retirements = s.retirements.erase retired)
      (barriers : s'.mutationResumeBarriers = s.mutationResumeBarriers)
  | resumed (deviceId : String) (allowed : care.resumes deviceId)
      (retirements : s'.retirements = s.retirements)
      (barriers : s'.mutationResumeBarriers = s.mutationResumeBarriers.erase deviceId)

theorem Move.aside_fate (m : Move care s s') : AsideFate care s s' := by
  have kept : ∀ {t : Aside}, s'.aside = t → t.retirements = s.retirements ∧
      t.mutationResumeBarriers = s.mutationResumeBarriers ∧ t.mutationResumes = s.mutationResumes →
        AsideFate care s s' := by
    intro t aside same
    subst aside
    exact .kept same.1 same.2.1 same.2.2
  have frame : s'.aside = s.aside → AsideFate care s s' := fun aside => kept aside ⟨rfl, rfl, rfl⟩
  cases m with
  | retire id r retirement transition _ _ checked unbarred _ moved aside =>
    exact .retired id r retirement transition checked unbarred moved
      (congrArg Aside.retirements aside) (congrArg Aside.mutationResumeBarriers aside)
      (congrArg Aside.mutationResumes aside)
  | rotate retired listed _ _ _ aside =>
    exact .rotated retired listed (congrArg Aside.retirements aside)
      (congrArg Aside.mutationResumeBarriers aside)
  | resume deviceId _ _ _ _ _ _ _ _ _ allowed _ aside =>
    exact .resumed deviceId allowed (congrArg Aside.retirements aside)
      (congrArg Aside.mutationResumeBarriers aside)
  | neverEnqueued _ _ _ _ _ _ _ _ _ _ _ _ aside => exact kept aside ⟨rfl, rfl, rfl⟩
  | reconcile _ _ _ _ _ _ _ _ _ _ aside => exact kept aside ⟨rfl, rfl, rfl⟩
  | resolve _ _ _ _ _ _ aside => exact kept aside ⟨rfl, rfl, rfl⟩
  | prune _ _ _ _ _ _ aside => exact kept aside ⟨rfl, rfl, rfl⟩
  | _ =>
    rename_i aside
    exact frame aside

/-- A barrier stays, goes up on a quarantined device that had none, or is lifted by a resume. -/
theorem Move.barrier_fate (m : Move care s s') (d : String) :
    s'.mutationResumeBarriers[d]? = s.mutationResumeBarriers[d]? ∨
      (s.mutationResumeBarriers[d]? = none ∧ s.quarantines[d]? ≠ none ∧ s'.operations = s.operations) ∨
      care.resumes d ∧ s'.mutationResumeBarriers[d]? = none := by
  cases m.aside_fate with
  | kept _ barriers _ => exact .inl (by rw [barriers])
  | rotated _ _ _ barriers => exact .inl (by rw [barriers])
  | retired _ _ retirement transition checked unbarred moved _ barriers _ =>
    rw [barriers]
    split
    · next click =>
      rw [get_insert]
      split
      · next device =>
        obtain ⟨x, retirable⟩ := retirable_of_ok checked
        obtain ⟨q, held, -⟩ := retirable.quarantined
        rw [← device]
        refine .inr (.inl ⟨unbarred click, ?_, moved.operations⟩)
        rw [retirable.operation, held]
        exact Option.some_ne_none q
      · exact .inl rfl
    · exact .inl rfl
  | resumed deviceId allowed _ barriers =>
    rw [barriers, get_erase]
    split
    · next device => exact .inr (.inr ⟨device ▸ allowed, rfl⟩)
    · exact .inl rfl

/-- What a move lists was listed or has just passed its checks. -/
theorem Move.retirement_fate (m : Move care s s') {retirement : RetirementRecord}
    (mem : retirement ∈ s'.retirements) :
    retirement ∈ s.retirements ∨ retirement.isValid = true := by
  cases m.aside_fate with
  | kept retirements _ _ => exact .inl (retirements ▸ mem)
  | retired _ _ listed _ checked _ _ retirements _ _ =>
    rw [retirements, List.mem_append, List.mem_singleton] at mem
    refine mem.imp_right fun here => ?_
    obtain ⟨x, retirable⟩ := retirable_of_ok checked
    rw [here]
    exact retirable.valid
  | rotated _ _ retirements _ =>
    rw [retirements] at mem
    exact .inl (List.mem_of_mem_erase mem)
  | resumed _ _ retirements _ => exact .inl (retirements ▸ mem)

/-! ### Quarantines -/

/-- What stays ambiguous stays so for the same reason. -/
theorem Rewritten.reason_kept {id : String} {r r' : SafetyOperation} (how : Rewritten care id r r')
    (ambiguous : r.state = .indeterminate) (still : r'.state = .indeterminate) :
    r'.indeterminateReason = r.indeterminateReason := by
  cases how with
  | restatus => rfl
  | attach => rfl
  | promote => rfl
  | dispatch => rfl
  | requestCancel => rfl
  | lose _ sent =>
    rw [ambiguous] at sent
    cases sent
  | finalize _ _ _ sent =>
    rw [ambiguous] at sent
    cases sent
  | interruptRead _ sent =>
    rw [ambiguous] at sent
    cases sent
  | cancel _ _ => cases still
  | neverEnqueued _ _ _ _ _ _ => cases still
  | reconcile terminal _ _ valid =>
    simp only [AgentTerminalEvidence.isValid, Bool.and_eq_true] at valid
    have settled := phase_of_pair valid.2
    rw [show terminal.terminalState = .indeterminate from still] at settled
    cases settled
  | resolve decision _ _ => cases decision <;> cases still

/-- A quarantine was there or has just been raised over a record that says why. -/
theorem Move.quarantine_fate (m : Move care s s') {d : String} {q : DesktopQuarantine}
    (held : s'.quarantines[d]? = some q) : s.quarantines[d]? = some q ∨
      ∃ r, s'.operations[q.operationId]? = some r ∧ r.indeterminateReason = some q.reason := by
  have same : s'.quarantines = s.quarantines → s.quarantines[d]? = some q := fun eq => eq ▸ held
  have erased : ∀ {device : String}, s'.quarantines = s.quarantines.erase device →
      s.quarantines[d]? = some q := by
    intro device eq
    rw [eq, get_erase] at held
    split at held
    · cases held
    · exact held
  cases m with
  | quarantine id r reason nowMs _ moved _ =>
    rw [moved.quarantines, get_insert] at held
    split at held
    · cases held
      refine .inr ⟨r.becomeAmbiguous reason, ?_, rfl⟩
      rw [moved.names, moved.operations, get_insert_self]
    · exact .inl held
  | reconcile _ _ _ _ _ _ _ _ _ moved _ => exact .inl (erased moved.quarantines)
  | resolve _ _ _ _ _ moved _ => exact .inl (erased moved.quarantines)
  | retire _ _ _ _ _ _ _ _ _ moved _ => exact .inl (erased moved.quarantines)
  | _ =>
    rename_i moved _
    exact .inl (same moved.quarantines)

end AuthoritativeOperationController

end Gateway.Execution
