import Gateway.Execution.Ambiguity

/-! Retirement and the rotation of its history.

Every detailed retirement stands for a record that is still in the ledger, and
every barrier was raised by a detailed retirement; `Accounted` says so. With it a
rotation can only fail when more barriers are up than the history may hold. -/
namespace Gateway.Execution
open Data Device HubAdmissionController Table Result RetirementRecord SafetyOperation
  HubOperationState

namespace AuthoritativeOperationController
variable {care : Care} {s s' : AuthoritativeOperationController} {id : String}
  {r r' : SafetyOperation}

/-- Ambiguous work whose id is denied. -/
def Denied (s : AuthoritativeOperationController) (operation : OperationRef) : Prop :=
  ∃ r, s.operations[operation.operationId]? = some r ∧ r.operation = operation ∧
    r.state.phase = .ambiguous ∧ operation.operationId ∈ s.admission.retiredIndeterminate

/-- The detailed retirements, the barriers and the resumes account for each other. -/
structure Accounted (s : AuthoritativeOperationController) : Prop where
  once : (s.retirements.map fun retirement => retirement.operation.operationId).Nodup
  kept : ∀ retirement ∈ s.retirements, s.Denied retirement.operation
  /-- An accepted pointer click has its barrier until it is resumed. -/
  answered : ∀ retirement ∈ s.retirements, retirement.policy = .acknowledgedUnknownPointerClickV1 →
    s.holdsBarrier retirement = true ∨ s.mutationResumes.any (isResumeOf retirement) = true
  raised : ∀ (d : String) (barrier : MutationResumeBarrier),
    s.mutationResumeBarriers[d]? = some barrier →
      barrier.deviceId = d ∧ ∃ retirement ∈ s.retirements, retirement.raised barrier = true

theorem accounted_empty (limits : AdmissionLimits) : (empty limits).Accounted := by
  constructor <;> simp [empty]

variable {retirement : RetirementRecord} {operation : OperationRef}
  {barrier : MutationResumeBarrier} {record : MutationResumeRecord}
  {transition : RetirementTransition} {operations : Table SafetyOperation}

theorem holdsBarrier_iff : s.holdsBarrier retirement = true ↔
    ∃ (d : String) (barrier : MutationResumeBarrier), s.mutationResumeBarriers[d]? = some barrier ∧
      barrier.sourceOperationId = retirement.operation.operationId := by
  simp only [holdsBarrier, List.any_eq_true, decide_eq_true_eq, mem_values]
  constructor
  · rintro ⟨barrier, ⟨d, up⟩, source⟩
    exact ⟨d, barrier, up, source⟩
  · rintro ⟨d, barrier, up, source⟩
    exact ⟨barrier, ⟨d, up⟩, source⟩

/-! ### What moves keep -/

/-- A changed record leaves denied work alone when it was not itself denied, or stays so. -/
theorem Change.denied (m : Change s s' id r') (h : s.Denied operation)
    (same : ∀ r, s.operations[id]? = some r → r.state.phase = .ambiguous →
      id ∈ s.admission.retiredIndeterminate →
        r'.operation = r.operation ∧ r'.state.phase = .ambiguous) : s'.Denied operation := by
  obtain ⟨r, old, rfl, ambiguous, retired⟩ := h
  rw [Denied, m.operations, m.retired]
  by_cases key : id = r.operation.operationId
  · subst key
    obtain ⟨operation, ambiguous'⟩ := same r old ambiguous retired
    exact ⟨r', get_insert_self _ _ _, operation, ambiguous', retired⟩
  · exact ⟨r, by rw [get_insert_of_ne key, old], rfl, ambiguous, retired⟩

theorem Restate.denied (m : Restate s s' id r r') (h : s.Denied operation) :
    s'.Denied operation := by
  refine m.toChange.denied h fun x old ambiguous _ => ?_
  rw [m.old, Option.some.injEq] at old
  rw [m.operation, m.phase, old]
  exact ⟨rfl, ambiguous⟩

/-- A record that was not ambiguous was not denied. -/
theorem Recast.denied (m : Recast s s' id r r') (phase : r.state.phase ≠ .ambiguous)
    (h : s.Denied operation) : s'.Denied operation := by
  refine m.toChange.denied h fun x old ambiguous _ => ?_
  rw [m.old, Option.some.injEq] at old
  exact absurd (old ▸ ambiguous) phase

/-- A record that blocks its device is not retired. -/
theorem Unblock.denied (m : Unblock s s' id r r') (h : s.Coherent) (was : s.Denied operation) :
    s'.Denied operation :=
  m.toChange.denied was fun _ _ _ retired => absurd retired (h.unretired_of_blocking m.blocking)

/-- A new record replaces none. -/
theorem Change.denied_of_new (m : Change s s' id r') (new : s.operations[id]? = none)
    (h : s.Denied operation) : s'.Denied operation :=
  m.denied h fun x old => by rw [new] at old; cases old

theorem Forget.denied {gone : String → Bool} (m : Forget s s' gone)
    (stays : gone operation.operationId = false) (h : s.Denied operation) :
    s'.Denied operation := by
  obtain ⟨r, old, eq, ambiguous, retired⟩ := h
  refine ⟨r, ?_, eq, ambiguous, ?_⟩
  · rw [m.operations, stays]
    exact old
  · rwa [m.retired]

/-- The histories stay and so does the denied work they name. -/
theorem Accounted.frame (h : s.Accounted) (aside : s'.aside.retirements = s.aside.retirements ∧
      s'.aside.mutationResumeBarriers = s.aside.mutationResumeBarriers ∧
      s'.aside.mutationResumes = s.aside.mutationResumes)
    (denied : ∀ {operation : OperationRef}, s.Denied operation → s'.Denied operation) :
    s'.Accounted := by
  obtain ⟨retirements, barriers, resumes⟩ := aside
  simp only [AuthoritativeOperationController.aside] at retirements barriers resumes
  have holds : ∀ retirement, s'.holdsBarrier retirement = s.holdsBarrier retirement := by
    intro retirement
    rw [holdsBarrier, holdsBarrier, barriers]
  constructor
  case once => rw [retirements]; exact h.once
  case kept => rw [retirements]; exact fun x mem => denied (h.kept x mem)
  case answered =>
    intro x mem click
    rw [retirements] at mem
    rw [holds, resumes]
    exact h.answered x mem click
  case raised => rw [barriers, retirements]; exact h.raised

theorem aside_frame {t u : Aside} (h : t = u) : t.retirements = u.retirements ∧
    t.mutationResumeBarriers = u.mutationResumeBarriers ∧ t.mutationResumes = u.mutationResumes :=
  h ▸ ⟨rfl, rfl, rfl⟩

/-- Two listed retirements of one operation are the same. -/
theorem Accounted.unique (h : s.Accounted) {x y : RetirementRecord} (hx : x ∈ s.retirements)
    (hy : y ∈ s.retirements) (same : x.operation.operationId = y.operation.operationId) : x = y :=
  List.inj_on_of_nodup_map h.once hx hy same

theorem raised_iff : retirement.raised barrier = true ↔
      retirement.operation.operationId = barrier.sourceOperationId ∧
      retirement.operation.deviceId = barrier.deviceId ∧
      retirement.operation.deviceGeneration = barrier.sourceDeviceGeneration ∧
      retirement.authorizedDeviceGeneration = barrier.acceptedGeneration ∧
      retirement.policy = barrier.policy ∧ retirement.disposition = .currentStateAccepted ∧
      retirement.authority = .localUserPresence := by
  simp only [raised, Bool.and_eq_true, decide_eq_true_eq, and_assoc]

theorem Accounted.barrier_unique (h : s.Accounted) {d d' : String} {b b' : MutationResumeBarrier}
    (up : s.mutationResumeBarriers[d]? = some b) (up' : s.mutationResumeBarriers[d']? = some b')
    (same : b.sourceOperationId = b'.sourceOperationId) : d = d' := by
  obtain ⟨keyed, x, mem, raised⟩ := h.raised d b up
  obtain ⟨keyed', y, mem', raised'⟩ := h.raised d' b' up'
  obtain ⟨source, device, -⟩ := raised_iff.mp raised
  obtain ⟨source', device', -⟩ := raised_iff.mp raised'
  obtain rfl := h.unique mem mem' (by rw [source, source', same])
  rw [← keyed, ← keyed', ← device, ← device']

theorem isResumeOf_iff {resume : MutationResumeRecord} : isResumeOf retirement resume = true ↔
      resume.sourceOperationId = retirement.operation.operationId ∧
      resume.deviceId = retirement.operation.deviceId ∧
      resume.acceptedGeneration = retirement.authorizedDeviceGeneration ∧
      resume.policy = retirement.policy := by
  simp only [isResumeOf, Bool.and_eq_true, decide_eq_true_eq, and_assoc]

/-- Lifting a barrier leaves the resume that answers its retirement. -/
theorem Accounted.resume (h : s.Accounted) {deviceId : String}
    (up : s.mutationResumeBarriers[deviceId]? = some barrier)
    (answers : record.sourceOperationId = barrier.sourceOperationId ∧
      record.deviceId = barrier.deviceId ∧ record.acceptedGeneration = barrier.acceptedGeneration ∧
      record.policy = barrier.policy)
    (denied : ∀ {operation : OperationRef}, s.Denied operation → s'.Denied operation)
    (aside : s'.aside = {s.aside with
      mutationResumeBarriers := s.mutationResumeBarriers.erase deviceId
      mutationResumes := s.mutationResumes ++ [record]}) : s'.Accounted := by
  have retirements : s'.retirements = s.retirements := congrArg Aside.retirements aside
  have barriers : s'.mutationResumeBarriers = s.mutationResumeBarriers.erase deviceId :=
    congrArg Aside.mutationResumeBarriers aside
  have resumes : s'.mutationResumes = s.mutationResumes ++ [record] :=
    congrArg Aside.mutationResumes aside
  constructor
  case once => rw [retirements]; exact h.once
  case kept => rw [retirements]; exact fun x mem => denied (h.kept x mem)
  case answered =>
    intro x mem click
    rw [retirements] at mem
    rw [resumes, List.any_append, Bool.or_eq_true]
    rcases h.answered x mem click with held | resumed
    · obtain ⟨d, b, hb, source⟩ := holdsBarrier_iff.mp held
      by_cases here : deviceId = d
      · -- The lifted barrier was raised by `x` itself, so the new resume answers it.
        right; right
        rw [← here, up, Option.some.injEq] at hb
        subst hb
        obtain ⟨y, listed, raised⟩ := (h.raised deviceId barrier up).2
        rw [raised_iff] at raised
        obtain rfl : x = y := h.unique mem listed (by rw [raised.1, source])
        simp only [List.any_cons, List.any_nil, Bool.or_false, isResumeOf_iff]
        rw [raised.2.1, raised.2.2.2.1, raised.2.2.2.2.1, ← source]
        exact answers
      · left
        rw [holdsBarrier_iff, barriers]
        exact ⟨d, b, by rw [get_erase_of_ne here, hb], source⟩
    · exact .inr (.inl resumed)
  case raised =>
    intro d b hb
    rw [barriers, get_erase] at hb
    split at hb
    · cases hb
    · rw [retirements]
      exact h.raised d b hb

/-- Compacting a retirement that no barrier needs. -/
theorem Accounted.rotate (h : s.Accounted) {retired : RetirementRecord}
    (listed : retired ∈ s.retirements) (unheld : s.holdsBarrier retired = false)
    (denied : ∀ {operation : OperationRef}, operation.operationId ≠ retired.operation.operationId →
      s.Denied operation → s'.Denied operation)
    (aside : s'.aside = {s.aside with
      retirements := s.retirements.erase retired
      mutationResumes :=
        if retired.policy = .acknowledgedUnknownPointerClickV1 then
          s.mutationResumes.eraseP (isResumeOf retired)
        else s.mutationResumes}) : s'.Accounted := by
  have retirements : s'.retirements = s.retirements.erase retired := congrArg Aside.retirements aside
  have barriers : s'.mutationResumeBarriers = s.mutationResumeBarriers :=
    congrArg Aside.mutationResumeBarriers aside
  have resumes : s'.mutationResumes = if retired.policy = .acknowledgedUnknownPointerClickV1 then
      s.mutationResumes.eraseP (isResumeOf retired) else s.mutationResumes :=
    congrArg Aside.mutationResumes aside
  have stays : ∀ {x}, x ∈ s.retirements.erase retired →
      x ∈ s.retirements ∧ x.operation.operationId ≠ retired.operation.operationId := by
    intro x mem
    have nodup : s.retirements.Nodup := h.once.of_map _
    rw [List.Nodup.mem_erase_iff nodup] at mem
    exact ⟨mem.2, fun same => mem.1 (h.unique mem.2 listed same)⟩
  constructor
  case once => rw [retirements]; exact h.once.sublist (List.erase_sublist.map _)
  case kept =>
    rw [retirements]
    exact fun x mem => denied (stays mem).2 (h.kept x (stays mem).1)
  case answered =>
    intro x mem click
    rw [retirements] at mem
    obtain ⟨mem, other⟩ := stays mem
    rcases h.answered x mem click with held | resumed
    · left
      rwa [holdsBarrier, barriers]
    · right
      rw [List.any_eq_true] at resumed ⊢
      obtain ⟨resume, found, answers⟩ := resumed
      refine ⟨resume, ?_, answers⟩
      rw [resumes]
      split
      · refine (List.mem_eraseP_of_neg fun also => other ?_).mpr found
        rw [← (isResumeOf_iff.mp answers).1, (isResumeOf_iff.mp also).1]
      · exact found
  case raised =>
    intro d b hb
    rw [barriers] at hb
    obtain ⟨device, y, mem, raised⟩ := h.raised d b hb
    refine ⟨device, y, ?_, raised⟩
    have ne : y ≠ retired := by
      rintro rfl
      rw [holdsBarrier_iff.mpr ⟨d, b, hb, ((raised_iff.mp raised).1).symm⟩] at unheld
      cases unheld
    rw [retirements]
    exact (List.mem_erase_of_ne ne).mpr mem

/-! ### The checks of a retirement -/

/-- What the checks of a retirement establish. -/
structure Retirable (s : AuthoritativeOperationController) (id : String)
    (transition : RetirementTransition) (r : SafetyOperation) (retirement : RetirementRecord) :
    Prop where
  unlisted : ∀ x ∈ s.retirements, x.operation.operationId ≠ id
  old : s.operations[id]? = some r
  ambiguous : r.state = .indeterminate
  receipt : r.receipt = none
  result : r.recoverableResult = none
  dispatched : r.dispatchedAtMs.isSome = true
  newer : r.operation.deviceGeneration < transition.authorizedDeviceGeneration
  eligible : transition.disposition.policyFor r.capability = some transition.requestedPolicy
  quarantined : ∃ q, s.quarantines[r.operation.deviceId]? = some q ∧ q.operationId = id ∧
    q.deviceGeneration = r.operation.deviceGeneration ∧ r.indeterminateReason = some q.reason
  operation : retirement.operation = r.operation
  capability : retirement.capability = r.capability
  reason : r.indeterminateReason = some retirement.indeterminateReason
  prior : retirement.priorReconciliationStatus = r.reconciliationStatus.getD .operatorRequired
  policy : retirement.policy = transition.requestedPolicy
  disposition : retirement.disposition = transition.disposition
  authority : retirement.authority = transition.authority
  authorized : retirement.authorizedDeviceGeneration = transition.authorizedDeviceGeneration
  retiredAt : retirement.retiredAtMs = transition.nowMs
  valid : retirement.isValid = true

theorem retirable_of_ok (ok : s.retirementFor id transition = .ok retirement) :
    ∃ r, Retirable s id transition r retirement := by
  unfold retirementFor at ok
  simp only [guard_eq_ok] at ok
  obtain ⟨-, unlisted, ok⟩ := ok
  split at ok
  · cases ok
  · next record old =>
    obtain ⟨shape, ok⟩ := guard_eq_ok.mp ok
    obtain ⟨-, ok⟩ := guard_eq_ok.mp ok
    split at ok
    · cases ok
    · next policy eligible =>
      obtain ⟨requested, ok⟩ := guard_eq_ok.mp ok
      split at ok
      · next reason quarantine because held =>
        obtain ⟨named, ok⟩ := guard_eq_ok.mp ok
        obtain ⟨valid, ok⟩ := guard_eq_ok.mp ok
        cases ok
        simp only [not_or, not_not, Bool.not_eq_true, Option.isNone_iff_eq_none,
          Option.isSome_eq_false_iff, ← Option.isSome_iff_ne_none, Nat.not_le] at shape named requested
        obtain ⟨ambiguous, dispatched, receipt, result, newer⟩ := shape
        obtain ⟨names, generation, same⟩ := named
        refine ⟨record, {
          unlisted := ?_
          old := old
          ambiguous := ambiguous
          receipt := receipt
          result := result
          dispatched := dispatched
          newer := newer
          eligible := requested ▸ eligible
          quarantined := ⟨quarantine, held, names, generation, same ▸ because⟩
          operation := rfl
          capability := rfl
          reason := because
          prior := rfl
          policy := requested
          disposition := rfl
          authority := rfl
          authorized := rfl
          retiredAt := rfl
          valid := not_not.mp valid}⟩
        intro x mem same
        exact unlisted (List.any_eq_true.mpr ⟨x, mem, decide_eq_true same⟩)
      · cases ok

/-- Only a person at the device can accept an unknown pointer click. -/
theorem accepted_of_click (valid : retirement.isValid = true)
    (click : retirement.policy = .acknowledgedUnknownPointerClickV1) :
    retirement.disposition = .currentStateAccepted ∧ retirement.authority = .localUserPresence := by
  simp only [isValid, Bool.and_eq_true, decide_eq_true_eq, click] at valid
  obtain ⟨⟨⟨⟨⟨-, eligible⟩, authority⟩, -⟩, -⟩, -⟩ := valid
  cases disposition : retirement.disposition with
  | currentStateAccepted => exact ⟨rfl, by rw [authority, disposition]; rfl⟩
  | retired =>
    rw [disposition, RetirementDisposition.policyFor] at eligible
    unfold offlineRetirementPolicyForCapability at eligible
    split at eligible <;> cases eligible

/-- A retirement raises its barrier and is listed with its record. -/
theorem Accounted.retire (h : s.Accounted) (coherent : s.Coherent)
    (checked : Retirable s id transition r retirement)
    (unbarred : retirement.policy = .acknowledgedUnknownPointerClickV1 →
      s.mutationResumeBarriers[retirement.operation.deviceId]? = none) (moved : Retire s s' id r)
    (aside : s'.aside = {s.aside with
      retirements := s.retirements ++ [retirement]
      mutationResumeBarriers :=
        if retirement.policy = .acknowledgedUnknownPointerClickV1 then
          s.mutationResumeBarriers.insert retirement.operation.deviceId
            (barrierFor retirement transition.nowMs)
        else s.mutationResumeBarriers}) : s'.Accounted := by
  have retirements : s'.retirements = s.retirements ++ [retirement] :=
    congrArg Aside.retirements aside
  have barriers : s'.mutationResumeBarriers =
      if retirement.policy = .acknowledgedUnknownPointerClickV1 then
        s.mutationResumeBarriers.insert retirement.operation.deviceId
          (barrierFor retirement transition.nowMs)
      else s.mutationResumeBarriers := congrArg Aside.mutationResumeBarriers aside
  have resumes : s'.mutationResumes = s.mutationResumes := congrArg Aside.mutationResumes aside
  have key : retirement.operation.operationId = id := by
    rw [checked.operation, coherent.keyed id r checked.old]
  have up : ∀ {d : String} {b : MutationResumeBarrier}, s.mutationResumeBarriers[d]? = some b →
      s'.mutationResumeBarriers[d]? = some b := by
    intro d b hb
    rw [barriers]
    split
    · next click =>
      rw [get_insert_of_ne, hb]
      rintro rfl
      rw [unbarred click] at hb
      cases hb
    · exact hb
  constructor
  case once =>
    rw [retirements, List.map_append, List.nodup_append]
    refine ⟨h.once, List.nodup_singleton _, ?_⟩
    rintro a mem b hb rfl
    rw [List.map_singleton, List.mem_singleton, key] at hb
    obtain ⟨x, mem, same⟩ := List.mem_map.mp mem
    exact checked.unlisted x mem (same.trans hb)
  case kept =>
    intro x mem
    rw [retirements, List.mem_append, List.mem_singleton] at mem
    rcases mem with mem | rfl
    · obtain ⟨y, old, eq, ambiguous, retired⟩ := h.kept x mem
      exact ⟨y, by rw [moved.operations, old], eq, ambiguous, by
        rw [moved.retired]
        exact Std.ExtTreeSet.mem_insert.mpr (.inr retired)⟩
    · refine ⟨r, ?_, checked.operation.symm, moved.ambiguous, ?_⟩
      · rw [key, moved.operations, checked.old]
      · rw [key, moved.retired]
        exact Std.ExtTreeSet.mem_insert_self
  case answered =>
    intro x mem click
    rw [retirements, List.mem_append, List.mem_singleton] at mem
    rcases mem with mem | rfl
    · rcases h.answered x mem click with held | resumed
      · left
        obtain ⟨d, b, hb, source⟩ := holdsBarrier_iff.mp held
        exact holdsBarrier_iff.mpr ⟨d, b, up hb, source⟩
      · right
        rwa [resumes]
    · left
      rw [holdsBarrier_iff, barriers, if_pos click]
      exact ⟨_, _, get_insert_self _ _ _, rfl⟩
  case raised =>
    intro d b hb
    rw [retirements]
    by_cases old : s.mutationResumeBarriers[d]? = some b
    · obtain ⟨device, y, mem, raised⟩ := h.raised d b old
      exact ⟨device, y, List.mem_append_left _ mem, raised⟩
    · rw [barriers] at hb
      split at hb
      · next click =>
        rw [get_insert] at hb
        split at hb
        · next device =>
          cases hb
          obtain ⟨disposition, authority⟩ := accepted_of_click checked.valid click
          exact ⟨device, retirement, List.mem_append_right _ (List.mem_singleton_self _),
            raised_iff.mpr ⟨rfl, rfl, rfl, rfl, rfl, disposition, authority⟩⟩
        · exact absurd hb old
      · exact absurd hb old

/-- Every move keeps the histories accounted for. -/
theorem Accounted.move (h : s.Accounted) (coherent : s.Coherent) (m : Move care s s') : s'.Accounted := by
  cases m with
  | touch same aside => exact h.frame (aside_frame aside) (same.denied rfl)
  | start _ _ _ _ _ _ _ _ _ moved aside =>
    exact h.frame (aside_frame aside) (moved.toChange.denied_of_new moved.new)
  | enqueue _ _ _ _ _ _ _ _ moved aside =>
    exact h.frame (aside_frame aside) (moved.toChange.denied_of_new moved.new)
  | promote _ _ moved aside =>
    exact h.frame (aside_frame aside) (moved.toRecast.denied (by simp [moved.waited]))
  | dispatch _ _ _ _ _ _ _ moved aside => exact h.frame (aside_frame aside) moved.denied
  | requestCancel _ _ _ moved aside => exact h.frame (aside_frame aside) moved.denied
  | cancelWaiting _ _ _ moved aside =>
    exact h.frame (aside_frame aside) (moved.toRecast.denied (by simp [moved.waited]))
  | neverEnqueued _ _ _ _ _ _ _ _ _ _ _ moved aside =>
    exact h.frame (aside ▸ ⟨rfl, rfl, rfl⟩) (moved.toRecast.denied (by simp [moved.running]))
  | evidenceGap _ _ _ _ moved aside => exact h.frame (aside_frame aside) moved.denied
  | operatorRequired _ _ _ _ moved aside => exact h.frame (aside_frame aside) moved.denied
  | reconcile _ _ _ _ _ _ _ _ _ moved aside =>
    exact h.frame (aside ▸ ⟨rfl, rfl, rfl⟩) (moved.denied coherent)
  | resolve _ _ _ _ _ moved aside =>
    exact h.frame (aside ▸ ⟨rfl, rfl, rfl⟩) (moved.denied coherent)
  | retire id r retirement transition _ _ checked unbarred _ moved aside =>
    obtain ⟨x, checked⟩ := retirable_of_ok checked
    obtain rfl : x = r := Option.some.inj (checked.old.symm.trans moved.old)
    exact h.retire coherent checked unbarred moved aside
  | rotate retired listed unheld _ moved aside =>
    exact h.rotate listed unheld (fun other => moved.denied (decide_eq_false other)) aside
  | resume _ _ _ raised source device accepted policy _ _ _ same aside =>
    exact h.resume raised ⟨source, device, accepted, policy⟩ (same.denied rfl) aside
  | attach _ _ _ _ _ _ moved aside => exact h.frame (aside_frame aside) moved.denied
  | prune deviceId generation _ _ _ moved aside =>
    refine h.frame (aside ▸ ⟨rfl, rfl, rfl⟩) fun {operation} was => moved.denied ?_ was
    -- Pruned records are settled, denied ones ambiguous.
    obtain ⟨x, old, -, ambiguous, -⟩ := was
    simp only [old, Option.any_some, isPrunable]
    have unsettled : x.state.isTerminal = false := by
      rw [Bool.eq_false_iff, ne_eq, isTerminal_iff, ambiguous]
      decide
    simp [unsettled]
  | _ =>
    rename_i moved aside
    exact h.frame (aside_frame aside) (moved.toRecast.denied (by simp [moved.running]))

theorem Accounted.moves (h : s.Accounted) (coherent : s.Coherent) (m : Moves care s s') :
    s'.Accounted := by
  induction m with
  | refl => exact h
  | tail first last ih => exact ih.move (coherent.moves first) last

/-! ### Rotation -/

/-- The admission ledger forgets the detail of denied work. -/
theorem Coherent.compact_eq (h : s.Coherent) (denied : s.Denied operation) :
    s.admission.compactRetiredIndeterminateDetail operation.operationId = .ok {s.admission with
      operations := s.admission.operations.erase operation.operationId
      recoveryReadOnlyOperations :=
        s.admission.recoveryReadOnlyOperations.erase operation.operationId} := by
  obtain ⟨x, old, -, ambiguous, retired⟩ := denied
  have seen : s.admission.operations[operation.operationId]? = some x.admitted := by
    rw [h.mirrored, old]
    rfl
  have unblocked : ¬(s.admission.blockedByIndeterminate.values.any fun blocked =>
      blocked = operation.operationId) = true := by
    intro blocking
    obtain ⟨blocked, mem, same⟩ := List.any_eq_true.mp blocking
    obtain ⟨d, found⟩ := mem_values.mp mem
    rw [of_decide_eq_true same] at found
    exact h.unretired_of_blocking found retired
  have state : x.admitted.state = .indeterminate := (eq_indeterminate_iff _).mpr ambiguous
  simp only [compactRetiredIndeterminateDetail, seen, state]
  rw [if_neg (not_not.mpr retired), if_neg (by simp [unblocked])]

/-- The ledger after one compaction. -/
def rotated (s : AuthoritativeOperationController) (retired : RetirementRecord) :
    AuthoritativeOperationController :=
  {s with
    admission := {s.admission with
      operations := s.admission.operations.erase retired.operation.operationId
      recoveryReadOnlyOperations :=
        s.admission.recoveryReadOnlyOperations.erase retired.operation.operationId}
    operations := s.operations.erase retired.operation.operationId
    retirements := s.retirements.erase retired
    mutationResumes :=
      if retired.policy = .acknowledgedUnknownPointerClickV1 then
        s.mutationResumes.eraseP (isResumeOf retired)
      else s.mutationResumes}

theorem forget_rotated {retired : RetirementRecord} (denied : s.Denied retired.operation) :
    Forget s (s.rotated retired) fun a => a = retired.operation.operationId := by
  obtain ⟨x, old, -, ambiguous, denied⟩ := denied
  constructor
  case operations => intro a; simp [rotated, get_erase, eq_comm]
  case admitted => intro a; simp [rotated, get_erase, eq_comm]
  case idle =>
    intro a y here found
    rw [of_decide_eq_true here, old, Option.some.injEq] at found
    exact .inr ⟨found ▸ ambiguous, of_decide_eq_true here ▸ denied⟩
  case retired => rfl
  case limits => rfl
  case active => rfl
  case blocked => rfl
  case queues => exact fun _ => rfl
  case recovery =>
    intro a
    rw [rotated, Std.ExtTreeSet.mem_erase, ne_eq, Std.LawfulEqCmp.compare_eq_iff_eq, and_comm,
      decide_eq_false_iff_not, eq_comm (a := a)]
  case quarantines => rfl

/-- One compaction succeeds unless every retirement holds a barrier. -/
theorem Coherent.rotateOldest_cases (h : s.Coherent) (care : Care) (accounted : s.Accounted) :
    (s.rotateOldest = (.error .invalidTransition, s) ∧
        ∀ retirement ∈ s.retirements, s.holdsBarrier retirement = true) ∨
      ∃ retired ∈ s.retirements, s.holdsBarrier retired = false ∧
        s.rotateOldest = (.ok (), s.rotated retired) ∧ Move care s (s.rotated retired) := by
  unfold rotateOldest
  split
  · next none_left =>
    left
    refine ⟨rfl, fun retirement mem => ?_⟩
    by_contra unheld
    have free : retirement ∈ s.retirements.filter fun retirement => !s.holdsBarrier retirement :=
      List.mem_filter.mpr ⟨mem, by simpa using unheld⟩
    obtain ⟨a, found⟩ := leastBy_isSome (List.ne_nil_of_mem free)
    rw [none_left] at found
    cases found
  · next retired found =>
    right
    obtain ⟨listed, unheld⟩ := List.mem_filter.mp (mem_of_leastBy found)
    rw [Bool.not_eq_true'] at unheld
    have denied := accounted.kept retired listed
    have answered : retired.policy = .acknowledgedUnknownPointerClickV1 →
        s.mutationResumes.any (isResumeOf retired) = true := by
      intro click
      rcases accounted.answered retired listed click with held | resumed
      · rw [unheld] at held
        cases held
      · exact resumed
    have present : retired.operation.operationId ∈ s.operations := by
      obtain ⟨x, old, -⟩ := denied
      exact mem_iff_get.mpr ⟨x, old⟩
    refine ⟨retired, listed, unheld, ?_,
      .rotate retired listed unheld answered (forget_rotated denied) rfl⟩
    rw [if_neg fun bad => bad.2 (answered bad.1)]
    simp only [h.compact_eq denied, if_pos present, rotated]

/-- A rotation is a sequence of moves, also when it fails. -/
theorem Coherent.rotate_moves (h : s.Coherent) (accounted : s.Accounted) (rounds : Nat) :
    Moves care s (rotateRetirementHistory rounds s).2 := by
  induction rounds generalizing s with
  | zero => exact .refl s
  | succ rounds ih =>
    rw [rotateRetirementHistory]
    split
    · exact .refl s
    · rcases h.rotateOldest_cases care accounted with ⟨failed, -⟩ | ⟨retired, -, -, rotated, moved⟩
      · rw [failed]
        exact .refl s
      · rw [rotated]
        exact moved.moves.trans (ih (h.move moved) (accounted.move h moved))

/-- What dropping one retirement leaves alone, a rotation leaves alone. -/
theorem rotateRetirementHistory_keeps {α : Type} {f : AuthoritativeOperationController → α}
    (one : ∀ s, f s.rotateOldest.2 = f s) (rounds : Nat) (s : AuthoritativeOperationController) :
    f (rotateRetirementHistory rounds s).2 = f s := by
  induction rounds generalizing s with
  | zero => rfl
  | succ rounds ih =>
    have first := one s
    rw [rotateRetirementHistory]
    split
    · rfl
    · split
      · next e s' eq => rwa [eq] at first
      · next s' eq => rw [ih s', ← first, eq]

/-- Each barrier is held by one retirement at most. -/
theorem Accounted.length_le_of_held (h : s.Accounted)
    (held : ∀ retirement ∈ s.retirements, s.holdsBarrier retirement = true) :
    s.retirements.length ≤ s.mutationResumeBarriers.size := by
  have sources : ∀ a ∈ s.retirements.map fun retirement => retirement.operation.operationId,
      a ∈ s.mutationResumeBarriers.values.map MutationResumeBarrier.sourceOperationId := by
    intro a mem
    obtain ⟨retirement, listed, rfl⟩ := List.mem_map.mp mem
    obtain ⟨d, barrier, up, source⟩ := holdsBarrier_iff.mp (held retirement listed)
    exact List.mem_map.mpr ⟨barrier, mem_values.mpr ⟨d, up⟩, source⟩
  have le := (List.subperm_of_subset h.once sources).length_le
  rwa [List.length_map, List.length_map, length_values] at le

/-- A rotation with few enough barriers brings the history within its bound. -/
theorem Coherent.rotate_ok (h : s.Coherent) (accounted : s.Accounted) (rounds : Nat)
    (enough : s.retirements.length ≤ rounds + maxRetirementRecords)
    (few : s.mutationResumeBarriers.size ≤ maxRetirementRecords) :
    (rotateRetirementHistory rounds s).1 = .ok () ∧
      (rotateRetirementHistory rounds s).2.retirements.length ≤ maxRetirementRecords := by
  induction rounds generalizing s with
  | zero => exact ⟨rfl, by rwa [Nat.zero_add] at enough⟩
  | succ rounds ih =>
    rw [rotateRetirementHistory]
    split
    · next within => exact ⟨rfl, within⟩
    · next crowds =>
      rcases h.rotateOldest_cases .none accounted with ⟨-, held⟩ | ⟨retired, listed, -, rotated, moved⟩
      · exact absurd ((accounted.length_le_of_held held).trans few) crowds
      · rw [rotated]
        refine ih (h.move moved) (accounted.move h moved) ?_ few
        have one := List.length_erase_of_mem listed
        rw [AuthoritativeOperationController.rotated]
        simp only [one]
        omega

/-! ### Rotation before promotion

The rotation runs when the admission ledger has promoted an operation and the
authoritative one has not. It does not matter: what rotates out is ambiguous, what
was promoted is not. -/

/-- Record a promotion. -/
def activated (s : AuthoritativeOperationController) (next : CompletionDecision) :
    AuthoritativeOperationController :=
  {s with operations := activateNext s.operations next}

/-- An operation a decision does not promote. -/
def Unpromoted (next : CompletionDecision) (id : String) : Prop :=
  ∀ operation, next = .startNext operation → operation.operationId ≠ id

theorem mem_activateNext {next : CompletionDecision} :
    id ∈ activateNext operations next ↔ id ∈ operations := by
  unfold activateNext
  split
  · rfl
  · next operation =>
    split
    · rfl
    · next record found =>
      rw [Std.ExtTreeMap.mem_insert, Std.LawfulEqCmp.compare_eq_iff_eq, or_iff_right_iff_imp]
      rintro rfl
      exact mem_iff_get.mpr ⟨record, found⟩

theorem activateNext_erase {next : CompletionDecision} (other : Unpromoted next id) :
    activateNext (operations.erase id) next = (activateNext operations next).erase id := by
  unfold activateNext
  split
  · rfl
  · next operation =>
    have ne : id ≠ operation.operationId := (other operation rfl).symm
    rw [get_erase_of_ne ne]
    split
    · rfl
    · exact (erase_insert_comm ne _).symm

theorem rotateOldest_activated (next : CompletionDecision)
    (other : ∀ retirement ∈ s.retirements, Unpromoted next retirement.operation.operationId) :
    (s.activated next).rotateOldest = (s.rotateOldest.1, s.rotateOldest.2.activated next) := by
  have holds : ∀ retirement, (s.activated next).holdsBarrier retirement = s.holdsBarrier retirement :=
    fun _ => rfl
  unfold rotateOldest
  simp only [holds, show (s.activated next).retirements = s.retirements from rfl]
  cases oldest : leastBy retiredAtMs
      (fun retirement => retirement.operation.operationId)
      (s.retirements.filter fun retirement => !s.holdsBarrier retirement) with
  | none => rfl
  | some retired =>
    have listed : retired ∈ s.retirements := (List.mem_filter.mp (mem_of_leastBy oldest)).1
    dsimp only [activated]
    by_cases unanswered : retired.policy = .acknowledgedUnknownPointerClickV1 ∧
        ¬s.mutationResumes.any (isResumeOf retired) = true
    · rw [if_pos unanswered]
      exact if_pos unanswered
    · rw [if_neg unanswered]
      refine (if_neg unanswered).trans ?_
      cases s.admission.compactRetiredIndeterminateDetail retired.operation.operationId with
      | error e => rfl
      | ok admission =>
        simp only [mem_activateNext, ← activateNext_erase (other retired listed)]
        by_cases present : retired.operation.operationId ∈ s.operations
        · simp only [if_pos present]
        · simp only [if_neg present]

theorem rotateOldest_retirements {answer : Except ExecutionError Unit}
    (rotated : s.rotateOldest = (answer, s')) : s'.retirements ⊆ s.retirements := by
  unfold rotateOldest at rotated
  split at rotated
  · cases rotated
    exact List.Subset.refl _
  · simp only at rotated
    repeat' split at rotated
    all_goals
      cases rotated
      exact List.erase_subset

/-- Rotating and then recording the promotion is recording it and then rotating. -/
theorem rotateRetirementHistory_activated (next : CompletionDecision) (rounds : Nat)
    (other : ∀ retirement ∈ s.retirements, Unpromoted next retirement.operation.operationId) :
    rotateRetirementHistory rounds (s.activated next) =
      ((rotateRetirementHistory rounds s).1, (rotateRetirementHistory rounds s).2.activated next) := by
  induction rounds generalizing s with
  | zero => rfl
  | succ rounds ih =>
    rw [rotateRetirementHistory, rotateRetirementHistory, rotateOldest_activated next other]
    simp only [show (s.activated next).retirements = s.retirements from rfl]
    split
    · rfl
    cases oldest : s.rotateOldest with
    | mk answer s' =>
      cases answer with
      | error e => rfl
      | ok _ =>
        refine ih fun retirement mem => other retirement ?_
        exact rotateOldest_retirements oldest mem

/-! ### Release -/

/-- The ledger once a retirement has freed its device. -/
def released (s : AuthoritativeOperationController) (id : String) (retirement : RetirementRecord)
    (nowMs : Nat) : AuthoritativeOperationController :=
  {s with
    admission := {s.admission with
      queuedByDevice :=
        if retirement.policy = .acknowledgedUnknownPointerClickV1 then
          s.admission.queuedByDevice.erase retirement.operation.deviceId
        else s.admission.queuedByDevice
      blockedByIndeterminate :=
        s.admission.blockedByIndeterminate.erase retirement.operation.deviceId
      retiredIndeterminate := s.admission.retiredIndeterminate.insert id}
    quarantines := s.quarantines.erase retirement.operation.deviceId
    retirements := s.retirements ++ [retirement]
    mutationResumeBarriers :=
      if retirement.policy = .acknowledgedUnknownPointerClickV1 then
        s.mutationResumeBarriers.insert retirement.operation.deviceId (barrierFor retirement nowMs)
      else s.mutationResumeBarriers}

/-- Nothing waits for a quarantined device. -/
theorem Coherent.queueOf_of_quarantined (h : s.Coherent) {d : String} {q : DesktopQuarantine}
    (held : s.quarantines[d]? = some q) : s.admission.queueOf d = [] := by
  rw [List.eq_nil_iff_forall_not_mem]
  intro op mem
  obtain ⟨waits, device⟩ := (h.waiting d op).mp mem
  rw [waitingOf, Option.bind_eq_some_iff] at waits
  obtain ⟨x, old, waits⟩ := waits
  unfold SafetyOperation.waits at waits
  split at waits
  · next waited =>
    have free := h.unquarantined_of_waiting old waited
    rw [Option.some.inj waits, device, held] at free
    cases free
  · cases waits

theorem Coherent.retire_released (h : s.Coherent) (checked : Retirable s id transition r retirement)
    (nowMs : Nat) : Retire s (s.released id retirement nowMs) id r := by
  obtain ⟨q, held, names, -⟩ := checked.quarantined
  constructor
  case old => exact checked.old
  case ambiguous => rw [checked.ambiguous]; rfl
  case blocking => rw [h.quarantined, held, Option.map_some, names]
  case queues =>
    intro d
    rw [queueOf, released]
    dsimp only
    split
    · rw [get_erase]
      split
      · next device =>
        have empty := h.queueOf_of_quarantined held
        rw [← checked.operation, device] at empty
        exact empty.symm
      · rfl
    · rfl
  case blocked => rw [released, checked.operation]
  case quarantines => rw [released, checked.operation]
  all_goals rfl

/-- The admission ledger lets a checked retirement through while there is room for its tombstone. -/
theorem Coherent.retirableOperation_eq (h : s.Coherent)
    (checked : Retirable s id transition r retirement) : s.admission.retirableOperation id =
      if s.admission.retiredIndeterminate.size ≥ maxRetiredOperationTombstones then
        .error .retirementCapacityExhausted
      else .ok r.admitted := by
  obtain ⟨q, held, names, -⟩ := checked.quarantined
  have seen : s.admission.operations[id]? = some r.admitted := by
    rw [h.mirrored, checked.old]
    rfl
  have blocking : s.admission.blockedByIndeterminate[r.operation.deviceId]? = some id := by
    rw [h.quarantined, held, Option.map_some, names]
  have fresh := h.unretired_of_blocking blocking
  simp only [retirableOperation, seen, admitted,
    checked.ambiguous]
  rw [if_neg (by simp [fresh]), if_neg (c := s.admission.blockedByIndeterminate[_]? ≠ _) (by simp [blocking])]

/-- A retirement is let through while a tombstone is left and no barrier is in the way. -/
structure Releasable (s : AuthoritativeOperationController) (retirement : RetirementRecord) : Prop where
  room : s.admission.retiredIndeterminate.size < maxRetiredOperationTombstones
  unbarred : retirement.policy = .acknowledgedUnknownPointerClickV1 →
    s.mutationResumeBarriers[retirement.operation.deviceId]? = none

section
variable (h : s.Coherent) (checked : Retirable s id transition r retirement)
include h checked

/-- An accepted pointer click frees its device to nobody. -/
theorem Coherent.releaseRetired_click (releasable : s.Releasable retirement)
    (click : retirement.policy = .acknowledgedUnknownPointerClickV1) (order : IterationOrder)
    (nowMs : Nat) : s.releaseRetired order id retirement nowMs =
      (.ok .idle, {s.released id retirement nowMs with
        quarantines := s.quarantines, retirements := s.retirements}) := by
  obtain ⟨q, held, -⟩ := checked.quarantined
  have empty : s.admission.queueOf r.admitted.operation.deviceId = [] := h.queueOf_of_quarantined held
  have retire_eq : s.admission.retireIndeterminateAndCancelQueued id =
      .ok ([], (s.released id retirement nowMs).admission) := by
    simp only [HubAdmissionController.retireIndeterminateAndCancelQueued,
      h.retirableOperation_eq checked, if_neg (Nat.not_le.mpr releasable.room), empty, released, if_pos click, checked.operation]
    rfl
  simp only [releaseRetired]
  rw [if_pos ⟨(accepted_of_click checked.valid click).1, click⟩,
    if_neg (not_mem_iff_get.mpr (releasable.unbarred click)), retire_eq]
  simp only [cancelDropped, released, if_pos click]

/-- Any other retirement frees its device to whoever is waiting elsewhere. -/
theorem Coherent.releaseRetired_transient (releasable : s.Releasable retirement)
    (transient : retirement.policy ≠ .acknowledgedUnknownPointerClickV1) (order : IterationOrder)
    (nowMs : Nat) : s.releaseRetired order id retirement nowMs =
      let promotion := (s.released id retirement nowMs).admission.promote order r.operation.deviceId
      (.ok promotion.1, {s with admission := promotion.2}) := by
  simp only [releaseRetired]
  rw [if_neg fun both => transient both.2]
  simp only [HubAdmissionController.retireIndeterminate, h.retirableOperation_eq checked,
    if_neg (Nat.not_le.mpr releasable.room), released,
    if_neg transient, checked.operation]
  rfl

/-- Any other retirement changes nothing. -/
theorem Coherent.releaseRetired_error (blocked : ¬s.Releasable retirement) (order : IterationOrder)
    (nowMs : Nat) : ∃ e, s.releaseRetired order id retirement nowMs = (.error e, s) := by
  by_cases full : s.admission.retiredIndeterminate.size ≥ maxRetiredOperationTombstones
  · simp only [releaseRetired, HubAdmissionController.retireIndeterminateAndCancelQueued,
      HubAdmissionController.retireIndeterminate, h.retirableOperation_eq checked]
    split
    · split <;> exact ⟨_, rfl⟩
    · exact ⟨_, rfl⟩
  · have click : retirement.policy = .acknowledgedUnknownPointerClickV1 := by
      by_contra transient
      exact blocked ⟨Nat.not_le.mp full, fun click => absurd click transient⟩
    have barred : retirement.operation.deviceId ∈ s.mutationResumeBarriers := by
      by_contra free
      exact blocked ⟨Nat.not_le.mp full, fun _ => not_mem_iff_get.mp free⟩
    refine ⟨.invalidTransition, ?_⟩
    simp only [releaseRetired]
    rw [if_pos ⟨(accepted_of_click checked.valid click).1, click⟩, if_pos barred]

end

/-- The ledger once the freed device is handed on, in both ledgers. -/
def handedOn (s : AuthoritativeOperationController) (order : IterationOrder) (id : String)
    (retirement : RetirementRecord) (nowMs : Nat) : AuthoritativeOperationController :=
  if retirement.policy = .acknowledgedUnknownPointerClickV1 then s.released id retirement nowMs
  else (s.released id retirement nowMs).promoted order retirement.operation.deviceId

theorem Coherent.released_move (h : s.Coherent)
    (ok : s.retirementFor id transition = .ok retirement) (releasable : s.Releasable retirement)
    (allowed : care.retires) (unresolved : care.legible → s.Unresolved id ∧ 0 < transition.nowMs) :
    Move care s (s.released id retirement transition.nowMs) := by
  obtain ⟨r, checked⟩ := retirable_of_ok ok
  exact .retire id r retirement transition allowed unresolved ok releasable.unbarred releasable.room
    (h.retire_released checked _) rfl

theorem Coherent.handedOn_moves (h : s.Coherent)
    (ok : s.retirementFor id transition = .ok retirement) (releasable : s.Releasable retirement)
    (order : IterationOrder) (allowed : care.retires)
    (unresolved : care.legible → s.Unresolved id ∧ 0 < transition.nowMs) :
    Moves care s (s.handedOn order id retirement transition.nowMs) := by
  have first := h.released_move ok releasable allowed unresolved
  unfold handedOn
  split
  · exact first.moves
  · exact first.moves.trans ((h.move first).promoted_moves care order _)

/-- What the admission ledger promotes was waiting, so no listed retirement is about it. -/
theorem Coherent.unpromoted (h : s.Coherent) (denied : s.Denied operation) (order : IterationOrder)
    (deviceId : String) :
    Unpromoted (s.admission.promote order deviceId).1 operation.operationId := by
  rintro head promoted same
  rcases s.admission.promote_cases order deviceId with
    ⟨queues, found, -⟩ | ⟨queues, device, head', rest, found, queue, -⟩
  · rw [found] at promoted
    cases promoted
  · rw [found] at promoted
    cases promoted
    obtain ⟨x, old, -, ambiguous, -⟩ := denied
    have waits := ((h.waiting device head).mp (by simp [queue])).1
    rw [same, waitingOf_of_get old,
      waits_of_not_waiting (by simp [ambiguous])] at waits
    cases waits

/-- A retirement that passes its checks hands the device on and rotates the history. Only a
pointer click can fail in the rotation without the ledgers drifting. -/
theorem Coherent.retire_eq (h : s.Coherent) (accounted : s.Accounted)
    (ok : s.retirementFor id transition = .ok retirement) (releasable : s.Releasable retirement)
    (order : IterationOrder) (rotates : retirement.policy = .acknowledgedUnknownPointerClickV1 ∨
      (rotateRetirementHistory (s.retirements.length + 1)
        (s.handedOn order id retirement transition.nowMs)).1 = .ok ()) :
    let rotation := rotateRetirementHistory (s.retirements.length + 1)
      (s.handedOn order id retirement transition.nowMs)
    ∃ next, s.retireIndeterminateWithDisposition order id transition =
      (rotation.1.map fun _ => (next, retirement), rotation.2) := by
  obtain ⟨r, checked⟩ := retirable_of_ok ok
  unfold retireIndeterminateWithDisposition
  rw [ok]
  by_cases click : retirement.policy = .acknowledgedUnknownPointerClickV1
  · refine ⟨.idle, ?_⟩
    simp only [h.releaseRetired_click checked releasable click, handedOn, if_pos click]
    have length : (s.retirements ++ [retirement]).length = s.retirements.length + 1 := by simp
    simp only [length]
    rw [show {s.released id retirement transition.nowMs with
      quarantines := s.quarantines.erase retirement.operation.deviceId,
      retirements := s.retirements ++ [retirement]} = s.released id retirement transition.nowMs from rfl]
    cases rotateRetirementHistory (s.retirements.length + 1)
        (s.released id retirement transition.nowMs) with
    | mk answer s' => cases answer <;> rfl
  · -- The rotation runs on `pending`, where the promotion is not recorded yet.
    have ok' := rotates.resolve_left click
    have first : Move .none s _ := h.released_move ok releasable trivial False.elim
    set promotion := (s.released id retirement transition.nowMs).admission.promote order
      r.operation.deviceId with promotion_eq
    set pending : AuthoritativeOperationController :=
      {s.released id retirement transition.nowMs with admission := promotion.2} with pending_eq
    have handed : s.handedOn order id retirement transition.nowMs = pending.activated promotion.1 := by
      rw [handedOn, if_neg click, checked.operation]
      rfl
    have commutes := rotateRetirementHistory_activated (s := pending) promotion.1
      (s.retirements.length + 1) fun x mem =>
        (h.move first).unpromoted (((accounted.move h first)).kept x mem) order _
    rw [handed, commutes] at ok' ⊢
    refine ⟨promotion.1, ?_⟩
    have length : (s.retirements ++ [retirement]).length = s.retirements.length + 1 := by simp
    simp only [h.releaseRetired_transient checked releasable click, length]
    rw [show {s with
      admission := promotion.2,
      quarantines := s.quarantines.erase retirement.operation.deviceId,
      retirements := s.retirements ++ [retirement]} = pending by
        simp only [pending_eq, released, if_neg click]]
    cases rotation : rotateRetirementHistory (s.retirements.length + 1) pending with
    | mk answer s' =>
      rw [rotation] at ok'
      cases ok'
      rfl

/-- A retirement other than an accepted pointer click, let through while the barriers fill
more than the whole history, whose rotation therefore fails after the promotion. -/
def Overfull (s : AuthoritativeOperationController) (id : String)
    (transition : RetirementTransition) : Prop :=
  ∃ retirement, s.retirementFor id transition = .ok retirement ∧ s.Releasable retirement ∧
    retirement.policy ≠ .acknowledgedUnknownPointerClickV1 ∧
    maxRetirementRecords < s.mutationResumeBarriers.size

theorem Coherent.rotate_handedOn (h : s.Coherent) (accounted : s.Accounted)
    (ok : s.retirementFor id transition = .ok retirement) (releasable : s.Releasable retirement)
    (order : IterationOrder)
    (few : (s.released id retirement transition.nowMs).mutationResumeBarriers.size ≤
      maxRetirementRecords) :
    let rotation := rotateRetirementHistory (s.retirements.length + 1)
      (s.handedOn order id retirement transition.nowMs)
    rotation.1 = .ok () ∧ rotation.2.retirements.length ≤ maxRetirementRecords := by
  have moves : Moves .none s _ := h.handedOn_moves ok releasable order trivial False.elim
  have same : (s.handedOn order id retirement transition.nowMs).retirements =
      s.retirements ++ [retirement] ∧
      (s.handedOn order id retirement transition.nowMs).mutationResumeBarriers =
        (s.released id retirement transition.nowMs).mutationResumeBarriers := by
    unfold handedOn
    split <;> exact ⟨rfl, rfl⟩
  refine (h.moves moves).rotate_ok (accounted.moves h moves) _ ?_ ?_
  · rw [same.1, List.length_append]
    exact Nat.le_add_right _ _
  · rw [same.2]
    exact few

/-- A retirement changes nothing, or is a sequence of moves. -/
theorem Coherent.retire_cases (h : s.Coherent) (care : Care) (accounted : s.Accounted)
    (order : IterationOrder) (transition : RetirementTransition)
    (fits : ¬s.Overfull id transition) (allowed : care.retires)
    (unresolved : care.legible → ∀ retirement, s.retirementFor id transition = .ok retirement →
      s.Unresolved id ∧ 0 < transition.nowMs) :
    (∃ e, s.retireIndeterminateWithDisposition order id transition = (.error e, s)) ∨
      ∃ retirement next, s.retirementFor id transition = .ok retirement ∧
        s.Releasable retirement ∧
        let rotation := rotateRetirementHistory (s.retirements.length + 1)
          (s.handedOn order id retirement transition.nowMs)
        s.retireIndeterminateWithDisposition order id transition =
          (rotation.1.map fun _ => (next, retirement), rotation.2) ∧ Moves care s rotation.2 := by
  cases ok : s.retirementFor id transition with
  | error e =>
    left
    refine ⟨e, ?_⟩
    unfold retireIndeterminateWithDisposition
    rw [ok]
  | ok retirement =>
    by_cases releasable : s.Releasable retirement
    · right
      have rotates : retirement.policy = .acknowledgedUnknownPointerClickV1 ∨
          (rotateRetirementHistory (s.retirements.length + 1)
            (s.handedOn order id retirement transition.nowMs)).1 = .ok () := by
        by_cases click : retirement.policy = .acknowledgedUnknownPointerClickV1
        · exact .inl click
        · refine .inr (h.rotate_handedOn accounted ok releasable order ?_).1
          simp only [released, if_neg click]
          exact Nat.not_lt.mp fun crowds => fits ⟨retirement, ok, releasable, click, crowds⟩
      obtain ⟨next, eq⟩ := h.retire_eq accounted ok releasable order rotates
      have moves := h.handedOn_moves ok releasable order allowed
        fun legible => unresolved legible retirement ok
      exact ⟨retirement, next, rfl, releasable, eq,
        moves.trans ((h.moves moves).rotate_moves (accounted.moves h moves) _)⟩
    · left
      obtain ⟨r, checked⟩ := retirable_of_ok ok
      obtain ⟨e, failed⟩ := h.releaseRetired_error checked releasable order transition.nowMs
      refine ⟨e, ?_⟩
      unfold retireIndeterminateWithDisposition
      rw [ok]
      simp only [failed]

/-! ### Resumption -/

theorem resume_moves {deviceId sourceOperationId reason : String} {authority : RetirementAuthority}
    {authorizedDeviceGeneration nowMs : Nat} (allowed : care.resumes deviceId)
    (ok : s.resumeMutations deviceId sourceOperationId authority authorizedDeviceGeneration reason
      nowMs = .ok (record, s')) : Moves care s s' := by
  obtain ⟨-, ok⟩ := guard_eq_ok.mp ok
  split at ok
  · cases ok
  · next barrier raised =>
    simp only [guard_eq_ok] at ok
    obtain ⟨-, accepted, ok⟩ := ok
    rw [not_or, not_not] at accepted
    cases ok
    refine Move.moves (.resume deviceId barrier _ raised rfl rfl rfl rfl accepted.1
      (Nat.lt_of_not_le accepted.2) allowed ?_ rfl)
    constructor <;> simp

end AuthoritativeOperationController

end Gateway.Execution
