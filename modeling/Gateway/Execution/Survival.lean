import Gateway.Execution.Histories
import Gateway.Execution.Quarantine

/-! A ledger that survives its own restart.

What a restart leaves behind is a ledger of settled and ambiguous records. Written
out and checked statement by statement, such a ledger is read back as it was. -/
namespace Gateway.Execution
open Data Device HubOperationState ReplayDenyTombstone SafetyOperation Table MutationResumeBarrier

/-! ### One record -/

namespace SafetyOperation
variable {r : SafetyOperation}

theorem Sound.validReconciliationState (h : r.Sound) (done : r.state.isUnsettled = false) :
    validReconciliationState r.state r.reconciliationStatus r.dispatchBinding = true := by
  have settled : r.state.phase = .settled → r.reconciliationStatus = none ∨
      r.reconciliationStatus = some .autoResolved ∧ r.dispatchBinding.isSome = true :=
    fun phase => (h.settled phase).elim fun _ by_ => by_.status
  cases state : r.state <;> rw [state] at done settled <;> cases done
  case indeterminate =>
    obtain ⟨status, eq, unrecovered | ⟨rfl, bound⟩⟩ := (h.ambiguous (by rw [state]; rfl)).status
    · rw [eq]
      cases status <;> cases unrecovered <;> rfl
    · rw [eq]
      exact bound
  all_goals
    rcases settled rfl with none | ⟨resolved, bound⟩
    · rw [none]; rfl
    · rw [resolved]; exact bound

/-- A sound record that is done can be read back on its own. -/
theorem Sound.isRestorable (h : r.Sound) (done : r.state.isUnsettled = false)
    (reads : r.executionLane = .recoveryEvidenceRead → r.capability.isRecoveryEvidenceReadOnly = true ∧
      r.state.phase ≠ .ambiguous ∧ r.dispatchBinding = none) : r.isRestorable = true := by
  have cases : r.state.phase = .settled ∨ r.state.phase = .ambiguous := by
    cases state : r.state <;> rw [state] at done <;> cases done <;> decide
  have result : r.recoverableResult.all (fun result =>
      r.receipt.isSome && result.isValidFor r.capability r.state) = true := by
    rcases cases with phase | phase
    · obtain ⟨receipt, settled⟩ := h.settled phase
      simpa only [settled.carried, Option.isSome_some, Bool.true_and] using settled.result
    · rw [(h.ambiguous phase).result]
      rfl
  have open_ : (r.state = .indeterminate && r.recoverableResult.isSome : Bool) = false := by
    rcases cases with phase | phase
    · have known : r.state ≠ .indeterminate := fun state => by rw [state] at phase; cases phase
      simp [known]
    · simp [(h.ambiguous phase).result]
  have receipt : r.receipt.all r.receiptFits = true := by
    rcases cases with phase | phase
    · obtain ⟨receipt, settled⟩ := h.settled phase
      rw [settled.carried]
      exact settled.fits
    · rw [(h.ambiguous phase).receipt]
      rfl
  have lane : (r.executionLane = .recoveryEvidenceRead &&
      (!r.capability.isRecoveryEvidenceReadOnly || r.state = .indeterminate ||
        r.dispatchBinding.isSome || r.reconciliationStatus.isSome) : Bool) = false := by
    cases lane : r.executionLane with
    | normal => rfl
    | recoveryEvidenceRead =>
      obtain ⟨observes, known, unbound⟩ := reads lane
      obtain ⟨receipt, settled⟩ := h.settled (cases.resolve_right known)
      have status : r.reconciliationStatus = none := by
        rcases settled.status with none | ⟨-, bound⟩
        · exact none
        · rw [unbound] at bound
          cases bound
      have state : r.state ≠ .indeterminate := fun state => known (by rw [state]; rfl)
      simp [observes, state, unbound, status]
  have labelled := h.labelled
  simp only [OperationAdmissionMetadata.isValid, metadata, Bool.and_eq_true] at labelled
  obtain ⟨⟨⟨⟨⟨audit, fingerprint⟩, envelope⟩, target⟩, targeted⟩, constraint⟩ := labelled
  have surplus : (r.recoveryTarget.isSome && !r.recoveryTargetRequired) = false := by
    rw [h.target]
    cases present : r.recoveryTarget with
    | none => rfl
    | some t =>
      rw [present] at targeted
      cases t <;> cases capability : r.capability <;> rw [capability] at targeted <;>
        first | rfl | cases targeted
  rw [← h.target] at target
  simp only [SafetyOperation.isRestorable, done, result, open_, audit, fingerprint, envelope, target,
    surplus, targeted, constraint, h.bound, h.validReconciliationState done, lane, receipt]
  rfl

end SafetyOperation

/-- An admission ledger is written with its operations and without retired ids in clear. -/
theorem HubAdmissionController.of_snapshotForRestart {c : HubAdmissionController}
    {snapshot : HubAdmissionSnapshot} (taken : c.snapshotForRestart = some snapshot) :
    snapshot.operations = c.snapshotOperations ∧ snapshot.retiredIndeterminateOperationIds = [] := by
  simp only [snapshotForRestart, Option.map_eq_some_iff] at taken
  obtain ⟨_, -, rfl⟩ := taken
  exact ⟨rfl, rfl⟩

/-- The current version admits everything but retired ids in clear. -/
theorem AuthoritativeSafetySnapshot.versionAdmits_of_current {snapshot : AuthoritativeSafetySnapshot}
    (current : snapshot.schemaVersion = executionSafetySchemaVersion)
    (clear : snapshot.admission.retiredIndeterminateOperationIds = []) :
    snapshot.versionAdmits = true := by
  simp [versionAdmits, current, clear, executionSafetySchemaVersion,
    recoveryTargetExecutionSafetySchemaVersion, mutationResumeExecutionSafetySchemaVersion,
    semanticConstraintExecutionSafetySchemaVersion, replayTombstoneExecutionSafetySchemaVersion,
    currentStateAcceptanceExecutionSafetySchemaVersion, effectfulRecoveryExecutionSafetySchemaVersion,
    recoveryEvidenceReadExecutionSafetySchemaVersion, evidenceEnvelopeExecutionSafetySchemaVersion,
    partialInputExecutionSafetySchemaVersion, retirementExecutionSafetySchemaVersion,
    reconciliationExecutionSafetySchemaVersion, auditExecutionSafetySchemaVersion,
    legacyExecutionSafetySchemaVersion]

namespace AuthoritativeOperationController
variable {care : Care} {s s' t : AuthoritativeOperationController} {id : String}
  {r r' : SafetyOperation}

/-! ### A whole ledger -/

/-- A ledger whose every statement can be read back. -/
structure Readable (s : AuthoritativeOperationController) : Prop where
  orderly : s.Orderly
  reads : s.ReadsClean
  writable : s.Writable
  documented : s.Documented
  barred : s.Barred
  resumed : s.Resumed
  autoSettled : s.AutoSettled

theorem readable_empty (limits : AdmissionLimits) : (empty limits).Readable where
  orderly := orderly_empty limits
  reads := readsClean_empty limits
  writable := writable_empty limits
  documented := documented_empty limits
  barred := barred_empty limits
  resumed := resumed_empty limits
  autoSettled := autoSettled_empty limits

theorem Readable.move (h : s.Readable) (careful : care.Whole) (m : Move care s s') :
    s'.Readable where
  orderly := h.orderly.moves m.moves
  reads := h.reads.move h.orderly.coherent careful.legible m
  writable := h.writable.move h.orderly.coherent m
  documented := h.documented.move h.orderly careful.legible careful.freezing m
  barred := h.barred.move h.orderly.coherent careful.legible m
  resumed := h.resumed.move h.orderly m
  autoSettled := h.autoSettled.move h.orderly careful.legible careful.filing m

theorem Readable.moves (h : s.Readable) (careful : care.Whole) (m : Moves care s s') :
    s'.Readable :=
  m.invariant (fun h last => h.move careful last) h

/-- Nothing waits and nothing runs. -/
def Done (s : AuthoritativeOperationController) : Prop :=
  ∀ (id : String) (r : SafetyOperation), s.operations[id]? = some r → r.state.isUnsettled = false

/-- A ledger without unsettled work, as it is written. -/
def written (t : AuthoritativeOperationController) (admission : HubAdmissionSnapshot) :
    AuthoritativeSafetySnapshot where
  schemaVersion := executionSafetySchemaVersion
  admission := admission
  operations := sortBy (fun record => record.operation.operationId) t.operations.values
  recoveries := sortBy (fun archived => archived.operation.operationId) t.recoveryArchive.values
  quarantines := sortBy DesktopQuarantine.deviceId t.quarantines.values
  resolutions := t.resolutions
  autoResolutions := t.autoResolutions
  retirements := t.retirements
  mutationResumeBarriers := sortBy deviceId t.mutationResumeBarriers.values
  mutationResumes := t.mutationResumes

/-- A table written in the order of its own key and accepted entry by entry. -/
theorem collect_sorted {V : Type} {key : V → String} {accept : V → Bool} {t : Table V}
    (keyed : ∀ (k : String) (v : V), t[k]? = some v → key v = k)
    (accepted : ∀ (k : String) (v : V), t[k]? = some v → accept v = true) :
    collect key accept (sortBy key t.values) ∅ = some t := by
  have perm : (sortBy key t.values).Perm (t.values.map id) := by
    rw [List.map_id]
    exact sortBy_perm _ _
  rw [collect_values (f := id) keyed perm accepted]
  exact congrArg some (map_values_id t)

theorem Readable.isRestorable (h : t.Readable) (done : t.Done) (found : t.operations[id]? = some r) :
    r.isRestorable = true := by
  refine (h.orderly.sound id r found).isRestorable (done id r found) fun lane => ?_
  obtain ⟨observes, -, known⟩ := h.orderly.coherent.reading id r found lane
  exact ⟨observes, known, (h.reads id r found lane).1⟩

theorem Readable.mirrors (h : t.Readable) (done : t.Done) :
    AuthoritativeSafetySnapshot.mirrors t.admission t.operations = true := by
  have same : ∀ {id : String} {r : SafetyOperation}, t.operations[id]? = some r → r.afterRestart = r :=
    fun found => (h.orderly.sound _ _ found).afterRestart_eq (done _ _ found)
  simp only [AuthoritativeSafetySnapshot.mirrors, Bool.and_eq_true, decide_eq_true_eq, List.all_eq_true]
  constructor
  · rw [h.orderly.coherent.snapshotOperations_perm.length_eq, List.length_map, length_values]
  · intro admitted mem
    obtain ⟨a, r, found, rfl⟩ := h.orderly.coherent.mem_snapshotOperations.mp mem
    rw [same found]
    simp only [admitted]
    rw [h.orderly.coherent.keyed a r found, found]
    simp

/-- The operation behind a quarantine is ambiguous and not denied. -/
theorem Orderly.quarantined_record (h : t.Orderly) {d : String} {q : DesktopQuarantine}
    (held : t.quarantines[d]? = some q) :
    ∃ r, t.operations[q.operationId]? = some r ∧ r.state = .indeterminate ∧
      r.operation.deviceId = d ∧ r.operation.deviceGeneration = q.deviceGeneration ∧
      r.owner = q.owner ∧ q.operationId ∉ t.admission.retiredIndeterminate := by
  obtain ⟨-, r, found, device, generation, owner⟩ := h.filed.quarantine d q held
  have blocking : t.admission.blockedByIndeterminate[d]? = some q.operationId := by
    rw [h.coherent.quarantined, held, Option.map_some]
  have blocks := (h.coherent.blocked d q.operationId).mp blocking
  rw [blockOf_of_get found, SafetyOperation.blocks] at blocks
  split at blocks
  · next both =>
    exact ⟨r, found, (eq_indeterminate_iff _).mpr both.1, device, generation, owner, both.2⟩
  · cases blocks

theorem Orderly.quarantineFits (h : t.Orderly) {d : String} {q : DesktopQuarantine}
    (held : t.quarantines[d]? = some q) :
    AuthoritativeSafetySnapshot.quarantineFits t.operations q = true := by
  obtain ⟨r, found, ambiguous, device, generation, owner, -⟩ := h.quarantined_record held
  rw [AuthoritativeSafetySnapshot.quarantineFits, found]
  simp [ambiguous, device, generation, owner, (h.filed.quarantine d q held).1]

variable {admission : HubAdmissionSnapshot}

theorem Readable.retirementFits (h : t.Readable) {retirement : RetirementRecord}
    (mem : retirement ∈ t.retirements) :
    (t.written admission).retirementFits t.operations t.quarantines retirement = true := by
  obtain ⟨r, told⟩ := h.documented retirement mem
  obtain ⟨x, found, operation, ambiguous, retired⟩ := h.orderly.accounted.kept retirement mem
  obtain rfl : r = x := Option.some.inj (told.found.symm.trans found)
  have sound := h.orderly.sound _ r found
  have state := (eq_indeterminate_iff _).mpr ambiguous
  have unresolved : (t.resolutions.any fun resolution =>
      resolution.operationId = retirement.operation.operationId) = false := by
    simp only [List.any_eq_false, decide_eq_true_eq]
    exact told.unresolved
  have unsettled : (t.autoResolutions.any fun resolution =>
      resolution.operation.operationId = retirement.operation.operationId) = false := by
    simp only [List.any_eq_false, decide_eq_true_eq]
    exact h.autoSettled.unlisted found (not_autoResolved sound (by rw [ambiguous]; decide))
  have freed : (t.quarantines.values.any fun quarantine =>
      quarantine.operationId = retirement.operation.operationId) = false := by
    simp only [List.any_eq_false, decide_eq_true_eq]
    intro q filed same
    obtain ⟨d, held⟩ := mem_values.mp filed
    obtain ⟨-, -, -, -, -, -, live⟩ := h.orderly.quarantined_record held
    exact live (same ▸ retired)
  simp only [AuthoritativeSafetySnapshot.retirementFits, written, told.valid, unresolved, unsettled,
    found, Option.any_some, state, operation, told.capability, told.reason, told.prior,
    (sound.ambiguous ambiguous).receipt, (sound.ambiguous ambiguous).result, freed]
  decide

theorem Orderly.ambiguityFits (h : t.Orderly) (found : t.operations[id]? = some r) :
    AuthoritativeSafetySnapshot.ambiguityFits t.admission.retiredIndeterminate t.quarantines r =
      true := by
  by_cases state : r.state = .indeterminate
  · have key := h.coherent.keyed id r found
    have ambiguous := (eq_indeterminate_iff _).mp state
    simp only [AuthoritativeSafetySnapshot.ambiguityFits, state, ne_eq, not_true_eq_false, decide_false,
      Bool.false_or, bne_iff_ne, key]
    by_cases retired : id ∈ t.admission.retiredIndeterminate
    · rw [decide_eq_true retired, eq_comm, Bool.not_eq_true]
      cases held : t.quarantines[r.operation.deviceId]? with
      | none => rfl
      | some q =>
        obtain ⟨-, -, -, -, -, -, live⟩ := h.quarantined_record held
        have other : q.operationId ≠ id := fun same => live (same ▸ retired)
        simp [other]
    · rw [decide_eq_false retired, eq_comm]
      have blocks : t.blockOf id = some r.operation.deviceId := by
        rw [blockOf_of_get found, SafetyOperation.blocks, if_pos ⟨ambiguous, retired⟩]
      have blocking := (h.coherent.blocked _ _).mpr blocks
      rw [h.coherent.quarantined, Option.map_eq_some_iff] at blocking
      obtain ⟨q, held, names⟩ := blocking
      obtain ⟨x, found', -, -, generation, -⟩ := h.quarantined_record held
      rw [names, found, Option.some.injEq] at found'
      rw [held, Option.any_some, names, ← generation, found']
      simp
  · simp [AuthoritativeSafetySnapshot.ambiguityFits, state]

theorem Readable.retirementsFit (h : t.Readable) (few : t.retirements.length ≤ maxRetirementRecords) :
    (t.written admission).retirementsFit t.admission.retiredIndeterminate t.operations t.quarantines =
      true := by
  have all : t.retirements.all ((t.written admission).retirementFits t.operations t.quarantines) = true :=
    List.all_eq_true.mpr fun x mem => h.retirementFits mem
  have denied : ((t.retirements.map fun retirement => retirement.operation.operationId).all fun id =>
      decide (id ∈ t.admission.retiredIndeterminate)) = true := by
    simp only [List.all_eq_true, List.mem_map, decide_eq_true_eq]
    rintro _ ⟨x, mem, rfl⟩
    exact (h.orderly.accounted.kept x mem).elim fun _ told => told.2.2.2
  have open_ : t.operations.values.all (AuthoritativeSafetySnapshot.ambiguityFits
      t.admission.retiredIndeterminate t.quarantines) = true := by
    rw [List.all_eq_true]
    intro r mem
    obtain ⟨a, found⟩ := mem_values.mp mem
    exact h.orderly.ambiguityFits found
  simp only [AuthoritativeSafetySnapshot.retirementsFit]
  rw [show (t.written admission).retirements = t.retirements from rfl,
    show (t.written admission).mutationResumes = t.mutationResumes from rfl, all, denied, open_,
    decide_eq_true h.orderly.accounted.once, decide_eq_true few, decide_eq_true h.resumed.few]
  rfl

theorem Readable.barrierFits (h : t.Readable) {d : String} {barrier : MutationResumeBarrier}
    (up : t.mutationResumeBarriers[d]? = some barrier) :
    (t.written admission).barrierFits t.quarantines barrier = true := by
  obtain ⟨keyed, retirement, mem, raised⟩ := h.orderly.accounted.raised d barrier up
  have raises : t.retirements.any (fun retirement => retirement.raised barrier) = true :=
    List.any_eq_true.mpr ⟨retirement, mem, raised⟩
  have clear : barrier.deviceId ∉ t.quarantines := by
    rw [keyed]
    exact not_mem_iff_get.mpr (h.barred.clear d barrier up).unquarantined
  simp only [AuthoritativeSafetySnapshot.barrierFits, h.barred.valid d barrier up, written, raises]
  simpa using clear

/-- Two barriers of one source were raised by one retirement, on its device. -/
theorem Readable.resumesFit (h : t.Readable) : (t.written admission).resumesFit = true := by
  set sources := (sortBy deviceId t.mutationResumeBarriers.values).map
    sourceOperationId with sources_eq
  have mem_sources : ∀ a : String, a ∈ sources ↔ ∃ (d : String) (b : MutationResumeBarrier),
      t.mutationResumeBarriers[d]? = some b ∧ b.sourceOperationId = a := by
    intro a
    simp only [sources_eq, List.mem_map, mem_sortBy, mem_values]
    constructor
    · rintro ⟨b, ⟨d, up⟩, source⟩
      exact ⟨d, b, up, source⟩
    · rintro ⟨d, b, up, source⟩
      exact ⟨b, ⟨d, up⟩, source⟩
  have barriers : sources.Nodup := by
    rw [((sortBy_perm _ _).map _).nodup_iff]
    exact nodup_values_map fun up up' same => h.orderly.accounted.barrier_unique up up' same
  have resumes : (t.mutationResumes.all fun resume => resume.isValid &&
      t.retirements.any (fun retirement => retirement.precedes resume) &&
      decide (resume.sourceOperationId ∉ sources)) = true := by
    simp only [List.all_eq_true, Bool.and_eq_true, decide_eq_true_eq, List.any_eq_true]
    intro x mem
    refine ⟨⟨h.resumed.valid x mem, h.resumed.preceded x mem⟩, fun raised => ?_⟩
    obtain ⟨d, b, up, source⟩ := (mem_sources _).mp raised
    exact h.resumed.lifted x mem d b up source
  have answered : (t.retirements.all fun retirement =>
      retirement.policy ≠ .acknowledgedUnknownPointerClickV1 ||
      decide (retirement.operation.operationId ∈ sources) ||
      decide (retirement.operation.operationId ∈
        t.mutationResumes.map MutationResumeRecord.sourceOperationId)) = true := by
    simp only [List.all_eq_true, Bool.or_eq_true, decide_eq_true_eq]
    intro x mem
    by_cases click : x.policy = .acknowledgedUnknownPointerClickV1
    · rcases h.orderly.accounted.answered x mem click with raised | resumed
      · obtain ⟨d, b, up, source⟩ := holdsBarrier_iff.mp raised
        exact .inl (.inr ((mem_sources _).mpr ⟨d, b, up, source⟩))
      · obtain ⟨resume, listed, of_⟩ := List.any_eq_true.mp resumed
        exact .inr (List.mem_map.mpr ⟨resume, listed, (isResumeOf_iff.mp of_).1⟩)
    · exact .inl (.inl click)
  simp only [AuthoritativeSafetySnapshot.resumesFit, Bool.and_eq_true]
  exact ⟨⟨⟨decide_eq_true barriers, decide_eq_true h.resumed.once⟩, resumes⟩, answered⟩

theorem Readable.autoResolutionsFit (h : t.Readable) :
    (t.written admission).autoResolutionsFit t.operations = true := by
  have valid : t.autoResolutions.all AutoResolutionRecord.isValid = true :=
    List.all_eq_true.mpr h.autoSettled.valid
  have told : (t.operations.values.all fun record =>
      record.reconciliationStatus ≠ some .autoResolved ||
        (t.autoResolutions.find? fun history =>
          history.operation.operationId = record.operation.operationId).any (·.settles record)) =
      true := by
    simp only [List.all_eq_true, Bool.or_eq_true, decide_eq_true_eq]
    intro r mem
    obtain ⟨a, found⟩ := mem_values.mp mem
    by_cases status : r.reconciliationStatus = some .autoResolved
    · right
      obtain ⟨history, listed, settles⟩ := h.autoSettled.told a r found status
      cases first : t.autoResolutions.find? fun history =>
          history.operation.operationId = r.operation.operationId with
      | none =>
        have none := List.find?_eq_none.mp first history listed
        rw [decide_eq_true_eq] at none
        exact absurd (by rw [(settles_iff.mp settles).2.1]) none
      | some x =>
        have names := List.find?_some first
        rw [decide_eq_true_eq, h.orderly.coherent.keyed a r found] at names
        exact h.autoSettled.agrees x (List.mem_of_find?_eq_some first) r (names ▸ found)
    · exact .inl status
  have agrees : (t.autoResolutions.all fun history =>
      t.operations[history.operation.operationId]?.all history.settles) = true := by
    rw [List.all_eq_true]
    intro x mem
    cases found : t.operations[x.operation.operationId]? with
    | none => rfl
    | some r => exact h.autoSettled.agrees x mem r found
  simp only [AuthoritativeSafetySnapshot.autoResolutionsFit, Bool.and_eq_true]
  exact ⟨⟨⟨⟨decide_eq_true h.autoSettled.few, valid⟩, decide_eq_true h.autoSettled.once⟩, told⟩, agrees⟩

/-- A readable ledger without unsettled work is read back as it was. -/
theorem Readable.restoreLedger_eq (h : t.Readable) (done : t.Done)
    (few : t.retirements.length ≤ maxRetirementRecords) :
    restoreLedger t.admission (t.written admission) = some t := by
  have operations : collect (fun record : SafetyOperation => record.operation.operationId)
      SafetyOperation.isRestorable (t.written admission).operations ∅ = some t.operations :=
    collect_sorted h.orderly.coherent.keyed fun _ _ found => h.isRestorable done found
  have archive : collect
      (fun archived : ArchivedOperationRecovery => archived.operation.operationId)
      (fun archived => archived.isValid && archived.operation.operationId ∉ t.operations)
      (t.written admission).recoveries ∅ = some t.recoveryArchive := by
    refine collect_sorted (fun a entry found => (h.orderly.filed.archived a entry found).1)
      fun a entry found => ?_
    obtain ⟨names, valid, gone⟩ := h.orderly.filed.archived a entry found
    rw [valid, Bool.true_and, decide_eq_true_eq, names]
    exact not_mem_iff_get.mpr gone
  have quarantines : collect DesktopQuarantine.deviceId
      (AuthoritativeSafetySnapshot.quarantineFits t.operations) (t.written admission).quarantines ∅ =
        some t.quarantines :=
    collect_sorted (fun d q held => (h.orderly.filed.quarantine d q held).1) fun _ _ held =>
      h.orderly.quarantineFits held
  have barriers : collect deviceId
      ((t.written admission).barrierFits t.quarantines)
      (t.written admission).mutationResumeBarriers ∅ = some t.mutationResumeBarriers :=
    collect_sorted (fun d b up => (h.orderly.accounted.raised d b up).1) fun _ _ up => h.barrierFits up
  simp only [restoreLedger, operations, archive, quarantines, barriers, Option.bind_eq_bind,
    Option.bind_some, h.mirrors done, h.orderly.filed.bounded, h.retirementsFit few, h.resumesFit,
    h.autoResolutionsFit, guard]
  rfl

/-! ### After a restart -/

theorem afterRestart_dispatchBinding (r : SafetyOperation) :
    r.afterRestart.dispatchBinding = r.dispatchBinding := by
  unfold afterRestart
  repeat' split
  all_goals rfl

theorem isUnsettled_afterRestart (r : SafetyOperation) : r.afterRestart.state.isUnsettled = false := by
  rw [Bool.eq_false_iff, ne_eq, isUnsettled_iff, afterRestart_phase]
  split <;> decide

/-- A record of a restarted ledger and the one it was. -/
theorem of_restarted {limits : AdmissionLimits} (found : (s.restarted limits).operations[id]? = some r') :
    ∃ r, s.operations[id]? = some r ∧ r.afterRestart = r' := by
  rwa [get_restarted, Option.map_eq_some_iff] at found

theorem done_restarted (s : AuthoritativeOperationController) (limits : AdmissionLimits) :
    (s.restarted limits).Done := by
  intro id r' found
  obtain ⟨r, -, rfl⟩ := of_restarted found
  exact isUnsettled_afterRestart r

theorem ReadsClean.restarted (h : s.ReadsClean) (limits : AdmissionLimits) :
    (s.restarted limits).ReadsClean := by
  intro id r' found lane
  obtain ⟨r, old, rfl⟩ := of_restarted found
  rw [afterRestart_lane] at lane
  rw [afterRestart_dispatchBinding]
  exact h id r old lane

theorem Frozen.restarted (h : s.Frozen) (orderly : s.Orderly) (limits : AdmissionLimits) :
    (s.restarted limits).Frozen := by
  refine h.frame (fun _ mem => mem) fun x mem => ?_
  obtain ⟨r, found, -, ambiguous, -⟩ := orderly.accounted.kept x mem
  have done := not_unsettled_of_phase ambiguous (by decide) (by decide)
  rw [get_restarted, found, Option.map_some, (orderly.sound _ r found).afterRestart_eq done]

theorem Barred.restarted (h : s.Barred) (limits : AdmissionLimits) :
    (s.restarted limits).Barred := by
  refine h.frame rfl fun d barrier up clear => ⟨?_, fun id r' found _ => ?_⟩
  · show s.quarantinesAfterRestart[d]? = none
    rw [quarantined_of_not_lost, clear.unquarantined]
    intro a x found lost device
    rw [clear.calm a x found device] at lost
    cases lost
  · rw [Bool.eq_false_iff]
    intro lost
    have pending := isUnsettled_of_isInFlight (isLostByRestart_iff.mp lost).1
    rw [done_restarted s limits id r' found] at pending
    cases pending

theorem Resumed.restarted (h : s.Resumed) (limits : AdmissionLimits) :
    (s.restarted limits).Resumed := by
  have perm := sortResumes_perm s.mutationResumes
  exact {
    valid := fun x mem => h.valid x (perm.mem_iff.mp mem)
    preceded := fun x mem => h.preceded x (perm.mem_iff.mp mem)
    lifted := fun x mem => h.lifted x (perm.mem_iff.mp mem)
    once := (perm.map _).nodup_iff.mpr h.once
    few := perm.length_eq.le.trans h.few}

/-- A restart settles nothing in the Agent's name. -/
theorem status_afterRestart (sound : r.Sound) (pending : r.state.isUnsettled = true) :
    r.afterRestart.reconciliationStatus ≠ some .autoResolved := by
  obtain ⟨-, -, status⟩ := sound.pending pending
  have default : ∀ reason binding, defaultReconciliationStatus reason binding ≠ .autoResolved := by
    intro reason binding
    unfold defaultReconciliationStatus
    split <;> decide
  unfold afterRestart
  repeat' split
  all_goals simp [status, default]

theorem AutoFiled.restarted (h : s.AutoFiled) (orderly : s.Orderly) (limits : AdmissionLimits) :
    (s.restarted limits).AutoFiled := by
  have kept : ∀ {id : String} {r : SafetyOperation}, s.operations[id]? = some r →
      r.state.isUnsettled = false → r.afterRestart = r :=
    fun found done => (orderly.sound _ _ found).afterRestart_eq done
  constructor
  case few => exact h.few
  case once => exact h.once
  case told =>
    intro id r' found resolved
    obtain ⟨r, old, rfl⟩ := of_restarted found
    cases pending : r.state.isUnsettled with
    | true => exact absurd resolved (status_afterRestart (orderly.sound id r old) pending)
    | false =>
      rw [kept old pending] at resolved ⊢
      exact h.told id r old resolved
  case agrees =>
    intro history mem r' found
    obtain ⟨r, old, rfl⟩ := of_restarted found
    have settles := h.agrees history mem r old
    have settled : r.state.phase = .settled := by
      by_contra open_
      exact not_autoResolved (orderly.sound _ r old) open_ (settles_iff.mp settles).1
    rwa [kept old (not_unsettled_of_phase settled (by decide) (by decide))]

theorem Readable.restarted (h : s.Readable) (limits : AdmissionLimits) :
    (s.restarted limits).Readable where
  orderly := h.orderly.restarted limits
  reads := h.reads.restarted limits
  writable := h.writable.frame rfl
  documented := (h.documented.frozen.restarted h.orderly limits).documented h.documented.vetted
  barred := h.barred.restarted limits
  resumed := h.resumed.restarted limits
  autoSettled := ⟨h.autoSettled.toAutoFiled.restarted h.orderly limits, h.autoSettled.valid⟩

/-- Every denied id has its tombstone. -/
theorem Writable.snapshot_isSome (h : s.Writable) :
    ∃ snapshot, s.admission.snapshotForRestart = some snapshot := by
  have made : ∀ ids : List String, (∀ id ∈ ids, isRetirableId id = true) →
      ∃ tombstones, (ids.mapM fun id => (fromOperationId id).toOption) =
        some tombstones := by
    intro ids all
    induction ids with
    | nil => exact ⟨[], rfl⟩
    | cons id rest ih =>
      obtain ⟨tombstone, first⟩ := exists_fromOperationId (all id List.mem_cons_self)
      obtain ⟨others, later⟩ := ih fun a mem => all a (List.mem_cons_of_mem _ mem)
      refine ⟨tombstone :: others, ?_⟩
      have made : (fromOperationId id).toOption = some tombstone := by
        rw [first]
        rfl
      rw [List.mapM_cons, made, later]
      rfl
  obtain ⟨tombstones, eq⟩ := made s.admission.retiredIndeterminate.toList fun id mem =>
    h.retirable id (Std.ExtTreeSet.mem_toList.mp mem)
  exact ⟨_, by rw [HubAdmissionController.snapshotForRestart, eq]; rfl⟩

/-- A readable ledger is written and read back as what the restart leaves of it. -/
theorem Readable.restore (h : s.Readable) (few : s.retirements.length ≤ maxRetirementRecords)
    {limits : AdmissionLimits} (valid : limits.validate = .ok limits) :
    ∃ snapshot, s.snapshotForRestart = some snapshot ∧
      restoreAfterRestart limits snapshot = .ok (s.restarted limits) := by
  obtain ⟨admission, taken⟩ := h.writable.snapshot_isSome
  have written_eq : s.snapshotForRestart = some ((s.restarted limits).written admission) := by
    rw [snapshotForRestart, taken, Option.map_some]
    simp only [written, AuthoritativeOperationController.restarted, values_map]
  have denied : (s.admission.retiredIndeterminate.toList.any fun operationId =>
      (s.restarted limits).admission.operations[operationId]?.any fun op =>
        op.state ≠ .indeterminate) = false := by
    rw [List.any_eq_false]
    intro id mem
    have retired : id ∈ (s.restarted limits).admission.retiredIndeterminate :=
      Std.ExtTreeSet.mem_toList.mp mem
    rw [(h.restarted limits).orderly.coherent.mirrored]
    cases found : (s.restarted limits).operations[id]? with
    | none => simp
    | some r =>
      have ambiguous : r.state.phase = .ambiguous := by
        by_contra known
        exact (h.restarted limits).reads.undenied (h.restarted limits).orderly.coherent found known retired
      simp [admitted, (eq_indeterminate_iff _).mpr ambiguous]
  refine ⟨_, written_eq, ?_⟩
  have version : ((s.restarted limits).written admission).versionAdmits = true :=
    AuthoritativeSafetySnapshot.versionAdmits_of_current rfl
      (HubAdmissionController.of_snapshotForRestart taken).2
  unfold restoreAfterRestart
  rw [if_neg (not_not.mpr version)]
  rw [show ((s.restarted limits).written admission).admission = admission from rfl,
    h.orderly.coherent.restoreAdmission_eq taken limits,
    if_neg (Nat.not_lt.mpr h.writable.room), valid]
  simp only [denied]
  rw [if_neg (by decide)]
  simp only [(h.restarted limits).restoreLedger_eq (done_restarted s limits) few]

end AuthoritativeOperationController

end Gateway.Execution
