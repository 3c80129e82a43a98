import Gateway.Execution.Runs

/-! Records a snapshot can be read back with.

Reading a snapshot back checks every statement one record makes about another.
Each statement is an invariant, kept by every move of a careful call. Here are
those about denied ids: recovery reads are unbound and never of a denied id, each
denied id can be written, and a retirement describes the record it is about. -/
namespace Gateway.Execution
open Data Device RetirementRecord ReplayDenyTombstone HubOperationState Table

namespace AuthoritativeOperationController
variable {care : Care} {s s' : AuthoritativeOperationController} {id : String}
  {r r' : SafetyOperation}

/-! ### Recovery reads -/

/-- Recovery reads are sent without binding and under ids that are not denied. -/
def ReadsClean (s : AuthoritativeOperationController) : Prop :=
  ∀ (id : String) (r : SafetyOperation), s.operations[id]? = some r →
    r.executionLane = .recoveryEvidenceRead →
      r.dispatchBinding = none ∧ id ∉ s.admission.retiredIndeterminate

theorem readsClean_empty (limits : AdmissionLimits) : (empty limits).ReadsClean := by
  intro id r found
  simp [empty] at found

theorem ReadsClean.change (h : s.ReadsClean) (m : Change s s' id r')
    (clean : r'.executionLane = .recoveryEvidenceRead →
      r'.dispatchBinding = none ∧ id ∉ s.admission.retiredIndeterminate) : s'.ReadsClean := by
  intro a x found lane
  rw [m.retired]
  rw [m.operations, get_insert] at found
  split at found
  · next same =>
    cases found
    exact same ▸ clean lane
  · exact h a x found lane

/-- A record keeps its binding. -/
theorem ReadsClean.recast (h : s.ReadsClean) (m : Recast s s' id r r')
    (bound : r'.dispatchBinding = r.dispatchBinding) : s'.ReadsClean := by
  refine h.change m.toChange fun lane => ?_
  rw [bound]
  exact h id r m.old (m.lane ▸ lane)

theorem ReadsClean.forget (h : s.ReadsClean) {gone : String → Bool} (m : Forget s s' gone) :
    s'.ReadsClean := by
  intro a x found lane
  rw [m.operations] at found
  rw [m.retired]
  split at found
  · cases found
  · exact h a x found lane

theorem ReadsClean.move (h : s.ReadsClean) (coherent : s.Coherent) (careful : care.legible)
    (m : Move care s s') : s'.ReadsClean := by
  cases m with
  | touch same _ => exact h.forget same
  | start _ _ _ _ _ _ _ fresh _ moved _ =>
    exact h.change moved.toChange fun _ => ⟨rfl, fresh careful⟩
  | enqueue _ _ _ _ _ _ fresh _ moved _ =>
    exact h.change moved.toChange fun _ => ⟨rfl, fresh careful⟩
  | dispatch id r _ _ _ _ sendable moved _ =>
    refine h.change moved.toChange fun lane => ⟨(sendable careful).1 lane, ?_⟩
    exact (h id r moved.old lane).2
  | retire id r _ _ _ _ _ _ _ moved _ =>
    intro a x found lane
    rw [moved.operations] at found
    rw [moved.retired, Std.ExtTreeSet.mem_insert, Std.LawfulEqCmp.compare_eq_iff_eq, not_or]
    refine ⟨(h a x found lane).1, fun same => ?_, (h a x found lane).2⟩
    -- The retired operation is ambiguous, so it is no recovery read.
    rw [← same, moved.old, Option.some.injEq] at found
    exact (coherent.reading id r moved.old (found ▸ lane)).2.2 moved.ambiguous
  | rotate _ _ _ _ moved _ => exact h.forget moved
  | resume _ _ _ _ _ _ _ _ _ _ _ same _ => exact h.forget same
  | prune _ _ _ _ _ moved _ => exact h.forget moved
  | _ =>
    rename_i moved _
    exact h.recast moved.toRecast rfl

/-- Only ambiguous work is denied. -/
theorem ReadsClean.undenied (h : s.ReadsClean) (coherent : s.Coherent)
    (found : s.operations[id]? = some r) (phase : r.state.phase ≠ .ambiguous) :
    id ∉ s.admission.retiredIndeterminate := by
  intro retired
  cases lane : r.executionLane with
  | normal => exact phase (coherent.denied id r found retired lane)
  | recoveryEvidenceRead => exact (h id r found lane).2 retired

/-! ### Denied ids -/

/-- Every denied id can be written, and there is room for all of them. -/
structure Writable (s : AuthoritativeOperationController) : Prop where
  retirable : ∀ id ∈ s.admission.retiredIndeterminate, isRetirableId id = true
  room : s.admission.retiredIndeterminate.size ≤ maxRetiredOperationTombstones

theorem writable_empty (limits : AdmissionLimits) : (empty limits).Writable := by
  constructor
  · intro id mem
    simp [empty, HubAdmissionController.empty] at mem
  · exact Nat.zero_le _

theorem Writable.frame (h : s.Writable)
    (retired : s'.admission.retiredIndeterminate = s.admission.retiredIndeterminate) :
    s'.Writable :=
  ⟨by rw [retired]; exact h.retirable, by rw [retired]; exact h.room⟩

theorem Writable.move (h : s.Writable) (coherent : s.Coherent) (m : Move care s s') :
    s'.Writable := by
  cases m with
  | retire id r retirement _ _ _ checked _ room moved _ =>
    obtain ⟨x, retirable⟩ := retirable_of_ok checked
    have bounded : retirement.operation.isBounded = true := by
      have valid := retirable.valid
      simp only [isValid, Bool.and_eq_true] at valid
      exact valid.1.1.1.1.1.1.1
    have names : retirement.operation.operationId = id := by
      rw [retirable.operation, coherent.keyed id x retirable.old]
    constructor
    · intro a mem
      rw [moved.retired, Std.ExtTreeSet.mem_insert, Std.LawfulEqCmp.compare_eq_iff_eq] at mem
      rcases mem with rfl | mem
      · simp only [OperationRef.isBounded, Bool.and_eq_true, names] at bounded
        simp only [isRetirableId, Bool.and_eq_true]
        exact ⟨bounded.1.2, bounded.2⟩
      · exact h.retirable a mem
    · rw [moved.retired]
      exact Std.ExtTreeSet.size_insert_le.trans room
  | _ =>
    rename_i moved _
    exact h.frame moved.retired

/-! ### Retirements -/

/-- A retirement keeps what the record it is about said when it was retired. -/
structure Retains (s : AuthoritativeOperationController) (retirement : RetirementRecord)
    (r : SafetyOperation) : Prop where
  found : s.operations[retirement.operation.operationId]? = some r
  capability : r.capability = retirement.capability
  reason : r.indeterminateReason = some retirement.indeterminateReason
  prior : r.reconciliationStatus.getD .operatorRequired = retirement.priorReconciliationStatus
  unrecovered : retirement.priorReconciliationStatus.isUnrecovered = true

/-- Every retired record still says what its retirement keeps. -/
def Frozen (s : AuthoritativeOperationController) : Prop :=
  ∀ retirement ∈ s.retirements, ∃ r, s.Retains retirement r

theorem frozen_empty (limits : AdmissionLimits) : (empty limits).Frozen := by
  intro retirement mem
  simp [empty] at mem

/-- The retirements stay and so do the records they are about. -/
theorem Frozen.frame (h : s.Frozen)
    (retirements : ∀ retirement ∈ s'.retirements, retirement ∈ s.retirements)
    (kept : ∀ retirement ∈ s'.retirements, s'.operations[retirement.operation.operationId]? =
      s.operations[retirement.operation.operationId]?) : s'.Frozen := by
  intro retirement mem
  obtain ⟨r, told⟩ := h retirement (retirements retirement mem)
  exact ⟨r, {told with found := by rw [kept retirement mem]; exact told.found}⟩

/-- A changed record that no retirement is about. -/
theorem Frozen.change (h : s.Frozen) (m : Change s s' id r')
    (retirements : s'.retirements = s.retirements)
    (unlisted : ∀ retirement ∈ s.retirements, retirement.operation.operationId ≠ id) : s'.Frozen := by
  refine h.frame (fun x mem => retirements ▸ mem) fun x mem => ?_
  rw [m.operations, get_insert_of_ne (unlisted x (retirements ▸ mem)).symm]

/-- Work that is not denied is described by no retirement. -/
theorem Accounted.unlisted (h : s.Accounted) (undenied : id ∉ s.admission.retiredIndeterminate)
    (retirement : RetirementRecord) (mem : retirement ∈ s.retirements) :
    retirement.operation.operationId ≠ id := by
  obtain ⟨-, -, -, -, retired⟩ := h.kept retirement mem
  rintro rfl
  exact undenied retired

/-- Work that is not ambiguous is described by no retirement. -/
theorem Accounted.unlisted_of_phase (h : s.Accounted) (found : s.operations[id]? = some r)
    (phase : r.state.phase ≠ .ambiguous) (retirement : RetirementRecord)
    (mem : retirement ∈ s.retirements) : retirement.operation.operationId ≠ id := by
  obtain ⟨x, old, -, ambiguous, -⟩ := h.kept retirement mem
  rintro rfl
  rw [found, Option.some.injEq] at old
  exact phase (old ▸ ambiguous)

/-- Forgetting records that no kept retirement is about. -/
theorem Frozen.forget (h : s.Frozen) {gone : String → Bool} (m : Forget s s' gone)
    (retirements : ∀ retirement ∈ s'.retirements, retirement ∈ s.retirements)
    (stays : ∀ retirement ∈ s'.retirements, gone retirement.operation.operationId = false) :
    s'.Frozen := by
  refine h.frame retirements fun x mem => ?_
  rw [m.operations, stays x mem]
  rfl

/-- An operator takes over a record, as its retirement already says. -/
theorem Frozen.operatorRequired (h : s.Frozen) (asRetired : s.AsRetired id)
    (m : Restate s s' id r {r with reconciliationStatus := some .operatorRequired})
    (aside : s'.aside = s.aside) : s'.Frozen := by
  have retirements : s'.retirements = s.retirements := congrArg Aside.retirements aside
  intro retirement mem
  rw [retirements] at mem
  obtain ⟨x, told⟩ := h retirement mem
  by_cases same : id = retirement.operation.operationId
  · have old := told.found
    rw [← same, m.old, Option.some.injEq] at old
    subst old
    refine ⟨{r with reconciliationStatus := some .operatorRequired}, {told with
      found := ?_
      prior := (asRetired retirement mem same.symm).symm}⟩
    rw [m.operations, same]
    exact get_insert_self _ _ _
  · refine ⟨x, {told with found := ?_}⟩
    rw [m.operations, get_insert_of_ne same]
    exact told.found

/-- A new retirement describes the record it was made from. -/
theorem Frozen.retire (h : s.Frozen) (coherent : s.Coherent) {retirement : RetirementRecord}
    {transition : RetirementTransition} (checked : s.retirementFor id transition = .ok retirement)
    (m : Retire s s' id r) (retirements : s'.retirements = s.retirements ++ [retirement]) :
    s'.Frozen := by
  obtain ⟨x, retirable⟩ := retirable_of_ok checked
  intro y mem
  rw [retirements, List.mem_append, List.mem_singleton] at mem
  rcases mem with mem | rfl
  · obtain ⟨r, told⟩ := h y mem
    exact ⟨r, {told with found := by rw [m.operations]; exact told.found}⟩
  · have names : y.operation.operationId = id := by
      rw [retirable.operation, coherent.keyed id x retirable.old]
    have valid := retirable.valid
    simp only [isValid, Bool.and_eq_true] at valid
    exact ⟨x, {
      found := by rw [m.operations, names]; exact retirable.old
      capability := retirable.capability.symm
      reason := retirable.reason
      prior := retirable.prior.symm
      unrecovered := valid.1.1.1.1.1.2}⟩

/-- Work that waits for the Agent's evidence is not retired. -/
theorem Frozen.unlisted_of_waiting (h : s.Frozen) (old : s.operations[id]? = some r)
    (waiting : r.reconciliationStatus = some .autoReconciling) (retirement : RetirementRecord)
    (mem : retirement ∈ s.retirements) : retirement.operation.operationId ≠ id := by
  rintro rfl
  obtain ⟨x, told⟩ := h retirement mem
  have found := told.found
  rw [old, Option.some.injEq] at found
  have prior := told.prior
  rw [← found, waiting] at prior
  have unrecovered := told.unrecovered
  rw [← prior] at unrecovered
  cases unrecovered

theorem Frozen.move (h : s.Frozen) (orderly : s.Orderly) (freezing : care.freezing)
    (m : Move care s s') : s'.Frozen := by
  have listed : ∀ {a : Aside}, s'.aside = a → a.retirements = s.retirements →
      s'.retirements = s.retirements := by
    rintro a rfl same
    exact same
  have undenied : ∀ {id : String} {r : SafetyOperation}, s.operations[id]? = some r →
      r.state.phase ≠ .ambiguous → ∀ x ∈ s.retirements, x.operation.operationId ≠ id :=
    fun old phase => orderly.accounted.unlisted_of_phase old phase
  have running : ∀ {r : SafetyOperation}, r.state.phase = .running → r.state.phase ≠ .ambiguous :=
    fun phase => by rw [phase]; decide
  have waiting : ∀ {r : SafetyOperation}, r.state.phase = .waiting → r.state.phase ≠ .ambiguous :=
    fun phase => by rw [phase]; decide
  cases m with
  | touch same aside =>
    exact h.forget same (fun x mem => listed aside rfl ▸ mem) fun _ _ => rfl
  | start _ _ _ _ _ _ admissible _ _ moved aside =>
    exact h.change moved.toChange (listed aside rfl) admissible.unlisted
  | enqueue _ _ _ _ _ admissible _ _ moved aside =>
    exact h.change moved.toChange (listed aside rfl) admissible.unlisted
  | promote _ _ moved aside =>
    exact h.change moved.toChange (listed aside rfl) (undenied moved.old (waiting moved.waited))
  | dispatch _ _ _ _ ready _ _ moved aside =>
    exact h.change moved.toChange (listed aside rfl) (undenied moved.old (by rw [ready]; decide))
  | requestCancel _ _ sent moved aside =>
    exact h.change moved.toChange (listed aside rfl)
      (undenied moved.old (running (phase_of_isInFlight sent)))
  | cancelWaiting _ _ _ moved aside =>
    exact h.change moved.toChange (listed aside rfl) (undenied moved.old (waiting moved.waited))
  | evidenceGap _ _ _ gap moved aside =>
    exact h.change moved.toChange (listed aside rfl) (h.unlisted_of_waiting moved.old gap)
  | operatorRequired _ _ _ asRetired moved aside =>
    exact h.operatorRequired (asRetired freezing) moved aside
  | reconcile _ _ _ _ gap _ _ _ _ moved aside =>
    exact h.change moved.toChange (listed aside rfl) (h.unlisted_of_waiting moved.old gap)
  | resolve _ _ _ _ _ moved aside =>
    exact h.change moved.toChange (listed aside rfl)
      (orderly.accounted.unlisted (orderly.coherent.unretired_of_blocking moved.blocking))
  | retire _ _ _ _ _ _ checked _ _ moved aside =>
    exact h.retire orderly.coherent checked moved (congrArg Aside.retirements aside)
  | rotate retired held _ _ moved aside =>
    have retirements := congrArg Aside.retirements aside
    simp only [AuthoritativeOperationController.aside] at retirements
    refine h.forget moved (fun x mem => List.mem_of_mem_erase (retirements ▸ mem))
      fun x mem => decide_eq_false fun same => ?_
    rw [retirements] at mem
    have once := orderly.accounted.once.of_map
    obtain rfl := orderly.accounted.unique (List.mem_of_mem_erase mem) held same
    exact once.not_mem_erase mem
  | resume _ _ _ _ _ _ _ _ _ _ _ same aside =>
    exact h.forget same (fun x mem => listed aside rfl ▸ mem) fun _ _ => rfl
  | attach _ r _ settled _ _ moved aside =>
    refine h.change moved.toChange (listed aside rfl) (undenied moved.old fun ambiguous => ?_)
    rw [((orderly.sound _ r moved.old).ambiguous ambiguous).receipt] at settled
    cases settled
  | prune deviceId currentGeneration _ _ _ moved aside =>
    refine h.forget moved (fun x mem => listed aside rfl ▸ mem) fun x mem => ?_
    obtain ⟨y, found, -, ambiguous, -⟩ := orderly.accounted.kept x (listed aside rfl ▸ mem)
    rw [found, Bool.eq_false_iff]
    intro prunable
    rw [(isTerminal_iff _).mp (isTerminal_of_isPrunable prunable)] at ambiguous
    cases ambiguous
  | _ =>
    rename_i moved aside
    exact h.change moved.toChange (listed aside rfl) (undenied moved.old (running moved.running))

/-- Every detailed retirement is well formed and of work that no operator settled. -/
def Vetted (s : AuthoritativeOperationController) : Prop :=
  ∀ retirement ∈ s.retirements,
    retirement.isValid = true ∧ s.Unresolved retirement.operation.operationId

theorem Vetted.frame (h : s.Vetted) (retirements : ∀ x ∈ s'.retirements, x ∈ s.retirements)
    (resolutions : s'.resolutions = s.resolutions) : s'.Vetted := by
  intro x mem
  rw [Unresolved, resolutions]
  exact h x (retirements x mem)

theorem Vetted.move (h : s.Vetted) (orderly : s.Orderly) (legible : care.legible)
    (m : Move care s s') : s'.Vetted := by
  have same : ∀ {a : Aside}, s'.aside = a → a.retirements = s.retirements →
      a.resolutions = s.resolutions → s'.Vetted := by
    rintro a rfl retirements resolutions
    exact h.frame (fun x mem => retirements ▸ mem) resolutions
  cases m with
  | resolve id _ resolution _ names moved aside =>
    have unlisted := orderly.accounted.unlisted (orderly.coherent.unretired_of_blocking moved.blocking)
    have retirements : s'.retirements = s.retirements := congrArg Aside.retirements aside
    have resolutions : s'.resolutions = s.resolutions ++ [resolution] :=
      congrArg Aside.resolutions aside
    intro x mem
    rw [retirements] at mem
    refine ⟨(h x mem).1, fun y listed => ?_⟩
    rw [resolutions, List.mem_append, List.mem_singleton] at listed
    rcases listed with listed | rfl
    · exact (h x mem).2 y listed
    · rw [names]
      exact (unlisted x mem).symm
  | retire id r retirement _ _ unresolved checked _ _ _ aside =>
    have retirements : s'.retirements = s.retirements ++ [retirement] :=
      congrArg Aside.retirements aside
    have resolutions : s'.resolutions = s.resolutions := congrArg Aside.resolutions aside
    obtain ⟨x, retirable⟩ := retirable_of_ok checked
    intro y mem
    rw [Unresolved, resolutions]
    rw [retirements, List.mem_append, List.mem_singleton] at mem
    rcases mem with mem | rfl
    · exact h y mem
    · refine ⟨retirable.valid, ?_⟩
      rw [retirable.operation, orderly.coherent.keyed id x retirable.old]
      exact (unresolved legible).1
  | rotate retired _ _ _ _ aside =>
    have retirements : s'.retirements = s.retirements.erase retired := congrArg Aside.retirements aside
    exact h.frame (fun x mem => List.mem_of_mem_erase (retirements ▸ mem))
      (congrArg Aside.resolutions aside)
  | _ =>
    rename_i aside
    exact same aside rfl rfl

/-- A detailed retirement describes the record it is about, which no operator settled. -/
structure Describes (s : AuthoritativeOperationController) (retirement : RetirementRecord)
    (r : SafetyOperation) : Prop where
  found : s.operations[retirement.operation.operationId]? = some r
  capability : r.capability = retirement.capability
  reason : r.indeterminateReason = some retirement.indeterminateReason
  prior : r.reconciliationStatus.getD .operatorRequired = retirement.priorReconciliationStatus
  valid : retirement.isValid = true
  unresolved : s.Unresolved retirement.operation.operationId

def Documented (s : AuthoritativeOperationController) : Prop :=
  ∀ retirement ∈ s.retirements, ∃ r, s.Describes retirement r

theorem documented_empty (limits : AdmissionLimits) : (empty limits).Documented := by
  intro retirement mem
  simp [empty] at mem

theorem Documented.vetted (h : s.Documented) : s.Vetted := by
  intro retirement mem
  obtain ⟨r, told⟩ := h retirement mem
  exact ⟨told.valid, told.unresolved⟩

theorem Documented.frozen (h : s.Documented) : s.Frozen := by
  intro retirement mem
  obtain ⟨r, told⟩ := h retirement mem
  have valid := told.valid
  simp only [isValid, Bool.and_eq_true] at valid
  exact ⟨r, told.found, told.capability, told.reason, told.prior, valid.1.1.1.1.1.2⟩

theorem Frozen.documented (h : s.Frozen) (vetted : s.Vetted) : s.Documented := by
  intro retirement mem
  obtain ⟨r, told⟩ := h retirement mem
  obtain ⟨valid, unresolved⟩ := vetted retirement mem
  exact ⟨r, told.found, told.capability, told.reason, told.prior, valid, unresolved⟩

theorem Documented.move (h : s.Documented) (orderly : s.Orderly) (legible : care.legible)
    (freezing : care.freezing) (m : Move care s s') : s'.Documented :=
  (h.frozen.move orderly freezing m).documented (h.vetted.move orderly legible m)

end AuthoritativeOperationController

end Gateway.Execution
