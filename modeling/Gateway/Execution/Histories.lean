import Gateway.Execution.Legibility

/-! Histories a snapshot can be read back with.

Barriers stand clear of quarantines, now and after a restart; resumes follow the
acceptances whose barriers they lifted; automatic settlements agree with the
records they settled. Every move of a careful call keeps all three. -/
namespace Gateway.Execution
open Data Device SafetyOperation HubOperationState Table AutoResolutionRecord

namespace AuthoritativeOperationController
variable {care : Care} {s s' : AuthoritativeOperationController} {id : String}
  {r r' : SafetyOperation}

/-! ### Barriers -/

/-- Neither quarantined now nor by a restart. -/
structure Clear (s : AuthoritativeOperationController) (d : String) : Prop where
  unquarantined : s.quarantines[d]? = none
  calm : ∀ (id : String) (r : SafetyOperation), s.operations[id]? = some r →
    r.operation.deviceId = d → r.isLostByRestart = false

/-- A barrier is well formed and its device is clear. -/
structure Barred (s : AuthoritativeOperationController) : Prop where
  valid : ∀ (d : String) (barrier : MutationResumeBarrier),
    s.mutationResumeBarriers[d]? = some barrier → barrier.isValid = true
  clear : ∀ (d : String) (barrier : MutationResumeBarrier),
    s.mutationResumeBarriers[d]? = some barrier → s.Clear d

theorem barred_empty (limits : AdmissionLimits) : (empty limits).Barred := by
  constructor <;> simp [empty]

theorem Barred.frame (h : s.Barred)
    (barriers : s'.mutationResumeBarriers = s.mutationResumeBarriers)
    (clear : ∀ (d : String) (barrier : MutationResumeBarrier),
      s.mutationResumeBarriers[d]? = some barrier → s.Clear d → s'.Clear d) : s'.Barred := by
  constructor
  · intro d barrier up
    exact h.valid d barrier (barriers ▸ up)
  · intro d barrier up
    rw [barriers] at up
    exact clear d barrier up (h.clear d barrier up)

/-- A changed record is lost by a restart only where no barrier is up. -/
theorem Barred.change (h : s.Barred) (m : Change s s' id r')
    (barriers : s'.mutationResumeBarriers = s.mutationResumeBarriers)
    (quarantines : ∀ d : String, s.mutationResumeBarriers[d]? ≠ none → s.quarantines[d]? = none →
      s'.quarantines[d]? = none)
    (calm : r'.isLostByRestart = true → s.mutationResumeBarriers[r'.operation.deviceId]? = none) :
    s'.Barred := by
  refine h.frame barriers fun d barrier up clear => ⟨?_, fun a x found device => ?_⟩
  · exact quarantines d (by rw [up]; exact nofun) clear.unquarantined
  · rw [m.operations, get_insert] at found
    split at found
    · cases found
      rw [Bool.eq_false_iff]
      intro lost
      rw [← device, calm lost] at up
      cases up
    · exact clear.calm a x found device

/-- Where a record is lost by a restart, no barrier is up. -/
theorem Barred.unbarred_of_lost (h : s.Barred) (old : s.operations[id]? = some r)
    (lost : r.isLostByRestart = true) : s.mutationResumeBarriers[r.operation.deviceId]? = none := by
  cases up : s.mutationResumeBarriers[r.operation.deviceId]? with
  | none => rfl
  | some barrier =>
    rw [(h.clear _ barrier up).calm id r old rfl] at lost
    cases lost

/-- A record that a restart does not lose unless it did before. -/
theorem Barred.recast (h : s.Barred) (m : Recast s s' id r r')
    (barriers : s'.mutationResumeBarriers = s.mutationResumeBarriers)
    (quarantines : ∀ d : String, s.mutationResumeBarriers[d]? ≠ none → s.quarantines[d]? = none →
      s'.quarantines[d]? = none)
    (calm : r'.isLostByRestart = true → r.isLostByRestart = true) : s'.Barred := by
  refine h.change m.toChange barriers quarantines fun lost => ?_
  rw [m.operation]
  exact h.unbarred_of_lost m.old (calm lost)

/-- What was sent is lost by a restart unless it has settled. -/
theorem Recast.lost (m : Recast s s' id r r') (sent : r.state.isInFlight = true)
    (lost : r'.isLostByRestart = true) : r.isLostByRestart = true := by
  have lane := (isLostByRestart_iff.mp lost).2
  exact isLostByRestart_iff.mpr ⟨sent, m.lane ▸ lane⟩

theorem Barred.unblock (h : s.Barred) (m : Unblock s s' id r r')
    (barriers : s'.mutationResumeBarriers = s.mutationResumeBarriers) : s'.Barred := by
  refine h.recast m.toRecast barriers (fun d _ clear => ?_) fun lost => ?_
  · rw [m.quarantines, get_erase, clear, ite_self]
  · have settled := m.settled
    rw [phase_of_isInFlight (isLostByRestart_iff.mp lost).1] at settled
    cases settled

theorem Barred.forget (h : s.Barred) {gone : String → Bool} (m : Forget s s' gone)
    (barriers : s'.mutationResumeBarriers = s.mutationResumeBarriers) : s'.Barred := by
  refine h.frame barriers fun d _ _ clear => ⟨by rw [m.quarantines]; exact clear.unquarantined, ?_⟩
  intro a x found device
  rw [m.operations] at found
  split at found
  · cases found
  · exact clear.calm a x found device

/-- Work on a quarantined device is not lost by a restart. -/
theorem Coherent.calm_of_quarantined (h : s.Coherent) {d : String} (held : s.quarantines[d]? ≠ none)
    (old : s.operations[id]? = some r) (device : r.operation.deviceId = d) :
    r.isLostByRestart = false := by
  rw [Bool.eq_false_iff]
  intro lost
  obtain ⟨sent, lane⟩ := isLostByRestart_iff.mp lost
  refine held ?_
  rw [← device]
  exact h.fenced id r old lane (isUnsettled_of_isInFlight sent)

variable {retirement : RetirementRecord} {history record : AutoResolutionRecord}
  {histories : List AutoResolutionRecord}

theorem barrierFor_valid {nowMs : Nat} (valid : retirement.isValid = true)
    (click : retirement.policy = .acknowledgedUnknownPointerClickV1) (clock : 0 < nowMs) :
    (barrierFor retirement nowMs).isValid = true := by
  simp only [RetirementRecord.isValid, OperationRef.isBounded, Bool.and_eq_true,
    decide_eq_true_eq] at valid
  obtain ⟨⟨⟨⟨⟨⟨⟨⟨⟨⟨⟨placed, short⟩, generation⟩, named⟩, brief⟩, -⟩, -⟩, -⟩, -⟩, -⟩, newer⟩, -⟩ := valid
  simp only [MutationResumeBarrier.isValid, Bool.and_eq_true, decide_eq_true_eq]
  exact ⟨⟨⟨⟨⟨⟨⟨placed, short⟩, named⟩, brief⟩, generation⟩, newer⟩, click⟩, clock⟩

/-- An accepted click raises its barrier on the device it quarantined. -/
theorem Barred.retire (h : s.Barred) (coherent : s.Coherent) {transition : RetirementTransition}
    (checked : s.retirementFor id transition = .ok retirement) (clock : 0 < transition.nowMs)
    (m : Retire s s' id r) (barriers : s'.mutationResumeBarriers =
      if retirement.policy = .acknowledgedUnknownPointerClickV1 then
        s.mutationResumeBarriers.insert retirement.operation.deviceId
          (barrierFor retirement transition.nowMs)
      else s.mutationResumeBarriers) : s'.Barred := by
  obtain ⟨x, retirable⟩ := retirable_of_ok checked
  have same := retirable.old
  rw [m.old, Option.some.injEq] at same
  subst same
  have cleared : ∀ d : String, s.Clear d → s'.Clear d := by
    intro d clear
    constructor
    · rw [m.quarantines, get_erase]
      split
      · rfl
      · exact clear.unquarantined
    · rw [m.operations]
      exact clear.calm
  have fresh : s'.Clear r.operation.deviceId := by
    obtain ⟨q, held, -⟩ := retirable.quarantined
    constructor
    · rw [m.quarantines, get_erase, if_pos rfl]
    · rw [m.operations]
      exact fun a x old device => coherent.calm_of_quarantined (by rw [held]; exact nofun) old device
  have up : ∀ (d : String) (barrier : MutationResumeBarrier),
      s'.mutationResumeBarriers[d]? = some barrier →
        s.mutationResumeBarriers[d]? = some barrier ∨ d = r.operation.deviceId ∧
          retirement.policy = .acknowledgedUnknownPointerClickV1 ∧
            barrier = barrierFor retirement transition.nowMs := by
    intro d barrier up
    rw [barriers] at up
    split at up
    · next click =>
      rw [get_insert] at up
      split at up
      · next same => exact .inr ⟨by rw [← same, retirable.operation], click, (Option.some.inj up).symm⟩
      · exact .inl up
    · exact .inl up
  constructor
  · intro d barrier raised
    rcases up d barrier raised with old | ⟨-, click, rfl⟩
    · exact h.valid d barrier old
    · exact barrierFor_valid retirable.valid click clock
  · intro d barrier raised
    rcases up d barrier raised with old | ⟨rfl, -, -⟩
    · exact cleared d (h.clear d barrier old)
    · exact fresh

theorem Barred.move (h : s.Barred) (coherent : s.Coherent) (careful : care.legible)
    (m : Move care s s') : s'.Barred := by
  have kept {a : Aside} (aside : s'.aside = a) : s'.mutationResumeBarriers = a.mutationResumeBarriers :=
    congrArg Aside.mutationResumeBarriers aside
  have stays : s'.quarantines = s.quarantines → ∀ d : String, s.mutationResumeBarriers[d]? ≠ none →
      s.quarantines[d]? = none → s'.quarantines[d]? = none := fun same _ _ clear => same ▸ clear
  cases m with
  | touch same aside => exact h.forget same (kept aside)
  | start _ _ _ _ _ _ _ _ _ moved aside =>
    exact h.change moved.toChange (kept aside) (stays moved.quarantines) nofun
  | enqueue _ _ _ _ _ _ _ _ moved aside =>
    exact h.change moved.toChange (kept aside) (stays moved.quarantines) nofun
  | dispatch _ _ _ _ _ _ sendable moved aside =>
    refine h.change moved.toChange (kept aside) (stays moved.quarantines) fun lost => ?_
    exact (sendable careful).2 (isLostByRestart_iff.mp lost).2
  | requestCancel _ _ sent moved aside =>
    exact h.recast moved.toRecast (kept aside) (stays moved.quarantines) (moved.toRecast.lost sent)
  | finalize _ r _ _ _ sent _ moved aside =>
    exact h.recast moved.toRecast (kept aside) (stays moved.quarantines) (moved.toRecast.lost sent)
  | quarantine id r _ _ sent moved aside =>
    have lost : r.isLostByRestart = true := isLostByRestart_iff.mpr ⟨sent, moved.normal⟩
    refine h.recast moved.toRecast (kept aside) ?_ nofun
    intro d barred clear
    rw [moved.quarantines, get_insert]
    split
    · next same =>
      rw [← same] at barred
      exact absurd (h.unbarred_of_lost moved.old lost) barred
    · exact clear
  | evidenceGap _ r _ _ moved aside =>
    exact h.recast moved.toRecast (kept aside) (stays moved.quarantines) id
  | operatorRequired _ _ _ _ moved aside =>
    exact h.recast moved.toRecast (kept aside) (stays moved.quarantines) id
  | reconcile _ _ _ _ _ _ _ _ _ moved aside => exact h.unblock moved (kept aside)
  | resolve _ _ _ _ _ moved aside => exact h.unblock moved (kept aside)
  | retire _ _ _ _ _ unresolved checked _ _ moved aside =>
    exact h.retire coherent checked (unresolved careful).2 moved (kept aside)
  | rotate _ _ _ _ moved aside => exact h.forget moved (kept aside)
  | resume deviceId _ _ _ _ _ _ _ _ _ _ same aside =>
    have cleared : Barred {s' with mutationResumeBarriers := s.mutationResumeBarriers} :=
      h.forget {same with} rfl
    have barriers : s'.mutationResumeBarriers = s.mutationResumeBarriers.erase deviceId := kept aside
    have still : ∀ (d : String) (b : MutationResumeBarrier), s'.mutationResumeBarriers[d]? = some b →
        s.mutationResumeBarriers[d]? = some b := by
      intro d b up
      rw [barriers, get_erase] at up
      split at up
      · cases up
      · exact up
    exact ⟨fun d b up => h.valid d b (still d b up),
      fun d b up => {cleared.clear d b (still d b up) with}⟩
  | attach _ _ _ _ _ _ moved aside =>
    exact h.recast moved.toRecast (kept aside) (stays moved.quarantines) id
  | prune _ _ _ _ _ moved aside => exact h.forget moved (kept aside)
  | _ =>
    rename_i moved aside
    exact h.recast moved.toRecast (kept aside) (stays moved.quarantines) nofun

/-! ### Resumes -/

/-- Every resume follows the acceptance whose barrier it lifted. -/
structure Resumed (s : AuthoritativeOperationController) : Prop where
  valid : ∀ resume ∈ s.mutationResumes, resume.isValid = true
  preceded : ∀ resume ∈ s.mutationResumes, ∃ retirement ∈ s.retirements,
    retirement.precedes resume = true
  lifted : ∀ resume ∈ s.mutationResumes, ∀ (d : String) (barrier : MutationResumeBarrier),
    s.mutationResumeBarriers[d]? = some barrier →
      barrier.sourceOperationId ≠ resume.sourceOperationId
  once : (s.mutationResumes.map MutationResumeRecord.sourceOperationId).Nodup
  few : s.mutationResumes.length ≤ maxRetirementRecords

theorem resumed_empty (limits : AdmissionLimits) : (empty limits).Resumed := by
  constructor <;> simp [empty]

theorem precedes_iff {resume : MutationResumeRecord} : retirement.precedes resume = true ↔
      retirement.operation.operationId = resume.sourceOperationId ∧
      retirement.operation.deviceId = resume.deviceId ∧
      retirement.authorizedDeviceGeneration = resume.acceptedGeneration ∧
      retirement.policy = resume.policy ∧ retirement.disposition = .currentStateAccepted ∧
      retirement.authority = .localUserPresence := by
  simp only [RetirementRecord.precedes, Bool.and_eq_true, decide_eq_true_eq, and_assoc]

theorem Resumed.frame (h : s.Resumed) (same : s'.aside.retirements = s.aside.retirements ∧
      s'.aside.mutationResumeBarriers = s.aside.mutationResumeBarriers ∧
      s'.aside.mutationResumes = s.aside.mutationResumes) : s'.Resumed := by
  obtain ⟨retirements, barriers, resumes⟩ := same
  simp only [aside] at retirements barriers resumes
  constructor
  · rw [resumes]; exact h.valid
  · rw [resumes, retirements]; exact h.preceded
  · rw [resumes, barriers]; exact h.lifted
  · rw [resumes]; exact h.once
  · rw [resumes]; exact h.few

/-- A new retirement is not the source of an earlier resume. -/
theorem Resumed.retire (h : s.Resumed) {nowMs : Nat}
    (unlisted : ∀ x ∈ s.retirements, x.operation.operationId ≠ retirement.operation.operationId)
    (aside : s'.aside = {s.aside with
        retirements := s.retirements ++ [retirement]
        mutationResumeBarriers :=
          if retirement.policy = .acknowledgedUnknownPointerClickV1 then
            s.mutationResumeBarriers.insert retirement.operation.deviceId
              (barrierFor retirement nowMs)
          else s.mutationResumeBarriers}) : s'.Resumed := by
  have retirements := congrArg Aside.retirements aside
  have barriers := congrArg Aside.mutationResumeBarriers aside
  have resumes : s'.mutationResumes = s.mutationResumes := congrArg Aside.mutationResumes aside
  simp only [AuthoritativeOperationController.aside] at retirements barriers
  constructor
  · rw [resumes]; exact h.valid
  · intro x mem
    obtain ⟨y, listed, precedes⟩ := h.preceded x (resumes ▸ mem)
    exact ⟨y, by rw [retirements]; exact List.mem_append_left _ listed, precedes⟩
  · intro x mem d barrier up
    rw [resumes] at mem
    rw [barriers] at up
    obtain ⟨y, listed, precedes⟩ := h.preceded x mem
    split at up
    · rw [get_insert] at up
      split at up
      · cases up
        rw [← (precedes_iff.mp precedes).1]
        exact (unlisted y listed).symm
      · exact h.lifted x mem d barrier up
    · exact h.lifted x mem d barrier up
  · rw [resumes]; exact h.once
  · rw [resumes]; exact h.few

/-- A rotated retirement takes its resume along. -/
theorem Resumed.rotate (h : s.Resumed) {retired : RetirementRecord}
    (aside : s'.aside = {s.aside with
        retirements := s.retirements.erase retired
        mutationResumes :=
          if retired.policy = .acknowledgedUnknownPointerClickV1 then
            s.mutationResumes.eraseP (isResumeOf retired)
          else s.mutationResumes}) : s'.Resumed := by
  have retirements := congrArg Aside.retirements aside
  have barriers : s'.mutationResumeBarriers = s.mutationResumeBarriers :=
    congrArg Aside.mutationResumeBarriers aside
  have resumes := congrArg Aside.mutationResumes aside
  simp only [AuthoritativeOperationController.aside] at retirements resumes
  have sub : s'.mutationResumes.Sublist s.mutationResumes := by
    rw [resumes]
    split
    · exact List.eraseP_sublist
    · exact List.Sublist.refl _
  constructor
  · exact fun x mem => h.valid x (sub.subset mem)
  · intro x mem
    have old := sub.subset mem
    obtain ⟨y, found, precedes⟩ := h.preceded x old
    refine ⟨y, ?_, precedes⟩
    have other : y ≠ retired := by
      rintro rfl
      have valid := h.valid x old
      simp only [MutationResumeRecord.isValid, Bool.and_eq_true, decide_eq_true_eq] at valid
      obtain ⟨source, device, accepted, policy, -, -⟩ := precedes_iff.mp precedes
      have click : y.policy = .acknowledgedUnknownPointerClickV1 := by
        rw [policy]
        exact valid.1.1.1.2
      have answers : isResumeOf y x = true :=
        isResumeOf_iff.mpr ⟨source.symm, device.symm, accepted.symm, policy.symm⟩
      rw [resumes, if_pos click] at mem
      -- Its resume is the only one with this source, and that one is gone.
      obtain ⟨z, zs, rest, earlier, answered, split_eq, erased⟩ := List.exists_of_eraseP old answers
      rw [erased] at mem
      have once := h.once
      rw [split_eq, List.map_append, List.nodup_append] at once
      have same : x.sourceOperationId = z.sourceOperationId := by
        rw [(isResumeOf_iff.mp answers).1, (isResumeOf_iff.mp answered).1]
      rw [List.mem_append] at mem
      rcases mem with mem | mem
      · exact earlier x mem answers
      · exact (List.nodup_cons.mp once.2.1).1 (same ▸ List.mem_map_of_mem mem)
    rw [retirements]
    exact (List.mem_erase_of_ne other).mpr found
  · rw [barriers]
    exact fun x mem => h.lifted x (sub.subset mem)
  · exact h.once.sublist (sub.map _)
  · exact sub.length_le.trans h.few

/-- A resume lifts the one barrier of its source. -/
theorem Resumed.resume (h : s.Resumed) (accounted : s.Accounted) {deviceId : String}
    {barrier : MutationResumeBarrier} {record : MutationResumeRecord}
    (raised : s.mutationResumeBarriers[deviceId]? = some barrier)
    (source : record.sourceOperationId = barrier.sourceOperationId)
    (device : record.deviceId = barrier.deviceId)
    (accepted : record.acceptedGeneration = barrier.acceptedGeneration)
    (policy : record.policy = barrier.policy) (valid : record.isValid = true)
    (room : s.mutationResumes.length < maxRetirementRecords)
    (aside : s'.aside = {s.aside with
        mutationResumeBarriers := s.mutationResumeBarriers.erase deviceId
        mutationResumes := s.mutationResumes ++ [record]}) : s'.Resumed := by
  have retirements : s'.retirements = s.retirements := congrArg Aside.retirements aside
  have barriers := congrArg Aside.mutationResumeBarriers aside
  have resumes := congrArg Aside.mutationResumes aside
  simp only [AuthoritativeOperationController.aside] at barriers resumes
  obtain ⟨keyed, retirement, listed, raises⟩ := accounted.raised deviceId barrier raised
  obtain ⟨source', device', -, accepted', policy', disposition, authority⟩ := raised_iff.mp raises
  constructor
  · intro x mem
    rw [resumes, List.mem_append, List.mem_singleton] at mem
    rcases mem with mem | rfl
    · exact h.valid x mem
    · exact valid
  · intro x mem
    rw [resumes, List.mem_append, List.mem_singleton] at mem
    rw [retirements]
    rcases mem with mem | rfl
    · exact h.preceded x mem
    · exact ⟨retirement, listed, precedes_iff.mpr ⟨source'.trans source.symm,
        device'.trans device.symm, accepted'.trans accepted.symm, policy'.trans policy.symm,
        disposition, authority⟩⟩
  · intro x mem d b up
    rw [barriers, get_erase] at up
    split at up
    · cases up
    · next other =>
      rw [resumes, List.mem_append, List.mem_singleton] at mem
      rcases mem with mem | rfl
      · exact h.lifted x mem d b up
      · intro same
        -- Two barriers of one source were raised by one retirement, on its device.
        obtain ⟨keyed', y, listed', raises'⟩ := accounted.raised d b up
        obtain ⟨from', on', -⟩ := raised_iff.mp raises'
        obtain rfl := accounted.unique listed listed' (by rw [source', from', same, source])
        exact other (by rw [← keyed, ← keyed', ← device', on'])
  · rw [resumes, List.map_append, List.map_singleton, List.nodup_append]
    refine ⟨h.once, List.nodup_singleton _, fun a mem b mem' same => ?_⟩
    rw [List.mem_singleton] at mem'
    obtain ⟨x, listed, rfl⟩ := List.mem_map.mp mem
    exact h.lifted x listed deviceId barrier raised (by rw [same, mem', source])
  · rw [resumes, List.length_append]
    exact room

theorem Resumed.move (h : s.Resumed) (orderly : s.Orderly) (m : Move care s s') : s'.Resumed := by
  cases m with
  | neverEnqueued _ _ _ _ _ _ _ _ _ _ _ _ aside => exact h.frame (by rw [aside]; exact ⟨rfl, rfl, rfl⟩)
  | reconcile _ _ _ _ _ _ _ _ _ _ aside => exact h.frame (by rw [aside]; exact ⟨rfl, rfl, rfl⟩)
  | resolve _ _ _ _ _ _ aside => exact h.frame (by rw [aside]; exact ⟨rfl, rfl, rfl⟩)
  | prune _ _ _ _ _ _ aside => exact h.frame (by rw [aside]; exact ⟨rfl, rfl, rfl⟩)
  | retire id _ retirement _ _ _ checked _ _ _ aside =>
    obtain ⟨x, retirable⟩ := retirable_of_ok checked
    have names : retirement.operation.operationId = id := by
      rw [retirable.operation, orderly.coherent.keyed id x retirable.old]
    exact h.retire (names ▸ retirable.unlisted) aside
  | rotate _ _ _ _ _ aside => exact h.rotate aside
  | resume _ _ _ raised source device accepted policy valid room _ _ aside =>
    exact h.resume orderly.accounted raised source device accepted policy valid room aside
  | _ =>
    rename_i aside
    exact h.frame (aside_frame aside)

/-! ### Automatic settlements -/

/-- The automatic settlements and the records they settled say the same. -/
structure AutoFiled (s : AuthoritativeOperationController) : Prop where
  few : s.autoResolutions.length ≤ maxAutoResolutionRecords
  once : (s.autoResolutions.map fun history => history.operation.operationId).Nodup
  told : ∀ (id : String) (r : SafetyOperation), s.operations[id]? = some r →
    r.reconciliationStatus = some .autoResolved →
      ∃ history ∈ s.autoResolutions, history.settles r = true
  agrees : ∀ history ∈ s.autoResolutions, ∀ r : SafetyOperation,
    s.operations[history.operation.operationId]? = some r → history.settles r = true

theorem autoFiled_empty (limits : AdmissionLimits) : (empty limits).AutoFiled := by
  constructor <;> simp [empty]

theorem settles_iff : history.settles r = true ↔
    r.reconciliationStatus = some .autoResolved ∧ r.operation = history.operation ∧
      r.capability = history.capability ∧ r.state = history.terminalState ∧
      r.receipt.map ExecutionReceipt.evidence = some history.evidence ∧
      r.dispatchBinding = some history.dispatchBinding := by
  simp only [settles, Bool.and_eq_true, decide_eq_true_eq, and_assoc]

/-- A record with another status was never settled automatically. -/
theorem AutoFiled.unlisted (h : s.AutoFiled) (found : s.operations[id]? = some r)
    (status : r.reconciliationStatus ≠ some .autoResolved) (history : AutoResolutionRecord)
    (mem : history ∈ s.autoResolutions) : history.operation.operationId ≠ id := by
  rintro rfl
  exact status (settles_iff.mp (h.agrees history mem r found)).1

theorem AutoFiled.change (h : s.AutoFiled) (m : Change s s' id r')
    (same : s'.autoResolutions = s.autoResolutions)
    (unlisted : ∀ history ∈ s.autoResolutions, history.operation.operationId ≠ id)
    (status : r'.reconciliationStatus ≠ some .autoResolved) : s'.AutoFiled := by
  constructor
  · rw [same]; exact h.few
  · rw [same]; exact h.once
  · intro a x found resolved
    rw [same]
    rw [m.operations, get_insert] at found
    split at found
    · cases found
      exact absurd resolved status
    · exact h.told a x found resolved
  · intro history mem x found
    rw [same] at mem
    rw [m.operations, get_insert_of_ne (unlisted history mem).symm] at found
    exact h.agrees history mem x found

theorem AutoFiled.recast (h : s.AutoFiled) (m : Recast s s' id r r')
    (same : s'.autoResolutions = s.autoResolutions)
    (old : r.reconciliationStatus ≠ some .autoResolved)
    (new : r'.reconciliationStatus ≠ some .autoResolved) : s'.AutoFiled :=
  h.change m.toChange same (h.unlisted m.old old) new

theorem AutoFiled.forget (h : s.AutoFiled) {gone : String → Bool} (m : Forget s s' gone)
    (same : s'.autoResolutions = s.autoResolutions) : s'.AutoFiled := by
  have kept : ∀ (a : String) (x : SafetyOperation), s'.operations[a]? = some x →
      s.operations[a]? = some x := by
    intro a x found
    rw [m.operations] at found
    split at found
    · cases found
    · exact found
  constructor
  · rw [same]; exact h.few
  · rw [same]; exact h.once
  · rw [same]; exact fun a x found => h.told a x (kept a x found)
  · rw [same]; exact fun y mem x found => h.agrees y mem x (kept _ x found)

/-- What is left of the history when one more settlement is filed. -/
theorem mem_pushAutoResolution (record : AutoResolutionRecord)
    (few : histories.length ≤ maxAutoResolutionRecords) :
    history ∈ pushAutoResolution histories record ↔ history = record ∨
      history ∈ histories.drop (histories.length + 1 - maxAutoResolutionRecords) := by
  have short : histories.length + 1 - maxAutoResolutionRecords ≤ histories.length := by
    simp only [maxAutoResolutionRecords] at few ⊢
    omega
  simp only [pushAutoResolution, List.length_append, List.length_singleton]
  rw [List.drop_append_of_le_length short, List.mem_append, List.mem_singleton, or_comm]

/-- One more settlement is filed with the record it settles. -/
theorem AutoFiled.push (h : s.AutoFiled) (coherent : s.Coherent) (m : Change s s' id r')
    (names : record.operation.operationId = id)
    (unlisted : ∀ history ∈ s.autoResolutions, history.operation.operationId ≠ id)
    (settles : record.settles r' = true) (spare : s.Spare)
    (pushed : s'.autoResolutions = pushAutoResolution s.autoResolutions record) : s'.AutoFiled := by
  have mem_iff : ∀ history, history ∈ s'.autoResolutions ↔ history = record ∨
      history ∈ s.autoResolutions.drop (s.autoResolutions.length + 1 - maxAutoResolutionRecords) :=
    fun history => by rw [pushed, mem_pushAutoResolution record h.few]
  constructor
  · rw [pushed, pushAutoResolution, List.length_drop, List.length_append]
    omega
  · rw [pushed]
    refine List.Nodup.sublist (List.Sublist.map _ (List.drop_sublist _ _)) ?_
    rw [List.map_append, List.map_singleton, List.nodup_append]
    refine ⟨h.once, List.nodup_singleton _, fun a mem b mem' same => ?_⟩
    obtain ⟨history, listed, rfl⟩ := List.mem_map.mp mem
    rw [List.mem_singleton] at mem'
    exact unlisted history listed (by rw [same, mem', names])
  · intro a x found resolved
    rw [m.operations, get_insert] at found
    split at found
    · cases found
      exact ⟨record, (mem_iff record).mpr (.inl rfl), settles⟩
    · obtain ⟨history, listed, settled⟩ := h.told a x found resolved
      refine ⟨history, (mem_iff history).mpr (.inr ?_), settled⟩
      have key : history.operation.operationId = a := by
        rw [← (settles_iff.mp settled).2.1, coherent.keyed a x found]
      -- Only the oldest entry is dropped, and its record is gone.
      cases histories : s.autoResolutions with
      | nil =>
        rw [histories] at listed
        cases listed
      | cons oldest rest =>
        by_cases full : maxAutoResolutionRecords ≤ s.autoResolutions.length
        · have gone := spare oldest (by rw [histories]; rfl) full
          have one : (oldest :: rest).length + 1 - maxAutoResolutionRecords = 1 := by
            have few := h.few
            rw [histories] at few full
            omega
          rw [one, List.drop_one]
          rw [histories, List.mem_cons] at listed
          rcases listed with rfl | listed
          · rw [key, found] at gone
            cases gone
          · exact listed
        · rw [histories] at full listed
          rw [Nat.sub_eq_zero_of_le (Nat.lt_of_not_le full)]
          exact listed
  · intro history mem x found
    rcases (mem_iff history).mp mem with rfl | mem
    · rw [m.operations, names, get_insert_self, Option.some.injEq] at found
      exact found ▸ settles
    · have old := List.mem_of_mem_drop mem
      rw [m.operations, get_insert_of_ne (unlisted history old).symm] at found
      exact h.agrees history old x found

/-- Nothing but a settled record is settled automatically. -/
theorem not_autoResolved (sound : r.Sound) (open_ : r.state.phase ≠ .settled) :
    r.reconciliationStatus ≠ some .autoResolved := by
  cases phase : r.state.phase with
  | settled => exact absurd phase open_
  | ambiguous =>
    obtain ⟨status, eq, unrecovered | ⟨waits, -⟩⟩ := (sound.ambiguous phase).status
    · rw [eq]
      rintro ⟨rfl⟩
      cases unrecovered
    · rw [eq, waits]
      decide
  | waiting =>
    rw [(sound.pending ((isUnsettled_iff _).mpr (.inl phase))).2.2]
    decide
  | running =>
    rw [(sound.pending ((isUnsettled_iff _).mpr (.inr phase))).2.2]
    decide

/-- A change of the result alone. -/
theorem AutoFiled.attach (h : s.AutoFiled) {result : RecoverableOperationResult}
    (m : Restate s s' id r {r with recoverableResult := some result})
    (same : s'.autoResolutions = s.autoResolutions) : s'.AutoFiled := by
  constructor
  · rw [same]; exact h.few
  · rw [same]; exact h.once
  · intro a x found resolved
    rw [same]
    rw [m.operations, get_insert] at found
    split at found
    · cases found
      exact h.told id r m.old resolved
    · exact h.told a x found resolved
  · intro history mem x found
    rw [same] at mem
    rw [m.operations, get_insert] at found
    split at found
    · next key =>
      cases found
      exact h.agrees history mem r (key ▸ m.old)
    · exact h.agrees history mem x found

theorem AutoFiled.move (h : s.AutoFiled) (orderly : s.Orderly) (filing : care.filing)
    (m : Move care s s') : s'.AutoFiled := by
  have kept {a : Aside} (aside : s'.aside = a) : s'.autoResolutions = a.autoResolutions :=
    congrArg Aside.autoResolutions aside
  have clear {id : String} {r : SafetyOperation} (old : s.operations[id]? = some r)
      (phase : r.state.phase ≠ .settled) : r.reconciliationStatus ≠ some .autoResolved :=
    not_autoResolved (orderly.sound _ _ old) phase
  -- A record that has not settled, and is not settled by evidence now.
  have recast {id : String} {r r' : SafetyOperation} (moved : Recast s s' id r r')
      (same : s'.autoResolutions = s.autoResolutions) (phase : r.state.phase ≠ .settled)
      (new : r.reconciliationStatus ≠ some .autoResolved →
        r'.reconciliationStatus ≠ some .autoResolved) : s'.AutoFiled :=
    h.recast moved same (clear moved.old phase) (new (clear moved.old phase))
  have running {r : SafetyOperation} (phase : r.state.phase = .running) : r.state.phase ≠ .settled := by
    rw [phase]
    decide
  have waiting {r : SafetyOperation} (phase : r.state.phase = .waiting) : r.state.phase ≠ .settled := by
    rw [phase]
    decide
  have ambiguity {r : SafetyOperation} (state : r.state = .indeterminate) :
      r.state.phase ≠ .settled := by
    rw [state]
    decide
  cases m with
  | start _ _ _ _ _ _ _ _ unfiled moved aside =>
    exact h.change moved.toChange (kept aside) (unfiled filing) nofun
  | enqueue _ _ _ _ _ _ _ unfiled moved aside =>
    exact h.change moved.toChange (kept aside) (unfiled filing) nofun
  | promote _ _ moved aside => exact recast moved.toRecast (kept aside) (waiting moved.waited) id
  | dispatch _ _ _ _ ready _ _ moved aside =>
    exact recast moved.toRecast (kept aside) (by rw [ready]; decide) nofun
  | requestCancel _ _ sent moved aside =>
    exact recast moved.toRecast (kept aside) (running (phase_of_isInFlight sent)) id
  | cancelWaiting _ _ _ moved aside =>
    exact recast moved.toRecast (kept aside) (waiting moved.waited) id
  | cancelUndispatched _ _ _ _ moved aside =>
    exact recast moved.toRecast (kept aside) (running moved.running) id
  | finalize _ _ _ _ _ _ _ moved aside =>
    exact recast moved.toRecast (kept aside) (running moved.running) id
  | neverEnqueued id r _ _ _ _ _ bound _ _ spare moved aside =>
    refine h.push orderly.coherent moved.toChange
      (show r.operation.operationId = id from orderly.coherent.keyed id r moved.old)
      (h.unlisted moved.old (clear moved.old (running moved.running))) ?_ (spare filing) (kept aside)
    exact settles_iff.mpr ⟨rfl, rfl, rfl, rfl, rfl, bound⟩
  | interruptRead _ _ _ _ _ moved aside =>
    exact recast moved.toRecast (kept aside) (running moved.running) nofun
  | quarantine id r reason _ _ moved aside =>
    refine recast moved.toRecast (kept aside) (running moved.running) fun _ => ?_
    simp only [becomeAmbiguous, defaultReconciliationStatus]
    split <;> decide
  | evidenceGap _ _ ambiguous _ moved aside =>
    exact recast moved.toRecast (kept aside) (ambiguity ambiguous) (by simp)
  | operatorRequired _ _ ambiguous _ moved aside =>
    exact recast moved.toRecast (kept aside) (ambiguity ambiguous) (by simp)
  | reconcile r terminal nowMs ambiguous _ _ operation bound spare moved aside =>
    have named : r.operation.operationId = terminal.operation.operationId := by rw [operation]
    refine h.push orderly.coherent moved.toChange named
      (h.unlisted moved.old (clear moved.old (ambiguity ambiguous))) ?_ (spare filing) (kept aside)
    exact settles_iff.mpr ⟨rfl, rfl, rfl, rfl, rfl, bound⟩
  | resolve _ _ _ ambiguous _ moved aside =>
    exact recast moved.toRecast (kept aside) (ambiguity ambiguous) nofun
  | retire _ _ _ _ _ _ _ _ _ moved aside =>
    have same : s'.autoResolutions = s.autoResolutions := kept aside
    exact ⟨by rw [same]; exact h.few, by rw [same]; exact h.once,
      by rw [same, moved.operations]; exact h.told, by rw [same, moved.operations]; exact h.agrees⟩
  | attach _ _ _ _ _ _ moved aside => exact h.attach moved (kept aside)
  | _ =>
    rename_i same aside
    exact h.forget same (kept aside)

/-- What is left of a history is old or the new entry. -/
theorem of_mem_pushAutoResolution (mem : history ∈ pushAutoResolution histories record) :
    history ∈ histories ∨ history = record := by
  simpa using List.mem_of_mem_drop mem

/-- Automatic settlements that agree with their records and are well formed. -/
structure AutoSettled (s : AuthoritativeOperationController) : Prop extends AutoFiled s where
  valid : ∀ history ∈ s.autoResolutions, history.isValid = true

theorem autoSettled_empty (limits : AdmissionLimits) : (empty limits).AutoSettled where
  toAutoFiled := autoFiled_empty limits
  valid := fun _ mem => absurd mem List.not_mem_nil

theorem AutoSettled.move (h : s.AutoSettled) (orderly : s.Orderly) (legible : care.legible)
    (filing : care.filing) (m : Move care s s') : s'.AutoSettled := by
  refine ⟨h.toAutoFiled.move orderly filing m, ?_⟩
  have same : ∀ {a : Aside}, s'.aside = a → a.autoResolutions = s.autoResolutions →
      ∀ history ∈ s'.autoResolutions, history.isValid = true := by
    rintro a rfl kept history mem
    exact h.valid history (kept ▸ mem)
  have pushed : ∀ {record : AutoResolutionRecord}, record.isValid = true →
      s'.autoResolutions = pushAutoResolution s.autoResolutions record →
        ∀ history ∈ s'.autoResolutions, history.isValid = true := by
    intro record valid eq history mem
    rw [eq] at mem
    rcases of_mem_pushAutoResolution mem with mem | rfl
    · exact h.valid history mem
    · exact valid
  cases m with
  | neverEnqueued id r binding evidence nowMs _ _ bound proof bounded _ moved aside =>
    refine pushed ?_ (congrArg Aside.autoResolutions aside)
    have valid := (orderly.sound id r moved.old).bound
    rw [bound, Option.all_some] at valid
    simp only [isValid, autoResolutionOf, bounded legible, valid, Bool.true_and,
      Bool.or_eq_true]
    exact .inr (by simpa [authoritativeHubPreEnqueueNonDeliveryPair] using proof)
  | reconcile r terminal nowMs _ _ valid operation _ _ _ aside =>
    refine pushed ?_ (congrArg Aside.autoResolutions aside)
    simp only [AgentTerminalEvidence.isValid, Bool.and_eq_true] at valid
    simp only [isValid, autoResolutionOf, Bool.and_eq_true, Bool.or_eq_true]
    exact ⟨⟨operation ▸ valid.1.2, valid.1.1⟩, .inl valid.2⟩
  | _ =>
    rename_i aside
    exact same aside rfl

end AuthoritativeOperationController

end Gateway.Execution
