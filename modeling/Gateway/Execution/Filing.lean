import Gateway.Execution.Soundness

/-! Quarantines and archived results.

A quarantine is about a record of the ledger and copies who owns it; an archived
result is about a record the ledger no longer has, and the archive stays within
its bounds. -/
namespace Gateway.Execution
open Data Device Table

namespace AuthoritativeOperationController
variable {care : Care} {s s' : AuthoritativeOperationController} {id : String}
  {r r' : SafetyOperation}

/-- A quarantine of device `d` tells of a record. -/
def TellsOf (s : AuthoritativeOperationController) (d : String) (q : DesktopQuarantine) : Prop :=
  q.deviceId = d ∧ ∃ r, s.operations[q.operationId]? = some r ∧ r.operation.deviceId = d ∧
    r.operation.deviceGeneration = q.deviceGeneration ∧ r.owner = q.owner

/-- An archived result stands for a record that is gone. -/
def StandsFor (s : AuthoritativeOperationController) (id : String)
    (archived : ArchivedOperationRecovery) : Prop :=
  archived.operation.operationId = id ∧ archived.isValid = true ∧ s.operations[id]? = none

structure Filed (s : AuthoritativeOperationController) : Prop where
  quarantine : ∀ (d : String) (q : DesktopQuarantine), s.quarantines[d]? = some q → s.TellsOf d q
  archived : ∀ (id : String) (a : ArchivedOperationRecovery), s.recoveryArchive[id]? = some a →
    s.StandsFor id a
  bounded : archiveFits s.recoveryArchive = true

theorem filed_empty (limits : AdmissionLimits) : (empty limits).Filed := by
  constructor
  case bounded => rfl
  all_goals simp [empty]

/-! ### Quarantines -/

variable {q : DesktopQuarantine} {gone : String → Bool} {a : String}
  {archive : Table ArchivedOperationRecovery} {entry : ArchivedOperationRecovery}

/-- A record that keeps its identity is told of as before. -/
theorem Recast.tellsOf (m : Recast s s' id r r') {d : String} (h : s.TellsOf d q) :
    s'.TellsOf d q := by
  obtain ⟨device, x, found, rest⟩ := h
  refine ⟨device, ?_⟩
  rw [m.operations, get_insert]
  split
  · next same =>
    rw [← same, m.old, Option.some.injEq] at found
    subst found
    exact ⟨r', rfl, by rw [m.operation, m.owner]; exact rest⟩
  · exact ⟨x, found, rest⟩

theorem Change.tellsOf (m : Change s s' id r') (new : s.operations[id]? = none) {d : String}
    (h : s.TellsOf d q) : s'.TellsOf d q := by
  obtain ⟨device, x, found, rest⟩ := h
  refine ⟨device, x, ?_, rest⟩
  rw [m.operations, get_insert_of_ne, found]
  intro same
  rw [← same, new] at found
  cases found

/-- The record that quarantines a device is not forgotten. -/
theorem Forget.tellsOf (m : Forget s s' gone) (h : s.Coherent) {d : String}
    (held : s.quarantines[d]? = some q) (tells : s.TellsOf d q) : s'.TellsOf d q := by
  obtain ⟨device, x, found, rest⟩ := tells
  refine ⟨device, x, ?_, rest⟩
  have blocking : s.admission.blockedByIndeterminate[d]? = some q.operationId := by
    rw [h.quarantined, held, Option.map_some]
  rw [m.operations, found]
  split
  · next out =>
    rcases m.idle _ x out found with settled | ⟨-, retired⟩
    · have block := (h.blocked _ _).mp blocking
      rw [blockOf_of_get found,
        SafetyOperation.blocks_of_not_ambiguous (by simp [settled])] at block
      cases block
    · exact absurd retired (h.unretired_of_blocking blocking)
  · rfl

/-! ### The archive -/

theorem Recast.absent (m : Recast s s' id r r') (h : s.operations[a]? = none) :
    s'.operations[a]? = none := by
  rw [m.operations, get_insert_of_ne, h]
  rintro rfl
  rw [m.old] at h
  cases h

theorem Forget.absent (m : Forget s s' gone) (h : s.operations[a]? = none) :
    s'.operations[a]? = none := by
  rw [m.operations, h, ite_self]

/-- Nothing is archived and no archived id comes back. -/
theorem Filed.kept (h : s.Filed) (archive : s'.aside.recoveryArchive = s.aside.recoveryArchive)
    (absent : ∀ a : String, s.recoveryArchive[a]? ≠ none → s.operations[a]? = none →
      s'.operations[a]? = none)
    (quarantine : ∀ (d : String) (q : DesktopQuarantine), s'.quarantines[d]? = some q →
      s'.TellsOf d q) : s'.Filed := by
  have same : s'.recoveryArchive = s.recoveryArchive := archive
  refine ⟨quarantine, ?_, by rw [same]; exact h.bounded⟩
  intro a entry found
  rw [same] at found
  obtain ⟨names, valid, gone⟩ := h.archived a entry found
  exact ⟨names, valid, absent a (by simp [found]) gone⟩

/-- A record that keeps its identity, under the same quarantines. -/
theorem Filed.recast (h : s.Filed) (m : Recast s s' id r r')
    (archive : s'.aside.recoveryArchive = s.aside.recoveryArchive)
    (quarantines : s'.quarantines = s.quarantines) : s'.Filed := by
  refine h.kept archive (fun _ _ => m.absent) fun d q held => m.tellsOf (h.quarantine d q ?_)
  rwa [quarantines] at held

theorem Filed.unblock (h : s.Filed) (m : Unblock s s' id r r')
    (archive : s'.aside.recoveryArchive = s.aside.recoveryArchive) : s'.Filed := by
  refine h.kept archive (fun _ _ => m.absent) fun d q held => m.tellsOf (h.quarantine d q ?_)
  rw [m.quarantines, get_erase] at held
  split at held
  · cases held
  · exact held

/-- A new record, under an id the archive does not have. -/
theorem Filed.new (h : s.Filed) (m : Change s s' id r') (new : s.operations[id]? = none)
    (unarchived : s.recoveryArchive[id]? = none)
    (archive : s'.aside.recoveryArchive = s.aside.recoveryArchive)
    (quarantines : s'.quarantines = s.quarantines) : s'.Filed := by
  refine h.kept archive ?_ fun d q held => m.tellsOf new (h.quarantine d q ?_)
  · intro a filed gone
    rw [m.operations, get_insert_of_ne, gone]
    rintro rfl
    exact filed unarchived
  · rwa [quarantines] at held

/-- An entry of the archive was there or has just been added. -/
theorem mem_archiveEach {entries : List ArchivedOperationRecovery}
    {archive' : Table ArchivedOperationRecovery}
    (ok : archiveEach entries archive = (.ok (), archive')) (found : archive'[a]? = some entry) :
    archive[a]? = some entry ∨
      entry ∈ entries ∧ entry.operation.operationId = a ∧ entry.isValid = true := by
  induction entries generalizing archive with
  | nil =>
    cases ok
    exact .inl found
  | cons first rest ih =>
    rw [archiveEach] at ok
    split at ok
    · cases ok
    · next valid =>
      rcases ih ok with old | ⟨mem, rest⟩
      · rw [get_insert] at old
        split at old
        · next names =>
          cases old
          exact .inr ⟨List.mem_cons_self, names, not_not.mp valid⟩
        · exact .inl old
      · exact .inr ⟨List.mem_cons_of_mem _ mem, rest⟩

theorem get_boundRecoveryArchive {rounds : Nat}
    (found : (boundRecoveryArchive rounds archive)[a]? = some entry) :
    archive[a]? = some entry := by
  induction rounds generalizing archive with
  | zero => exact found
  | succ rounds ih =>
    rw [boundRecoveryArchive] at found
    split at found
    · exact found
    · split at found
      · exact found
      · have kept := ih found
        rw [get_erase] at kept
        split at kept
        · cases kept
        · exact kept

/-- Bounding an archive filed by its ids brings it within its bounds. -/
theorem archiveFits_bound {rounds : Nat}
    (keyed : ∀ (a : String) (entry : ArchivedOperationRecovery), archive[a]? = some entry →
      entry.operation.operationId = a) (enough : archive.size ≤ rounds) :
    archiveFits (boundRecoveryArchive rounds archive) = true := by
  induction rounds generalizing archive with
  | zero =>
    have empty : archive = ∅ := Std.ExtTreeMap.eq_empty_iff_size_eq_zero.mpr (Nat.le_zero.mp enough)
    subst empty
    rfl
  | succ rounds ih =>
    rw [boundRecoveryArchive]
    split
    · next within => simpa [archiveFits] using within
    · next crowds =>
      split
      · next none_left =>
        have empty : archive.values = [] := by
          by_contra some_left
          obtain ⟨oldest, found⟩ := leastBy_isSome some_left
          rw [none_left] at found
          cases found
        rw [archiveFits, recoveryArchiveEncodedBytes, ← length_values, empty]
        rfl
      · next oldest found =>
        obtain ⟨a, filed⟩ := mem_values.mp (mem_of_leastBy found)
        refine ih ?_ ?_
        · intro b entry kept
          rw [get_erase] at kept
          split at kept
          · cases kept
          · exact keyed b entry kept
        · have present : oldest.operation.operationId ∈ archive :=
            mem_iff_get.mpr ⟨oldest, by rw [keyed a oldest filed]; exact filed⟩
          rw [Std.ExtTreeMap.size_erase, if_pos (Std.ExtTreeMap.mem_iff_contains.mp present)]
          omega

section
variable (h : s.Filed) (coherent : s.Coherent)
include h coherent

/-- Pruned records with a result are archived, and no record is both. -/
theorem Filed.prune {deviceId : String} {currentGeneration : Nat} (archived : archiveEach
      ((s.operations.values.filter fun record =>
        isPrunable deviceId currentGeneration record && record.recoverableResult.isSome).filterMap
          fun record => (archivedFor record).toOption) s.recoveryArchive = (.ok (), archive))
    (moved : Forget s s' fun a => s.operations[a]?.any (isPrunable deviceId currentGeneration))
    (same : s'.recoveryArchive = boundRecoveryArchive archive.size archive) : s'.Filed := by
  have filed : ∀ (a : String) (entry : ArchivedOperationRecovery), archive[a]? = some entry →
      s'.StandsFor a entry := by
    intro a entry found
    rcases mem_archiveEach archived found with old | ⟨mem, names, valid⟩
    · obtain ⟨names, valid, gone⟩ := h.archived a entry old
      exact ⟨names, valid, moved.absent gone⟩
    · refine ⟨names, valid, ?_⟩
      obtain ⟨record, mem, eq⟩ := List.mem_filterMap.mp mem
      rw [List.mem_filter, Bool.and_eq_true, mem_values] at mem
      obtain ⟨⟨b, filed⟩, prunable, -⟩ := mem
      -- The entry is the record's own, so it is filed where the record was.
      have same_id : entry.operation = record.operation := by
        unfold archivedFor at eq
        split at eq <;> cases eq
        rfl
      have here : b = a := by rw [← names, same_id, coherent.keyed b record filed]
      subst here
      rw [moved.operations, filed, Option.any_some, if_pos prunable]
  refine ⟨?_, ?_, ?_⟩
  · intro d q held
    rw [moved.quarantines] at held
    exact moved.tellsOf coherent held (h.quarantine d q held)
  · intro a entry found
    rw [same] at found
    exact filed a entry (get_boundRecoveryArchive found)
  · rw [same]
    exact archiveFits_bound (fun a entry found => (filed a entry found).1) (Nat.le_refl _)

theorem Filed.forget (m : Forget s s' gone)
    (archive : s'.aside.recoveryArchive = s.aside.recoveryArchive) : s'.Filed := by
  refine h.kept archive (fun _ _ => m.absent) fun d q held => ?_
  rw [m.quarantines] at held
  exact m.tellsOf coherent held (h.quarantine d q held)

theorem Filed.quarantineMove {reason : IndeterminateReason} {nowMs : Nat}
    (m : Quarantine s s' id r (r.becomeAmbiguous reason) (quarantineFor r reason nowMs))
    (archive : s'.aside.recoveryArchive = s.aside.recoveryArchive) : s'.Filed := by
  refine h.kept archive (fun _ _ => m.absent) fun d q held => ?_
  rw [m.quarantines, get_insert] at held
  split at held
  · next device =>
    cases held
    refine ⟨device, r.becomeAmbiguous reason, ?_, device, rfl, rfl⟩
    rw [m.operations, quarantineFor, coherent.keyed id r m.old]
    exact get_insert_self _ _ _
  · exact m.tellsOf (h.quarantine d q held)

/-- Every move keeps quarantines and archive filed. -/
theorem Filed.move (m : Move care s s') : s'.Filed := by
  cases m with
  | touch same aside => exact h.forget coherent same (by rw [aside])
  | start _ _ _ _ _ _ admissible _ _ moved aside =>
    exact h.new moved.toChange moved.new admissible.unarchived (by rw [aside]) moved.quarantines
  | enqueue _ _ _ _ _ admissible _ _ moved aside =>
    exact h.new moved.toChange moved.new admissible.unarchived (by rw [aside]) moved.quarantines
  | quarantine _ _ _ _ _ moved aside => exact h.quarantineMove coherent moved (by rw [aside])
  | reconcile _ _ _ _ _ _ _ _ _ moved aside => exact h.unblock moved (by rw [aside])
  | resolve _ _ _ _ _ moved aside => exact h.unblock moved (by rw [aside])
  | retire _ _ _ _ _ _ _ _ _ moved aside =>
    refine h.kept (by rw [aside]) (fun a _ gone => by rw [moved.operations, gone]) fun d q held => ?_
    rw [moved.quarantines, get_erase] at held
    split at held
    · cases held
    · rw [TellsOf, moved.operations]
      exact h.quarantine d q held
  | rotate _ _ _ _ moved aside => exact h.forget coherent moved (by rw [aside])
  | resume _ _ _ _ _ _ _ _ _ _ _ same aside => exact h.forget coherent same (by rw [aside])
  | prune _ _ _ archived _ moved aside =>
    exact h.prune coherent archived moved (congrArg Aside.recoveryArchive aside)
  | _ =>
    rename_i moved aside
    exact h.recast moved.toRecast (by rw [aside]) moved.quarantines

theorem Filed.moves (m : Moves care s s') : s'.Filed := by
  induction m with
  | refl => exact h
  | tail first last ih => exact ih.move (coherent.moves first) last

end

end AuthoritativeOperationController

end Gateway.Execution
