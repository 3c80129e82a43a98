import Gateway.Data.Eviction
import Gateway.Execution.Agreement
import Gateway.Execution.Lag

/-! What a prune keeps of the results it drops.

The results of the operations a prune drops join those archived before; of all of them, oldest
first, the archive keeps the longest end that is within its two bounds. Neither ledger keeps an
operation that was dropped, and no operation is both recorded and archived. -/
namespace Gateway.Execution
open Data Device ArchivedOperationRecovery Table Eviction HubOperationState Machine

def ArchivedOperationRecovery.finalizedAtMs (archived : ArchivedOperationRecovery) : Nat :=
  archived.receipt.finalizedAtMs

def ArchivedOperationRecovery.operationId (archived : ArchivedOperationRecovery) : String :=
  archived.operation.operationId

namespace AuthoritativeOperationController
variable {s : AuthoritativeOperationController} {deviceId id : String} {currentGeneration : Nat}

/-- Archived results, the one settled first before the others. -/
def byAge (entries : List ArchivedOperationRecovery) : List ArchivedOperationRecovery :=
  chronological finalizedAtMs
    operationId entries

/-- As many results as the archive may hold, in number and in bytes. -/
def Archivable (entries : List ArchivedOperationRecovery) : Prop :=
  entries.length ≤ maxRecoveryArchiveEntries ∧
    (entries.map encodedLen).sum ≤ maxRecoveryArchiveBytes

/-- The results of the operations that a prune drops. -/
def prunedResults (s : AuthoritativeOperationController) (deviceId : String)
    (currentGeneration : Nat) : List ArchivedOperationRecovery :=
  (s.operations.values.filter fun record =>
    isPrunable deviceId currentGeneration record && record.recoverableResult.isSome).filterMap
      fun record => (archivedFor record).toOption

/-! ### Bounding the archive -/

variable {entries : List ArchivedOperationRecovery} {archive : Table ArchivedOperationRecovery}
  {archived : ArchivedOperationRecovery}

theorem archivable_of_perm {entries' : List ArchivedOperationRecovery}
    (perm : entries'.Perm entries) : Archivable entries' ↔ Archivable entries := by
  rw [Archivable, Archivable, perm.length_eq, (perm.map _).sum_eq]

/-- The archive is within its bounds as a table when it is as a list. -/
theorem archivable_values :
    Archivable (byAge archive.values) ↔ archive.size ≤ maxRecoveryArchiveEntries ∧
      recoveryArchiveEncodedBytes archive ≤ maxRecoveryArchiveBytes := by
  rw [byAge, archivable_of_perm (chronological_perm _ _ _), Archivable, length_values,
    recoveryArchiveEncodedBytes]

/-- Dropping the oldest until the rest fits keeps the longest end that fits. -/
theorem newest_bound {rounds : Nat}
    (filed : Eviction.Filed operationId archive)
    (enough : archive.size ≤ rounds) : Eviction.Newest Archivable (byAge archive.values)
      (byAge (boundRecoveryArchive rounds archive).values) := by
  induction rounds generalizing archive with
  | zero =>
    have empty : archive = ∅ := Std.ExtTreeMap.eq_empty_iff_size_eq_zero.mpr (Nat.le_zero.mp enough)
    subst empty
    exact .self (archivable_values.mpr (by decide))
  | succ rounds ih =>
    rw [boundRecoveryArchive]
    split
    · next within => exact .self (archivable_values.mpr within)
    · next crowds =>
      split
      · next none_left =>
        have empty : archive.values = [] := by
          by_contra some_left
          obtain ⟨oldest, found⟩ := leastBy_isSome some_left
          rw [none_left] at found
          cases found
        refine absurd (archivable_values.mp ?_) crowds
        rw [empty]
        exact ⟨Nat.zero_le _, Nat.zero_le _⟩
      · next oldest found =>
        have mem := mem_of_leastBy found
        have perm := filed.values_erase mem
        have first : byAge archive.values =
            oldest :: byAge (archive.erase oldest.operation.operationId).values :=
          chronological_of_leastBy filed.nodup_values found perm
        have fewer : (archive.erase oldest.operation.operationId).size ≤ rounds := by
          have count := perm.length_eq
          rw [List.length_cons, length_values, length_values] at count
          rw [count] at enough
          exact Nat.le_of_succ_le_succ enough
        have newest := ih (filed.erase oldest.operation.operationId) fewer
        rw [first]
        refine newest.cons fun within => crowds (archivable_values.mp ?_)
        rwa [first]

/-- Results of different operations, none of them archived yet, join the archive. -/
theorem values_archiveEach {archive' : Table ArchivedOperationRecovery}
    (filed : Eviction.Filed operationId archive)
    (distinct : (entries.map operationId).Nodup)
    (new : ∀ entry ∈ entries, archive[entry.operationId]? = none)
    (ok : archiveEach entries archive = (.ok (), archive')) :
    Eviction.Filed operationId archive' ∧ archive'.values.Perm (entries ++ archive.values) := by
  induction entries generalizing archive with
  | nil =>
    cases ok
    exact ⟨filed, .refl _⟩
  | cons first rest ih =>
    rw [archiveEach] at ok
    split at ok
    · cases ok
    rw [List.map_cons, List.nodup_cons] at distinct
    rw [List.forall_mem_cons] at new
    have still : ∀ entry ∈ rest,
        (archive.insert first.operationId first)[entry.operationId]? = none := by
      intro entry mem
      rw [get_insert_of_ne, new.2 entry mem]
      intro same
      exact distinct.1 (same ▸ List.mem_map_of_mem mem)
    obtain ⟨filed', perm⟩ := ih (filed.insert first) distinct.2 still ok
    refine ⟨filed', perm.trans ?_⟩
    exact ((filed.values_insert new.1).append_left rest).trans List.perm_middle

/-! ### A prune that succeeds -/

theorem of_prune_ok {removed : Nat}
    (ok : (s.pruneTerminalBeforeGeneration deviceId currentGeneration).1 = .ok removed) :
    ∃ archive, archiveEach (s.prunedResults deviceId currentGeneration) s.recoveryArchive =
        (.ok (), archive) ∧
      (s.pruneTerminalBeforeGeneration deviceId currentGeneration).2.recoveryArchive =
        boundRecoveryArchive archive.size archive ∧
      (s.pruneTerminalBeforeGeneration deviceId currentGeneration).2.operations =
        s.operations.filter fun _ record => !isPrunable deviceId currentGeneration record := by
  unfold pruneTerminalBeforeGeneration at ok ⊢
  split at ok
  · cases ok
  · next named =>
    simp only [if_neg named]
    dsimp only at ok
    split at ok
    · cases ok
    · next toArchive mapped =>
      obtain ⟨-, given, -⟩ := Result.of_mapM_eq_ok mapped
      have same : toArchive = s.prunedResults deviceId currentGeneration := by
        rw [Result.mapM_eq_ok given, Except.ok.injEq] at mapped
        exact mapped.symm
      subst same
      split at ok
      · cases ok
      · next archive each =>
        split at ok
        · cases ok
        · exact ⟨archive, each, rfl, rfl⟩

theorem operation_of_archivedFor {r : SafetyOperation}
    (made : (archivedFor r).toOption = some archived) : archived.operation = r.operation := by
  unfold archivedFor at made
  split at made
  · cases made
    rfl
  · cases made

/-- What is archived by a prune was recorded. -/
theorem mem_prunedResults (mem : archived ∈ s.prunedResults deviceId currentGeneration) :
    ∃ (a : String) (r : SafetyOperation), s.operations[a]? = some r ∧
      isPrunable deviceId currentGeneration r = true ∧ archived.operation = r.operation := by
  obtain ⟨r, mem, made⟩ := List.mem_filterMap.mp mem
  rw [List.mem_filter, Bool.and_eq_true, mem_values] at mem
  obtain ⟨⟨a, found⟩, prunable, -⟩ := mem
  exact ⟨a, r, found, prunable, operation_of_archivedFor made⟩

/-- The results a prune drops are of different operations. -/
theorem Coherent.nodup_prunedResults (h : s.Coherent) (deviceId : String) (currentGeneration : Nat) :
    ((s.prunedResults deviceId currentGeneration).map operationId).Nodup := by
  have ids : (s.operations.values.map fun r => r.operation.operationId).Nodup :=
    nodup_values_map fun found found' same => by
      rw [← h.keyed _ _ found, ← h.keyed _ _ found', same]
  refine List.pairwise_map.mpr (List.Pairwise.filterMap _ ?_ ((List.pairwise_map.mp ids).filter _))
  intro r r' differ archived made archived' made' same
  apply differ
  rw [← operation_of_archivedFor made, ← operation_of_archivedFor made']
  exact same

/-- A prune of a ledger that lags drops what it would drop of the ledger caught up. -/
theorem prunedResults_caughtUp {records : Table SafetyOperation} (lags : Lags s.operations records) :
    (s.caughtUp records).prunedResults deviceId currentGeneration =
      s.prunedResults deviceId currentGeneration := by
  have settled := lags.filter_values (fun record =>
    isPrunable deviceId currentGeneration record && record.recoverableResult.isSome) (by
      intro r queued
      simp [isPrunable, SafetyOperation.promote, queued, isTerminal])
  rw [prunedResults, show (s.caughtUp records).operations = records from rfl, settled]
  rfl

/-- Whatever a prune of a reachable ledger drops, the archive keeps the longest end, by age, of
the results it had and those that are dropped; it holds no result of a recorded operation; and
the operations dropped, from both ledgers, are the old settled ones of the device. -/
theorem prune_keeps_newest (reachable : s.Reachable) {removed : Nat}
    (ok : (s.pruneTerminalBeforeGeneration deviceId currentGeneration).1 = .ok removed) :
    let s' := (s.pruneTerminalBeforeGeneration deviceId currentGeneration).2
    Eviction.Newest Archivable
        (byAge (s.prunedResults deviceId currentGeneration ++ s.recoveryArchive.values))
        (byAge s'.recoveryArchive.values) ∧
      (∀ (id : String) (archived : ArchivedOperationRecovery),
        s'.recoveryArchive[id]? = some archived → archived.operation.operationId = id) ∧
      (∀ id : String, id ∈ s'.recoveryArchive → id ∉ s'.operations) ∧
      (∀ (id : String) (r : SafetyOperation), s.operations[id]? = some r →
        if r.operation.deviceId = deviceId ∧ r.operation.deviceGeneration < currentGeneration ∧
            (r.state = .completed ∨ r.state = .failed ∨ r.state = .cancelled) then
          s'.operations[id]? = none
        else s'.operations[id]? = some r) ∧
      (∀ id : String, id ∉ s.operations → id ∉ s'.operations) ∧
      ∀ id : String, id ∈ s'.admission.operations ↔ id ∈ s'.operations := by
  intro s'
  have sustained : s.Sustains fun _ => True :=
    reachable.sustains (fun _ => trivial) (fun _ _ _ => trivial) fun _ _ _ => trivial
  obtain ⟨records, lags, orderly, -⟩ := sustained
  obtain ⟨archive, each, bounded, kept⟩ := of_prune_ok ok
  -- The ledger caught up is pruned alike, and stays orderly.
  obtain ⟨records', lags', same⟩ := matches_prune lags deviceId currentGeneration
  have orderly' : (s'.caughtUp records').Orderly := by
    rcases orderly.coherent.prune_cases orderly.sound deviceId currentGeneration
        (show Care.none.prunes deviceId currentGeneration from trivial) with
      ⟨e, failed⟩ | ⟨_, t, pruned, moved⟩
    · rw [failed, Prod.mk.injEq, ok] at same
      cases same.1
    · rw [pruned, Prod.mk.injEq] at same
      rw [← same.2]
      exact orderly.moves (.single moved)
  have filed : Eviction.Filed operationId s.recoveryArchive :=
    fun id archived found => (orderly.filed.archived id archived found).1
  have new : ∀ entry ∈ s.prunedResults deviceId currentGeneration,
      s.recoveryArchive[entry.operationId]? = none := by
    intro entry mem
    rw [← prunedResults_caughtUp lags] at mem
    obtain ⟨a, r, found, -, names⟩ := mem_prunedResults mem
    by_contra archived
    obtain ⟨other, archived⟩ := Option.ne_none_iff_exists'.mp archived
    have gone := (orderly.filed.archived _ other archived).2.2
    have here : entry.operationId = a := by
      rw [operationId, names, orderly.coherent.keyed a r found]
    rw [here, found] at gone
    cases gone
  obtain ⟨filed', perm⟩ := values_archiveEach filed
    (prunedResults_caughtUp lags ▸ orderly.coherent.nodup_prunedResults deviceId currentGeneration)
    new each
  refine ⟨?_, ?_, ?_, ?_, ?_, ?_⟩
  · have whole : byAge archive.values =
        byAge (s.prunedResults deviceId currentGeneration ++ s.recoveryArchive.values) :=
      (chronological_congr filed'.nodup_values perm.symm).symm
    rw [← whole, bounded]
    exact newest_bound filed' (Nat.le_refl _)
  · exact fun id archived found => (orderly'.filed.archived id archived found).1
  · intro id archived recorded
    obtain ⟨entry, found⟩ := mem_iff_get.mp archived
    have gone := (orderly'.filed.archived id entry found).2.2
    exact not_mem_iff_get.mpr gone (lags'.mem.mpr recorded)
  · intro id r found
    have terminal : r.state.isTerminal = true ↔
        r.state = .completed ∨ r.state = .failed ∨ r.state = .cancelled := by
      cases r.state <;> simp [isTerminal]
    have after : s'.operations[id]? = if isPrunable deviceId currentGeneration r then none
        else some r := by
      rw [kept, Std.ExtTreeMap.getElem?_filter', found, Option.filter_some]
      cases isPrunable deviceId currentGeneration r <;> rfl
    rw [after]
    simp only [isPrunable, Bool.and_eq_true, decide_eq_true_eq, terminal, and_assoc]
    split
    · rfl
    · rfl
  · intro id absent recorded
    obtain ⟨r, found⟩ := mem_iff_get.mp recorded
    rw [kept, Std.ExtTreeMap.getElem?_filter', Option.filter_eq_some_iff] at found
    exact absent (mem_iff_get.mpr ⟨r, found.1⟩)
  · intro id
    rw [← lags'.mem, mem_iff_get, mem_iff_get]
    have mirrored := orderly'.coherent.mirrored id
    constructor
    · rintro ⟨op, admitted⟩
      rw [show (s'.caughtUp records').admission = s'.admission from rfl, admitted] at mirrored
      obtain ⟨r, recorded, -⟩ := Option.map_eq_some_iff.mp mirrored.symm
      exact ⟨r, recorded⟩
    · rintro ⟨r, recorded⟩
      rw [show (s'.caughtUp records').operations = records' from rfl, recorded] at mirrored
      exact ⟨_, mirrored⟩

/-- Nine clicks of generation 1 are settled one after another, and their outcomes recorded. -/
def nineClicks : List LedgerEvent :=
  (["a", "b", "c", "d", "e", "f", "g", "h", "i"].zipIdx 1).flatMap fun click =>
    [.prepareWithMetadata ⟨"desk", 1, click.1⟩ alice .pointerClick .empty click.2,
      .markDispatchedWithBinding click.1 alice 1 (some ⟨1, "grant"⟩) click.2,
      .finalize .given click.1 alice 1 .completed .verifiedAgentResult click.2,
      .attachRecoverableResult click.1 alice 1 .effectfulStatus]

/-- The next generation drops them and keeps the newest eight outcomes in the archive alone. -/
theorem nineClicks_archived :
    let s' := ((run next (empty ⟨1, 1⟩) nineClicks).pruneTerminalBeforeGeneration "desk" 2).2
    s'.recoveryArchive.keys = ["b", "c", "d", "e", "f", "g", "h", "i"] ∧
      "i" ∉ s'.operations ∧ "i" ∉ s'.admission.operations := by
  have reachable : (run next (empty ⟨1, 1⟩) nineClicks).Reachable :=
    ⟨⟨1, 1⟩, _, nineClicks, rfl, rfl⟩
  have ok : ((run next (empty ⟨1, 1⟩) nineClicks).pruneTerminalBeforeGeneration
      "desk" 2).1 = .ok 9 := by decide +kernel
  obtain ⟨-, -, apart, -, -, mirrored⟩ := prune_keeps_newest reachable ok
  have archived : "i" ∈ ((run next (empty ⟨1, 1⟩) nineClicks).pruneTerminalBeforeGeneration
      "desk" 2).2.recoveryArchive := by decide +kernel
  exact ⟨by decide +kernel, apart "i" archived,
    fun admitted => apart "i" archived ((mirrored "i").mp admitted)⟩

end AuthoritativeOperationController

end Gateway.Execution
