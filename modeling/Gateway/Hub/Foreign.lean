import Gateway.Data.Observation
import Gateway.Execution.Inspection
import Gateway.Hub.References

/-! Whether a caller can tell another's reference from one that does not exist.

A state is compared with the one in which the other's record is not there. References to jobs and
the lookup of recoverable operations tell nothing. A reference to process output that has expired
is told as expired to whoever asks first. -/
namespace Gateway.Hub
open Data Execution Observation HubEphemeralRefRegistry Table

/-! ### Process output -/

/-- What a caller may ask with a reference to process output. -/
inductive EphemeralLookup where
  | resolve (publicRef deviceId : String) (deviceGeneration capabilityRevision : Nat)
      (operationId : Option String) (expectedKind : EphemeralDataKind) (nowMs : Nat)
  | resolveOwned (publicRef deviceId : String) (deviceGeneration capabilityRevision nowMs : Nat)
  | remove (publicRef : String)

/-- What the caller is told. -/
inductive EphemeralAnswer where
  | resolved (reference : ResolvedHubEphemeralRef)
  | refused (safeErrorCode : String)
  | removed (was : Bool)
  deriving DecidableEq

def EphemeralAnswer.of : Except HubEphemeralRefError ResolvedHubEphemeralRef → EphemeralAnswer
  | .ok reference => .resolved reference
  | .error e => .refused e.safeErrorCode

namespace HubEphemeralRefRegistry

def ask (caller : OperationOwner) (registry : HubEphemeralRefRegistry) :
    EphemeralLookup → EphemeralAnswer × HubEphemeralRefRegistry
  | .resolve publicRef deviceId deviceGeneration capabilityRevision operationId expectedKind nowMs =>
    let (answer, registry) := registry.resolve publicRef caller deviceId deviceGeneration
      capabilityRevision operationId expectedKind nowMs
    (.of answer, registry)
  | .resolveOwned publicRef deviceId deviceGeneration capabilityRevision nowMs =>
    let (answer, registry) := registry.resolveOwned publicRef caller deviceId deviceGeneration
      capabilityRevision nowMs
    (.of answer, registry)
  | .remove publicRef =>
    let (was, registry) := registry.remove publicRef caller
    (.removed was, registry)

/-- The registry in which a reference was never handed out. -/
def without (registry : HubEphemeralRefRegistry) (publicRef : String) : HubEphemeralRefRegistry :=
  {registry with refs := registry.refs.erase publicRef}

/-- The lookup is not of `publicRef` after `expiresAtMs`. -/
def Timely (publicRef : String) (expiresAtMs : Nat) : EphemeralLookup → Prop
  | .resolve named _ _ _ _ _ nowMs | .resolveOwned named _ _ _ nowMs =>
    named = publicRef → nowMs ≤ expiresAtMs
  | .remove _ => True

/-- Another's record is there, or was never there. -/
structure Apart (caller : OperationOwner) (publicRef : String) (record : HubEphemeralRefRecord)
    (registry registry' : HubEphemeralRefRegistry) : Prop where
  held : registry.refs[publicRef]? = some record
  foreign : record.owner ≠ caller
  absent : registry' = registry.without publicRef

section Lookups
variable {caller : OperationOwner} {publicRef : String} {record : HubEphemeralRefRecord}
  {registry registry' : HubEphemeralRefRegistry}

theorem without_get_self (registry : HubEphemeralRefRegistry) (publicRef : String) :
    (registry.without publicRef).refs[publicRef]? = none := by
  simp [without]

theorem without_get_of_ne {named : String} (other : named ≠ publicRef) :
    (registry.without publicRef).refs[named]? = registry.refs[named]? :=
  get_erase_of_ne other.symm

theorem without_comm (registry : HubEphemeralRefRegistry) (a b : String) :
    (registry.without a).without b = (registry.without b).without a := by
  have same : (registry.refs.erase a).erase b = (registry.refs.erase b).erase a := by
    apply ext_get
    intro name
    simp only [get_erase]
    split <;> split <;> rfl
  rw [without, without, without, without, same]

section
variable (apart : Apart caller publicRef record registry registry')
include apart

/-- Dropping another reference on both sides keeps the sides apart. -/
theorem Apart.without {named : String} (other : named ≠ publicRef) :
    Apart caller publicRef record (registry.without named) (registry'.without named) :=
  ⟨(without_get_of_ne other.symm).trans apart.held, apart.foreign,
    by rw [apart.absent, without_comm]⟩

/-- Resolving another reference tells nothing. -/
theorem resolveOwned_other {named : String} (other : named ≠ publicRef) (deviceId : String)
    (deviceGeneration capabilityRevision nowMs : Nat) :
    (registry.resolveOwned named caller deviceId deviceGeneration capabilityRevision nowMs).1 =
        (registry'.resolveOwned named caller deviceId deviceGeneration capabilityRevision nowMs).1 ∧
      Apart caller publicRef record
        (registry.resolveOwned named caller deviceId deviceGeneration capabilityRevision nowMs).2
        (registry'.resolveOwned named caller deviceId deviceGeneration capabilityRevision nowMs).2 := by
  have same : registry'.refs[named]? = registry.refs[named]? := by
    rw [apart.absent, without_get_of_ne other]
  unfold resolveOwned
  rw [same]
  cases registry.refs[named]? with
  | none => exact ⟨rfl, apart⟩
  | some found =>
    dsimp only
    by_cases late : nowMs > found.expiresAtMs
    · rw [if_pos late, if_pos late]
      exact ⟨rfl, apart.without other⟩
    · rw [if_neg late]
      repeat' split
      all_goals exact ⟨rfl, apart⟩

/-- Resolving another's reference in time is refused as if it were unknown. -/
theorem resolveOwned_timely {nowMs : Nat} (timely : nowMs ≤ record.expiresAtMs) (deviceId : String)
    (deviceGeneration capabilityRevision : Nat) :
    (∃ e : HubEphemeralRefError, e.safeErrorCode = "ephemeral_ref_stale" ∧
      registry.resolveOwned publicRef caller deviceId deviceGeneration capabilityRevision nowMs =
        (.error e, registry)) ∧
    registry'.resolveOwned publicRef caller deviceId deviceGeneration capabilityRevision nowMs =
      (.error .unknownRef, registry') := by
  have none : registry'.refs[publicRef]? = none := by rw [apart.absent, without_get_self]
  unfold resolveOwned
  rw [apart.held, none]
  refine ⟨?_, rfl⟩
  dsimp only
  rw [if_neg (Nat.not_lt.mpr timely)]
  split
  · exact ⟨.unknownRef, rfl, rfl⟩
  · rw [if_pos apart.foreign]
    exact ⟨.ownerMismatch, rfl, rfl⟩

/-- Resolving another's reference too late is refused as expired. -/
theorem resolveOwned_late {nowMs : Nat} (late : record.expiresAtMs < nowMs) (deviceId : String)
    (deviceGeneration capabilityRevision : Nat) :
    (registry.resolveOwned publicRef caller deviceId deviceGeneration capabilityRevision nowMs).1 =
      .error .expired ∧
    (registry'.resolveOwned publicRef caller deviceId deviceGeneration capabilityRevision nowMs).1 =
      .error .unknownRef := by
  have none : registry'.refs[publicRef]? = none := by rw [apart.absent, without_get_self]
  unfold resolveOwned
  rw [apart.held, none]
  refine ⟨?_, rfl⟩
  dsimp only
  rw [if_pos late]

end

/-- A resolution that passed is looked at once more. -/
def checked (operationId : Option String) (expectedKind : EphemeralDataKind) :
    Except HubEphemeralRefError ResolvedHubEphemeralRef →
      Except HubEphemeralRefError ResolvedHubEphemeralRef
  | .error e => .error e
  | .ok resolved =>
    if resolved.kind ≠ expectedKind then .error .kindMismatch
    else if resolved.operationId ≠ operationId then .error .operationMismatch
    else .ok resolved

theorem resolve_eq (registry : HubEphemeralRefRegistry) (named deviceId : String)
    (deviceGeneration capabilityRevision : Nat) (operationId : Option String)
    (expectedKind : EphemeralDataKind) (nowMs : Nat) :
    registry.resolve named caller deviceId deviceGeneration capabilityRevision operationId
        expectedKind nowMs =
      (checked operationId expectedKind
        (registry.resolveOwned named caller deviceId deviceGeneration capabilityRevision nowMs).1,
        (registry.resolveOwned named caller deviceId deviceGeneration capabilityRevision nowMs).2) := by
  unfold resolve
  split
  · next found => rw [found]; rfl
  · next found =>
    rw [found]
    dsimp only [checked]
    repeat' split
    all_goals rfl

section
variable (apart : Apart caller publicRef record registry registry')
include apart

theorem remove_apart (named : String) :
    (registry.remove named caller).1 = (registry'.remove named caller).1 ∧
      Apart caller publicRef record (registry.remove named caller).2
        (registry'.remove named caller).2 := by
  unfold remove
  by_cases same : named = publicRef
  · rw [same, apart.held, apart.absent, without_get_self]
    simp only [Option.any_some, Option.any_none, apart.foreign, decide_false, Bool.false_eq_true,
      if_false]
    exact ⟨trivial, apart.held, apart.foreign, rfl⟩
  · have there : registry'.refs[named]? = registry.refs[named]? := by
      rw [apart.absent, without_get_of_ne same]
    rw [there]
    split
    · exact ⟨rfl, apart.without same⟩
    · exact ⟨rfl, apart⟩

/-- A timely lookup is answered alike. -/
theorem ask_timely {lookup : EphemeralLookup} (timely : Timely publicRef record.expiresAtMs lookup) :
    (ask caller registry lookup).1 = (ask caller registry' lookup).1 ∧
      Apart caller publicRef record (ask caller registry lookup).2 (ask caller registry' lookup).2 := by
  cases lookup with
  | resolve named deviceId deviceGeneration capabilityRevision operationId expectedKind nowMs =>
    simp only [ask, resolve_eq]
    by_cases same : named = publicRef
    · subst same
      obtain ⟨⟨e, code, is⟩, is'⟩ := resolveOwned_timely apart (timely rfl) deviceId
        deviceGeneration capabilityRevision
      rw [is, is']
      exact ⟨congrArg EphemeralAnswer.refused code, apart⟩
    · obtain ⟨answer, still⟩ := resolveOwned_other apart same deviceId deviceGeneration
        capabilityRevision nowMs
      exact ⟨by rw [answer], still⟩
  | resolveOwned named deviceId deviceGeneration capabilityRevision nowMs =>
    by_cases same : named = publicRef
    · subst same
      obtain ⟨⟨e, code, is⟩, is'⟩ := resolveOwned_timely apart (timely rfl) deviceId
        deviceGeneration capabilityRevision
      simp only [ask, is, is']
      exact ⟨congrArg EphemeralAnswer.refused code, apart⟩
    · obtain ⟨answer, still⟩ := resolveOwned_other apart same deviceId deviceGeneration
        capabilityRevision nowMs
      exact ⟨congrArg EphemeralAnswer.of answer, still⟩
  | remove named =>
    obtain ⟨answer, still⟩ := remove_apart apart named
    exact ⟨congrArg EphemeralAnswer.removed answer, still⟩

/-- A late one is not. -/
theorem ask_late {lookup : EphemeralLookup} (untimely : ¬Timely publicRef record.expiresAtMs lookup) :
    (ask caller registry lookup).1 ≠ (ask caller registry' lookup).1 := by
  have codes : EphemeralAnswer.refused "ephemeral_ref_expired" ≠ .refused "ephemeral_ref_stale" := by
    decide
  cases lookup with
  | resolve named deviceId deviceGeneration capabilityRevision operationId expectedKind nowMs =>
    simp only [Timely, Classical.not_imp, Nat.not_le] at untimely
    obtain ⟨rfl, late⟩ := untimely
    obtain ⟨is, is'⟩ := resolveOwned_late apart late deviceId deviceGeneration capabilityRevision
    simp only [ask, resolve_eq, is, is']
    exact codes
  | resolveOwned named deviceId deviceGeneration capabilityRevision nowMs =>
    simp only [Timely, Classical.not_imp, Nat.not_le] at untimely
    obtain ⟨rfl, late⟩ := untimely
    obtain ⟨is, is'⟩ := resolveOwned_late apart late deviceId deviceGeneration capabilityRevision
    simp only [ask, is, is']
    exact codes
  | remove named => exact absurd trivial untimely

end

end Lookups

/-- The lookups of one caller tell another's reference from an unknown one exactly if one of
them resolves it after it expired. -/
theorem answers_without_iff {caller : OperationOwner} {publicRef : String}
    {record : HubEphemeralRefRecord} {registry : HubEphemeralRefRegistry}
    (held : registry.refs[publicRef]? = some record) (foreign : record.owner ≠ caller)
    (lookups : List EphemeralLookup) :
    answers (ask caller) registry lookups =
        answers (ask caller) (registry.without publicRef) lookups ↔
      ∀ lookup ∈ lookups, Timely publicRef record.expiresAtMs lookup := by
  have apart : Apart caller publicRef record registry (registry.without publicRef) :=
    ⟨held, foreign, rfl⟩
  refine answers_eq_iff ?_ ?_ apart lookups
  · exact fun _ _ _ apart timely => ask_timely apart timely
  · exact fun _ _ _ apart late => ask_late apart late

end HubEphemeralRefRegistry

/-! ### Jobs -/

structure ManagedJobLookup where
  publicRef : String
  deviceId : String
  generation : Nat
  capabilityRevision : Nat
  nowMs : Nat

namespace HubManagedJobRefRegistry

def ask (caller : OperationOwner) (registry : HubManagedJobRefRegistry) (lookup : ManagedJobLookup) :
    Except HubManagedJobRefError ResolvedManagedJobRef × HubManagedJobRefRegistry :=
  registry.resolveOwned lookup.publicRef caller lookup.deviceId lookup.generation
    lookup.capabilityRevision lookup.nowMs

def without (registry : HubManagedJobRefRegistry) (publicRef : String) : HubManagedJobRefRegistry :=
  {registry with refs := registry.refs.erase publicRef}

/-- An entry, if it is the caller's. -/
def ownedBy (caller : OperationOwner) (registry : HubManagedJobRefRegistry) (publicRef : String) :
    Option ManagedJobRefEntry :=
  registry.refs[publicRef]?.filter fun entry => entry.owner = caller

/-- The caller owns the same entries in both. -/
def Alike (caller : OperationOwner) (registry registry' : HubManagedJobRefRegistry) : Prop :=
  ∀ publicRef, registry.ownedBy caller publicRef = registry'.ownedBy caller publicRef

section Lookups
variable {caller : OperationOwner} {registry registry' : HubManagedJobRefRegistry}

theorem ownedBy_prune (registry : HubManagedJobRefRegistry) (nowMs : Nat) (publicRef : String) :
    (registry.prune nowMs).ownedBy caller publicRef =
      (registry.ownedBy caller publicRef).filter fun entry => entry.expiresAtMs > nowMs := by
  unfold ownedBy prune
  rw [Std.ExtTreeMap.getElem?_filter', Option.filter_filter, Option.filter_filter]
  simp only [Bool.and_comm]

theorem Alike.prune (alike : Alike caller registry registry') (nowMs : Nat) :
    Alike caller (registry.prune nowMs) (registry'.prune nowMs) := by
  intro publicRef
  rw [ownedBy_prune, ownedBy_prune, alike publicRef]

/-- What an entry of the caller's own resolves to. -/
def resolution (deviceId : String) (generation capabilityRevision : Nat) (caller : OperationOwner)
    (owned : Option ManagedJobRefEntry) : Except HubManagedJobRefError ResolvedManagedJobRef :=
  match owned with
  | none => .error .unavailable
  | some entry =>
    if ¬entry.boundTo caller deviceId generation capabilityRevision then .error .unavailable
    else match entry.agentLocator with
      | none => .error .unavailable
      | some agentLocator => .ok ⟨agentLocator, entry.sourceOperationId⟩

/-- Resolving depends on the caller's own entries alone. -/
theorem resolveOwned_eq (registry : HubManagedJobRefRegistry) (caller : OperationOwner)
    (publicRef deviceId : String) (generation capabilityRevision nowMs : Nat) :
    registry.resolveOwned publicRef caller deviceId generation capabilityRevision nowMs =
      (resolution deviceId generation capabilityRevision caller
        ((registry.prune nowMs).ownedBy caller publicRef), registry.prune nowMs) := by
  simp only [resolveOwned, ownedBy]
  cases (registry.prune nowMs).refs[publicRef]? with
  | none => rfl
  | some entry =>
    by_cases own : entry.owner = caller
    · rw [Option.filter_some_pos (by simpa using own)]
      simp only [resolution]
      split
      · rfl
      · cases entry.agentLocator <;> rfl
    · have unbound : ¬entry.boundTo caller deviceId generation capabilityRevision = true := by
        simp [ManagedJobRefEntry.boundTo, own]
      rw [Option.filter_some_neg (by simpa using own)]
      simp only [if_pos unbound]
      rfl

/-- No lookups tell another's reference from an unknown one. -/
theorem answers_without {publicRef : String} {entry : ManagedJobRefEntry}
    (held : registry.refs[publicRef]? = some entry) (foreign : entry.owner ≠ caller)
    (lookups : List ManagedJobLookup) :
    answers (ask caller) registry lookups =
      answers (ask caller) (registry.without publicRef) lookups := by
  have alike : Alike caller registry (registry.without publicRef) := by
    intro named
    unfold ownedBy without
    rw [get_erase]
    split
    · next same =>
      rw [← same, held, Option.filter_some_neg (by simpa using foreign)]
      rfl
    · rfl
  refine answers_eq ?_ alike lookups
  intro r r' lookup alike
  simp only [ask, resolveOwned_eq]
  exact ⟨by rw [alike.prune lookup.nowMs lookup.publicRef], alike.prune lookup.nowMs⟩

end Lookups

end HubManagedJobRefRegistry

/-! ### Recoverable operations -/

/-- The ledger in which an owner never had an operation of this name. -/
def withoutOperation (s : AuthoritativeOperationController) (operationId : String)
    (owner : OperationOwner) : AuthoritativeOperationController :=
  {s with
    operations := if s.operations[operationId]?.any fun record => record.owner = owner then
      s.operations.erase operationId else s.operations
    recoveryArchive := if s.recoveryArchive[operationId]?.any fun archived => archived.owner = owner
      then s.recoveryArchive.erase operationId else s.recoveryArchive}

/-- An entry of one owner does not matter to what another owns. -/
theorem filter_owner_erase {V : Type} {t : Table V} {owner : V → OperationOwner} {name named : String}
    {caller other : OperationOwner} (differ : other ≠ caller) :
    (if t[name]?.any (fun v => owner v = other) then t.erase name else t)[named]?.filter
        (fun v => owner v = caller) =
      t[named]?.filter fun v => owner v = caller := by
  split
  · next own =>
    rw [get_erase]
    split
    · next same =>
      obtain ⟨v, found, is⟩ := (Option.any_eq_true _ _).mp own
      have foreign : owner v ≠ caller := fun mine => differ ((of_decide_eq_true is).symm.trans mine)
      rw [← same, found, Option.filter_some_neg (by simpa using foreign)]
      rfl
    · rfl
  · rfl

theorem recoveryForOwner_without {s : AuthoritativeOperationController} {caller other : OperationOwner}
    (differ : other ≠ caller) (operationId named : String) :
    (withoutOperation s operationId other).recoveryForOwner named caller =
      s.recoveryForOwner named caller := by
  unfold AuthoritativeOperationController.recoveryForOwner withoutOperation
  rw [filter_owner_erase differ, filter_owner_erase differ]

/-! ### All three -/

/-- A caller's lookups tell another's reference to process output from an unknown one exactly if
one of them resolves it after it expired. They never tell another's job or operation from an
unknown one. -/
theorem foreign_unknown_iff (caller : OperationOwner) :
    (∀ (registry : HubEphemeralRefRegistry) (publicRef : String) (record : HubEphemeralRefRecord)
      (lookups : List EphemeralLookup),
      registry.refs[publicRef]? = some record → record.owner ≠ caller →
        (answers (ask caller) registry lookups =
            answers (ask caller) (registry.without publicRef)
              lookups ↔
          ∀ lookup ∈ lookups,
            HubEphemeralRefRegistry.Timely publicRef record.expiresAtMs lookup)) ∧
    (∀ (registry : HubManagedJobRefRegistry) (publicRef : String) (entry : ManagedJobRefEntry)
      (lookups : List ManagedJobLookup),
      registry.refs[publicRef]? = some entry → entry.owner ≠ caller →
        answers (HubManagedJobRefRegistry.ask caller) registry lookups =
          answers (HubManagedJobRefRegistry.ask caller) (registry.without publicRef)
            lookups) ∧
    ∀ (s : AuthoritativeOperationController) (other : OperationOwner)
      (operationId named : String), other ≠ caller →
        s.recoveryForOwner named caller =
          (withoutOperation s operationId other).recoveryForOwner named caller := by
  refine ⟨?_, ?_, ?_⟩
  · intro registry publicRef record lookups held foreign
    exact answers_without_iff held foreign lookups
  · intro registry publicRef entry lookups held foreign
    exact HubManagedJobRefRegistry.answers_without held foreign lookups
  · intro s other operationId named differ
    exact (recoveryForOwner_without differ operationId named).symm

def firstOwner : OperationOwner := ⟨"issuer", "first"⟩

def secondOwner : OperationOwner := ⟨"issuer", "second"⟩

/-- A registry in which the second owner was given one reference at the start of time. -/
def mintedOnce : HubEphemeralRefRegistry :=
  (mint ⟨.default, ∅⟩ secondOwner "dev_a" 1 1 (some "op-1") .processStdout
    "locator" 10 0 ["eref_00"]).2

theorem timely_lookup_unknown :
    answers (ask firstOwner) mintedOnce
        [.resolveOwned "eref_00" "dev_a" 1 1 1000] =
      answers (ask firstOwner) (mintedOnce.without "eref_00")
        [.resolveOwned "eref_00" "dev_a" 1 1 1000] :=
  ((foreign_unknown_iff firstOwner).1 mintedOnce "eref_00"
    ⟨"eref_00", secondOwner, "dev_a", 1, 1, some "op-1", .processStdout, "locator", 10, 300000⟩
    [.resolveOwned "eref_00" "dev_a" 1 1 1000] (by decide +kernel) (by decide)).mpr
    (by simp [HubEphemeralRefRegistry.Timely])

/-- After five minutes the first owner is told that the second one's reference has expired. -/
theorem expired_told_apart :
    new .default = .ok ⟨.default, ∅⟩ ∧
    answers (ask firstOwner) mintedOnce
        [.resolveOwned "eref_00" "dev_a" 1 1 300001] = [.refused "ephemeral_ref_expired"] ∧
      answers (ask firstOwner) (mintedOnce.without "eref_00")
        [.resolveOwned "eref_00" "dev_a" 1 1 300001] = [.refused "ephemeral_ref_stale"] := by
  refine ⟨rfl, ?_, ?_⟩ <;> decide +kernel

end Gateway.Hub
