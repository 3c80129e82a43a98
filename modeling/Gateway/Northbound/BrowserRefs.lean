import Gateway.Carrier.Result
import Gateway.Data.Result
import Gateway.Northbound.Interaction

/-! The references of a browser.

A target, its tabs, the latest snapshot of a tab and what the snapshot shows are each held under a
random name, all in one table. A name is good together with those it depends on: an element needs
its snapshot, the snapshot its tab, the tab its target. -/
namespace Gateway.Northbound
open Data Carrier Result

def maxBrowserBackendRefBytes : Nat := 4 * 1024

inductive BrowserRefKind where
  | target | tab | snapshot | actionElement | contentElement | continuation | dialog
  deriving DecidableEq

def BrowserRefKind.snapshotBound : BrowserRefKind → Bool
  | .snapshot | .actionElement | .contentElement | .continuation => true
  | _ => false

structure BrowserBackendRef where
  publicRef : String
  contextId : String
  deviceId : String
  deviceGeneration : Nat
  capabilityRevision : Nat
  kind : BrowserRefKind
  backendRef : String
  targetRef : Option String
  tabRef : Option String
  snapshotRef : Option String
  actions : List BrowserAction
  singleUse : Bool

inductive BrowserRefError where
  | invalidLimit | invalidBackendRef | refLimitExceeded | identifierCollision | unknownRef
  | contextMismatch | generationMismatch | capabilityRevisionMismatch | kindMismatch
  | relationMismatch | actionUnavailable
  deriving DecidableEq

structure ResolvedBrowserTargetTab where
  backendTarget : String
  backendTab : String
  deriving DecidableEq

structure BrowserRefRegistry where
  maxRefsPerContext : Nat
  refs : Table BrowserBackendRef

/-- What a name is to be minted for. -/
structure BrowserMint where
  context : InteractionContextBinding
  kind : BrowserRefKind
  backendRef : String
  targetRef : Option String
  tabRef : Option String
  snapshotRef : Option String
  actions : List BrowserAction
  singleUse : Bool

def BrowserMint.entry (mint : BrowserMint) (publicRef : String) : BrowserBackendRef where
  publicRef
  contextId := mint.context.id
  deviceId := mint.context.deviceId
  deviceGeneration := mint.context.deviceGeneration
  capabilityRevision := mint.context.capabilityRevision
  kind := mint.kind
  backendRef := mint.backendRef
  targetRef := mint.targetRef
  tabRef := mint.tabRef
  snapshotRef := mint.snapshotRef
  actions := mint.actions
  singleUse := mint.singleUse

def validateBackendRef (value : String) : Except BrowserRefError Unit :=
  if value.isEmpty || value.utf8ByteSize > maxBrowserBackendRefBytes ||
      value.toList.any isControl then .error .invalidBackendRef
  else .ok ()

namespace BrowserRefRegistry

/-! ### Looking a name up -/

variable (registry : BrowserRefRegistry)

def requireOwned (publicRef : String)
    (context : InteractionContextBinding) : Except BrowserRefError BrowserBackendRef :=
  match registry.refs[publicRef]? with
  | none => .error .unknownRef
  | some reference =>
    if reference.publicRef ≠ publicRef ∨ reference.contextId ≠ context.id ∨
        reference.deviceId ≠ context.deviceId then .error .contextMismatch
    else if reference.deviceGeneration ≠ context.deviceGeneration then .error .generationMismatch
    else if reference.capabilityRevision ≠ context.capabilityRevision then
      .error .capabilityRevisionMismatch
    else .ok reference

def requireKind (publicRef : String)
    (context : InteractionContextBinding) (expected : BrowserRefKind) :
    Except BrowserRefError BrowserBackendRef := do
  let reference ← registry.requireOwned publicRef context
  if reference.kind ≠ expected then .error .kindMismatch else return reference

def resolveTargetTab (context : InteractionContextBinding)
    (targetRef tabRef : String) : Except BrowserRefError ResolvedBrowserTargetTab := do
  let target ← registry.requireKind targetRef context .target
  let tab ← registry.requireKind tabRef context .tab
  if tab.targetRef ≠ some targetRef then .error .relationMismatch
  else return ⟨target.backendRef, tab.backendRef⟩

/-- The reference belongs to the tab. -/
def requireRelation (reference : BrowserBackendRef) (targetRef tabRef : String) :
    Except BrowserRefError Unit :=
  if reference.targetRef ≠ some targetRef ∨ reference.tabRef ≠ some tabRef then
    .error .relationMismatch
  else .ok ()

def requireSnapshot (context : InteractionContextBinding)
    (targetRef tabRef snapshotRef : String) : Except BrowserRefError Unit := do
  let _ ← registry.resolveTargetTab context targetRef tabRef
  let snapshot ← registry.requireKind snapshotRef context .snapshot
  requireRelation snapshot targetRef tabRef

/-! ### Taking names out -/

/-- Keep what is not to be dropped. -/
def retain (drops : BrowserBackendRef → Bool) : BrowserRefRegistry :=
  {registry with refs := registry.refs.filter fun _ reference => !drops reference}

def snapshotBoundFor (context : InteractionContextBinding) (targetRef tabRef : String)
    (reference : BrowserBackendRef) : Bool :=
  reference.contextId = context.id && reference.deviceId = context.deviceId &&
    reference.deviceGeneration = context.deviceGeneration &&
    reference.capabilityRevision = context.capabilityRevision &&
    reference.targetRef = some targetRef && reference.tabRef = some tabRef &&
    reference.kind.snapshotBound

def invalidateSnapshotBoundForTab
    (context : InteractionContextBinding) (targetRef tabRef : String) : BrowserRefRegistry :=
  registry.retain (snapshotBoundFor context targetRef tabRef)

def discardRefs (publicRefs : List String) : BrowserRefRegistry :=
  {registry with refs := registry.refs.discard publicRefs}

/-! ### Minting -/

def mint (new : BrowserMint) (drawn : List String) :
    BrowserRefRegistry × Except BrowserRefError String :=
  match validateBackendRef new.backendRef with
  | .error e => (registry, .error e)
  | .ok () =>
    if registry.maxRefsPerContext ≤ (registry.refs.values.filter fun reference =>
        reference.contextId = new.context.id).length then (registry, .error .refLimitExceeded)
    else match registry.refs.firstUnused 4 drawn with
      | none => (registry, .error .identifierCollision)
      | some publicRef =>
        ({registry with refs := registry.refs.insert publicRef (new.entry publicRef)}, .ok publicRef)

/-- A name is minted after a check, in a registry that some names were taken out of. -/
def mintAfter (check : Except BrowserRefError Unit)
    (cleared : BrowserRefRegistry) (new : BrowserMint) (drawn : List String) :
    BrowserRefRegistry × Except BrowserRefError String :=
  match check with
  | .error e => (registry, .error e)
  | .ok () => cleared.mint new drawn

def mintTarget (context : InteractionContextBinding)
    (backendTarget : String) (drawn : List String) :
    BrowserRefRegistry × Except BrowserRefError String :=
  registry.mint ⟨context, .target, backendTarget, none, none, none, [], false⟩ drawn

def mintTab (context : InteractionContextBinding)
    (targetRef backendTab : String) (drawn : List String) :
    BrowserRefRegistry × Except BrowserRefError String :=
  registry.mintAfter ((registry.requireKind targetRef context .target).map fun _ => ()) registry
    ⟨context, .tab, backendTab, some targetRef, none, none, [], false⟩ drawn

/-- What the tab's earlier snapshot showed is taken out first. -/
def beginSnapshot (context : InteractionContextBinding)
    (targetRef tabRef backendSnapshot : String) (drawn : List String) :
    BrowserRefRegistry × Except BrowserRefError String :=
  registry.mintAfter ((registry.resolveTargetTab context targetRef tabRef).map fun _ => ())
    (registry.invalidateSnapshotBoundForTab context targetRef tabRef)
    ⟨context, .snapshot, backendSnapshot, some targetRef, some tabRef, none, [], false⟩ drawn

/-- Actions in order, each once. -/
def exactActions (actions : List BrowserAction) : List BrowserAction :=
  (actions.mergeSort fun a b => a.ctorIdx ≤ b.ctorIdx).destutter (· ≠ ·)

def mintActionElement (context : InteractionContextBinding)
    (targetRef tabRef snapshotRef backendElement : String) (actions : List BrowserAction)
    (drawn : List String) : BrowserRefRegistry × Except BrowserRefError String :=
  registry.mintAfter (do
      registry.requireSnapshot context targetRef tabRef snapshotRef
      if actions.isEmpty then .error .actionUnavailable else .ok ()) registry
    ⟨context, .actionElement, backendElement, some targetRef, some tabRef, some snapshotRef,
      exactActions actions, false⟩ drawn

def mintContentElement (context : InteractionContextBinding)
    (targetRef tabRef snapshotRef backendElement : String) (drawn : List String) :
    BrowserRefRegistry × Except BrowserRefError String :=
  registry.mintAfter (registry.requireSnapshot context targetRef tabRef snapshotRef) registry
    ⟨context, .contentElement, backendElement, some targetRef, some tabRef, some snapshotRef, [],
      false⟩ drawn

def mintContinuation (context : InteractionContextBinding)
    (targetRef tabRef snapshotRef backendContinuation : String) (drawn : List String) :
    BrowserRefRegistry × Except BrowserRefError String :=
  registry.mintAfter (registry.requireSnapshot context targetRef tabRef snapshotRef) registry
    ⟨context, .continuation, backendContinuation, some targetRef, some tabRef, some snapshotRef, [],
      true⟩ drawn

/-! ### What resolves -/

/-- The reference is held under the name and belongs to the context. -/
structure Owned (registry : BrowserRefRegistry) (context : InteractionContextBinding)
    (publicRef : String) (reference : BrowserBackendRef) : Prop where
  found : registry.refs[publicRef]? = some reference
  name : reference.publicRef = publicRef
  owner : reference.contextId = context.id
  device : reference.deviceId = context.deviceId
  generation : reference.deviceGeneration = context.deviceGeneration
  revision : reference.capabilityRevision = context.capabilityRevision

variable {registry : BrowserRefRegistry} {context : InteractionContextBinding}
  {publicRef targetRef tabRef snapshotRef : String} {reference : BrowserBackendRef}

theorem requireOwned_eq_ok :
    registry.requireOwned publicRef context = .ok reference ↔
      registry.Owned context publicRef reference := by
  unfold requireOwned
  cases found : registry.refs[publicRef]? with
  | none =>
    refine ⟨fun ok => (by cases ok), fun owned => ?_⟩
    cases found.symm.trans owned.found
  | some held =>
    rw [guard_eq_ok, guard_eq_ok, guard_eq_ok]
    constructor
    · rintro ⟨bound, generation, revision, is⟩
      cases is
      simp only [not_or, Classical.not_not] at bound generation revision
      exact ⟨found, bound.1, bound.2.1, bound.2.2, generation, revision⟩
    · intro owned
      cases found.symm.trans owned.found
      refine ⟨?_, not_not_intro owned.generation, not_not_intro owned.revision, rfl⟩
      rintro (other | other | other)
      · exact other owned.name
      · exact other owned.owner
      · exact other owned.device

theorem requireKind_eq_ok {expected : BrowserRefKind} :
    registry.requireKind publicRef context expected = .ok reference ↔
      registry.Owned context publicRef reference ∧ reference.kind = expected := by
  unfold requireKind
  simp only [bind_eq_ok, requireOwned_eq_ok, guard_eq_ok, Classical.not_not]
  constructor
  · rintro ⟨_, owned, kind, is⟩
    cases is
    exact ⟨owned, kind⟩
  · rintro ⟨owned, kind⟩
    exact ⟨reference, owned, kind, rfl⟩

theorem resolveTargetTab_eq_ok {resolved : ResolvedBrowserTargetTab} :
    registry.resolveTargetTab context targetRef tabRef = .ok resolved ↔
      ∃ target tab, registry.Owned context targetRef target ∧ target.kind = .target ∧
        registry.Owned context tabRef tab ∧ tab.kind = .tab ∧ tab.targetRef = some targetRef ∧
        resolved = ⟨target.backendRef, tab.backendRef⟩ := by
  unfold resolveTargetTab
  simp only [bind_eq_ok, requireKind_eq_ok, guard_eq_ok, Classical.not_not]
  constructor
  · rintro ⟨target, ⟨owned, kind⟩, tab, ⟨owned', kind'⟩, relation, is⟩
    cases is
    exact ⟨target, tab, owned, kind, owned', kind', relation, rfl⟩
  · rintro ⟨target, tab, owned, kind, owned', kind', relation, rfl⟩
    exact ⟨target, ⟨owned, kind⟩, tab, ⟨owned', kind'⟩, relation, rfl⟩

theorem requireRelation_eq_ok {u : Unit} :
    requireRelation reference targetRef tabRef = .ok u ↔
      reference.targetRef = some targetRef ∧ reference.tabRef = some tabRef := by
  unfold requireRelation
  rw [guard_eq_ok]
  simp only [not_or, Classical.not_not, and_true]

/-- The target and the tab are held and belong together. -/
def HasTab (context : InteractionContextBinding) (targetRef tabRef : String) : Prop :=
  ∃ resolved, registry.resolveTargetTab context targetRef tabRef = .ok resolved

/-- The snapshot is held and is one of the tab. -/
def HasSnapshot (context : InteractionContextBinding)
    (targetRef tabRef snapshotRef : String) : Prop :=
  ∃ snapshot, registry.Owned context snapshotRef snapshot ∧ snapshot.kind = .snapshot ∧
    snapshot.targetRef = some targetRef ∧ snapshot.tabRef = some tabRef

theorem requireSnapshot_eq_ok {u : Unit} :
    registry.requireSnapshot context targetRef tabRef snapshotRef = .ok u ↔
      registry.HasTab context targetRef tabRef ∧
        registry.HasSnapshot context targetRef tabRef snapshotRef := by
  unfold requireSnapshot
  simp only [bind_eq_ok, requireKind_eq_ok, requireRelation_eq_ok]
  constructor
  · rintro ⟨resolved, tab, snapshot, ⟨owned, kind⟩, relation⟩
    exact ⟨⟨resolved, tab⟩, snapshot, owned, kind, relation⟩
  · rintro ⟨⟨resolved, tab⟩, snapshot, owned, kind, relation⟩
    exact ⟨resolved, tab, snapshot, ⟨owned, kind⟩, relation⟩

/-- The references of a context. -/
def count (contextId : String) : Nat :=
  (registry.refs.values.filter fun reference => reference.contextId = contextId).length

/-- A name is added. -/
def adding (publicRef : String) (new : BrowserMint) : BrowserRefRegistry :=
  {registry with refs := registry.refs.insert publicRef (new.entry publicRef)}

theorem ext_refs {a b : BrowserRefRegistry} (limit : a.maxRefsPerContext = b.maxRefsPerContext)
    (refs : ∀ publicRef : String, a.refs[publicRef]? = b.refs[publicRef]?) : a = b := by
  cases b
  cases limit
  cases Table.ext_get refs
  rfl

end BrowserRefRegistry

end Gateway.Northbound
