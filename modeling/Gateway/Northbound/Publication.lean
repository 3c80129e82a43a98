import Gateway.Data.Fallible
import Gateway.Data.Machine
import Gateway.Northbound.BrowserRefs

/-! What a result shows is published under names that the client may use.

A result comes with as many names as it shows things, minted one after the other. The names of a
browser result are taken back when one of them cannot be minted, and those of the tab's earlier
snapshot are dropped first. The names of a window are neither taken back nor dropped: a context
whose window snapshots have used up its names gets no further one. -/
namespace Gateway.Northbound
open Data Carrier BrowserRefRegistry ScopedBackendRefRegistry Fallible.Triple

inductive McpError where
  | internalError (message : String)

/-- A registry and the names that the call has minted so far, newest first. -/
structure Minting (R : Type) where
  registry : R
  minted : List String

abbrev Publishing (R : Type) := Fallible McpError (Minting R)

/-- What a call comes to that starts from a registry. -/
def Publishing.on {R α : Type} (call : Publishing R α) (registry : R) :
    Except McpError α × Minting R :=
  call.run.run ⟨registry, []⟩

/-- If the call fails, none of the names it has minted is good for anything. -/
def AllOrNothing {R α : Type} (resolves : R → String → Prop) (out : Except McpError α × Minting R) :
    Prop :=
  out.1.isOk = false → ∀ publicRef ∈ out.2.minted, ¬ resolves out.2.registry publicRef

/-! ### Windows -/

variable (binding : InteractionContextBinding) (draws : Nat → List String)

/-- One name. The names drawn for it are those of its place among the names of the call. -/
def mintScoped (kind : ScopedRefKind) (backendRef message : String) :
    Publishing ScopedBackendRefRegistry String := fun s =>
  match s.registry.mint binding kind backendRef (draws s.minted.length) with
  | .error _ => (.error (.internalError message), s)
  | .ok (publicRef, after) => (.ok publicRef, ⟨after, publicRef :: s.minted⟩)

/-- An element under its public name, below the public name of its parent. -/
def rewriteElement (remap : Table String) (element : UiElement) :
    Publishing ScopedBackendRefRegistry UiElement :=
  match remap[element.elementRef]? with
  | none => throw (.internalError "Scoped element ref rewrite failed")
  | some publicRef => return {element with
      elementRef := publicRef
      parentRef := element.parentRef.bind fun rawParent => remap[rawParent]?}

def publicizeWindowSnapshot : DeviceResult → Publishing ScopedBackendRefRegistry DeviceResult
  | .windowSnapshot snapshotRef processId windowId elements elementsComplete image => do
    let publicSnapshot ← mintScoped binding draws .snapshot snapshotRef
      "Scoped snapshot ref limit exceeded"
    let remap ← elements.foldlM (fun (remap : Table String) element => do
      let publicRef ← mintScoped binding draws .element element.elementRef
        "Scoped element ref limit exceeded"
      return remap.insert element.elementRef publicRef) ∅
    let elements ← elements.mapM (rewriteElement remap)
    return .windowSnapshot publicSnapshot processId windowId elements elementsComplete image
  | result => return result

/-! ### Browsers -/

structure PreparedBrowserCall where
  binding : InteractionContextBinding
  publicTargetRef : Option String
  publicTabRef : Option String

structure BrowserTabSummary where
  tabRef : String
  title : Option String
  url : Option String
  active : Option Bool

structure BrowserBindingResult where
  targetRef : String
  processId : Nat
  windowId : Nat
  exact : Bool
  mutationAllowed : Bool
  tabs : List BrowserTabSummary

structure BrowserSemanticRef where
  elementRef : String
  role : String
  name : Option String
  value : Option String
  states : List String
  actions : List BrowserAction
  frame : String
  visibility : String

structure BrowserSnapshotResult where
  snapshotRef : String
  outline : String
  actionRefs : List BrowserSemanticRef
  contentRefs : List BrowserSemanticRef
  complete : Bool
  omitted : Nat
  continuationRef : Option String
  screenshotBase64 : Option String
  screenshotWidth : Option Nat
  screenshotHeight : Option Nat
  viewportCssWidth : Option Nat
  viewportCssHeight : Option Nat

/-- What the backend says of a browser that was bound. -/
structure BrowserBackendBinding where
  backendTargetId : String
  processId : Nat
  windowId : Nat
  tabs : List BrowserBackendTab

/-- What the backend says of a page. -/
structure BrowserBackendSnapshot where
  backendSnapshotId : String
  outline : String
  actionRefs : List BrowserBackendSemanticRef
  contentRefs : List BrowserBackendSemanticRef
  complete : Bool
  omitted : Nat
  backendContinuation : Option String
  screenshot : Option BrowserBackendScreenshot

def browserRefMintErrorToMcp (_ : BrowserRefError) : McpError :=
  .internalError "Browser ref registry unavailable"

def browserPublicRefInternalError : McpError :=
  .internalError "Browser public ref binding unavailable"

def publicizeBrowserSemanticRef (backend : BrowserBackendSemanticRef) (elementRef : String) :
    BrowserSemanticRef :=
  ⟨elementRef, backend.role, backend.name, backend.value, backend.states, backend.actions,
    backend.frame, backend.visibility⟩

/-- One name of a browser call. -/
def minting
    (mint : BrowserRefRegistry → List String → BrowserRefRegistry × Except BrowserRefError String) :
    Publishing BrowserRefRegistry String := fun s =>
  match mint s.registry (draws s.minted.length) with
  | (after, .error e) => (.error (browserRefMintErrorToMcp e), ⟨after, s.minted⟩)
  | (after, .ok publicRef) => (.ok publicRef, ⟨after, publicRef :: s.minted⟩)

theorem minting_run
    (mint : BrowserRefRegistry → List String → BrowserRefRegistry × Except BrowserRefError String)
    (s : Minting BrowserRefRegistry) :
    (minting draws mint).run.run s = match mint s.registry (draws s.minted.length) with
      | (after, .error e) => (.error (browserRefMintErrorToMcp e), ⟨after, s.minted⟩)
      | (after, .ok publicRef) => (.ok publicRef, ⟨after, publicRef :: s.minted⟩) :=
  rfl

/-- The names minted so far are taken back when the call fails. -/
def discarding {α : Type} (call : Publishing BrowserRefRegistry α) :
    Publishing BrowserRefRegistry α := fun s =>
  match call.run.run s with
  | (.ok a, s') => (.ok a, s')
  | (.error e, s') => (.error e, ⟨s'.registry.discardRefs s'.minted, s'.minted⟩)

theorem discarding_of_ok {α : Type} {call : Publishing BrowserRefRegistry α}
    {registry : BrowserRefRegistry} {a : α} {s : Minting BrowserRefRegistry}
    (reached : call.run.run ⟨registry, []⟩ = (.ok a, s)) :
    (discarding call).on registry = (.ok a, s) := by
  show discarding call ⟨registry, []⟩ = _
  unfold discarding
  rw [reached]

/-- The binding of a browser. -/
def publicizeBound (prepared : PreparedBrowserCall) (draws : Nat → List String)
    (bound : BrowserBackendBinding) : Publishing BrowserRefRegistry BrowserBindingResult :=
  discarding do
    let targetRef ← minting draws fun registry drawn =>
      registry.mintTarget prepared.binding bound.backendTargetId drawn
    let tabs ← bound.tabs.mapM fun tab => do
      let tabRef ← minting draws fun registry drawn =>
        registry.mintTab prepared.binding targetRef tab.backendTabId drawn
      return (⟨tabRef, tab.title, tab.url, tab.active⟩ : BrowserTabSummary)
    return ⟨targetRef, bound.processId, bound.windowId, true, true, tabs⟩

/-- What a snapshot shows, once its own name is minted. -/
def publicizePage (targetRef tabRef : String)
    (draws : Nat → List String) (page : BrowserBackendSnapshot) :
    Publishing BrowserRefRegistry BrowserSnapshotResult := do
  let snapshotRef ← minting draws fun registry drawn =>
    registry.beginSnapshot binding targetRef tabRef page.backendSnapshotId drawn
  let actionRefs ← page.actionRefs.mapM fun reference => do
    let publicRef ← minting draws fun registry drawn =>
      registry.mintActionElement binding targetRef tabRef snapshotRef reference.backendRef
        reference.actions drawn
    return publicizeBrowserSemanticRef reference publicRef
  let contentRefs ← page.contentRefs.mapM fun reference => do
    let publicRef ← minting draws fun registry drawn =>
      registry.mintContentElement binding targetRef tabRef snapshotRef reference.backendRef drawn
    return publicizeBrowserSemanticRef reference publicRef
  let continuationRef ← page.backendContinuation.mapM fun backendContinuation =>
    minting draws fun registry drawn =>
      registry.mintContinuation binding targetRef tabRef snapshotRef backendContinuation drawn
  return {
    snapshotRef, outline := page.outline, actionRefs, contentRefs, complete := page.complete
    omitted := page.omitted, continuationRef
    screenshotBase64 := page.screenshot.map (·.image.dataBase64)
    screenshotWidth := page.screenshot.map (·.image.widthPixels)
    screenshotHeight := page.screenshot.map (·.image.heightPixels)
    viewportCssWidth := page.screenshot.map (·.viewportCssWidth)
    viewportCssHeight := page.screenshot.map (·.viewportCssHeight) }

/-- A snapshot of a tab. -/
def publicizeSnapshot (prepared : PreparedBrowserCall) (draws : Nat → List String)
    (page : BrowserBackendSnapshot) : Publishing BrowserRefRegistry BrowserSnapshotResult :=
  match prepared.publicTargetRef, prepared.publicTabRef with
  | none, _ => throw browserPublicRefInternalError
  | some _, none => throw browserPublicRefInternalError
  | some targetRef, some tabRef =>
    discarding (publicizePage prepared.binding targetRef tabRef draws page)

/-! ### Which window snapshots are published -/

namespace ScopedBackendRefRegistry

/-- The references of a context. -/
def count (registry : ScopedBackendRefRegistry) (contextId : String) : Nat :=
  registry.refs.live ScopedBackendRef.contextId contextId

/-- The name can be used for something. -/
def Resolves (registry : ScopedBackendRefRegistry) (publicRef : String) : Prop :=
  ∃ context kind backendRef, registry.resolve publicRef context kind = .ok backendRef

/-- The backend may call something so. -/
abbrev MayHold (backendRef : String) : Prop :=
  backendRef.isEmpty = false ∧ backendRef.utf8ByteSize ≤ maxBackendRefBytes

theorem mint_eq_ok {registry : ScopedBackendRefRegistry} {context : InteractionContextBinding}
    {backendRef name : String} {drawn : List String} (kind : ScopedRefKind)
    (valid : MayHold backendRef) (room : registry.count context.id < registry.maxRefsPerContext)
    (found : registry.refs.firstUnused 4 drawn = some name) :
    registry.mint context kind backendRef drawn = .ok (name, {registry with
      refs := registry.refs.insert name ⟨name, context.id, context.deviceId,
        context.deviceGeneration, context.capabilityRevision, kind, backendRef⟩}) := by
  unfold mint
  rw [if_neg, if_neg, found]
  · exact Nat.not_le.mpr room
  · rw [Bool.or_eq_true, decide_eq_true_eq, valid.1]
    rintro (empty | long)
    · cases empty
    · exact absurd valid.2 (Nat.not_le.mpr long)

theorem mint_eq_error {registry : ScopedBackendRefRegistry} {context : InteractionContextBinding}
    {backendRef : String} (kind : ScopedRefKind) (drawn : List String)
    (refused : MayHold backendRef → ¬ registry.count context.id < registry.maxRefsPerContext) :
    ∃ e, registry.mint context kind backendRef drawn = .error e := by
  unfold mint
  split
  · exact ⟨_, rfl⟩
  · next valid =>
    rw [if_pos]
    · exact ⟨_, rfl⟩
    · refine Nat.not_lt.mp (refused ?_)
      simpa only [Bool.or_eq_true, decide_eq_true_eq, not_or, Bool.not_eq_true, Nat.not_lt]
        using valid

/-- There is room for the references, each of which is one that may be held. -/
def Fits (registry : ScopedBackendRefRegistry) (contextId : String) (refs : List String) : Prop :=
  (∀ backendRef ∈ refs, MayHold backendRef) ∧
    refs.length ≤ registry.maxRefsPerContext - registry.count contextId

instance (registry : ScopedBackendRefRegistry) (contextId : String) (refs : List String) :
    Decidable (registry.Fits contextId refs) :=
  inferInstanceAs (Decidable (_ ∧ _))

variable {registry registry' : ScopedBackendRefRegistry} {contextId : String} {refs more : List String}

theorem fits_nil : registry.Fits contextId [] :=
  ⟨fun _ among => absurd among List.not_mem_nil, Nat.zero_le _⟩

/-- References fit one after the other if each fits beside those before it. -/
theorem fits_append (limit : registry'.maxRefsPerContext = registry.maxRefsPerContext)
    (grown : registry.Fits contextId refs →
      registry'.count contextId = registry.count contextId + refs.length) :
    registry.Fits contextId (refs ++ more) ↔
      registry.Fits contextId refs ∧ registry'.Fits contextId more := by
  constructor
  · rintro ⟨valid, room⟩
    rw [List.length_append] at room
    have first : registry.Fits contextId refs :=
      ⟨fun r among => valid r (List.mem_append_left more among), by omega⟩
    refine ⟨first, fun r among => valid r (List.mem_append_right refs among), ?_⟩
    rw [grown first]
    omega
  · rintro ⟨first, valid, room⟩
    rw [grown first] at room
    refine ⟨fun r among => ?_, ?_⟩
    · rcases List.mem_append.mp among with among | among
      · exact first.1 r among
      · exact valid r among
    · have room' := first.2
      rw [List.length_append]
      omega

theorem Fits.of_append (fits : registry.Fits contextId (refs ++ more)) :
    registry.Fits contextId refs := by
  refine ⟨fun r among => fits.1 r (List.mem_append_left more among), Nat.le_trans ?_ fits.2⟩
  rw [List.length_append]
  exact Nat.le_add_right _ _

end ScopedBackendRefRegistry

/-- What a result is to be published with. -/
def windowRefs : DeviceResult → List String
  | .windowSnapshot snapshotRef _ _ elements _ _ => snapshotRef :: elements.map (·.elementRef)
  | _ => []

/-- The reference is one of the context. -/
def Belongs (publicRef : String) (reference : ScopedBackendRef) : Prop :=
  ∃ kind backendRef, reference = ⟨publicRef, binding.id, binding.deviceId,
    binding.deviceGeneration, binding.capabilityRevision, kind, backendRef⟩

/-- The references are shown, and nothing else has changed. -/
structure Shown (registry : ScopedBackendRefRegistry) (binding : InteractionContextBinding)
    (draws : Nat → List String) (refs : List String) (s : Minting ScopedBackendRefRegistry) :
    Prop where
  limit : s.registry.maxRefsPerContext = registry.maxRefsPerContext
  minted : Table.Minted (Belongs binding) ScopedBackendRef.contextId binding.id draws registry.refs
    s.minted s.registry.refs
  length : s.minted.length = refs.length
  fits : registry.Fits binding.id refs

section Windows
variable {registry : ScopedBackendRefRegistry} {binding : InteractionContextBinding}
  {draws : Nat → List String} {refs : List String} {s : Minting ScopedBackendRefRegistry}

theorem Shown.start : Shown registry binding draws [] ⟨registry, []⟩ :=
  ⟨rfl, Table.Minted.start _, rfl, fits_nil⟩

theorem Shown.count (shown : Shown registry binding draws refs s) :
    s.registry.count binding.id = registry.count binding.id + refs.length :=
  shown.minted.held.trans (by rw [shown.length]; rfl)

/-- One more fits if it may be held and the context has a name left. -/
theorem Shown.fits_one (shown : Shown registry binding draws refs s) (backendRef : String) :
    registry.Fits binding.id (refs ++ [backendRef]) ↔
      ScopedBackendRefRegistry.MayHold backendRef ∧
        s.registry.count binding.id < s.registry.maxRefsPerContext := by
  rw [fits_append shown.limit fun _ => shown.count, and_iff_right shown.fits]
  unfold ScopedBackendRefRegistry.Fits
  rw [List.forall_mem_singleton, List.length_singleton]
  refine and_congr Iff.rfl ?_
  omega

/-- A name is minted exactly if it fits beside those before it. -/
theorem mintScoped_triple (fresh : Table.Fresh draws registry.refs) (kind : ScopedRefKind)
    (backendRef message : String) :
    Fallible.Triple (Shown registry binding draws refs)
      (mintScoped binding draws kind backendRef message)
      (fun _ => Shown registry binding draws (refs ++ [backendRef]))
      (fun s => Shown registry binding draws refs s ∧
        ¬ registry.Fits binding.id (refs ++ [backendRef])) := by
  intro s shown
  have fits := shown.fits_one backendRef
  show Fallible.Ends _ _ (mintScoped binding draws kind backendRef message s)
  unfold mintScoped
  by_cases may : registry.Fits binding.id (refs ++ [backendRef])
  · obtain ⟨valid, room⟩ := fits.mp may
    obtain ⟨name, among, found⟩ := shown.minted.firstUnused_eq fresh
    rw [mint_eq_ok kind valid room found]
    refine ⟨shown.limit, ?_, ?_, may⟩
    · exact shown.minted.insert (shown.minted.unused fresh among) ⟨kind, backendRef, rfl⟩ rfl among
    · show s.minted.length + 1 = _
      rw [shown.length, List.length_append]
      rfl
  · obtain ⟨e, refused⟩ := mint_eq_error kind (draws s.minted.length)
      fun valid room => may (fits.mpr ⟨valid, room⟩)
    rw [refused]
    exact ⟨shown, may⟩

/-- The first few references are shown and the next one does not fit. -/
def Stuck (registry : ScopedBackendRefRegistry) (binding : InteractionContextBinding)
    (draws : Nat → List String) (refs : List String) (s : Minting ScopedBackendRefRegistry) : Prop :=
  ∃ shown next rest, refs = shown ++ next :: rest ∧ Shown registry binding draws shown s ∧
    ¬ registry.Fits binding.id (shown ++ [next])

theorem Stuck.not_fits (stuck : Stuck registry binding draws refs s) :
    ¬ registry.Fits binding.id refs := by
  obtain ⟨shown, next, rest, rfl, _, refused⟩ := stuck
  intro fits
  have split : registry.Fits binding.id ((shown ++ [next]) ++ rest) := by
    rwa [List.append_assoc]
  exact refused split.of_append

/-- Something was minted if the first reference fits. -/
theorem Stuck.minted_eq_nil (stuck : Stuck registry binding draws refs s) :
    s.minted = [] ↔ ¬ registry.Fits binding.id (refs.take 1) := by
  obtain ⟨shown, next, rest, rfl, reached, refused⟩ := stuck
  rw [← List.length_eq_zero_iff, reached.length]
  cases shown with
  | nil => exact ⟨fun _ => refused, fun _ => rfl⟩
  | cons first others =>
    refine ⟨fun none => (by cases none), fun refused => absurd ?_ refused⟩
    have split : registry.Fits binding.id ([first] ++ others) := reached.fits
    exact split.of_append

/-- The elements have public names. -/
def Named (remap : Table String) (elements : List UiElement) : Prop :=
  ∀ element ∈ elements, element.elementRef ∈ remap

theorem Named.insert {remap : Table String} {elements : List UiElement}
    (named : Named remap elements) (element : UiElement) (publicRef : String) :
    Named (remap.insert element.elementRef publicRef) (elements ++ [element]) := by
  intro other among
  rw [Std.ExtTreeMap.mem_insert]
  rcases List.mem_append.mp among with among | among
  · exact .inr (named other among)
  · rw [List.mem_singleton.mp among]
    exact .inl Std.ReflCmp.compare_self

theorem rewriteElement_triple {P : Minting ScopedBackendRefRegistry → Prop}
    {E : Minting ScopedBackendRefRegistry → Prop} {remap : Table String} {element : UiElement}
    (named : element.elementRef ∈ remap) :
    Fallible.Triple P (rewriteElement remap element) (fun _ => P) E := by
  obtain ⟨publicRef, found⟩ := Table.mem_iff_get.mp named
  unfold rewriteElement
  rw [found]
  exact pure fun _ h => h

/-- The names of the elements, minted after that of the snapshot. -/
theorem mintElements_triple (fresh : Table.Fresh draws registry.refs) (snapshotRef : String)
    (elements : List UiElement) :
    Fallible.Triple (Shown registry binding draws [snapshotRef])
      (elements.foldlM (fun (remap : Table String) element => do
        let publicRef ← mintScoped binding draws .element element.elementRef
          "Scoped element ref limit exceeded"
        return remap.insert element.elementRef publicRef) ∅)
      (fun remap s => Shown registry binding draws (snapshotRef :: elements.map (·.elementRef)) s ∧
        Named remap elements)
      (Stuck registry binding draws (snapshotRef :: elements.map (·.elementRef))) := by
  -- the invariant of the loop: what was done is shown and has names
  let I (done : List UiElement) (remap : Table String) (s : Minting ScopedBackendRefRegistry) : Prop :=
    Shown registry binding draws (snapshotRef :: done.map (·.elementRef)) s ∧ Named remap done
  refine (foldlM (I := I) ?_).before fun s shown =>
    ⟨shown, fun _ among => absurd among List.not_mem_nil⟩
  intro done element rest are remap
  refine given fun named => ?_
  refine ((mintScoped_triple fresh .element element.elementRef _).after (fun _ _ h => h)
    fun s failed => ?_).bind fun publicRef =>
      pure fun s shown => ⟨?_, named.insert element publicRef⟩
  · refine ⟨_, element.elementRef, rest.map (·.elementRef), ?_, failed⟩
    rw [are, List.map_append, List.map_cons, List.cons_append]
  · rw [List.map_append]
    exact shown

/-- A window snapshot is published whole, or as far as its references fit. -/
theorem publicizeWindowSnapshot_triple (binding : InteractionContextBinding)
    (fresh : Table.Fresh draws registry.refs) (result : DeviceResult) :
    Fallible.Triple (· = ⟨registry, []⟩) (publicizeWindowSnapshot binding draws result)
      (fun _ => Shown registry binding draws (windowRefs result))
      (Stuck registry binding draws (windowRefs result)) := by
  unfold publicizeWindowSnapshot
  split
  · next snapshotRef processId windowId elements elementsComplete image =>
    have snapshot : Fallible.Triple (· = ⟨registry, []⟩)
        (mintScoped binding draws .snapshot snapshotRef "Scoped snapshot ref limit exceeded")
        (fun _ => Shown registry binding draws [snapshotRef])
        (Stuck registry binding draws (snapshotRef :: elements.map (·.elementRef))) := by
      intro s start
      have shown : Shown registry binding draws [] s := start ▸ Shown.start
      refine (mintScoped_triple fresh _ _ _).after (fun _ _ h => h) ?_ s shown
      rintro s ⟨shown, refused⟩
      exact ⟨[], snapshotRef, _, rfl, shown, refused⟩
    refine snapshot.bind fun _ => (mintElements_triple fresh snapshotRef elements).bind fun remap =>
      given fun named => ?_
    let I (_ : List UiElement) (_ : List UiElement) (s : Minting ScopedBackendRefRegistry) : Prop :=
      Shown registry binding draws (snapshotRef :: elements.map (·.elementRef)) s
    suffices rewritten : Fallible.Triple (I [] []) (elements.mapM (rewriteElement remap)) (I elements)
        (Stuck registry binding draws (snapshotRef :: elements.map (·.elementRef))) from
      rewritten.bind fun _ => pure fun _ h => h
    refine mapM fun done element rest are _ => ?_
    refine rewriteElement_triple (named element ?_)
    rw [are]
    exact List.mem_append_right _ List.mem_cons_self
  · next other =>
    refine pure fun s start => ?_
    subst start
    rw [windowRefs]
    · exact Shown.start
    · exact other

/-- What is shown can be used. -/
theorem Shown.resolves (shown : Shown registry binding draws refs s) {publicRef : String}
    (among : publicRef ∈ s.minted) : s.registry.Resolves publicRef := by
  obtain ⟨_, found, kind, backendRef, rfl⟩ := shown.minted.grown.added publicRef among
  refine ⟨binding, kind, backendRef, ?_⟩
  unfold resolve
  rw [found]
  simp

/-- The call ends with all of its references shown, or is stuck at one that does not fit. -/
theorem publicizeWindowSnapshot_cases (binding : InteractionContextBinding)
    (fresh : Table.Fresh draws registry.refs) (result : DeviceResult) :
    let out := (publicizeWindowSnapshot binding draws result).on registry
    (out.1.isOk = true ∧ Shown registry binding draws (windowRefs result) out.2) ∨
      (out.1.isOk = false ∧ Stuck registry binding draws (windowRefs result) out.2) := by
  intro out
  have ends := publicizeWindowSnapshot_triple binding fresh result _ rfl
  change Fallible.Ends _ _ out at ends
  match out with
  | (.ok _, s) => exact .inl ⟨rfl, ends⟩
  | (.error _, s) => exact .inr ⟨rfl, ends⟩

/-- A failure leaves nothing behind exactly if it comes before the first name. -/
theorem allOrNothing_window (fresh : Table.Fresh draws registry.refs) (result : DeviceResult) :
    AllOrNothing ScopedBackendRefRegistry.Resolves
        ((publicizeWindowSnapshot binding draws result).on registry) ↔
      (registry.Fits binding.id ((windowRefs result).take 1) →
        registry.Fits binding.id (windowRefs result)) := by
  unfold AllOrNothing
  rcases publicizeWindowSnapshot_cases binding fresh result with
    ⟨ok, shown⟩ | ⟨failed, stuck⟩
  · rw [ok]
    exact ⟨fun _ _ => shown.fits, fun _ failed => (by cases failed)⟩
  · have none := stuck.minted_eq_nil
    constructor
    · intro nothing first
      exfalso
      obtain ⟨_, _, _, _, reached, _⟩ := stuck
      cases minted : ((publicizeWindowSnapshot binding draws result).on registry).2.minted with
      | nil => exact none.mp minted first
      | cons name rest =>
        have among := minted ▸ List.mem_cons_self
        exact nothing failed name among (reached.resolves among)
    · intro whole _ publicRef among
      have empty := none.mpr fun first => stuck.not_fits (whole first)
      rw [empty] at among
      cases among

/-- A result, and the names drawn for it. -/
structure WindowCall where
  result : DeviceResult
  draws : Nat → List String

namespace WindowCall

/-- The registry after a call in the context. -/
def next (binding : InteractionContextBinding) (registry : ScopedBackendRefRegistry)
    (call : WindowCall) : ScopedBackendRefRegistry :=
  ((publicizeWindowSnapshot binding call.draws call.result).on registry).2.registry

def Published (binding : InteractionContextBinding) (registry : ScopedBackendRefRegistry)
    (call : WindowCall) : Prop :=
  ((publicizeWindowSnapshot binding call.draws call.result).on registry).1.isOk = true

def DrawsFresh (registry : ScopedBackendRefRegistry) (call : WindowCall) : Prop :=
  Table.Fresh call.draws registry.refs

end WindowCall

/-- A sequence of window snapshots is published exactly if all of them together fit. -/
theorem published_windows {calls : List WindowCall}
    (fresh : Machine.Meets (WindowCall.next binding) WindowCall.DrawsFresh registry calls) :
    Machine.Meets (WindowCall.next binding) (WindowCall.Published binding) registry calls ↔
      registry.Fits binding.id (calls.flatMap fun call => windowRefs call.result) := by
  induction calls generalizing registry with
  | nil => exact ⟨fun _ => fits_nil, fun _ => trivial⟩
  | cons call rest ih =>
    rw [List.flatMap_cons]
    show WindowCall.Published binding registry call ∧ _ ↔ _
    rcases publicizeWindowSnapshot_cases binding fresh.1 call.result with
      ⟨ok, shown⟩ | ⟨failed, stuck⟩
    · rw [ih fresh.2, fits_append shown.limit fun _ => shown.count]
      exact and_congr ⟨fun _ => shown.fits, fun _ => ok⟩ Iff.rfl
    · constructor
      · rintro ⟨ok, _⟩
        rw [WindowCall.Published, failed] at ok
        cases ok
      · intro fits
        exact absurd fits.of_append stuck.not_fits

end Windows

end Gateway.Northbound
