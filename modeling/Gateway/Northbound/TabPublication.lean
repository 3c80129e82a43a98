import Gateway.Northbound.Publication

/-! Snapshots of a tab, and which publications go through.

A snapshot of a tab takes the place of the one before it, so the room that a context has for them
is the same however many there were. Window snapshots share the room of their context: all of them
together must fit. -/
namespace Gateway.Northbound
open Data Carrier BrowserRefRegistry Fallible.Triple Table

/-! ### Which snapshots of a tab are published -/

/-- The name can be used for something. -/
def BrowserRefRegistry.Resolves (registry : BrowserRefRegistry) (publicRef : String) : Prop :=
  ∃ context reference, registry.requireOwned publicRef context = .ok reference

/-- Whatever a call has minted when it fails, it takes back. -/
theorem allOrNothing_discarding {α : Type} (call : Publishing BrowserRefRegistry α)
    (registry : BrowserRefRegistry) :
    AllOrNothing BrowserRefRegistry.Resolves ((discarding call).on registry) := by
  rintro failed publicRef among ⟨context, reference, resolved⟩
  have found := (requireOwned_eq_ok.mp resolved).found
  revert failed among found
  show (discarding call ⟨registry, []⟩).1.isOk = false →
    publicRef ∈ (discarding call ⟨registry, []⟩).2.minted →
    (discarding call ⟨registry, []⟩).2.registry.refs[publicRef]? = some reference → False
  unfold discarding
  split
  · exact fun failed => (by cases failed)
  · intro _ among found
    rw [discardRefs, get_discard, if_pos among] at found
    cases found

theorem allOrNothing_bound (prepared : PreparedBrowserCall) (draws : Nat → List String)
    (bound : BrowserBackendBinding) (registry : BrowserRefRegistry) :
    AllOrNothing BrowserRefRegistry.Resolves ((publicizeBound prepared draws bound).on registry) :=
  allOrNothing_discarding _ registry

theorem allOrNothing_snapshot (prepared : PreparedBrowserCall) (draws : Nat → List String)
    (page : BrowserBackendSnapshot) (registry : BrowserRefRegistry) :
    AllOrNothing BrowserRefRegistry.Resolves ((publicizeSnapshot prepared draws page).on registry) := by
  unfold publicizeSnapshot
  split
  · intro _ publicRef among
    cases among
  · intro _ publicRef among
    cases among
  · exact allOrNothing_discarding _ registry

namespace BrowserBackendSnapshot

/-- What a snapshot is to be published with. -/
def refs (page : BrowserBackendSnapshot) : List String :=
  page.backendSnapshotId :: (page.actionRefs.map (·.backendRef) ++
    (page.contentRefs.map (·.backendRef) ++ page.backendContinuation.toList))

/-- Its references are ones that may be held, and an element to act on has an action. -/
structure WellFormed (page : BrowserBackendSnapshot) : Prop where
  refs : ∀ backendRef ∈ page.refs, validateBackendRef backendRef = .ok ()
  actions : ∀ reference ∈ page.actionRefs, reference.actions ≠ []

end BrowserBackendSnapshot

section Tabs
variable {base now registry : BrowserRefRegistry} {binding : InteractionContextBinding}
  {targetRef tabRef snapshotRef : String} {draws : Nat → List String} {minted : List String} {n : Nat}

variable {publicRef backendRef : String} {reference : BrowserBackendRef} {new : BrowserMint}
  {prepared : PreparedBrowserCall}

theorem Owned.adding {name : String} (owned : now.Owned binding name reference)
    (unused : now.refs[publicRef]? = none) :
    (now.adding publicRef new).Owned binding name reference := by
  refine {owned with found := ?_}
  have differs : publicRef ≠ name := by
    rintro rfl
    cases unused.symm.trans owned.found
  exact (get_insert_of_ne differs).trans owned.found

theorem HasSnapshot.adding (held : now.HasSnapshot binding targetRef tabRef snapshotRef)
    (unused : now.refs[publicRef]? = none) :
    (now.adding publicRef new).HasSnapshot binding targetRef tabRef snapshotRef := by
  obtain ⟨snapshot, owned, rest⟩ := held
  exact ⟨snapshot, Owned.adding owned unused, rest⟩

theorem HasTab.adding (held : now.HasTab binding targetRef tabRef)
    (unused : now.refs[publicRef]? = none) :
    (now.adding publicRef new).HasTab binding targetRef tabRef := by
  obtain ⟨resolved, is⟩ := held
  obtain ⟨target, tab, ofTarget, isTarget, ofTab, rest⟩ := resolveTargetTab_eq_ok.mp is
  exact ⟨resolved, resolveTargetTab_eq_ok.mpr ⟨target, tab, Owned.adding ofTarget unused, isTarget,
    Owned.adding ofTab unused, rest⟩⟩

/-- As many names were added for the tab, which is still there. -/
structure Presented (base : BrowserRefRegistry) (binding : InteractionContextBinding)
    (targetRef tabRef : String) (draws : Nat → List String) (n : Nat) (now : BrowserRefRegistry)
    (minted : List String) : Prop where
  limit : now.maxRefsPerContext = base.maxRefsPerContext
  added : Table.Minted (fun _ reference => snapshotBoundFor binding targetRef tabRef reference = true)
    BrowserBackendRef.contextId binding.id draws base.refs minted now.refs
  length : minted.length = n
  tab : now.HasTab binding targetRef tabRef

theorem mint_eq_ok {drawn : List String} {name : String}
    (valid : validateBackendRef new.backendRef = .ok ())
    (room : now.count new.context.id < now.maxRefsPerContext)
    (found : now.refs.firstUnused 4 drawn = some name) :
    now.mint new drawn = (now.adding name new, .ok name) := by
  unfold mint
  rw [valid]
  refine (if_neg (Nat.not_le.mpr room)).trans ?_
  rw [found]
  rfl

/-- While there is room, a further name is minted for the tab. -/
theorem Presented.mint (so : Presented base binding targetRef tabRef draws n now minted)
    (fresh : Table.Fresh draws base.refs) (owner : new.context = binding)
    (valid : validateBackendRef new.backendRef = .ok ())
    (bound : ∀ name, snapshotBoundFor binding targetRef tabRef (new.entry name) = true)
    (room : n < base.maxRefsPerContext - base.count binding.id) :
    ∃ name, now.mint new (draws minted.length) = (now.adding name new, .ok name) ∧
      now.refs[name]? = none ∧
      Presented base binding targetRef tabRef draws (n + 1) (now.adding name new)
        (name :: minted) := by
  obtain ⟨name, among, found⟩ := so.added.firstUnused_eq fresh
  have unused := so.added.unused fresh among
  have held : now.count binding.id = base.count binding.id + n := so.length ▸ so.added.held
  refine ⟨name, mint_eq_ok valid ?_ found, unused, so.limit, ?_, ?_, HasTab.adding so.tab unused⟩
  · rw [owner, so.limit]
    omega
  · exact so.added.insert unused (bound name) (owner ▸ rfl) among
  · rw [List.length_cons, so.length]

/-- What a call shows of the tab under a snapshot. -/
def Shows (base : BrowserRefRegistry) (binding : InteractionContextBinding)
    (targetRef tabRef snapshotRef : String) (draws : Nat → List String) (n : Nat)
    (s : Minting BrowserRefRegistry) : Prop :=
  Presented base binding targetRef tabRef draws n s.registry s.minted ∧
    s.registry.HasSnapshot binding targetRef tabRef snapshotRef

/-- The mint is of something under the snapshot, which may be held. -/
structure Under (binding : InteractionContextBinding) (targetRef tabRef snapshotRef : String)
    (mint : BrowserRefRegistry → List String → BrowserRefRegistry × Except BrowserRefError String)
    (new : BrowserMint) : Prop where
  mints : ∀ now drawn, now.HasTab binding targetRef tabRef →
    now.HasSnapshot binding targetRef tabRef snapshotRef → mint now drawn = now.mint new drawn
  owner : new.context = binding
  valid : validateBackendRef new.backendRef = .ok ()
  bound : ∀ name, snapshotBoundFor binding targetRef tabRef (new.entry name) = true

theorem minting_triple (fresh : Table.Fresh draws base.refs)
    {mint : BrowserRefRegistry → List String → BrowserRefRegistry × Except BrowserRefError String}
    (under : Under binding targetRef tabRef snapshotRef mint new)
    (room : n < base.maxRefsPerContext - base.count binding.id) :
    Fallible.Triple (Shows base binding targetRef tabRef snapshotRef draws n) (minting draws mint)
      (fun _ => Shows base binding targetRef tabRef snapshotRef draws (n + 1)) (fun _ => False) := by
  rintro s ⟨so, snapshot⟩
  obtain ⟨name, is, unused, after⟩ := so.mint fresh under.owner under.valid under.bound room
  rw [minting_run, under.mints s.registry _ so.tab snapshot, is]
  exact ⟨after, HasSnapshot.adding snapshot unused⟩

/-- One name for each of the items. -/
theorem mintingEach_triple {α β : Type} (fresh : Table.Fresh draws base.refs) {items : List α}
    {mint : α → BrowserRefRegistry → List String →
      BrowserRefRegistry × Except BrowserRefError String} {show' : α → String → β}
    (under : ∀ item ∈ items, ∃ new, Under binding targetRef tabRef snapshotRef (mint item) new)
    (room : n + items.length ≤ base.maxRefsPerContext - base.count binding.id) :
    Fallible.Triple (Shows base binding targetRef tabRef snapshotRef draws n)
      (items.mapM fun item => do
        let publicRef ← minting draws (mint item)
        return show' item publicRef)
      (fun _ => Shows base binding targetRef tabRef snapshotRef draws (n + items.length))
      (fun _ => False) := by
  refine mapM (I := fun done (_ : List β) =>
    Shows base binding targetRef tabRef snapshotRef draws (n + done.length))
    fun done item rest are _ => ?_
  obtain ⟨new, under⟩ := under item (are ▸ List.mem_append_right _ List.mem_cons_self)
  rw [are, List.length_append, List.length_cons] at room
  refine (minting_triple fresh under (by omega)).bind fun publicRef =>
    pure fun s shows => ?_
  rwa [List.length_append, ← Nat.add_assoc]

theorem snapshotBoundFor_iff : snapshotBoundFor binding targetRef tabRef reference = true ↔
      reference.contextId = binding.id ∧ reference.deviceId = binding.deviceId ∧
        reference.deviceGeneration = binding.deviceGeneration ∧
        reference.capabilityRevision = binding.capabilityRevision ∧
        reference.targetRef = some targetRef ∧ reference.tabRef = some tabRef ∧
        reference.kind.snapshotBound = true := by
  unfold snapshotBoundFor
  simp only [Bool.and_eq_true, decide_eq_true_eq, and_assoc]

theorem under_action {actions : List BrowserAction} (valid : validateBackendRef backendRef = .ok ())
    (some' : actions ≠ []) : Under binding targetRef tabRef snapshotRef
      (fun registry drawn =>
        registry.mintActionElement binding targetRef tabRef snapshotRef backendRef actions drawn)
      ⟨binding, .actionElement, backendRef, some targetRef, some tabRef, some snapshotRef,
        exactActions actions, false⟩ where
  mints now drawn tab snapshot := by
    unfold mintActionElement
    rw [show now.requireSnapshot binding targetRef tabRef snapshotRef = .ok () from
      requireSnapshot_eq_ok.mpr ⟨tab, snapshot⟩]
    rw [if_neg (by rwa [List.isEmpty_iff])]
    rfl
  owner := rfl
  valid := valid
  bound _ := snapshotBoundFor_iff.mpr ⟨rfl, rfl, rfl, rfl, rfl, rfl, rfl⟩

theorem under_content (valid : validateBackendRef backendRef = .ok ()) :
    Under binding targetRef tabRef snapshotRef
      (fun registry drawn =>
        registry.mintContentElement binding targetRef tabRef snapshotRef backendRef drawn)
      ⟨binding, .contentElement, backendRef, some targetRef, some tabRef, some snapshotRef, [],
        false⟩ where
  mints now drawn tab snapshot := by
    unfold mintContentElement
    rw [show now.requireSnapshot binding targetRef tabRef snapshotRef = .ok () from
      requireSnapshot_eq_ok.mpr ⟨tab, snapshot⟩]
    rfl
  owner := rfl
  valid := valid
  bound _ := snapshotBoundFor_iff.mpr ⟨rfl, rfl, rfl, rfl, rfl, rfl, rfl⟩

theorem under_continuation (valid : validateBackendRef backendRef = .ok ()) :
    Under binding targetRef tabRef snapshotRef
      (fun registry drawn =>
        registry.mintContinuation binding targetRef tabRef snapshotRef backendRef drawn)
      ⟨binding, .continuation, backendRef, some targetRef, some tabRef, some snapshotRef, [],
        true⟩ where
  mints now drawn tab snapshot := by
    unfold mintContinuation
    rw [show now.requireSnapshot binding targetRef tabRef snapshotRef = .ok () from
      requireSnapshot_eq_ok.mpr ⟨tab, snapshot⟩]
    rfl
  owner := rfl
  valid := valid
  bound _ := snapshotBoundFor_iff.mpr ⟨rfl, rfl, rfl, rfl, rfl, rfl, rfl⟩

/-- Dropping what a snapshot of the tab shows leaves the tab. -/
theorem HasTab.cleared {key target : String} (held : registry.HasTab binding targetRef tabRef) :
    (registry.invalidateSnapshotBoundForTab binding target key).HasTab binding targetRef tabRef := by
  have kept : ∀ {name : String} {reference : BrowserBackendRef},
      registry.Owned binding name reference → reference.kind.snapshotBound = false →
      (registry.invalidateSnapshotBoundForTab binding target key).Owned binding name reference := by
    intro name reference owned kind
    refine {owned with found := get_filter_eq_some.mpr ⟨owned.found, ?_⟩}
    rw [Bool.not_eq_true', ← Bool.not_eq_true, snapshotBoundFor_iff]
    rintro ⟨_, _, _, _, _, _, bound⟩
    rw [kind] at bound
    cases bound
  obtain ⟨resolved, is⟩ := held
  obtain ⟨target', tab, ofTarget, isTarget, ofTab, isTab, rest⟩ := resolveTargetTab_eq_ok.mp is
  exact ⟨resolved, resolveTargetTab_eq_ok.mpr ⟨target', tab, kept ofTarget (by rw [isTarget]; rfl),
    isTarget, kept ofTab (by rw [isTab]; rfl), isTab, rest⟩⟩

/-- The snapshot itself. -/
theorem beginSnapshot_triple (held : registry.HasTab binding targetRef tabRef)
    (base_eq : registry.invalidateSnapshotBoundForTab binding targetRef tabRef = base)
    (fresh : Table.Fresh draws base.refs) {backendSnapshot : String}
    (valid : validateBackendRef backendSnapshot = .ok ())
    (room : 0 < base.maxRefsPerContext - base.count binding.id) :
    Fallible.Triple (· = ⟨registry, []⟩)
      (minting draws fun registry drawn =>
        registry.beginSnapshot binding targetRef tabRef backendSnapshot drawn)
      (fun snapshotRef => Shows base binding targetRef tabRef snapshotRef draws 1)
      (fun _ => False) := by
  rintro _ rfl
  let new : BrowserMint :=
    ⟨binding, .snapshot, backendSnapshot, some targetRef, some tabRef, none, [], false⟩
  have start : Presented base binding targetRef tabRef draws 0 base [] :=
    ⟨rfl, Table.Minted.start _, rfl, base_eq ▸ HasTab.cleared held⟩
  have bound (name : String) : snapshotBoundFor binding targetRef tabRef (new.entry name) = true :=
    snapshotBoundFor_iff.mpr ⟨rfl, rfl, rfl, rfl, rfl, rfl, rfl⟩
  obtain ⟨name, is, _, after⟩ := start.mint fresh rfl valid bound room
  obtain ⟨resolved, ok⟩ := held
  have begun : registry.beginSnapshot binding targetRef tabRef backendSnapshot (draws 0) =
      (base.adding name new, .ok name) := by
    unfold beginSnapshot
    rw [ok, base_eq]
    exact is
  rw [minting_run, List.length_nil, begun]
  refine ⟨after, new.entry name, ⟨?_, rfl, rfl, rfl, rfl, rfl⟩, rfl, rfl, rfl⟩
  exact get_insert_self _ _ _

/-- A snapshot for which there is room is published whole. -/
theorem publicizePage_triple (held : registry.HasTab binding targetRef tabRef)
    (base_eq : registry.invalidateSnapshotBoundForTab binding targetRef tabRef = base)
    (fresh : Table.Fresh draws base.refs) {page : BrowserBackendSnapshot} (well : page.WellFormed)
    (room : page.refs.length ≤ base.maxRefsPerContext - base.count binding.id) :
    Fallible.Triple (· = ⟨registry, []⟩) (publicizePage binding targetRef tabRef draws page)
      (fun _ s => Presented base binding targetRef tabRef draws page.refs.length s.registry s.minted)
      (fun _ => False) := by
  have total : page.refs.length = 1 + page.actionRefs.length + page.contentRefs.length +
      page.backendContinuation.toList.length := by
    unfold BrowserBackendSnapshot.refs
    simp only [List.length_cons, List.length_append, List.length_map]
    omega
  have valid := well.refs
  refine (beginSnapshot_triple held base_eq fresh (valid _ List.mem_cons_self) (by omega)).bind
    fun snapshotRef => ?_
  refine (mintingEach_triple fresh (fun reference among => ⟨_, under_action ?_ ?_⟩) ?_).bind
    fun actionRefs => ?_
  · exact valid _ (List.mem_cons_of_mem _ (List.mem_append_left _ (List.mem_map_of_mem among)))
  · exact well.actions reference among
  · omega
  refine (mintingEach_triple fresh (fun reference among => ⟨_, under_content ?_⟩) ?_).bind
    fun contentRefs => ?_
  · exact valid _ (List.mem_cons_of_mem _ (List.mem_append_right _ (List.mem_append_left _
      (List.mem_map_of_mem among))))
  · omega
  rw [total] at room ⊢
  cases is : page.backendContinuation with
  | none =>
    exact pure fun s shows => shows.1
  | some backendContinuation =>
    rw [is] at room
    have last := valid backendContinuation (List.mem_cons_of_mem _ (List.mem_append_right _
      (List.mem_append_right _ (by rw [is]; exact List.mem_singleton_self _))))
    let R (_ : Option String) := Shows base binding targetRef tabRef snapshotRef draws
      (1 + page.actionRefs.length + page.contentRefs.length + 1)
    refine bind (Q := R) ?_ fun _ => pure fun s shows => shows.1
    exact map (minting_triple fresh (under_continuation last) room)

/-- What was added is what the next snapshot of the tab drops. -/
theorem Presented.cleared (so : Presented base binding targetRef tabRef draws n now minted)
    (base_eq : registry.invalidateSnapshotBoundForTab binding targetRef tabRef = base) :
    now.invalidateSnapshotBoundForTab binding targetRef tabRef = base := by
  refine ext_refs so.limit fun name => ?_
  refine Std.ExtTreeMap.getElem?_filter'.trans ?_
  by_cases among : name ∈ minted
  · obtain ⟨reference, found, bound⟩ := so.added.grown.added name among
    rw [found, so.added.grown.unused name among, Option.filter_some, bound]
    rfl
  · rw [so.added.grown.kept name among]
    cases found : base.refs[name]? with
    | none => rfl
    | some reference =>
      subst base_eq
      rw [Option.filter_some, if_pos (get_filter_eq_some.mp found).2]

/-- How many references the context has besides what a snapshot of the tab shows. -/
def BrowserRefRegistry.besides (registry : BrowserRefRegistry) (binding : InteractionContextBinding)
    (targetRef tabRef : String) : Nat :=
  (registry.invalidateSnapshotBoundForTab binding targetRef tabRef).count binding.id

/-- A snapshot, and the names drawn for it. -/
structure TabCall where
  page : BrowserBackendSnapshot
  draws : Nat → List String

namespace TabCall

/-- The registry after a call for the tab. -/
def next (prepared : PreparedBrowserCall) (registry : BrowserRefRegistry) (call : TabCall) :
    BrowserRefRegistry :=
  ((publicizeSnapshot prepared call.draws call.page).on registry).2.registry

def Published (prepared : PreparedBrowserCall) (registry : BrowserRefRegistry) (call : TabCall) :
    Prop :=
  ((publicizeSnapshot prepared call.draws call.page).on registry).1.isOk = true

def DrawsFresh (registry : BrowserRefRegistry) (call : TabCall) : Prop :=
  Table.Fresh call.draws registry.refs

end TabCall

/-- One snapshot is published, and leaves as much room as it found. -/
theorem published_tab {call : TabCall} (target : prepared.publicTargetRef = some targetRef)
    (tab : prepared.publicTabRef = some tabRef)
    (held : registry.HasTab prepared.binding targetRef tabRef)
    (fresh : TabCall.DrawsFresh registry call) (well : call.page.WellFormed)
    (room : call.page.refs.length ≤
      registry.maxRefsPerContext - registry.besides prepared.binding targetRef tabRef) :
    TabCall.Published prepared registry call ∧
      (TabCall.next prepared registry call).HasTab prepared.binding targetRef tabRef ∧
      (TabCall.next prepared registry call).invalidateSnapshotBoundForTab prepared.binding targetRef
        tabRef = registry.invalidateSnapshotBoundForTab prepared.binding targetRef tabRef := by
  have fresh' : Table.Fresh call.draws
      (registry.invalidateSnapshotBoundForTab prepared.binding targetRef tabRef).refs := by
    refine fresh.mono fun name none => ?_
    exact Std.ExtTreeMap.getElem?_filter'.trans (by rw [none]; rfl)
  have ends := publicizePage_triple held rfl fresh' well room ⟨registry, []⟩ rfl
  unfold TabCall.Published TabCall.next publicizeSnapshot
  rw [target, tab]
  match reached : (publicizePage prepared.binding targetRef tabRef call.draws call.page).run.run
      ⟨registry, []⟩ with
  | (.ok _, s) =>
    rw [reached] at ends
    rw [discarding_of_ok reached]
    exact ⟨rfl, ends.tab, ends.cleared rfl⟩
  | (.error _, s) =>
    rw [reached] at ends
    cases ends

/-- However many snapshots of a tab came before, there is room for the next. -/
theorem published_tabs {calls : List TabCall} (target : prepared.publicTargetRef = some targetRef)
    (tab : prepared.publicTabRef = some tabRef)
    (held : registry.HasTab prepared.binding targetRef tabRef)
    (fresh : Machine.Meets (TabCall.next prepared) TabCall.DrawsFresh registry calls)
    (room : ∀ call ∈ calls, call.page.WellFormed ∧ call.page.refs.length ≤
      registry.maxRefsPerContext - registry.besides prepared.binding targetRef tabRef) :
    Machine.Meets (TabCall.next prepared) (TabCall.Published prepared) registry calls := by
  induction calls generalizing registry with
  | nil => trivial
  | cons call rest ih =>
    have first := room call List.mem_cons_self
    obtain ⟨ok, held', same⟩ := published_tab target tab held fresh.1 first.1 first.2
    refine ⟨ok, ih held' fresh.2 fun call among => ?_⟩
    have limit := congrArg maxRefsPerContext same
    have later := room call (List.mem_cons_of_mem _ among)
    unfold besides at later ⊢
    rw [same]
    exact ⟨later.1, limit ▸ later.2⟩

end Tabs

/-! ### Publication -/

/-- Window snapshots are all-or-nothing exactly if the call fails before its first name, and are
published for as long as all of them together fit. The bindings and snapshots of a browser are
always all-or-nothing, and a snapshot of a tab that fits beside what the context has for other
things, other tabs among them, is published however many of the tab came before. -/
theorem publication_of_room (binding : InteractionContextBinding)
    (windows : ScopedBackendRefRegistry) (browser : BrowserRefRegistry) :
    (∀ draws result, Table.Fresh draws windows.refs →
      (AllOrNothing ScopedBackendRefRegistry.Resolves
          ((publicizeWindowSnapshot binding draws result).on windows) ↔
        (windows.Fits binding.id ((windowRefs result).take 1) →
          windows.Fits binding.id (windowRefs result)))) ∧
    (∀ calls, Machine.Meets (WindowCall.next binding) WindowCall.DrawsFresh windows calls →
      (Machine.Meets (WindowCall.next binding) (WindowCall.Published binding) windows calls ↔
        windows.Fits binding.id (calls.flatMap fun call => windowRefs call.result))) ∧
    (∀ prepared draws bound, AllOrNothing BrowserRefRegistry.Resolves
      ((publicizeBound prepared draws bound).on browser)) ∧
    (∀ prepared draws page, AllOrNothing BrowserRefRegistry.Resolves
      ((publicizeSnapshot prepared draws page).on browser)) ∧
    ∀ prepared targetRef tabRef calls, prepared.publicTargetRef = some targetRef →
      prepared.publicTabRef = some tabRef → browser.HasTab prepared.binding targetRef tabRef →
      Machine.Meets (TabCall.next prepared) TabCall.DrawsFresh browser calls →
      (∀ call ∈ calls, call.page.WellFormed ∧ call.page.refs.length ≤
        browser.maxRefsPerContext - browser.besides prepared.binding targetRef tabRef) →
      Machine.Meets (TabCall.next prepared) (TabCall.Published prepared) browser calls :=
  ⟨fun _ result fresh => allOrNothing_window fresh result, fun _ fresh => published_windows fresh,
    fun prepared draws bound => allOrNothing_bound prepared draws bound browser,
    fun prepared draws page => allOrNothing_snapshot prepared draws page browser,
    fun _ _ _ _ target tab held fresh room => published_tabs target tab held fresh room⟩

/-- Names told apart by their length. -/
def drawnFrom (start n : Nat) : List String :=
  [String.ofList (List.replicate (start + n) 'a')]

theorem drawnFrom_apart {start start' m n : Nat} (differ : start + m ≠ start' + n) (name : String)
    (among : name ∈ drawnFrom start m) : name ∉ drawnFrom start' n := by
  intro among'
  have same := (List.mem_singleton.mp among).symm.trans (List.mem_singleton.mp among')
  have lengths := congrArg List.length (String.ofList_injective same)
  rw [List.length_replicate, List.length_replicate] at lengths
  exact differ lengths

/-- They are new to a table whose names are spelled otherwise or are shorter. -/
theorem fresh_drawnFrom {V : Type} {t : Table V} {start : Nat}
    (apart : t.keys.all (fun key => key.toList.any (· ≠ 'a') || key.toList.length < start) = true) :
    Table.Fresh (drawnFrom start) t := by
  refine ⟨fun _ => List.cons_ne_nil _ _, fun n name among => ?_,
    fun m n differ => drawnFrom_apart (by omega)⟩
  rw [← Table.not_mem_iff_get]
  intro mem
  have spelled := List.all_eq_true.mp apart name (Std.ExtTreeMap.mem_keys.mpr mem)
  rw [List.mem_singleton.mp among, String.toList_ofList, List.length_replicate, Bool.or_eq_true,
    List.any_eq_true] at spelled
  rcases spelled with ⟨c, among, differs⟩ | short
  · exact of_decide_eq_true differs (List.eq_of_mem_replicate among)
  · exact absurd (of_decide_eq_true short) (by omega)

/-- Names that were not drawn for a call are still new after it. -/
theorem Shown.fresh {registry : ScopedBackendRefRegistry} {binding : InteractionContextBinding}
    {draws draws' : Nat → List String} {refs : List String} {s : Minting ScopedBackendRefRegistry}
    (shown : Shown registry binding draws refs s) (fresh : Table.Fresh draws' registry.refs)
    (apart : ∀ m n, m < refs.length → ∀ name ∈ draws m, name ∉ draws' n) :
    Table.Fresh draws' s.registry.refs := by
  refine ⟨fresh.some, fun n name among => ?_, fresh.apart⟩
  rw [shown.minted.grown.kept name, fresh.unused n name among]
  intro minted
  obtain ⟨m, below, drawn⟩ := shown.minted.drawn name minted
  exact apart m n (shown.length ▸ below) name drawn among

/-- A window with some elements. -/
def windowShowing (elements : List String) : DeviceResult :=
  .windowSnapshot "snapshot" 7 1 (elements.map fun elementRef =>
    ⟨elementRef, .button, none, none, none, none, none, none, 0⟩) true none

def someContext : InteractionContextBinding :=
  ⟨"context", "issuer", "subject", "device", 1, 1, .windowScoped, 0, 0⟩

/-- A browser with one tab, with four names to a context. -/
def oneTab : BrowserRefRegistry :=
  ⟨4, ((∅ : Table BrowserBackendRef).insert "target"
      ⟨"target", "context", "device", 1, 1, .target, "browser", none, none, none, [], false⟩).insert "tab"
      ⟨"tab", "context", "device", 1, 1, .tab, "page", some "target", none, none, [], false⟩⟩

def somePage : BrowserBackendSnapshot :=
  ⟨"snapshot", "outline", [⟨"button", "button", none, none, [], [.click], "", ""⟩], [], true, 0, none,
    none⟩

/-- Another tab beside it, with six names to a context. -/
def twoTabs : BrowserRefRegistry :=
  ⟨6, oneTab.refs.insert "other"
    ⟨"other", "context", "device", 1, 1, .tab, "news", some "target", none, none, [], false⟩⟩

def onTab (tabRef : String) : PreparedBrowserCall :=
  ⟨someContext, some "target", some tabRef⟩

/-- The two tabs once a page with two names was published on the other one. -/
def otherShown : BrowserRefRegistry :=
  TabCall.next (onTab "other") twoTabs ⟨somePage, drawnFrom 0⟩

/-- As many names as a target and two tabs leave of six would do for a page of two. -/
theorem somePage_small : somePage.WellFormed ∧ somePage.refs.length <
    twoTabs.maxRefsPerContext - (otherShown.refs.values.filter fun reference =>
      reference.kind = .target ∨ reference.kind = .tab).length :=
  ⟨⟨by decide +kernel, by decide⟩, by decide +kernel⟩

/-- With two names to a context a window with two elements is refused, and two names stay. With
three of them a second window with one element is refused. With six of them a page of two names is
refused on a tab if the other one shows as much. -/
theorem publications_wedge :
    (Table.Fresh (drawnFrom 0) (ScopedBackendRefRegistry.mk 2 ∅).refs ∧
      ¬ AllOrNothing ScopedBackendRefRegistry.Resolves ((publicizeWindowSnapshot someContext
        (drawnFrom 0) (windowShowing ["first", "second"])).on ⟨2, ∅⟩)) ∧
    Machine.Meets (WindowCall.next someContext) WindowCall.DrawsFresh ⟨3, ∅⟩
      [⟨windowShowing ["first"], drawnFrom 0⟩, ⟨windowShowing ["first"], drawnFrom 2⟩] ∧
    (windowRefs (windowShowing ["first"])).length < 3 ∧
    ¬ Machine.Meets (WindowCall.next someContext) (WindowCall.Published someContext) ⟨3, ∅⟩
      [⟨windowShowing ["first"], drawnFrom 0⟩, ⟨windowShowing ["first"], drawnFrom 2⟩] ∧
    (somePage.WellFormed ∧ somePage.refs.length < twoTabs.maxRefsPerContext -
      (otherShown.refs.values.filter fun reference =>
        reference.kind = .target ∨ reference.kind = .tab).length) ∧
    TabCall.DrawsFresh twoTabs ⟨somePage, drawnFrom 0⟩ ∧
    TabCall.Published (onTab "other") twoTabs ⟨somePage, drawnFrom 0⟩ ∧
    otherShown.HasTab someContext "target" "tab" ∧
    TabCall.DrawsFresh otherShown ⟨somePage, drawnFrom 2⟩ ∧
    ¬ TabCall.Published (onTab "tab") otherShown ⟨somePage, drawnFrom 2⟩ := by
  have drawn : Machine.Meets (WindowCall.next someContext) WindowCall.DrawsFresh ⟨3, ∅⟩
      [⟨windowShowing ["first"], drawnFrom 0⟩, ⟨windowShowing ["first"], drawnFrom 2⟩] := by
    refine ⟨fresh_drawnFrom rfl, ?_, trivial⟩
    have fresh : Table.Fresh (drawnFrom 0) (ScopedBackendRefRegistry.mk 3 ∅).refs := fresh_drawnFrom rfl
    rcases publicizeWindowSnapshot_cases someContext fresh (windowShowing ["first"]) with
      ⟨_, shown⟩ | ⟨_, stuck⟩
    · refine shown.fresh (fresh_drawnFrom rfl) fun m n below => drawnFrom_apart ?_
      have two : m < 2 := below
      omega
    · exact absurd (by decide +kernel) stuck.not_fits
  refine ⟨⟨fresh_drawnFrom rfl, ?_⟩, drawn, by decide, ?_, somePage_small,
    fresh_drawnFrom (by decide +kernel), ?_, ⟨⟨"browser", "page"⟩, by decide +kernel⟩,
    fresh_drawnFrom (by decide +kernel), ?_⟩
  · rw [allOrNothing_window (fresh_drawnFrom rfl)]
    decide +kernel
  · rw [published_windows drawn]
    decide +kernel
  all_goals
    unfold TabCall.Published
    decide +kernel

/-- One window and one page that fit are published. -/
theorem publication_of_room_once :
    Machine.Meets (WindowCall.next someContext) (WindowCall.Published someContext) ⟨3, ∅⟩
      [⟨windowShowing ["first"], drawnFrom 0⟩] ∧
    Machine.Meets (TabCall.next (onTab "tab")) (TabCall.Published (onTab "tab")) oneTab
      [⟨somePage, drawnFrom 0⟩] := by
  have results := publication_of_room someContext ⟨3, ∅⟩ oneTab
  refine ⟨(results.2.1 [⟨windowShowing ["first"], drawnFrom 0⟩]
    ⟨fresh_drawnFrom rfl, trivial⟩).mpr (by decide +kernel), ?_⟩
  refine results.2.2.2.2 _ "target" "tab" [⟨somePage, drawnFrom 0⟩] rfl rfl ⟨⟨"browser", "page"⟩, by decide +kernel⟩
    ⟨fresh_drawnFrom (by decide +kernel), trivial⟩ ?_
  intro call among
  rw [List.mem_singleton.mp among]
  exact ⟨⟨by decide +kernel, by decide⟩, by decide +kernel⟩

end Gateway.Northbound
