import Gateway.Agent.Process
import Gateway.Agent.Storage
import Gateway.Data.Machine
import Gateway.Data.Minting
import Gateway.Execution.Operation

/-! The output of a process that is too long to be sent with its result.

The reader of a stream keeps its beginning, up to one bound for the result and another for what
may be asked for later. The latter is staged in a private file and read back range by range. -/
namespace Gateway.Agent
open Data Control Execution AgentEphemeralDataStore Machine Result

/-! ### Draining -/

/-- An empty read ends the stream, whatever would come after it. -/
theorem drainRetained_ended {ε : Type} {inlineMax retainedMax : Nat} (kept : RetainedBytes)
    {reads : List (List UInt8)} (nonempty : ∀ read ∈ reads, read ≠ [])
    (later : List (Except ε (List UInt8))) :
    drainRetained inlineMax retainedMax kept (reads.map .ok ++ .ok [] :: later) =
      drainRetained (ε := ε) inlineMax retainedMax kept (reads.map .ok) := by
  induction reads generalizing kept with
  | nil => rfl
  | cons read rest ih =>
    cases read with
    | nil => exact absurd rfl (nonempty [] List.mem_cons_self)
    | cons byte read => exact ih _ fun r among => nonempty r (List.mem_cons_of_mem _ among)

/-! ### Staging -/

structure AgentEphemeralDataLimits where
  maxObjects : Nat
  maxTotalBytes : Nat
  maxObjectBytes : Nat
  ttlMs : Nat

/-- How the calls to the file system fare: which files can be removed, and whether the one of a
locator can be made, written and proved to be private, or proved so again and opened. -/
structure RootFate where
  removed : String → Bool
  made : String → Except AgentEphemeralDataError Unit
  opened : String → Except AgentEphemeralDataError Unit

structure StagedEphemeralData where
  locator : String
  bytes : Nat
  expiresAtMs : Nat

def validateBinding (binding : AgentEphemeralBinding) : Except AgentEphemeralDataError Unit :=
  if isBlank binding.deviceId ∨ binding.deviceGeneration = 0 ∨ binding.capabilityRevision = 0 ∨
      binding.operationId.any isBlank then
    .error .invalidBinding
  else .ok ()

/-- Remove records until one cannot be removed. -/
def AgentEphemeralDataStore.removeEach (removed : String → Bool) : List String →
    AgentEphemeralDataStore → Except AgentEphemeralDataError Unit × AgentEphemeralDataStore
  | [], store => (.ok (), store)
  | locator :: rest, store =>
    match store.removeLocator ⟨removed locator, .error .io⟩ locator with
    | .error e => (.error e, store)
    | .ok store => removeEach removed rest store

/-- Remove what has expired. -/
def AgentEphemeralDataStore.prune (store : AgentEphemeralDataStore) (order : IterationOrder)
    (removed : String → Bool) (nowMs : Nat) :
    Except AgentEphemeralDataError Unit × AgentEphemeralDataStore :=
  let expired := (order.arrange store.records.keys).filter fun locator =>
    store.records[locator]?.any fun record => nowMs > record.expiresAtMs
  removeEach removed expired store

/-- The locator and the time of expiry of what is to be staged. -/
def AgentEphemeralDataStore.place (store : AgentEphemeralDataStore)
    (limits : AgentEphemeralDataLimits) (drawn : List String) (binding : AgentEphemeralBinding)
    (bytes nowMs : Nat) : Except AgentEphemeralDataError (String × Nat) := do
  validateBinding binding
  if bytes ≥ 2 ^ 64 ∨ bytes > limits.maxObjectBytes then .error .objectTooLarge
  else if store.records.size ≥ limits.maxObjects then .error .objectLimitExceeded
  else if min (store.totalBytes + bytes) (2 ^ 64 - 1) > limits.maxTotalBytes then
    .error .byteLimitExceeded
  else match checkedAdd nowMs limits.ttlMs with
    | none => .error .invalidBinding
    | some expiresAtMs =>
      match Table.firstUnused 8 store.records drawn with
      | none => .error .identifierCollision
      | some locator => .ok (locator, expiresAtMs)

/-- The store, and what is in the files under its root, each named by its locator. -/
structure EphemeralRoot where
  store : AgentEphemeralDataStore
  files : Table (List UInt8)

namespace EphemeralRoot

section
variable (root : EphemeralRoot) (fate : RootFate)

/-- The store has changed. The file of a record that is gone is gone with it. -/
def leave (store : AgentEphemeralDataStore) : EphemeralRoot where
  store := store
  files := root.files.filter fun locator _ =>
    !root.store.records.contains locator || store.records.contains locator

def stage (limits : AgentEphemeralDataLimits) (order : IterationOrder) (drawn : List String)
    (binding : AgentEphemeralBinding) (data : List UInt8) (nowMs : Nat) :
    Except AgentEphemeralDataError StagedEphemeralData × EphemeralRoot :=
  let (pruned, store) := root.store.prune order fate.removed nowMs
  let placed := do
    pruned
    let (locator, expiresAtMs) ← store.place limits drawn binding data.length nowMs
    fate.made locator
    .ok (locator, expiresAtMs)
  match placed with
  | .error e => (.error e, root.leave store)
  | .ok (locator, expiresAtMs) =>
    (.ok ⟨locator, data.length, expiresAtMs⟩,
      { store := {store with
          records := store.records.insert locator ⟨binding, data.length, expiresAtMs⟩
          totalBytes := min (store.totalBytes + data.length) (2 ^ 64 - 1)}
        files := (root.leave store).files.insert locator data })

/-- What the file of a locator shows from an offset on. It must be of the length on record. -/
def openAt (locator : String) (offset : Nat) : Except AgentEphemeralDataError (List UInt8) := do
  fate.opened locator
  match root.files[locator]? with
  | none => .error .invalidObject
  | some contents =>
    if root.store.records[locator]?.any (·.bytes = contents.length) then .ok (contents.drop offset)
    else .error .invalidObject

def readRange (locator : String) (wanted : AgentEphemeralBinding) (offset maxBytes nowMs : Nat) :
    Except AgentEphemeralDataError EphemeralDataRange × EphemeralRoot :=
  let (range, store) := root.store.readRange
    ⟨fate.removed locator, root.openAt fate locator offset⟩ locator wanted offset maxBytes nowMs
  (range, root.leave store)

end

/-- The calls the Agent makes of its store. -/
inductive Event where
  | stage (limits : AgentEphemeralDataLimits) (order : IterationOrder) (drawn : List String)
      (binding : AgentEphemeralBinding) (data : List UInt8)
  | readRange (locator : String) (wanted : AgentEphemeralBinding) (offset maxBytes : Nat)

/-- One call, with how the files fare and when it is made. -/
def next (root : EphemeralRoot) : RootFate × Nat × Event → EphemeralRoot
  | (fate, nowMs, .stage limits order drawn binding data) =>
    (root.stage fate limits order drawn binding data nowMs).2
  | (fate, nowMs, .readRange locator wanted offset maxBytes) =>
    (root.readRange fate locator wanted offset maxBytes nowMs).2

/-! ### What is held -/

/-- What is staged is held under its locator, in its file. -/
structure Holds (root : EphemeralRoot) (locator : String) (binding : AgentEphemeralBinding)
    (data : List UInt8) (expiresAtMs : Nat) : Prop where
  found : root.store.records[locator]? = some ⟨binding, data.length, expiresAtMs⟩
  written : root.files[locator]? = some data
  short : data.length < 2 ^ 64

section
variable {root : EphemeralRoot} {store : AgentEphemeralDataStore} {locator : String}
  {binding : AgentEphemeralBinding} {data : List UInt8} {expiresAtMs nowMs : Nat} {fate : RootFate}

/-- A store in which a locator and the bound on a read are as they were. -/
structure Spares (locator : String) (before after : AgentEphemeralDataStore) : Prop where
  records : after.records[locator]? = before.records[locator]?
  maxReadBytes : after.maxReadBytes = before.maxReadBytes

theorem removeLocator_spares {file : RetainedFile} {other : String} {after : AgentEphemeralDataStore}
    (ne : other ≠ locator) (ok : store.removeLocator file other = .ok after) :
    Spares locator store after := by
  unfold removeLocator at ok
  split at ok
  · cases ok
    exact ⟨rfl, rfl⟩
  · split at ok
    · cases ok
      exact ⟨Table.get_erase_of_ne ne, rfl⟩
    · cases ok

theorem removeEach_spares {removed : String → Bool} {locators : List String}
    (absent : locator ∉ locators) : Spares locator store (removeEach removed locators store).2 := by
  induction locators generalizing store with
  | nil => exact ⟨rfl, rfl⟩
  | cons other rest ih =>
    have ne : locator ≠ other := List.ne_of_not_mem_cons absent
    have absent : locator ∉ rest := List.not_mem_of_not_mem_cons absent
    unfold removeEach
    split
    · exact ⟨rfl, rfl⟩
    · next between first =>
      have here := removeLocator_spares (Ne.symm ne) first
      have there := @ih between absent
      exact ⟨there.records.trans here.records, there.maxReadBytes.trans here.maxReadBytes⟩

/-- Pruning spares what has not expired. -/
theorem prune_spares (order : IterationOrder) (removed : String → Bool)
    {record : AgentEphemeralRecord} (found : store.records[locator]? = some record)
    (inTime : nowMs ≤ record.expiresAtMs) :
    Spares locator store (store.prune order removed nowMs).2 := by
  refine removeEach_spares fun among => ?_
  have expired := (List.mem_filter.mp among).2
  rw [found, Option.any_some, decide_eq_true_eq] at expired
  omega

theorem Holds.leave (h : root.Holds locator binding data expiresAtMs)
    (spares : Spares locator root.store store) :
    (root.leave store).Holds locator binding data expiresAtMs := by
  have found := spares.records.trans h.found
  refine ⟨found, Table.get_filter_eq_some.mpr ⟨h.written, ?_⟩, h.short⟩
  rw [Bool.or_eq_true]
  exact .inr (by rw [Std.ExtTreeMap.contains_eq_isSome_getElem?, found]; rfl)

/-- A range that is read at a time at which something has not expired leaves it where it is. -/
theorem readRange_spares (file : RetainedFile) (other : String) (wanted : AgentEphemeralBinding)
    (offset maxBytes : Nat) {record : AgentEphemeralRecord}
    (found : store.records[locator]? = some record) (inTime : nowMs ≤ record.expiresAtMs) :
    Spares locator store (store.readRange file other wanted offset maxBytes nowMs).2 := by
  unfold AgentEphemeralDataStore.readRange
  split
  · exact ⟨rfl, rfl⟩
  split
  · exact ⟨rfl, rfl⟩
  · next there is =>
    split
    · next expired =>
      have ne : other ≠ locator := by
        rintro rfl
        cases found.symm.trans is
        omega
      split
      · exact ⟨rfl, rfl⟩
      · next ok => exact removeLocator_spares ne ok
    · exact ⟨rfl, rfl⟩

/-- What is placed is short, and under a locator that is not in use. -/
theorem of_place {limits : AgentEphemeralDataLimits} {drawn : List String} {bytes : Nat}
    (ok : store.place limits drawn binding bytes nowMs = .ok (locator, expiresAtMs)) :
    bytes < 2 ^ 64 ∧ store.records[locator]? = none := by
  simp only [place, bind_eq_ok, guard_eq_ok] at ok
  obtain ⟨_, -, size, -, -, ok⟩ := ok
  refine ⟨by omega, ?_⟩
  split at ok
  · cases ok
  split at ok
  · cases ok
  · next unused =>
    cases ok
    have free := List.find?_some unused
    rwa [Bool.not_eq_true', ← Bool.not_eq_true, Std.ExtTreeMap.contains_eq_isSome_getElem?,
      Bool.not_eq_true, Option.isSome_eq_false_iff, Option.isNone_iff_eq_none] at free

/-- What can come of staging: the store is pruned, and something more may be in it. -/
theorem stage_cases (root : EphemeralRoot) (fate : RootFate) (limits : AgentEphemeralDataLimits)
    (order : IterationOrder) (drawn : List String) (binding : AgentEphemeralBinding)
    (data : List UInt8) (nowMs : Nat) :
    (∃ e, root.stage fate limits order drawn binding data nowMs =
      (.error e, root.leave (root.store.prune order fate.removed nowMs).2)) ∨
    ∃ locator expiresAtMs, (root.store.prune order fate.removed nowMs).2.place limits drawn binding
        data.length nowMs = .ok (locator, expiresAtMs) ∧
      ∃ after, root.stage fate limits order drawn binding data nowMs =
          (.ok ⟨locator, data.length, expiresAtMs⟩, after) ∧
        after.store.records = (root.store.prune order fate.removed nowMs).2.records.insert locator
          ⟨binding, data.length, expiresAtMs⟩ ∧
        after.store.maxReadBytes = (root.store.prune order fate.removed nowMs).2.maxReadBytes ∧
        after.files =
          (root.leave (root.store.prune order fate.removed nowMs).2).files.insert locator data := by
  unfold stage
  generalize root.store.prune order fate.removed nowMs = pruned
  obtain ⟨pruned, store⟩ := pruned
  dsimp only
  split
  · exact .inl ⟨_, rfl⟩
  · next placed =>
    simp only [bind_eq_ok] at placed
    obtain ⟨_, -, ⟨locator, expiresAtMs⟩, ok, _, -, is⟩ := placed
    cases is
    exact .inr ⟨locator, expiresAtMs, ok, _, rfl, rfl, rfl, rfl⟩

/-- No call made in time loses what is held. -/
theorem Holds.next (h : root.Holds locator binding data expiresAtMs)
    (event : RootFate × Nat × Event) (inTime : event.2.1 ≤ expiresAtMs) :
    (root.next event).Holds locator binding data expiresAtMs ∧
      (root.next event).store.maxReadBytes = root.store.maxReadBytes := by
  obtain ⟨fate, nowMs, event⟩ := event
  cases event with
  | readRange other wanted offset maxBytes =>
    have spares := readRange_spares ⟨fate.removed other, root.openAt fate other offset⟩ other wanted
      offset maxBytes h.found inTime
    exact ⟨h.leave spares, spares.maxReadBytes⟩
  | stage limits order drawn binding' data' =>
    have spares := prune_spares order fate.removed h.found inTime
    have kept := h.leave spares
    unfold EphemeralRoot.next
    dsimp only
    rcases stage_cases root fate limits order drawn binding' data' nowMs with
      ⟨_, is⟩ | ⟨other, _, placed, after, is, records, bound, files⟩
    · rw [is]
      exact ⟨kept, spares.maxReadBytes⟩
    · rw [is]
      have ne : other ≠ locator := by
        rintro rfl
        cases (of_place placed).2.symm.trans kept.found
      refine ⟨⟨?_, ?_, h.short⟩, bound.trans spares.maxReadBytes⟩
      · rw [records, Table.get_insert_of_ne ne]
        exact kept.found
      · rw [files, Table.get_insert_of_ne ne]
        exact kept.written

theorem Holds.run (h : root.Holds locator binding data expiresAtMs)
    {events : List (RootFate × Nat × Event)} (inTime : ∀ event ∈ events, event.2.1 ≤ expiresAtMs) :
    (run EphemeralRoot.next root events).Holds locator binding data expiresAtMs ∧
      (run EphemeralRoot.next root events).store.maxReadBytes = root.store.maxReadBytes :=
  @run_invariant _ _ EphemeralRoot.next _ _ _
    (fun s => s.Holds locator binding data expiresAtMs ∧ s.store.maxReadBytes = root.store.maxReadBytes)
    (fun _ event inv ok => ⟨(inv.1.next event ok).1, (inv.1.next event ok).2.trans inv.2⟩)
    ⟨h, rfl⟩ (meets_of_mem inTime)

theorem holds_stage {limits : AgentEphemeralDataLimits} {order : IterationOrder}
    {drawn : List String} {staged : StagedEphemeralData} {after : EphemeralRoot}
    (ok : root.stage fate limits order drawn binding data nowMs = (.ok staged, after)) :
    after.Holds staged.locator binding data staged.expiresAtMs := by
  rcases stage_cases root fate limits order drawn binding data nowMs with
    ⟨_, is⟩ | ⟨locator, _, placed, _, is, records, -, files⟩
  · cases ok.symm.trans is
  · cases ok.symm.trans is
    refine ⟨?_, ?_, (of_place placed).1⟩
    · rw [records, Table.get_insert_self]
    · rw [files, Table.get_insert_self]

end

/-! ### Reading back -/

/-- A range that is asked for, after calls of others. -/
structure Ask where
  others : List (RootFate × Nat × Event)
  maxBytes : Nat
  nowMs : Nat

/-- Ask for ranges from an offset on, each from where the last one ended, until one is the last. -/
def readThrough (fate : RootFate) (locator : String) (wanted : AgentEphemeralBinding) :
    EphemeralRoot → Nat → List Ask → Except AgentEphemeralDataError (List EphemeralDataRange × Bool)
  | _, _, [] => .ok ([], false)
  | root, offset, ask :: rest => do
    let (range, root) := (run next root ask.others).readRange fate locator wanted offset
      ask.maxBytes ask.nowMs
    let range ← range
    if range.eof then .ok ([range], true)
    else
      let (more, eof) ← readThrough fate locator wanted root range.nextOffset rest
      .ok (range :: more, eof)

/-- An ask within the bound on a read and before the expiry, as are the calls of others. -/
structure Ask.Proper (ask : Ask) (maxReadBytes expiresAtMs : Nat) : Prop where
  some_ : 0 < ask.maxBytes
  within : ask.maxBytes ≤ maxReadBytes
  inTime : ask.nowMs ≤ expiresAtMs
  others : ∀ event ∈ ask.others, event.2.1 ≤ expiresAtMs

section
variable {root : EphemeralRoot} {locator : String} {binding : AgentEphemeralBinding}
  {data : List UInt8} {expiresAtMs : Nat} {fate : RootFate}

/-- A range of what is held. -/
theorem Holds.readRange (h : root.Holds locator binding data expiresAtMs)
    (opens : fate.opened locator = .ok ()) {offset maxBytes nowMs : Nat}
    (inside : offset ≤ data.length) (some_ : 0 < maxBytes)
    (within : maxBytes ≤ root.store.maxReadBytes) (inTime : nowMs ≤ expiresAtMs) :
    (root.readRange fate locator binding offset maxBytes nowMs).1 =
      .ok ⟨(data.drop offset).take maxBytes, offset, min (offset + maxBytes) data.length,
        data.length, decide (data.length ≤ offset + maxBytes)⟩ := by
  have shown : root.openAt fate locator offset = .ok (data.drop offset) := by
    simp only [openAt, opens, ok_bind, h.written, h.found, Option.any_some, decide_true, if_true]
  have wide : ¬(maxBytes = 0 ∨ maxBytes > root.store.maxReadBytes) := by omega
  have bytes : (data.drop offset).take (min (data.length - offset) maxBytes) =
      (data.drop offset).take maxBytes := by
    rw [List.take_eq_take_iff, List.length_drop]
    omega
  have next : offset + ((data.drop offset).take maxBytes).length =
      min (offset + maxBytes) data.length := by
    rw [List.length_take, List.length_drop]
    omega
  have sum : checkedAdd offset ((data.drop offset).take maxBytes).length =
      some (min (offset + maxBytes) data.length) := by
    have := h.short
    rw [checkedAdd, next, if_pos (by omega)]
  have known : validateAgentRecord ⟨binding, data.length, expiresAtMs⟩ binding = .ok () := by
    simp [validateAgentRecord]
  have last : decide (min (offset + maxBytes) data.length ≥ data.length) =
      decide (data.length ≤ offset + maxBytes) := by
    rw [decide_eq_decide]
    omega
  unfold EphemeralRoot.readRange AgentEphemeralDataStore.readRange
  simp only [if_neg wide, h.found, if_neg (Nat.not_lt.mpr inTime), known, ok_bind,
    if_neg (Nat.not_lt.mpr inside), shown, bytes, sum, last]

/-- The ranges answer the first of the asks, each within its bound. -/
def Bounded (ranges : List EphemeralDataRange) (asks : List Ask) : Prop :=
  List.Forall₂ (fun range ask => range.bytes.length ≤ ask.maxBytes) ranges (asks.take ranges.length)

/-- Reading goes on from any offset to the end, if it is asked for often enough. -/
theorem Holds.readThrough (h : root.Holds locator binding data expiresAtMs)
    (opens : fate.opened locator = .ok ()) {offset : Nat} (inside : offset ≤ data.length)
    {asks : List Ask} (proper : ∀ ask ∈ asks, ask.Proper root.store.maxReadBytes expiresAtMs) :
    ∃ ranges eof, readThrough fate locator binding root offset asks = .ok (ranges, eof) ∧
      Bounded ranges asks ∧ ranges.flatMap (·.bytes) <+: data.drop offset ∧
      (eof = true → ranges.flatMap (·.bytes) = data.drop offset) ∧
      (max 1 (data.length - offset) ≤ asks.length → eof = true) := by
  induction asks generalizing root offset with
  | nil =>
    refine ⟨[], false, rfl, .nil, List.nil_prefix, fun eof => (by cases eof), fun enough => ?_⟩
    rw [List.length_nil] at enough
    omega
  | cons ask rest ih =>
    have fits := proper ask List.mem_cons_self
    obtain ⟨held, bound⟩ := h.run fits.others
    have read := held.readRange opens inside fits.some_ (bound ▸ fits.within) fits.inTime
    obtain ⟨left, same⟩ :=
      held.next (fate, ask.nowMs, .readRange locator binding offset ask.maxBytes) fits.inTime
    have small : ((data.drop offset).take ask.maxBytes).length ≤ ask.maxBytes :=
      List.length_take_le _ _
    unfold EphemeralRoot.readThrough
    dsimp only
    rw [read]
    by_cases last : data.length ≤ offset + ask.maxBytes
    · have all : (data.drop offset).take ask.maxBytes = data.drop offset :=
        List.take_of_length_le (by rw [List.length_drop]; omega)
      rw [all] at small
      refine ⟨[⟨data.drop offset, offset, min (offset + ask.maxBytes) data.length, data.length, true⟩],
        true, ?_, .cons small .nil, ?_, fun _ => ?_, fun _ => rfl⟩
      · simp only [ok_bind, last, all, decide_true, if_true]
      all_goals simp
    · have next : min (offset + ask.maxBytes) data.length = offset + ask.maxBytes := by omega
      have proper (later : Ask) (among : later ∈ rest) : later.Proper _ expiresAtMs :=
        (same.trans bound) ▸ proper later (List.mem_cons_of_mem _ among)
      obtain ⟨more, eof, ok, bounded, ahead, whole, ends⟩ :=
        @ih _ left (offset + ask.maxBytes) (by omega) proper
      have rejoin : (data.drop offset).take ask.maxBytes ++ data.drop (offset + ask.maxBytes) =
          data.drop offset := by
        rw [← List.drop_drop, List.take_append_drop]
      refine ⟨⟨(data.drop offset).take ask.maxBytes, offset, offset + ask.maxBytes, data.length,
        false⟩ :: more, eof, ?_, .cons small bounded, ?_, fun is => ?_, fun enough => ?_⟩
      · simp only [ok_bind, last, next, decide_false]
        exact (congrArg (· >>= _) ok).trans rfl
      · have joined := (List.prefix_append_right_inj ((data.drop offset).take ask.maxBytes)).mpr ahead
        rwa [rejoin] at joined
      · rw [List.flatMap_cons, whole is, rejoin]
      · have := fits.some_
        rw [List.length_cons] at enough
        exact ends (by omega)

end

end EphemeralRoot

open EphemeralRoot

/-- **What is kept of a process's output is not lost**: draining keeps the beginning of a stream up
to each bound, however it is cut into reads, and says exactly when more was dropped; and what is
staged is read back as it was, in ranges no longer than asked for and at most as many as it has
bytes, whatever else is staged and read meanwhile. -/
theorem retained_output_lossless :
    (∀ (inlineMax retainedMax : Nat) (reads : List (List UInt8))
      (later : List (Except Unit (List UInt8))), (∀ read ∈ reads, read ≠ []) →
      ∃ drained, drainRetained inlineMax retainedMax .empty (reads.map .ok ++ .ok [] :: later) =
          .ok drained ∧
        drained.inlineBytes = reads.flatten.take inlineMax ∧
        drained.retainedBytes = reads.flatten.take retainedMax ∧
        (drained.inlineTruncated = true ↔ inlineMax < reads.flatten.length) ∧
        (drained.retentionTruncated = true ↔ retainedMax < reads.flatten.length)) ∧
    ∀ (root root' : EphemeralRoot) (limits : AgentEphemeralDataLimits) (order : IterationOrder)
      (fate fate' : RootFate) (drawn : List String) (binding : AgentEphemeralBinding)
      (data : List UInt8) (nowMs : Nat) (staged : StagedEphemeralData) (asks : List Ask),
      root.stage fate limits order drawn binding data nowMs = (.ok staged, root') →
      fate'.opened staged.locator = .ok () →
      (∀ ask ∈ asks, ask.Proper root'.store.maxReadBytes staged.expiresAtMs) →
      ∃ ranges eof, readThrough fate' staged.locator binding root' 0 asks = .ok (ranges, eof) ∧
        Bounded ranges asks ∧ ranges.flatMap (·.bytes) <+: data ∧
        (eof = true → ranges.flatMap (·.bytes) = data) ∧
        (max 1 data.length ≤ asks.length → eof = true) := by
  refine ⟨fun inlineMax retainedMax reads later nonempty => ?_, ?_⟩
  · obtain ⟨drained, runs, of⟩ := drainRetained_of (ε := Unit) inlineMax retainedMax reads nonempty
    refine ⟨drained, ?_, of.inlineBytes, of.retainedBytes, ?_, ?_⟩
    · rw [drainRetained_ended _ nonempty, runs]
    · rw [of.inlineTruncated, decide_eq_true_eq]
    · rw [of.retentionTruncated, decide_eq_true_eq]
  · intro root root' limits order fate fate' drawn binding data nowMs staged asks ok opens proper
    exact (holds_stage ok).readThrough opens (Nat.zero_le _) proper

def someStdout : AgentEphemeralBinding :=
  ⟨"device", 1, 1, some "op", .processStdout⟩

def fineRoot : RootFate :=
  ⟨fun _ => true, fun _ => .ok (), fun _ => .ok ()⟩

/-- Another output that is staged between the reads. -/
def meanwhile : List (RootFate × Nat × Event) :=
  [(fineRoot, 7, .stage ⟨2, 8, 4, 1000⟩ .given ["edata_1"] someStdout [120, 121])]

/-- Three bytes are staged and read back two at a time, with more staged in between. -/
theorem retained_output_lossless_abc : ∃ (root' : EphemeralRoot) (staged : StagedEphemeralData),
    stage ⟨⟨2, ∅, 0⟩, ∅⟩ fineRoot ⟨2, 8, 4, 1000⟩ .given ["edata_0"] someStdout [97, 98, 99] 5 =
      (.ok staged, root') ∧
    ∃ ranges eof, readThrough fineRoot staged.locator someStdout root' 0
        [⟨[], 2, 6⟩, ⟨meanwhile, 2, 8⟩, ⟨[], 1, 9⟩] = .ok (ranges, eof) ∧
      Bounded ranges [⟨[], 2, 6⟩, ⟨meanwhile, 2, 8⟩, ⟨[], 1, 9⟩] ∧
      ranges.flatMap (·.bytes) <+: [97, 98, 99] ∧
      (eof = true → ranges.flatMap (·.bytes) = [97, 98, 99]) ∧ (3 ≤ 3 → eof = true) := by
  refine ⟨_, ⟨"edata_0", 3, 1005⟩, rfl, ?_⟩
  refine retained_output_lossless.2 ⟨⟨2, ∅, 0⟩, ∅⟩ _ ⟨2, 8, 4, 1000⟩ .given fineRoot fineRoot
    ["edata_0"] someStdout [97, 98, 99] 5 ⟨"edata_0", 3, 1005⟩ _ rfl rfl fun ask among => ?_
  simp only [List.mem_cons, List.not_mem_nil, or_false] at among
  rcases among with rfl | rfl | rfl <;>
    exact ⟨by decide, by decide, by decide, by simp [meanwhile]⟩

end Gateway.Agent
