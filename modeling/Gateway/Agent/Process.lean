import Gateway.Data.Unicode
import Gateway.Device.Capability

/-! What a process leaves behind: the bytes its streams gave, kept up to two bounds, and the
texts a result shows of them. -/
namespace Gateway.Agent
open Data Device Unicode

structure RetainedBytes where
  inlineBytes : List UInt8
  retainedBytes : List UInt8
  inlineTruncated : Bool
  retentionTruncated : Bool

def RetainedBytes.empty : RetainedBytes :=
  ⟨[], [], false, false⟩

/-- One read: as much of it is kept as either bound still has room for. -/
def RetainedBytes.keep (inlineMax retainedMax : Nat) (kept : RetainedBytes) (read : List UInt8) :
    RetainedBytes where
  inlineBytes := kept.inlineBytes ++ read.take (inlineMax - kept.inlineBytes.length)
  retainedBytes := kept.retainedBytes ++ read.take (retainedMax - kept.retainedBytes.length)
  inlineTruncated :=
    kept.inlineTruncated || decide (min read.length (inlineMax - kept.inlineBytes.length) < read.length)
  retentionTruncated :=
    kept.retentionTruncated ||
      decide (min read.length (retainedMax - kept.retainedBytes.length) < read.length)

/-- Read until the stream ends, which an empty read says, or fails. -/
def drainRetained {ε : Type} (inlineMax retainedMax : Nat) :
    RetainedBytes → List (Except ε (List UInt8)) → Except ε RetainedBytes
  | kept, [] => .ok kept
  | _, .error e :: _ => .error e
  | kept, .ok [] :: _ => .ok kept
  | kept, .ok (byte :: read) :: rest =>
    drainRetained inlineMax retainedMax (kept.keep inlineMax retainedMax (byte :: read)) rest

/-- `kept` is the beginning of `source`, as far as the bounds let it be kept. -/
structure RetainedBytes.Of (inlineMax retainedMax : Nat) (source : List UInt8)
    (kept : RetainedBytes) : Prop where
  inlineBytes : kept.inlineBytes = source.take inlineMax
  retainedBytes : kept.retainedBytes = source.take retainedMax
  inlineTruncated : kept.inlineTruncated = decide (inlineMax < source.length)
  retentionTruncated : kept.retentionTruncated = decide (retainedMax < source.length)

theorem RetainedBytes.of_empty (inlineMax retainedMax : Nat) :
    RetainedBytes.empty.Of inlineMax retainedMax [] := by
  constructor <;> simp [RetainedBytes.empty]

theorem take_append_room (source read : List UInt8) (bound : Nat) :
    source.take bound ++ read.take (bound - (source.take bound).length) =
      (source ++ read).take bound := by
  rw [List.take_append, List.length_take]
  congr 2
  omega

theorem truncated_append (source read : List UInt8) (bound : Nat) :
    (decide (bound < source.length) ||
        decide (min read.length (bound - (source.take bound).length) < read.length)) =
      decide (bound < (source ++ read).length) := by
  rw [Bool.eq_iff_iff, List.length_take, List.length_append]
  simp only [Bool.or_eq_true, decide_eq_true_eq]
  omega

theorem RetainedBytes.Of.keep {inlineMax retainedMax : Nat} {source read : List UInt8}
    {kept : RetainedBytes} (was : kept.Of inlineMax retainedMax source) :
    (kept.keep inlineMax retainedMax read).Of inlineMax retainedMax (source ++ read) where
  inlineBytes := by
    rw [RetainedBytes.keep, was.inlineBytes, take_append_room]
  retainedBytes := by
    rw [RetainedBytes.keep, was.retainedBytes, take_append_room]
  inlineTruncated := by
    rw [RetainedBytes.keep, was.inlineTruncated, was.inlineBytes, truncated_append]
  retentionTruncated := by
    rw [RetainedBytes.keep, was.retentionTruncated, was.retainedBytes, truncated_append]

theorem RetainedBytes.Of.drain {ε : Type} {inlineMax retainedMax : Nat} {source : List UInt8}
    {kept : RetainedBytes} (was : kept.Of inlineMax retainedMax source) (reads : List (List UInt8))
    (nonempty : ∀ read ∈ reads, read ≠ []) :
    ∃ drained, drainRetained (ε := ε) inlineMax retainedMax kept (reads.map .ok) = .ok drained ∧
      drained.Of inlineMax retainedMax (source ++ reads.flatten) := by
  induction reads generalizing source kept with
  | nil => exact ⟨kept, rfl, by simpa using was⟩
  | cons read rest ih =>
    cases read with
    | nil => exact absurd rfl (nonempty [] List.mem_cons_self)
    | cons byte read =>
      obtain ⟨drained, runs, of⟩ :=
        ih was.keep fun r among => nonempty r (List.mem_cons_of_mem _ among)
      refine ⟨drained, runs, ?_⟩
      simpa [List.append_assoc] using of

theorem drainRetained_of {ε : Type} (inlineMax retainedMax : Nat) (reads : List (List UInt8))
    (nonempty : ∀ read ∈ reads, read ≠ []) :
    ∃ drained, drainRetained (ε := ε) inlineMax retainedMax .empty (reads.map .ok) = .ok drained ∧
      drained.Of inlineMax retainedMax reads.flatten := by
  simpa using (RetainedBytes.of_empty inlineMax retainedMax).drain reads nonempty

/-! ### The texts of a result -/

/-- Every other element, from the first. -/
def evens {α : Type} : List α → List α
  | [] => []
  | [a] => [a]
  | a :: _ :: rest => a :: evens rest

/-- The sixteen-bit units of a text. -/
def units (littleEndian : Bool) : List UInt8 → List Nat
  | first :: second :: rest =>
    (if littleEndian then second.toNat * 256 + first.toNat
      else first.toNat * 256 + second.toNat) :: units littleEndian rest
  | _ => []

/-- UTF-16 by its mark, or little endian when its high bytes are often zero and its low ones
seldom are. -/
def decodeWindowsUtf16 (bytes : List UInt8) : Option String :=
  if bytes.length < 2 ∨ bytes.length % 2 ≠ 0 then none
  else match bytes with
    | 0xff :: 0xfe :: payload => some (fromUtf16Lossy (units true payload))
    | 0xfe :: 0xff :: payload => some (fromUtf16Lossy (units false payload))
    | _ =>
      let pairs := bytes.length / 2
      let oddZeroes := ((evens bytes.tail).filter (· = 0)).length
      let evenZeroes := ((evens bytes).filter (· = 0)).length
      if oddZeroes ≥ 2 ∧ oddZeroes * 8 ≥ pairs ∧ oddZeroes > evenZeroes * 2 then
        some (fromUtf16Lossy (units true bytes))
      else none

def decodeProcessOutput (windows : Bool) (bytes : List UInt8) : String :=
  match if windows then decodeWindowsUtf16 bytes else none with
  | some decoded => decoded
  | none => fromUtf8Lossy bytes

/-- How a process ended. -/
structure ProcessEnd where
  exitCode : Option Int
  timedOut : Bool
  cancelled : Bool
  durationMs : Nat

def processOutput (windows : Bool) (ended : ProcessEnd) (stdout stderr : RetainedBytes) :
    ProcessOutput where
  exitCode := ended.exitCode
  stdout := decodeProcessOutput windows stdout.inlineBytes
  stderr := decodeProcessOutput windows stderr.inlineBytes
  stdoutTruncated := stdout.inlineTruncated
  stderrTruncated := stderr.inlineTruncated
  timedOut := ended.timedOut
  cancelled := ended.cancelled
  durationMs := ended.durationMs

end Gateway.Agent
