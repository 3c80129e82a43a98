import Gateway.Agent.ManagedJob
import Gateway.Data.Result

/-! Paging through the output of a job.

A job's stream is kept in a rolling buffer that forgets its beginning. A reader asks for the bytes
from an offset on and goes on from where the last range ended; the Hub checks every range it is
given against what was asked for. -/
namespace Gateway.Agent.RollingBuffer
variable {buffer : RollingBuffer} {stream input : List UInt8} {offset maxBytes : Nat}

/-- The buffer holds the end of the stream, as much of it as it has room for. -/
structure Holds (buffer : RollingBuffer) (stream : List UInt8) : Prop where
  total : buffer.totalBytes = stream.length
  earliest : buffer.earliestOffset = stream.length - buffer.capacity
  bytes : buffer.bytes = stream.drop (stream.length - buffer.capacity)

theorem saturate_of_lt (short : offset < 2 ^ 64) : saturate offset = offset := by
  unfold saturate
  omega

theorem holds_new (capacity : Nat) : (new capacity).Holds [] :=
  ⟨rfl, (Nat.zero_sub capacity).symm, List.drop_nil.symm⟩

theorem Holds.append (h : buffer.Holds stream) (short : (stream ++ input).length < 2 ^ 64) :
    (buffer.append input).Holds (stream ++ input) := by
  -- What is forgotten now comes after what was forgotten before.
  have forgotten : stream.length - buffer.capacity +
      ((buffer.bytes ++ input).length - buffer.capacity) =
        (stream ++ input).length - buffer.capacity := by
    simp only [h.bytes, List.length_append, List.length_drop]
    omega
  refine ⟨?_, ?_, ?_⟩
  · show saturate (buffer.totalBytes + input.length) = _
    rw [h.total, ← List.length_append, saturate_of_lt short]
  · show saturate (buffer.earliestOffset + _) = _
    rw [h.earliest, forgotten, saturate_of_lt (by omega)]
    rfl
  · show (buffer.bytes ++ input).drop _ =
      (stream ++ input).drop ((stream ++ input).length - buffer.capacity)
    rw [← forgotten, ← List.drop_drop, List.drop_append_of_le_length (Nat.sub_le _ _), h.bytes]

theorem Holds.length_bytes (h : buffer.Holds stream) :
    buffer.bytes.length = min buffer.capacity stream.length := by
  rw [h.bytes, List.length_drop]
  omega

/-- Where a range begins: at the offset that was asked for, or at the first byte that is left. -/
def start (buffer : RollingBuffer) (offset : Nat) : Nat :=
  min (max offset buffer.earliestOffset) buffer.totalBytes

theorem Holds.bytes_read (h : buffer.Holds stream) :
    (buffer.read offset maxBytes).bytes = (stream.drop (buffer.start offset)).take maxBytes := by
  show (buffer.bytes.drop (buffer.start offset - buffer.earliestOffset)).take
    (min (buffer.totalBytes - buffer.start offset) maxBytes) = _
  have after : buffer.earliestOffset + (buffer.start offset - buffer.earliestOffset) =
      buffer.start offset := by
    have := h.total
    have := h.earliest
    unfold start
    omega
  rw [h.bytes, ← h.earliest, List.drop_drop, after, List.take_eq_take_iff, List.length_drop, h.total]
  omega

theorem Holds.next_read (h : buffer.Holds stream) (short : stream.length < 2 ^ 64) :
    (buffer.read offset maxBytes).nextOffset =
        buffer.start offset + (buffer.read offset maxBytes).bytes.length ∧
      (buffer.read offset maxBytes).nextOffset ≤ stream.length := by
  have within : buffer.start offset + (buffer.read offset maxBytes).bytes.length ≤ stream.length := by
    have := h.total
    simp only [h.bytes_read, List.length_take, List.length_drop, start]
    omega
  have next : (buffer.read offset maxBytes).nextOffset = _ :=
    saturate_of_lt (Nat.lt_of_le_of_lt within short)
  exact ⟨next, next ▸ within⟩

theorem eof_read (eof : (buffer.read offset maxBytes).eof = true) :
    buffer.closed = true ∧ buffer.totalBytes ≤ (buffer.read offset maxBytes).nextOffset := by
  simpa [read] using eof

end Gateway.Agent.RollingBuffer

namespace Gateway.Hub
open Data Agent Carrier RollingBuffer

def maxManagedJobOutputReadBytes : Nat := 64 * 1024

def defaultManagedJobOutputBytesPerStream : Nat := 4 * 1024 * 1024

/-! ### The Hub's check -/

/-- The only error of the check is `UnexpectedResult`. -/
inductive HubCommandError where
  | unexpectedResult

def validateManagedJobOutput (range : ManagedJobOutputRange) (requestedOffset maxBytes : Nat) :
    Except HubCommandError Unit :=
  if range.requestedOffset ≠ requestedOffset ∨ range.earliestAvailableOffset > range.totalBytes ∨
      range.nextOffset > range.totalBytes ∨
      range.totalBytes - range.earliestAvailableOffset > defaultManagedJobOutputBytesPerStream ∨
      range.bytes.length > maxBytes ∨
      range.gapBeforeRange ≠ decide (requestedOffset < range.earliestAvailableOffset) ∨
      range.historyTruncated ≠ decide (range.earliestAvailableOffset > 0) ∨
      (range.eof = true ∧ range.nextOffset < range.totalBytes) then
    .error .unexpectedResult
  else
    let start := min (max requestedOffset range.earliestAvailableOffset) range.totalBytes
    if saturate (start + range.bytes.length) ≠ range.nextOffset then .error .unexpectedResult
    else .ok ()

/-- A range that is read from a buffer passes unless the buffer holds more than the Hub allows. -/
theorem validate_read_iff {buffer : RollingBuffer} {stream : List UInt8} (h : buffer.Holds stream)
    (short : stream.length < 2 ^ 64) (offset maxBytes : Nat) :
    validateManagedJobOutput (buffer.read offset maxBytes) offset maxBytes = .ok () ↔
      min buffer.capacity stream.length ≤ defaultManagedJobOutputBytesPerStream := by
  have retained : buffer.totalBytes - buffer.earliestOffset = min buffer.capacity stream.length := by
    have := h.total
    have := h.earliest
    omega
  unfold validateManagedJobOutput
  rw [Result.guard_eq_ok, Result.guard_eq_ok, and_iff_left ⟨not_not.mpr rfl, rfl⟩, not_iff_comm,
    Nat.not_le]
  constructor
  · intro large
    exact .inr (.inr (.inr (.inl (retained ▸ large))))
  · rintro (asked | early | beyond | large | long | gap | truncated | ⟨eof, before⟩)
    · exact absurd rfl asked
    · have early : buffer.totalBytes < buffer.earliestOffset := early
      rw [h.total, h.earliest] at early
      omega
    · have beyond : buffer.totalBytes < (buffer.read offset maxBytes).nextOffset := beyond
      exact absurd (h.next_read short).2 (Nat.not_le.mpr (h.total ▸ beyond))
    · exact retained ▸ large
    · rw [h.bytes_read] at long
      exact absurd (List.length_take_le _ _) (Nat.not_le.mpr long)
    · exact absurd rfl gap
    · exact absurd rfl truncated
    · exact absurd (eof_read eof).2 (Nat.not_le.mpr before)

/-! ### A reader -/

/-- A buffer, all that was appended to it, and a reader: where it is and what it was given. -/
structure OutputPaging where
  buffer : RollingBuffer
  stream : List UInt8
  offset : Nat
  ranges : List ManagedJobOutputRange

inductive OutputEvent where
  | append (input : List UInt8)
  | close
  | read (maxBytes : Nat)

namespace OutputPaging

def start (capacity : Nat) : OutputPaging :=
  ⟨.new capacity, [], 0, []⟩

/-- The reader always goes on from the offset that its last range gave. -/
def next (s : OutputPaging) : OutputEvent → OutputPaging
  | .append input => {s with buffer := s.buffer.append input, stream := s.stream ++ input}
  | .close => {s with buffer := s.buffer.close}
  | .read maxBytes =>
    let range := s.buffer.read s.offset maxBytes
    {s with offset := range.nextOffset, ranges := s.ranges ++ [range]}

/-- The ranges lead from one offset of the stream to another. Each gives the bytes of the stream
from where the one before it ended, or, when it says that there is a gap, from the first byte that
was left. -/
def Leads (stream : List UInt8) : Nat → List ManagedJobOutputRange → Nat → Prop
  | offset, [], last => offset = last
  | offset, range :: rest, last =>
    range.requestedOffset = offset ∧
    (∃ first, offset ≤ first ∧ (range.gapBeforeRange = false → first = offset) ∧
      (range.gapBeforeRange = true → first = range.earliestAvailableOffset) ∧
      range.bytes = (stream.take range.nextOffset).drop first ∧
      first + range.bytes.length = range.nextOffset) ∧
    Leads stream range.nextOffset rest last

theorem Leads.append {stream input : List UInt8} {offset last : Nat}
    {ranges : List ManagedJobOutputRange} (within : ∀ range ∈ ranges, range.nextOffset ≤ stream.length)
    (leads : Leads stream offset ranges last) : Leads (stream ++ input) offset ranges last := by
  induction ranges generalizing offset with
  | nil => exact leads
  | cons range rest ih =>
    obtain ⟨asked, given, onward⟩ := leads
    refine ⟨asked, ?_, ih (fun later among => within later (List.mem_cons_of_mem _ among)) onward⟩
    rwa [List.take_append_of_le_length (within range List.mem_cons_self)]

theorem Leads.snoc {stream : List UInt8} {offset last : Nat} {ranges : List ManagedJobOutputRange}
    {range : ManagedJobOutputRange} (leads : Leads stream offset ranges last)
    (leads' : Leads stream last [range] range.nextOffset) :
    Leads stream offset (ranges ++ [range]) range.nextOffset := by
  induction ranges generalizing offset with
  | nil =>
    cases leads
    exact leads'
  | cons first rest ih => exact ⟨leads.1, leads.2.1, ih leads.2.2⟩

/-- What the buffer holds and what the reader has been given. -/
structure Exact (capacity : Nat) (s : OutputPaging) : Prop where
  capacity_eq : s.buffer.capacity = capacity
  holds : s.buffer.Holds s.stream
  reached : s.offset ≤ s.stream.length
  within : ∀ range ∈ s.ranges, range.nextOffset ≤ s.stream.length
  leads : Leads s.stream 0 s.ranges s.offset

theorem exact_start (capacity : Nat) : (start capacity).Exact capacity :=
  ⟨rfl, holds_new capacity, Nat.le_refl 0, nofun, rfl⟩

variable {capacity : Nat} {s : OutputPaging}

theorem Exact.append (h : s.Exact capacity) {input : List UInt8}
    (short : (s.stream ++ input).length < 2 ^ 64) : (s.next (.append input)).Exact capacity := by
  have grows : s.stream.length ≤ (s.stream ++ input).length := by simp
  exact ⟨h.capacity_eq, h.holds.append short, Nat.le_trans h.reached grows,
    fun range among => Nat.le_trans (h.within range among) grows, h.leads.append h.within⟩

theorem Exact.read (h : s.Exact capacity) (maxBytes : Nat) (short : s.stream.length < 2 ^ 64) :
    (s.next (.read maxBytes)).Exact capacity := by
  obtain ⟨next, reached⟩ : _ ∧ (s.buffer.read s.offset maxBytes).nextOffset ≤ s.stream.length :=
    h.holds.next_read short
  have total := h.holds.total
  have earliest := h.holds.earliest
  have here := h.reached
  refine ⟨h.capacity_eq, h.holds, reached, fun range among => ?_, h.leads.snoc ⟨rfl, ?_, rfl⟩⟩
  · rcases List.mem_append.mp among with among | among
    · exact h.within range among
    · cases List.mem_singleton.mp among
      exact reached
  · refine ⟨s.buffer.start s.offset, ?_, fun gap => ?_, fun gap => ?_, ?_, next.symm⟩
    · unfold RollingBuffer.start
      omega
    · have gap : ¬s.offset < s.buffer.earliestOffset := of_decide_eq_false gap
      unfold RollingBuffer.start
      omega
    · have gap : s.offset < s.buffer.earliestOffset := of_decide_eq_true gap
      show _ = s.buffer.earliestOffset
      unfold RollingBuffer.start
      omega
    · rw [next, List.drop_take, h.holds.bytes_read, List.length_take,
        List.take_eq_take_iff]
      omega

theorem exact_next {e : OutputEvent} (h : s.stream.length < 2 ^ 64 → s.Exact capacity)
    (short : (s.next e).stream.length < 2 ^ 64) : (s.next e).Exact capacity := by
  cases e with
  | append input =>
    refine (h (Nat.lt_of_le_of_lt ?_ short)).append short
    show s.stream.length ≤ (s.stream ++ input).length
    simp
  | close =>
    obtain ⟨capacity_eq, holds, reached, within, leads⟩ := h short
    exact ⟨capacity_eq, ⟨holds.total, holds.earliest, holds.bytes⟩, reached, within, leads⟩
  | read maxBytes => exact (h short).read maxBytes short

/-- Some appends, closes and reads of a reader that begins at the start of the stream. -/
def paged (capacity : Nat) (events : List OutputEvent) : OutputPaging :=
  Machine.run next (start capacity) events

theorem exact_paged (events : List OutputEvent) (short : (paged capacity events).stream.length < 2 ^ 64) :
    (paged capacity events).Exact capacity := by
  let Inv (s : OutputPaging) : Prop := s.stream.length < 2 ^ 64 → s.Exact capacity
  have step : ∀ s e, Inv s → True → Inv (next s e) := fun _ _ h _ => exact_next h
  have first : Inv (start capacity) := fun _ => exact_start capacity
  exact Machine.run_invariant step first (Machine.meets_of_forall (fun _ _ => trivial) events) short

/-- **The pages of a job's output are exact**: after any interleaving, the buffer holds the end of
the stream, the reader has been given the stream in order up to the gaps it was told of, and the
end is reported only once the stream is closed and the reader is at its end. The Hub accepts what
is read exactly as long as the buffer does not hold more than the Hub allows. -/
theorem paging_exact (capacity : Nat) (events : List OutputEvent)
    (short : (paged capacity events).stream.length < 2 ^ 64) :
    let s := paged capacity events
    (s.buffer.bytes = s.stream.drop (s.stream.length - min capacity s.stream.length) ∧
      s.buffer.totalBytes = s.stream.length ∧
      s.buffer.earliestOffset + s.buffer.bytes.length = s.buffer.totalBytes) ∧
    Leads s.stream 0 s.ranges s.offset ∧
    (∀ offset maxBytes, (s.buffer.read offset maxBytes).eof = true → s.buffer.closed = true ∧
      (s.buffer.read offset maxBytes).nextOffset = s.stream.length) ∧
    ∀ offset maxBytes, offset ≤ s.buffer.totalBytes → 0 < maxBytes →
      maxBytes ≤ maxManagedJobOutputReadBytes →
      (validateManagedJobOutput (s.buffer.read offset maxBytes) offset maxBytes = .ok () ↔
        min capacity s.stream.length ≤ defaultManagedJobOutputBytesPerStream) := by
  intro s
  have known : s.Exact capacity := exact_paged events short
  have total := known.holds.total
  have held := known.holds.length_bytes
  have earliest := known.holds.earliest
  refine ⟨⟨?_, total, by omega⟩, known.leads, fun offset maxBytes eof => ?_, ?_⟩
  · rw [known.holds.bytes, known.capacity_eq]
    congr 1
    omega
  · obtain ⟨closed, last⟩ := eof_read eof
    exact ⟨closed, Nat.le_antisymm (known.holds.next_read short).2 (total ▸ last)⟩
  · intro offset maxBytes _ _ _
    rw [validate_read_iff known.holds short, known.capacity_eq]

/-- The reader is late for two of six bytes, and sees the end after the stream is closed. -/
def lateReader : List OutputEvent :=
  [.append [1, 2, 3, 4, 5, 6], .read 3, .close, .read 8]

theorem paging_exact_late : (paged 4 lateReader).ranges.map (·.bytes) = [[3, 4, 5], [6]] ∧
    (paged 4 lateReader).ranges.map (·.eof) = [false, true] ∧
    Leads (paged 4 lateReader).stream 0 (paged 4 lateReader).ranges (paged 4 lateReader).offset :=
  ⟨by decide, by decide, (paging_exact 4 lateReader (by decide)).2.1⟩

/-- A buffer with room for one byte more than the Hub allows, and full. -/
theorem output_refused : ∃ (capacity : Nat) (events : List OutputEvent),
    (paged capacity events).stream.length < 2 ^ 64 ∧
    validateManagedJobOutput ((paged capacity events).buffer.read 0 1) 0 1 ≠ .ok () := by
  let room := defaultManagedJobOutputBytesPerStream + 1
  have length : (List.replicate room (0 : UInt8)).length = room := List.length_replicate
  let events : List OutputEvent := [.append (List.replicate room 0)]
  have stream : (paged room events).stream.length = room := length
  have short : (paged room events).stream.length < 2 ^ 64 := by
    rw [stream]
    decide
  refine ⟨room, events, short, ?_⟩
  have known := exact_paged events short
  rw [Ne, validate_read_iff known.holds short, known.capacity_eq, stream]
  exact Nat.not_succ_le_self _

end OutputPaging

end Gateway.Hub
