import Gateway.Data.Machine
import Gateway.Data.Result

/-! The sliding window in front of the Hub.

The limiter keeps the times of the calls it let through and forgets them from the front once the
window has passed them. While the clock does not go back it holds exactly those of the window that
ends now, so it refuses a call exactly if that window is full. -/
namespace Gateway.Hub
open Data

structure LimitConfigError where
  deriving DecidableEq

/-- Times and the window are in nanoseconds. -/
structure SlidingWindowRateLimit where
  maxEvents : Nat
  window : Nat
  events : List Nat
  deriving DecidableEq

namespace SlidingWindowRateLimit

def new (maxEvents window : Nat) : Except LimitConfigError SlidingWindowRateLimit :=
  if maxEvents = 0 ∨ window = 0 then .error {} else .ok ⟨maxEvents, window, []⟩

def tryAcquire (limit : SlidingWindowRateLimit) (now : Nat) : Bool × SlidingWindowRateLimit :=
  let events := limit.events.dropWhile fun seen => limit.window ≤ now - seen
  if limit.maxEvents ≤ events.length then (false, {limit with events})
  else (true, {limit with events := events ++ [now]})

end SlidingWindowRateLimit

/-- The limiter, the times of all calls it let through and the last reading of the clock. -/
structure RateRun where
  limit : SlidingWindowRateLimit
  accepted : List Nat
  last : Nat

namespace RateRun

def next (s : RateRun) (now : Nat) : RateRun :=
  let (passed, limit) := s.limit.tryAcquire now
  ⟨limit, if passed then s.accepted ++ [now] else s.accepted, now⟩

def called (limit : SlidingWindowRateLimit) (times : List Nat) : RateRun :=
  Machine.run next ⟨limit, [], 0⟩ times

/-- How many of the calls that were let through lie in a set of times. -/
def inside (s : RateRun) (times : Nat → Bool) : Nat :=
  s.accepted.countP times

/-- No two of the times are a window apart. -/
def Within (window : Nat) (times : Nat → Bool) : Prop :=
  ∀ u v, times u = true → times v = true → v < u + window

/-- The window that ends at a time, without its first instant. -/
def windowEnding (window now : Nat) (seen : Nat) : Bool :=
  now < seen + window && seen ≤ now

/-- In an ordered list, what is passed stands in front. -/
theorem dropWhile_passed {window now : Nat} {times : List Nat} (ordered : times.Pairwise (· ≤ ·)) :
    times.dropWhile (fun seen => window ≤ now - seen) =
      times.filter fun seen => !decide (window ≤ now - seen) := by
  induction times with
  | nil => rfl
  | cons seen rest ih =>
    obtain ⟨first, ordered⟩ := List.pairwise_cons.mp ordered
    by_cases passed : window ≤ now - seen
    · simp only [List.dropWhile_cons, List.filter_cons, decide_eq_true passed]
      exact ih ordered
    · have kept : ∀ later ∈ rest, ¬window ≤ now - later := by
        intro later among
        have := first later among
        omega
      simp only [List.dropWhile_cons, List.filter_cons, decide_eq_false passed]
      refine congrArg (seen :: ·) (List.filter_eq_self.mpr fun later among => ?_).symm
      simpa using kept later among

/-- The limiter holds the calls of the window that ended with the last one. -/
structure Exact (maxEvents window : Nat) (s : RateRun) : Prop where
  maxEvents_eq : s.limit.maxEvents = maxEvents
  window_eq : s.limit.window = window
  ordered : s.accepted.Pairwise (· ≤ ·)
  past : ∀ seen ∈ s.accepted, seen ≤ s.last
  events : s.limit.events = s.accepted.filter (windowEnding window s.last)
  few : ∀ times, Within window times → s.inside times ≤ maxEvents

section Step
variable {maxEvents window now : Nat} {s : RateRun}

theorem exact_new {limit : SlidingWindowRateLimit}
    (created : SlidingWindowRateLimit.new maxEvents window = .ok limit) :
    Exact maxEvents window ⟨limit, [], 0⟩ := by
  obtain ⟨_, is⟩ := Result.guard_eq_ok.mp created
  cases is
  exact ⟨rfl, rfl, .nil, nofun, rfl, fun _ _ => Nat.zero_le _⟩

/-- What is left of the queue when the clock has moved on. -/
theorem Exact.left (h : s.Exact maxEvents window) (later : s.last ≤ now) :
    s.limit.events.dropWhile (fun seen => s.limit.window ≤ now - seen) =
      s.accepted.filter (windowEnding window now) := by
  rw [h.window_eq, dropWhile_passed (h.events ▸ h.ordered.filter _), h.events, List.filter_filter]
  refine List.filter_congr fun seen among => ?_
  have := h.past seen among
  rw [Bool.eq_iff_iff]
  simp only [windowEnding, Bool.and_eq_true, Bool.not_eq_true', decide_eq_true_eq,
    decide_eq_false_iff_not]
  omega

theorem within_windowEnding (window now : Nat) : Within window (windowEnding window now) := by
  intro u v first second
  simp only [windowEnding, Bool.and_eq_true, decide_eq_true_eq] at first second
  omega

/-- A call is refused exactly if the window that ends with it is full. -/
theorem Exact.refused_iff (h : s.Exact maxEvents window) (later : s.last ≤ now) :
    (s.limit.tryAcquire now).1 = false ↔ s.inside (windowEnding window now) = maxEvents := by
  have most := h.few _ (within_windowEnding window now)
  unfold SlidingWindowRateLimit.tryAcquire
  rw [h.left later, h.maxEvents_eq]
  dsimp only
  rw [← List.countP_eq_length_filter]
  split
  · next full => exact ⟨fun _ => Nat.le_antisymm most full, fun _ => rfl⟩
  · next room => exact ⟨nofun, fun full => absurd (Nat.le_of_eq full.symm) room⟩

/-- One more call is let through. -/
theorem Exact.accept (h : s.Exact maxEvents window) (positive : 0 < window) (later : s.last ≤ now)
    (room : s.inside (windowEnding window now) < maxEvents) :
    Exact maxEvents window ⟨{s.limit with
      events := s.accepted.filter (windowEnding window now) ++ [now]}, s.accepted ++ [now], now⟩ := by
  have past : ∀ seen ∈ s.accepted, seen ≤ now := fun seen among =>
    Nat.le_trans (h.past seen among) later
  have here : windowEnding window now now = true := by simp [windowEnding, positive]
  refine ⟨h.maxEvents_eq, h.window_eq, ?_, ?_, ?_, fun times short => ?_⟩
  · refine List.pairwise_append.mpr ⟨h.ordered, List.pairwise_singleton _ _, ?_⟩
    intro seen among other is
    exact List.mem_singleton.mp is ▸ past seen among
  · intro seen among
    rcases List.mem_append.mp among with among | is
    · exact past seen among
    · exact Nat.le_of_eq (List.mem_singleton.mp is)
  · rw [List.filter_append, List.filter_cons_of_pos here, List.filter_nil]
  · show List.countP times (s.accepted ++ [now]) ≤ maxEvents
    rw [List.countP_append, List.countP_singleton]
    split
    · next counts =>
      -- What the new call is counted with lies in the window that ends with it.
      refine Nat.lt_of_le_of_lt (List.countP_mono_left fun seen among counted => ?_) room
      simp only [windowEnding, Bool.and_eq_true, decide_eq_true_eq]
      exact ⟨short seen now counted counts, past seen among⟩
    · exact h.few times short

theorem Exact.next (h : s.Exact maxEvents window) (positive : 0 < window) (later : s.last ≤ now) :
    (s.next now).Exact maxEvents window := by
  unfold RateRun.next SlidingWindowRateLimit.tryAcquire
  rw [h.left later]
  dsimp only
  split
  · refine ⟨h.maxEvents_eq, h.window_eq, h.ordered, fun seen among => ?_, rfl, h.few⟩
    exact Nat.le_trans (h.past seen among) later
  · next room =>
    rw [h.maxEvents_eq, ← List.countP_eq_length_filter] at room
    exact h.accept positive later (Nat.lt_of_not_le room)

end Step

/-- **The sliding window is exact**: however often the limiter is called, as long as the clock does
not go back, no times that lie within one window hold more calls than are allowed, and the next call
is refused exactly if the window that ends with it holds as many. -/
theorem window_exact (maxEvents window : Nat) (limit : SlidingWindowRateLimit) (times : List Nat)
    (created : SlidingWindowRateLimit.new maxEvents window = .ok limit)
    (forward : Machine.Meets next (fun s now => s.last ≤ now) ⟨limit, [], 0⟩ times) :
    (∀ start, (called limit times).inside (fun t => start ≤ t && t < start + window) ≤ maxEvents ∧
      (called limit times).inside (fun t => start < t && t ≤ start + window) ≤ maxEvents) ∧
    ∀ now, (called limit times).last ≤ now →
      (((called limit times).limit.tryAcquire now).1 = false ↔
        (called limit times).inside (windowEnding window now) = maxEvents) := by
  have positive : 0 < window := by
    obtain ⟨sound, _⟩ := Result.guard_eq_ok.mp created
    exact Nat.pos_of_ne_zero fun none => sound (.inr none)
  have known : (called limit times).Exact maxEvents window :=
    Machine.run_invariant (fun _ _ h later => h.next positive later) (exact_new created) forward
  refine ⟨fun start => ⟨known.few _ ?_, known.few _ ?_⟩, fun now later => known.refused_iff later⟩
  all_goals
    intro u v first second
    simp only [Bool.and_eq_true, decide_eq_true_eq] at first second
    omega

/-- Two calls in ten nanoseconds: the third is refused, and let through once the first is passed. -/
theorem window_exact_two : ∃ limit, SlidingWindowRateLimit.new 2 10 = .ok limit ∧
    ((called limit [3, 5]).limit.tryAcquire 12).1 = false ∧
    ((called limit [3, 5]).limit.tryAcquire 13).1 = true ∧
    (called limit [3, 5]).inside (windowEnding 10 12) = 2 :=
  ⟨_, rfl, by decide, by decide, ((window_exact 2 10 _ [3, 5] rfl (by decide)).2 12 (by decide)).mp
    (by decide)⟩

end RateRun

end Gateway.Hub
