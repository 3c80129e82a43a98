import Gateway.Agent.Handoff

/-! An exchange returns the answer to its own request.

Nothing names the request a response belongs to but its place on the stream. As long as no caller
is dropped between its first byte and the flag, the pipes are empty whenever the lock is free and
the flag is not set. -/
namespace Gateway.Agent.Handoff
open Data Machine

/-- Something of a request has been written, and neither has its answer been read nor is the flag
set. -/
def Phase.midway : Phase → Bool
  | .writing request rest => rest.length < request.sent.length
  | .flushing _ _ | .reading _ _ _ => true
  | .stopping _ | .faulting => false

/-- No caller is dropped midway, or between an exchange and the fault it calls for. -/
def patient {Value : Type} (s : ManagedHandoff Value) : HandoffEvent → Bool
  | .drop caller =>
    !(s.active.any fun entry => entry.1 = caller && entry.2.midway) && !s.afterExchange caller
  | _ => true

namespace ManagedHandoff
variable {Value : Type} {wire : Wire Value} {s : ManagedHandoff Value} {request : Line}
  {line : Nat} {got : List UInt8}

/-- A request that has been written: it is on its way, or its answer is. -/
inductive Asked (s : ManagedHandoff Value) (request : Line) (line : Nat) : List UInt8 → Prop
  | unanswered (asked : s.toChild = request.sent) (quiet : s.fromChild = [])
      (place : line = s.answers.length) : Asked s request line []
  | answered {got : List UInt8} (response : Line) (taken : s.toChild = [])
      (place : s.answers[line]? = some (request.bytes, response))
      (rest : got ++ s.fromChild = response.sent) (more : s.fromChild ≠ []) :
      Asked s request line got

/-- What is in the pipes. -/
def OnWire (s : ManagedHandoff Value) : Option (Nat × Phase) → Prop
  | none => s.faulted = false → s.toChild = [] ∧ s.fromChild = []
  | some (_, .writing request rest) => s.faulted = false ∧ s.fromChild = [] ∧ rest ≠ [] ∧
    s.toChild ++ rest = request.sent
  | some (_, .flushing request line) => s.faulted = false ∧ s.Asked request line []
  | some (_, .reading request line got) => s.faulted = false ∧ s.Asked request line got
  | some (_, .stopping _) | some (_, .faulting) => s.faulted = true

/-- Only the pipes, the flag and what the child answered matter. -/
theorem Asked.congr {t : ManagedHandoff Value} (h : s.Asked request line got)
    (toChild : t.toChild = s.toChild) (fromChild : t.fromChild = s.fromChild)
    (answers : t.answers = s.answers) : t.Asked request line got := by
  cases h with
  | unanswered asked quiet place =>
    exact .unanswered (toChild.trans asked) (fromChild.trans quiet) (answers ▸ place)
  | answered response taken place rest more =>
    exact .answered response (toChild.trans taken) (answers ▸ place) (fromChild ▸ rest)
      (fromChild ▸ more)

theorem OnWire.congr {t : ManagedHandoff Value} {active : Option (Nat × Phase)}
    (h : s.OnWire active) (toChild : t.toChild = s.toChild) (fromChild : t.fromChild = s.fromChild)
    (faulted : t.faulted = s.faulted) (answers : t.answers = s.answers) : t.OnWire active := by
  unfold OnWire at h ⊢
  split at h
  · rwa [faulted, toChild, fromChild]
  · rwa [faulted, toChild, fromChild]
  · exact ⟨faulted ▸ h.1, h.2.congr toChild fromChild answers⟩
  · exact ⟨faulted ▸ h.1, h.2.congr toChild fromChild answers⟩
  · rwa [faulted]
  · rwa [faulted]

/-- What an exchange returned is what the child answered to the line of its request. -/
def Answered (wire : Wire Value) (s : ManagedHandoff Value) (entry : Nat × Line × Value) : Prop :=
  ∃ response : Line, s.answers[entry.1]? = some (entry.2.1.bytes, response) ∧
    wire.decode response.bytes = some entry.2.2

structure Inv (wire : Wire Value) (s : ManagedHandoff Value) : Prop where
  returned : ∀ entry ∈ s.returned, s.Answered wire entry
  broken : s.broken = true → s.faulted = true
  wire : s.OnWire s.active

theorem Asked.answer {rest asked : List UInt8} {response : Line} {active : Option (Nat × Phase)}
    (h : s.Asked request line got) (is : splitLine s.toChild = some (asked, rest)) :
    Asked {s with
      active := active
      toChild := rest
      fromChild := s.fromChild ++ response.sent
      answers := s.answers ++ [(asked, response)]} request line got := by
  cases h with
  | unanswered whole quiet place =>
    rw [whole, splitLine_sent] at is
    cases is
    refine .answered response rfl ?_ ?_ ?_
    · rw [place]
      exact List.getElem?_concat_length
    · rw [quiet]
      rfl
    · rw [quiet]
      exact response.sent_ne_nil
  | answered earlier taken place rest more =>
    rw [taken] at is
    cases is

theorem start_inv : (start : ManagedHandoff Value).Inv wire := ⟨nofun, nofun, fun _ => ⟨rfl, rfl⟩⟩

theorem reply_eq (s : ManagedHandoff Value) (caller : Nat) (result : Except HandoffError Value) :
    ∃ callers, s.reply caller result = {s with active := none, callers := callers} := by
  unfold reply
  split
  · exact ⟨_, rfl⟩
  · exact ⟨_, rfl⟩

theorem replyFault_eq (s : ManagedHandoff Value) (caller : Nat) :
    ∃ callers, s.replyFault caller = {s with active := none, callers := callers} := by
  unfold replyFault
  split
  · exact ⟨_, rfl⟩
  · exact ⟨_, rfl⟩

section
variable (inv : s.Inv wire)
include inv

/-- The lock is let go with the flag set, or with empty pipes. -/
theorem Inv.release (quiet : s.faulted = false → s.toChild = [] ∧ s.fromChild = [])
    (callers : List (Option (Plan Value))) : {s with active := none, callers := callers}.Inv wire :=
  ⟨inv.returned, inv.broken, quiet⟩

theorem Inv.fail (caller : Nat) (error : HandoffError) : (s.fail caller error).Inv wire :=
  ⟨inv.returned, fun _ => rfl, rfl⟩

theorem Inv.acquire (caller : Nat) (found : ChildCheck) : (s.acquire caller found).Inv wire := by
  have onWire := inv.wire
  unfold ManagedHandoff.acquire
  split
  · next request next free there =>
    rw [free] at onWire
    split
    · obtain ⟨callers, is⟩ := s.reply_eq caller (.error .unavailable)
      rw [is]
      exact inv.release onWire callers
    · next clear =>
      have clear : s.faulted = false := Bool.eq_false_iff.mpr clear
      cases found with
      | exited =>
        obtain ⟨callers, is⟩ := {s with faulted := true}.reply_eq caller (.error .unavailable)
        rw [is]
        exact ⟨inv.returned, fun _ => rfl, nofun⟩
      | unknown => exact ⟨inv.returned, fun _ => rfl, rfl⟩
      | running =>
        obtain ⟨asked, quiet⟩ := onWire clear
        refine ⟨inv.returned, inv.broken, clear, quiet, by simp [Line.sent], ?_⟩
        rw [asked, List.nil_append]
  · next next free there =>
    rw [free] at onWire
    split
    · obtain ⟨callers, is⟩ := s.replyFault_eq caller
      rw [is]
      exact inv.release onWire callers
    · exact ⟨inv.returned, fun _ => rfl, rfl⟩
  · exact inv

theorem Inv.write (count : Nat) : (s.write count).Inv wire := by
  have onWire := inv.wire
  unfold ManagedHandoff.write
  split
  · next caller request rest is =>
    rw [is] at onWire
    obtain ⟨clear, quiet, more, parts⟩ := onWire
    refine ⟨inv.returned, inv.broken, ?_⟩
    have whole : s.toChild ++ rest.take (count + 1) ++ rest.drop (count + 1) = request.sent := by
      rw [List.append_assoc, List.take_append_drop, parts]
    dsimp only
    split
    · next done =>
      rw [done, List.append_nil] at whole
      have unfinished : newline ∉ s.toChild := not_mem_of_append more parts
      refine ⟨clear, .unanswered whole quiet ?_⟩
      rw [linesSent, List.count_eq_zero_of_not_mem unfinished]
      rfl
    · next left => exact ⟨clear, quiet, left, whole⟩
  · exact inv

theorem Inv.flush : s.flush.Inv wire := by
  have onWire := inv.wire
  unfold ManagedHandoff.flush
  split
  · next caller request line is =>
    rw [is] at onWire
    exact ⟨inv.returned, inv.broken, onWire.1, onWire.2.congr rfl rfl rfl⟩
  · exact inv

/-- The answer to a request is read to its end. -/
theorem Inv.respond (caller : Nat) {response : Line} {left : List UInt8}
    (clear : s.faulted = false → s.toChild = [] ∧ left = [])
    (place : s.answers[line]? = some (request.bytes, response)) :
    ({s with fromChild := left}.respond wire caller request line response.sent).Inv wire := by
  have failed (error : HandoffError) : ({s with fromChild := left}.fail caller error).Inv wire :=
    ⟨inv.returned, fun _ => rfl, rfl⟩
  unfold ManagedHandoff.respond
  split
  · exact failed .protocol
  · rw [Line.dropLast_sent]
    cases decoded : wire.decode response.bytes with
    | none => exact failed .protocol
    | some value =>
      obtain ⟨callers, is⟩ := {s with
        fromChild := left
        returned := (line, request, value) :: s.returned}.reply_eq caller (.ok value)
      dsimp only
      rw [is]
      refine ⟨fun entry listed => ?_, inv.broken, clear⟩
      rcases List.mem_cons.mp listed with rfl | older
      · exact ⟨response, place, decoded⟩
      · exact inv.returned entry older

theorem Inv.read (count : Nat) : (s.read wire count).Inv wire := by
  have onWire := inv.wire
  unfold ManagedHandoff.read
  split
  · next caller request line got is =>
    rw [is] at onWire
    obtain ⟨clear, asked⟩ := onWire
    dsimp only
    cases asked with
    | unanswered asked quiet place =>
      -- Nothing has come yet, so nothing is read.
      simp only [quiet, List.drop_nil]
      exact ⟨inv.returned, inv.broken, clear, .unanswered asked rfl place⟩
    | answered response taken place rest more =>
      have parts : got ++ s.fromChild.take (count + 1) ++ s.fromChild.drop (count + 1) =
          response.sent := by
        rw [List.append_assoc, List.take_append_drop, rest]
      have left : s.fromChild.drop (s.fromChild.take (count + 1)).length =
          s.fromChild.drop (count + 1) := by
        nth_rewrite 2 [← List.take_append_drop (count + 1) s.fromChild]
        exact List.drop_left
      rw [uptoNewline_of_append parts, left]
      split
      · next ends =>
        have last : s.fromChild.drop (count + 1) = [] :=
          eq_nil_of_ends (List.mem_append_right got ends) parts
        rw [last, List.append_nil] at parts
        rw [parts]
        exact inv.respond caller (fun _ => ⟨taken, last⟩) place
      · next unfinished =>
        refine ⟨inv.returned, inv.broken, clear, .answered response taken place parts ?_⟩
        intro last
        have all := List.take_append_drop (count + 1) s.fromChild
        rw [show s.fromChild.drop (count + 1) = [] from last, List.append_nil] at all
        rw [all] at unfinished
        exact unfinished (mem_of_append more rest)
  · exact inv

theorem Inv.eof : s.eof.Inv wire := by
  unfold ManagedHandoff.eof
  split
  · exact inv.fail _ _
  · exact inv

theorem Inv.fails : s.fails.Inv wire := by
  unfold ManagedHandoff.fails
  split
  · exact inv.fail _ _
  · exact inv.fail _ _
  · exact inv.fail _ _
  · exact inv

theorem Inv.stopped : s.stopped.Inv wire := by
  have onWire := inv.wire
  unfold ManagedHandoff.stopped
  split
  · next caller error is =>
    rw [is] at onWire
    obtain ⟨callers, replied⟩ := s.reply_eq caller (.error error)
    rw [replied]
    exact inv.release (fun clear => (by cases clear.symm.trans onWire)) callers
  · next caller is =>
    rw [is] at onWire
    obtain ⟨callers, replied⟩ := s.replyFault_eq caller
    rw [replied]
    exact inv.release (fun clear => (by cases clear.symm.trans onWire)) callers
  · exact inv

theorem Inv.answer (response : Line) : (s.answer response).Inv wire := by
  have onWire := inv.wire
  unfold ManagedHandoff.answer
  split
  · exact inv
  · next line rest is =>
    refine ⟨fun entry listed => ?_, inv.broken, ?_⟩
    · obtain ⟨earlier, place, decoded⟩ := inv.returned entry listed
      have bound := (List.getElem?_eq_some_iff.mp place).1
      exact ⟨earlier, (List.getElem?_append_left bound).trans place, decoded⟩
    · cases busy : s.active with
      | none =>
        rw [busy] at onWire
        intro clear
        rw [(onWire clear).1] at is
        cases is
      | some entry =>
        obtain ⟨caller, phase⟩ := entry
        rw [busy] at onWire
        cases phase with
        | stopping _ | faulting => exact onWire
        | writing request left =>
          rw [splitLine_of_not_mem (not_mem_of_append onWire.2.2.1 onWire.2.2.2)] at is
          cases is
        | flushing request place =>
          exact ⟨onWire.1, onWire.2.answer is⟩
        | reading request place got =>
          exact ⟨onWire.1, onWire.2.answer is⟩

/-- A caller that is dropped before its first byte or after the flag leaves nothing behind. -/
theorem Inv.drop {caller : Nat} (ok : patient s (.drop caller) = true) :
    (s.drop caller).Inv wire := by
  have onWire := inv.wire
  simp only [patient, Bool.and_eq_true, Bool.not_eq_true'] at ok
  obtain ⟨ready, done⟩ := ok
  unfold ManagedHandoff.drop
  cases busy : s.active with
  | none =>
    rw [busy] at onWire
    refine ⟨inv.returned, fun broken => inv.broken ?_, onWire⟩
    simpa [done] using broken
  | some entry =>
    obtain ⟨holder, phase⟩ := entry
    rw [busy] at onWire ready
    by_cases same : holder = caller
    · subst same
      have ready : phase.midway = false := by simpa using ready
      simp only [Option.filter, decide_true, if_true, ne_eq, Option.any_some, done, Bool.or_false]
      refine ⟨inv.returned, fun broken => ?_, ?_⟩
      · cases phase with
        | stopping _ | faulting => exact onWire
        | flushing _ _ | reading _ _ _ => cases ready
        | writing request rest =>
          have fresh : Phase.begun (.writing request rest) = false := ready
          rw [fresh, Bool.or_false] at broken
          exact inv.broken broken
      · cases phase with
        | stopping _ | faulting => exact fun clear => (by cases clear.symm.trans onWire)
        | flushing _ _ | reading _ _ _ => cases ready
        | writing request rest =>
          obtain ⟨-, quiet, -, parts⟩ := onWire
          have short : request.sent.length ≤ rest.length := by
            simpa [Phase.midway] using ready
          have long := congrArg List.length parts
          rw [List.length_append] at long
          have unsent : s.toChild.length = 0 := by omega
          exact fun _ => ⟨List.length_eq_zero_iff.mp unsent, quiet⟩
    · simp only [Option.filter, same, decide_false, Bool.false_eq_true, if_false, ne_eq,
        Option.any_none, Bool.or_false, done]
      exact ⟨inv.returned, inv.broken, onWire.congr rfl rfl rfl rfl⟩

theorem Inv.next {event : HandoffEvent} (ok : patient s event = true) :
    (s.next wire event).Inv wire := by
  cases event with
  | arrive job => exact ⟨inv.returned, inv.broken, inv.wire.congr rfl rfl rfl rfl⟩
  | acquire caller found => exact inv.acquire caller found
  | write count => exact inv.write count
  | flush => exact inv.flush
  | read count => exact inv.read count
  | eof => exact inv.eof
  | fails => exact inv.fails
  | stopped => exact inv.stopped
  | drop caller => exact inv.drop ok
  | answer response => exact inv.answer response

end

/-- Only a caller that reads gets an answer. -/
theorem next_returned (event : HandoffEvent)
    (idle : ∀ caller request line got, s.active ≠ some (caller, .reading request line got)) :
    (s.next wire event).returned = s.returned := by
  cases event with
  | arrive job => rfl
  | drop caller => rfl
  | acquire caller found =>
    unfold ManagedHandoff.next ManagedHandoff.acquire
    dsimp only
    split
    · split
      · obtain ⟨callers, is⟩ := s.reply_eq caller (.error .unavailable)
        rw [is]
      · cases found with
        | exited =>
          obtain ⟨callers, is⟩ := {s with faulted := true}.reply_eq caller (.error .unavailable)
          rw [is]
        | unknown => rfl
        | running => rfl
    · split
      · obtain ⟨callers, is⟩ := s.replyFault_eq caller
        rw [is]
      · rfl
    · rfl
  | write count =>
    unfold ManagedHandoff.next ManagedHandoff.write
    dsimp only
    split <;> rfl
  | flush =>
    unfold ManagedHandoff.next ManagedHandoff.flush
    dsimp only
    split <;> rfl
  | read count =>
    unfold ManagedHandoff.next ManagedHandoff.read
    dsimp only
    split
    · next caller request line got is => exact absurd is (idle caller request line got)
    · rfl
  | eof =>
    unfold ManagedHandoff.next ManagedHandoff.eof
    dsimp only
    split <;> rfl
  | fails =>
    unfold ManagedHandoff.next ManagedHandoff.fails
    dsimp only
    split <;> rfl
  | stopped =>
    unfold ManagedHandoff.next ManagedHandoff.stopped
    dsimp only
    split
    · next caller error _ =>
      obtain ⟨callers, is⟩ := s.reply_eq caller (.error error)
      rw [is]
    · next caller _ =>
      obtain ⟨callers, is⟩ := s.replyFault_eq caller
      rw [is]
    · rfl
  | answer response =>
    unfold ManagedHandoff.next ManagedHandoff.answer
    dsimp only
    split <;> rfl

/-- Every exchange returned what the child answered to its own line, and once one has failed or
was given up no other returns anything. -/
structure Pairs (wire : Wire Value) (s : ManagedHandoff Value) : Prop where
  own : ∀ entry ∈ s.returned, s.Answered wire entry
  last : s.broken = true → ∀ event, (s.next wire event).returned = s.returned

theorem Inv.pairs (inv : s.Inv wire) : s.Pairs wire := by
  refine ⟨inv.returned, fun broken event => next_returned event ?_⟩
  intro caller request line got is
  have onWire := inv.wire
  rw [is] at onWire
  cases onWire.1.symm.trans (inv.broken broken)

end ManagedHandoff

open ManagedHandoff

/-- Where no caller is dropped midway, every exchange is paired. -/
theorem exchanges_paired {Value : Type} (wire : Wire Value) (events : List HandoffEvent)
    (meets : Machine.Meets (next wire) (fun s event => patient s event = true) start events) :
    (run (next wire) start events).Pairs wire := by
  have step : ∀ (s : ManagedHandoff Value) event, s.Inv wire → patient s event = true →
      (s.next wire event).Inv wire := fun _ _ inv ok => inv.next ok
  exact (run_invariant step start_inv meets).pairs

/-- Values are the bytes they are sent as; those of one byte are responses. -/
def plainWire : Wire (List UInt8) where
  decode := some
  okField bytes := some (bytes.length == 1)
  isResponse bytes := bytes.length == 1
  parseRuntimeStatus := .ok
  statusRequest := ⟨[115], by decide⟩

def requestA : Line := ⟨[1], by decide⟩

def requestB : Line := ⟨[2], by decide⟩

/-- Two exchanges one after the other, the first in pieces; a third caller is dropped while it
waits for the lock. -/
def orderly : List HandoffEvent :=
  [.arrive (.exchange requestA), .arrive (.exchange requestB), .arrive .status,
    .acquire 0 .running, .write 0, .write 5, .flush, .drop 2, .answer ⟨[11], by decide⟩, .read 0,
    .read 0, .acquire 1 .running, .write 5, .flush, .answer ⟨[12], by decide⟩, .read 5]

theorem exchanges_paired_orderly :
    (run (next plainWire) start orderly).returned =
        [(1, requestB, [12]), (0, requestA, [11])] ∧
      (run (next plainWire) start orderly).Pairs plainWire :=
  ⟨by decide +kernel, exchanges_paired plainWire orderly (by decide +kernel)⟩

/-- The first caller is dropped when its request is written. -/
def abandonedMidway : List HandoffEvent :=
  [.arrive (.exchange requestA), .arrive (.exchange requestB), .acquire 0 .running, .write 5,
    .drop 0, .answer ⟨[11], by decide⟩, .acquire 1 .running, .write 5, .flush]

/-- The first caller gets a response it cannot use, and is dropped before it can fault the
runtime. -/
def abandonedFault : List HandoffEvent :=
  [.arrive (.exchange requestA), .arrive (.exchange requestB), .acquire 0 .running, .write 5,
    .flush, .answer ⟨[], by decide⟩, .read 5, .drop 0, .acquire 1 .running, .write 5, .flush,
    .answer ⟨[12], by decide⟩]

/-- The second exchange gets the answer to the first one's request, and exchanges go on after
one was given up. -/
theorem exchanges_mispaired :
    let s := run (next plainWire) start abandonedMidway
    let t := run (next plainWire) start abandonedFault
    (s.broken = true ∧ (s.next plainWire (.read 5)).returned = [(1, requestB, [11])] ∧
      ¬s.Pairs plainWire ∧ ¬(s.next plainWire (.read 5)).Pairs plainWire) ∧
    (t.broken = true ∧ t.returned = [(0, requestA, [])] ∧
      (t.next plainWire (.read 5)).returned = [(1, requestB, [12]), (0, requestA, [])] ∧
      ¬t.Pairs plainWire) := by
  refine ⟨⟨by decide +kernel, by decide +kernel, fun pairs => ?_, fun pairs => ?_⟩,
    ⟨by decide +kernel, by decide +kernel, by decide +kernel, fun pairs => ?_⟩⟩
  · exact absurd (pairs.last (by decide +kernel) (.read 5)) (by decide +kernel)
  · obtain ⟨response, place, -⟩ := pairs.own (1, requestB, [11]) (by decide +kernel)
    cases place
  · exact absurd (pairs.last (by decide +kernel) (.read 5)) (by decide +kernel)

end Gateway.Agent.Handoff
