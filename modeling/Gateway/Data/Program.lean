import Gateway.Data.Machine

/-! Programs that share a world, one call at a time.

A program is a tree of calls, each with what is done with its answer. In a pool any number of
programs take their calls in any order, and each call meets a fate of its own. -/
namespace Gateway.Data

/-- A result, or a call and what is done with its answer. -/
inductive Program (Call : Type) (Reply : Call → Type) (α : Type) where
  | done (a : α)
  | call (c : Call) (next : Reply c → Program Call Reply α)

/-- What the world makes of a caller's call, given what fate adds to it, and whether the call
has to wait. -/
structure Host (Call : Type) (Reply : Call → Type) (World Fate : Type) where
  perform : World → Nat → (c : Call) → Fate → Reply c × World
  ready : World → Nat → Call → Bool

namespace Program
variable {Call : Type} {Reply : Call → Type} {α β : Type}

def bind : Program Call Reply α → (α → Program Call Reply β) → Program Call Reply β
  | .done a, f => f a
  | .call c next, f => .call c fun reply => (next reply).bind f

instance : Monad (Program Call Reply) where
  pure := .done
  bind := .bind

def result? : Program Call Reply α → Option α
  | .done a => some a
  | .call _ _ => none

/-- One call, whose answer is the result. -/
def ask (c : Call) : Program Call Reply (Reply c) :=
  .call c .done

end Program

/-! ### Pools -/

section Pool
variable {Call : Type} {Reply : Call → Type} {World Fate Job α : Type}

/-- The jobs that have been started, each with what is left of its program. -/
structure Pool (Call : Type) (Reply : Call → Type) (World Job α : Type) where
  world : World
  tasks : List (Job × Program Call Reply α)

inductive Pool.Event (Job Fate : Type) where
  | start (job : Job)
  | step (task : Nat) (fate : Fate)

namespace Pool
open Program

-- A job calls under its place in the pool, which no other job has.
variable (host : Host Call Reply World Fate) (program : Job → Program Call Reply α)

/-- A job starts, or one of those under way takes its next call if that need not wait. -/
def next (pool : Pool Call Reply World Job α) : Event Job Fate → Pool Call Reply World Job α
  | .start job => {pool with tasks := pool.tasks ++ [(job, program job)]}
  | .step task fate =>
    match pool.tasks[task]? with
    | some (job, .call c after) =>
      if host.ready pool.world task c then
        let answer := host.perform pool.world task c fate
        ⟨answer.2, pool.tasks.set task (job, after answer.1)⟩
      else pool
    | _ => pool

def start (w : World) : Pool Call Reply World Job α :=
  ⟨w, []⟩

/-- The result of a finished job. -/
def result? (pool : Pool Call Reply World Job α) (i : Nat) : Option α :=
  pool.tasks[i]?.bind fun task => task.2.result?

variable {pool : Pool Call Reply World Job α}

theorem finished_of_result? {i : Nat} {a : α} (is : pool.result? i = some a) :
    ∃ job, pool.tasks[i]? = some (job, .done a) := by
  obtain ⟨⟨job, p⟩, found, is⟩ := Option.bind_eq_some_iff.mp is
  cases p with
  | done b =>
    cases is
    exact ⟨job, found⟩
  | call c next => cases is

variable {host program}

/-- A job that an event finishes takes its last call in it, unless it makes none at all. -/
theorem next_finishes {event : Event Job Fate} {i : Nat} {job : Job} {a : α}
    (before : pool.tasks[i]? ≠ some (job, .done a))
    (now : (pool.next host program event).tasks[i]? = some (job, .done a)) :
    program job = .done a ∨ ∃ c after fate, pool.tasks[i]? = some (job, .call c after) ∧
      after (host.perform pool.world i c fate).1 = .done a := by
  cases event with
  | start other =>
    rcases Nat.lt_trichotomy i pool.tasks.length with old | rfl | beyond
    · rw [Pool.next, List.getElem?_append_left old] at now
      exact absurd now before
    · rw [Pool.next, List.getElem?_concat_length] at now
      obtain ⟨rfl, is⟩ := Prod.mk.inj (Option.some.inj now)
      exact .inl is
    · rw [Pool.next, List.getElem?_eq_none (by rw [List.length_append]; exact beyond)] at now
      cases now
  | step task fate =>
    unfold Pool.next at now
    dsimp only at now
    split at now
    · next other c after found =>
      split at now
      · have bound : task < pool.tasks.length := (List.getElem?_eq_some_iff.mp found).1
        by_cases same : task = i
        · subst same
          rw [List.getElem?_set_self bound] at now
          obtain ⟨rfl, done⟩ := Prod.mk.inj (Option.some.inj now)
          exact .inr ⟨c, after, fate, found, done⟩
        · rw [List.getElem?_set_ne same] at now
          exact absurd now before
      · exact absurd now before
    · exact absurd now before

/-- Two hosts that agree on the call an event takes agree on the event. -/
theorem next_congr {host' : Host Call Reply World Fate} {event : Event Job Fate}
    (same : ∀ task fate job c after, event = .step task fate →
      pool.tasks[task]? = some (job, .call c after) →
      host.ready pool.world task c = host'.ready pool.world task c ∧
        host.perform pool.world task c fate = host'.perform pool.world task c fate) :
    pool.next host program event = pool.next host' program event := by
  cases event with
  | start job => rfl
  | step task fate =>
    unfold Pool.next
    dsimp only
    split
    · next job c after found =>
      obtain ⟨ready, perform⟩ := same task fate job c after rfl found
      rw [ready, perform]
    · rfl

end Pool

end Pool

end Gateway.Data
