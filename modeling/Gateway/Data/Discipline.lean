import Gateway.Data.Program

/-! Programs that follow rules of their own.

A caller is in a stage, which its calls and their answers alone determine. A discipline says
which calls a stage permits and what a caller in it knows of the world. Knowledge outlives the
calls of others; a program that makes only permitted calls comes to a result that its last stage
accepts. -/
namespace Gateway.Data

variable {Call : Type} {Reply : Call → Type} {World Fate Job Stage α β ε : Type}

structure Discipline (host : Host Call Reply World Fate) (Job Stage : Type) where
  Inv : World → Prop
  Knows : Nat → Job → Stage → World → Prop
  Permits : Job → Stage → Call → Prop
  after : Stage → (c : Call) → Reply c → Stage
  own : ∀ {w me job stage c} (fate : Fate), Inv w → Knows me job stage w → Permits job stage c →
    host.ready w me c = true → Inv (host.perform w me c fate).2 ∧
      Knows me job (after stage c (host.perform w me c fate).1) (host.perform w me c fate).2
  others : ∀ {w me job stage c other job' stage'} (fate : Fate), Inv w → Knows me job stage w →
    Permits job stage c → host.ready w me c = true → other ≠ me → Knows other job' stage' w →
      Knows other job' stage' (host.perform w me c fate).2

namespace Program
variable {host : Host Call Reply World Fate} (discipline : Discipline host Job Stage) (job : Job)

/-- From this stage on a program makes permitted calls, and its result is accepted. -/
def Obeys : Program Call Reply α → (Stage → α → Prop) → Stage → Prop
  | .done a, accepts, stage => accepts stage a
  | .call c next, accepts, stage => discipline.Permits job stage c ∧
    ∀ reply, (next reply).Obeys accepts (discipline.after stage c reply)

variable {discipline job} {p : Program Call Reply α} {accepts : Stage → α → Prop} {stage : Stage}

theorem Obeys.mono {accepts' : Stage → α → Prop} (h : p.Obeys discipline job accepts stage)
    (weaker : ∀ stage a, accepts stage a → accepts' stage a) :
    p.Obeys discipline job accepts' stage := by
  induction p generalizing stage with
  | done a => exact weaker stage a h
  | call c next ih => exact ⟨h.1, fun reply => ih reply (h.2 reply)⟩

theorem Obeys.bind {f : α → Program Call Reply β} {accepts' : Stage → β → Prop}
    (h : p.Obeys discipline job (fun stage a => (f a).Obeys discipline job accepts' stage) stage) :
    (p >>= f).Obeys discipline job accepts' stage := by
  induction p generalizing stage with
  | done a => exact h
  | call c next ih => exact ⟨h.1, fun reply => ih reply (h.2 reply)⟩

/-- What is done after a success; a failure stays. -/
theorem obeys_bind_fallible {m : ExceptT ε (Program Call Reply) α}
    {f : α → ExceptT ε (Program Call Reply) β} {accepts : Stage → Except ε β → Prop}
    (h : m.run.Obeys discipline job (fun stage answer =>
      match answer with
      | .ok a => (f a).run.Obeys discipline job accepts stage
      | .error e => accepts stage (.error e)) stage) :
    (m >>= f).run.Obeys discipline job accepts stage := by
  refine Obeys.bind (h.mono fun stage answer reached => ?_)
  cases answer with
  | ok a => exact reached
  | error e => exact reached

section Fallible
variable {f : α → ExceptT ε (Program Call Reply) β} {accepts' : Stage → Except ε β → Prop}

/-- A call whose answer is taken as it is. -/
theorem obeys_reply {c : Call} {f : Reply c → ExceptT ε (Program Call Reply) β}
    (permitted : discipline.Permits job stage c)
    (next : ∀ answer, (f answer).run.Obeys discipline job accepts'
      (discipline.after stage c answer)) :
    (ExceptT.mk (do
      let answer ← ask c
      return .ok answer) >>= f).run.Obeys discipline job accepts' stage :=
  obeys_bind_fallible ⟨permitted, next⟩

/-- What was computed before, and what is done after it. -/
theorem obeys_result {result : Except ε α}
    (ok : ∀ a, result = .ok a → (f a).run.Obeys discipline job accepts' stage)
    (fails : ∀ e, result = .error e → accepts' stage (.error e)) :
    ((ExceptT.mk (pure result) : ExceptT ε (Program Call Reply) α) >>= f).run.Obeys discipline job
      accepts' stage := by
  cases result with
  | ok a => exact ok a rfl
  | error e => exact fails e rfl

/-- What is done after a task that keeps a stage in some way. -/
theorem obeys_then {m : ExceptT ε (Program Call Reply) α} {middle : Stage → Except ε α → Prop}
    (first : m.run.Obeys discipline job middle stage)
    (ok : ∀ stage' a, middle stage' (.ok a) → (f a).run.Obeys discipline job accepts' stage')
    (fails : ∀ stage' e, middle stage' (.error e) → accepts' stage' (.error e)) :
    (m >>= f).run.Obeys discipline job accepts' stage := by
  refine obeys_bind_fallible (first.mono fun stage' answer reached => ?_)
  cases answer with
  | ok a => exact ok stage' a reached
  | error e => exact fails stage' e reached

end Fallible

end Program

namespace Pool
open Program

variable {host : Host Call Reply World Fate} (discipline : Discipline host Job Stage)
  (first : Stage) (accepts : Job → Stage → α → Prop)

/-- Every job is in a stage from which it obeys; a place not taken yet is in the first one. -/
structure Orderly (pool : Pool Call Reply World Job α) : Prop where
  inv : discipline.Inv pool.world
  fresh : ∀ i job, pool.tasks.length ≤ i → discipline.Knows i job first pool.world
  tasks : ∀ (i : Nat) (job : Job) (p : Program Call Reply α), pool.tasks[i]? = some (job, p) →
    ∃ stage, discipline.Knows i job stage pool.world ∧ p.Obeys discipline job (accepts job) stage

variable {discipline first accepts} {program : Job → Program Call Reply α}
  {pool : Pool Call Reply World Job α}

theorem orderly_start {w : World} (inv : discipline.Inv w)
    (fresh : ∀ i job, discipline.Knows i job first w) :
    Orderly discipline first accepts (start w : Pool Call Reply World Job α) :=
  ⟨inv, fun i job _ => fresh i job, fun _ _ _ found => (by cases found)⟩

theorem Orderly.next (h : Orderly discipline first accepts pool)
    (jobs : ∀ job, (program job).Obeys discipline job (accepts job) first)
    (event : Event Job Fate) : Orderly discipline first accepts (pool.next host program event) := by
  cases event with
  | start job =>
    refine ⟨h.inv, fun i other beyond => ?_, fun i other p found => ?_⟩
    · rw [Pool.next, List.length_append] at beyond
      exact h.fresh i other (Nat.le_of_succ_le beyond)
    · rcases Nat.lt_trichotomy i pool.tasks.length with old | rfl | beyond
      · rw [Pool.next, List.getElem?_append_left old] at found
        exact h.tasks i other p found
      · rw [Pool.next, List.getElem?_concat_length] at found
        cases found
        exact ⟨first, h.fresh _ _ (Nat.le_refl _), jobs job⟩
      · rw [Pool.next, List.getElem?_eq_none (by rw [List.length_append]; exact beyond)] at found
        cases found
  | step task fate =>
    unfold Pool.next
    dsimp only
    split
    · next job c after found =>
      split
      · next ready =>
        obtain ⟨stage, knows, permitted, rest⟩ := h.tasks task job _ found
        obtain ⟨inv, known⟩ := discipline.own fate h.inv knows permitted ready
        have bound : task < pool.tasks.length := (List.getElem?_eq_some_iff.mp found).1
        refine ⟨inv, fun i other beyond => ?_, fun i other p there => ?_⟩
        · rw [List.length_set] at beyond
          exact discipline.others fate h.inv knows permitted ready
            (Nat.ne_of_gt (Nat.lt_of_lt_of_le bound beyond)) (h.fresh i other beyond)
        · by_cases same : task = i
          · subst same
            rw [List.getElem?_set_self bound] at there
            cases there
            exact ⟨_, known, rest _⟩
          · rw [List.getElem?_set_ne same] at there
            obtain ⟨stage', knows', obeys⟩ := h.tasks i other p there
            exact ⟨stage', discipline.others fate h.inv knows permitted ready (Ne.symm same) knows',
              obeys⟩
      · exact h
    · exact h

theorem Orderly.run (h : Orderly discipline first accepts pool)
    (jobs : ∀ job, (program job).Obeys discipline job (accepts job) first)
    (events : List (Event Job Fate)) :
    Orderly discipline first accepts (Machine.run (Pool.next host program) pool events) := by
  induction events generalizing pool with
  | nil => exact h
  | cons event rest ih => exact ih (h.next jobs event)

/-- A finished job has been accepted in a stage whose knowledge still holds. -/
theorem Orderly.finished (h : Orderly discipline first accepts pool) {i : Nat} {job : Job} {a : α}
    (found : pool.tasks[i]? = some (job, .done a)) :
    ∃ stage, discipline.Knows i job stage pool.world ∧ accepts job stage a :=
  h.tasks i job _ found

end Pool

end Gateway.Data
