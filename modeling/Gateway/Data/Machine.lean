import Mathlib.Logic.Basic

/-! Runs of a deterministic machine.

A machine is a function from a state and an event to the next state. An invariant
is proved for one step and holds along every run; when a step keeps it only under
a condition on the event and the state before it, it holds along every run whose
events meet that condition. -/
namespace Gateway.Data.Machine
variable {S E : Type} (next : S → E → S)

/-- The state after a list of events. -/
def run (s : S) (events : List E) : S :=
  events.foldl next s

/-- Every event meets `ok` in the state it is applied to. -/
def Meets (ok : S → E → Prop) : S → List E → Prop
  | _, [] => True
  | s, e :: rest => ok s e ∧ Meets ok (next s e) rest

instance Meets.decidable (ok : S → E → Prop) [∀ s e, Decidable (ok s e)] :
    ∀ (s : S) (events : List E), Decidable (Meets next ok s events)
  | _, [] => inferInstanceAs (Decidable True)
  | s, e :: rest =>
    have := Meets.decidable ok (next s e) rest
    inferInstanceAs (Decidable (ok s e ∧ Meets next ok (next s e) rest))

variable {next}

@[simp]
theorem run_nil (s : S) : run next s [] = s := rfl

@[simp]
theorem run_cons (s : S) (e : E) (rest : List E) : run next s (e :: rest) = run next (next s e) rest :=
  rfl

theorem run_append (s : S) (first second : List E) :
    run next s (first ++ second) = run next (run next s first) second :=
  List.foldl_append

variable {ok : S → E → Prop} {s : S} {events : List E}

theorem run_of_fixed (fixed : ∀ e, next s e = s) : run next s events = s := by
  induction events with
  | nil => rfl
  | cons e rest ih => rw [run_cons, fixed e, ih]

/-- What every conditioned step keeps, every conditioned run keeps. -/
theorem run_invariant {Inv : S → Prop} (step : ∀ s e, Inv s → ok s e → Inv (next s e))
    (start : Inv s) (meets : Meets next ok s events) : Inv (run next s events) := by
  induction events generalizing s with
  | nil => exact start
  | cons e rest ih => exact ih (step s e start meets.1) meets.2

/-- Two machines that agree on every conditioned step agree on every conditioned run. -/
theorem run_eq_of_meets {next' : S → E → S} (same : ∀ s e, ok s e → next s e = next' s e)
    (meets : Meets next ok s events) : run next s events = run next' s events := by
  induction events generalizing s with
  | nil => rfl
  | cons e rest ih => rw [run_cons, run_cons, ih meets.2, same s e meets.1]

theorem meets_of_forall (always : ∀ s e, ok s e) (events : List E) : Meets next ok s events := by
  induction events generalizing s with
  | nil => trivial
  | cons e rest ih => exact ⟨always s e, ih⟩

/-- A condition on events alone. -/
theorem meets_of_mem {ok : E → Prop} (each : ∀ e ∈ events, ok e) :
    Meets next (fun _ e => ok e) s events := by
  induction events generalizing s with
  | nil => trivial
  | cons e rest ih =>
    exact ⟨each e List.mem_cons_self, ih fun later among => each later (List.mem_cons_of_mem e among)⟩

theorem Meets.mono {ok' : S → E → Prop} (weaker : ∀ s e, ok s e → ok' s e)
    (h : Meets next ok s events) : Meets next ok' s events := by
  induction events generalizing s with
  | nil => trivial
  | cons e rest ih => exact ⟨weaker s e h.1, ih h.2⟩

theorem Meets.and {ok' : S → E → Prop} (h : Meets next ok s events) (h' : Meets next ok' s events) :
    Meets next (fun s e => ok s e ∧ ok' s e) s events := by
  induction events generalizing s with
  | nil => trivial
  | cons e rest ih => exact ⟨⟨h.1, h'.1⟩, ih h.2 h'.2⟩

theorem Meets.of_append {first second : List E} (h : Meets next ok s (first ++ second)) :
    Meets next ok s first ∧ Meets next ok (run next s first) second := by
  induction first generalizing s with
  | nil => exact ⟨trivial, h⟩
  | cons e rest ih => exact ⟨⟨h.1, (ih h.2).1⟩, (ih h.2).2⟩

end Gateway.Data.Machine
