import Mathlib.Logic.Basic

/-! Computations that change a state and may fail.

A failure keeps what was changed before it. A triple says in which states a computation that is
started in a given one can end: well, with a value, or in failure. -/
namespace Gateway.Data

abbrev Fallible (ε σ : Type) := ExceptT ε (StateM σ)

namespace Fallible
variable {ε σ α β : Type}

/-- A value is come to in a state of `Q`, a failure in a state of `E`. -/
def Ends (Q : α → σ → Prop) (E : σ → Prop) : Except ε α × σ → Prop
  | (.ok a, s) => Q a s
  | (.error _, s) => E s

def Triple (P : σ → Prop) (m : Fallible ε σ α) (Q : α → σ → Prop) (E : σ → Prop) : Prop :=
  ∀ s, P s → Ends Q E (m.run.run s)

namespace Triple
variable {P P' : σ → Prop} {Q : α → σ → Prop} {R : β → σ → Prop} {E : σ → Prop}
  {m : Fallible ε σ α}

theorem pure {a : α} (h : ∀ s, P s → Q a s) : Triple P (Pure.pure a : Fallible ε σ α) Q E := h

theorem before (h : Triple P' m Q E) (weaker : ∀ s, P s → P' s) : Triple P m Q E :=
  fun s start => h s (weaker s start)

theorem after {Q' : α → σ → Prop} {E' : σ → Prop} (h : Triple P m Q E)
    (ok : ∀ a s, Q a s → Q' a s) (failed : ∀ s, E s → E' s) : Triple P m Q' E' := by
  intro s start
  have ends := h s start
  match reached : m.run.run s with
  | (.ok a, s') =>
    rw [reached] at ends
    exact ok a s' ends
  | (.error _, s') =>
    rw [reached] at ends
    exact failed s' ends

/-- A fact that is none of the state may be used throughout. -/
theorem given {F : Prop} (h : F → Triple P m Q E) : Triple (fun s => P s ∧ F) m Q E :=
  fun s start => h start.2 s start.1

theorem bind {f : α → Fallible ε σ β} (first : Triple P m Q E)
    (second : ∀ a, Triple (Q a) (f a) R E) : Triple P (m >>= f) R E := by
  intro s start
  have ends := first s start
  rw [ExceptT.run_bind, StateT.run_bind]
  match reached : m.run.run s with
  | (.ok a, s') =>
    rw [reached] at ends
    exact second a s' ends
  | (.error _, s') =>
    rw [reached] at ends
    exact ends

theorem map {f : α → β} (h : Triple P m (fun a => R (f a)) E) : Triple P (f <$> m) R E := by
  exact h.bind fun _ => Triple.pure fun _ reached => reached

/-- A loop that collects: the invariant is of the items done and the values collected. -/
theorem mapM {f : α → Fallible ε σ β} {items : List α} {I : List α → List β → σ → Prop}
    (step : ∀ done item rest, items = done ++ item :: rest → ∀ values,
      Triple (I done values) (f item) (fun b => I (done ++ [item]) (values ++ [b])) E) :
    Triple (I [] []) (items.mapM f) (I items) E := by
  suffices all : ∀ rest done values, items = done ++ rest →
      Triple (I done values) (rest.mapM f) (fun bs => I items (values ++ bs)) E by
    exact (all items [] [] rfl).after (fun _ _ h => h) fun _ h => h
  intro rest
  induction rest with
  | nil =>
    intro done values is
    rw [List.append_nil] at is
    subst is
    rw [List.mapM_nil]
    refine Triple.pure fun s h => ?_
    rwa [List.append_nil]
  | cons item rest ih =>
    intro done values is
    rw [List.mapM_cons]
    refine (step done item rest is values).bind fun b => ?_
    have others := ih (done ++ [item]) (values ++ [b]) (by rw [is, List.append_assoc]; rfl)
    refine others.bind fun bs => Triple.pure fun s h => ?_
    rwa [List.append_assoc] at h

/-- A loop with an accumulator. -/
theorem foldlM {f : β → α → Fallible ε σ β} {items : List α} {start : β}
    {I : List α → β → σ → Prop}
    (step : ∀ done item rest, items = done ++ item :: rest → ∀ acc,
      Triple (I done acc) (f acc item) (I (done ++ [item])) E) :
    Triple (I [] start) (items.foldlM f start) (I items) E := by
  suffices all : ∀ rest done acc, items = done ++ rest →
      Triple (I done acc) (rest.foldlM f acc) (I items) E from all items [] start rfl
  intro rest
  induction rest with
  | nil =>
    intro done acc is
    rw [List.append_nil] at is
    subst is
    exact Triple.pure fun _ h => h
  | cons item rest ih =>
    intro done acc is
    exact (step done item rest is acc).bind fun acc' =>
      ih (done ++ [item]) acc' (by rw [is, List.append_assoc]; rfl)

end Triple

end Fallible

end Gateway.Data
