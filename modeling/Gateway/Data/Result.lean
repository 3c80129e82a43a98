import Mathlib.Logic.Basic

/-! Peeling computations that may fail. -/
namespace Gateway.Data.Result
variable {ε α β : Type}

@[simp] theorem ok_bind (a : α) (f : α → Except ε β) : (Except.ok a >>= f) = f a := rfl

variable {x : Except ε α} {f : α → Except ε β} {xs : List α}

/-- A sequence succeeds exactly when both parts do. -/
theorem bind_eq_ok {b : β} : (x >>= f) = .ok b ↔ ∃ a, x = .ok a ∧ f a = .ok b := by
  cases x with
  | error e =>
    constructor
    · intro h
      cases h
    · rintro ⟨a, h, -⟩
      cases h
  | ok a =>
    constructor
    · intro h
      exact ⟨a, rfl, h⟩
    · rintro ⟨a', h, hf⟩
      cases h
      exact hf

theorem map_eq_ok {f : α → β} {b : β} : x.map f = .ok b ↔ ∃ a, x = .ok a ∧ f a = b := by
  cases x <;> simp [Except.map]

@[simp] theorem mapError_ok {δ : Type} {f : ε → δ} {a : α} :
    (Except.ok a : Except ε α).mapError f = .ok a := rfl

@[simp] theorem mapError_error {δ : Type} {f : ε → δ} {e : ε} :
    (Except.error e : Except ε α).mapError f = .error (f e) := rfl

theorem mapError_eq_ok {δ : Type} {f : ε → δ} {a : α} : x.mapError f = .ok a ↔ x = .ok a := by
  cases x <;> simp

/-- A guarded computation succeeds only past its guard. -/
theorem guard_eq_ok {p : Prop} [Decidable p] {e : ε} {a : α} :
    (if p then .error e else x) = .ok a ↔ ¬p ∧ x = .ok a := by
  by_cases h : p <;> simp [h]

theorem exists_of_isOk (ok : x.isOk = true) : ∃ a, x = .ok a := by
  cases x with
  | error e => cases ok
  | ok a => exact ⟨a, rfl⟩

/-- A list of computations that all succeed. -/
theorem mapM_eq_ok (h : ∀ a ∈ xs, ∃ b, f a = .ok b) :
    xs.mapM f = .ok (xs.filterMap fun a => (f a).toOption) := by
  induction xs with
  | nil => rfl
  | cons a rest ih =>
    obtain ⟨b, hb⟩ := h a List.mem_cons_self
    rw [List.mapM_cons, hb, ih fun c mem => h c (List.mem_cons_of_mem _ mem),
      List.filterMap_cons_some (b := b) (by rw [hb]; rfl)]
    rfl

/-- The results of a list of computations that all succeeded. -/
theorem of_mapM_eq_ok {ys : List β} (h : xs.mapM f = .ok ys) :
    ys.length = xs.length ∧ (∀ a ∈ xs, ∃ b, f a = .ok b) ∧ ∀ b ∈ ys, ∃ a ∈ xs, f a = .ok b := by
  induction xs generalizing ys with
  | nil =>
    cases h
    exact ⟨rfl, fun _ mem => (by cases mem), fun _ mem => (by cases mem)⟩
  | cons a rest ih =>
    rw [List.mapM_cons, bind_eq_ok] at h
    obtain ⟨b, first, h⟩ := h
    rw [bind_eq_ok] at h
    obtain ⟨others, later, same⟩ := h
    cases same
    obtain ⟨length, given, made⟩ := ih later
    refine ⟨by rw [List.length_cons, List.length_cons, length], ?_, ?_⟩
    · rw [List.forall_mem_cons]
      exact ⟨⟨b, first⟩, given⟩
    · rw [List.forall_mem_cons]
      refine ⟨⟨a, List.mem_cons_self, first⟩, fun c mem => ?_⟩
      obtain ⟨x, later, eq⟩ := made c mem
      exact ⟨x, List.mem_cons_of_mem _ later, eq⟩

/-- A list of computations fails as one of them does. -/
theorem of_mapM_eq_error {e : ε} (h : xs.mapM f = .error e) : ∃ a ∈ xs, f a = .error e := by
  induction xs with
  | nil => cases h
  | cons x rest ih =>
    rw [List.mapM_cons] at h
    cases first : f x with
    | error refused =>
      rw [first] at h
      cases h
      exact ⟨x, List.mem_cons_self, first⟩
    | ok b =>
      cases later : rest.mapM f with
      | error refused =>
        rw [first, later] at h
        cases h
        obtain ⟨a, mem, failed⟩ := ih later
        exact ⟨a, List.mem_cons_of_mem _ mem, failed⟩
      | ok others =>
        rw [first, later] at h
        cases h

/-- Each result stands where its computation does. -/
theorem get_of_mapM {ys : List β} (h : xs.mapM f = .ok ys) {i : Nat} {a : α} (at_ : xs[i]? = some a) :
    ∃ b, ys[i]? = some b ∧ f a = .ok b := by
  induction xs generalizing ys i with
  | nil => cases at_
  | cons x rest ih =>
    rw [List.mapM_cons, bind_eq_ok] at h
    obtain ⟨b, first, h⟩ := h
    rw [bind_eq_ok] at h
    obtain ⟨others, later, same⟩ := h
    cases same
    cases i with
    | zero =>
      cases at_
      exact ⟨b, rfl, first⟩
    | succ i => exact ih later at_

end Gateway.Data.Result
