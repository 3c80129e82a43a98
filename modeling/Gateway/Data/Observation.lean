/-! What a caller can tell two states apart by.

A system answers a question and goes on in another state. Two states that are alike give the same
answers to the same questions, as long as every question keeps them alike; where one question does
not, it tells them apart. -/
namespace Gateway.Data.Observation
variable {S Q A : Type}

/-- The answers to questions asked one after the other. -/
def answers (ask : S → Q → A × S) : S → List Q → List A
  | _, [] => []
  | s, question :: rest => (ask s question).1 :: answers ask (ask s question).2 rest

/-- Alike states are told apart exactly by a question that is not harmless. -/
theorem answers_eq_iff {ask : S → Q → A × S} {Alike : S → S → Prop} {harmless : Q → Prop}
    (same : ∀ s s' question, Alike s s' → harmless question →
      (ask s question).1 = (ask s' question).1 ∧ Alike (ask s question).2 (ask s' question).2)
    (tells : ∀ s s' question, Alike s s' → ¬harmless question →
      (ask s question).1 ≠ (ask s' question).1)
    {s s' : S} (alike : Alike s s') (questions : List Q) :
    answers ask s questions = answers ask s' questions ↔ ∀ question ∈ questions, harmless question := by
  induction questions generalizing s s' with
  | nil => exact ⟨fun _ _ among => (by cases among), fun _ => rfl⟩
  | cons question rest ih =>
    rw [answers, answers, List.cons.injEq, List.forall_mem_cons]
    constructor
    · rintro ⟨first, later⟩
      have fine : harmless question := Classical.byContradiction fun harm =>
        tells s s' question alike harm first
      exact ⟨fine, (ih (same s s' question alike fine).2).mp later⟩
    · rintro ⟨fine, later⟩
      obtain ⟨first, still⟩ := same s s' question alike fine
      exact ⟨first, (ih still).mpr later⟩

/-- Alike states give the same answers where every question keeps them alike. -/
theorem answers_eq {ask : S → Q → A × S} {Alike : S → S → Prop}
    (same : ∀ s s' question, Alike s s' →
      (ask s question).1 = (ask s' question).1 ∧ Alike (ask s question).2 (ask s' question).2)
    {s s' : S} (alike : Alike s s') (questions : List Q) :
    answers ask s questions = answers ask s' questions := by
  have always : ∀ s s' question, Alike s s' → True →
      (ask s question).1 = (ask s' question).1 ∧ Alike (ask s question).2 (ask s' question).2 :=
    fun s s' question alike _ => same s s' question alike
  exact (answers_eq_iff always (fun _ _ _ _ harm => absurd trivial harm) alike questions).mpr
    fun _ _ => trivial

end Gateway.Data.Observation
