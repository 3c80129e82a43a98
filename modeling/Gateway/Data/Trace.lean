import Gateway.Data.Discipline

/-! Programs whose calls may be answered in any way.

Where nothing is known of the world, a run of a program is the list of the calls it made with
the answers it got. What a discipline that only takes notes lets a program come to, every such
run comes to. -/
namespace Gateway.Data

variable {Call : Type} {Reply : Call → Type} {α : Type}

/-- A call and its answer. -/
abbrev Answered (Call : Type) (Reply : Call → Type) : Type :=
  (c : Call) × Reply c

/-- A world that is not looked at: every answer is up to fate. -/
def Host.free (Reply : Call → Type) : Host Call Reply Unit ((c : Call) → Reply c) where
  perform _ _ c fate := (fate c, ())
  ready _ _ _ := true

/-- Every call is permitted, and is noted with its answer. -/
def Discipline.noting (Reply : Call → Type) :
    Discipline (Host.free Reply) Unit (List (Answered Call Reply)) where
  Inv _ := True
  Knows _ _ _ _ := True
  Permits _ _ _ := True
  after noted c answer := noted ++ [⟨c, answer⟩]
  own _ _ _ _ _ := ⟨trivial, trivial⟩
  others _ _ _ _ _ _ _ := trivial

namespace Program

/-- A run of a program: its calls with their answers, in order, and its result. -/
inductive Comes : Program Call Reply α → List (Answered Call Reply) → α → Prop where
  | done (a : α) : Comes (.done a) [] a
  | call {c : Call} {next : Reply c → Program Call Reply α} {answer : Reply c}
      {trace : List (Answered Call Reply)} {a : α} (rest : Comes (next answer) trace a) :
      Comes (.call c next) (⟨c, answer⟩ :: trace) a

/-- What is accepted after every course of notes holds of every run. -/
theorem Obeys.comes {p : Program Call Reply α} {accepts : List (Answered Call Reply) → α → Prop}
    {noted trace : List (Answered Call Reply)} {a : α}
    (h : p.Obeys (Discipline.noting Reply) () accepts noted) (run : p.Comes trace a) :
    accepts (noted ++ trace) a := by
  induction run generalizing noted with
  | done a =>
    rw [List.append_nil]
    exact h
  | @call c next answer trace a _ ih =>
    have rest := ih (h.2 answer)
    rwa [show (Discipline.noting Reply).after noted c answer = noted ++ [⟨c, answer⟩] from rfl,
      List.append_assoc] at rest

end Program

end Gateway.Data
