import Gateway.Data.Fallible

/-! Readers of bytes.

A reader moves a cursor over the bytes it is given and fails where they are not what it
expects. A grammar says which bytes stand for a value. -/
namespace Gateway.Data

abbrev Reader (ε : Type) := Fallible ε Nat

def Bytes (n : Nat) := { bytes : List UInt8 // bytes.length = n }

/-- A reader stays inside the bytes, whatever comes of it, and accepts, wherever it is started,
just what its grammar allows, which it has then passed. -/
structure Parses {ε α : Type} (bytes : List UInt8) (reader : Reader ε α)
    (grammar : α → List UInt8 → Prop) : Prop where
  inside : Fallible.Triple (· ≤ bytes.length) reader (fun _ => (· ≤ bytes.length))
    (· ≤ bytes.length)
  accepts : ∀ before rest, bytes = before ++ rest → ∀ a cursor,
    reader.run.run before.length = (.ok a, cursor) ↔
      ∃ code after, rest = code ++ after ∧ grammar a code ∧ cursor = (before ++ code).length

/-- The codes of a list of values, one after the other. -/
def Each {α : Type} (grammar : α → List UInt8 → Prop) : List α → List UInt8 → Prop
  | [], code => code = []
  | a :: as, code => ∃ front back, code = front ++ back ∧ grammar a front ∧ Each grammar as back

/-- The next `n` bytes. -/
def Reader.take {ε : Type} (bytes : List UInt8) (e : ε) (n : Nat) : Reader ε (Bytes n) :=
  fun cursor =>
    if inside : cursor + n ≤ bytes.length then
      (.ok ⟨(bytes.drop cursor).take n, by simp; omega⟩, cursor + n)
    else (.error e, cursor)

namespace Parses
variable {ε α β ι : Type} {bytes : List UInt8} {reader : Reader ε α}
  {G G' : α → List UInt8 → Prop}

theorem congr (h : Parses bytes reader G) (same : ∀ a code, G a code ↔ G' a code) :
    Parses bytes reader G' := by
  rwa [← show G = G' from funext fun a => funext fun code => propext (same a code)]

theorem throw (e : ε) : Parses bytes (throw e : Reader ε α) fun _ _ => False where
  inside _ h := h
  accepts before rest _ a cursor := by
    constructor
    · intro h
      cases h
    · rintro ⟨_, _, _, none, _⟩
      exact none.elim

theorem pure (a : α) : Parses bytes (pure a : Reader ε α) fun b code => b = a ∧ code = [] where
  inside _ h := h
  accepts before rest _ b cursor := by
    constructor
    · intro h
      cases h
      exact ⟨[], rest, rfl, ⟨rfl, rfl⟩, by rw [List.append_nil]⟩
    · rintro ⟨_, _, _, ⟨rfl, rfl⟩, rfl⟩
      rw [List.append_nil]
      rfl

theorem bind {f : α → Reader ε β} {H : α → β → List UInt8 → Prop} (first : Parses bytes reader G)
    (second : ∀ a, Parses bytes (f a) (H a)) :
    Parses bytes (reader >>= f) fun b code =>
      ∃ a front back, code = front ++ back ∧ G a front ∧ H a b back where
  inside := first.inside.bind fun a => (second a).inside
  accepts before rest is b cursor := by
    rw [ExceptT.run_bind, StateT.run_bind]
    constructor
    · intro h
      match reached : reader.run.run before.length with
      | (.error _, _) =>
        rw [reached] at h
        cases h
      | (.ok a, _) =>
        rw [reached] at h
        obtain ⟨front, _, rfl, allowed, rfl⟩ := (first.accepts _ _ is _ _).mp reached
        rw [← List.append_assoc] at is
        obtain ⟨back, after, rfl, next, rfl⟩ := ((second a).accepts _ _ is _ _).mp h
        refine ⟨front ++ back, after, ?_, ⟨a, front, back, rfl, allowed, next⟩, ?_⟩
        · rw [List.append_assoc]
        · rw [List.append_assoc]
    · rintro ⟨_, after, rfl, ⟨a, front, back, rfl, allowed, next⟩, rfl⟩
      rw [List.append_assoc] at is
      rw [(first.accepts _ _ is a _).mpr ⟨front, back ++ after, rfl, allowed, rfl⟩]
      rw [← List.append_assoc] at is
      refine ((second a).accepts _ _ is b _).mpr ⟨back, after, rfl, next, ?_⟩
      rw [List.append_assoc]

theorem map (h : Parses bytes reader G) (f : α → β) :
    Parses bytes (f <$> reader) fun b code => ∃ a, G a code ∧ b = f a := by
  refine (h.bind fun a => Parses.pure (f a)).congr fun b code => ?_
  constructor
  · rintro ⟨a, front, _, rfl, allowed, rfl, rfl⟩
    exact ⟨a, by rwa [List.append_nil], rfl⟩
  · rintro ⟨a, allowed, rfl⟩
    exact ⟨a, code, [], (List.append_nil _).symm, allowed, rfl, rfl⟩

theorem guard {p : Prop} [Decidable p] {e : ε} (h : Parses bytes reader G) :
    Parses bytes (if p then MonadExcept.throw e else reader) fun a code => ¬p ∧ G a code := by
  by_cases refused : p
  · rw [if_pos refused]
    exact (Parses.throw e).congr fun _ _ => by simp [refused]
  · rw [if_neg refused]
    exact h.congr fun _ _ => by simp [refused]

theorem take (e : ε) (n : Nat) :
    Parses bytes (Reader.take bytes e n) fun found code => found.val = code where
  inside cursor start := by
    show Fallible.Ends _ _ (Reader.take bytes e n cursor)
    unfold Reader.take
    split <;> assumption
  accepts before rest is found cursor := by
    show Reader.take bytes e n _ = _ ↔ _
    subst is
    unfold Reader.take
    constructor
    · intro h
      split at h
      · cases h
        refine ⟨rest.take n, rest.drop n, (List.take_append_drop ..).symm, ?_, ?_⟩
        · exact congrArg (List.take n) List.drop_left
        · simp_all
      · cases h
    · rintro ⟨_, after, rfl, rfl, rfl⟩
      obtain ⟨code, rfl⟩ := found
      simp

/-- A loop that reads an item a turn into what it has so far. -/
theorem foldlM {items : List α} {f : β → α → Reader ε β} {put : β → ι → β}
    {E : ι → List UInt8 → Prop} (turn : ∀ acc item,
      Parses bytes (f acc item) fun acc' code => ∃ entry, E entry code ∧ acc' = put acc entry)
    (acc : β) :
    Parses bytes (items.foldlM f acc) fun acc' code =>
      ∃ entries, entries.length = items.length ∧ acc' = entries.foldl put acc ∧
        Each E entries code := by
  induction items generalizing acc with
  | nil => exact (Parses.pure acc).congr fun _ _ => by simp [Each]
  | cons item items ih =>
    rw [List.foldlM_cons]
    refine ((turn acc item).bind ih).congr fun acc' code => ?_
    constructor
    · rintro ⟨_, front, back, rfl, ⟨entry, allowed, rfl⟩, entries, length, rfl, codes⟩
      exact ⟨entry :: entries, congrArg (· + 1) length, rfl, _, _, rfl, allowed, codes⟩
    · rintro ⟨_ | ⟨entry, entries⟩, length, rfl, codes⟩
      · cases length
      · obtain ⟨_, _, rfl, allowed, codes⟩ := codes
        exact ⟨_, _, _, rfl, ⟨_, allowed, rfl⟩, _, Nat.succ.inj length, rfl, codes⟩

end Parses

end Gateway.Data
